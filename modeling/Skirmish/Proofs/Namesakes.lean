import Skirmish.Proofs.Cooldowns
import Skirmish.Proofs.Spending

/-!
# Actions of one id

Skills and items stand in tables of their own, so a skill may bear the id of an item. What a battle
keeps of earlier uses it keeps for each actor under the id of the action, whichever kind that is of:
playing an action begins one cooldown and spends from one count of charges, those of its id, and all
else that a check reads of earlier uses stays as it was. So two actions of one id wait together and
use up each other's charges (`uses_kept_by_id`), while actions of other ids never do.
-/

namespace Skirmish

namespace Battle

variable {rules : Rules} {b b' : Battle} {used : Action} {id : ActorId} {named : List ActorId}
  {report : Report}

/-! ## What a play leaves of earlier uses -/

/-- Of the charges, playing an action spends one of its own and nothing else. -/
theorem charges_of_played (h : b.perform? rules used id named = some (b', .ok report)) :
    b'.charges = (b.spendCharge id used).charges := by
  have hcall : b.after? ⟨rules, .play used id named⟩ = some b' := by
    show (b.perform? rules used id named).map (·.1) = some b'
    rw [h, Option.map_some]
  have hplayed : b.played? ⟨rules, .play used id named⟩ = some (id, used) := by
    simp only [played?, h]
  rw [charges_after? hcall, hplayed, Option.elim_some]

theorem chargesOf?_eq_of_charges (h : b'.charges = b.charges) (q : ActorId) (a : String) :
    b'.chargesOf? q a = b.chargesOf? q a := by
  rw [chargesOf?, chargesOf?, h]

theorem usesLeft?_congr {q : ActorId} {act : Action}
    (h : b'.chargesOf? q act.id = b.chargesOf? q act.id) :
    b'.usesLeft? q act = b.usesLeft? q act := by
  rw [usesLeft?, usesLeft?, h]

/-- Who plays an action is not waiting for it. -/
theorem cooldown_before_play (h : b.perform? rules used id named = some (b', .ok report)) :
    b.cooldown id used.id = 0 := by
  obtain ⟨_, hr, -⟩ | ⟨_, _, _, -, hvalid, -⟩ := perform?_cases h
  · cases hr
  · obtain ⟨_, -, h⟩ := bind_eq_ok_iff.1 hvalid
    obtain ⟨-, h⟩ := check_eq_ok_iff.1 h
    obtain ⟨-, -, h⟩ := bind_eq_ok_iff.1 h
    exact Nat.eq_zero_of_not_pos (check_eq_ok_iff.1 h).1

/-- An action that is played waits as long as it says, be it not at all. -/
theorem cooldown_after_play (h : b.perform? rules used id named = some (b', .ok report)) :
    b'.cooldown id used.id = used.cooldown := by
  by_cases hpos : 0 < used.cooldown
  · exact cooldown_of_played h hpos
  · have hnone : used.cooldown = 0 := Nat.eq_zero_of_not_pos hpos
    have hkept := cooldowns_of_played h
    rw [beginCooldown, if_pos hnone] at hkept
    rw [cooldown_eq_of_cooldowns hkept, cooldown_before_play h, hnone]

/-- A cooldown that a play does not begin stays as it was. -/
theorem cooldown_kept (h : b.perform? rules used id named = some (b', .ok report)) {q : ActorId}
    {a : String} (hother : ¬(id = q ∧ used.id = a) ∨ used.cooldown = 0) :
    b'.cooldown q a = b.cooldown q a := by
  rw [cooldown_eq_of_cooldowns (cooldowns_of_played h)]
  rcases hother with hne | hnone
  · exact b.cooldown_beginCooldown_of_ne hne
  · rw [beginCooldown, if_pos hnone]

/-- Charges that a play does not spend stay as they were. -/
theorem chargesOf?_kept (h : b.perform? rules used id named = some (b', .ok report)) {q : ActorId}
    {a : String} (hother : ¬(id = q ∧ used.id = a) ∨ used.charges = none) :
    b'.chargesOf? q a = b.chargesOf? q a := by
  rw [chargesOf?_eq_of_charges (charges_of_played h)]
  rcases hother with hne | hnone
  · exact b.chargesOf?_spendCharge_of_ne hne
  · rw [spendCharge, hnone]

/-- One of the uses that an actor had left is gone, for every action of the id that is limited. -/
theorem usesLeft?_of_namesake (h : b.perform? rules used id named = some (b', .ok report))
    {other : Action} (hid : other.id = used.id) {n : Nat} (hn : b.usesLeft? id used = some n) :
    b'.usesLeft? id other = other.charges.map fun _ => n - 1 := by
  obtain ⟨m, hm, hleft⟩ := Option.map_eq_some_iff.1 hn
  have hspent : b'.chargesOf? id used.id = _ :=
    (chargesOf?_eq_of_charges (charges_of_played h) id used.id).trans
      (b.chargesOf?_spendCharge_self id hm)
  have hremaining : ((b.chargesOf? id used.id).getD ⟨m, m⟩).remaining = n := by
    rw [← hleft]
    cases b.chargesOf? id used.id <;> rfl
  rw [usesLeft?, hid, hspent, hremaining]
  rfl

/-- **Earlier uses are kept by the id of the action.** When an actor plays an action, be it a skill
or an item, all other actions, those of another id and those of other actors, wait as long and have
as many uses left as before, and so do those of its id where it has no cooldown and is not limited.
An action of its id waits from then on as long as the one that was played says, and has one use left
less than that one had. -/
theorem uses_kept_by_id (h : b.perform? rules used id named = some (b', .ok report))
    (other : Action) :
    (∀ q, ¬(id = q ∧ used.id = other.id) ∨ used.cooldown = 0 →
      b'.cooldown q other.id = b.cooldown q other.id) ∧
    (∀ q, ¬(id = q ∧ used.id = other.id) ∨ used.charges = none →
      b'.usesLeft? q other = b.usesLeft? q other) ∧
    (other.id = used.id → b'.cooldown id other.id = used.cooldown ∧
      ∀ n, b.usesLeft? id used = some n →
        b'.usesLeft? id other = other.charges.map fun _ => n - 1) := by
  refine ⟨fun q => cooldown_kept h, fun q hother => usesLeft?_congr (chargesOf?_kept h hother), ?_⟩
  intro hid
  refine ⟨?_, fun n => usesLeft?_of_namesake h hid⟩
  rw [hid]
  exact cooldown_after_play h

/-- A potion that works only once and then keeps its user waiting. -/
def strongPotion : Action :=
  { Action.item "potion" "Potion" with cooldown := 2, charges := some 1 }

/-- A skill under the id of the potion, for three uses. -/
def brewing : Action :=
  { Action.skill "potion" "Brewing" with targeting := .user, charges := some 3 }

/-- A skill under another id, for three uses. -/
def resting : Action := { Action.skill "rest" "Resting" with targeting := .user, charges := some 3 }

/-- After the potion the hero can rest as before, but not brew. -/
theorem rest_after_potion :
    ∃ b' report, potionDuel.perform? {} strongPotion "hero" [] = some (b', .ok report) ∧
      b'.cooldown "hero" "rest" = 0 ∧ b'.usesLeft? "hero" resting = some 3 ∧
      b'.cooldown "hero" "potion" = 2 ∧ b'.usesLeft? "hero" brewing = some 0 := by
  have hplay : (potionDuel.perform? {} strongPotion "hero" []).map (·.2.isOk) = some true := by
    decide +kernel
  obtain ⟨⟨b', out⟩, hdrunk, hok⟩ := Option.map_eq_some_iff.1 hplay
  cases out with
  | error r => cases hok
  | ok report =>
    obtain ⟨hwait, huses, -⟩ := uses_kept_by_id hdrunk resting
    obtain ⟨-, -, hnamesake⟩ := uses_kept_by_id hdrunk brewing
    obtain ⟨hwaits, hspent⟩ := hnamesake rfl
    have hother : ¬("hero" = "hero" ∧ strongPotion.id = resting.id) := by decide
    refine ⟨b', report, hdrunk, ?_, ?_, hwaits, hspent 1 rfl⟩
    · exact hwait "hero" (.inl hother)
    · exact huses "hero" (.inl hother)

/-- Potion and brewing are both registered, and in a battle that has just begun the potion, which
has no effects, takes the turns and the uses of the brewing. -/
theorem namesakes_wait_together :
    ∃ codex b' report, (({} : Codex).addItem strongPotion).bind (·.addSkill brewing) = .ok codex ∧
      codex.item? "potion" = some strongPotion ∧ codex.skill? "potion" = some brewing ∧
      strongPotion.effects = [] ∧ potionDuel.Fresh ∧
      potionDuel.perform? { codex := codex } strongPotion "hero" [] = some (b', .ok report) ∧
      potionDuel.cooldown "hero" brewing.id = 0 ∧ b'.cooldown "hero" brewing.id = 2 ∧
      potionDuel.usesLeft? "hero" brewing = some 3 ∧ b'.usesLeft? "hero" brewing = some 0 ∧
      potionDuel.validate brewing "hero" = .ok () ∧
      b'.validate brewing "hero" = .error (.onCooldown "Brewing" 2) := by
  let codex : Codex :=
    { items := Table.empty.insert "potion" strongPotion
      skills := Table.empty.insert "potion" brewing }
  have hplay : (potionDuel.perform? { codex := codex } strongPotion "hero" []).map
      (fun r => (r.2.isOk, r.1.cooldown "hero" brewing.id, r.1.usesLeft? "hero" brewing,
        r.1.validate brewing "hero")) =
      some (true, 2, some 0, .error (.onCooldown "Brewing" 2)) := by
    decide +kernel
  obtain ⟨⟨b', out⟩, hdrunk, heq⟩ := Option.map_eq_some_iff.1 hplay
  obtain ⟨hok, hwaits, hspent, hrefused⟩ : _ ∧ _ ∧ _ ∧ _ := by simpa using heq
  cases out with
  | error r => cases hok
  | ok report =>
    have hfresh : potionDuel.Fresh := ⟨⟨7⟩, [hero], [slime], duel, _, rfl, rfl⟩
    exact ⟨codex, b', report, rfl, rfl, rfl, rfl, hfresh, hdrunk, rfl, hwaits, rfl, hspent,
      by decide +kernel, hrefused⟩

end Battle

end Skirmish
