import Skirmish.Proofs.Ending
import Skirmish.Proofs.Stretches

/-!
# Cooldowns

Playing an action sets its cooldown for the actor that plays it, and every boundary takes one turn
from it, whoever passes it and whatever else happens. `Elapses` says so of two battles: as many
turns are gone from a cooldown as boundaries were counted. Every call that does not play the action
lets it elapse so (`Answers.elapses`), hence every stretch in which the action is not played again,
and until it is over the action is refused with the turns that are left (`cooldown_law`).
-/

namespace Skirmish

namespace Battle

/-! ## The table of cooldowns -/

theorem getD_get?_shortenRow (row : Table Nat) (a : String) :
    ((shortenRow row).get? a).getD 0 = (row.get? a).getD 0 - 1 := by
  rw [shortenRow, Table.get?_filter, Table.get?_mapValues]
  cases row.get? a with
  | none => rfl
  | some n =>
    rw [Option.map_some, Option.filter_some]
    split
    · rfl
    · next h =>
      simp only [decide_eq_true_eq, Nat.not_lt, Nat.le_zero] at h
      exact h.symm

/-- A row that is left empty may be dropped: nothing is found in it anyway. -/
theorem getD_bind_filter (row? : Option (Table Nat)) (a : String) :
    ((row?.filter fun row => !row.isEmpty).bind (·.get? a)).getD 0 =
      (row?.bind (·.get? a)).getD 0 := by
  cases row? with
  | none => rfl
  | some row =>
    rw [Option.filter_some]
    split
    · rfl
    · next h =>
      rw [Bool.not_eq_true', Bool.not_eq_false] at h
      rw [Option.bind_some, Table.get?_of_isEmpty h]
      rfl

theorem cooldown_shortenCooldowns (b : Battle) (x : ActorId) (a : String) :
    b.shortenCooldowns.cooldown x a = b.cooldown x a - 1 := by
  unfold cooldown shortenCooldowns
  rw [Table.get?_filter, Table.get?_mapValues, getD_bind_filter]
  cases b.cooldowns.get? x with
  | none => rfl
  | some row => exact getD_get?_shortenRow row a

theorem cooldown_beginCooldown_self (b : Battle) (id : ActorId) {act : Action}
    (hpos : 0 < act.cooldown) : (b.beginCooldown id act).cooldown id act.id = act.cooldown := by
  unfold beginCooldown
  rw [if_neg (by omega)]
  simp [cooldown]

theorem cooldown_beginCooldown_of_ne (b : Battle) {id x : ActorId} {act : Action} {a : String}
    (hne : ¬(id = x ∧ act.id = a)) : (b.beginCooldown id act).cooldown x a = b.cooldown x a := by
  unfold beginCooldown
  split
  · rfl
  · unfold cooldown
    dsimp only
    rw [Table.get?_insert]
    split
    · next hx =>
      subst hx
      have ha : a ≠ act.id := fun ha => hne ⟨rfl, ha.symm⟩
      rw [Option.bind_some, Table.get?_insert_of_ne ha]
      cases b.cooldowns.get? x <;> rfl
    · rfl

theorem cooldowns_pay (b : Battle) (id : ActorId) (act : Action) :
    (b.pay id act).cooldowns = (b.beginCooldown id act).cooldowns := by
  unfold pay
  obtain ⟨inventory, hitem⟩ :=
    (((b.payCosts id act.costs).beginCooldown id act).spendCharge id act).spendItem_eq act
  obtain ⟨charges, hcharge⟩ :=
    ((b.payCosts id act.costs).beginCooldown id act).spendCharge_eq id act
  rw [hitem, hcharge]
  unfold beginCooldown
  split <;> rfl

theorem cooldown_eq_of_cooldowns {b b' : Battle} (h : b'.cooldowns = b.cooldowns) (x : ActorId)
    (a : String) : b'.cooldown x a = b.cooldown x a := by
  rw [cooldown, cooldown, h]

/-! ## Elapsing -/

/-- As many turns are gone from a cooldown as boundaries were counted. -/
def Elapses (x : ActorId) (a : String) (b b' : Battle) : Prop :=
  ∃ n, b'.boundaries = b.boundaries + n ∧ b'.cooldown x a = b.cooldown x a - n

namespace Elapses

variable {x : ActorId} {a : String} {b b' b'' : Battle}

theorem of_same (hb : b'.boundaries = b.boundaries) (hc : b'.cooldown x a = b.cooldown x a) :
    b.Elapses x a b' :=
  ⟨0, hb, hc⟩

theorem refl (b : Battle) : b.Elapses x a b := of_same rfl rfl

theorem trans (h : b.Elapses x a b') (h' : b'.Elapses x a b'') : b.Elapses x a b'' := by
  obtain ⟨m, hm, hcm⟩ := h
  obtain ⟨n, hn, hcn⟩ := h'
  exact ⟨m + n, by omega, by omega⟩

end Elapses

theorem elapses_of_changes {x : ActorId} {a : String} {b b' : Battle} {rules : Rules}
    {content : Effect → Prop} (h : Changes rules content b b') : b.Elapses x a b' :=
  .of_same h.sameTurn.boundaries (cooldown_eq_of_cooldowns h.sameTurn.cooldowns x a)

theorem cooldowns_judge (b : Battle) : b.judge.2.cooldowns = b.cooldowns := by
  obtain ⟨ended, actors, lines, heq⟩ := b.judge_eq
  rw [heq]

theorem elapses_judge (b : Battle) (x : ActorId) (a : String) : b.Elapses x a b.judge.2 :=
  .of_same b.boundaries_judge (cooldown_eq_of_cooldowns b.cooldowns_judge x a)

theorem elapses_passOn (b : Battle) (x : ActorId) (a : String) : b.Elapses x a b.passOn := by
  obtain ⟨round, current, ended, actors, log, heq⟩ := b.passOn_eq
  rw [heq]
  exact .of_same rfl rfl

/-- A boundary takes one turn from every cooldown. -/
theorem elapses_countBoundary (b : Battle) (id x : ActorId) (a : String) :
    b.Elapses x a (b.countBoundary id) := by
  refine ⟨1, b.boundaries_countBoundary id, ?_⟩
  obtain ⟨prevented, taunts, heq⟩ := b.countBoundary_eq id
  rw [heq]
  exact b.cooldown_shortenCooldowns x a

/-- Paying for another action, or for another actor, leaves a cooldown alone. -/
theorem elapses_pay (b : Battle) {id x : ActorId} {act : Action} {a : String}
    (hne : ¬(id = x ∧ act.id = a)) : b.Elapses x a (b.pay id act) := by
  refine .of_same (b.boundaries_pay id act) ?_
  rw [cooldown_eq_of_cooldowns (b.cooldowns_pay id act), b.cooldown_beginCooldown_of_ne hne]

/-! ## Calls -/

/-- A call by which an actor plays an action of an id, not one that is refused. -/
def Plays (b : Battle) (q : Request) (x : ActorId) (a : String) : Prop :=
  ∃ act named b' report, q.call = .play act x named ∧ act.id = a ∧
    b.perform? q.rules act x named = some (b', .ok report)

/-- Whatever does not play the action lets its cooldown elapse. -/
theorem elapses_after? {b b' : Battle} {q : Request} (h : b.after? q = some b') {x : ActorId}
    {a : String} (hnot : ¬b.Plays q x a) : b.Elapses x a b' := by
  obtain ⟨rules, call⟩ := q
  cases answers_of_after? (Request.within_true _) h with
  | refused => exact .of_same rfl rfl
  | @played act id named _ report b₁ b₂ _ haimed hresolved hplay =>
    have hne : ¬(id = x ∧ act.id = a) := by
      rintro ⟨rfl, ha⟩
      exact hnot ⟨act, named, _, report, rfl, ha, hplay⟩
    have hsearched : Changes rules (fun _ => True) b b₁ := changes_of_resolveTargets haimed
    exact (((elapses_of_changes hsearched).trans (b₁.elapses_pay hne)).trans
      (elapses_of_changes hresolved)).trans (b₂.elapses_judge x a)
  | @passed id b₁ _ hticked =>
    exact ((elapses_of_changes hticked).trans (b₁.elapses_countBoundary id x a)).trans
      (elapses_passOn _ x a)
  | idle => exact .refl b
  | judged => exact b.elapses_judge x a
  | resolved _ h => exact elapses_of_changes h

theorem Stretch.elapses {x : ActorId} {a : String} {b b' : Battle}
    (h : b.Stretch (fun c q _ => ¬c.Plays q x a) b') : b.Elapses x a b' :=
  h.induction (fun _ _ _ hc hq hnot => hc.trans (elapses_after? hq hnot)) (.refl b)

/-- Of the cooldowns, playing an action begins its own one and nothing else. -/
theorem cooldowns_of_played {b b' : Battle} {rules : Rules} {act : Action} {x : ActorId}
    {named : List ActorId} {report : Report}
    (h : b.perform? rules act x named = some (b', .ok report)) :
    b'.cooldowns = (b.beginCooldown x act).cooldowns := by
  obtain ⟨_, hr, -⟩ | ⟨_, targets, b₁, -, -, haimed, -, hout⟩ := perform?_cases h
  · cases hr
  · obtain ⟨b₂, hresolved, -, rfl⟩ := carryOut?_eq_some hout
    have hsearched : Changes rules (fun _ => True) b b₁ := changes_of_resolveTargets haimed
    calc ((b₂.announce _).judge.2).cooldowns
      _ = b₂.cooldowns := cooldowns_judge _
      _ = (b₁.pay x act).cooldowns := hresolved.sameTurn.cooldowns
      _ = (b₁.beginCooldown x act).cooldowns := b₁.cooldowns_pay x act
      _ = (b.beginCooldown x act).cooldowns := by
        unfold beginCooldown
        rw [hsearched.sameTurn.cooldowns]
        split
        · exact hsearched.sameTurn.cooldowns
        · rfl

/-- An action that is played is on its full cooldown, if it has one. -/
theorem cooldown_of_played {b b' : Battle} {rules : Rules} {act : Action} {x : ActorId}
    {named : List ActorId} {report : Report}
    (h : b.perform? rules act x named = some (b', .ok report)) (hpos : 0 < act.cooldown) :
    b'.cooldown x act.id = act.cooldown :=
  (cooldown_eq_of_cooldowns (cooldowns_of_played h) x act.id).trans
    (b.cooldown_beginCooldown_self x hpos)

/-- Every turn that is passed in a battle that goes on counts one boundary. -/
theorem boundaries_endTurn? {b b' : Battle} {rules : Rules} (hb : b.Rostered)
    (hgoing : b.ended = none) (h : b.endTurn? rules = some b') :
    b'.boundaries = b.boundaries + 1 := by
  obtain ⟨id, hid⟩ := exists_currentActor? hb.current
  obtain ⟨b₁, hticked, rfl, -⟩ := endTurn?_eq_some (actingActor?_eq_some_iff.2 ⟨hgoing, hid⟩) h
  rw [boundaries_passOn, boundaries_countBoundary, (changes_ticked? hticked).sameTurn.boundaries]

/-! ## Refusals -/

/-- Once the earlier checks are passed, what the battle keeps of earlier uses decides. -/
theorem validate_of_checked {b : Battle} {act : Action} {x : ActorId} {a : Actor}
    (ha : b.checkActor x = .ok a) (huse : Filter.permits act.canUse a = true)
    (hcosts : checkCosts a act = .ok ()) : b.validate act x = b.checkStores x act := by
  unfold validate
  rw [ha]
  change (if (!Filter.permits act.canUse a) = true then _ else _) = _
  rw [huse, hcosts]
  rfl

/-- An action on cooldown that passes the earlier checks is refused with the turns that are left. -/
theorem perform?_of_cooldown {b : Battle} {act : Action} {x : ActorId} {a : Actor}
    (ha : b.checkActor x = .ok a) (huse : Filter.permits act.canUse a = true)
    (hcosts : checkCosts a act = .ok ()) (hpos : 0 < b.cooldown x act.id) (rules : Rules)
    (named : List ActorId) :
    b.perform? rules act x named =
      some (b.refuse (.onCooldown act.name (b.cooldown x act.id))) := by
  have hrefused : b.validate act x = .error (.onCooldown act.name (b.cooldown x act.id)) := by
    rw [validate_of_checked ha huse hcosts, checkStores, if_pos hpos]
    rfl
  rw [perform?, hrefused]

/-- Only what is on cooldown is refused for it. -/
theorem not_onCooldown_of_elapsed {b b' : Battle} {rules : Rules} {act : Action} {x : ActorId}
    {named : List ActorId} {r : Refusal}
    (h : b.perform? rules act x named = some (b', .error r)) (hzero : b.cooldown x act.id = 0)
    (name : String) (turns : Nat) : r ≠ .onCooldown name turns := by
  rintro rfl
  cases grounds_of_refused h with
  | onCooldown hpos => omega

/-- **From the play of an action on, as many turns of its cooldown are gone as boundaries were
counted, whatever happens until it is played again. As long as turns are left, it is refused with
just these once the earlier checks are passed, and then not for its cooldown any more. While the
battle goes on, every turn can be passed, unless something cannot be computed, and counts one
boundary.** -/
theorem cooldown_law {b b₁ b₂ : Battle} (hb : b.Rostered) {rules : Rules} {act : Action}
    {x : ActorId} {named : List ActorId} {report : Report}
    (hplayed : b.perform? rules act x named = some (b₁, .ok report)) (hpos : 0 < act.cooldown)
    (hrun : b₁.Stretch (fun c q _ => ¬c.Plays q x act.id) b₂) :
    b₁.boundaries ≤ b₂.boundaries ∧
      b₂.cooldown x act.id =
        act.cooldown - min act.cooldown (b₂.boundaries - b₁.boundaries) ∧
      (∀ act' a, act'.id = act.id → b₂.checkActor x = .ok a →
        Filter.permits act'.canUse a = true → checkCosts a act' = .ok () →
        b₂.boundaries - b₁.boundaries < act.cooldown → ∀ rules' named',
          b₂.perform? rules' act' x named' = some (b₂.refuse
            (.onCooldown act'.name (act.cooldown - (b₂.boundaries - b₁.boundaries))))) ∧
      (∀ act', act'.id = act.id → act.cooldown ≤ b₂.boundaries - b₁.boundaries →
        ∀ rules' named' b' r, b₂.perform? rules' act' x named' = some (b', .error r) →
          ∀ name turns, r ≠ .onCooldown name turns) ∧
      (b₂.ended = none → ∀ rules', (∃ b₃, b₂.endTurn? rules' = some b₃ ∧
        b₃.boundaries = b₂.boundaries + 1) ∨ b₂.BreaksOff ⟨rules', .pass⟩) := by
  have hset := cooldown_of_played hplayed hpos
  obtain ⟨n, hn, hgone⟩ := hrun.elapses
  rw [hset] at hgone
  have hleft : b₂.cooldown x act.id = act.cooldown - (b₂.boundaries - b₁.boundaries) := by omega
  refine ⟨by omega, by omega, ?_, ?_, ?_⟩
  · intro act' a hid ha huse hcosts hbefore rules' named'
    rw [← hid] at hleft
    rw [← hleft]
    exact perform?_of_cooldown ha huse hcosts (by omega) rules' named'
  · intro act' hid hafter rules' named' b' r hrefused
    rw [← hid] at hleft
    exact not_onCooldown_of_elapsed hrefused (by omega)
  · intro hgoing rules'
    have hcall : b.after? ⟨rules, .play act x named⟩ = some b₁ := by
      show (b.perform? rules act x named).map (·.1) = some b₁
      rw [hplayed, Option.map_some]
    have hb₂ : b₂.Rostered := hrun.rostered (hb.after_call hcall)
    refine (b₂.endTurn?_returns rules').imp_left fun ⟨b₃, hpassed⟩ => ?_
    exact ⟨b₃, hpassed, boundaries_endTurn? hb₂ hgoing hpassed⟩

/-- A blow that cannot be struck again at once. -/
def heavyBlow : Action :=
  { Action.skill "blow" "Heavy blow" with effects := [.trueDamage 1], cooldown := 3 }

/-- When both have passed after a heavy blow, it is refused with one turn left. -/
theorem heavy_blow_takes_time :
    ∃ b₁ b₂ report, duel.perform? {} heavyBlow "hero" [] = some (b₁, .ok report) ∧
      b₁.run? [⟨{}, .pass⟩, ⟨{}, .pass⟩] = some b₂ ∧ b₂.cooldown "hero" "blow" = 1 ∧
      b₂.perform? {} heavyBlow "hero" [] = some (b₂.refuse (.onCooldown "Heavy blow" 1)) := by
  have hstruck : (duel.perform? {} heavyBlow "hero" []).map
      (fun r => (r.1.boundaries, r.2.isOk)) = some (0, true) := by
    decide +kernel
  obtain ⟨⟨b₁, out⟩, hplayed, heq⟩ := Option.map_eq_some_iff.1 hstruck
  obtain ⟨hbefore, hok⟩ := Prod.mk.inj heq
  cases out with
  | error r => cases hok
  | ok report =>
    have hboth : ((duel.perform? {} heavyBlow "hero" []).bind fun r =>
        (r.1.run? [⟨{}, .pass⟩, ⟨{}, .pass⟩]).map fun b => (b.boundaries,
          (b.checkActor "hero").toOption.map fun a =>
            (Filter.permits heavyBlow.canUse a, (checkCosts a heavyBlow).isOk))) =
          some (2, some (true, true)) := by
      decide +kernel
    rw [hplayed, Option.bind_some] at hboth
    obtain ⟨b₂, hrun, heq⟩ := Option.map_eq_some_iff.1 hboth
    obtain ⟨hafter, hchecked⟩ := Prod.mk.inj heq
    have hstretch : b₁.Stretch (fun c q _ => ¬c.Plays q "hero" heavyBlow.id) b₂ := by
      refine stretch_of_run? (fun q hq c c' hplays => ?_) hrun
      obtain ⟨act, named, _, _, hcall, -⟩ := hplays
      simp only [List.mem_cons, List.not_mem_nil, or_false, or_self] at hq
      subst hq
      cases hcall
    obtain ⟨-, hcooldown, hrefused, -⟩ :=
      cooldown_law rostered_duel hplayed (by decide) hstretch
    rw [hafter, show b₁.boundaries = 0 from hbefore] at hcooldown hrefused
    refine ⟨b₁, b₂, report, hplayed, hrun, hcooldown, ?_⟩
    cases ha : b₂.checkActor "hero" with
    | error r =>
      rw [ha] at hchecked
      cases hchecked
    | ok a =>
      rw [ha] at hchecked
      obtain ⟨huse, hcosts⟩ := Prod.mk.inj (Option.some.inj hchecked)
      cases hpaid : checkCosts a heavyBlow with
      | error r =>
        rw [hpaid] at hcosts
        cases hcosts
      | ok _ => exact hrefused heavyBlow a rfl ha huse hpaid (by decide) {} []

end Battle

end Skirmish
