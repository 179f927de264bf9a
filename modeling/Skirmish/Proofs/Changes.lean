import Skirmish.Proofs.Cast
import Skirmish.Proofs.Events
import Skirmish.Proofs.Search

/-!
# What a deed changes

The deeds of resolution are many, but they are all made of a few things that happen to a battle at
once. `Change` lists these: a line is added to the log, a number is drawn, a taunt that does not
bind is dropped, an actor undergoes something or is brought back, shields are replaced, someone is
taunted or loses a turn, the inventory changes, someone flees and someone joins. Where only effects
of one kind can do it, such an effect comes with the change.

Every deed is a number of changes in a row (`Deed.changes`), so what each change keeps, resolution
keeps.
-/

namespace Skirmish

open Relation (ReflTransGen)

/-- What resolution does to a battle at once, by effects that are among some effects. -/
inductive Change (rules : Rules) (content : Effect → Prop) (b : Battle) : Battle → Prop
  /-- Some lines are added to the log. -/
  | said (lines : List String) : Change rules content b { b with log := b.log ++ lines }
  /-- A number is drawn. -/
  | drew : Change rules content b { b with seed := b.seed.step.1 }
  /-- A taunt that does not bind is dropped. -/
  | freed (id : ActorId) (h : b.forcedTarget? id = none) : Change rules content b (b.dropTaunt id)
  /-- An actor undergoes something. -/
  | undergone (id : ActorId) (f : Actor → Actor)
      (hf : ∀ a, b.actor? id = some a → a.Undergoes (f a)) :
      Change rules content b (b.modifyActor id f)
  /-- The shields of an actor are replaced. -/
  | shielded (id : ActorId) (ss : List Shield) : Change rules content b (b.withShields id ss)
  /-- An actor that is down is brought back. -/
  | revived (e : Effect) (hc : content e) (hk : e.kind = .revive) (id : ActorId) (n : Int)
      (hd : b.isAlive id = false) (hn : 1 ≤ n)
      (hmax : ∀ a, b.actor? id = some a → n ≤ a.stats.maxHp) :
      Change rules content b
        (b.modifyActor id fun a => { a with alive := true, stats := a.stats.set .hp n })
  /-- An actor is taunted. -/
  | taunted (e : Effect) (hc : content e) (hk : e.kind = .taunt) (user id : ActorId)
      (hr : b.isReached e id = true) :
      Change rules content b
        { b with taunts := b.taunts.insert id ⟨user, e.statusTurns.getD 1⟩ }
  /-- An actor loses its next turn. -/
  | prevented (e : Effect) (hc : content e) (hk : e.kind = .preventAction) (id : ActorId)
      (hr : b.isReached e id = true) :
      Change rules content b { b with prevented := b.prevented.insert id b.boundaries }
  /-- Units of an item are added or taken away. -/
  | stocked (e : Effect) (hc : content e) (hk : e.kind = .giveItem ∨ e.kind = .removeItem)
      (item : String) (hi : e.itemId = some item) (n : Nat) :
      Change rules content b (b.withItem item n)
  /-- Someone flees while the battle goes on. -/
  | fled (e : Effect) (hc : content e) (hk : e.kind = .flee) (hb : b.ended = none) :
      Change rules content b (b.finish .fled)
  /-- A summoned actor joins a side, under a number that is new and an id that is free. -/
  | joined (side : Side) (template : String) (level n : Nat) (a : Actor)
      (hlevel : level ≤ greatestCount) (ha : rules.codex.spawn? template level = some a)
      (hn : b.spawned < n) (hmax : n ≤ greatestCount)
      (hfree : b.actors.contains (Battle.summonId template n) = false) :
      Change rules content b
        ({ b with spawned := n }.enter side { a with id := Battle.summonId template n })

/-- Any number of changes in a row. -/
abbrev Changes (rules : Rules) (content : Effect → Prop) : Battle → Battle → Prop :=
  ReflTransGen (Change rules content)

namespace Battle

variable {rules : Rules} {content : Effect → Prop}

theorem changes_announce (b : Battle) (line : String) :
    Changes rules content b (b.announce line) :=
  .single (.said [line])

theorem changes_foldl {α : Type} {f : Battle → α → Battle}
    (hf : ∀ b x, Changes rules content b (f b x)) (xs : List α) (b : Battle) :
    Changes rules content b (xs.foldl f b) := by
  induction xs generalizing b with
  | nil => exact .refl
  | cons x xs ih => exact (hf b x).trans (ih _)

/-! ## Draws -/

theorem changes_advance (b : Battle) (m : Nat) :
    Changes rules content b { b with seed := b.seed.advance m } := by
  induction m generalizing b with
  | zero => exact .refl
  | succ m ih =>
    rw [Seed.advance_succ]
    exact .head .drew (ih { b with seed := b.seed.step.1 })

theorem changes_resolveTargets (b : Battle) (s : Selector) (acting : ActorId)
    (named : List ActorId) : Changes rules content b (b.resolveTargets s acting named).2 := by
  obtain ⟨m, taunts, hb, rfl | ⟨hfree, rfl⟩⟩ := b.resolveTargets_battle s acting named
  · rw [hb]
    exact b.changes_advance m
  · rw [hb]
    exact .head (.freed acting hfree) ((b.dropTaunt acting).changes_advance m)

/-! ## Fainting -/

/-- Fainting where an actor is down changes that actor, and a line may say so. -/
theorem faintIfDown_eq (b : Battle) (id : ActorId) :
    ∃ lines, b.faintIfDown id =
      { b.modifyActor id Actor.collapse with log := b.log ++ lines } := by
  unfold faintIfDown
  cases ha : b.actor? id with
  | none => exact ⟨[], by simp only [modifyActor, Table.modify_of_get?_none ha, List.append_nil]⟩
  | some a =>
    dsimp only
    split
    · next hdown =>
      have hc : a.collapse = a.faint := if_pos hdown
      exact ⟨[s!"{a.name} fainted!"], by
        simp only [announce, modifyActor, Table.modify_of_get? ha, hc]⟩
    · next hup =>
      have hc : a.collapse = a := if_neg hup
      exact ⟨[], by
        simp only [modifyActor, Table.modify_of_get? ha, hc, Table.insert_of_get? ha,
          List.append_nil]⟩

theorem changes_faintIfDown (b : Battle) (id : ActorId) :
    Changes rules content b (b.faintIfDown id) := by
  obtain ⟨lines, heq⟩ := b.faintIfDown_eq id
  rw [heq]
  exact .head (.undergone id Actor.collapse fun _ _ => .collapsed) (.single (.said lines))

/-- An actor changes, a line of the log says so, and the actor faints where that leaves it down. -/
theorem changes_collapse {b : Battle} {id : ActorId} {f : Actor → Actor} (line : String)
    (hf : ∀ a, b.actor? id = some a → a.Undergoes (f a).collapse) :
    Changes rules content b (((b.modifyActor id f).announce line).faintIfDown id) := by
  obtain ⟨lines, heq⟩ := ((b.modifyActor id f).announce line).faintIfDown_eq id
  have hboth : ((b.modifyActor id f).announce line).faintIfDown id =
      { b.modifyActor id fun a => (f a).collapse with log := b.log ++ ([line] ++ lines) } := by
    rw [heq]
    simp only [announce, modifyActor, Table.modify_modify, List.append_assoc]
  rw [hboth]
  exact .head (.undergone id _ hf) (.single (.said ([line] ++ lines)))

/-! ## Removing statuses -/

theorem changes_removeGranted (b : Battle) (codex : Codex) (id : ActorId) (status : String) :
    Changes rules content b (b.removeGranted codex id status) := by
  unfold removeGranted
  cases (codex.status? status).bind Status.shieldId? with
  | none => exact .refl
  | some shield => exact .single (.shielded id _)

theorem changes_afflictions (b : Battle) (id : ActorId) (f : Actor → List Affliction) :
    Changes rules content b (b.modifyActor id fun a => { a with afflictions := f a }) :=
  .single (.undergone id _ fun a _ => .afflictions (f a))

theorem changes_detach (b : Battle) (codex : Codex) (id : ActorId) (statuses : List String) :
    Changes rules content b (b.detach codex id statuses).2 :=
  (b.changes_afflictions id _).trans
    (changes_foldl (fun b st => b.changes_removeGranted codex id st) statuses _)

theorem changes_detachWhere (b : Battle) (codex : Codex) (id : ActorId)
    (p : Affliction → Bool) : Changes rules content b (b.detachWhere codex id p).2 := by
  unfold detachWhere
  split
  · exact .refl
  · exact b.changes_detach ..

theorem changes_cleanse (b : Battle) (codex : Codex) (id : ActorId)
    (tags : Option (List String)) : Changes rules content b (b.cleanse codex id tags).2 :=
  b.changes_detachWhere ..

theorem changes_dispel (b : Battle) (codex : Codex) (id : ActorId) (status : Option String) :
    Changes rules content b (b.dispel codex id status).2 :=
  b.changes_detachWhere ..

/-! ## Immediate effects -/

theorem changes_cleanseAloud (b : Battle) (codex : Codex) (id : ActorId)
    (tags : Option (List String)) :
    Changes rules content b (b.cleanseAloud codex id tags) := by
  have h : Changes rules content b (b.cleanse codex id tags).2 := b.changes_cleanse codex id tags
  unfold cleanseAloud
  split
  · next heq => rwa [heq] at h
  · next heq =>
    rw [heq] at h
    exact h.trans (changes_announce ..)

theorem changes_dispelAloud (b : Battle) (codex : Codex) (id : ActorId)
    (status : Option String) : Changes rules content b (b.dispelAloud codex id status) := by
  have h : Changes rules content b (b.dispel codex id status).2 := b.changes_dispel codex id status
  unfold dispelAloud
  split
  · next heq => rwa [heq] at h
  · next heq =>
    rw [heq] at h
    exact h.trans (changes_announce ..)

theorem alive_of_isAlive {b : Battle} {id : ActorId} {a : Actor} (h : b.isAlive id = true)
    (ha : b.actor? id = some a) : a.alive = true := by
  simpa [isAlive, ha] using h

theorem contains_of_isAlive {b : Battle} {id : ActorId} (h : b.isAlive id = true) :
    b.actors.contains id = true := by
  obtain ⟨a, ha, -⟩ := (Option.any_eq_true ..).1 h
  exact Table.contains_iff.2 ⟨a, ha⟩

theorem changes_heal {b : Battle} {id : ActorId} (ha : b.isAlive id = true) (r : Resource)
    {n : Int} (hn : 0 ≤ n) : Changes rules content b (b.heal id r n) :=
  .head (.undergone id _ fun _ h => .healed (alive_of_isAlive ha h) r n hn)
    (changes_announce ..)

theorem changes_changeResource {b : Battle} {id : ActorId} (ha : b.isAlive id = true)
    (r : Resource) (n : Int) : Changes rules content b (b.changeResource id r n) :=
  changes_collapse _ fun _ h => .swayed (alive_of_isAlive ha h) r n

theorem changes_modifyStat {b : Battle} {id : ActorId} (ha : b.isAlive id = true)
    (k : StatKind) (n : Int) : Changes rules content b (b.modifyStat id k n) :=
  changes_collapse _ fun _ h => .adjusted (alive_of_isAlive ha h) k n

theorem changes_revive {e : Effect} (hc : content e) (hk : e.kind = .revive) (b : Battle)
    (id : ActorId) (n : Int) : Changes rules content b (b.revive id n) := by
  unfold revive
  dsimp only
  split
  · exact .refl
  · next hdown =>
    simp only [Bool.or_eq_true, decide_eq_true_eq, not_or, Bool.not_eq_true, Int.not_le] at hdown
    obtain ⟨hd, hmax⟩ := hdown
    refine .head (.revived e hc hk id _ hd (by omega) fun a h => ?_) (changes_announce ..)
    simp only [h, Option.elim_some]
    omega

theorem isAlive_of_isReached {b : Battle} {e : Effect} {id : ActorId}
    (hr : b.isReached e id = true) (hk : e.kind ≠ .revive) : b.isAlive id = true := by
  unfold isReached at hr
  unfold isAlive
  cases ha : b.actor? id with
  | none => simp [ha] at hr
  | some a =>
    simp only [ha, Option.any_some, Bool.and_eq_true, Bool.or_eq_true, beq_iff_eq, hk,
      or_false] at hr ⊢
    exact hr.1

theorem changes_applyImmediate {b : Battle} {e : Effect} {id : ActorId} (hc : content e)
    (o : Origin) (user : ActorId) (hr : b.isReached e id = true) :
    Changes rules content b (b.applyImmediate rules e o user id) := by
  have halive := isAlive_of_isReached hr
  unfold applyImmediate
  dsimp only
  split
  case h_1 hk => exact changes_heal (halive (by simp [hk])) _ (nearestAbove_nonneg _)
  case h_2 hk => exact changes_changeResource (halive (by simp [hk])) ..
  case h_3 => exact b.changes_cleanseAloud ..
  case h_4 => exact b.changes_dispelAloud ..
  case h_5 hk =>
    cases e.stat with
    | none => exact .refl
    | some k => exact changes_modifyStat (halive (by simp [hk])) ..
  case h_6 => exact .head (.shielded id _) (changes_announce ..)
  case h_7 hk => exact .head (.taunted e hc hk user id hr) (changes_announce ..)
  case h_8 hk => exact changes_revive hc hk ..
  case h_9 hk => exact .head (.prevented e hc hk id hr) (changes_announce ..)
  all_goals exact .refl

/-! ## Damage -/

theorem changes_wound {b : Battle} {id : ActorId} (ha : b.isAlive id = true)
    (element : Option String) (critical : Bool) (amount : Int) :
    Changes rules content b (b.wound id element critical amount) := by
  -- what the shields absorb and what is said of it leaves the actors as they are
  have hfaint : ∀ b' : Battle, Changes rules content b b' → b'.actors = b.actors → ∀ dealt line,
      Changes rules content b
        (((b'.addResource id .hp (-dealt)).announce line).faintIfDown id) := by
    intro b' hb' hact dealt line
    refine hb'.trans (changes_collapse line fun a h => ?_)
    rw [actor?, hact] at h
    exact .swayed (alive_of_isAlive ha h) .hp (-dealt)
  unfold wound absorb
  dsimp only
  split <;> split
  · exact hfaint _ (.head (.shielded id _) (changes_announce ..)) rfl _ _
  · exact hfaint _ (.single (.shielded id _)) rfl _ _
  · exact .head (.shielded id _) ((changes_announce ..).trans (changes_faintIfDown ..))
  · exact .head (.shielded id _) (changes_faintIfDown ..)

theorem number_seed (shared : Bool) (kept : Option Float) (seed : Seed) :
    ∃ m, (Rolls.number shared kept seed).2.2 = seed.advance m := by
  cases shared with
  | false => exact ⟨1, rfl⟩
  | true =>
    cases kept with
    | none => exact ⟨1, rfl⟩
    | some u => exact ⟨0, rfl⟩

theorem rollHit_seed (r : Rolls) (chance : Float) (seed : Seed) :
    ∃ m, (r.rollHit chance seed).2.2 = seed.advance m :=
  number_seed ..

theorem rollCrit_seed (r : Rolls) (chance : Float) (seed : Seed) :
    ∃ m, (r.rollCrit chance seed).2.2 = seed.advance m :=
  number_seed ..

/-- A roll that is only made under some condition moves the seed on, if at all. -/
theorem roll_seed {p : Prop} [Decidable p] {roll : Bool × Rolls × Seed} {seed : Seed}
    (h : ∃ m, roll.2.2 = seed.advance m) (outcome : Bool) (rolls : Rolls) :
    ∃ m, (if p then roll else (outcome, rolls, seed)).2.2 = seed.advance m := by
  split
  · exact h
  · exact ⟨0, rfl⟩

/-- A strike finds no one, misses or wounds its target, after some draws. -/
theorem strike_cases (b : Battle) (rules : Rules) (e : Effect) (o : Origin) (user id : ActorId)
    (rolls : Rolls) :
    (b.strike rules e o user id rolls).1 = b ∨
      (∃ m line, (b.strike rules e o user id rolls).1 =
        { b with seed := b.seed.advance m }.announce line) ∨
      ∃ m element critical amount, (b.strike rules e o user id rolls).1 =
        { b with seed := b.seed.advance m }.wound id element critical amount := by
  unfold strike
  split
  · next u t _ _ =>
    let attacker := rules.codex.effective u
    let defender := rules.codex.effective t
    have hhit := roll_seed (p := e.canMiss = true)
      (rollHit_seed rolls (rules.balance.hitChance attacker defender) b.seed) true rolls
    dsimp only [attacker, defender] at hhit ⊢
    generalize (if e.canMiss = true then _ else _ : Bool × Rolls × Seed) = roll at hhit ⊢
    obtain ⟨hit, rolls', _⟩ := roll
    obtain ⟨m, rfl⟩ := hhit
    dsimp only
    split
    · have hcrit := roll_seed (p := e.canCrit = true)
        (rollCrit_seed rolls' (rules.balance.critChance attacker defender) (b.seed.advance m)) false
        rolls'
      dsimp only [attacker, defender] at hcrit
      generalize (if e.canCrit = true then _ else _ : Bool × Rolls × Seed) = roll at hcrit ⊢
      obtain ⟨critical, rolls'', _⟩ := roll
      obtain ⟨n, rfl⟩ := hcrit
      rw [Seed.advance_advance]
      exact .inr (.inr ⟨m + n, _, _, _, rfl⟩)
    · exact .inr (.inl ⟨m, _, rfl⟩)
  · exact .inl rfl

theorem changes_strike {b : Battle} {e : Effect} {id : ActorId} (o : Origin) (user : ActorId)
    (rolls : Rolls) (ha : b.isAlive id = true) :
    Changes rules content b (b.strike rules e o user id rolls).1 := by
  rcases b.strike_cases rules e o user id rolls with h | ⟨m, line, h⟩ | ⟨m, _, _, _, h⟩
  · rw [h]
  · rw [h]
    exact (b.changes_advance m).trans (changes_announce ..)
  · rw [h]
    have ha' : ({ b with seed := b.seed.advance m } : Battle).isAlive id = true := ha
    exact (b.changes_advance m).trans (changes_wound ha' ..)

/-! ## Applying statuses -/

theorem changes_setShield (b : Battle) (id : ActorId) (shield : String) (element : Option String)
    (amount : Int) : Changes rules content b (b.setShield id shield element amount) := by
  unfold setShield
  dsimp only
  split
  · exact .head (.shielded id _) (.single (.shielded id _))
  · exact .single (.shielded id _)

theorem changes_grantShield (b : Battle) (codex : Codex) (id : ActorId) (s : Status) :
    Changes rules content b (b.grantShield codex id s) := by
  unfold grantShield
  split
  · exact b.changes_setShield ..
  · exact .refl

theorem changes_afflict (b : Battle) (codex : Codex) (id : ActorId) (s : Status)
    (turns : Option Nat) : Changes rules content b (b.afflict codex id s turns).1 := by
  have added : ∀ (f : Actor → List Affliction) line,
      Changes rules content b (((b.modifyActor id fun a => { a with afflictions := f a }).announce
        line).grantShield codex id s) := fun f line =>
    ((b.changes_afflictions id f).trans (changes_announce ..)).trans (changes_grantShield ..)
  unfold afflict
  dsimp only
  split
  · exact .refl
  · split
    · exact added ..
    · exact .refl
    · exact added ..
    · exact added ..

/-! ## Summoning and the inventory -/

/-- The number of a summoned actor is new, and its id is free. -/
theorem freeNumber?_eq_some {b : Battle} {template : String} {n : Nat}
    (h : b.freeNumber? template = some n) :
    b.spawned < n ∧ b.actors.contains (summonId template n) = false := by
  have hp := List.find?_some h
  have hm := List.mem_range'_1.1 (List.mem_of_find?_eq_some h)
  exact ⟨by omega, by simpa using hp⟩

/-- Summons are counted upwards. -/
theorem spawned_le_summonOne (b : Battle) (codex : Codex) (template : String) (user : ActorId) :
    b.spawned ≤ (b.summonOne codex template user).spawned := by
  unfold summonOne
  split
  · next n _ _ hn => exact Nat.le_of_lt (freeNumber?_eq_some hn).1
  · exact Nat.le_refl _

theorem spawned_le_summonMany (codex : Codex) (template : String) (user : ActorId) (n : Nat)
    (b : Battle) : b.spawned ≤ (b.summonMany codex template user n).spawned := by
  induction n generalizing b with
  | zero => exact Nat.le_refl _
  | succ n ih => exact Nat.le_trans (b.spawned_le_summonOne codex template user) (ih _)

theorem changes_summonOne {b : Battle} {template : String} {user : ActorId}
    (h : (b.summonOne rules.codex template user).spawned ≤ max b.spawned greatestCount) :
    Changes rules content b (b.summonOne rules.codex template user) := by
  revert h
  unfold summonOne
  split
  · next side a n hside ha hn =>
    intro h
    obtain ⟨hnew, hfree⟩ := freeNumber?_eq_some hn
    have hlevel : b.summonLevel user ≤ greatestCount := Nat.min_le_right _ _
    have hmax : n ≤ greatestCount := by
      change n ≤ max b.spawned greatestCount at h
      omega
    exact .head (.joined side template _ n a hlevel ha hnew hmax hfree) (changes_announce ..)
  · exact fun _ => .refl

/-- As the numbers only go up, all of them are counts if the last one is. -/
theorem changes_summonMany {template : String} {user : ActorId} (n : Nat) {b : Battle}
    (h : (b.summonMany rules.codex template user n).spawned ≤ max b.spawned greatestCount) :
    Changes rules content b (b.summonMany rules.codex template user n) := by
  induction n generalizing b with
  | zero => exact .refl
  | succ n ih =>
    have hfirst := b.spawned_le_summonOne rules.codex template user
    have hrest := spawned_le_summonMany rules.codex template user n
      (b.summonOne rules.codex template user)
    rw [summonMany] at h ⊢
    exact (changes_summonOne (by omega)).trans (ih (by omega))

theorem changes_supply {b : Battle} {e : Effect} (hc : content e) (hb : b.isOver = false)
    {o : Origin} {user : ActorId} (hn : b.HasNumbers rules e o user) :
    Changes rules content b (b.supply rules e o user).1 := by
  unfold HasNumbers at hn
  unfold supply at hn ⊢
  dsimp only at hn ⊢
  split
  case h_1 hk => exact (b.changes_announce _).tail (.fled e hc hk (isOver_eq_false_iff.1 hb))
  case h_2 hk =>
    cases hid : e.summonId with
    | none => exact .refl
    | some template =>
      simp only [hk, hid, Option.elim_some] at hn
      exact changes_summonMany _ hn
  case h_3 hk =>
    cases hi : e.itemId with
    | none => exact .refl
    | some item => exact .head (.stocked e hc (.inl hk) item hi _) (changes_announce ..)
  case h_4 hk =>
    cases hi : e.itemId with
    | none => exact .refl
    | some item => exact .head (.stocked e hc (.inr hk) item hi _) (changes_announce ..)
  case h_5 => exact .refl

end Battle

/-! ## Events -/

variable {rules : Rules} {content : Effect → Prop} {b b' : Battle}

/-- **Every deed is a number of changes in a row.** -/
theorem Deed.changes {d : Deed} (h : d.May rules content b) :
    Changes rules content b (d.perform rules b) := by
  cases d with
  | aim => exact b.changes_resolveTargets ..
  | supply e o user => exact Battle.changes_supply h.1 h.2.1 h.2.2
  | strike e o user id rolls =>
    exact Battle.changes_strike o user rolls (Battle.isAlive_of_isReached h.2.1 (by simp [h.2.2]))
  | change e o user id => exact Battle.changes_applyImmediate h.1 o user h.2
  | afflict => exact b.changes_afflict ..
  | countDown id statuses => exact b.changes_afflictions id _
  | dropExpired id => exact b.changes_afflictions id _
  | wearOff => exact (b.changes_removeGranted ..).trans (Battle.changes_announce ..)

theorem Event.changes (h : Event rules content b b') : Changes rules content b b' := by
  obtain ⟨d, hd, rfl⟩ := h
  exact d.changes hd

theorem Course.changes (h : Course rules content b b') : Changes rules content b b' := by
  induction h with
  | refl => exact .refl
  | tail _ h ih => exact ih.trans h.changes

/-- What every change keeps, changes in a row keep. -/
theorem Changes.induction {P : Battle → Prop} (h : Changes rules content b b')
    (hstep : ∀ b b', P b → Change rules content b b' → P b') (hb : P b) : P b' := by
  induction h with
  | refl => exact hb
  | tail _ h ih => exact hstep _ _ ih h

/-! ## What stays -/

/-- The same turn goes on: neither the round nor the place changes, no boundary is counted and no
action is paid for, and the battle does not end unless someone flees. -/
structure Battle.SameTurn (b b' : Battle) : Prop where
  round : b'.round = b.round
  current : b'.current = b.current
  boundaries : b'.boundaries = b.boundaries
  cooldowns : b'.cooldowns = b.cooldowns
  charges : b'.charges = b.charges
  ended : b'.ended = b.ended ∨ b.ended = none ∧ b'.ended = some .fled

namespace Battle.SameTurn

theorem refl (b : Battle) : b.SameTurn b := ⟨rfl, rfl, rfl, rfl, rfl, .inl rfl⟩

theorem trans {b'' : Battle} (h : b.SameTurn b') (h' : b'.SameTurn b'') : b.SameTurn b'' := by
  refine ⟨h'.round.trans h.round, h'.current.trans h.current, h'.boundaries.trans h.boundaries,
    h'.cooldowns.trans h.cooldowns, h'.charges.trans h.charges, ?_⟩
  rcases h'.ended with h' | ⟨hnone, hfled⟩
  · rw [h']
    exact h.ended
  · rcases h.ended with h | ⟨-, h⟩
    · exact .inr ⟨h ▸ hnone, hfled⟩
    · rw [h] at hnone
      cases hnone

end Battle.SameTurn

theorem Change.sameTurn (h : Change rules content b b') : b.SameTurn b' := by
  cases h with
  | fled _ _ _ hb => exact ⟨rfl, rfl, rfl, rfl, rfl, .inr ⟨hb, by rw [Battle.finish, hb]; rfl⟩⟩
  | _ => exact ⟨rfl, rfl, rfl, rfl, rfl, .inl rfl⟩

theorem Changes.sameTurn (h : Changes rules content b b') : b.SameTurn b' :=
  h.induction (fun _ _ hb hchange => hb.trans hchange.sameTurn) (.refl b)

end Skirmish
