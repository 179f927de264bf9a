import Skirmish.Proofs.Changes
import Skirmish.Proofs.Holdings

/-!
# What resolution leaves alone

Each operation of resolution changes few parts of a battle, and the equations here name them: what a
strike, an effect without a target, a status that is applied and an immediate effect change. All
other parts are seen to stay as they are by rewriting with them. What becomes of shields is said in
full, since several operations touch them.
-/

namespace Skirmish

namespace Battle

/-! ## Damage -/

theorem faintIfDown_leaves (b : Battle) (id : ActorId) :
    ∃ actors log, b.faintIfDown id = { b with actors := actors, log := log } := by
  obtain ⟨lines, heq⟩ := b.faintIfDown_eq id
  exact ⟨_, _, heq⟩

/-- Beside what shields absorb, a wound changes actors and the log. -/
theorem wound_eq (b : Battle) (id : ActorId) (element : Option String) (critical : Bool)
    (amount : Int) : ∃ actors log, b.wound id element critical amount =
      { (b.absorb id element amount).2 with actors := actors, log := log } := by
  unfold wound
  dsimp only
  split <;> split <;>
  · obtain ⟨actors, log, heq⟩ := faintIfDown_leaves _ id
    exact ⟨actors, log, heq⟩

/-- A strike draws, and beside what shields absorb of it, it changes actors and the log. -/
theorem strike_eq (b : Battle) (rules : Rules) (e : Effect) (o : Origin) (user id : ActorId)
    (rolls : Rolls) :
    ∃ seed actors shields log, (b.strike rules e o user id rolls).1 =
        { b with seed := seed, actors := actors, shields := shields, log := log } ∧
      (shields = b.shields ∨
        ∃ element amount, shields = (b.absorb id element amount).2.shields) := by
  rcases b.strike_cases rules e o user id rolls with h | ⟨m, line, h⟩ |
    ⟨m, element, critical, amount, h⟩
  · exact ⟨_, _, _, _, h, .inl rfl⟩
  · exact ⟨_, _, _, _, h, .inl rfl⟩
  · obtain ⟨actors, log, heq⟩ := wound_eq { b with seed := b.seed.advance m } id element critical
      amount
    exact ⟨_, _, _, _, h.trans heq, .inr ⟨element, amount, rfl⟩⟩

/-! ## Effects without a target -/

theorem summonMany_eq (codex : Codex) (template : String) (user : ActorId) (n : Nat) (b : Battle) :
    ∃ order actors players enemies spawned log, b.summonMany codex template user n =
      { b with
        order := order, actors := actors, players := players, enemies := enemies,
        spawned := spawned, log := log } := by
  induction n generalizing b with
  | zero => exact ⟨_, _, _, _, _, _, rfl⟩
  | succ n ih =>
    obtain ⟨_, _, _, _, _, _, heq⟩ := ih (b.summonOne codex template user)
    rw [summonMany, heq]
    unfold summonOne
    split <;> exact ⟨_, _, _, _, _, _, rfl⟩

/-- An effect without a target changes the cast, the inventory and the log and may end the
battle. -/
theorem supply_eq (b : Battle) (rules : Rules) (e : Effect) (o : Origin) (user : ActorId) :
    ∃ order actors players enemies inventory spawned log ended, (b.supply rules e o user).1 =
      { b with
        order := order, actors := actors, players := players, enemies := enemies,
        inventory := inventory, spawned := spawned, log := log, ended := ended } := by
  unfold supply
  dsimp only
  split
  case h_2 =>
    cases e.summonId with
    | none => exact ⟨_, _, _, _, _, _, _, _, rfl⟩
    | some template =>
      obtain ⟨_, _, _, _, _, _, heq⟩ := summonMany_eq rules.codex template user _ b
      exact ⟨_, _, _, _, _, _, _, _, heq⟩
  case h_3 | h_4 => cases e.itemId <;> exact ⟨_, _, _, _, _, _, _, _, rfl⟩
  all_goals exact ⟨_, _, _, _, _, _, _, _, rfl⟩

/-! ## Applying a status -/

/-- An application is ignored, or it changes the afflictions of an actor, says so and sets the
shield of the status. -/
theorem afflict_eq (b : Battle) (codex : Codex) (id : ActorId) (s : Status)
    (turns : Option Nat) :
    b.afflict codex id s turns = (b, none) ∨ b.actors.contains id = true ∧
      ∃ actors log n, actors.contains id = true ∧ b.afflict codex id s turns =
        (({ b with actors := actors, log := log } : Battle).grantShield codex id s, some n) := by
  unfold afflict
  dsimp only
  split
  · exact .inl rfl
  · next a ha =>
    have hid : b.actors.contains id = true := Table.contains_iff.2 ⟨a, ha⟩
    have hstays : ∀ f, (b.actors.modify id f).contains id = true := fun f =>
      Table.contains_iff.2 ⟨f a, by rw [Table.get?_modify, if_pos rfl]; exact congrArg _ ha⟩
    split
    · exact .inr ⟨hid, _, _, _, hstays _, rfl⟩
    · exact .inl rfl
    · exact .inr ⟨hid, _, _, _, hstays _, rfl⟩
    · exact .inr ⟨hid, _, _, _, hstays _, rfl⟩

theorem grantShield_eq (b : Battle) (codex : Codex) (id : ActorId) (s : Status) :
    ∃ shields, b.grantShield codex id s = { b with shields := shields } := by
  unfold grantShield setShield
  dsimp only
  split
  · split <;> exact ⟨_, rfl⟩
  · exact ⟨_, rfl⟩

/-! ## Immediate effects -/

/-- An immediate effect changes actors, takes statuses away, adds to a shield, taunts its target or
takes its next turn; beside that it only changes the log. -/
theorem applyImmediate_cases (b : Battle) (rules : Rules) (e : Effect) (o : Origin)
    (user id : ActorId) :
    (∃ actors log, b.applyImmediate rules e o user id =
        { b with actors := actors, log := log }) ∨
      (∃ r log, b.applyImmediate rules e o user id =
        { Removal.perform r rules.codex b with log := log }) ∨
      (∃ shield element amount log, (0 ≤ amount ∧ IsWhole amount) ∧
        b.applyImmediate rules e o user id =
        { b.addShield id shield element amount with log := log }) ∨
      (e.kind = .taunt ∧ ∃ log, b.applyImmediate rules e o user id =
        { b with taunts := b.taunts.insert id ⟨user, e.statusTurns.getD 1⟩, log := log }) ∨
      (e.kind = .preventAction ∧ ∃ log, b.applyImmediate rules e o user id =
        { b with prevented := b.prevented.insert id b.boundaries, log := log }) := by
  have hfaint : ∀ actors log, ∃ actors' log',
      ({ b with actors := actors, log := log } : Battle).faintIfDown id =
        { b with actors := actors', log := log' } := by
    intro actors log
    obtain ⟨actors', log', heq⟩ :=
      ({ b with actors := actors, log := log } : Battle).faintIfDown_leaves id
    exact ⟨actors', log', heq⟩
  unfold applyImmediate
  dsimp only
  split
  case h_2 => exact .inl (hfaint _ _)
  case h_3 =>
    obtain ⟨log, heq⟩ := b.cleanseAloud_eq rules.codex id e.cleanseTags
    exact .inr (.inl ⟨_, log, heq⟩)
  case h_4 =>
    obtain ⟨log, heq⟩ := b.dispelAloud_eq rules.codex id e.statusId
    exact .inr (.inl ⟨_, log, heq⟩)
  case h_5 =>
    cases e.stat with
    | none => exact .inl ⟨_, _, rfl⟩
    | some k => exact .inl (hfaint _ _)
  case h_6 =>
    exact .inr (.inr (.inl ⟨_, _, _, _, ⟨nearestAbove_nonneg _, isWhole_nearestAbove _⟩, rfl⟩))
  case h_7 hk => exact .inr (.inr (.inr (.inl ⟨hk, _, rfl⟩)))
  case h_8 =>
    unfold revive
    dsimp only
    split <;> exact .inl ⟨_, _, rfl⟩
  case h_9 hk => exact .inr (.inr (.inr (.inr ⟨hk, _, rfl⟩)))
  all_goals exact .inl ⟨_, _, rfl⟩

end Battle

/-- Whether effects of a kind are immediate: each target is changed at once, without a draw and
without a hook that answers. -/
def EffectKind.isImmediate : EffectKind → Bool
  | heal | resource | cleanseStatus | dispel | modifyStat | shield | taunt | revive
  | preventAction => true
  | damage | applyStatus | flee | summon | giveItem | removeItem => false

/-- The battle once an immediate effect is applied to targets one after the other. -/
def Battle.applyInTurn (b : Battle) (rules : Rules) (e : Effect) (o : Origin) (user : ActorId)
    (targets : List ActorId) : Battle :=
  targets.foldl (fun b id =>
    if b.isReached e id then b.applyImmediate rules e o user id else b) b

theorem Battle.applyInTurn_cons (b : Battle) (rules : Rules) (e : Effect) (o : Origin)
    (user id : ActorId) (ids : List ActorId) :
    b.applyInTurn rules e o user (id :: ids) =
      (if b.isReached e id then b.applyImmediate rules e o user id else b).applyInTurn
        rules e o user
        ids := rfl

section

variable {e : Effect} (hk : e.kind.isImmediate = true) (rules : Rules) (run : HookRunner)
  (o : Origin) (user : ActorId) (targets : List ActorId)

include hk

/-- Whatever runs the hooks, an immediate effect goes through all its targets. -/
theorem applyToEach_of_immediate (rolls : Rolls) (s : Scene) :
    applyToEach rules run e o user targets rolls s =
      some ({ s with battle := s.battle.applyInTurn rules e o user targets }, .proceed) := by
  induction targets generalizing s with
  | nil => rfl
  | cons id ids ih =>
    rw [Battle.applyInTurn_cons, applyToEach]
    dsimp only
    split
    · split
      · next hdamage => cases hdamage ▸ hk
      · next happlies => cases happlies ▸ hk
      · exact ih _
    · exact ih s

theorem applyEffect_of_immediate (s : Scene) :
    applyEffect rules run e o user targets s =
      some (if s.battle.isOver then (s, .halt)
        else ({ s with battle := s.battle.applyInTurn rules e o user targets }, .proceed)) := by
  have haims : e.kind.isTargetless = false := by
    revert hk
    cases e.kind <;> decide
  unfold applyEffect
  rw [haims, applyToEach_of_immediate hk]
  split <;> rfl

end

end Skirmish
