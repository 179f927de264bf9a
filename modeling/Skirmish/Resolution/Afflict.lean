import Skirmish.Resolution.Immediate

/-!
# Applying statuses

The first application of a status puts an affliction with one stack on the target. A further one
follows the stacking rule of the status: it is ignored, or it begins the duration anew, with one
stack more where the rule counts them. Each application that is not ignored sets the shield of the
status anew.

Stacks are counts of 32 bits, and one more is counted before their number is cut off at the greatest
one of the status. `afflicted?` has no result where the sum is no such count.
-/

namespace Skirmish

namespace Battle

/-- For how many turns a status is applied: at least one. -/
def effectiveTurns (s : Status) (turns : Option Nat) : Nat := max 1 (turns.getD s.duration)

/-- The stacks after one more application of a status that counts them. -/
def nextStacks (s : Status) (n : Nat) : Nat := min (n + 1) (max s.maxStacks 1)

/-- Set the shield that a status grants. -/
def grantShield (b : Battle) (codex : Codex) (id : ActorId) (s : Status) : Battle :=
  match s.shield, b.actor? id with
  | some g, some a =>
    let a := codex.effective a
    b.setShield id (g.id.getD s.id) g.element (nearestAbove (g.value.resolve a a .hp))
  | _, _ => b

/-- Change the first affliction of a status on an actor. -/
def updateAffliction (b : Battle) (id : ActorId) (status : String)
    (f : Affliction → Affliction) : Battle :=
  b.modifyActor id fun a =>
    { a with afflictions := Affliction.updateFirst status f a.afflictions }

/-- Apply a registered status to an actor. Where the application is accepted, the stacks of the
affliction come with the battle. -/
def afflict (b : Battle) (codex : Codex) (id : ActorId) (s : Status) (turns : Option Nat) :
    Battle × Option Nat :=
  let n := effectiveTurns s turns
  let name := b.nameOf id
  match b.actor? id with
  | none => (b, none)
  | some a =>
    match a.affliction? s.id, s.stacking with
    | none, _ =>
      let b := b.modifyActor id fun a => { a with afflictions := a.afflictions ++ [⟨s.id, n, 1⟩] }
      let b := b.announce s!"{name} is afflicted by {s.displayName}."
      (b.grantShield codex id s, some 1)
    | some _, .ignore => (b, none)
    | some i, .renew =>
      let b := b.updateAffliction id s.id fun i => { i with remaining := n }
      let b := b.announce s!"{s.displayName} on {name} was renewed."
      (b.grantShield codex id s, some i.stackCount)
    | some i, _ =>
      let count := nextStacks s i.stackCount
      let b := b.updateAffliction id s.id fun i => { i with remaining := n, stackCount := count }
      let b := b.announce s!"{s.displayName} on {name} stacks to {count}."
      (b.grantShield codex id s, some count)

/-- Whether one more application of a status is a count: the rule adds no stacks, or what the actor
holds of the status has fewer than can be counted. -/
def canStack (b : Battle) (id : ActorId) (s : Status) : Bool :=
  !s.stacking.addsStacks ||
    ((b.actor? id).bind (·.affliction? s.id)).all fun i => decide (i.stackCount < greatestCount)

/-- Apply a registered status to an actor, if the application can be counted. -/
def afflicted? (b : Battle) (codex : Codex) (id : ActorId) (s : Status) (turns : Option Nat) :
    Option (Battle × Option Nat) :=
  if b.canStack id s then some (b.afflict codex id s turns) else none

theorem afflicted?_of_canStack {b : Battle} {codex : Codex} {id : ActorId} {s : Status}
    (h : b.canStack id s = true) (turns : Option Nat) :
    b.afflicted? codex id s turns = some (b.afflict codex id s turns) := if_pos h

theorem canStack_of_not_addsStacks {s : Status} (h : s.stacking.addsStacks = false) (b : Battle)
    (id : ActorId) : b.canStack id s = true := by
  rw [canStack, h, Bool.not_false, Bool.true_or]

theorem afflicted?_cases (b : Battle) (codex : Codex) (id : ActorId) (s : Status)
    (turns : Option Nat) :
    (b.canStack id s = true ∧
        b.afflicted? codex id s turns = some (b.afflict codex id s turns)) ∨
      (b.canStack id s = false ∧ b.afflicted? codex id s turns = none) := by
  unfold afflicted?
  cases b.canStack id s with
  | true => exact .inl ⟨rfl, rfl⟩
  | false => exact .inr ⟨rfl, rfl⟩

end Battle

end Skirmish
