import Skirmish.Battle.Basic
import Skirmish.Status

/-!
# Steps of resolution

Effects change a battle, and the statuses that they touch answer with effects of their own. While
that goes on, a `Scene` holds the battle and the hooks that are running, the innermost one first.

A `Step` takes a scene to the next one and says whether to go on. It has no result where hooks would
run deeper within each other than the depth that it was given, and where something cannot be
computed: a count goes beyond its range, or a chance is no number.
-/

namespace Skirmish

/-- Whether effects go on or the battle has ended in between. -/
inductive Flow where
  | proceed
  | halt
deriving DecidableEq, Inhabited

/-- A hook that runs: of which status, and who holds it. -/
structure Frame where
  holder : ActorId
  status : String
  hook : Hook
deriving DecidableEq, Inhabited

/-- A battle and the hooks that run in it, the innermost one first. -/
structure Scene where
  battle : Battle
  running : List Frame := []
deriving DecidableEq, Inhabited

/-- A step from one scene to the next. -/
abbrev Step := Scene → Option (Scene × Flow)

namespace Step

/-- Change nothing. -/
def done : Step := fun s => some (s, .proceed)

/-- Change the battle. -/
def change (f : Battle → Battle) : Step := fun s => some ({ s with battle := f s.battle }, .proceed)

/-- Take a second step, unless the first one halts. -/
def andThen (first second : Step) : Step := fun s =>
  match first s with
  | none => none
  | some (s, .proceed) => second s
  | some (s, .halt) => some (s, .halt)

/-- Take a step for each element of a list, until one halts. -/
def each {α : Type} (f : α → Step) : List α → Step
  | [] => done
  | x :: xs => (f x).andThen (each f xs)

/-- Take a step with a hook running. -/
def within (frame : Frame) (step : Step) : Step := fun s =>
  (step { s with running := frame :: s.running }).map fun (s, flow) =>
    ({ s with running := s.running.tail }, flow)

theorem done_andThen (step : Step) : done.andThen step = step := rfl

theorem andThen_done (step : Step) : step.andThen done = step := by
  funext s
  unfold andThen
  split <;> simp_all [done]

theorem andThen_assoc (f g h : Step) : (f.andThen g).andThen h = f.andThen (g.andThen h) := by
  funext s
  unfold andThen
  cases f s with
  | none => rfl
  | some r => obtain ⟨s, flow⟩ := r; cases flow <;> rfl

end Step

/-- A hook that is to run, because of whom, and how often its status is stacked. -/
structure HookCall where
  holder : ActorId
  status : String
  hook : Hook
  counterpart : Option ActorId := none
  stackCount : Nat
deriving DecidableEq, Inhabited

namespace HookCall

/-- The frame under which a call runs. -/
def frame (c : HookCall) : Frame := ⟨c.holder, c.status, c.hook⟩

/-- Whom the effects of a hook aim at if they do not select: the counterpart of a damage hook, the
holder of any other one. -/
def defaultTarget (c : HookCall) : ActorId :=
  if c.hook.isDamage then c.counterpart.getD c.holder else c.holder

end HookCall

/-- What runs a hook. -/
abbrev HookRunner := HookCall → Step

/-- Where an effect comes from: the element of its action and a factor for its magnitude. -/
structure Origin where
  element : Option String := none
  scale : Float := 1
deriving DecidableEq, Inhabited

end Skirmish
