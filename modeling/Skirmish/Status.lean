import Skirmish.Effect

/-!
# Statuses

A status is what an affliction refers to: how it stacks and how long it lasts, the stats that it
changes, the shield that it grants and the effects that run at six moments of its life.
-/

namespace Skirmish

/-- What applying a status to an actor that already holds it does. -/
inductive Stacking where
  | ignore
  | renew
  | count
  | magnitude
deriving DecidableEq, Inhabited

/-- Whether a stacking rule adds stacks. -/
def Stacking.addsStacks : Stacking → Bool
  | count | magnitude => true
  | _ => false

/-- A moment at which the effects of a status run. -/
inductive Hook where
  | onApply
  | onTurnStart
  | onTurnEnd
  | onExpire
  | onDealDamage
  | onTakeDamage
deriving DecidableEq, Inhabited

namespace Hook

/-- The hooks in the order of a status's life. -/
def all : List Hook := [onApply, onTurnStart, onTurnEnd, onExpire, onDealDamage, onTakeDamage]

theorem mem_all (h : Hook) : h ∈ all := by
  cases h <;> decide

/-- Whether a hook runs because of damage, and so has a counterpart. -/
def isDamage : Hook → Bool
  | onDealDamage | onTakeDamage => true
  | _ => false

end Hook

/-- A change of a stat for as long as a status is held. -/
structure Modifier where
  stat : StatKind
  flat : Float := 0
  percent : Float := 0
deriving DecidableEq, Inhabited

/-- Change a base value: `(base + flat * n) * (1 + percent * n)` at `n` stacks. -/
def Modifier.apply (m : Modifier) (base : Float) (count : Nat) : Float :=
  let n := Float.ofNat (max count 1)
  (base + m.flat * n) * (1 + m.percent * n)

/-- The shield that a status grants. -/
structure ShieldGrant where
  id : Option String := none
  value : Magnitude
  element : Option String := none
deriving DecidableEq, Inhabited

/-- A status that actors can hold. -/
structure Status where
  id : String
  name : String := ""
  tags : List String := []
  maxStacks : Nat := 1
  stacking : Stacking := .renew
  duration : Nat := 1
  modifiers : List Modifier := []
  shield : Option ShieldGrant := none
  onApply : List Effect := []
  onTurnStart : List Effect := []
  onTurnEnd : List Effect := []
  onExpire : List Effect := []
  onDealDamage : List Effect := []
  onTakeDamage : List Effect := []
deriving Inhabited

namespace Status

/-- The name that the log shows, the id where there is no name. -/
def displayName (s : Status) : String := if s.name.isEmpty then s.id else s.name

/-- Whether a status has a tag. -/
def hasTag (s : Status) (tag : String) : Bool := s.tags.contains tag

/-- The effects that run at a hook. -/
def hooked (s : Status) : Hook → List Effect
  | .onApply => s.onApply
  | .onTurnStart => s.onTurnStart
  | .onTurnEnd => s.onTurnEnd
  | .onExpire => s.onExpire
  | .onDealDamage => s.onDealDamage
  | .onTakeDamage => s.onTakeDamage

/-- Append an effect at a hook. -/
def withHook (s : Status) (h : Hook) (e : Effect) : Status :=
  match h with
  | .onApply => { s with onApply := s.onApply ++ [e] }
  | .onTurnStart => { s with onTurnStart := s.onTurnStart ++ [e] }
  | .onTurnEnd => { s with onTurnEnd := s.onTurnEnd ++ [e] }
  | .onExpire => { s with onExpire := s.onExpire ++ [e] }
  | .onDealDamage => { s with onDealDamage := s.onDealDamage ++ [e] }
  | .onTakeDamage => { s with onTakeDamage := s.onTakeDamage ++ [e] }

theorem hooked_withHook (s : Status) (h k : Hook) (e : Effect) :
    (s.withHook h e).hooked k = if k = h then s.hooked k ++ [e] else s.hooked k := by
  cases h <;> cases k <;> rfl

/-- The shield that a status grants is kept under an id of its own or under the status's id. -/
def shieldId? (s : Status) : Option String := s.shield.map fun g => g.id.getD s.id

end Status

end Skirmish
