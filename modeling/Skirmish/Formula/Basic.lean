import Skirmish.Actor.Basic

/-!
# Formulas

A formula computes a number from the stats of a user and a target. Its tree keeps the groups that
its text writes, so that `Formula.nesting` is the depth to which groups, calls and signs are nested.

`Formula.value` is the value of a formula. It is missing only where some divisor is zero.
-/

namespace Skirmish

/-- A number of a stat block. -/
inductive Quantity where
  | current (r : Resource)
  | maximum (r : Resource)
  | attack
  | defence
  | level
  | xp
  | gold
deriving DecidableEq

/-- Read a number of a stat block. -/
def Stats.quantity (s : Stats) : Quantity → Int
  | .current r => s.current r
  | .maximum r => s.maximum r
  | .attack => s.attack
  | .defence => s.defence
  | .level => s.level
  | .xp => s.xp
  | .gold => s.gold

/-- Whose stats a variable reads. -/
inductive Party where
  | user
  | target
deriving DecidableEq

namespace Formula

/-- The four operators. -/
inductive Operator where
  | add
  | sub
  | mul
  | div
deriving DecidableEq

/-- Combine two numbers; nothing can be divided by zero. -/
def Operator.apply (op : Operator) (x y : Float) : Option Float :=
  match op with
  | add => some (x + y)
  | sub => some (x - y)
  | mul => some (x * y)
  | div => if y == 0 then none else some (x / y)

/-- The functions of one number. -/
inductive Shape where
  | floor
  | ceiling
  | absolute
deriving DecidableEq

/-- Apply a function of one number. -/
def Shape.apply : Shape → Float → Float
  | floor => Float.floor
  | ceiling => Float.ceil
  | absolute => Float.abs

/-- The functions of any number of numbers. -/
inductive Extreme where
  | least
  | greatest
deriving DecidableEq

/-- The one of two numbers that an extreme keeps. -/
def Extreme.pick : Extreme → Float → Float → Float
  | least => lesser
  | greatest => greater

end Formula

/-- An arithmetic expression over the stats of two actors. -/
inductive Formula where
  | number (x : Float)
  | variable (who : Party) (quantity : Quantity)
  | group (e : Formula)
  | negate (e : Formula)
  | binary (op : Formula.Operator) (l r : Formula)
  | shape (f : Formula.Shape) (e : Formula)
  | extreme (f : Formula.Extreme) (e : Formula) (es : List Formula)

namespace Formula

mutual

/-- The value of a formula, if no divisor is zero. -/
def value (user target : Stats) : Formula → Option Float
  | number x => some x
  | .variable .user q => some (Float.ofInt (user.quantity q))
  | .variable .target q => some (Float.ofInt (target.quantity q))
  | group e => value user target e
  | negate e => (value user target e).map fun x => -x
  | binary op l r => do op.apply (← value user target l) (← value user target r)
  | shape f e => (value user target e).map f.apply
  | extreme f e es => do return (← values user target es).foldl f.pick (← value user target e)

/-- The values of some formulas. -/
def values (user target : Stats) : List Formula → Option (List Float)
  | [] => some []
  | e :: es => do return (← value user target e) :: (← values user target es)

end

mutual

/-- How deeply groups, calls and signs are nested. -/
def nesting : Formula → Nat
  | number _ => 0
  | .variable _ _ => 0
  | group e => nesting e + 1
  | negate e => nesting e + 1
  | binary _ l r => max (nesting l) (nesting r)
  | shape _ e => nesting e + 1
  | extreme _ e es => max (nesting e) (nestings es) + 1

/-- The greatest nesting of some formulas. -/
def nestings : List Formula → Nat
  | [] => 0
  | e :: es => max (nesting e) (nestings es)

end

end Formula

end Skirmish
