import Skirmish.Number.Nearest

/-!
# JSON values

A number is kept as it was written: one without a point and an exponent that fits into 64 bits is an
integer, every other one a float. The fields of an object have distinct names, in the order in which
they were written.
-/

namespace Skirmish

/-- A JSON value. -/
inductive Json where
  | null
  | bool (b : Bool)
  | int (n : Int)
  | float (x : Float)
  | str (s : String)
  | arr (items : List Json)
  | obj (fields : List (String × Json))
deriving Inhabited

namespace Json

/-! ## Fields -/

/-- Put a field at the end of an object; an earlier one of its name is gone. -/
def putField (fields : List (String × Json)) (name : String) (j : Json) : List (String × Json) :=
  fields.filter (fun f => f.1 != name) ++ [(name, j)]

/-- A field of an object, and `null` if there is none. -/
def field (j : Json) (name : String) : Json :=
  match j with
  | obj fields => (fields.lookup name).getD null
  | _ => null

/-- Whether an object has a field. -/
def hasField (j : Json) (name : String) : Bool :=
  match j with
  | obj fields => (fields.lookup name).isSome
  | _ => false

/-! ## Reading values -/

/-- A truth value. -/
def bool? : Json → Option Bool
  | bool b => some b
  | _ => none

/-- An integer between two bounds; a float is none, whatever its value. -/
def intWithin? (least greatest : Int) : Json → Option Int
  | int n => if least ≤ n ∧ n ≤ greatest then some n else none
  | _ => none

/-- A whole number of 64 bits. -/
def whole? : Json → Option Int := intWithin? leastWhole greatestWhole

/-- A natural number of 32 bits. -/
def count? (j : Json) : Option Nat := (j.intWithin? 0 greatestCount).map Int.toNat

/-- A natural number of 64 bits. -/
def size? (j : Json) : Option Nat := (j.intWithin? 0 greatestSize).map Int.toNat

/-- A number as a double. -/
def float? : Json → Option Float
  | int n => some (Float.ofInt n)
  | float x => some x
  | _ => none

/-- A text. -/
def str? : Json → Option String
  | str s => some s
  | _ => none

/-- The items of an array. -/
def items? : Json → Option (List Json)
  | arr items => some items
  | _ => none

/-- The fields of an object. -/
def fields? : Json → Option (List (String × Json))
  | obj fields => some fields
  | _ => none

end Json

end Skirmish
