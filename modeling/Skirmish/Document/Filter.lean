import Skirmish.Document.Name

/-!
# Filters in documents

How filters are read and written. A clause that is missing is not written. Filters stand within
filters as deeply as the document goes.
-/

namespace Skirmish

namespace Json

mutual

/-- How deeply values are nested in a value. -/
def depth : Json → Nat
  | arr items => depthItems items + 1
  | obj fields => depthFields fields + 1
  | _ => 1

/-- How deeply values are nested in items. -/
def depthItems : List Json → Nat
  | [] => 0
  | j :: items => max (depth j) (depthItems items)

/-- How deeply values are nested in fields. -/
def depthFields : List (String × Json) → Nat
  | [] => 0
  | (_, j) :: fields => max (depth j) (depthFields fields)

end

end Json

/-! ## Operands and tests -/

namespace Operand

mutual

/-- Read an operand. -/
def ofJson? : Json → Option Operand
  | .bool b => some (truth b)
  | .int n => some (number (Float.ofInt n))
  | .float x => some (number x)
  | .str s => some (text s)
  | .arr items => (ofItems? items).map list
  | _ => none

/-- Read some operands. -/
def ofItems? : List Json → Option (List Operand)
  | [] => some []
  | j :: items => do return (← ofJson? j) :: (← ofItems? items)

end

mutual

/-- Write an operand. -/
def toJson : Operand → Json
  | truth b => .bool b
  | number x => .float x
  | text s => .str s
  | list items => .arr (toItems items)

/-- Write some operands. -/
def toItems : List Operand → List Json
  | [] => []
  | v :: vs => toJson v :: toItems vs

end

end Operand

namespace Test

/-- Read a test. -/
def ofJson? (j : Json) : Option Test := do
  let r ← Record.ofJson? ["key", "op", "value"] j
  return {
    subject := ← r.need "key" Subject.ofJson?
    comparison := ← r.need "op" Comparison.ofJson?
    operand := ← r.opt "value" Operand.ofJson? }

/-- Write a test. -/
def toJson (t : Test) : Json :=
  .obj [("key", .str t.subject.key), ("op", .str t.comparison.key),
    ("value", .ofOption Operand.toJson t.operand)]

end Test

/-! ## Filters -/

namespace Filter

/-- Read a filter, to a depth. -/
def ofJsonWithin? : Nat → Json → Option Filter
  | 0, _ => none
  | n + 1, j => do
    let r ← Record.ofJson? ["all", "any", "not", "test"] j
    return {
      all := ← r.opt "all" (Json.listOf? (ofJsonWithin? n))
      any := ← r.opt "any" (Json.listOf? (ofJsonWithin? n))
      not := ← r.opt "not" (ofJsonWithin? n)
      test := ← r.opt "test" Test.ofJson? }

/-- Read a filter. -/
def ofJson? (j : Json) : Option Filter := ofJsonWithin? j.depth j

mutual

/-- Write a filter. -/
def toJson : Filter → Json
  | ⟨all, any, not, test⟩ =>
    .obj (listField "all" all ++ listField "any" any ++ notField not ++
      Json.fieldOf "test" Test.toJson test)

/-- Write a clause that lists filters. -/
def listField (name : String) : Option (List Filter) → List (String × Json)
  | none => []
  | some fs => [(name, .arr (toItems fs))]

/-- Write a clause that denies a filter. -/
def notField : Option Filter → List (String × Json)
  | none => []
  | some f => [("not", toJson f)]

/-- Write some filters. -/
def toItems : List Filter → List Json
  | [] => []
  | f :: fs => toJson f :: toItems fs

end

end Filter

end Skirmish
