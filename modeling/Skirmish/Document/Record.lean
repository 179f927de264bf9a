import Skirmish.Json.Basic
import Skirmish.Table

/-!
# Records in documents

A record is written as an object, or as an array of its fields in their order, the last ones of
which may be missing. A field is required, optional (missing or `null` means none) or has a default
that stands for a missing one. Fields that a record does not know are ignored.

One of some named values is written as its name, or as an object with that name and `null`.
-/

namespace Skirmish

/-- The fields of a record as they were written. -/
structure Record where
  fields : List (String × Json)

namespace Record

/-- The record with fields of the given names. -/
def ofJson? (names : List String) : Json → Option Record
  | .obj fields => some ⟨fields⟩
  | .arr items => if items.length ≤ names.length then some ⟨names.zip items⟩ else none
  | _ => none

/-- A field, if it was written. -/
def field? (r : Record) (name : String) : Option Json := r.fields.lookup name

/-- Read a required field. -/
def need {α : Type} (r : Record) (name : String) (read : Json → Option α) : Option α :=
  (r.field? name).bind read

/-- Read an optional field. -/
def opt {α : Type} (r : Record) (name : String) (read : Json → Option α) : Option (Option α) :=
  match r.field? name with
  | none => some none
  | some .null => some none
  | some j => (read j).map some

/-- Read a field that has a default. -/
def get {α : Type} (r : Record) (name : String) (default : α) (read : Json → Option α) : Option α :=
  (r.field? name).elim (some default) read

/-- Call a field by another one of its names; it may not be there under both. -/
def rename? (r : Record) (other name : String) : Option Record :=
  match r.field? other, r.field? name with
  | none, _ => some r
  | some j, none => some ⟨(name, j) :: r.fields⟩
  | some _, some _ => none

end Record

namespace Json

/-! ## Lists, tables and names -/

/-- Read an array item by item. -/
def listOf? {α : Type} (read : Json → Option α) (j : Json) : Option (List α) :=
  j.items?.bind fun items => items.mapM read

/-- Read an object field by field. -/
def tableOf? {α : Type} (read : Json → Option α) (j : Json) : Option (Table α) := do
  return Table.ofList (← (← j.fields?).mapM fun f => (read f.2).map fun v => (f.1, v))

/-- Read a value that may be `null`. -/
def orNull? {α : Type} (read : Json → Option α) : Json → Option (Option α)
  | null => some none
  | j => (read j).map some

/-- Read the name of a named value. -/
def name? : Json → Option String
  | str s => some s
  | obj [(s, null)] => some s
  | _ => none

/-- Read one of some named values. -/
def oneOf? {α : Type} (values : List α) (name : α → String) (j : Json) : Option α :=
  j.name?.bind fun s => values.find? fun x => name x == s

/-- Write a list. -/
def ofList {α : Type} (write : α → Json) (xs : List α) : Json := arr (xs.map write)

/-- Write a table. -/
def ofTable {α : Type} (write : α → Json) (t : Table α) : Json :=
  obj (t.entries.map fun e => (e.1, write e.2))

/-- Write a value or `null`. -/
def ofOption {α : Type} (write : α → Json) (x : Option α) : Json := x.elim null write

/-- Write a natural number. -/
def ofNat (n : Nat) : Json := int n

/-- Write a field unless there is nothing in it. -/
def fieldOf {α : Type} (name : String) (write : α → Json) (x : Option α) : List (String × Json) :=
  (x.map fun v => (name, write v)).toList

end Json

end Skirmish
