import Skirmish.Actor.Basic

/-!
# Filters

A filter is a condition on an actor. It has up to four clauses, and an actor passes it when it
passes every clause that is there (`accepts_eq`); so a filter without clauses lets everyone pass. A
test that makes no sense, such as one that compares a number with a text, lets no one pass.

`Filter.allOf`, `anyOf`, `negate` and `both` build filters from filters.
-/

namespace Skirmish

/-- What a test reads of an actor. -/
inductive Subject where
  | fraction (r : Resource)
  | attack
  | defence
  | level
  | status
  | tag
  | calling
  | unknown
deriving DecidableEq, Inhabited

/-- How a test compares. -/
inductive Comparison where
  | lt
  | le
  | eq
  | ge
  | gt
  | ne
  | oneOf
  | noneOf
  | unknown
deriving DecidableEq, Inhabited

/-- What a test compares with. -/
inductive Operand where
  | truth (b : Bool)
  | number (x : Float)
  | text (s : String)
  | list (items : List Operand)
deriving Inhabited

namespace Operand

/-- The number that an operand is. -/
def number? : Operand → Option Float
  | number x => some x
  | _ => none

/-- The text that an operand is. -/
def text? : Operand → Option String
  | text s => some s
  | _ => none

/-- The list that an operand is. -/
def list? : Operand → Option (List Operand)
  | list items => some items
  | _ => none

end Operand

/-- A comparison of a subject with an operand. -/
structure Test where
  subject : Subject
  comparison : Comparison
  operand : Option Operand := none
deriving Inhabited

/-! ## Tests -/

namespace Test

/-- Numbers that differ by less than this are equal. -/
def tolerance : Float := 1e-9

/-- Whether two numbers are equal up to the tolerance. -/
def near (x y : Float) : Bool := decide ((x - y).abs < tolerance)

/-- Whether a list holds a number near to a given one. -/
def holdsNumber (x : Float) (items : List Operand) : Bool :=
  (items.filterMap Operand.number?).any (near x)

/-- Whether a list holds a text that passes. -/
def holdsText (p : String → Bool) (items : List Operand) : Bool :=
  (items.filterMap Operand.text?).any p

/-- Compare a number. -/
def compareNumber (x : Float) (c : Comparison) (v : Operand) : Bool :=
  match c with
  | .oneOf => v.list?.any (holdsNumber x)
  | .noneOf => v.list?.any fun items => !holdsNumber x items
  | .unknown => false
  | .lt => v.number?.any fun y => decide (x < y)
  | .le => v.number?.any fun y => decide (x ≤ y + tolerance)
  | .eq => v.number?.any (near x)
  | .ge => v.number?.any fun y => decide (y ≤ x + tolerance)
  | .gt => v.number?.any fun y => decide (y < x)
  | .ne => v.number?.any fun y => decide (tolerance ≤ (x - y).abs)

/-- Whether a set holds the text, or one of the texts, of an operand. -/
def meets (mem : String → Bool) : Operand → Option Bool
  | .text s => some (mem s)
  | .list items => some (holdsText mem items)
  | _ => none

/-- Compare a set of texts, given by its membership. -/
def compareSet (mem : String → Bool) (c : Comparison) (v : Operand) : Bool :=
  match c with
  | .eq | .oneOf => (meets mem v).any id
  | .ne | .noneOf => (meets mem v).any not
  | _ => false

/-- Compare a text that may be missing. -/
def compareText (t : Option String) (c : Comparison) (v : Operand) : Bool :=
  match c with
  | .eq => v.text?.any fun s => t == some s
  | .ne => v.text?.any fun s => t != some s
  | .oneOf => v.list?.any (holdsText fun s => t == some s)
  | .noneOf => v.list?.any fun items => !holdsText (fun s => t == some s) items
  | _ => false

/-- Whether an actor passes a comparison with an operand. -/
def holds (a : Actor) (subject : Subject) (c : Comparison) (v : Operand) : Bool :=
  match subject with
  | .fraction r => compareNumber (a.stats.fraction r) c v
  | .attack => compareNumber (Float.ofInt a.stats.attack) c v
  | .defence => compareNumber (Float.ofInt a.stats.defence) c v
  | .level => compareNumber (Float.ofInt a.stats.level) c v
  | .status => compareSet a.hasStatus c v
  | .tag => compareSet a.hasTag c v
  | .calling => compareText a.calling c v
  | .unknown => false

/-- Whether an actor passes a test; a test without an operand lets no one pass. -/
def accepts (t : Test) (a : Actor) : Bool :=
  t.operand.any fun v => holds a t.subject t.comparison v

end Test

/-! ## Filters -/

/-- A condition on an actor, all its clauses together. -/
structure Filter where
  all : Option (List Filter) := none
  any : Option (List Filter) := none
  not : Option Filter := none
  test : Option Test := none
deriving Inhabited

namespace Filter

/-- The filter that lets everyone pass. -/
def always : Filter := {}

/-- A filter with a test alone. -/
def ofTest (subject : Subject) (comparison : Comparison) (operand : Operand) : Filter :=
  { test := some ⟨subject, comparison, some operand⟩ }

/-- Pass every one of some filters. -/
def allOf (fs : List Filter) : Filter := { all := some fs }

/-- Pass at least one of some filters. -/
def anyOf (fs : List Filter) : Filter := { any := some fs }

/-- Fail a filter. -/
def negate (f : Filter) : Filter := { not := some f }

/-- Pass two filters; a filter that only lists filters takes the other one into its list. -/
def both (f g : Filter) : Filter :=
  match f with
  | ⟨some fs, none, none, none⟩ => allOf (fs ++ [g])
  | f => allOf [f, g]

/-- Whether a filter has no clause. -/
def isEmpty (f : Filter) : Bool :=
  f.all.isNone && f.any.isNone && f.not.isNone && f.test.isNone

mutual

/-- Whether an actor passes a filter. -/
def accepts (a : Actor) : Filter → Bool
  | ⟨all, any, not, test⟩ =>
    acceptsAll? a all && acceptsAny? a any && rejects? a not && test.all (·.accepts a)

/-- Whether an actor passes every filter of a clause. -/
def acceptsAll? (a : Actor) : Option (List Filter) → Bool
  | none => true
  | some fs => acceptsAll a fs

/-- Whether an actor passes some filter of a clause. -/
def acceptsAny? (a : Actor) : Option (List Filter) → Bool
  | none => true
  | some fs => acceptsAny a fs

/-- Whether an actor fails the filter of a clause. -/
def rejects? (a : Actor) : Option Filter → Bool
  | none => true
  | some f => !accepts a f

/-- Whether an actor passes every filter of a list. -/
def acceptsAll (a : Actor) : List Filter → Bool
  | [] => true
  | f :: fs => accepts a f && acceptsAll a fs

/-- Whether an actor passes some filter of a list. -/
def acceptsAny (a : Actor) : List Filter → Bool
  | [] => false
  | f :: fs => accepts a f || acceptsAny a fs

end

theorem acceptsAll_eq (a : Actor) (fs : List Filter) : acceptsAll a fs = fs.all (accepts a) := by
  induction fs with
  | nil => rfl
  | cons f fs ih => simp [acceptsAll, ih]

theorem acceptsAny_eq (a : Actor) (fs : List Filter) : acceptsAny a fs = fs.any (accepts a) := by
  induction fs with
  | nil => rfl
  | cons f fs ih => simp [acceptsAny, ih]

/-- An actor passes a filter when it passes each clause that is there. -/
theorem accepts_eq (a : Actor) (f : Filter) :
    accepts a f =
      (f.all.all (·.all (accepts a)) && f.any.all (·.any (accepts a)) &&
        f.not.all (fun g => !accepts a g) && f.test.all (·.accepts a)) := by
  obtain ⟨all, any, not, test⟩ := f
  rw [accepts]
  congr 3
  · cases all <;> simp [acceptsAll?, acceptsAll_eq]
  · cases any <;> simp [acceptsAny?, acceptsAny_eq]
  · cases not <;> simp [rejects?]

/-- Whether an actor passes a filter that may be missing. -/
def permits (f : Option Filter) (a : Actor) : Bool := f.all (accepts a)

end Filter

end Skirmish
