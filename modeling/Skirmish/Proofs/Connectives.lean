import Skirmish.Filter

/-!
# Filters as conditions

Filters are put together from tests by `Filter.allOf`, `Filter.anyOf`, `Filter.both` and
`Filter.negate`, nested in whatever way. A `Condition` is what is put together, before any filter is
built; `Condition.filter` builds its filter, and `Condition.Holds` reads it as a formula of logic.
`built_as_read` says that an actor passes the filter exactly when the condition holds of it.

`Filter.both` builds in two ways: a filter that only lists filters takes the other one into its
list, and any other is listed beside it, whatever its clauses are. Both ways ask for the same
(`accepts_both`).

Statuses and tags are sets of names. Compared with a text or a list, and with nothing else, a test
that a set does not meet is the negation of the test that it does (`negates_iff`).
-/

namespace Skirmish

/-! ## Conditions -/

/-- A condition on an actor, as it is put together from tests. -/
inductive Condition where
  | always
  | test (subject : Subject) (comparison : Comparison) (operand : Operand)
  | allOf (cs : List Condition)
  | anyOf (cs : List Condition)
  | both (c d : Condition)
  | negate (c : Condition)
deriving Inhabited

namespace Condition

/-- The filter that is built for a condition. -/
def filter : Condition → Filter
  | always => .always
  | test subject comparison operand => .ofTest subject comparison operand
  | allOf cs => .allOf (cs.map filter)
  | anyOf cs => .anyOf (cs.map filter)
  | both c d => c.filter.both d.filter
  | negate c => c.filter.negate

/-- A condition holds of an actor, read as a formula of logic. -/
def Holds (a : Actor) : Condition → Prop
  | always => True
  | test subject comparison operand => Test.holds a subject comparison operand = true
  | allOf cs => ∀ c, c ∈ cs → c.Holds a
  | anyOf cs => ∃ c, ∃ _ : c ∈ cs, c.Holds a
  | both c d => c.Holds a ∧ d.Holds a
  | negate c => ¬c.Holds a

end Condition

/-! ## What each builder asks for -/

namespace Filter

variable (a : Actor)

@[simp] theorem accepts_always : accepts a always = true := rfl

@[simp] theorem accepts_ofTest (subject : Subject) (c : Comparison) (v : Operand) :
    accepts a (ofTest subject c v) = Test.holds a subject c v := by
  rw [accepts_eq]
  simp [ofTest, Test.accepts]

@[simp] theorem accepts_allOf (fs : List Filter) : accepts a (allOf fs) = fs.all (accepts a) := by
  rw [accepts_eq]
  simp [allOf]

@[simp] theorem accepts_anyOf (fs : List Filter) : accepts a (anyOf fs) = fs.any (accepts a) := by
  rw [accepts_eq]
  simp [anyOf]

@[simp] theorem accepts_negate (f : Filter) : accepts a f.negate = !accepts a f := by
  rw [accepts_eq]
  simp [negate]

/-- Whatever clauses the first filter has, both filters are asked for. -/
@[simp] theorem accepts_both (f g : Filter) :
    accepts a (f.both g) = (accepts a f && accepts a g) := by
  unfold both
  split
  · next fs =>
    have hlisted : accepts a ⟨some fs, none, none, none⟩ = fs.all (accepts a) := accepts_allOf a fs
    rw [hlisted, accepts_allOf, List.all_append, List.all_cons, List.all_nil, Bool.and_true]
  · rw [accepts_allOf, List.all_cons, List.all_cons, List.all_nil, Bool.and_true]

/-- A chain asks for each of its filters. -/
theorem accepts_foldl_both (f : Filter) (gs : List Filter) :
    accepts a (gs.foldl both f) = (accepts a f && gs.all (accepts a)) := by
  induction gs generalizing f with
  | nil => rw [List.foldl_nil, List.all_nil, Bool.and_true]
  | cons g gs ih => rw [List.foldl_cons, ih, accepts_both, List.all_cons, Bool.and_assoc]

/-- An actor passes the filter of a condition exactly when the condition holds. -/
theorem accepts_filter : ∀ c : Condition, accepts a c.filter = true ↔ c.Holds a
  | .always => by simp [Condition.filter, Condition.Holds]
  | .test .. => by simp [Condition.filter, Condition.Holds]
  | .allOf cs => by
    have ih : ∀ c ∈ cs, (accepts a c.filter = true ↔ c.Holds a) := fun c _ => accepts_filter c
    simp only [Condition.filter, Condition.Holds, accepts_allOf, List.all_map, List.all_eq_true]
    exact forall₂_congr ih
  | .anyOf cs => by
    have ih : ∀ c ∈ cs, (accepts a c.filter = true ↔ c.Holds a) := fun c _ => accepts_filter c
    simp only [Condition.filter, Condition.Holds, accepts_anyOf, List.any_map, List.any_eq_true]
    exact exists_congr fun c => (and_congr_right (ih c)).trans exists_prop.symm
  | .both c d => by
    rw [Condition.filter, Condition.Holds, accepts_both, Bool.and_eq_true, accepts_filter c,
      accepts_filter d]
  | .negate c => by
    rw [Condition.filter, Condition.Holds, accepts_negate, Bool.not_eq_true', ← accepts_filter c,
      Bool.not_eq_true]

end Filter

/-! ## Tests of sets -/

namespace Test

/-- A set misses what an operand names exactly when it does not meet it, and only a text or a list
names anything. -/
theorem negates_iff (mem : String → Bool) (v : Operand) :
    (compareSet mem .ne v = !compareSet mem .eq v ∧
        compareSet mem .noneOf v = !compareSet mem .oneOf v) ↔
      (∃ s, v = .text s) ∨ ∃ items, v = .list items := by
  cases v <;> simp [compareSet, meets]

end Test

namespace Filter

/-- **Built filters mean what they say.** An actor passes the filter that is built for a condition
exactly when the condition holds of it. Each builder asks for just this, of whatever filters it is
given: `both` for both of them, chains of it for all. Of statuses and tags, `ne` and `noneOf` are
the negations of `eq` and `oneOf` exactly where they compare with a text or a list. -/
theorem built_as_read (a : Actor) :
    (∀ c : Condition, accepts a c.filter = true ↔ c.Holds a) ∧
    ((∀ f g, accepts a (f.both g) = (accepts a f && accepts a g)) ∧
      (∀ f (gs : List Filter), accepts a (gs.foldl both f) = (accepts a f && gs.all (accepts a))) ∧
      (∀ f, accepts a f.negate = !accepts a f) ∧
      (∀ fs, accepts a (allOf fs) = fs.all (accepts a)) ∧
      (∀ fs, accepts a (anyOf fs) = fs.any (accepts a)) ∧
      accepts a (allOf []) = true ∧ accepts a (anyOf []) = false) ∧
    ∀ subject v, subject = .status ∨ subject = .tag →
      ((accepts a (ofTest subject .ne v) = !accepts a (ofTest subject .eq v) ∧
        accepts a (ofTest subject .noneOf v) = !accepts a (ofTest subject .oneOf v)) ↔
          (∃ s, v = .text s) ∨ ∃ items, v = .list items) := by
  refine ⟨accepts_filter a, ⟨accepts_both a, accepts_foldl_both a, accepts_negate a,
    accepts_allOf a, accepts_anyOf a, accepts_allOf a [], accepts_anyOf a []⟩, ?_⟩
  intro subject v hsubject
  simp only [accepts_ofTest]
  rcases hsubject with rfl | rfl
  · exact Test.negates_iff a.hasStatus v
  · exact Test.negates_iff a.hasTag v

/-! ## A puddle -/

/-- An actor with two tags that holds a status. -/
def puddle : Actor where
  id := "puddle"
  name := "Puddle"
  stats := Stats.full 8 0 0 2 1 1
  afflictions := [⟨"poison", 2, 1⟩]
  tags := ["ooze", "water"]

/-- Made of water and not on fire, which is built as one list of two filters. -/
def soaked : Condition :=
  .both (.both (.allOf []) (.test .tag .eq (.text "water")))
    (.negate (.test .status .oneOf (.list [.text "burn"])))

theorem puddle_is_soaked :
    soaked.filter.all.map List.length = some 2 ∧ accepts puddle soaked.filter = true ∧
      (Subject.tag = .status ∨ Subject.tag = .tag) ∧
      accepts puddle (ofTest .tag .oneOf (.list [.text "fire", .text "ooze"])) = true ∧
      accepts puddle (ofTest .tag .noneOf (.list [.text "fire", .text "ooze"])) = false := by
  obtain ⟨hread, -, hsets⟩ := built_as_read puddle
  have htag := (hsets .tag (.list [.text "fire", .text "ooze"]) (.inr rfl)).2 (.inr ⟨_, rfl⟩)
  have hooze : accepts puddle (ofTest .tag .oneOf (.list [.text "fire", .text "ooze"])) = true := by
    decide +kernel
  refine ⟨?_, (hread soaked).2 ?_, .inr rfl, hooze, ?_⟩
  · simp [soaked, Condition.filter, both, allOf]
  · simp only [soaked, Condition.Holds]
    exact ⟨⟨List.forall_mem_nil _, by decide +kernel⟩, by decide +kernel⟩
  · rw [htag.2, hooze]
    rfl

end Filter

end Skirmish
