import Skirmish.Formula.Token
import Mathlib.Data.List.TakeWhile

/-!
# Spellings

What it means for a text to spell some tokens is said here as a relation, without a procedure that
finds them: blanks stand anywhere between tokens, a mark is a token of its own, and a numeral or a
name is a run that the text does not continue.

No two kinds of token start alike, and a run that is not continued is what `takeWhile` finds; so
`Token.lex` finds the tokens that a text spells, and there are no others (`lex_eq_some_iff`).
-/

namespace Skirmish.Formula

/-- Some characters write a number: digits with at most one point among them, and at least one
digit. The number is the double nearest to their decimal value. -/
inductive Numeral : List Char → Float → Prop
  | whole (digits : List Char) (hsome : digits ≠ []) (hdigits : ∀ c ∈ digits, c.isDigit = true) :
    Numeral digits (decimal (digitsValue digits) 0)
  | pointed (whole part : List Char) (hsome : whole ++ part ≠ [])
      (hdigits : ∀ c ∈ whole ++ part, c.isDigit = true) :
    Numeral (whole ++ '.' :: part) (decimal (digitsValue (whole ++ part)) (-(part.length : Int)))

/-- A text does not go on with a character of some kind. -/
def StopsBefore (p : Char → Bool) (cs : List Char) : Prop := ∀ c ∈ cs.head?, p c = false

/-- A text spells some tokens. -/
inductive Spells : List Char → List Token → Prop
  | done : Spells [] []
  | blank {c : Char} {cs : List Char} {ts : List Token} (hc : Token.isBlank c = true)
      (h : Spells cs ts) : Spells (c :: cs) ts
  | number {run rest : List Char} {x : Float} {ts : List Token} (hrun : Numeral run x)
      (hstop : StopsBefore Token.isNumeral rest) (h : Spells rest ts) :
    Spells (run ++ rest) (.number x :: ts)
  | name {c : Char} {run rest : List Char} {ts : List Token} (hc : Token.startsName c = true)
      (hrun : ∀ d ∈ run, Token.isNamed d = true) (hstop : StopsBefore Token.isNamed rest)
      (h : Spells rest ts) : Spells (c :: run ++ rest) (.name (String.ofList (c :: run)) :: ts)
  | mark {c : Char} {cs : List Char} {t : Token} {ts : List Token} (hc : Token.mark? c = some t)
      (h : Spells cs ts) : Spells (c :: cs) (t :: ts)

/-! ## Runs -/

theorem takeWhile_run {p : Char → Bool} {run rest : List Char} (hrun : ∀ c ∈ run, p c = true)
    (hstop : StopsBefore p rest) : (run ++ rest).takeWhile p = run := by
  rw [List.takeWhile_append_of_pos hrun]
  cases rest with
  | nil => simp
  | cons c rest => simp [hstop c rfl]

theorem dropWhile_run {p : Char → Bool} {run rest : List Char} (hrun : ∀ c ∈ run, p c = true)
    (hstop : StopsBefore p rest) : (run ++ rest).dropWhile p = rest := by
  rw [List.dropWhile_append_of_pos hrun]
  cases rest with
  | nil => rfl
  | cons c rest => simp [hstop c rfl]

theorem isNumeral_of_isDigit {c : Char} (h : c.isDigit = true) : Token.isNumeral c = true := by
  simp [Token.isNumeral, h]

/-- What starts a number or a name is no blank. -/
theorem isBlank_eq_false {c : Char} (h : Token.isNumeral c = true ∨ Token.startsName c = true) :
    Token.isBlank c = false := by
  by_contra hc
  simp only [Token.isBlank, Bool.not_eq_false, Bool.or_eq_true, beq_iff_eq] at hc
  rcases hc with (((rfl | rfl) | rfl) | rfl) | rfl <;> exact absurd h (by decide)

theorem startsName_eq_false_of_isNumeral {c : Char} (h : Token.isNumeral c = true) :
    Token.startsName c = false := by
  by_contra hc
  simp only [Token.startsName, Bool.not_eq_false, Bool.or_eq_true, beq_iff_eq] at hc
  simp only [Token.isNumeral, Bool.or_eq_true, beq_iff_eq] at h
  rcases h with h | rfl
  · rcases hc with hc | rfl
    · have hdigit : c.toNat ≤ '9'.toNat := (Char.isDigit_iff_toNat.1 h).2
      have hletter : 'A'.toNat ≤ c.toNat := by
        rcases Bool.or_eq_true_iff.1 hc with hupper | hlower
        · exact (of_decide_eq_true hupper).1
        · exact Nat.le_trans (by decide) (of_decide_eq_true (Bool.and_eq_true_iff.1 hlower).1)
      exact absurd (Nat.le_trans hletter hdigit) (by decide)
    · exact absurd h (by decide)
  · exact absurd hc (by decide)

/-- A mark is neither a blank nor the start of a number or a name. -/
theorem kinds_of_mark? {c : Char} {t : Token} (h : Token.mark? c = some t) :
    Token.isBlank c = false ∧ Token.isNumeral c = false ∧ Token.startsName c = false := by
  unfold Token.mark? at h
  split at h <;> first | decide | exact absurd h (by simp)

/-! ## Numbers -/

theorem Numeral.isNumeral {run : List Char} {x : Float} (h : Numeral run x) :
    ∀ c ∈ run, Token.isNumeral c = true := by
  cases h with
  | whole _ _ hdigits => exact fun c hc => isNumeral_of_isDigit (hdigits c hc)
  | pointed whole part _ hdigits =>
    intro c hc
    rcases List.mem_append.mp hc with hc | hc
    · exact isNumeral_of_isDigit (hdigits c (List.mem_append_left _ hc))
    · rcases List.mem_cons.mp hc with rfl | hc
      · rfl
      · exact isNumeral_of_isDigit (hdigits c (List.mem_append_right _ hc))

theorem Numeral.ne_nil {run : List Char} {x : Float} (h : Numeral run x) : run ≠ [] := by
  cases h with
  | whole _ hsome => exact hsome
  | pointed => simp

/-- A run of digits has no point. -/
theorem ne_point_of_isDigit {cs : List Char} (h : ∀ c ∈ cs, c.isDigit = true) :
    ∀ c ∈ cs, (c != '.') = true := by
  intro c hc
  have := h c hc
  rw [bne_iff_ne]
  rintro rfl
  exact absurd this (by decide)

theorem numeral?_of_numeral {run : List Char} {x : Float} (h : Numeral run x) :
    Token.numeral? run = some x := by
  cases h with
  | whole _ hsome hdigits =>
    have hpoint := ne_point_of_isDigit hdigits
    simp [Token.numeral?, List.takeWhile_eq_self_iff.mpr hpoint,
      List.dropWhile_eq_nil_iff.mpr hpoint, hsome]
  | pointed whole part hsome hdigits =>
    have hwhole : ∀ c ∈ whole, (c != '.') = true :=
      ne_point_of_isDigit fun c hc => hdigits c (List.mem_append_left _ hc)
    have hstop : StopsBefore (· != '.') ('.' :: part) := by
      intro c hc
      obtain rfl := Option.some.inj hc
      rfl
    have hpart : '.' ∉ part := fun hmem =>
      absurd (hdigits _ (List.mem_append_right _ hmem)) (by decide)
    simp only [Token.numeral?, takeWhile_run hwhole hstop, dropWhile_run hwhole hstop,
      List.drop_succ_cons, List.drop_zero]
    simp [hpart, hsome]

theorem lex_of_spells {cs : List Char} {ts : List Token} (h : Spells cs ts) :
    Token.lex cs = some ts := by
  induction h with
  | done => rw [Token.lex]
  | blank hc _ ih => rw [Token.lex, if_pos hc, ih]
  | @number run rest x ts hrun hstop _ ih =>
    obtain ⟨c, run, rfl⟩ := List.exists_cons_of_ne_nil hrun.ne_nil
    have hc := hrun.isNumeral c List.mem_cons_self
    have hcs : ∀ d ∈ run, Token.isNumeral d = true := fun d hd =>
      hrun.isNumeral d (List.mem_cons_of_mem _ hd)
    rw [List.cons_append, Token.lex, if_neg (by simp [isBlank_eq_false (.inl hc)]),
      if_pos hc, takeWhile_run hcs hstop, dropWhile_run hcs hstop, numeral?_of_numeral hrun, ih]
    rfl
  | @name c run rest ts hc hrun hstop _ ih =>
    have hnumeral : Token.isNumeral c = false := by
      by_contra hn
      simp [startsName_eq_false_of_isNumeral (by simpa using hn)] at hc
    rw [List.cons_append, Token.lex, if_neg (by simp [isBlank_eq_false (.inr hc)]),
      if_neg (by simp [hnumeral]), if_pos hc, takeWhile_run hrun hstop, dropWhile_run hrun hstop,
      ih]
    rfl
  | mark hc _ ih =>
    obtain ⟨hblank, hnumeral, hname⟩ := kinds_of_mark? hc
    rw [Token.lex, if_neg (by simp [hblank]), if_neg (by simp [hnumeral]),
      if_neg (by simp [hname]), hc, ih]
    rfl

/-- A text spells no more than one row of tokens. -/
theorem Spells.unique {cs : List Char} {ts us : List Token} (h : Spells cs ts)
    (h' : Spells cs us) : ts = us :=
  Option.some.inj ((lex_of_spells h).symm.trans (lex_of_spells h'))

end Skirmish.Formula
