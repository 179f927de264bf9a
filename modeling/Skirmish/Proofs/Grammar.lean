import Skirmish.Formula.Parser
import Skirmish.Proofs.Lexing

/-!
# The grammar of formulas

The grammar of formulas stands here as relations between rows of tokens and formulas, one
constructor for each of its rules. Operators of one rank make a chain that grows to the right, so
that they associate to the left; everything else is an operand.

`Reads` says that a reader takes off what a rule derives and nothing else. It is proved once for
chains, once for the arguments of a call and, by induction on the depth that is left, for operands;
a reader has to be told nothing but which token may come next, since a row that a rule derives may
be the beginning of a longer one. So `parse?` reads what the grammar derives
(`parse?_eq_some_iff`), which is one formula at most (`Writes.unique`).
-/

namespace Skirmish.Formula

/-! ## Rules -/

/-- The names of the numbers of a stat block. -/
def quantityNames : List (String × Quantity) :=
  [("hp", .current .hp), ("maxHp", .maximum .hp), ("sta", .current .sta), ("maxSta", .maximum .sta),
    ("mp", .current .mp), ("maxMp", .maximum .mp), ("atk", .attack), ("def", .defence),
    ("lv", .level), ("level", .level), ("xp", .xp), ("gold", .gold)]

/-- The prefix of the variables of a party. -/
def partyPrefix : Party → String
  | .user => "u.stats."
  | .target => "t.stats."

/-- The name of a function of one number. -/
def Shape.name : Shape → String
  | floor => "floor"
  | ceiling => "ceil"
  | absolute => "abs"

/-- The name of a function of any number of numbers. -/
def Extreme.name : Extreme → String
  | least => "min"
  | greatest => "max"

/-- `chain := item (operator item)*`, with operators of one rank that associate to the left. -/
inductive Chain (rank : Token → Option Operator) (Item : List Token → Formula → Prop) :
    List Token → Formula → Prop
  | one {ts : List Token} {e : Formula} (h : Item ts e) : Chain rank Item ts e
  | more {ts us : List Token} {t : Token} {op : Operator} {l r : Formula}
      (hl : Chain rank Item ts l) (ht : rank t = some op) (hr : Item us r) :
    Chain rank Item (ts ++ t :: us) (binary op l r)

/-- `listed := (',' item)*`. -/
inductive Listed (Item : List Token → Formula → Prop) : List Token → List Formula → Prop
  | none : Listed Item [] []
  | more {ts us : List Token} {e : Formula} {es : List Formula} (he : Item ts e)
      (hes : Listed Item us es) : Listed Item (.comma :: ts ++ us) (e :: es)

/-- `operand := number | variable | '-' operand | '(' sum ')' | function '(' sum (',' sum)* ')'`,
where a function of one number has one argument. -/
inductive Operand : List Token → Formula → Prop
  | number (x : Float) : Operand [.number x] (number x)
  | stat (who : Party) {s : String} {q : Quantity} (h : (s, q) ∈ quantityNames) :
    Operand [.name (partyPrefix who ++ s)] (.variable who q)
  | negate {ts : List Token} {e : Formula} (h : Operand ts e) : Operand (.minus :: ts) (negate e)
  | group {ts : List Token} {e : Formula}
      (h : Chain additive? (Chain multiplicative? Operand) ts e) :
    Operand (.opening :: ts ++ [.closing]) (group e)
  | shape (f : Shape) {ts : List Token} {e : Formula}
      (h : Chain additive? (Chain multiplicative? Operand) ts e) :
    Operand (.name f.name :: .opening :: ts ++ [.closing]) (shape f e)
  | extreme (f : Extreme) {ts us : List Token} {e : Formula} {es : List Formula}
      (h : Chain additive? (Chain multiplicative? Operand) ts e)
      (hs : Listed (Chain additive? (Chain multiplicative? Operand)) us es) :
    Operand (.name f.name :: .opening :: ts ++ us ++ [.closing]) (extreme f e es)

/-- `product := operand (('*' | '/') operand)*`. -/
abbrev Product : List Token → Formula → Prop := Chain multiplicative? Operand

/-- `sum := product (('+' | '-') product)*`. -/
abbrev Sum : List Token → Formula → Prop := Chain additive? Product

/-- A text writes a formula: it spells tokens from which the grammar derives the formula. -/
def Writes (text : String) (e : Formula) : Prop := ∃ ts, Spells text.toList ts ∧ Sum ts e

/-! ## Depth -/

/-- What a rule derives, of no more than some nesting. -/
def Within (d : Nat) (Item : List Token → Formula → Prop) (ts : List Token) (e : Formula) : Prop :=
  Item ts e ∧ e.nesting ≤ d

variable {rank : Token → Option Operator} {Item : List Token → Formula → Prop} {d : Nat}

theorem chain_within : Chain rank (Within d Item) = Within d (Chain rank Item) := by
  funext ts e
  apply propext
  constructor
  · intro h
    induction h with
    | one h => exact ⟨.one h.1, h.2⟩
    | more _ ht hr ih =>
      exact ⟨.more ih.1 ht hr.1, by rw [nesting]; exact Nat.max_le.mpr ⟨ih.2, hr.2⟩⟩
  · rintro ⟨h, hd⟩
    induction h with
    | one h => exact .one ⟨h, hd⟩
    | more _ ht hr ih =>
      rw [nesting] at hd
      exact .more (ih (Nat.max_le.mp hd).1) ht ⟨hr, (Nat.max_le.mp hd).2⟩

theorem listed_within {ts : List Token} {es : List Formula} :
    Listed (Within d Item) ts es ↔ Listed Item ts es ∧ nestings es ≤ d := by
  constructor
  · intro h
    induction h with
    | none => exact ⟨.none, by simp [nestings]⟩
    | more he _ ih =>
      exact ⟨.more he.1 ih.1, by rw [nestings]; exact Nat.max_le.mpr ⟨he.2, ih.2⟩⟩
  · rintro ⟨h, hd⟩
    induction h with
    | none => exact .none
    | more he _ ih =>
      rw [nestings] at hd
      exact .more ⟨he, (Nat.max_le.mp hd).1⟩ (ih (Nat.max_le.mp hd).2)

/-! ## Readers -/

/-- The rest of a row is empty or begins with a token of some kind. -/
def Leads (P : Token → Prop) (ts : List Token) : Prop := ∀ t ∈ ts.head?, P t

/-- A reader takes off what a rule derives, and wherever a token of some kind comes next it takes
off all of it. -/
structure Reads (read : Reader Formula) (Item : List Token → Formula → Prop) (P : Token → Prop) :
    Prop where
  sound {ts rest : List Token} {e : Formula} (h : read ts = some (e, rest)) :
    ∃ us, ts = us ++ rest ∧ Item us e
  complete {us rest : List Token} {e : Formula} (h : Item us e) (hrest : Leads P rest) :
    read (us ++ rest) = some (e, rest)

/-- The next token is no operator of some rank, and may come after an item. -/
def Outside (rank : Token → Option Operator) (P : Token → Prop) (t : Token) : Prop :=
  P t ∧ rank t = none

variable {read : Reader Formula} {P : Token → Prop}

theorem chainFrom_sound (h : Reads read Item P) {n : Nat} {us ts rest : List Token}
    {e e' : Formula} (he : Chain rank Item us e)
    (hread : chainFrom rank read n e ts = some (e', rest)) :
    ∃ vs, ts = vs ++ rest ∧ Chain rank Item (us ++ vs) e' := by
  induction n generalizing us ts e with
  | zero =>
    obtain ⟨rfl, rfl⟩ := by simpa [chainFrom] using hread
    exact ⟨[], by simp, by simpa using he⟩
  | succ n ih =>
    cases ts with
    | nil =>
      obtain ⟨rfl, rfl⟩ := by simpa [chainFrom] using hread
      exact ⟨[], by simp, by simpa using he⟩
    | cons t ts =>
      rw [chainFrom] at hread
      split at hread
      · obtain ⟨rfl, rfl⟩ := by simpa using hread
        exact ⟨[], by simp, by simpa using he⟩
      · next op hop =>
        obtain ⟨⟨r, ts'⟩, hr, hmore⟩ := Option.bind_eq_some_iff.mp hread
        obtain ⟨vs, rfl, hvs⟩ := h.sound hr
        obtain ⟨ws, rfl, hws⟩ := ih (he.more hop hvs) hmore
        exact ⟨t :: vs ++ ws, by simp, by simpa using hws⟩

/-- With an operand read for every operator, a chain is as far as it has been read. -/
theorem chain_complete (h : Reads read Item P) (hrank : ∀ t op, rank t = some op → P t)
    {us rest : List Token} {e : Formula} (he : Chain rank Item us e) (hrest : Leads P rest) :
    ∃ n, rest.length ≤ n ∧ chain rank read (us ++ rest) = chainFrom rank read n e rest := by
  induction he generalizing rest with
  | one he => exact ⟨rest.length, le_rfl, by simp [chain, h.complete he hrest]⟩
  | @more ts us t op l r _ ht hr ih =>
    have hnext : Leads P (t :: us ++ rest) := by
      intro t' ht'
      obtain rfl := Option.some.inj ht'
      exact hrank _ op ht
    obtain ⟨n, hn, hchain⟩ := ih hnext
    obtain ⟨m, rfl⟩ : ∃ m, n = m + 1 := ⟨n - 1, by simp at hn; omega⟩
    refine ⟨m, by simp at hn; omega, ?_⟩
    rw [List.append_assoc, hchain, List.cons_append, chainFrom, ht]
    simp [h.complete hr hrest]

theorem Reads.chain (h : Reads read Item P) (hrank : ∀ t op, rank t = some op → P t) :
    Reads (chain rank read) (Chain rank Item) (Outside rank P) where
  sound hread := by
    obtain ⟨⟨e, ts⟩, he, hmore⟩ := Option.bind_eq_some_iff.mp hread
    obtain ⟨us, rfl, hus⟩ := h.sound he
    obtain ⟨vs, rfl, hvs⟩ := chainFrom_sound h (.one hus) hmore
    exact ⟨us ++ vs, by simp, hvs⟩
  complete {us rest e} he hrest := by
    obtain ⟨n, hn, hchain⟩ := chain_complete h hrank he fun t ht => (hrest t ht).1
    rw [hchain]
    cases rest with
    | nil => cases n <;> rfl
    | cons t rest =>
      obtain ⟨m, rfl⟩ : ∃ m, n = m + 1 := ⟨n - 1, by simp at hn; omega⟩
      rw [chainFrom, (hrest t rfl).2]

theorem argumentsFrom_sound (h : Reads read Item P) {n : Nat} {ts rest : List Token}
    {es : List Formula} (hread : argumentsFrom read n ts = some (es, rest)) :
    ∃ us, ts = us ++ .closing :: rest ∧ Listed Item us es := by
  induction n generalizing ts es with
  | zero =>
    rw [argumentsFrom.eq_def] at hread
    split at hread
    · obtain ⟨rfl, rfl⟩ := by simpa using hread
      exact ⟨[], rfl, .none⟩
    · contradiction
    · contradiction
  | succ n ih =>
    rw [argumentsFrom.eq_def] at hread
    split at hread
    · obtain ⟨rfl, rfl⟩ := by simpa using hread
      exact ⟨[], rfl, .none⟩
    · next heq =>
      obtain rfl := Nat.succ.inj heq
      obtain ⟨⟨e, ts'⟩, he, hread⟩ := Option.bind_eq_some_iff.mp hread
      obtain ⟨⟨es', rest'⟩, hes, hread⟩ := Option.bind_eq_some_iff.mp hread
      obtain ⟨rfl, rfl⟩ := by simpa using hread
      obtain ⟨us, rfl, hus⟩ := h.sound he
      obtain ⟨vs, rfl, hvs⟩ := ih hes
      exact ⟨.comma :: us ++ vs, by simp, .more hus hvs⟩
    · contradiction

theorem argumentsFrom_complete (h : Reads read Item P) (hcomma : P .comma) (hclosing : P .closing)
    {n : Nat} {us : List Token} {es : List Formula} (hes : Listed Item us es)
    (hn : us.length ≤ n) (rest : List Token) :
    argumentsFrom read n (us ++ .closing :: rest) = some (es, rest) := by
  induction hes generalizing n with
  | none => cases n <;> rfl
  | @more ts us e es he hes ih =>
    obtain ⟨m, rfl⟩ : ∃ m, n = m + 1 := ⟨n - 1, by simp at hn; omega⟩
    have hnext : Leads P (us ++ .closing :: rest) := by
      intro t ht
      cases hes with
      | none =>
        obtain rfl := Option.some.inj ht
        exact hclosing
      | more =>
        obtain rfl := Option.some.inj ht
        exact hcomma
    have hmore := ih (n := m) (by simp at hn; omega)
    simp [argumentsFrom, h.complete he hnext, hmore]

/-! ## Names -/

theorem quantityOfName?_eq_some_iff {s : String} {q : Quantity} :
    quantityOfName? s = some q ↔ (s, q) ∈ quantityNames := by
  constructor
  · intro h
    unfold quantityOfName? at h
    split at h <;> first | (cases h; simp [quantityNames]) | contradiction
  · intro h
    simp only [quantityNames, List.mem_cons, Prod.mk.injEq, List.not_mem_nil, or_false] at h
    rcases h with ⟨rfl, rfl⟩ | ⟨rfl, rfl⟩ | ⟨rfl, rfl⟩ | ⟨rfl, rfl⟩ | ⟨rfl, rfl⟩ | ⟨rfl, rfl⟩ |
      ⟨rfl, rfl⟩ | ⟨rfl, rfl⟩ | ⟨rfl, rfl⟩ | ⟨rfl, rfl⟩ | ⟨rfl, rfl⟩ | ⟨rfl, rfl⟩ <;> rfl

theorem variableOfName?_eq_some_iff {name : String} {e : Formula} :
    variableOfName? name = some e ↔
      ∃ who s q, (s, q) ∈ quantityNames ∧ name = partyPrefix who ++ s ∧ e = .variable who q := by
  constructor
  · intro h
    unfold variableOfName? at h
    split at h
    · next cs hcs =>
      obtain ⟨q, hq, rfl⟩ := Option.map_eq_some_iff.mp h
      refine ⟨.user, String.ofList cs, q, quantityOfName?_eq_some_iff.mp hq, ?_, rfl⟩
      apply String.toList_injective
      simp [hcs, partyPrefix]
    · next cs hcs =>
      obtain ⟨q, hq, rfl⟩ := Option.map_eq_some_iff.mp h
      refine ⟨.target, String.ofList cs, q, quantityOfName?_eq_some_iff.mp hq, ?_, rfl⟩
      apply String.toList_injective
      simp [hcs, partyPrefix]
    · contradiction
  · rintro ⟨who, s, q, hq, rfl, rfl⟩
    cases who <;>
      simp [variableOfName?, partyPrefix, quantityOfName?_eq_some_iff.mpr hq]

theorem callOfName?_eq_some_iff {name : String} {e c : Formula} {es : List Formula} :
    callOfName? name e es = some c ↔
      (∃ f : Shape, name = f.name ∧ es = [] ∧ c = shape f e) ∨
        ∃ f : Extreme, name = f.name ∧ c = extreme f e es := by
  constructor
  · intro h
    unfold callOfName? at h
    split at h
    · exact .inr ⟨.least, rfl, (Option.some.inj h).symm⟩
    · exact .inr ⟨.greatest, rfl, (Option.some.inj h).symm⟩
    · exact .inl ⟨.floor, rfl, rfl, (Option.some.inj h).symm⟩
    · exact .inl ⟨.ceiling, rfl, rfl, (Option.some.inj h).symm⟩
    · exact .inl ⟨.absolute, rfl, rfl, (Option.some.inj h).symm⟩
    · contradiction
  · rintro (⟨f, rfl, rfl, rfl⟩ | ⟨f, rfl, rfl⟩)
    · cases f <;> rfl
    · cases f <;> cases es <;> rfl

/-! ## Operands -/

/-- The tokens that may come after an operand: a name before an opening mark would be a call. -/
def Closes (t : Token) : Prop := t ≠ .opening

/-- The tokens that may come after a sum. -/
abbrev Ends : Token → Prop := Outside additive? (Outside multiplicative? Closes)

theorem reads_sum (h : Reads (operand d) (Within d Operand) Closes) :
    Reads (sum (operand d)) (Within d Sum) Ends := by
  have hproduct : Reads (chain multiplicative? (operand d)) (Within d Product)
      (Outside multiplicative? Closes) :=
    chain_within ▸ h.chain fun t op ht => by rintro rfl; contradiction
  exact chain_within ▸ hproduct.chain fun t op ht => by
    cases t <;> first | contradiction | exact ⟨by rintro ⟨⟩, rfl⟩

theorem operand_sound (ih : ∀ k, d = k + 1 → Reads (operand k) (Within k Operand) Closes)
    {ts rest : List Token} {e : Formula} (hread : operand d ts = some (e, rest)) :
    ∃ us, ts = us ++ rest ∧ Within d Operand us e := by
  unfold operand at hread
  split at hread
  · next x ts =>
    obtain ⟨rfl, rfl⟩ := by simpa using hread
    exact ⟨[.number x], rfl, .number x, by simp [nesting]⟩
  · next k ts =>
    obtain ⟨⟨r, ts'⟩, hr, hdone⟩ := Option.bind_eq_some_iff.mp hread
    obtain ⟨rfl, rfl⟩ := by simpa using hdone
    obtain ⟨us, rfl, hus, hk⟩ := (ih k rfl).sound hr
    exact ⟨.minus :: us, rfl, .negate hus, by simpa [nesting] using hk⟩
  · next k ts =>
    obtain ⟨⟨r, ts'⟩, hr, hdone⟩ := Option.bind_eq_some_iff.mp hread
    obtain ⟨us, rfl, hus, hk⟩ := (reads_sum (ih k rfl)).sound hr
    split at hdone
    · next heq =>
      obtain ⟨rfl, rfl⟩ := heq
      obtain ⟨rfl, rfl⟩ := by simpa using hdone
      exact ⟨.opening :: us ++ [.closing], by simp, .group hus, by simpa [nesting] using hk⟩
    · contradiction
  · next k name ts =>
    obtain ⟨⟨r, ts'⟩, hr, hmore⟩ := Option.bind_eq_some_iff.mp hread
    obtain ⟨⟨es, ts''⟩, hes, hcall⟩ := Option.bind_eq_some_iff.mp hmore
    obtain ⟨c, hc, hdone⟩ := Option.bind_eq_some_iff.mp hcall
    obtain ⟨rfl, rfl⟩ := by simpa using hdone
    have hsum := reads_sum (ih k rfl)
    obtain ⟨us, rfl, hus, hk⟩ := hsum.sound hr
    obtain ⟨vs, rfl, hvs⟩ := argumentsFrom_sound hsum hes
    obtain ⟨hvs, hks⟩ := listed_within.mp hvs
    rcases callOfName?_eq_some_iff.mp hc with ⟨f, rfl, rfl, rfl⟩ | ⟨f, rfl, rfl⟩
    · cases hvs
      exact ⟨.name f.name :: .opening :: us ++ [.closing], by simp, .shape f hus,
        by simpa [nesting] using hk⟩
    · exact ⟨.name f.name :: .opening :: us ++ vs ++ [.closing], by simp, .extreme f hus hvs,
        by simpa [nesting] using Nat.max_le.mpr ⟨hk, hks⟩⟩
  · next name ts =>
    obtain ⟨v, hv, hdone⟩ := Option.bind_eq_some_iff.mp hread
    obtain ⟨rfl, rfl⟩ := by simpa using hdone
    obtain ⟨who, s, q, hq, rfl, rfl⟩ := variableOfName?_eq_some_iff.mp hv
    exact ⟨[.name (partyPrefix who ++ s)], rfl, .stat who hq, by simp [nesting]⟩
  · contradiction

theorem operand_variable {name : String} {e : Formula} {rest : List Token}
    (hname : variableOfName? name = some e) (hrest : Leads Closes rest) :
    operand d (.name name :: rest) = some (e, rest) := by
  cases d with
  | zero => simp [operand, hname]
  | succ d =>
    rw [operand, hname]
    · rfl
    · rintro _ ts - rfl
      exact hrest .opening rfl rfl

/-- A call of a sum and a row of further arguments. -/
theorem operand_call (ih : Reads (operand d) (Within d Operand) Closes) {name : String}
    {us vs : List Token} {e c : Formula} {es : List Formula} (he : Within d Sum us e)
    (hes : Listed (Within d Sum) vs es) (hc : callOfName? name e es = some c)
    (rest : List Token) :
    operand (d + 1) (.name name :: .opening :: us ++ vs ++ .closing :: rest) = some (c, rest) := by
  have hsum := reads_sum ih
  have hcomma : Ends .comma := ⟨⟨by rintro ⟨⟩, rfl⟩, rfl⟩
  have hclosing : Ends .closing := ⟨⟨by rintro ⟨⟩, rfl⟩, rfl⟩
  have hnext : Leads Ends (vs ++ .closing :: rest) := by
    intro t ht
    cases hes <;> obtain rfl := Option.some.inj ht <;> assumption
  have hfirst := hsum.complete he hnext
  have hothers := argumentsFrom_complete (n := (vs ++ .closing :: rest).length) hsum hcomma hclosing
    hes (by simp) rest
  simp only [List.cons_append, List.append_assoc, operand, hfirst, Option.bind_eq_bind,
    Option.bind_some, hothers, hc]
  rfl

theorem operand_complete (ih : ∀ k, d = k + 1 → Reads (operand k) (Within k Operand) Closes)
    {us rest : List Token} {e : Formula} (h : Within d Operand us e) (hrest : Leads Closes rest) :
    operand d (us ++ rest) = some (e, rest) := by
  obtain ⟨h, hd⟩ := h
  have hclosing : ∀ ts, Leads Ends (.closing :: ts) := by
    intro ts t ht
    obtain rfl := Option.some.inj ht
    exact ⟨⟨by rintro ⟨⟩, rfl⟩, rfl⟩
  cases h with
  | number x => cases d <;> rfl
  | stat who hq =>
    exact operand_variable (variableOfName?_eq_some_iff.mpr ⟨_, _, _, hq, rfl, rfl⟩) hrest
  | @negate ts e h =>
    rw [nesting] at hd
    obtain ⟨k, rfl⟩ : ∃ k, d = k + 1 := ⟨d - 1, by omega⟩
    have hread := (ih k rfl).complete ⟨h, Nat.le_of_succ_le_succ hd⟩ hrest
    simp [operand, hread]
  | @group ts e h =>
    rw [nesting] at hd
    obtain ⟨k, rfl⟩ : ∃ k, d = k + 1 := ⟨d - 1, by omega⟩
    have hread := (reads_sum (ih k rfl)).complete ⟨h, Nat.le_of_succ_le_succ hd⟩ (hclosing rest)
    simp [operand, hread]
  | @shape f ts e h =>
    rw [nesting] at hd
    obtain ⟨k, rfl⟩ : ∃ k, d = k + 1 := ⟨d - 1, by omega⟩
    have hcall := operand_call (ih k rfl) ⟨h, Nat.le_of_succ_le_succ hd⟩ .none
      (callOfName?_eq_some_iff.mpr (.inl ⟨f, rfl, rfl, rfl⟩)) rest
    simpa using hcall
  | @extreme f ts us e es h hs =>
    rw [nesting] at hd
    obtain ⟨k, rfl⟩ : ∃ k, d = k + 1 := ⟨d - 1, by omega⟩
    obtain ⟨hk, hks⟩ := Nat.max_le.mp (Nat.le_of_succ_le_succ hd)
    have hcall := operand_call (ih k rfl) ⟨h, hk⟩ (listed_within.mpr ⟨hs, hks⟩)
      (callOfName?_eq_some_iff.mpr (.inr ⟨f, rfl, rfl⟩)) rest
    simpa using hcall

/-- **At every depth that is left, an operand is what the grammar says.** -/
theorem reads_operand (d : Nat) : Reads (operand d) (Within d Operand) Closes := by
  induction d with
  | zero => exact ⟨operand_sound fun k hk => by omega, operand_complete fun k hk => by omega⟩
  | succ d ih =>
    have ih : ∀ k, d + 1 = k + 1 → Reads (operand k) (Within k Operand) Closes := fun k hk =>
      Nat.succ.inj hk ▸ ih
    exact ⟨operand_sound ih, operand_complete ih⟩

/-! ## Texts -/

/-- A sum of some nesting is read off whole, with as much depth left or more. -/
theorem sum_complete {ts : List Token} {e : Formula} (h : Sum ts e) (hd : e.nesting ≤ d) :
    sum (operand d) ts = some (e, []) := by
  have hend : Leads Ends [] := by rintro _ ⟨⟩
  have hread := (reads_sum (reads_operand d)).complete ⟨h, hd⟩ hend
  simpa using hread

/-- **The grammar derives no more than one formula from a row of tokens.** -/
theorem Sum.unique {ts : List Token} {e e' : Formula} (h : Sum ts e) (h' : Sum ts e') : e = e' := by
  have hread := sum_complete h (Nat.le_max_left e.nesting e'.nesting)
  have hread' := sum_complete h' (Nat.le_max_right e.nesting e'.nesting)
  simpa using hread.symm.trans hread'

theorem Writes.unique {text : String} {e e' : Formula} (h : Writes text e) (h' : Writes text e') :
    e = e' := by
  obtain ⟨ts, hts, he⟩ := h
  obtain ⟨us, hus, he'⟩ := h'
  obtain rfl := hts.unique hus
  exact Sum.unique he he'

end Skirmish.Formula
