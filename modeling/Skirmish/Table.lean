/-!
# Finite tables

A `Table α` maps finitely many strings to values of `α`. Its entries are kept in strictly increasing
order of their keys, so a table is determined by its look-ups (`Table.ext_get?`): equality of tables
is equality of maps, whatever order the entries were inserted in.

* `get?_insert`, `get?_erase` and `get?_mapValues` say what each operation does to a look-up;
* `mem_entries_iff` ties the entries to the look-ups, `mem_keys_iff` the keys;
* `Each` says that something holds of every entry, with what each operation makes of it;
* `ofList_of_perm` says that the order in which entries come does not matter.
-/

namespace Skirmish

/-! ## Sorted entries -/

namespace Entries

variable {α β : Type}

/-- The value at a key. -/
def lookup (k : String) : List (String × α) → Option α
  | [] => none
  | (k', v) :: rest => if k = k' then some v else lookup k rest

/-- Puts a value at a key, in key order; a value already there is replaced. -/
def insert (k : String) (v : α) : List (String × α) → List (String × α)
  | [] => [(k, v)]
  | (k', v') :: rest =>
    if k < k' then (k, v) :: (k', v') :: rest
    else if k = k' then (k, v) :: rest
    else (k', v') :: insert k v rest

/-- The keys increase strictly. -/
def Sorted (es : List (String × α)) : Prop := es.Pairwise fun a b => a.1 < b.1

instance (es : List (String × α)) : Decidable (Sorted es) :=
  inferInstanceAs (Decidable (es.Pairwise fun a b => a.1 < b.1))

theorem lt_of_not_lt_of_ne {a b : String} (h : ¬ a < b) (hne : a ≠ b) : b < a := by
  rcases Std.Trichotomous.rel_or_eq_or_rel_swap (r := (· < · : String → String → Prop))
    (a := a) (b := b) with h' | h' | h'
  · exact absurd h' h
  · exact absurd h' hne
  · exact h'

theorem ne_of_lt {a b : String} (h : a < b) : a ≠ b := fun e => String.lt_irrefl _ (e ▸ h)

theorem mem_insert {k : String} {v : α} {es : List (String × α)} {e : String × α}
    (h : e ∈ insert k v es) : e = (k, v) ∨ e ∈ es := by
  induction es with
  | nil => simpa [insert] using h
  | cons hd rest ih =>
    obtain ⟨k', v'⟩ := hd
    rw [insert] at h
    split at h
    · simpa using h
    · split at h
      · rcases List.mem_cons.1 h with h | h
        · exact .inl h
        · exact .inr (List.mem_cons_of_mem _ h)
      · rcases List.mem_cons.1 h with h | h
        · exact .inr (h ▸ List.mem_cons_self)
        · exact (ih h).imp_right (List.mem_cons_of_mem _)

theorem sorted_insert (k : String) (v : α) {es : List (String × α)} (h : Sorted es) :
    Sorted (insert k v es) := by
  induction es with
  | nil => exact List.pairwise_singleton _ _
  | cons hd rest ih =>
    obtain ⟨k', v'⟩ := hd
    obtain ⟨hlt, hrest⟩ := List.pairwise_cons.1 h
    rw [insert]
    split
    · next hk =>
      refine List.pairwise_cons.2 ⟨fun e he => ?_, h⟩
      rcases List.mem_cons.1 he with rfl | he
      · exact hk
      · exact String.lt_trans hk (hlt e he)
    · split
      · next he => exact List.pairwise_cons.2 ⟨fun e hm => he ▸ hlt e hm, hrest⟩
      · next hk hne =>
        refine List.pairwise_cons.2 ⟨fun e he => ?_, ih hrest⟩
        rcases mem_insert he with rfl | he
        · exact lt_of_not_lt_of_ne hk hne
        · exact hlt e he

theorem lookup_insert (k q : String) (v : α) (es : List (String × α)) :
    lookup q (insert k v es) = if q = k then some v else lookup q es := by
  induction es with
  | nil => rfl
  | cons hd rest ih =>
    obtain ⟨k', v'⟩ := hd
    rw [insert]
    split
    · rfl
    · split
      · next he => subst he; by_cases hq : q = k <;> simp [lookup, hq]
      · next hne =>
        simp only [lookup, ih]
        by_cases hq : q = k'
        · subst hq; simp [Ne.symm hne]
        · simp [hq]

theorem lookup_of_mem {es : List (String × α)} (h : Sorted es) {k : String} {v : α}
    (hm : (k, v) ∈ es) : lookup k es = some v := by
  induction es with
  | nil => exact absurd hm (by simp)
  | cons hd rest ih =>
    obtain ⟨k', v'⟩ := hd
    obtain ⟨hlt, hrest⟩ := List.pairwise_cons.1 h
    rcases List.mem_cons.1 hm with he | hm
    · obtain ⟨rfl, rfl⟩ := Prod.mk.inj he
      simp [lookup]
    · have hne : k ≠ k' := (ne_of_lt (hlt _ hm)).symm
      simp [lookup, hne, ih hrest hm]

theorem mem_of_lookup {es : List (String × α)} {k : String} {v : α} (h : lookup k es = some v) :
    (k, v) ∈ es := by
  induction es with
  | nil => exact absurd h (by simp [lookup])
  | cons hd rest ih =>
    obtain ⟨k', v'⟩ := hd
    rw [lookup] at h
    split at h
    · next he => subst he; cases h; exact List.mem_cons_self
    · exact List.mem_cons_of_mem _ (ih h)

theorem lookup_filter (p : String × α → Bool) {es : List (String × α)} (h : Sorted es)
    (q : String) :
    lookup q (es.filter p) = (lookup q es).filter fun v => p (q, v) := by
  cases hq : lookup q es with
  | none =>
    cases hf : lookup q (es.filter p) with
    | none => rfl
    | some v =>
      have := lookup_of_mem h ((List.mem_filter.1 (mem_of_lookup hf)).1)
      rw [hq] at this
      cases this
  | some v =>
    have hm := mem_of_lookup hq
    by_cases hp : p (q, v)
    · rw [lookup_of_mem (h.filter p) (List.mem_filter.2 ⟨hm, hp⟩)]
      simp [Option.filter, hp]
    · cases hf : lookup q (es.filter p) with
      | none => simp [Option.filter, hp]
      | some w =>
        obtain ⟨hm', hp'⟩ := List.mem_filter.1 (mem_of_lookup hf)
        rw [lookup_of_mem h hm'] at hq
        cases hq
        exact absurd hp' hp

theorem lookup_map (f : α → β) (es : List (String × α)) (q : String) :
    lookup q (es.map fun e => (e.1, f e.2)) = (lookup q es).map f := by
  induction es with
  | nil => rfl
  | cons hd rest ih =>
    simp only [List.map_cons, lookup]
    split
    · rfl
    · exact ih

theorem sorted_map (f : α → β) {es : List (String × α)} (h : Sorted es) :
    Sorted (es.map fun e => (e.1, f e.2)) :=
  List.Pairwise.map _ (fun _ _ hlt => hlt) h

/-- Sorted entries with the same look-ups are the same entries. -/
theorem eq_of_lookup {xs ys : List (String × α)} (hx : Sorted xs) (hy : Sorted ys)
    (h : ∀ k, lookup k xs = lookup k ys) : xs = ys := by
  induction xs generalizing ys with
  | nil =>
    cases ys with
    | nil => rfl
    | cons y ys => exact absurd (h y.1) (by simp [lookup])
  | cons x xs ih =>
    obtain ⟨hxlt, hxs⟩ := List.pairwise_cons.1 hx
    cases ys with
    | nil => exact absurd (h x.1) (by simp [lookup])
    | cons y ys =>
      obtain ⟨hylt, hys⟩ := List.pairwise_cons.1 hy
      have hmx : x ∈ y :: ys := mem_of_lookup (k := x.1) (v := x.2) (by rw [← h]; simp [lookup])
      have hmy : y ∈ x :: xs := mem_of_lookup (k := y.1) (v := y.2) (by rw [h]; simp [lookup])
      have hxy : x = y := by
        rcases List.mem_cons.1 hmx with e | hmx
        · exact e
        · rcases List.mem_cons.1 hmy with e | hmy
          · exact e.symm
          · exact absurd (String.lt_trans (hxlt _ hmy) (hylt _ hmx)) (String.lt_irrefl _)
      subst hxy
      rw [ih hxs hys fun k => ?_]
      have hk := h k
      by_cases he : k = x.1
      · subst he
        have fresh : ∀ {zs : List (String × α)}, (∀ e ∈ zs, x.1 < e.1) → lookup x.1 zs = none := by
          intro zs hz
          cases hl : lookup x.1 zs with
          | none => rfl
          | some v => exact absurd (hz _ (mem_of_lookup hl)) (String.lt_irrefl _)
        rw [fresh hxlt, fresh hylt]
      · simpa [lookup, he] using hk

end Entries

/-! ## Tables -/

/-- A finite map from strings to values, its entries in strictly increasing key order. -/
structure Table (α : Type) where
  entries : List (String × α)
  sorted : Entries.Sorted entries
deriving DecidableEq

namespace Table

variable {α β : Type}

/-- The table without entries. -/
def empty : Table α := ⟨[], List.Pairwise.nil⟩

instance : EmptyCollection (Table α) := ⟨empty⟩
instance : Inhabited (Table α) := ⟨empty⟩

/-- The value at a key. -/
def get? (t : Table α) (k : String) : Option α := Entries.lookup k t.entries

/-- Whether a key has a value. -/
def contains (t : Table α) (k : String) : Bool := (t.get? k).isSome

/-- Puts a value at a key and replaces what was there. -/
def insert (t : Table α) (k : String) (v : α) : Table α :=
  ⟨Entries.insert k v t.entries, Entries.sorted_insert k v t.sorted⟩

/-- Keeps the entries that pass. -/
def filter (p : String → α → Bool) (t : Table α) : Table α :=
  ⟨t.entries.filter fun e => p e.1 e.2, t.sorted.filter _⟩

/-- Takes a key out. -/
def erase (t : Table α) (k : String) : Table α := t.filter fun k' _ => k' != k

/-- Changes the value at a key, if there is one. -/
def modify (t : Table α) (k : String) (f : α → α) : Table α :=
  match t.get? k with
  | none => t
  | some v => t.insert k (f v)

/-- Changes every value. -/
def mapValues (f : α → β) (t : Table α) : Table β :=
  ⟨t.entries.map fun e => (e.1, f e.2), Entries.sorted_map f t.sorted⟩

/-- The table of a list of entries; a later entry for a key replaces an earlier one. -/
def ofList (es : List (String × α)) : Table α :=
  es.foldl (fun t e => t.insert e.1 e.2) empty

/-- The keys in increasing order. -/
def keys (t : Table α) : List String := t.entries.map Prod.fst

/-- The values in the order of their keys. -/
def values (t : Table α) : List α := t.entries.map Prod.snd

/-- The number of entries. -/
def size (t : Table α) : Nat := t.entries.length

/-- Whether there is no entry. -/
def isEmpty (t : Table α) : Bool := t.entries.isEmpty

/-! ## Look-ups -/

@[simp] theorem get?_empty (q : String) : (∅ : Table α).get? q = none := rfl

theorem get?_insert (t : Table α) (k q : String) (v : α) :
    (t.insert k v).get? q = if q = k then some v else t.get? q :=
  Entries.lookup_insert k q v t.entries

@[simp] theorem get?_insert_self (t : Table α) (k : String) (v : α) :
    (t.insert k v).get? k = some v := by
  simp [get?_insert]

theorem get?_insert_of_ne {t : Table α} {k q : String} (h : q ≠ k) (v : α) :
    (t.insert k v).get? q = t.get? q := by
  simp [get?_insert, h]

theorem get?_filter (p : String → α → Bool) (t : Table α) (q : String) :
    (t.filter p).get? q = (t.get? q).filter (p q) :=
  Entries.lookup_filter _ t.sorted q

theorem get?_erase (t : Table α) (k q : String) :
    (t.erase k).get? q = if q = k then none else t.get? q := by
  rw [erase, get?_filter]
  by_cases h : q = k <;> cases t.get? q <;> simp [Option.filter, h]

theorem get?_modify (t : Table α) (k q : String) (f : α → α) :
    (t.modify k f).get? q = if q = k then (t.get? k).map f else t.get? q := by
  unfold modify
  cases hk : t.get? k with
  | none => by_cases h : q = k <;> simp [h, hk]
  | some v => simp [get?_insert]

theorem get?_mapValues (f : α → β) (t : Table α) (q : String) :
    (t.mapValues f).get? q = (t.get? q).map f :=
  Entries.lookup_map f t.entries q

theorem mem_entries_iff {t : Table α} {k : String} {v : α} :
    (k, v) ∈ t.entries ↔ t.get? k = some v :=
  ⟨Entries.lookup_of_mem t.sorted, Entries.mem_of_lookup⟩

theorem get?_of_isEmpty {t : Table α} (h : t.isEmpty = true) (k : String) :
    t.get? k = none := by
  cases hk : t.get? k with
  | none => rfl
  | some v =>
    have hmem := mem_entries_iff.2 hk
    rw [List.isEmpty_iff.1 h] at hmem
    cases hmem

theorem contains_iff {t : Table α} {k : String} : t.contains k = true ↔ ∃ v, t.get? k = some v := by
  rw [contains, Option.isSome_iff_exists]

theorem mem_keys_iff {t : Table α} {k : String} : k ∈ t.keys ↔ t.contains k = true := by
  rw [contains_iff]
  constructor
  · intro h
    obtain ⟨⟨k', v⟩, hm, rfl⟩ := List.mem_map.1 h
    exact ⟨v, mem_entries_iff.1 hm⟩
  · rintro ⟨v, hv⟩
    exact List.mem_map.2 ⟨(k, v), mem_entries_iff.2 hv, rfl⟩

theorem nodup_keys (t : Table α) : t.keys.Nodup :=
  List.pairwise_map.2 (t.sorted.imp fun hlt => Entries.ne_of_lt hlt)

theorem length_keys (t : Table α) : t.keys.length = t.size := List.length_map _

theorem contains_insert (t : Table α) (k q : String) (v : α) :
    (t.insert k v).contains q = (q == k || t.contains q) := by
  rw [contains, get?_insert, contains]
  by_cases hq : q = k <;> simp [hq]

/-- A table is determined by its look-ups. -/
theorem ext_get? {s t : Table α} (h : ∀ k, s.get? k = t.get? k) : s = t := by
  obtain ⟨xs, hx⟩ := s
  obtain ⟨ys, hy⟩ := t
  have := Entries.eq_of_lookup hx hy h
  subst this
  rfl

/-! ## Undoing -/

/-- Putting a value where it already stands changes nothing. -/
theorem insert_of_get? {t : Table α} {k : String} {v : α} (h : t.get? k = some v) :
    t.insert k v = t := by
  apply ext_get?
  intro q
  rw [get?_insert]
  split
  · next hq => rw [hq, h]
  · rfl

/-- Taking out a key without a value changes nothing. -/
theorem erase_of_get? {t : Table α} {k : String} (h : t.get? k = none) : t.erase k = t := by
  apply ext_get?
  intro q
  rw [get?_erase]
  split
  · next hq => rw [hq, h]
  · rfl

/-- What is put at a key hides that the key was taken out before. -/
theorem insert_erase (t : Table α) (k : String) (v : α) :
    (t.erase k).insert k v = t.insert k v := by
  apply ext_get?
  intro q
  simp only [get?_insert, get?_erase]
  split <;> rfl

/-! ## Changing a value -/

theorem modify_of_get? {t : Table α} {k : String} {v : α} (h : t.get? k = some v) (f : α → α) :
    t.modify k f = t.insert k (f v) := by
  simp [modify, h]

theorem modify_of_get?_none {t : Table α} {k : String} (h : t.get? k = none) (f : α → α) :
    t.modify k f = t := by
  simp [modify, h]

theorem modify_modify (t : Table α) (k : String) (f g : α → α) :
    (t.modify k f).modify k g = t.modify k fun v => g (f v) := by
  apply ext_get?
  intro q
  simp only [get?_modify]
  split
  · cases t.get? k <;> rfl
  · rfl

/-! ## What every entry is like -/

/-- Something holds of every entry. -/
def Each (t : Table α) (p : String → α → Prop) : Prop := ∀ k v, t.get? k = some v → p k v

instance (t : Table α) (p : String → α → Prop) [∀ k v, Decidable (p k v)] :
    Decidable (t.Each p) :=
  decidable_of_iff (∀ e ∈ t.entries, p e.1 e.2)
    ⟨fun h k v hk => h (k, v) (mem_entries_iff.2 hk), fun h e he => h e.1 e.2 (mem_entries_iff.1 he)⟩

theorem each_empty (p : String → α → Prop) : (∅ : Table α).Each p := nofun

theorem isEmpty_insert (t : Table α) (k : String) (v : α) : (t.insert k v).isEmpty = false :=
  Bool.eq_false_iff.2 fun h => nomatch (get?_insert_self t k v).symm.trans (get?_of_isEmpty h k)

namespace Each

variable {t : Table α} {p q : String → α → Prop}

theorem mono (h : t.Each p) (hpq : ∀ k v, p k v → q k v) : t.Each q :=
  fun k v hk => hpq k v (h k v hk)

theorem insert (h : t.Each p) {k : String} {v : α} (hv : p k v) : (t.insert k v).Each p := by
  intro k' v' hk'
  rw [get?_insert] at hk'
  split at hk'
  · next hk =>
    cases hk'
    exact hk ▸ hv
  · exact h k' v' hk'

/-- The entries that pass a filter are entries that were there, and they pass. -/
theorem filter (h : t.Each p) (r : String → α → Bool) :
    (t.filter r).Each fun k v => p k v ∧ r k v = true := by
  intro k v hk
  rw [get?_filter] at hk
  obtain ⟨hk, hr⟩ := Option.filter_eq_some_iff.1 hk
  exact ⟨h k v hk, hr⟩

theorem erase (h : t.Each p) (k : String) : (t.erase k).Each p :=
  (h.filter _).mono fun _ _ => And.left

theorem modify (h : t.Each p) {k : String} {f : α → α}
    (hf : ∀ v, t.get? k = some v → p k v → p k (f v)) : (t.modify k f).Each p := by
  cases hk : t.get? k with
  | none =>
    rw [modify_of_get?_none hk]
    exact h
  | some v =>
    rw [modify_of_get? hk]
    exact h.insert (hf v hk (h k v hk))

theorem mapValues {r : String → β → Prop} (h : t.Each p) (f : α → β)
    (hf : ∀ k v, p k v → r k (f v)) : (t.mapValues f).Each r := by
  intro k v hk
  rw [get?_mapValues] at hk
  obtain ⟨w, hw, rfl⟩ := Option.map_eq_some_iff.1 hk
  exact hf k w (h k w hw)

/-- What holds of every row holds of the row of a key, as an empty row stands for none. -/
theorem getD {t : Table (Table α)} (h : t.Each fun _ row => row.Each p) (k : String) :
    ((t.get? k).getD ∅).Each p := by
  cases hk : t.get? k with
  | none => exact each_empty p
  | some row => exact h k row hk

end Each

/-! ## Order of entries -/

theorem get?_foldl_insert_of_notMem {es : List (String × α)} {k : String}
    (hk : k ∉ es.map Prod.fst) (t : Table α) :
    (es.foldl (fun t e => t.insert e.1 e.2) t).get? k = t.get? k := by
  induction es generalizing t with
  | nil => rfl
  | cons e es ih =>
    rw [List.map_cons, List.mem_cons, not_or] at hk
    rw [List.foldl_cons, ih hk.2, get?_insert_of_ne hk.1]

theorem get?_foldl_insert_of_mem {es : List (String × α)} (hn : (es.map Prod.fst).Nodup)
    {k : String} {v : α} (hkv : (k, v) ∈ es) (t : Table α) :
    (es.foldl (fun t e => t.insert e.1 e.2) t).get? k = some v := by
  induction es generalizing t with
  | nil => cases hkv
  | cons e es ih =>
    obtain ⟨hnew, hn⟩ := List.nodup_cons.1 hn
    rcases List.mem_cons.1 hkv with rfl | hkv
    · rw [List.foldl_cons, get?_foldl_insert_of_notMem hnew, get?_insert_self]
    · exact ih hn hkv _

/-- A table is that of its entries, in whatever order they come. -/
theorem ofList_of_perm {t : Table α} {es : List (String × α)} (h : es.Perm t.entries) :
    ofList es = t := by
  have hkeys : (es.map Prod.fst).Perm t.keys := h.map Prod.fst
  have hn : (es.map Prod.fst).Nodup := hkeys.nodup_iff.2 t.nodup_keys
  refine ext_get? fun k => ?_
  cases hk : t.get? k with
  | some v => exact get?_foldl_insert_of_mem hn (h.mem_iff.2 (mem_entries_iff.2 hk)) empty
  | none =>
    have hfree : k ∉ es.map Prod.fst := by
      rw [hkeys.mem_iff, mem_keys_iff, contains, hk]
      exact nofun
    exact (get?_foldl_insert_of_notMem hfree empty).trans rfl

end Table

end Skirmish
