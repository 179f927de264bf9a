import Skirmish.Number.Nearest
import Skirmish.Table

/-!
# Codecs

A `Codec` writes values as bytes and reads them back from the beginning of some bytes. The codecs
here are put together from a few: numbers stand in a fixed number of bytes, the least significant
one first, and every list, text and table begins with its length.

The entries of a table come in no particular order, so a value can be written in more ways than one.
A codec comes with them (`Codec.Written`) and with the two things that matter of them: each is read
back as the value, whatever bytes follow, and they are all the same bytes up to their order. That is
for values whose numbers and lengths fit the bytes they stand in (`Codec.fits`).
-/

namespace Skirmish

/-- Bytes. -/
abbrev Bytes := List UInt8

/-- How values are written as bytes and read from them; reading leaves the rest of the bytes. -/
structure Codec (α : Type) where
  write : α → Bytes
  read : Bytes → Option (α × Bytes)
  /-- Whether the numbers and lengths of a value fit the bytes that they stand in. -/
  fits : α → Bool
  /-- Whether a value may be written as some bytes. -/
  Written : α → Bytes → Prop
  written_write : ∀ x, Written x (write x)
  perm_write : ∀ {x xs}, Written x xs → xs.Perm (write x)
  read_written : ∀ {x xs} rest, fits x = true → Written x xs → read (xs ++ rest) = some (x, rest)

namespace Codec

variable {α β : Type}

/-- A codec under which a value can only be written in one way. -/
def plain (write : α → Bytes) (read : Bytes → Option (α × Bytes)) (fits : α → Bool)
    (h : ∀ x rest, fits x = true → read (write x ++ rest) = some (x, rest)) : Codec α where
  write := write
  read := read
  fits := fits
  Written x xs := xs = write x
  written_write _ := rfl
  perm_write h := .of_eq h
  read_written rest hfits hxs := by rw [hxs, h _ rest hfits]

/-! ## Numbers -/

/-- The `width` bytes of a number, the least significant one first. -/
def digits : Nat → Nat → Bytes
  | 0, _ => []
  | width + 1, n => UInt8.ofNat (n % 256) :: digits width (n / 256)

/-- The number that bytes stand for. -/
def ofDigits : Bytes → Nat
  | [] => 0
  | x :: xs => x.toNat + 256 * ofDigits xs

/-- How many numbers there are of a number of bytes. -/
def capacity : Nat → Nat
  | 0 => 1
  | width + 1 => 256 * capacity width

/-- Split a number of bytes off. -/
def split : Nat → Bytes → Option (Bytes × Bytes)
  | 0, xs => some ([], xs)
  | _ + 1, [] => none
  | n + 1, x :: xs => (split n xs).map fun (ys, rest) => (x :: ys, rest)

theorem split_digits (width n : Nat) (rest : Bytes) :
    split width (digits width n ++ rest) = some (digits width n, rest) := by
  induction width generalizing n with
  | zero => rfl
  | succ width ih => simp only [digits, List.cons_append, split, ih, Option.map_some]

theorem ofDigits_digits {width n : Nat} (h : n < capacity width) :
    ofDigits (digits width n) = n := by
  induction width generalizing n with
  | zero =>
    unfold capacity at h
    simp only [digits, ofDigits]
    omega
  | succ width ih =>
    unfold capacity at h
    have hdigit : (UInt8.ofNat (n % 256)).toNat = n % 256 := by
      rw [UInt8.toNat_ofNat']
      omega
    simp only [digits, ofDigits, hdigit, ih (show n / 256 < capacity width by omega)]
    omega

/-- A natural number in a fixed number of bytes. -/
def natural (width : Nat) : Codec Nat :=
  plain (digits width) (fun xs => (split width xs).map fun (ys, rest) => (ofDigits ys, rest))
    (fun n => n < capacity width) fun n rest h => by
      simp only [split_digits, Option.map_some, ofDigits_digits (of_decide_eq_true h)]

/-- A natural number of 32 bits. -/
def count : Codec Nat := natural 4

/-- A natural number of 64 bits. -/
def size : Codec Nat := natural 8

example : capacity 4 = greatestCount + 1 ∧ capacity 8 = greatestSize + 1 := by decide

/-! ## Combinations -/

/-- Write values by way of other ones, not all of which stand for a value. -/
def viaSome (c : Codec β) (f : α → β) (g : β → Option α) (ok : α → Bool)
    (h : ∀ x, ok x = true → g (f x) = some x) : Codec α where
  write x := c.write (f x)
  read xs := do
    let (y, rest) ← c.read xs
    return (← g y, rest)
  fits x := ok x && c.fits (f x)
  Written x := c.Written (f x)
  written_write x := c.written_write (f x)
  perm_write h := c.perm_write h
  read_written rest hfits hxs := by
    obtain ⟨hok, hfits⟩ := Bool.and_eq_true_iff.1 hfits
    simp [c.read_written rest hfits hxs, h _ hok]

/-- Write values by way of other ones. -/
def via (c : Codec β) (f : α → β) (g : β → α) (h : ∀ x, g (f x) = x) : Codec α :=
  c.viaSome f (fun y => some (g y)) (fun _ => true) fun x _ => congrArg some (h x)

/-- Two values, one after the other. -/
def pair (c : Codec α) (d : Codec β) : Codec (α × β) where
  write x := c.write x.1 ++ d.write x.2
  read xs := do
    let (x, xs) ← c.read xs
    let (y, xs) ← d.read xs
    return ((x, y), xs)
  fits x := c.fits x.1 && d.fits x.2
  Written x xs := ∃ ys zs, c.Written x.1 ys ∧ d.Written x.2 zs ∧ xs = ys ++ zs
  written_write x := ⟨_, _, c.written_write x.1, d.written_write x.2, rfl⟩
  perm_write := by
    rintro x _ ⟨ys, zs, hys, hzs, rfl⟩
    exact (c.perm_write hys).append (d.perm_write hzs)
  read_written := by
    rintro x _ rest hfits ⟨ys, zs, hys, hzs, rfl⟩
    obtain ⟨hc, hd⟩ := Bool.and_eq_true_iff.1 hfits
    simp [List.append_assoc, c.read_written _ hc hys, d.read_written rest hd hzs]

/-- Read `n` values. -/
def readMany (c : Codec α) : Nat → Bytes → Option (List α × Bytes)
  | 0, xs => some ([], xs)
  | n + 1, xs => do
    let (x, xs) ← c.read xs
    let (ys, xs) ← readMany c n xs
    return (x :: ys, xs)

/-- Whether values may be written as some bytes, one after the other. -/
def WrittenMany (c : Codec α) : List α → Bytes → Prop
  | [], xs => xs = []
  | y :: ys, xs => ∃ zs rest, c.Written y zs ∧ WrittenMany c ys rest ∧ xs = zs ++ rest

theorem writtenMany_write (c : Codec α) (ys : List α) : c.WrittenMany ys (ys.flatMap c.write) := by
  induction ys with
  | nil => rfl
  | cons y ys ih => exact ⟨_, _, c.written_write y, ih, List.flatMap_cons⟩

theorem perm_flatMap_write (c : Codec α) {ys : List α} {xs : Bytes} (h : c.WrittenMany ys xs) :
    xs.Perm (ys.flatMap c.write) := by
  induction ys generalizing xs with
  | nil => exact .of_eq h
  | cons y ys ih =>
    obtain ⟨zs, rest, hzs, hrest, rfl⟩ := h
    exact (c.perm_write hzs).append (ih hrest)

theorem readMany_written (c : Codec α) {ys : List α} {xs : Bytes} (rest : Bytes)
    (hfits : ys.all c.fits = true) (h : c.WrittenMany ys xs) :
    readMany c ys.length (xs ++ rest) = some (ys, rest) := by
  induction ys generalizing xs with
  | nil =>
    obtain rfl : xs = [] := h
    rfl
  | cons y ys ih =>
    obtain ⟨zs, xs', hzs, hxs', rfl⟩ := h
    obtain ⟨hy, hys⟩ := Bool.and_eq_true_iff.1 hfits
    simp [readMany, List.append_assoc, c.read_written _ hy hzs, ih hys hxs']

/-- A list, its length before its elements. -/
def list (c : Codec α) : Codec (List α) where
  write ys := size.write ys.length ++ ys.flatMap c.write
  read xs := do
    let (n, xs) ← size.read xs
    readMany c n xs
  fits ys := size.fits ys.length && ys.all c.fits
  Written ys xs := ∃ zs, c.WrittenMany ys zs ∧ xs = size.write ys.length ++ zs
  written_write ys := ⟨_, c.writtenMany_write ys, rfl⟩
  perm_write := by
    rintro ys _ ⟨zs, hzs, rfl⟩
    exact (c.perm_flatMap_write hzs).append_left _
  read_written := by
    rintro ys _ rest hfits ⟨zs, hzs, rfl⟩
    obtain ⟨hlength, hall⟩ := Bool.and_eq_true_iff.1 hfits
    simp [List.append_assoc, size.read_written _ hlength (size.written_write _),
      c.readMany_written rest hall hzs]

/-- A value or nothing, which one byte tells. -/
def option (c : Codec α) : Codec (Option α) where
  write
    | none => [0]
    | some x => 1 :: c.write x
  read
    | 0 :: xs => some (none, xs)
    | 1 :: xs => (c.read xs).map fun (x, rest) => (some x, rest)
    | _ => none
  fits x := x.all c.fits
  Written
    | none, xs => xs = [0]
    | some x, xs => ∃ ys, c.Written x ys ∧ xs = 1 :: ys
  written_write
    | none => rfl
    | some x => ⟨_, c.written_write x, rfl⟩
  perm_write := by
    rintro (_ | x) xs h
    · exact .of_eq h
    · obtain ⟨ys, hys, rfl⟩ := h
      exact (c.perm_write hys).cons 1
  read_written := by
    rintro (_ | x) xs rest hfits h
    · obtain rfl : xs = [0] := h
      rfl
    · obtain ⟨ys, hys, rfl⟩ := h
      exact congrArg (Option.map _) (c.read_written rest hfits hys)

/-- One of some values, by its place among them. -/
def oneOf [BEq α] [LawfulBEq α] (values : List α) : Codec α :=
  count.viaSome (fun x => values.idxOf x) (values[·]?) values.contains fun x h => by
    have hlt := List.idxOf_lt_length_of_mem (List.contains_iff_mem.1 h)
    rw [List.getElem?_eq_getElem hlt, List.getElem_idxOf]

/-! ## Values -/

/-- A truth value in one byte. -/
def truth : Codec Bool :=
  plain (fun b => [if b then 1 else 0])
    (fun
      | 0 :: xs => some (false, xs)
      | 1 :: xs => some (true, xs)
      | _ => none)
    (fun _ => true) fun b _ _ => by cases b <;> rfl

/-- A whole number of 64 bits; a negative one is written modulo `2 ^ 64`. -/
def whole : Codec Int :=
  size.viaSome (fun n => (n % 0x10000000000000000).toNat)
    (fun n => some (if n < 0x8000000000000000 then n else (n : Int) - 0x10000000000000000))
    (fun n => IsWhole n) fun n h => by
      obtain ⟨hleast, hgreatest⟩ : IsWhole n := of_decide_eq_true h
      unfold leastWhole at hleast
      unfold greatestWhole at hgreatest
      refine congrArg some ?_
      split <;> omega

/-- A word of 64 bits. -/
def word : Codec UInt64 := size.via UInt64.toNat UInt64.ofNat fun _ => UInt64.ofNat_toNat

/-- One byte. -/
def byte : Codec UInt8 :=
  plain (fun x => [x])
    (fun
      | x :: xs => some (x, xs)
      | [] => none)
    (fun _ => true) fun _ _ _ => rfl

/-- A text, the length of its UTF-8 form before that form. -/
def text : Codec String :=
  (list byte).viaSome (fun s => s.toUTF8.data.toList) (fun xs => String.fromUTF8? ⟨xs.toArray⟩)
    (fun _ => true) fun s _ => by
      rw [Array.toArray_toList]
      exact dif_pos s.isValidUTF8

theorem fits_list_of_perm (c : Codec α) {xs ys : List α} (h : xs.Perm ys)
    (hfits : (list c).fits ys = true) : (list c).fits xs = true := by
  simpa only [list, h.length_eq, h.all_eq] using hfits

/-- A table as the list of its entries, which may come in any order. -/
def table (c : Codec α) : Codec (Table α) where
  write t := (list (text.pair c)).write t.entries
  read xs := ((list (text.pair c)).read xs).map fun (es, rest) => (Table.ofList es, rest)
  fits t := (list (text.pair c)).fits t.entries
  Written t xs := ∃ es, es.Perm t.entries ∧ (list (text.pair c)).Written es xs
  written_write t := ⟨t.entries, .refl _, (list (text.pair c)).written_write t.entries⟩
  perm_write := by
    rintro t xs ⟨es, hes, hxs⟩
    have hentries : (es.flatMap (text.pair c).write).Perm (t.entries.flatMap (text.pair c).write) :=
      hes.flatMap_right _
    refine ((list (text.pair c)).perm_write hxs).trans ?_
    change (size.write es.length ++ _).Perm (size.write t.entries.length ++ _)
    rw [hes.length_eq]
    exact hentries.append_left _
  read_written := by
    rintro t xs rest hfits ⟨es, hes, hxs⟩
    have hread := (list (text.pair c)).read_written rest (fits_list_of_perm _ hes hfits) hxs
    simp only [hread, Option.map_some, Table.ofList_of_perm hes]

end Codec

end Skirmish
