import Skirmish.Proofs.Snapshots

/-!
# Snapshots that are cut off

Whoever reads a value knows from the bytes that it has read when the value is complete, and what
follows makes no difference: it is left as it is. Reading is `Prompt` in this sense for numbers and
truth values, and it stays so when one thing is read after the other (`Prompt.bind`), so it is for
all codecs.

So bytes that a battle is written as and that lack their end are read as no battle: it would be read
from all of them as well, with their end left over, but nothing is left over of a battle that is
written down (`Prompt.read_of_isPrefix`). `snapshot_refused_unless_whole` says this of battles.
-/

namespace Skirmish

namespace Codec

variable {α β : Type}

/-- What is read from some bytes is read from them whatever follows, which is left. -/
def Prompt (read : Bytes → Option (α × Bytes)) : Prop :=
  ∀ ⦃xs x rest⦄, read xs = some (x, rest) → ∀ ys, read (xs ++ ys) = some (x, rest ++ ys)

namespace Prompt

/-- A value that is known already, or known to be missing, takes no byte. -/
theorem known (x : Option α) : Prompt fun xs => x.bind fun x => some (x, xs) := by
  intro xs y rest h ys
  obtain ⟨x, rfl, heq⟩ := Option.bind_eq_some_iff.1 h
  cases heq
  rfl

theorem pure (x : α) : Prompt fun xs => some (x, xs) := known (some x)

/-- One thing is read after the other. -/
theorem bind {read : Bytes → Option (α × Bytes)} {next : α → Bytes → Option (β × Bytes)}
    (h : Prompt read) (hnext : ∀ x, Prompt (next x)) :
    Prompt fun xs => (read xs).bind fun p => next p.1 p.2 := by
  intro xs y rest hread ys
  obtain ⟨⟨x, rest'⟩, hx, hy⟩ := Option.bind_eq_some_iff.1 hread
  change (read (xs ++ ys)).bind _ = _
  rw [h hx ys, Option.bind_some]
  exact hnext x hy ys

theorem map {read : Bytes → Option (α × Bytes)} (h : Prompt read) (f : α → β) :
    Prompt fun xs => (read xs).map fun p => (f p.1, p.2) := by
  simp only [Option.map_eq_bind]
  exact h.bind fun x => pure (f x)

end Prompt

/-! ## Numbers and truth values -/

theorem prompt_split (n : Nat) : Prompt (split n) := by
  induction n with
  | zero => exact .pure []
  | succ n ih =>
    intro xs ys rest h zs
    cases xs with
    | nil => cases h
    | cons x xs => exact (ih.map (x :: ·)) h zs

theorem prompt_natural (width : Nat) : Prompt (natural width).read :=
  (prompt_split width).map ofDigits

theorem prompt_count : Prompt count.read := prompt_natural 4

theorem prompt_size : Prompt size.read := prompt_natural 8

theorem prompt_byte : Prompt byte.read := by
  intro xs x rest h ys
  cases xs with
  | nil => cases h
  | cons x xs =>
    cases h
    rfl

theorem prompt_truth : Prompt truth.read := by
  intro xs x rest h ys
  simp only [truth, plain] at h ⊢
  split at h <;> cases h <;> rfl

/-! ## Codecs of codecs -/

section

variable {c : Codec α} {d : Codec β}

theorem Prompt.viaSome (hc : Prompt d.read) {f : α → β} {g : β → Option α} {ok : α → Bool}
    (h : ∀ x, ok x = true → g (f x) = some x) : Prompt (d.viaSome f g ok h).read :=
  hc.bind fun y => .known (g y)

theorem Prompt.via (hc : Prompt d.read) {f : α → β} {g : β → α} (h : ∀ x, g (f x) = x) :
    Prompt (d.via f g h).read :=
  hc.viaSome _

theorem Prompt.pair (hc : Prompt c.read) (hd : Prompt d.read) : Prompt (c.pair d).read :=
  hc.bind fun _ => hd.bind fun _ => .pure _

theorem Prompt.readMany (hc : Prompt c.read) (n : Nat) : Prompt (readMany c n) := by
  induction n with
  | zero => exact .pure []
  | succ n ih => exact hc.bind fun _ => ih.bind fun _ => .pure _

theorem Prompt.list (hc : Prompt c.read) : Prompt (list c).read :=
  prompt_size.bind fun n => hc.readMany n

theorem Prompt.option (hc : Prompt c.read) : Prompt (option c).read := by
  intro xs x rest h ys
  simp only [Codec.option] at h ⊢
  split at h
  · cases h
    rfl
  · exact hc.map some h ys
  · cases h

end

theorem prompt_oneOf [BEq α] [LawfulBEq α] (values : List α) : Prompt (oneOf values).read :=
  prompt_count.viaSome _

theorem prompt_whole : Prompt whole.read := prompt_size.viaSome _

theorem prompt_word : Prompt word.read := prompt_size.via _

theorem prompt_text : Prompt text.read := prompt_byte.list.viaSome _

theorem Prompt.table {c : Codec α} (hc : Prompt c.read) : Prompt (table c).read :=
  (prompt_text.pair hc).list.map Table.ofList

/-! ## Battles -/

theorem prompt_stats : Prompt stats.read :=
  have hw := prompt_whole
  (hw.pair <| hw.pair <| hw.pair <| hw.pair <| hw.pair <| hw.pair <| hw.pair <| hw.pair <|
    hw.pair <| hw.pair hw).via _

theorem prompt_affliction : Prompt affliction.read :=
  (prompt_text.pair <| prompt_count.pair prompt_count).via _

theorem prompt_actor : Prompt actor.read :=
  (prompt_text.pair <| prompt_text.pair <| prompt_stats.pair <| prompt_affliction.list.pair <|
    prompt_truth.pair <| prompt_text.list.pair <| prompt_text.option.pair prompt_text.table).via _

theorem prompt_charges : Prompt charges.read := (prompt_count.pair prompt_count).via _

theorem prompt_shield : Prompt shield.read :=
  (prompt_text.pair <| prompt_whole.pair prompt_text.option).via _

theorem prompt_taunt : Prompt taunt.read := (prompt_text.pair prompt_count).via _

theorem prompt_battle : Prompt battle.read :=
  (prompt_count.pair <| prompt_text.list.pair <| prompt_size.pair <| (prompt_word.via _).pair <|
    prompt_actor.table.pair <| prompt_text.list.pair <| prompt_text.list.pair <|
    prompt_count.table.pair <| prompt_text.list.pair <| prompt_count.table.table.pair <|
    prompt_charges.table.table.pair <| prompt_shield.list.table.pair <| prompt_taunt.table.pair <|
    prompt_size.table.pair <| prompt_size.pair <| prompt_count.pair (prompt_oneOf _).option).via _

/-- Where reading is prompt, nothing is read from bytes of a value that lack their end. -/
theorem Prompt.read_of_isPrefix {c : Codec α} (hc : Prompt c.read) {x : α} (hfits : c.fits x = true)
    {xs ys : Bytes} (hxs : c.Written x xs) (hys : ys <+: xs) (hne : ys ≠ xs) :
    c.read ys = none := by
  obtain ⟨zs, rfl⟩ := hys
  by_contra hread
  obtain ⟨⟨y, rest⟩, hy⟩ := Option.ne_none_iff_exists'.1 hread
  have hall : c.read (ys ++ zs) = some (x, []) := by
    simpa using c.read_written [] hfits hxs
  have hleft : rest ++ zs = [] := congrArg Prod.snd (Option.some.inj ((hc hy zs).symm.trans hall))
  exact hne (by rw [(List.append_eq_nil_iff.1 hleft).2, List.append_nil])

end Codec

namespace Battle

/-- **A snapshot that lacks its end is refused.** Whatever bytes a battle may be written as, of all
that these begin with only the whole of them is read as a battle, and that is the battle itself. -/
theorem snapshot_refused_unless_whole {b : Battle} (hfits : Codec.battle.fits b = true) {xs : Bytes}
    (hxs : Codec.battle.Written b xs) {ys : Bytes} (hys : ys <+: xs) :
    ofBytes? ys = if ys = xs then some b else none := by
  split
  · next heq =>
    have hread := Codec.battle.read_written [] hfits hxs
    rw [List.append_nil] at hread
    rw [heq, ofBytes?, hread, Option.map_some]
  · next hne =>
    rw [ofBytes?, Codec.prompt_battle.read_of_isPrefix hfits hxs hys hne, Option.map_none]

/-- The last byte of the duel with a stock says that it goes on. Without this byte the duel is
refused. -/
theorem stock_refused_without_end :
    Codec.battle.fits stockedDuel = true ∧
      Codec.battle.Written stockedDuel stockedDuel.toBytes ∧
      stockedDuel.toBytes.dropLast <+: stockedDuel.toBytes ∧
      ofBytes? stockedDuel.toBytes = some stockedDuel ∧
      ofBytes? stockedDuel.toBytes.dropLast = none := by
  have hfits : Codec.battle.fits stockedDuel = true := by decide +kernel
  have hwritten : Codec.battle.Written stockedDuel stockedDuel.toBytes :=
    Codec.battle.written_write stockedDuel
  have hprefix := List.dropLast_prefix stockedDuel.toBytes
  refine ⟨hfits, hwritten, hprefix, ?_, ?_⟩
  · rw [snapshot_refused_unless_whole hfits hwritten (List.prefix_refl _), if_pos rfl]
  · rw [snapshot_refused_unless_whole hfits hwritten hprefix, if_neg (by decide +kernel)]

end Battle

end Skirmish
