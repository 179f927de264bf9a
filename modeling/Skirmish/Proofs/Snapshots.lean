import Skirmish.Proofs.Refusal
import Skirmish.Snapshot.Battle

/-!
# Snapshots are faithful

Whatever order the entries of its tables come in, the bytes of a battle are read back as that
battle, whatever bytes follow them, and their number and their sum do not tell the order
(`snapshot_faithful`). This is what the codec of battles carries, put together from that of its
parts; a battle has to fit the numbers and lengths of the format.
-/

namespace Skirmish

/-- The sum of some bytes. -/
def Bytes.sum (xs : Bytes) : Nat := (xs.map UInt8.toNat).foldr (· + ·) 0

theorem Bytes.sum_eq_of_perm {xs ys : Bytes} (h : xs.Perm ys) : Bytes.sum xs = Bytes.sum ys := by
  unfold Bytes.sum
  induction h with
  | nil => rfl
  | cons x _ ih => simp only [List.map_cons, List.foldr_cons, ih]
  | swap x y _ =>
    simp only [List.map_cons, List.foldr_cons]
    omega
  | trans _ _ ih₁ ih₂ => exact ih₁.trans ih₂

namespace Battle

/-- **A battle is read back from whatever bytes it may be written as, which are all of the same
length and sum.** -/
theorem snapshot_faithful (b : Battle) (hfits : Codec.battle.fits b = true) :
    Codec.battle.Written b b.toBytes ∧
      ∀ xs, Codec.battle.Written b xs →
        (∀ rest, ofBytes? (xs ++ rest) = some b) ∧
          xs.length = b.toBytes.length ∧ Bytes.sum xs = Bytes.sum b.toBytes := by
  refine ⟨Codec.battle.written_write b, fun xs hxs => ?_⟩
  have hperm : xs.Perm b.toBytes := Codec.battle.perm_write hxs
  refine ⟨fun rest => ?_, hperm.length_eq, Bytes.sum_eq_of_perm hperm⟩
  rw [ofBytes?, Codec.battle.read_written rest hfits hxs, Option.map_some]

/-- The duel with a stock of two items. -/
def stockedDuel : Battle :=
  { duel with inventory := (Table.empty.insert "ether" 2).insert "potion" 1 }

open Codec in
/-- The stock may be written with its entries the other way round, and is read back. -/
theorem stock_in_either_order :
    ∃ xs, xs ≠ stockedDuel.toBytes ∧ battle.Written stockedDuel xs ∧
      xs.length = stockedDuel.toBytes.length ∧
      ofBytes? (xs ++ [7, 7]) = some stockedDuel := by
  have hturned : (table count).Written stockedDuel.inventory
      ((list (text.pair count)).write [("potion", 1), ("ether", 2)]) :=
    ⟨_, .swap _ _ _, written_write _ _⟩
  have hwritten : battle.Written stockedDuel _ :=
    ⟨_, _, written_write _ _, ⟨_, _, written_write _ _, ⟨_, _, written_write _ _,
      ⟨_, _, written_write _ _, ⟨_, _, written_write _ _, ⟨_, _, written_write _ _,
      ⟨_, _, written_write _ _, ⟨_, _, hturned, written_write _ _, rfl⟩, rfl⟩, rfl⟩, rfl⟩, rfl⟩,
      rfl⟩, rfl⟩, rfl⟩
  have hfaithful := (snapshot_faithful stockedDuel (by decide +kernel)).2 _ hwritten
  exact ⟨_, by decide +kernel, hwritten, hfaithful.2.1, hfaithful.1 [7, 7]⟩

end Battle

end Skirmish
