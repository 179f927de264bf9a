import Skirmish.Proofs.Answers
import Skirmish.Proofs.Roster
import Skirmish.Snapshot.Battle

/-!
# Stretches of a battle

A stretch of a battle is any number of calls, in any order and with whatever rules each of them is
made under, between which the battle may be written down and read back. What is known of each of its
calls, of the battles before and after it, is a parameter; so a law can speak of the stretch in
which something does not happen. What every such call keeps, the stretch keeps
(`Stretch.induction`).
-/

namespace Skirmish

open Relation (ReflTransGen)

namespace Battle

/-- A battle that fits the format was written down, and is read back from it. -/
def Restored (b b' : Battle) : Prop :=
  Codec.battle.fits b = true ∧
    ∃ xs rest, Codec.battle.Written b xs ∧ ofBytes? (xs ++ rest) = some b'

theorem Restored.eq {b b' : Battle} (h : b.Restored b') : b' = b := by
  obtain ⟨hfits, xs, rest, hwritten, hread⟩ := h
  rw [ofBytes?, Codec.battle.read_written rest hfits hwritten] at hread
  exact (Option.some.inj hread).symm

/-- A battle goes on by a call of which something is known, or from a snapshot of it. -/
inductive Goes (P : Battle → Request → Battle → Prop) (b : Battle) : Battle → Prop
  | called {b' : Battle} (q : Request) (hq : b.after? q = some b') (hP : P b q b') : Goes P b b'
  | restored {b' : Battle} (h : b.Restored b') : Goes P b b'

/-- A number of calls of each of which something is known. -/
abbrev Stretch (P : Battle → Request → Battle → Prop) : Battle → Battle → Prop :=
  ReflTransGen (Goes P)

variable {P : Battle → Request → Battle → Prop} {b b' : Battle}

/-- **What every call of a stretch keeps, the stretch keeps.** -/
theorem Stretch.induction {I : Battle → Prop} (h : b.Stretch P b')
    (hstep : ∀ c q c', I c → c.after? q = some c' → P c q c' → I c') (hb : I b) : I b' := by
  induction h with
  | refl => exact hb
  | tail _ hgoes ih =>
    cases hgoes with
    | called q hq hP => exact hstep _ q _ ih hq hP
    | restored h =>
      rw [h.eq]
      exact ih

theorem Rostered.after_call {b b' : Battle} (hb : b.Rostered) {q : Request}
    (h : b.after? q = some b') : b'.Rostered := by
  have hone : b.run? [q] = some b' := by rw [run?, h]; rfl
  exact hb.after_run hone

theorem Stretch.rostered (h : b.Stretch P b') (hb : b.Rostered) : b'.Rostered :=
  h.induction (fun _ _ _ hc hq _ => hc.after_call hq) hb

/-- A run is a stretch if the same is known of all its calls. -/
theorem stretch_of_run? {qs : List Request} (hP : ∀ q ∈ qs, ∀ c c', P c q c')
    (h : b.run? qs = some b') : b.Stretch P b' := by
  induction qs generalizing b with
  | nil =>
    cases h
    exact .refl
  | cons q qs ih =>
    obtain ⟨b₁, hq, hqs⟩ := Option.bind_eq_some_iff.1 h
    obtain ⟨hfirst, hrest⟩ := List.forall_mem_cons.1 hP
    exact .head (.called q hq (hfirst b b₁)) (ih hrest hqs)

end Battle

end Skirmish
