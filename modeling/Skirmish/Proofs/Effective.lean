import Skirmish.Combat
import Skirmish.Proofs.Conversion

/-!
# Effective stats

Combat compares the attack, defence and level of `Codex.effective`. Where an affliction changes one
of the three, all of them are computed by `Codex.effectiveStat`, which counts with doubles, rounds
and stops at zero; an actor without such an affliction is taken as it is. The two ways give the same
stat exactly if it survives as a double (`Codex.effective_agrees`), as any stat from 0 to 2 ^ 53
does (`Codex.stat_effective_of_le`).
-/

namespace Skirmish

namespace Codex

variable {c : Codex} {a : Actor} {k : StatKind}

/-- Nothing that an actor holds changes a compared stat unless the actor is modified. -/
theorem modifiersOf_eq_nil (ha : c.isModified a = false) (hk : isCompared k) {i : Affliction}
    (hi : i ∈ a.afflictions) : c.modifiersOf k i = [] := by
  have hnone := List.any_eq_false.1 ha i hi
  unfold modifiersOf
  cases hs : c.status? i.status with
  | none => rfl
  | some s =>
    rw [hs] at hnone
    refine List.filter_eq_nil_iff.2 fun m hm heq => hnone (List.any_eq_true.2 ⟨m, hm, ?_⟩)
    rwa [eq_of_beq heq]

theorem effectiveStat_of_not_modified (ha : c.isModified a = false) (hk : isCompared k) :
    c.effectiveStat a k = nearestAbove (.ofInt (a.stats.stat k)) := by
  have hstep : ∀ (x : Float), ∀ i ∈ a.afflictions,
      (c.modifiersOf k i).foldl (fun x m => m.apply x i.stackCount) x = x := fun x i hi => by
    rw [modifiersOf_eq_nil ha hk hi, List.foldl_nil]
  unfold effectiveStat
  rw [List.foldl_ext _ _ _ hstep, List.foldl_fixed]

theorem effective_of_not_modified (ha : c.isModified a = false) : c.effective a = a := by
  simp [effective, ha]

theorem stat_effective_of_modified (ha : c.isModified a = true) (hk : isCompared k) :
    (c.effective a).stats.stat k = c.effectiveStat a k := by
  rw [effective, if_pos ha]
  cases k with
  | attack | defence | level => rfl
  | maxHp | maxSta | maxMp => cases hk

/-- Both ways to compute a stat agree if an affliction changes a compared stat, and otherwise if the
stat survives as a double. -/
theorem stat_effective_eq_iff (hk : isCompared k) (hw : IsWhole (a.stats.stat k)) :
    (c.effective a).stats.stat k = c.effectiveStat a k ↔
      c.isModified a = true ∨ Survives (a.stats.stat k) := by
  cases ha : c.isModified a with
  | true => exact iff_of_true (stat_effective_of_modified ha hk) (.inl rfl)
  | false =>
    rw [effective_of_not_modified ha, effectiveStat_of_not_modified ha hk, eq_comm,
      nearestAbove_ofInt_eq_iff hw]
    simp

/-- A stat from 0 to 2 ^ 53 is the effective stat, with modifiers and without. -/
theorem stat_effective_of_le (hk : isCompared k) (hpos : 0 ≤ a.stats.stat k)
    (hle : a.stats.stat k ≤ 2 ^ 53) : (c.effective a).stats.stat k = c.effectiveStat a k := by
  have hw : IsWhole (a.stats.stat k) := by
    unfold IsWhole leastWhole greatestWhole
    omega
  exact (stat_effective_eq_iff hk hw).2 (.inr (survives_of_le hpos hle))

theorem effective_eq_with (c : Codex) (a : Actor) :
    ∃ attack defence level, c.effective a =
      { a with
        stats := { a.stats with attack := attack, defence := defence, level := level } } := by
  unfold effective
  split
  · exact ⟨_, _, _, rfl⟩
  · exact ⟨_, _, _, rfl⟩

/-- **What combat compares.** Nothing but attack, defence and level of an actor is changed, and
nothing at all of one that no affliction modifies. Each of the three is the effective stat exactly
if some affliction modifies one of them or the stat survives as a double. -/
theorem effective_agrees (c : Codex) (a : Actor)
    (ha : ∀ k, isCompared k → IsWhole (a.stats.stat k)) :
    (∃ attack defence level, c.effective a =
      { a with stats := { a.stats with attack := attack, defence := defence, level := level } }) ∧
      (c.isModified a = false → c.effective a = a) ∧
      ∀ k, isCompared k → ((c.effective a).stats.stat k = c.effectiveStat a k ↔
        c.isModified a = true ∨ Survives (a.stats.stat k)) :=
  ⟨effective_eq_with c a, effective_of_not_modified, fun k hk => stat_effective_eq_iff hk (ha k hk)⟩

/-- A fighter in a rage, which adds two to its attack and then half. -/
def raging : Actor :=
  { id := "fighter", name := "Fighter", stats := Stats.full 10 5 5 10 4 2,
    afflictions := [{ status := "rage", remaining := 3, stackCount := 1 }] }

/-- Rage is registered. -/
def rageCodex : Codex :=
  let rage : Status :=
    { id := "rage", duration := 3, modifiers := [{ stat := .attack, flat := 2, percent := 0.5 }] }
  { statuses := Table.empty.insert "rage" rage }

theorem rage_raises_attack :
    (∀ k, isCompared k → IsWhole (raging.stats.stat k)) ∧
      (rageCodex.effective raging).stats.attack = 18 ∧
      (rageCodex.effective raging).stats.defence = 4 := by
  have hw : ∀ k, isCompared k → IsWhole (raging.stats.stat k) := fun k _ => by
    cases k <;> decide
  obtain ⟨-, -, hagrees⟩ := effective_agrees rageCodex raging hw
  have hmod : rageCodex.isModified raging = true := by decide +kernel
  refine ⟨hw, ((hagrees .attack rfl).2 (.inl hmod)).trans ?_,
    ((hagrees .defence rfl).2 (.inl hmod)).trans ?_⟩
  · decide +kernel
  · decide +kernel

/-- A fighter whose attack is below zero. -/
def sapped : Actor :=
  { id := "fighter", name := "Fighter", stats := Stats.full 50 5 5 (-3) 0 3 }

/-- What is below zero is kept where nothing modifies it, while the effective stat is zero. -/
theorem deficit_kept :
    (({} : Codex).effective sapped).stats.attack ≠ ({} : Codex).effectiveStat sapped .attack := by
  decide +kernel

end Codex

end Skirmish
