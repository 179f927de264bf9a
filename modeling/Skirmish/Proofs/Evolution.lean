import Skirmish.Proofs.CastKept
import Skirmish.Proofs.Changes

/-!
# How a battle evolves

Apart from what keeps its cast, only two things happen to the cast of a battle: a summoned actor
joins it, under a number that is new and an id that is free, and the turn is passed on. `Shifts`
lists the three, `Evolves` is any number of them in a row. Every change that resolution makes is a
shift (`Change.shifts`), so resolution as a whole lets a battle evolve (`Course.evolves`).
-/

namespace Skirmish

open Relation (ReflTransGen)

namespace Battle

/-- What happens to the cast of a battle at once. -/
inductive Shifts (codex : Codex) (b : Battle) : Battle → Prop
  /-- The same actors take part in the same places. -/
  | kept {b' : Battle} (h : b.SameCast b') : Shifts codex b b'
  /-- A summoned actor joins a side. -/
  | joined (side : Side) (template : String) (level n : Nat) (a : Actor)
      (hlevel : level ≤ greatestCount) (ha : codex.spawn? template level = some a)
      (hn : b.spawned < n) (hmax : n ≤ greatestCount)
      (hfree : b.actors.contains (summonId template n) = false) :
      Shifts codex b ({ b with spawned := n }.enter side { a with id := summonId template n })
  /-- The turn is passed on. -/
  | passed : Shifts codex b (b.advance b.order.length)

/-- Any number of shifts in a row. -/
abbrev Evolves (codex : Codex) : Battle → Battle → Prop := ReflTransGen (Shifts codex)

theorem SameCast.evolves {codex : Codex} {b b' : Battle} (h : b.SameCast b') :
    b.Evolves codex b' :=
  .single (.kept h)

/-- What every shift keeps, evolving keeps. -/
theorem Evolves.induction {codex : Codex} {P : Battle → Prop}
    (hstep : ∀ b b', P b → b.Shifts codex b' → P b') (h : b.Evolves codex b') (hb : P b) :
    P b' := by
  induction h with
  | refl => exact hb
  | tail _ h ih => exact hstep _ _ ih h

/-! ## Passing the turn on -/

/-- Going on to the next place leaves all but the place, the round and the log alone, and the place
within the order. -/
theorem nextPlace_spec (b : Battle) :
    ∃ round current log, b.nextPlace =
        { b with round := round, current := current, log := log } ∧
      (0 < b.order.length → current < b.order.length) := by
  unfold nextPlace
  split
  · next hlt => exact ⟨b.round, b.current + 1, b.log, rfl, fun _ => hlt⟩
  · exact ⟨b.round + 1, 0, b.log ++ [s!"Turn {b.round + 1}"], rfl, fun h => h⟩

theorem advance_spec (b : Battle) (n : Nat) :
    ∃ round current log, b.advance n =
        { b with round := round, current := current, log := log } ∧
      (b.current < b.order.length → current < b.order.length) := by
  induction n generalizing b with
  | zero => exact ⟨b.round, b.current, b.log, rfl, id⟩
  | succ n ih =>
    obtain ⟨round, current, log, hnext, hlt⟩ := b.nextPlace_spec
    have hpos : b.current < b.order.length → 0 < b.order.length := fun h => by omega
    unfold advance
    dsimp only
    split
    · exact ⟨round, current, log, hnext, fun h => hlt (hpos h)⟩
    · obtain ⟨round', current', log', hrest, hlt'⟩ := ih b.nextPlace
      rw [hnext] at hrest hlt'
      rw [hnext]
      exact ⟨round', current', log', hrest, fun h => hlt' (hlt (hpos h))⟩

end Battle

/-! ## Resolution -/

variable {rules : Rules} {content : Effect → Prop} {b b' : Battle}

/-- **Every change that resolution makes is a shift.** -/
theorem Change.shifts (h : Change rules content b b') : b.Shifts rules.codex b' := by
  cases h with
  | undergone id f hf =>
    exact .kept (Battle.sameCast_modifyActor fun a ha => .single (.undergone (hf a ha)))
  | revived e _ _ id n hd hn hmax =>
    refine .kept (Battle.sameCast_modifyActor fun a ha => .single (.revived ?_ n hn (hmax a ha)))
    simpa [Battle.isAlive, ha] using hd
  | joined side template level n a hlevel ha hn hmax hfree =>
    exact .joined side template level n a hlevel ha hn hmax hfree
  | _ => exact .kept (.aside rfl rfl rfl rfl rfl rfl)

theorem Changes.evolves (h : Changes rules content b b') : b.Evolves rules.codex b' :=
  h.induction (fun _ _ hb hchange => hb.tail hchange.shifts) .refl

/-- A course of events lets a battle evolve. -/
theorem Course.evolves (h : Course rules content b b') : b.Evolves rules.codex b' :=
  h.changes.evolves

end Skirmish
