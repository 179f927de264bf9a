import Skirmish.Proofs.Events

/-!
# Traces

A course of events says that one battle became another by deeds. A `Trace` names these deeds, each
with the battle that it was done in, so it can be told how often something was done, by whom and
what happened between two deeds. `Traced` says that a trace leads from one battle to another; every
course has a trace (`exists_traced`), and what each deed of a trace keeps, the trace keeps
(`Traced.induction`).

`Works` is what effects and hooks make of a battle: a trace without deeds of boundaries, which stops
early only where the battle is over. Whatever resolves by acts works in this sense
(`ResolvesBy.works`).
-/

namespace Skirmish

open Relation (ReflTransGen)

/-- Deeds one after the other, each with the battle that it is done in. -/
abbrev Trace := List (Battle × Deed)

/-- A trace leads from one battle to another, by effects that are among some effects. -/
inductive Traced (rules : Rules) (content : Effect → Prop) : Battle → Trace → Battle → Prop
  /-- Nothing is done. -/
  | nil (b : Battle) : Traced rules content b [] b
  /-- A deed comes first. -/
  | cons {b b' : Battle} {d : Deed} {tr : Trace} (hd : d.May rules content b)
      (h : Traced rules content (d.perform rules b) tr b') :
      Traced rules content b ((b, d) :: tr) b'

section

variable {rules : Rules} {content : Effect → Prop} {b b' b'' : Battle} {tr tr' : Trace}

theorem Traced.append (h : Traced rules content b tr b') (h' : Traced rules content b' tr' b'') :
    Traced rules content b (tr ++ tr') b'' := by
  induction h with
  | nil => exact h'
  | cons hd _ ih => exact .cons hd (ih h')

/-- A trace that names a deed comes to the battle that it is done in and goes on from what is left
of it. -/
theorem Traced.split {c : Battle} {d : Deed}
    (h : Traced rules content b (tr ++ (c, d) :: tr') b') :
    Traced rules content b tr c ∧ d.May rules content c ∧
      Traced rules content (d.perform rules c) tr' b' := by
  induction tr generalizing b with
  | nil =>
    cases h with
    | cons hd h => exact ⟨.nil _, hd, h⟩
  | cons p tr ih =>
    cases h with
    | cons hd h =>
      obtain ⟨hbefore, hafter⟩ := ih h
      exact ⟨.cons hd hbefore, hafter⟩

theorem Traced.course (h : Traced rules content b tr b') : Course rules content b b' := by
  induction h with
  | nil => exact .refl
  | cons hd _ ih => exact .head ⟨_, hd, rfl⟩ ih

/-- **What each deed of a trace keeps, the trace keeps.** -/
theorem Traced.induction {P : Battle → Prop} (h : Traced rules content b tr b')
    (hstep : ∀ c d, (c, d) ∈ tr → d.May rules content c → P c → P (d.perform rules c))
    (hb : P b) : P b' := by
  induction h with
  | nil => exact hb
  | cons hd _ ih =>
    exact ih (fun c d hmem => hstep c d (List.mem_cons_of_mem _ hmem))
      (hstep _ _ List.mem_cons_self hd hb)

end

/-- Every course of acts has a trace, and no deed of it belongs to a boundary. -/
theorem exists_traced {rules : Rules} {content : Effect → Prop} {b b' : Battle}
    (h : ReflTransGen (Act rules content) b b') :
    ∃ tr, Traced rules content b tr b' ∧ ∀ p ∈ tr, p.2.isBoundary = false := by
  induction h using ReflTransGen.head_induction_on with
  | refl => exact ⟨[], .nil _, List.forall_mem_nil _⟩
  | head hact _ ih =>
    obtain ⟨d, hinner, hd, rfl⟩ := hact
    obtain ⟨tr, htraced, hrest⟩ := ih
    exact ⟨_, .cons hd htraced, List.forall_mem_cons.2 ⟨hinner, hrest⟩⟩

/-! ## The work of effects and hooks -/

/-- What effects and hooks make of a battle: no deed belongs to a boundary, and they halt only where
the battle is over. -/
structure Works (rules : Rules) (content : Effect → Prop) (b : Battle) (tr : Trace) (flow : Flow)
    (b' : Battle) : Prop where
  traced : Traced rules content b tr b'
  inner : ∀ p ∈ tr, p.2.isBoundary = false
  stops : flow = .halt → b'.isOver = true

theorem Works.induction {P : Battle → Prop} {rules : Rules} {content : Effect → Prop}
    {b b' : Battle} {tr : Trace} {flow : Flow} (h : Works rules content b tr flow b')
    (hstep : ∀ c (d : Deed), d.isBoundary = false → d.May rules content c → P c →
      P (d.perform rules c))
    (hb : P b) : P b' :=
  h.traced.induction (fun c d hmem => hstep c d (h.inner _ hmem)) hb

/-- **Whatever resolves by acts works**, with the same hooks running afterwards. -/
theorem ResolvesBy.works {rules : Rules} {content : Effect → Prop}
    (hc : rules.codex.HooksWithin content) {s s' : Scene} {o : HookRunner → Outcome}
    (h : ResolvesBy rules content (Act rules content) s o) {depth : Nat} {flow : Flow}
    (ho : o (runHook rules depth) = some (s', flow)) :
    s'.running = s.running ∧ ∃ tr, Works rules content s.battle tr flow s'.battle := by
  obtain ⟨hrunning, hcourse⟩ := h.leads (acts_runHook hc depth) s' flow ho
  obtain ⟨tr, htraced, hinner⟩ := exists_traced hcourse
  refine ⟨hrunning, tr, htraced, hinner, ?_⟩
  rintro rfl
  exact h.stops (stops_runHook rules depth) s' ho

end Skirmish
