import Skirmish.Proofs.Nesting

/-!
# Running hooks are a stack

A hook is put on top of those that run before its effects are played and taken off after them,
whether they went through or halted. So the hooks that run are a balanced stack: whatever is
resolved leaves them as it found them, and while it goes on they only ever stand above those that
ran before, each of them once (`hooks_are_stacked`).

What goes on in between is told by the calls of hooks, as nothing else changes what is running. An
outcome `Asks` for a hook in a scene if it comes about, yet would not if just that call were
refused. `Calls` are those that an outcome asks for and those that the effects of such hooks ask for
in turn, at every depth. Whatever an outcome asks for, it asks for in a scene that it has led to
(`ResolvesBy.leads_asked`), so the stack of each call is known from that of the hook which makes it.
-/

namespace Skirmish

/-! ## Running -/

/-- Whether a call runs the effects of its hook: it then has no result at no depth, where no hook
may run. -/
def HookCall.Runs (rules : Rules) (c : HookCall) (s : Scene) : Prop := runHook rules 0 c s = none

section

variable {rules : Rules} {c : HookCall} {s : Scene}

theorem runs_iff_ne_nil : c.Runs rules s ↔ c.effects rules.codex s ≠ [] := by
  rw [HookCall.Runs, ← List.isEmpty_eq_false_iff]
  cases h : (c.effects rules.codex s).isEmpty <;> simp [runHook, h]

/-- **A call runs effects exactly if its status is registered and has some for the hook, the holder
is alive and the hook does not run yet.** -/
theorem runs_iff : c.Runs rules s ↔ ∃ st, rules.codex.status? c.status = some st ∧
    st.hooked c.hook ≠ [] ∧ s.battle.isAlive c.holder = true ∧ c.frame ∉ s.running :=
  runs_iff_ne_nil.trans effects_ne_nil_iff

/-- A call that runs effects plays those of its hook on top of the stack. -/
theorem runHook_of_runs (h : c.Runs rules s) {st : Status}
    (hst : rules.codex.status? c.status = some st) (depth : Nat) :
    runHook rules (depth + 1) c s =
      Step.within c.frame (playEffects rules (runHook rules depth) (c.origin rules.codex) c.holder
        [c.defaultTarget] (st.hooked c.hook)) s := by
  obtain ⟨-, -, -, halive, hnew⟩ := runs_iff.1 h
  have heffects : c.effects rules.codex s = st.hooked c.hook := by
    simp [HookCall.effects, halive, hnew, hst]
  have hsome : (c.effects rules.codex s).isEmpty = false :=
    List.isEmpty_eq_false_iff.2 (runs_iff_ne_nil.1 h)
  simp only [runHook, hsome, Bool.false_eq_true, if_false]
  rw [heffects]

/-- Any other call does nothing. -/
theorem runHook_of_not_runs (h : ¬ c.Runs rules s) (depth : Nat) :
    runHook rules depth c s = some (s, .proceed) :=
  runHook_of_isEmpty (by simpa [runs_iff_ne_nil] using h) depth

end

/-! ## Asking -/

/-- Refuse one call in one scene. -/
def HookRunner.refusing (run : HookRunner) (c : HookCall) (m : Scene) : HookRunner := fun c' s =>
  if c' = c ∧ s = m then none else run c' s

/-- An outcome that comes about asks for a hook in a scene if it would not come about without. -/
def Asks (run : HookRunner) (o : HookRunner → Outcome) (c : HookCall) (m : Scene) : Prop :=
  (o run).isSome = true ∧ o (run.refusing c m) = none

instance (run : HookRunner) (o : HookRunner → Outcome) (c : HookCall) (m : Scene) :
    Decidable (Asks run o c m) :=
  inferInstanceAs (Decidable (_ ∧ _))

section

variable {rules : Rules} {content : Effect → Prop} {E : Battle → Battle → Prop} {run : HookRunner}
  {s : Scene} {o : HookRunner → Outcome}

theorem run_of_refusing {c c' : HookCall} {m : Scene} {x : Scene × Flow}
    (h : run.refusing c m c' s = some x) : run c' s = some x := by
  unfold HookRunner.refusing at h
  split at h
  · cases h
  · exact h

/-- What comes about with a call refused comes about without. -/
theorem ResolvesBy.of_refusing (h : ResolvesBy rules content E s o) {c : HookCall} {m : Scene} :
    ∀ x, o (run.refusing c m) = some x → o run = some x := by
  induction h with
  | stay => exact fun _ h => h
  | fail => exact nofun
  | hook => exact fun _ => run_of_refusing
  | after _ _ ih => exact ih
  | andThen _ _ ih₁ ih₂ =>
    rintro ⟨s', flow⟩ h
    obtain ⟨hhalt, rfl⟩ | ⟨s₁, hproceed, hrest⟩ := andThen_eq_some h
    · simp only [Step.andThen, ih₁ _ hhalt]
    · simp only [Step.andThen, ih₁ _ hproceed, ih₂ s₁ _ hrest]

theorem isSome_of_andThen {first second : Step}
    (h : (first.andThen second s).isSome = true) : (first s).isSome = true := by
  cases hfirst : first s with
  | none => simp [Step.andThen, hfirst] at h
  | some x => rfl

/-- **What an outcome asks for, it asks for in a scene that it has led to.** -/
theorem ResolvesBy.leads_asked (hrun : ∀ c, (run c).FollowsBy E)
    (h : ResolvesBy rules content E s o)
    {c : HookCall} {m : Scene} (hasks : Asks run o c m) : s.LeadsBy E m := by
  obtain ⟨hsome, hnone⟩ := hasks
  induction h with
  | stay => cases hnone
  | fail => cases hsome
  | hook s c' =>
    -- refusing one call only matters to that call
    have hsame : c' = c ∧ s = m := by
      by_contra hother
      have hkept : run.refusing c m c' s = run c' s := if_neg hother
      exact absurd (hkept.symm.trans hnone) (Option.isSome_iff_ne_none.1 hsome)
    obtain ⟨rfl, rfl⟩ := hsame
    exact .refl s
  | after hb _ ih => exact (leads_of_event hb).trans (ih hsome hnone)
  | @andThen s first second h₁ h₂ ih₁ ih₂ =>
    cases hrefused : first (run.refusing c m) s with
    | none => exact ih₁ (isSome_of_andThen hsome) hrefused
    | some x =>
      -- the first step does not ask, so it is the second one that does
      obtain ⟨s₁, flow₁⟩ := x
      have hdone : first run s = some (s₁, flow₁) := h₁.of_refusing _ hrefused
      cases flow₁ with
      | halt =>
        simp only [Step.andThen, hrefused] at hnone
        cases hnone
      | proceed =>
        simp only [Step.andThen, hrefused] at hnone
        simp only [Step.andThen, hdone] at hsome
        exact (h₁.leads hrun _ _ hdone).trans (ih₂ s₁ hsome hnone)

end

/-! ## Calls at every depth -/

/-- The calls of hooks that are made while an outcome comes about, with hooks to a depth, each with
the scene that it is made in. -/
inductive Calls (rules : Rules) : Nat → (HookRunner → Outcome) → HookCall → Scene → Prop
  /-- The outcome asks for a hook. -/
  | asked {depth : Nat} {o : HookRunner → Outcome} {c : HookCall} {m : Scene}
      (h : Asks (runHook rules depth) o c m) : Calls rules depth o c m
  /-- The effects of a hook that the outcome asks for make a call in turn. -/
  | within {depth : Nat} {o : HookRunner → Outcome} {c c' : HookCall} {m m' : Scene}
      (h : Asks (runHook rules (depth + 1)) o c m) (hc : c.Runs rules m)
      (hin : Calls rules depth (fun run => playEffects rules run (c.origin rules.codex) c.holder
        [c.defaultTarget] (c.effects rules.codex m) (m.enter c)) c' m') :
      Calls rules (depth + 1) o c' m'

section

variable {rules : Rules} {s : Scene}

/-- A hook that has effects to run is not among those that run. -/
theorem nodup_enter {c : HookCall} (hs : s.running.Nodup) (hc : c.Runs rules s) :
    (s.enter c).running.Nodup := by
  obtain ⟨-, -, -, -, hnew⟩ := runs_iff.1 hc
  exact List.nodup_cons.2 ⟨hnew, hs⟩

/-- **At every call the stack stands above the one of the beginning, and no hook is on it
twice.** -/
theorem Calls.stacked {depth : Nat} {o : HookRunner → Outcome} {c : HookCall} {m : Scene}
    (h : Calls rules depth o c m) (ho : Resolves rules (fun _ => True) s o) :
    s.running <:+ m.running ∧ (s.running.Nodup → m.running.Nodup) := by
  have hall : rules.codex.HooksWithin fun _ => True := fun _ _ _ _ _ _ => trivial
  induction h generalizing s with
  | @asked depth o c m h =>
    have hsame : m.running = s.running := (ho.leads_asked (follows_runHook hall _) h).running
    rw [hsame]
    exact ⟨List.suffix_rfl, fun hs => hs⟩
  | @within depth o c c' m m' h hc _ ih =>
    have hsame : m.running = s.running := (ho.leads_asked (follows_runHook hall _) h).running
    obtain ⟨habove, hnodup⟩ := ih ((resolves_hooked hall c m _).mono fun _ _ => Act.event)
    refine ⟨?_, fun hs => hnodup (nodup_enter (hsame ▸ hs) hc)⟩
    rw [← hsame]
    exact (List.suffix_cons ..).trans habove

end

/-- **The hooks that run are a balanced stack without repetitions.** Whatever is resolved leaves the
stack as it found it. While it goes on, every call of a hook sees a stack above that one, and
neither there nor with the called hook on top does a hook occur twice. A call runs the effects of
its hook exactly if the status is registered, has some for the hook, the holder is alive and the
hook is not on the stack; otherwise it does nothing. -/
theorem hooks_are_stacked (rules : Rules) (r : Resolution) (depth : Nat)
    {s s' : Scene} {flow : Flow}
    (h : r.step rules (runHook rules depth) s = some (s', flow)) :
    s'.running = s.running ∧
      (∀ c m, Calls rules depth (fun run => r.step rules run s) c m →
        s.running <:+ m.running ∧
          (s.running.Nodup → m.running.Nodup ∧ (c.Runs rules m → (m.enter c).running.Nodup))) ∧
      ∀ c m,
        (c.Runs rules m ↔ ∃ st, rules.codex.status? c.status = some st ∧ st.hooked c.hook ≠ [] ∧
          m.battle.isAlive c.holder = true ∧ c.frame ∉ m.running) ∧
        (c.Runs rules m → ∀ st, rules.codex.status? c.status = some st → ∀ d,
          runHook rules (d + 1) c m =
            Step.within c.frame (playEffects rules (runHook rules d) (c.origin rules.codex) c.holder
              [c.defaultTarget] (st.hooked c.hook)) m) ∧
        (¬ c.Runs rules m → ∀ d, runHook rules d c m = some (m, .proceed)) := by
  have hall : rules.codex.HooksWithin fun _ => True := fun _ _ _ _ _ _ => trivial
  have hresolves : Resolves rules (fun _ => True) s fun run => r.step rules run s :=
    r.resolves_step (fun _ _ => trivial) s
  refine ⟨(hresolves.leads (follows_runHook hall depth) _ _ h).running, ?_, ?_⟩
  · intro c m hcall
    obtain ⟨habove, hnodup⟩ := hcall.stacked hresolves
    exact ⟨habove, fun hs => ⟨hnodup hs, nodup_enter (hnodup hs)⟩⟩
  · intro c m
    exact ⟨runs_iff, fun hc st hst d => runHook_of_runs hc hst d, runHook_of_not_runs⟩

/-! ## Thorns on the stack -/

/-- The thorns of one actor answer a wound by another one. -/
def prickOf (holder other : ActorId) : HookCall :=
  ⟨holder, "thorns", .onTakeDamage, some other, 1⟩

/-- A duellist strikes the other one. -/
def Battle.struck (b : Battle) (user id : ActorId) : Battle :=
  (b.strike thornRules (.trueDamage 1) {} user id ⟨false, none, none⟩).1

/-- After a blow the thorns of both are on the stack when those of the slime are called again, which
are suppressed. -/
theorem thorns_are_stacked :
    ∃ b' m, blow.step thornRules (runHook thornRules 12) ⟨thornyDuel, []⟩ =
        some (⟨b', []⟩, .proceed) ∧
      Calls thornRules 12 (fun run => blow.step thornRules run ⟨thornyDuel, []⟩)
        (prickOf "slime" "hero") m ∧
      m.running = [(prickOf "hero" "slime").frame, (prickOf "slime" "hero").frame] ∧
      m.running.Nodup ∧ ¬ (prickOf "slime" "hero").Runs thornRules m := by
  let b₁ := thornyDuel.struck "hero" "slime"
  let b₂ := b₁.struck "slime" "hero"
  let b₃ := b₂.struck "hero" "slime"
  let m₁ : Scene := ⟨b₁, []⟩
  let m₂ : Scene := ⟨b₂, [(prickOf "slime" "hero").frame]⟩
  let m₃ : Scene := ⟨b₃, [(prickOf "hero" "slime").frame, (prickOf "slime" "hero").frame]⟩
  have hcalls : Calls thornRules 12 (fun run => blow.step thornRules run ⟨thornyDuel, []⟩)
      (prickOf "slime" "hero") m₃ := by
    refine .within (c := prickOf "slime" "hero") (m := m₁) (by decide +kernel) ?_ ?_
    · exact runs_iff_ne_nil.2 (by decide +kernel)
    refine .within (c := prickOf "hero" "slime") (m := m₂) (by decide +kernel) ?_ ?_
    · exact runs_iff_ne_nil.2 (by decide +kernel)
    exact .asked (by decide +kernel)
  have hreturns : ((blow.step thornRules (runHook thornRules 12) ⟨thornyDuel, []⟩).map (·.2)) =
      some .proceed := by
    decide +kernel
  obtain ⟨⟨⟨b', running⟩, flow⟩, h, rfl⟩ := Option.map_eq_some_iff.1 hreturns
  obtain ⟨hbalanced, hstacked, hruns⟩ := hooks_are_stacked thornRules blow 12 h
  obtain rfl : running = [] := hbalanced
  obtain ⟨-, hnodup⟩ := hstacked _ _ hcalls
  refine ⟨b', m₃, h, hcalls, rfl, (hnodup List.nodup_nil).1, fun hc => ?_⟩
  obtain ⟨-, -, -, -, hnew⟩ := (hruns _ _).1.1 hc
  exact hnew (List.mem_cons_of_mem _ List.mem_cons_self)

end Skirmish
