import Skirmish.Proofs.Holdings
import Skirmish.Proofs.Traces

/-!
# How a turn passes its boundary

At the boundary of its turn an actor runs the first hooks of its statuses, loses a turn from each of
them, runs their second hooks and then loses the statuses without a turn left, which wear off one by
one and run their last hooks. A hook that ends the battle stops this where it stands.

`Ticks` tells the boundary with its trace, in these phases, and `ticks_of_tick` says that there is
nothing else; `Expires` tells the last phase, and `RunsLast` what a last hook does. What is kept by
the hooks and carried from each phase to the next one can so be followed through the boundary, also
where it does not hold within it.
-/

namespace Skirmish

variable {rules : Rules} {content : Effect → Prop}

/-! ## The last hook -/

/-- The last hook of an affliction that an actor has lost: its effects are played where the actor is
alive, and nothing happens otherwise. -/
structure RunsLast (rules : Rules) (content : Effect → Prop) (x : ActorId) (i : Affliction)
    (b : Battle) (tr : Trace) (flow : Flow) (b' : Battle) : Prop
    extends Works rules content b tr flow b' where
  played : if b.isAlive x then
      let c : HookCall := ⟨x, i.status, .onExpire, none, i.stackCount⟩
      ∃ depth, playEffects rules (runHook rules depth) (c.origin rules.codex) x [x]
        ((rules.codex.status? i.status).elim [] (·.onExpire)) ⟨b, [c.frame]⟩ =
          some (⟨b', [c.frame]⟩, flow)
    else b' = b ∧ flow = .proceed

theorem runsLast_of_runHook (hc : rules.codex.HooksWithin content) {x : ActorId} {i : Affliction}
    {depth : Nat} {b : Battle} {s' : Scene} {flow : Flow}
    (h : runHook rules depth ⟨x, i.status, .onExpire, none, i.stackCount⟩ ⟨b, []⟩ =
      some (s', flow)) :
    s'.running = [] ∧ ∃ tr, RunsLast rules content x i b tr flow s'.battle := by
  obtain ⟨hrunning, tr, hworks⟩ := (ResolvesBy.hook ⟨b, []⟩ _).works hc h
  refine ⟨hrunning, tr, hworks, ?_⟩
  generalize hcall : (⟨x, i.status, .onExpire, none, i.stackCount⟩ : HookCall) = c at h ⊢
  have heffects : c.effects rules.codex ⟨b, []⟩ =
      if b.isAlive x then (rules.codex.status? i.status).elim [] (·.onExpire) else [] := by
    subst hcall
    simp only [HookCall.effects, List.contains_nil, Bool.not_false, Bool.and_true]
    rfl
  by_cases halive : b.isAlive x = true
  · rw [if_pos halive] at heffects ⊢
    rw [← heffects]
    obtain ⟨hempty, rfl, rfl⟩ | ⟨depth', s₁, rfl, rfl, hplay⟩ := runHook_eq_some h
    · rw [List.isEmpty_iff.1 hempty]
      exact ⟨0, rfl⟩
    · have hkept : s₁.running = [c.frame] :=
        ((resolves_hooked hc c ⟨b, []⟩ _).leads (acts_runHook hc depth') _ _ hplay).running
      obtain ⟨b₁, running⟩ := s₁
      obtain rfl : running = [c.frame] := hkept
      subst hcall
      exact ⟨depth', hplay⟩
  · rw [if_neg halive] at heffects ⊢
    rw [runHook_of_isEmpty (by rw [heffects]; rfl)] at h
    cases h
    exact ⟨rfl, rfl⟩

/-! ## Wearing off -/

/-- Afflictions that an actor has lost wear off one by one: each says so, loses its shield and runs
its last hook. -/
inductive Expires (rules : Rules) (content : Effect → Prop) (x : ActorId) :
    List Affliction → Battle → Trace → Flow → Battle → Prop
  | done (b : Battle) : Expires rules content x [] b [] .proceed b
  | halted {i : Affliction} {is : List Affliction} {b b' : Battle} {tr : Trace}
      (hlast : RunsLast rules content x i (b.wearOff rules.codex x i.status) tr .halt b') :
      Expires rules content x (i :: is) b ((b, .wearOff x i.status) :: tr) .halt b'
  | next {i : Affliction} {is : List Affliction} {b b₁ b' : Battle} {tr tr' : Trace} {flow : Flow}
      (hlast : RunsLast rules content x i (b.wearOff rules.codex x i.status) tr .proceed b₁)
      (hrest : Expires rules content x is b₁ tr' flow b') :
      Expires rules content x (i :: is) b ((b, .wearOff x i.status) :: (tr ++ tr')) flow b'

theorem exists_expires (hc : rules.codex.HooksWithin content) {x : ActorId} {depth : Nat}
    {is : List Affliction} {b : Battle} {s' : Scene} {flow : Flow}
    (h : Step.each (fun i => (Step.change fun b => b.wearOff rules.codex x i.status).andThen
        (runHook rules depth ⟨x, i.status, .onExpire, none, i.stackCount⟩)) is ⟨b, []⟩ =
      some (s', flow)) :
    s'.running = [] ∧ ∃ tr, Expires rules content x is b tr flow s'.battle := by
  induction is generalizing b with
  | nil =>
    cases h
    exact ⟨rfl, [], .done b⟩
  | cons i is ih =>
    rcases andThen_eq_some h with ⟨hfirst, rfl⟩ | ⟨s₁, hfirst, hrest⟩
    · obtain ⟨hrunning, tr, hlast⟩ := runsLast_of_runHook hc hfirst
      exact ⟨hrunning, _, .halted hlast⟩
    · obtain ⟨hrunning, tr, hlast⟩ := runsLast_of_runHook hc hfirst
      obtain ⟨b₁, running⟩ := s₁
      obtain rfl : running = [] := hrunning
      obtain ⟨hrunning', tr', hexpires⟩ := ih hrest
      exact ⟨hrunning', _, .next hlast hexpires⟩

/-! ## Phases -/

/-- A boundary of the turn of an actor, phase by phase. -/
inductive Ticks (rules : Rules) (content : Effect → Prop) (x : ActorId) (b : Battle) :
    Trace → Flow → Battle → Prop
  /-- The actor holds no status. -/
  | free (h : b.afflictionsOf x = []) : Ticks rules content x b [] .proceed b
  /-- A first hook ends the battle. -/
  | haltedBefore {tr : Trace} {b' : Battle} (h : Works rules content b tr .halt b') :
      Ticks rules content x b tr .halt b'
  /-- A second hook ends the battle, the statuses have lost a turn. -/
  | haltedAfter {tr tr' : Trace} {b₁ b' : Battle} (h : Works rules content b tr .proceed b₁)
      (h' : Works rules content (b₁.countDown x (b.statusesOf x)) tr' .halt b') :
      Ticks rules content x b (tr ++ (b₁, .countDown x (b.statusesOf x)) :: tr') .halt b'
  /-- The statuses lose a turn between the hooks, and those without a turn left wear off. -/
  | passed {tr tr' tr'' : Trace} {b₁ b₂ b' : Battle} {flow : Flow}
      (h : Works rules content b tr .proceed b₁)
      (h' : Works rules content (b₁.countDown x (b.statusesOf x)) tr' .proceed b₂)
      (hexpires : Expires rules content x (b₂.expired x) (b₂.dropExpired x) tr'' flow b') :
      Ticks rules content x b (tr ++ (b₁, .countDown x (b.statusesOf x)) ::
        (tr' ++ (b₂, .dropExpired x) :: tr'')) flow b'

/-- The hooks that an actor runs at its boundary are the work of effects. -/
theorem works_runHeld (hc : rules.codex.HooksWithin content) {x : ActorId} {hook : Hook}
    {statuses : List String} {depth : Nat} {b : Battle} {s' : Scene} {flow : Flow}
    (h : runHeld (runHook rules depth) x hook statuses ⟨b, []⟩ = some (s', flow)) :
    ∃ b' tr, s' = ⟨b', []⟩ ∧ Works rules content b tr flow b' := by
  obtain ⟨hrunning, tr, hworks⟩ := (resolves_runHeld x hook statuses ⟨b, []⟩).works hc h
  obtain ⟨b', running⟩ := s'
  obtain rfl : running = [] := hrunning
  exact ⟨b', tr, rfl, hworks⟩

/-- **A boundary passes in these phases and in no other way.** -/
theorem ticks_of_tick (hc : rules.codex.HooksWithin content) {x : ActorId} {depth : Nat}
    {b : Battle} {s' : Scene} {flow : Flow}
    (h : tick rules.codex (runHook rules depth) x ⟨b, []⟩ = some (s', flow)) :
    ∃ tr, Ticks rules content x b tr flow s'.battle := by
  unfold tick at h
  split at h
  · next hnil =>
    cases h
    exact ⟨[], .free (List.map_eq_nil_iff.1 hnil)⟩
  · rcases andThen_eq_some h with ⟨hbefore, rfl⟩ | ⟨s₁, hbefore, hrest⟩
    · obtain ⟨b', tr, rfl, hworks⟩ := works_runHeld hc hbefore
      exact ⟨tr, .haltedBefore hworks⟩
    · obtain ⟨b₁, tr, rfl, hworks⟩ := works_runHeld hc hbefore
      rcases andThen_eq_some hrest with ⟨hafter, rfl⟩ | ⟨s₂, hafter, hrest⟩
      · cases hafter
      · cases hafter
        rcases andThen_eq_some hrest with ⟨hafter, rfl⟩ | ⟨s₂, hafter, hlast⟩
        · obtain ⟨b', tr', rfl, hworks'⟩ := works_runHeld hc hafter
          exact ⟨_, .haltedAfter hworks hworks'⟩
        · obtain ⟨b₂, tr', rfl, hworks'⟩ := works_runHeld hc hafter
          obtain ⟨-, tr'', hexpires⟩ := exists_expires hc hlast
          exact ⟨_, .passed hworks hworks' hexpires⟩

/-! ## The trace of a boundary -/

section

variable {x : ActorId} {b b' : Battle} {tr : Trace} {flow : Flow}

theorem Expires.traced {is : List Affliction} (h : Expires rules content x is b tr flow b') :
    Traced rules content b tr b' := by
  induction h with
  | done => exact .nil _
  | halted hlast => exact .cons trivial hlast.traced
  | next hlast _ ih => exact .cons trivial (hlast.traced.append ih)

theorem Ticks.traced (h : Ticks rules content x b tr flow b') : Traced rules content b tr b' := by
  cases h with
  | free => exact .nil _
  | haltedBefore h => exact h.traced
  | haltedAfter h h' => exact h.traced.append (.cons trivial h'.traced)
  | passed h h' hexpires =>
    exact h.traced.append (.cons trivial (h'.traced.append (.cons trivial hexpires.traced)))

theorem Expires.stops {is : List Affliction} (h : Expires rules content x is b tr flow b')
    (hflow : flow = .halt) : b'.isOver = true := by
  induction h with
  | done => cases hflow
  | halted hlast => exact hlast.stops rfl
  | next _ _ ih => exact ih hflow

/-- A boundary halts only where the battle is over. -/
theorem Ticks.stops (h : Ticks rules content x b tr flow b') (hflow : flow = .halt) :
    b'.isOver = true := by
  cases h with
  | free => cases hflow
  | haltedBefore h => exact h.stops rfl
  | haltedAfter _ h' => exact h'.stops rfl
  | passed _ _ hexpires => exact hexpires.stops hflow

end

end Skirmish
