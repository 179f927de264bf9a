import Mathlib.Logic.Relation
import Skirmish.Resolution.Boundary

/-!
# Resolution as a course of events

Effects and the hooks that answer them run within each other to any depth, but whatever runs, the
battle only changes by a few kinds of deeds: targets are looked for, an effect without a target is
applied, a target is struck, changed or afflicted, and at the boundary of a turn statuses are
counted down, dropped and wear off. `Deed` lists them, and `Deed.May` says what is known of each
when it happens. The deeds of boundaries are no work of effects or hooks, so `Act` leaves them out
and `Event` has them all.

A step of resolution is given what runs the hooks. `ResolvesBy` says how its outcome is put
together: from events of some sort, from runs of hooks and from steps in a row, and from nothing
else; where something cannot be computed (`Breaks`) there is none. Every step resolves in this sense
(`resolves_applyEffect`, `resolves_applyStatus`, `resolves_tick`), so what is to be shown of all of
them is shown by one induction. The first uses are `acts_runHook`, `follows_runHook` and
`stops_runHook`: whatever a step makes of a scene is a course of events, the same hooks are running
afterwards, and a step that halts has met the end of the battle.
-/

namespace Skirmish

open Relation (ReflTransGen)

/-! ## Deeds -/

/-- The effects that hooks of registered statuses run are among some effects. -/
def Codex.HooksWithin (c : Codex) (content : Effect → Prop) : Prop :=
  ∀ id st, c.status? id = some st → ∀ hook, ∀ e ∈ st.hooked hook, content e

instance (c : Codex) (content : Effect → Prop) [DecidablePred content] :
    Decidable (c.HooksWithin content) :=
  decidable_of_iff (c.statuses.Each fun _ st => ∀ hook ∈ Hook.all, ∀ e ∈ st.hooked hook, content e)
    ⟨fun h id st hst hook e he => by
      obtain ⟨t, ht, rfl⟩ := Option.map_eq_some_iff.1 hst
      exact h id t ht hook hook.mem_all e (by cases hook <;> exact he),
    fun h id st hst hook _ e he =>
      h id { st with id := id } (by rw [Codex.status?, hst, Option.map_some]) hook e
        (by cases hook <;> exact he)⟩

/-- One thing that happens to a battle while something is resolved. -/
inductive Deed where
  /-- Targets are looked for. -/
  | aim (s : Selector) (id : ActorId)
  /-- An effect without a target is applied. -/
  | supply (e : Effect) (o : Origin) (user : ActorId)
  /-- Damage reaches a target. -/
  | strike (e : Effect) (o : Origin) (user id : ActorId) (rolls : Rolls)
  /-- An immediate effect reaches a target. -/
  | change (e : Effect) (o : Origin) (user id : ActorId)
  /-- A status is applied to someone. -/
  | afflict (id : ActorId) (st : Status) (turns : Option Nat)
  /-- Statuses lose a turn. -/
  | countDown (id : ActorId) (statuses : List String)
  /-- Statuses without a turn left are taken away. -/
  | dropExpired (id : ActorId)
  /-- A status that was taken away says so and loses its shield. -/
  | wearOff (id : ActorId) (status : String)

namespace Deed

/-- Whether a deed belongs to the boundary of a turn, and so is no work of an effect. -/
def isBoundary : Deed → Bool
  | countDown .. | dropExpired _ | wearOff .. => true
  | _ => false

/-- The battle after a deed. -/
def perform (rules : Rules) (b : Battle) : Deed → Battle
  | aim s id => (b.resolveTargets s id []).2
  | supply e o user => (b.supply rules e o user).1
  | strike e o user id rolls => (b.strike rules e o user id rolls).1
  | change e o user id => b.applyImmediate rules e o user id
  | afflict id st turns => (b.afflict rules.codex id st turns).1
  | countDown id statuses => b.countDown id statuses
  | dropExpired id => b.dropExpired id
  | wearOff id status => b.wearOff rules.codex id status

/-- Who does a deed, where someone does. -/
def user? : Deed → Option ActorId
  | aim _ id => some id
  | supply _ _ user | strike _ _ user _ _ | change _ _ user _ => some user
  | _ => none

/-- What is known when a deed happens that is due to effects among some effects: nothing is supplied
once the battle is over or where the numbers do not suffice, a target is reached, and a status is
registered. -/
def May (rules : Rules) (content : Effect → Prop) (b : Battle) : Deed → Prop
  | supply e o user => content e ∧ b.isOver = false ∧ b.HasNumbers rules e o user
  | strike e _ _ id _ => content e ∧ b.isReached e id = true ∧ e.kind = .damage
  | change e _ _ id => content e ∧ b.isReached e id = true
  | afflict _ st turns => rules.codex.status? st.id = some st ∧
      ∃ e, content e ∧ e.kind = .applyStatus ∧ e.statusId = some st.id ∧ e.statusTurns = turns
  | _ => True

end Deed

/-- A battle becomes another one by a deed, due to effects that are among some effects. -/
def Event (rules : Rules) (content : Effect → Prop) (b b' : Battle) : Prop :=
  ∃ d : Deed, d.May rules content b ∧ d.perform rules b = b'

/-- A battle becomes another one by a deed that is no part of a boundary. -/
def Act (rules : Rules) (content : Effect → Prop) (b b' : Battle) : Prop :=
  ∃ d : Deed, d.isBoundary = false ∧ d.May rules content b ∧ d.perform rules b = b'

/-- A battle becomes another one by a deed that is no part of a boundary, and that no one does but
one actor. -/
def ActBy (rules : Rules) (content : Effect → Prop) (who : Option ActorId) (b b' : Battle) : Prop :=
  ∃ d : Deed, d.isBoundary = false ∧ (∀ u ∈ d.user?, who = some u) ∧ d.May rules content b ∧
    d.perform rules b = b'

/-- A battle becomes another one by a deed of a boundary. -/
def Wears (rules : Rules) (b b' : Battle) : Prop :=
  ∃ d : Deed, d.isBoundary = true ∧ d.perform rules b = b'

theorem ActBy.act {rules : Rules} {content : Effect → Prop} {who : Option ActorId} {b b' : Battle}
    (h : ActBy rules content who b b') : Act rules content b b' := by
  obtain ⟨d, hinner, -, hd⟩ := h
  exact ⟨d, hinner, hd⟩

theorem Wears.event {rules : Rules} {content : Effect → Prop} {b b' : Battle}
    (h : Wears rules b b') : Event rules content b b' := by
  obtain ⟨d, hboundary, hd⟩ := h
  refine ⟨d, ?_, hd⟩
  cases d <;> trivial

theorem Act.event {rules : Rules} {content : Effect → Prop} {b b' : Battle}
    (h : Act rules content b b') : Event rules content b b' := by
  obtain ⟨d, -, hd⟩ := h
  exact ⟨d, hd⟩

/-- A course of events. -/
abbrev Course (rules : Rules) (content : Effect → Prop) : Battle → Battle → Prop :=
  ReflTransGen (Event rules content)

/-! ## Resolution -/

/-- What comes of a step: nothing where hooks run too deep within each other, or where something
cannot be computed. -/
abbrev Outcome := Option (Scene × Flow)

/-- What cannot be computed in a battle for one of some effects: whom it is to summon, as the
numbers do not suffice; one stack more of its status, as an actor has all that can be counted; the
chance to hit whom it reaches, as it is no number. -/
inductive Breaks (rules : Rules) (content : Effect → Prop) (b : Battle) : Prop
  | numbers {e : Effect} (he : content e) (o : Origin) (user : ActorId) (hgoing : b.isOver = false)
      (h : ¬b.HasNumbers rules e o user)
  | stacks {e : Effect} (he : content e) (hk : e.kind = .applyStatus) {st : Status}
      (hst : rules.codex.status? st.id = some st) (hstatus : e.statusId = some st.id) (id : ActorId)
      (h : b.canStack id st = false)
  | chance {e : Effect} (he : content e) (hk : e.kind = .damage) {id : ActorId}
      (hreached : b.isReached e id = true) (h : rules.balance.hasHitChance = false)

/-- How the outcome of a step from a scene depends on what runs the hooks, given some effects and
what may happen to the battle at once. -/
inductive ResolvesBy (rules : Rules) (content : Effect → Prop) (E : Battle → Battle → Prop) :
    Scene → (HookRunner → Outcome) → Prop
  /-- Nothing happens; a step only halts where the battle is over. -/
  | stay (s : Scene) (flow : Flow) (h : flow = .halt → s.battle.isOver = true) :
      ResolvesBy rules content E s fun _ => some (s, flow)
  /-- Something cannot be computed, and there is no result. -/
  | fail (s : Scene) (h : Breaks rules content s.battle) :
      ResolvesBy rules content E s fun _ => none
  /-- A hook runs. -/
  | hook (s : Scene) (c : HookCall) : ResolvesBy rules content E s fun run => run c s
  /-- An event comes first. -/
  | after {s : Scene} {b : Battle} {o : HookRunner → Outcome}
      (hb : E s.battle b) (ho : ResolvesBy rules content E { s with battle := b } o) :
      ResolvesBy rules content E s o
  /-- Two steps are taken, one after the other. -/
  | andThen {s : Scene} {first second : HookRunner → Step}
      (h₁ : ResolvesBy rules content E s fun run => first run s)
      (h₂ : ∀ s', ResolvesBy rules content E s' fun run => second run s') :
      ResolvesBy rules content E s fun run => (first run).andThen (second run) s

/-- How the outcome of a step comes about by events. -/
abbrev Resolves (rules : Rules) (content : Effect → Prop) :
    Scene → (HookRunner → Outcome) → Prop :=
  ResolvesBy rules content (Event rules content)

section

variable {rules : Rules} {content : Effect → Prop} {E E' : Battle → Battle → Prop}

theorem ResolvesBy.mono (hE : ∀ b b', E b b' → E' b b') {s : Scene} {o : HookRunner → Outcome}
    (h : ResolvesBy rules content E s o) : ResolvesBy rules content E' s o := by
  induction h with
  | stay s flow h => exact .stay s flow h
  | fail s h => exact .fail s h
  | hook s c => exact .hook s c
  | after hb _ ih => exact .after (hE _ _ hb) ih
  | andThen _ _ ih₁ ih₂ => exact .andThen ih₁ ih₂

theorem resolves_done (s : Scene) : ResolvesBy rules content E s fun _ => Step.done s :=
  .stay s .proceed nofun

theorem resolves_each {α : Type} {f : HookRunner → α → Step} {xs : List α}
    (hf : ∀ x ∈ xs, ∀ s, ResolvesBy rules content E s fun run => f run x s) (s : Scene) :
    ResolvesBy rules content E s fun run => Step.each (f run) xs s := by
  induction xs generalizing s with
  | nil => exact resolves_done s
  | cons x xs ih =>
    exact .andThen (hf x List.mem_cons_self s) fun s' =>
      ih (fun y hy => hf y (List.mem_cons_of_mem _ hy)) s'

theorem resolves_change {f : Battle → Battle} (s : Scene) (hf : E s.battle (f s.battle)) :
    ResolvesBy rules content E s fun _ => Step.change f s :=
  .after hf (.stay _ .proceed nofun)

theorem resolves_answerDamage (holder : ActorId) (hook : Hook) (other : ActorId) (s : Scene) :
    ResolvesBy rules content E s fun run => answerDamage run holder hook other s :=
  resolves_each (fun _ _ s' => .hook s' _) s

theorem resolves_onDamage (attacker victim : ActorId) (s : Scene) :
    ResolvesBy rules content E s fun run => onDamage run attacker victim s :=
  .andThen (resolves_answerDamage attacker .onDealDamage victim s)
    (resolves_answerDamage victim .onTakeDamage attacker)

theorem resolves_runHeld (holder : ActorId) (hook : Hook) (statuses : List String) (s : Scene) :
    ResolvesBy rules content E s fun run => runHeld run holder hook statuses s := by
  refine resolves_each (fun status _ s => ?_) s
  cases hi : (s.battle.actor? holder).bind (·.affliction? status) with
  | none => exact .stay s .proceed nofun
  | some i => exact .hook s _

end

variable {rules : Rules} {content : Effect → Prop}

/-! ## Effects -/

theorem resolves_applyStatus_by {e : Effect} (he : content e) (hk : e.kind = .applyStatus)
    {status : String} (hstatus : e.statusId = some status) (who : Option ActorId) (id : ActorId)
    (s : Scene) : ResolvesBy rules content (ActBy rules content who) s fun run =>
      applyStatus rules run id status e.statusTurns s := by
  cases hst : rules.codex.status? status with
  | none =>
    simp only [applyStatus, hst]
    exact .stay s .proceed nofun
  | some st =>
    obtain rfl : st.id = status := Codex.id_of_status? hst
    have hact : ActBy rules content who s.battle _ :=
      ⟨.afflict id st e.statusTurns, rfl, nofun, ⟨hst, e, he, hk, hstatus, rfl⟩, rfl⟩
    obtain ⟨-, hcounted⟩ | ⟨hfull, hcounted⟩ :=
      s.battle.afflicted?_cases rules.codex id st e.statusTurns
    · rcases hb : s.battle.afflict rules.codex id st e.statusTurns with ⟨b, count⟩
      rw [Deed.perform, hb] at hact
      cases count with
      | none =>
        simp only [applyStatus, hst, hcounted, hb]
        exact .after hact (.stay _ .proceed nofun)
      | some count =>
        simp only [applyStatus, hst, hcounted, hb]
        exact .after hact (.hook _ _)
    · simp only [applyStatus, hst, hcounted]
      exact .fail s (.stacks he hk hst hstatus id hfull)

theorem resolves_applyStatus {e : Effect} (he : content e) (hk : e.kind = .applyStatus)
    {status : String} (hstatus : e.statusId = some status) (id : ActorId) (s : Scene) :
    ResolvesBy rules content (Act rules content) s fun run =>
      applyStatus rules run id status e.statusTurns s :=
  (resolves_applyStatus_by he hk hstatus none id s).mono fun _ _ => ActBy.act

/-- Whoever an effect is applied by does the deeds of it; those of hooks are done by their
holders. -/
theorem resolves_applyToEach_by {e : Effect} (he : content e) (o : Origin) (user : ActorId)
    (ids : List ActorId) (rolls : Rolls) (s : Scene) :
    ResolvesBy rules content (ActBy rules content (some user)) s fun run =>
      applyToEach rules run e o user ids rolls s := by
  induction ids generalizing rolls s with
  | nil => exact resolves_done s
  | cons id ids ih =>
    by_cases hr : s.battle.isReached e id = true
    · simp only [applyToEach, if_pos hr]
      split
      · next hk =>
        have hact : ActBy rules content (some user) s.battle _ :=
          ⟨.strike e o user id rolls, rfl, fun _ h => h, ⟨he, hr, hk⟩, rfl⟩
        obtain hstruck | ⟨hnone, hstruck⟩ := s.battle.struck?_cases rules e o user id rolls
        · simp only [hstruck]
          refine .after hact (.andThen ?_ (ih _))
          by_cases hlanded : (s.battle.strike rules e o user id rolls).2.2 = true
          · simp only [if_pos hlanded]
            exact resolves_onDamage user id _
          · simp only [if_neg hlanded]
            exact resolves_done _
        · simp only [hstruck]
          exact .fail s (.chance he hk hr hnone)
      · next hk =>
        refine .andThen ?_ (ih rolls)
        cases hst : e.statusId with
        | none => exact resolves_done s
        | some st => exact resolves_applyStatus_by he hk hst _ id s
      · exact .after ⟨.change e o user id, rfl, fun _ h => h, ⟨he, hr⟩, rfl⟩ (ih rolls _)
    · simp only [applyToEach, if_neg hr]
      exact ih rolls s

/-- An effect without a target halts only by ending the battle. -/
theorem isOver_of_supply {b : Battle} {e : Effect} {o : Origin} {user : ActorId}
    (h : (b.supply rules e o user).2 = .halt) : (b.supply rules e o user).1.isOver = true := by
  unfold Battle.supply at h ⊢
  dsimp only at h ⊢
  split
  · cases hended : b.ended <;>
      simp [Battle.isOver, Battle.finish, Battle.announce, hended]
  all_goals simp_all

theorem resolves_applyEffect_by {e : Effect} (he : content e) (o : Origin) (user : ActorId)
    (targets : List ActorId) (s : Scene) :
    ResolvesBy rules content (ActBy rules content (some user)) s fun run =>
      applyEffect rules run e o user targets s := by
  cases hb : s.battle.isOver with
  | true =>
    simp only [applyEffect, hb, if_true]
    exact .stay s .halt fun _ => hb
  | false =>
    by_cases hk : e.kind.isTargetless = true
    · obtain ⟨hnumbers, hsupplied⟩ | ⟨hnumbers, hsupplied⟩ :=
        s.battle.supplied?_cases rules e o user
      · simp only [applyEffect, hb, if_pos hk, hsupplied]
        exact .after ⟨.supply e o user, rfl, fun _ h => h, ⟨he, hb, hnumbers⟩, rfl⟩
          (.stay _ _ isOver_of_supply)
      · simp only [applyEffect, hb, if_pos hk, hsupplied]
        exact .fail s (.numbers he o user hb hnumbers)
    · simp only [applyEffect, hb, if_neg hk]
      exact resolves_applyToEach_by he o user targets _ s

theorem resolves_applyEffect {e : Effect} (he : content e) (o : Origin) (user : ActorId)
    (targets : List ActorId) (s : Scene) :
    ResolvesBy rules content (Act rules content) s fun run =>
      applyEffect rules run e o user targets s :=
  (resolves_applyEffect_by he o user targets s).mono fun _ _ => ActBy.act

theorem resolves_playEffects_by {es : List Effect} (hes : ∀ e ∈ es, content e) (o : Origin)
    (user : ActorId) (targets : List ActorId) (s : Scene) :
    ResolvesBy rules content (ActBy rules content (some user)) s fun run =>
      playEffects rules run o user targets es s := by
  refine resolves_each (fun e he s => ?_) s
  cases hsel : e.selector with
  | none =>
    simp only [playEffect, hsel]
    exact resolves_applyEffect_by (hes e he) o user targets s
  | some sel =>
    simp only [playEffect, hsel]
    exact .after ⟨.aim sel user, rfl, fun _ h => h, trivial, rfl⟩
      (resolves_applyEffect_by (hes e he) o user _ _)

theorem resolves_playEffects {es : List Effect} (hes : ∀ e ∈ es, content e) (o : Origin)
    (user : ActorId) (targets : List ActorId) (s : Scene) :
    ResolvesBy rules content (Act rules content) s fun run =>
      playEffects rules run o user targets es s :=
  (resolves_playEffects_by hes o user targets s).mono fun _ _ => ActBy.act

/-! ## Boundaries -/

theorem wears_expire (holder : ActorId) (s : Scene) :
    ResolvesBy rules content (Wears rules) s fun run => expire rules.codex run holder s :=
  .after ⟨.dropExpired holder, rfl, rfl⟩ <| resolves_each (fun i _ s =>
    .andThen (resolves_change s ⟨.wearOff holder i.status, rfl, rfl⟩) fun s' => .hook s' _) _

/-- A boundary itself has only deeds of boundaries, and no one does them. -/
theorem wears_tick (holder : ActorId) (s : Scene) :
    ResolvesBy rules content (Wears rules) s fun run => tick rules.codex run holder s := by
  cases hs : (s.battle.afflictionsOf holder).map (·.status) with
  | nil =>
    simp only [tick, hs]
    exact .stay s .proceed nofun
  | cons status statuses =>
    simp only [tick, hs]
    refine .andThen (resolves_runHeld _ _ _ s) fun s => ?_
    refine .andThen (resolves_change s ⟨.countDown holder _, rfl, rfl⟩) fun s => ?_
    exact .andThen (resolves_runHeld _ _ _ s) (wears_expire holder)

theorem resolves_tick (holder : ActorId) (s : Scene) :
    Resolves rules content s fun run => tick rules.codex run holder s :=
  (wears_tick holder s).mono fun _ _ => Wears.event

/-! ## Following -/

/-- What a step may make of a scene, given what may happen to the battle at once; the same hooks are
running afterwards. -/
structure Scene.LeadsBy (E : Battle → Battle → Prop) (s s' : Scene) : Prop where
  running : s'.running = s.running
  course : ReflTransGen E s.battle s'.battle

/-- What a step may make of a scene by a course of events. -/
abbrev Scene.Leads (rules : Rules) (content : Effect → Prop) : Scene → Scene → Prop :=
  Scene.LeadsBy (Event rules content)

/-- Whatever a step makes of a scene, the scene leads there. -/
def Step.FollowsBy (E : Battle → Battle → Prop) (step : Step) : Prop :=
  ∀ s s' flow, step s = some (s', flow) → s.LeadsBy E s'

/-- Whatever a step makes of a scene, it does by a course of events. -/
abbrev Step.Follows (rules : Rules) (content : Effect → Prop) (step : Step) : Prop :=
  step.FollowsBy (Event rules content)

section

variable {E E' : Battle → Battle → Prop}

theorem Scene.LeadsBy.refl (s : Scene) : s.LeadsBy E s := ⟨rfl, .refl⟩

theorem Scene.LeadsBy.trans {s s' s'' : Scene} (h : s.LeadsBy E s') (h' : s'.LeadsBy E s'') :
    s.LeadsBy E s'' :=
  ⟨h'.running.trans h.running, h.course.trans h'.course⟩

theorem Scene.LeadsBy.mono (hE : ∀ b b', E b b' → E' b b') {s s' : Scene} (h : s.LeadsBy E s') :
    s.LeadsBy E' s' :=
  ⟨h.running, ReflTransGen.mono hE _ _ h.course⟩

theorem leads_of_event {s : Scene} {b : Battle} (h : E s.battle b) :
    s.LeadsBy E { s with battle := b } :=
  ⟨rfl, .single h⟩

/-- A step in a row stops where the first one stops and goes on where it goes on. -/
theorem andThen_eq_some {first second : Step} {s s' : Scene} {flow : Flow}
    (h : (first.andThen second) s = some (s', flow)) :
    (first s = some (s', .halt) ∧ flow = .halt) ∨
      ∃ s₁, first s = some (s₁, .proceed) ∧ second s₁ = some (s', flow) := by
  unfold Step.andThen at h
  split at h
  · cases h
  · next s₁ hs => exact .inr ⟨s₁, hs, h⟩
  · next s₁ hs =>
    cases h
    exact .inl ⟨hs, rfl⟩

/-- Where hooks follow, so does all that runs them. -/
theorem ResolvesBy.leads {run : HookRunner} (hrun : ∀ c, (run c).FollowsBy E) {s : Scene}
    {o : HookRunner → Outcome} (h : ResolvesBy rules content E s o) :
    ∀ s' flow, o run = some (s', flow) → s.LeadsBy E s' := by
  induction h with
  | stay s flow =>
    intro s' flow' h
    cases h
    exact .refl s
  | fail => exact nofun
  | hook s c => exact hrun c s
  | after hb _ ih => exact fun s' flow h => (leads_of_event hb).trans (ih s' flow h)
  | andThen _ _ ih₁ ih₂ =>
    intro s' flow h
    obtain ⟨hfirst, -⟩ | ⟨s₁, hfirst, hsecond⟩ := andThen_eq_some h
    · exact ih₁ _ _ hfirst
    · exact (ih₁ _ _ hfirst).trans (ih₂ s₁ _ _ hsecond)

end

theorem runHook_of_isEmpty {c : HookCall} {s : Scene}
    (h : (c.effects rules.codex s).isEmpty = true) (depth : Nat) :
    runHook rules depth c s = some (s, .proceed) := by
  cases depth <;> simp only [runHook, h, if_true]

/-- A hook has nothing to run, or its effects are played one level deeper, with the hook running. -/
theorem runHook_eq_some {depth : Nat} {c : HookCall} {s s' : Scene} {flow : Flow}
    (h : runHook rules depth c s = some (s', flow)) :
    ((c.effects rules.codex s).isEmpty = true ∧ s' = s ∧ flow = .proceed) ∨
      ∃ d s₁, depth = d + 1 ∧ s' = { s₁ with running := s₁.running.tail } ∧
        playEffects rules (runHook rules d) (c.origin rules.codex) c.holder [c.defaultTarget]
          (c.effects rules.codex s) { s with running := c.frame :: s.running } =
            some (s₁, flow) := by
  cases hempty : (c.effects rules.codex s).isEmpty with
  | true =>
    rw [runHook_of_isEmpty hempty] at h
    cases h
    exact .inl ⟨rfl, rfl, rfl⟩
  | false =>
    cases depth with
    | zero =>
      simp only [runHook, hempty] at h
      cases h
    | succ d =>
      simp only [runHook, hempty, Bool.false_eq_true, if_false] at h
      obtain ⟨⟨s₁, flow₁⟩, hplay, heq⟩ := Option.map_eq_some_iff.1 h
      cases heq
      exact .inr ⟨d, s₁, rfl, rfl, hplay⟩

theorem mem_effects {c : HookCall} {codex : Codex} {s : Scene} {e : Effect}
    (h : e ∈ c.effects codex s) :
    ∃ st, codex.status? c.status = some st ∧ e ∈ st.hooked c.hook := by
  unfold HookCall.effects at h
  split at h
  · cases hst : codex.status? c.status with
    | none => simp [hst] at h
    | some st => exact ⟨st, rfl, by simpa [hst] using h⟩
  · cases h

/-- A call has effects to run exactly if its status is registered and has some for the hook, the
holder is alive and the hook does not run yet. -/
theorem effects_ne_nil_iff {c : HookCall} {codex : Codex} {s : Scene} :
    c.effects codex s ≠ [] ↔ ∃ st, codex.status? c.status = some st ∧ st.hooked c.hook ≠ [] ∧
      s.battle.isAlive c.holder = true ∧ c.frame ∉ s.running := by
  unfold HookCall.effects
  split
  · next hfree =>
    simp only [Bool.and_eq_true, Bool.not_eq_true', List.contains_eq_mem,
      decide_eq_false_iff_not] at hfree
    cases codex.status? c.status with
    | none => simp
    | some st => simp [hfree]
  · next hstop =>
    simp only [Bool.and_eq_true, Bool.not_eq_true', List.contains_eq_mem,
      decide_eq_false_iff_not] at hstop
    exact ⟨fun h => absurd rfl h, fun ⟨_, _, _, hfree⟩ => absurd hfree hstop⟩

theorem content_of_mem_effects {c : HookCall} {codex : Codex} (hc : codex.HooksWithin content)
    {s : Scene} {e : Effect} (h : e ∈ c.effects codex s) : content e := by
  obtain ⟨st, hst, hmem⟩ := mem_effects h
  exact hc _ st hst _ e hmem

theorem resolves_hooked_by (hc : rules.codex.HooksWithin content) (c : HookCall) (s s' : Scene) :
    ResolvesBy rules content (ActBy rules content (some c.holder)) s' fun run =>
      playEffects rules run (c.origin rules.codex) c.holder [c.defaultTarget]
        (c.effects rules.codex s) s' :=
  resolves_playEffects_by (fun _ he => content_of_mem_effects hc he) _ _ _ s'

theorem resolves_hooked (hc : rules.codex.HooksWithin content) (c : HookCall) (s s' : Scene) :
    ResolvesBy rules content (Act rules content) s' fun run =>
      playEffects rules run (c.origin rules.codex) c.holder [c.defaultTarget]
        (c.effects rules.codex s) s' :=
  (resolves_hooked_by hc c s s').mono fun _ _ => ActBy.act

/-- **What hooks do, at every depth, is the work of effects.** -/
theorem acts_runHook (hc : rules.codex.HooksWithin content) (depth : Nat) (c : HookCall) :
    (runHook rules depth c).FollowsBy (Act rules content) := by
  induction depth generalizing c with
  | zero =>
    intro s s' flow h
    obtain ⟨-, rfl, -⟩ | ⟨d, -, hd, -⟩ := runHook_eq_some h
    · exact .refl _
    · cases hd
  | succ depth ih =>
    intro s s' flow h
    obtain ⟨-, rfl, -⟩ | ⟨d, s₁, hd, rfl, hplay⟩ := runHook_eq_some h
    · exact .refl _
    · cases hd
      obtain ⟨hrunning, hcourse⟩ := (resolves_hooked hc c s _).leads ih _ _ hplay
      -- the frame of the hook is on top again, so leaving it restores what was running
      exact ⟨by rw [hrunning, List.tail_cons], hcourse⟩

/-- **Hooks follow, at every depth.** -/
theorem follows_runHook (hc : rules.codex.HooksWithin content) (depth : Nat) (c : HookCall) :
    (runHook rules depth c).Follows rules content :=
  fun s s' flow h => (acts_runHook hc depth c s s' flow h).mono fun _ _ => Act.event

/-! ## Halting -/

/-- A step halts only where the battle is over. -/
def Step.StopsOver (step : Step) : Prop :=
  ∀ s s', step s = some (s', .halt) → s'.battle.isOver = true

/-- Where hooks halt only with the battle over, so does all that runs them. -/
theorem ResolvesBy.stops {E : Battle → Battle → Prop} {run : HookRunner}
    (hrun : ∀ c, (run c).StopsOver) {s : Scene} {o : HookRunner → Outcome}
    (h : ResolvesBy rules content E s o) :
    ∀ s', o run = some (s', .halt) → s'.battle.isOver = true := by
  induction h with
  | stay s flow hflow =>
    intro s' h
    cases h
    exact hflow rfl
  | fail => exact nofun
  | hook s c => exact hrun c s
  | after _ _ ih => exact ih
  | andThen _ _ ih₁ ih₂ =>
    intro s' h
    obtain ⟨hfirst, -⟩ | ⟨s₁, -, hsecond⟩ := andThen_eq_some h
    · exact ih₁ _ hfirst
    · exact ih₂ s₁ _ hsecond

/-- **Hooks halt only with the battle over, at every depth.** -/
theorem stops_runHook (rules : Rules) (depth : Nat) (c : HookCall) :
    (runHook rules depth c).StopsOver := by
  have hall : rules.codex.HooksWithin fun _ => True := fun _ _ _ _ _ _ => trivial
  induction depth generalizing c with
  | zero =>
    intro s s' h
    obtain ⟨-, -, hflow⟩ | ⟨d, -, hd, -⟩ := runHook_eq_some h
    · cases hflow
    · cases hd
  | succ depth ih =>
    intro s s' h
    obtain ⟨-, -, hflow⟩ | ⟨d, s₁, hd, rfl, hplay⟩ := runHook_eq_some h
    · cases hflow
    · cases hd
      exact (resolves_hooked hall c s _).stops ih s₁ hplay

end Skirmish
