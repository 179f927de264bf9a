import Mathlib.Data.List.Perm.Subperm
import Mathlib.Data.List.ProdSigma
import Skirmish.Proofs.Calls

/-!
# How deep hooks nest

A hook runs within another one only if no hook of the same kind, status and holder runs already. So
the hooks that run are distinct triples of a holder that takes part, a registered status and one of
the six kinds, and there cannot be more of them than such triples (`Scene.Guarded.length_le`).

Summons add holders while hooks run, so the triples are those of the actors in the end and not of
those at the beginning. A hook that summons and passes its status on can go on and on
(`brood_nests_deeper`), but each actor to be summoned takes a number. So the ceiling of a battle
never rises, and hooks run within each other to a depth that is known from the beginning, or to
where the numbers do not suffice and nothing comes of the resolution (`hooks_nest_within`). From
that every call returns, or breaks off where something cannot be computed (`after?_returns`).
-/

namespace Skirmish

open scoped List

/-! ## Actors only become more -/

namespace Table

variable {α β : Type}

/-- Distinct keys of a table are no more than its entries. -/
theorem length_le_size {t : Table α} {ks : List String} (hn : ks.Nodup)
    (h : ∀ k ∈ ks, t.contains k = true) : ks.length ≤ t.size := by
  rw [← length_keys]
  exact (List.subperm_of_subset hn fun k hk => mem_keys_iff.2 (h k hk)).length_le

theorem size_le_size {s : Table α} {t : Table β}
    (h : ∀ k, s.contains k = true → t.contains k = true) : s.size ≤ t.size := by
  rw [← length_keys]
  exact length_le_size s.nodup_keys fun k hk => h k (mem_keys_iff.1 hk)

theorem size_insert_le (t : Table α) (k : String) (v : α) : (t.insert k v).size ≤ t.size + 1 := by
  have hsub : (t.insert k v).keys ⊆ k :: t.keys := by
    intro q hq
    rw [mem_keys_iff, contains_insert] at hq
    simpa [mem_keys_iff] using hq
  rw [← length_keys, ← length_keys]
  exact (List.subperm_of_subset (nodup_keys _) hsub).length_le

end Table

namespace Battle

/-- The most actors that a battle can come to have: each one to be summoned gets a new number. -/
def ceiling (b : Battle) : Nat := b.actors.size + (greatestCount - b.spawned)

/-- No actor is lost, and the ceiling does not rise. -/
structure Grows (b b' : Battle) : Prop where
  contains : ∀ id, b.actors.contains id = true → b'.actors.contains id = true
  ceiling : b'.ceiling ≤ b.ceiling

theorem Grows.refl (b : Battle) : b.Grows b := ⟨fun _ h => h, Nat.le_refl _⟩

theorem Grows.trans {b b' b'' : Battle} (h : b.Grows b') (h' : b'.Grows b'') : b.Grows b'' :=
  ⟨fun id hid => h'.contains id (h.contains id hid), Nat.le_trans h'.ceiling h.ceiling⟩

theorem Grows.size_le {b b' : Battle} (h : b.Grows b') : b.actors.size ≤ b'.actors.size :=
  Table.size_le_size h.contains

theorem Shifts.grows {codex : Codex} {b b' : Battle} (h : b.Shifts codex b') : b.Grows b' := by
  cases h with
  | kept h =>
    refine ⟨fun id hid => by rwa [h.contains], ?_⟩
    have hsize : b'.actors.size ≤ b.actors.size :=
      Table.size_le_size fun id hid => by rwa [← h.contains]
    simp only [Battle.ceiling, h.spawned]
    omega
  | joined side template level n a _ _ hn hmax _ =>
    have hsize : (b.actors.insert (summonId template n) _).size ≤ b.actors.size + 1 :=
      b.actors.size_insert_le (summonId template n) { a with id := summonId template n }
    refine ⟨fun id hid => ?_, ?_⟩
    · change (b.actors.insert _ _).contains id = true
      rw [Table.contains_insert, hid, Bool.or_true]
    · change (b.actors.insert (summonId template n) _).size + (greatestCount - n) ≤
        b.actors.size + (greatestCount - b.spawned)
      omega
  | passed =>
    obtain ⟨round, current, log, heq, -⟩ := b.advance_spec b.order.length
    rw [heq]
    exact ⟨fun _ hid => hid, Nat.le_refl _⟩

theorem Evolves.grows {codex : Codex} {b b' : Battle} (h : b.Evolves codex b') : b.Grows b' :=
  h.induction (fun _ _ hb hshift => hb.trans hshift.grows) (.refl b)

end Battle

/-! ## Running hooks are distinct triples -/

/-- The triples of a kind, a registered status and a holder that takes part. -/
def Battle.triples (b : Battle) (codex : Codex) : Nat :=
  Hook.all.length * codex.statuses.size * b.actors.size

/-- The hooks that run are distinct, of registered statuses and held by actors that take part. -/
structure Scene.Guarded (codex : Codex) (s : Scene) : Prop where
  nodup : s.running.Nodup
  holders : ∀ f ∈ s.running, s.battle.actors.contains f.holder = true
  statuses : ∀ f ∈ s.running, codex.statuses.contains f.status = true

/-- The scene once a hook runs in it. -/
def Scene.enter (s : Scene) (c : HookCall) : Scene := { s with running := c.frame :: s.running }

namespace Scene.Guarded

variable {codex : Codex} {s : Scene}

/-- There are no more running hooks than triples. -/
theorem length_le (h : s.Guarded codex) : s.running.length ≤ s.battle.triples codex := by
  let frames := ((Hook.all ×ˢ codex.statuses.keys) ×ˢ s.battle.actors.keys).map
    fun t => (⟨t.2, t.1.2, t.1.1⟩ : Frame)
  have hsub : s.running ⊆ frames := by
    intro f hf
    refine List.mem_map.2 ⟨((f.hook, f.status), f.holder), ?_, rfl⟩
    refine List.mem_product.2 ⟨List.mem_product.2 ⟨f.hook.mem_all, ?_⟩, ?_⟩
    · exact Table.mem_keys_iff.2 (h.statuses f hf)
    · exact Table.mem_keys_iff.2 (h.holders f hf)
  have hlen : frames.length = s.battle.triples codex := by
    rw [List.length_map, List.length_product, List.length_product, Table.length_keys,
      Table.length_keys, Battle.triples]
  rw [← hlen]
  exact (List.subperm_of_subset h.nodup hsub).length_le

theorem grows (h : s.Guarded codex) {b : Battle} (hb : s.battle.Grows b) :
    ({ s with battle := b } : Scene).Guarded codex :=
  ⟨h.nodup, fun f hf => hb.contains _ (h.holders f hf), h.statuses⟩

/-- A hook that has effects to run is not among those that run. -/
theorem enter (h : s.Guarded codex) {c : HookCall} (hc : (c.effects codex s).isEmpty = false) :
    (s.enter c).Guarded codex := by
  obtain ⟨st, hst, -, halive, hnew⟩ := effects_ne_nil_iff.1 (List.isEmpty_eq_false_iff.1 hc)
  have hholder : s.battle.actors.contains c.holder = true := Battle.contains_of_isAlive halive
  have hstatus : codex.statuses.contains c.status = true := by
    obtain ⟨st', hst', -⟩ := Option.map_eq_some_iff.1 hst
    exact Table.contains_iff.2 ⟨st', hst'⟩
  refine ⟨List.nodup_cons.2 ⟨hnew, h.nodup⟩, ?_, ?_⟩
  · exact List.forall_mem_cons.2 ⟨hholder, h.holders⟩
  · exact List.forall_mem_cons.2 ⟨hstatus, h.statuses⟩

end Scene.Guarded

/-! ## Resolution comes to its end -/

/-- What an outcome comes to, given a depth to which hooks run. It has a result, the same at every
depth that gives one, and all do that let as many hooks run as there are triples in the end; or it
has none at any depth, as a course of events leads to where something cannot be computed. -/
inductive Settles (rules : Rules) (content : Effect → Prop) (s : Scene) (o : Nat → Outcome) : Prop
  | returns (s' : Scene) (flow : Flow) (hsame : ∀ depth, o depth = none ∨ o depth = some (s', flow))
      (hdeep : ∀ depth, s'.battle.triples rules.codex ≤ depth + s.running.length →
        o depth = some (s', flow))
  | fails (b' : Battle) (hcourse : Course rules content s.battle b')
      (hbreaks : Breaks rules content b') (hnone : ∀ depth, o depth = none)

theorem Battle.Grows.triples_le {b b' : Battle} (h : b.Grows b') (codex : Codex) :
    b.triples codex ≤ b'.triples codex :=
  Nat.mul_le_mul_left _ h.size_le

section

variable {rules : Rules} {content : Effect → Prop}

theorem Scene.Leads.grows {s s' : Scene} (h : s.Leads rules content s') :
    s.battle.Grows s'.battle :=
  Course.evolves h.course |>.grows

theorem Scene.Leads.guarded {s s' : Scene} (h : s.Leads rules content s')
    (hs : s.Guarded rules.codex) : s'.Guarded rules.codex := by
  obtain ⟨b', running⟩ := s'
  obtain rfl : running = s.running := h.running
  exact hs.grows h.grows

/-- Scenes in which some given hooks run, guarded and below a ceiling. -/
structure Scene.Under (codex : Codex) (running : List Frame) (top : Nat) (s : Scene) : Prop where
  running : s.running = running
  guarded : s.Guarded codex
  ceiling : s.battle.ceiling ≤ top

theorem Scene.Under.leads {s s' : Scene} {running : List Frame} {top : Nat}
    (hs : s.Under rules.codex running top) (h : s.Leads rules content s') :
    s'.Under rules.codex running top :=
  ⟨h.running.trans hs.running, h.guarded hs.guarded, Nat.le_trans h.grows.ceiling hs.ceiling⟩

/-- Where the hooks settle, so does all that runs them. -/
theorem ResolvesBy.settles {run : Nat → HookRunner} {running : List Frame} {top : Nat}
    (hfollows : ∀ depth c, (run depth c).Follows rules content)
    (hrun : ∀ c s, s.Under rules.codex running top →
      Settles rules content s fun depth => run depth c s)
    {s : Scene} {o : HookRunner → Outcome} (h : Resolves rules content s o)
    (hs : s.Under rules.codex running top) :
    Settles rules content s fun depth => o (run depth) := by
  induction h with
  | stay s flow => exact .returns s flow (fun _ => .inr rfl) fun _ _ => rfl
  | fail s h => exact .fails s.battle .refl h fun _ => rfl
  | hook s c => exact hrun c s hs
  | after hb _ ih =>
    cases ih (hs.leads (leads_of_event hb)) with
    | returns s' flow hsame hdeep => exact .returns s' flow hsame hdeep
    | fails b' hcourse hbreaks hnone => exact .fails b' (.head hb hcourse) hbreaks hnone
  | @andThen s first second h₁ h₂ ih₁ ih₂ =>
    cases ih₁ hs with
    | fails b' hcourse hbreaks hnone =>
      exact .fails b' hcourse hbreaks fun depth => by simp only [Step.andThen, hnone depth]
    | returns s₁ flow₁ hsame₁ hdeep₁ =>
      have hlead₁ : s.Leads rules content s₁ :=
        h₁.leads (hfollows _) _ _ (hdeep₁ _ (Nat.le_add_right _ _))
      cases flow₁ with
      | halt =>
        refine .returns s₁ .halt (fun depth => ?_) fun depth hd => ?_
        · rcases hsame₁ depth with hd | hd <;> simp [Step.andThen, hd]
        · simp only [Step.andThen, hdeep₁ depth hd]
      | proceed =>
        cases ih₂ s₁ (hs.leads hlead₁) with
        | fails b' hcourse hbreaks hnone =>
          refine .fails b' (hlead₁.course.trans hcourse) hbreaks fun depth => ?_
          rcases hsame₁ depth with hd | hd <;> simp only [Step.andThen, hd, hnone depth]
        | returns s₂ flow₂ hsame₂ hdeep₂ =>
          have hlead₂ : s₁.Leads rules content s₂ :=
            (h₂ s₁).leads (hfollows _) _ _ (hdeep₂ _ (Nat.le_add_right _ _))
          have htriples := hlead₂.grows.triples_le rules.codex
          refine .returns s₂ flow₂ (fun depth => ?_) fun depth hd => ?_
          · rcases hsame₁ depth with hd | hd
            · simp only [Step.andThen, hd, true_or]
            · simpa only [Step.andThen, hd] using hsame₂ depth
          · have hd₁ := hdeep₁ depth (Nat.le_trans htriples hd)
            rw [← hlead₁.running] at hd
            simp only [Step.andThen, hd₁, hdeep₂ depth hd]

/-- Where a hook has effects to run, there is a triple left for it. -/
theorem Scene.Under.length_lt {s : Scene} {running : List Frame} {top : Nat}
    (hs : s.Under rules.codex running top) {c : HookCall}
    (hc : (c.effects rules.codex s).isEmpty = false) :
    running.length < Hook.all.length * rules.codex.statuses.size * top := by
  have hlen : (c.frame :: s.running).length ≤ s.battle.triples rules.codex :=
    (hs.guarded.enter hc).length_le
  have hsize : s.battle.actors.size ≤ top :=
    Nat.le_trans (Nat.le_add_right _ _) hs.ceiling
  have htop : s.battle.triples rules.codex ≤
      Hook.all.length * rules.codex.statuses.size * top := Nat.mul_le_mul_left _ hsize
  rw [List.length_cons, hs.running] at hlen
  omega

theorem settles_of_isEmpty {c : HookCall} {s : Scene}
    (hc : (c.effects rules.codex s).isEmpty = true) :
    Settles rules content s fun depth => runHook rules depth c s :=
  .returns s .proceed (fun depth => .inr (runHook_of_isEmpty hc depth)) fun depth _ =>
    runHook_of_isEmpty hc depth

/-- A hook settles where its effects do: it takes one level of the depth and one of the triples. -/
theorem settles_of_effects (hcontent : rules.codex.HooksWithin content) {c : HookCall} {s : Scene}
    (hs : s.Guarded rules.codex) (hc : (c.effects rules.codex s).isEmpty = false)
    (h : Settles rules content (s.enter c) fun depth =>
      playEffects rules (runHook rules depth) (c.origin rules.codex) c.holder [c.defaultTarget]
        (c.effects rules.codex s) (s.enter c)) :
    Settles rules content s fun depth => runHook rules depth c s := by
  have hzero : runHook rules 0 c s = none := by
    simp only [runHook, hc, Bool.false_eq_true, if_false]
  have hsucc (depth : Nat) : runHook rules (depth + 1) c s =
      (playEffects rules (runHook rules depth) (c.origin rules.codex) c.holder [c.defaultTarget]
        (c.effects rules.codex s) (s.enter c)).map
          fun r => ({ r.1 with running := r.1.running.tail }, r.2) := by
    simp only [runHook, hc, Bool.false_eq_true, if_false]
    rfl
  cases h with
  | fails b' hcourse hbreaks hnone =>
    refine .fails b' hcourse hbreaks fun depth => ?_
    cases depth with
    | zero => exact hzero
    | succ depth => rw [hsucc, hnone depth, Option.map_none]
  | returns s' flow hsame hdeep =>
    have hlead : (s.enter c).Leads rules content s' :=
      ((resolves_hooked hcontent c s _).mono fun _ _ => Act.event).leads
        (follows_runHook hcontent _) _ _ (hdeep _ (Nat.le_add_right _ _))
    refine .returns { s' with running := s'.running.tail } flow (fun depth => ?_) fun depth hd => ?_
    · cases depth with
      | zero => exact .inl hzero
      | succ depth =>
        rw [hsucc]
        rcases hsame depth with hd | hd <;> simp [hd]
    · have hroom : s.running.length + 1 ≤ s'.battle.triples rules.codex :=
        Nat.le_trans (hs.enter hc).length_le (hlead.grows.triples_le _)
      change s'.battle.triples rules.codex ≤ depth + s.running.length at hd
      cases depth with
      | zero => omega
      | succ depth =>
        have hlen : (s.enter c).running.length = s.running.length + 1 := rfl
        rw [hsucc, hdeep depth (by omega), Option.map_some]

/-- A hook settles: those that run take up triples, and below a ceiling there are only so many of
them left. -/
theorem settles_runHook (hcontent : rules.codex.HooksWithin content) {top : Nat} (left : Nat)
    (running : List Frame)
    (hleft : Hook.all.length * rules.codex.statuses.size * top ≤ left + running.length)
    (c : HookCall) (s : Scene) (hs : s.Under rules.codex running top) :
    Settles rules content s fun depth => runHook rules depth c s := by
  induction left generalizing running c s with
  | zero =>
    cases hc : (c.effects rules.codex s).isEmpty with
    | true => exact settles_of_isEmpty hc
    | false =>
      have hlt := hs.length_lt hc
      omega
  | succ left ih =>
    cases hc : (c.effects rules.codex s).isEmpty with
    | true => exact settles_of_isEmpty hc
    | false =>
      have hentered : (s.enter c).Under rules.codex (c.frame :: running) top :=
        ⟨congrArg _ hs.running, hs.guarded.enter hc, hs.ceiling⟩
      have hleft' : Hook.all.length * rules.codex.statuses.size * top ≤
          left + (c.frame :: running).length := by
        rw [List.length_cons]
        omega
      refine settles_of_effects hcontent hs.guarded hc ?_
      exact ((resolves_hooked hcontent c s _).mono fun _ _ => Act.event).settles
        (follows_runHook hcontent) (ih _ hleft') hentered

/-- What resolves settles in a battle in which no hook runs. -/
theorem settles_of_resolves (hcontent : rules.codex.HooksWithin content) {b : Battle}
    {o : HookRunner → Outcome} (h : Resolves rules content ⟨b, []⟩ o) :
    Settles rules content ⟨b, []⟩ fun depth => o (runHook rules depth) := by
  have hguarded : Scene.Guarded rules.codex ⟨b, []⟩ :=
    ⟨List.nodup_nil, List.forall_mem_nil _, List.forall_mem_nil _⟩
  refine h.settles (follows_runHook hcontent) ?_ ⟨rfl, hguarded, Nat.le_refl b.ceiling⟩
  exact settles_runHook hcontent _ [] (Nat.le_refl _)

/-- **What resolves can be played, or something in it cannot be computed**: hooks do not run deeper
than a battle lets them. -/
theorem Battle.play?_cases (hcontent : rules.codex.HooksWithin content) {b : Battle}
    {step : HookRunner → Step} (h : Resolves rules content ⟨b, []⟩ fun run => step run ⟨b, []⟩) :
    (∃ b' flow, b.play? rules step = some (b', flow)) ∨
      b.play? rules step = none ∧ ∃ b', Course rules content b b' ∧ Breaks rules content b' := by
  cases settles_of_resolves hcontent h with
  | fails b' hcourse hbreaks hnone =>
    exact .inr ⟨congrArg (Option.map _) (hnone _), b', hcourse, hbreaks⟩
  | returns s' flow _ hdeep =>
    have hlead : Scene.Leads rules content ⟨b, []⟩ s' :=
      h.leads (follows_runHook hcontent _) _ _ (hdeep _ (Nat.le_add_right _ _))
    have hsize : s'.battle.actors.size ≤ b.ceiling :=
      Nat.le_trans (Nat.le_add_right _ _) hlead.grows.ceiling
    have hdepth : s'.battle.triples rules.codex ≤ b.hookDepth rules.codex :=
      Nat.mul_le_mul_left _ hsize
    exact .inl ⟨s'.battle, flow, congrArg (Option.map _) (hdeep _ hdepth)⟩

end

/-! ## Every call returns or breaks off -/

namespace Battle

/-- What keeps a call from its end: its effects, or the statuses of the actor that ends its turn,
lead to where something cannot be computed; or the turn that is passed cannot be counted any
more. -/
inductive Stalls (rules : Rules) (content : Effect → Prop) (b : Battle) : Call → Prop
  | played {act : Action} {id : ActorId} {named targets : List ActorId} {b₁ c : Battle}
      (hvalid : b.validate act id = .ok ())
      (haimed : b.resolveTargets act.targeting id named = (targets, b₁))
      (hcourse : Course rules content (b₁.pay id act) c) (hbreaks : Breaks rules content c) :
      Stalls rules content b (.play act id named)
  | ticked {id : ActorId} {c : Battle} (hid : b.actingActor? = some id)
      (hcourse : Course rules content b c) (hbreaks : Breaks rules content c) :
      Stalls rules content b .pass
  | passed {id : ActorId} {b₁ : Battle} (hid : b.actingActor? = some id)
      (hticked : b.ticked? rules id = some b₁)
      (hfull : (b₁.countBoundary id).passOn.isCounted = false) : Stalls rules content b .pass
  | resolved {r : Resolution} {c : Battle} (hcourse : Course rules content b c)
      (hbreaks : Breaks rules content c) : Stalls rules content b (.resolve r)

/-- A request has no result, and it is not for how deep hooks run: whatever the effects are that it
may apply, something keeps it from its end. -/
def BreaksOff (b : Battle) (q : Request) : Prop :=
  b.after? q = none ∧ ∀ content, q.Within content → b.Stalls q.rules content q.call

/-- One of some requests breaks off, after those before it have been answered. -/
def BreaksOffIn (b : Battle) : List Request → Prop
  | [] => False
  | q :: qs => b.BreaksOff q ∨ ∃ c, b.after? q = some c ∧ c.BreaksOffIn qs

theorem not_breaksOff {b : Battle} {q : Request} (h : (b.after? q).isSome = true) :
    ¬ b.BreaksOff q :=
  fun hbreaks => Option.isSome_iff_ne_none.1 h hbreaks.1

theorem BreaksOffIn.run?_eq_none {b : Battle} {qs : List Request} (h : b.BreaksOffIn qs) :
    b.run? qs = none := by
  induction qs generalizing b with
  | nil => cases h
  | cons q qs ih =>
    obtain ⟨hnone, -⟩ | ⟨c, hq, hbreaks⟩ := h
    · rw [run?, hnone, Option.bind_none]
    · rw [run?, hq, Option.bind_some, ih hbreaks]

theorem not_breaksOffIn {b : Battle} {qs : List Request} (h : (b.run? qs).isSome = true) :
    ¬ b.BreaksOffIn qs :=
  fun hbreaks => Option.isSome_iff_ne_none.1 h hbreaks.run?_eq_none

theorem perform?_returns (b : Battle) (rules : Rules) (act : Action) (id : ActorId)
    (named : List ActorId) :
    (∃ b' out, b.perform? rules act id named = some (b', out)) ∨
      b.BreaksOff ⟨rules, .play act id named⟩ := by
  have hperform : b.after? ⟨rules, .play act id named⟩ =
      (b.perform? rules act id named).map (·.1) := rfl
  unfold BreaksOff
  rw [hperform]
  unfold perform?
  split
  · exact .inl ⟨_, _, rfl⟩
  · next hvalid =>
    split
    · exact .inl ⟨_, _, rfl⟩
    · next targets b₁ _ haimed =>
      have hplays (content : Effect → Prop) (hes : ∀ e ∈ act.effects, content e) :
          Resolves rules content ⟨b₁.pay id act, []⟩ fun run =>
            playEffects rules run { element := act.element } id targets act.effects
              ⟨b₁.pay id act, []⟩ :=
        (resolves_playEffects hes _ _ _ _).mono fun _ _ => Act.event
      cases hp : (b₁.pay id act).play? rules fun run =>
          playEffects rules run { element := act.element } id targets act.effects with
      | some played =>
        obtain ⟨b₂, flow⟩ := played
        exact .inl ⟨_, _, by rw [carryOut?, hp]; rfl⟩
      | none =>
        refine .inr ⟨by rw [carryOut?, hp]; rfl, fun content hq => ?_⟩
        obtain ⟨b', flow, hsome⟩ | ⟨-, c, hcourse, hbreaks⟩ :=
          play?_cases hq.hooks (hplays content hq.own)
        · rw [hp] at hsome
          cases hsome
        · exact .played hvalid haimed hcourse hbreaks

theorem ticked?_returns (b : Battle) (rules : Rules) (id : ActorId) :
    (∃ b₁, b.ticked? rules id = some b₁) ∨ b.ticked? rules id = none ∧
      ∀ content, rules.codex.HooksWithin content →
        ∃ c, Course rules content b c ∧ Breaks rules content c := by
  unfold ticked?
  split
  · cases hp : b.play? rules fun run => tick rules.codex run id with
    | some played => exact .inl ⟨played.1, rfl⟩
    | none =>
      refine .inr ⟨rfl, fun content hc => ?_⟩
      obtain ⟨b', flow, hsome⟩ | ⟨-, hstalls⟩ := play?_cases hc (resolves_tick id ⟨b, []⟩)
      · rw [hp] at hsome
        cases hsome
      · exact hstalls
  · exact .inl ⟨b, rfl⟩

theorem endTurn?_returns (b : Battle) (rules : Rules) :
    (∃ b', b.endTurn? rules = some b') ∨ b.BreaksOff ⟨rules, .pass⟩ := by
  have hpass : b.after? ⟨rules, .pass⟩ = b.endTurn? rules := rfl
  unfold BreaksOff
  rw [hpass]
  cases hid : b.actingActor? with
  | none => exact .inl ⟨b, by rw [endTurn?, hid]⟩
  | some id =>
    rw [endTurn?_of_acting hid]
    obtain ⟨b₁, hticked⟩ | ⟨hnone, hstalls⟩ := b.ticked?_returns rules id
    · rw [hticked, Option.bind_some, passed?]
      cases hcounted : (b₁.countBoundary id).passOn.isCounted with
      | true => exact .inl ⟨_, if_pos rfl⟩
      | false => exact .inr ⟨if_neg Bool.false_ne_true, fun _ _ => .passed hid hticked hcounted⟩
    · refine .inr ⟨by rw [hnone, Option.bind_none], fun content hq => ?_⟩
      obtain ⟨c, hcourse, hbreaks⟩ := hstalls content hq.hooks
      exact .ticked hid hcourse hbreaks

/-- **Every call returns, or something in it cannot be computed.** -/
theorem after?_returns (b : Battle) (q : Request) :
    (∃ b', b.after? q = some b') ∨ b.BreaksOff q := by
  obtain ⟨rules, call⟩ := q
  cases call with
  | play act id named =>
    obtain ⟨b', out, hp⟩ | hbreaks := b.perform?_returns rules act id named
    · exact .inl ⟨b', congrArg (Option.map Prod.fst) hp⟩
    · exact .inr hbreaks
  | pass => exact b.endTurn?_returns rules
  | resolve r =>
    cases hp : b.play? rules (r.step rules) with
    | some played => exact .inl ⟨played.1, congrArg (Option.map Prod.fst) hp⟩
    | none =>
      refine .inr ⟨congrArg (Option.map Prod.fst) hp, fun content hq => ?_⟩
      obtain ⟨b', flow, hsome⟩ | ⟨-, c, hcourse, hbreaks⟩ :=
        play?_cases hq.hooks (r.resolves_step hq.own ⟨b, []⟩)
      · rw [hp] at hsome
        cases hsome
      · exact .resolved hcourse hbreaks
  | _ => exact .inl ⟨_, rfl⟩

/-- So it is with every run of them. -/
theorem run?_returns (b : Battle) (qs : List Request) :
    (∃ b', b.run? qs = some b') ∨ b.BreaksOffIn qs := by
  induction qs generalizing b with
  | nil => exact .inl ⟨b, rfl⟩
  | cons q qs ih =>
    obtain ⟨b₁, hq⟩ | hbreaks := b.after?_returns q
    · obtain ⟨b', hqs⟩ | hbreaks := ih b₁
      · exact .inl ⟨b', by rw [run?, hq, Option.bind_some, hqs]⟩
      · exact .inr (.inr ⟨b₁, hq, hbreaks⟩)
    · exact .inr (.inl hbreaks)

end Battle

/-! ## Depths -/

/-- A resolution comes to its end with no more than `n` hooks running within each other. -/
def Resolution.NestsWithin (r : Resolution) (rules : Rules) (b : Battle) (n : Nat) : Prop :=
  (r.step rules (runHook rules n) ⟨b, []⟩).isSome = true

instance (r : Resolution) (rules : Rules) (b : Battle) (n : Nat) :
    Decidable (r.NestsWithin rules b n) :=
  inferInstanceAs (Decidable (_ = true))

theorem Battle.triples_eq (b : Battle) (codex : Codex) :
    b.triples codex = 6 * b.actors.size * codex.statuses.size :=
  Nat.mul_right_comm ..

/-- **A resolution comes to its end unless something cannot be computed, and then no more hooks have
run within each other than there are triples of one of the six kinds, an actor that takes part by
then and a registered status; where no one has joined, these are the actors of the beginning.** -/
theorem hooks_nest_within (rules : Rules) (b : Battle) (r : Resolution) :
    (∃ b' flow, b.play? rules (r.step rules) = some (b', flow) ∧
      b.actors.size ≤ b'.actors.size ∧
      b'.actors.size ≤ b.actors.size + (greatestCount - b.spawned) ∧
      (∀ depth, r.step rules (runHook rules depth) ⟨b, []⟩ = none ∨
        r.step rules (runHook rules depth) ⟨b, []⟩ = some (⟨b', []⟩, flow)) ∧
      (∀ depth, 6 * b'.actors.size * rules.codex.statuses.size ≤ depth →
        r.step rules (runHook rules depth) ⟨b, []⟩ = some (⟨b', []⟩, flow)) ∧
      (b'.actors.size = b.actors.size →
        r.NestsWithin rules b (6 * b.actors.size * rules.codex.statuses.size))) ∨
    (∀ depth, r.step rules (runHook rules depth) ⟨b, []⟩ = none) ∧
      b.BreaksOff ⟨rules, .resolve r⟩ := by
  have hall : rules.codex.HooksWithin fun _ => True := fun _ _ _ _ _ _ => trivial
  have hresolves : Resolves rules (fun _ => True) ⟨b, []⟩ fun run => r.step rules run ⟨b, []⟩ :=
    r.resolves_step (fun _ _ => trivial) _
  cases settles_of_resolves hall hresolves with
  | fails _ _ _ hnone =>
    have hlost : b.after? ⟨rules, .resolve r⟩ = none :=
      congrArg (Option.map Prod.fst) (congrArg (Option.map _) (hnone _))
    obtain ⟨b', hsome⟩ | hbreaks := b.after?_returns ⟨rules, .resolve r⟩
    · cases hlost.symm.trans hsome
    · exact .inr ⟨hnone, hbreaks⟩
  | returns s' flow hsame hdeep =>
    obtain ⟨b', running⟩ := s'
    have hlead : Scene.Leads rules (fun _ => True) ⟨b, []⟩ ⟨b', running⟩ :=
      hresolves.leads (follows_runHook hall _) _ _ (hdeep _ (Nat.le_add_right _ _))
    obtain rfl : running = [] := hlead.running
    have hgrows : b.Grows b' := hlead.grows
    have hsize : b'.actors.size ≤ b.ceiling := Nat.le_trans (Nat.le_add_right _ _) hgrows.ceiling
    have hbound : ∀ depth, 6 * b'.actors.size * rules.codex.statuses.size ≤ depth →
        r.step rules (runHook rules depth) ⟨b, []⟩ = some (⟨b', []⟩, flow) := by
      intro depth hd
      rw [← Battle.triples_eq] at hd
      exact hdeep depth hd
    refine .inl ⟨b', flow, ?_, hgrows.size_le, hsize, hsame, hbound, fun hjoined => ?_⟩
    · have hdepth : b'.triples rules.codex ≤ b.hookDepth rules.codex :=
        Nat.mul_le_mul_left _ hsize
      rw [Battle.triples_eq] at hdepth
      simp only [Battle.play?, hbound _ hdepth, Option.map_some]
    · rw [hjoined] at hbound
      simp only [Resolution.NestsWithin, hbound _ (Nat.le_refl _), Option.isSome_some]

/-! ## Thorns -/

/-- Whoever is struck under thorns returns a wound. -/
def thornRules : Rules where
  codex :=
    let thorns : Status := { id := "thorns", onTakeDamage := [.trueDamage 1] }
    { statuses := Table.empty.insert "thorns" thorns }

/-- The duel, in which both are under thorns. -/
def thornyDuel : Battle :=
  let prick (b : Battle) (id : ActorId) := b.modifyActor id fun a =>
    { a with afflictions := [⟨"thorns", 3, 1⟩] }
  prick (prick Battle.duel "hero") "slime"

/-- The hero strikes the slime. -/
def blow : Resolution := .effect (.trueDamage 1) {} "hero" ["slime"]

/-- After a blow the thorns of both answer each other, and no one joins. -/
theorem thorns_nest_within : blow.NestsWithin thornRules thornyDuel (6 * 2 * 1) := by
  have hsize : (thornyDuel.play? thornRules (blow.step thornRules)).map (·.1.actors.size) =
      some thornyDuel.actors.size := by
    decide +kernel
  obtain ⟨b', flow, hplay, -, -, -, -, hsame⟩ | ⟨hnone, -⟩ :=
    hooks_nest_within thornRules thornyDuel blow
  · rw [hplay] at hsize
    exact hsame (Option.some.inj hsize)
  · rw [Battle.play?, hnone] at hsize
    cases hsize

/-! ## A brood -/

/-- Whoever gets a brood summons an imp and passes the brood on to the allies above level zero that
have none; then it finds an egg. -/
def brood : Status where
  id := "brood"
  onApply :=
    let heirs : Filter :=
      Filter.allOf [.ofTest .level .gt (.number 0), .ofTest .status .ne (.text "brood")]
    [.summon "imp",
     { Effect.applyStatus "brood" none with
       selector := some { pool := .allies, mode := .condition, condition := some heirs } },
     .giveItem "egg" 1]

/-- Rules with one status; an imp is one level below whoever summons it. -/
def broodRules : Rules where
  codex :=
    let imp : Breed :=
      { base := { id := "imp", name := "Imp", stats := { hp := 5, maxHp := 5, level := -1 } }
        perLevel := { level := 1 } }
    { statuses := Table.empty.insert "brood" brood
      enemies := Table.empty.insert "imp" imp.at }

/-- The duel with a hero of level thirteen. -/
def broodDuel : Battle :=
  Battle.duel.modifyActor "hero" fun a => { a with stats := { a.stats with level := 13 } }

/-- Two actors and one status make twelve triples, yet thirteen hooks run within each other. -/
theorem brood_nests_deeper :
    6 * broodDuel.actors.size * broodRules.codex.statuses.size = 12 ∧
      ¬ (Resolution.status "hero" "brood" none).NestsWithin broodRules broodDuel 12 ∧
      (Resolution.status "hero" "brood" none).NestsWithin broodRules broodDuel 13 := by
  have hdeep : ((Resolution.status "hero" "brood" none).step broodRules (runHook broodRules 12)
      ⟨broodDuel, []⟩).isSome = false := by
    decide +kernel
  have hdeeper : ((Resolution.status "hero" "brood" none).step broodRules (runHook broodRules 13)
      ⟨broodDuel, []⟩).isSome = true := by
    decide +kernel
  exact ⟨by decide +kernel, Bool.eq_false_iff.1 hdeep, hdeeper⟩

end Skirmish
