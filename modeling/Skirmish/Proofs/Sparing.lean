import Skirmish.Proofs.Nesting
import Skirmish.Proofs.Statuses

/-!
# What an actor holds of a status

A status that an actor holds changes by little: the actor accepts it again, it is cleansed or
dispelled, or the actor's own boundary counts it down. A deed `Touches` the status in the first two
ways, and a trace that has no such deed `Spares` it.

`Battle.held` is what an actor holds of a status. Deeds that do not touch the status leave it as it
is, but for the two by which the actor's own boundary counts (`Traced.held`); so a boundary that
does not halt makes it `aged` (`Ticks.held`), and every other call that spares the status leaves it
alone (`Spared.held`). Along a run that spares the status, one affliction therefore loses a turn
with each boundary passed and then wears off, once (`SparedRun.lasts`). Runs that spare a status can
be told by their effects (`exists_sparedRun`).
-/

namespace Skirmish

/-! ## What touches a status -/

/-- Whether a deed touches a status of an actor: the actor accepts it, or it is to be taken away. -/
def Deed.Touches (codex : Codex) (x : ActorId) (st : String) (b : Battle) (d : Deed) : Prop :=
  (∃ s turns, d = .afflict x s turns ∧ s.id = st ∧
      (b.afflict codex x s turns).2.isSome = true) ∨
    ∃ r, d.removal? codex = some r ∧ r.id = x ∧ r.takes st = true

/-- Whether a deed is one of the two by which a boundary of an actor counts its statuses. -/
def Deed.counts (x : ActorId) : Deed → Bool
  | countDown id _ | dropExpired id => id == x
  | _ => false

/-- Whether a deed is that a status of an actor wears off. -/
def Deed.isEnd (x : ActorId) (st : String) : Deed → Bool
  | wearOff id status => id == x && status == st
  | _ => false

/-- The actor whose boundary a deed belongs to. -/
def Deed.holder? : Deed → Option ActorId
  | countDown id _ | dropExpired id | wearOff id _ => some id
  | _ => none

namespace Trace

/-- No deed of a trace touches a status of an actor. -/
def Spares (codex : Codex) (x : ActorId) (st : String) (tr : Trace) : Prop :=
  ∀ p ∈ tr, ¬p.2.Touches codex x st p.1

/-- How often a status of an actor wears off in a trace. -/
def ends (x : ActorId) (st : String) (tr : Trace) : Nat := tr.countP fun p => p.2.isEnd x st

variable {codex : Codex} {x : ActorId} {st : String} {tr tr' : Trace}

theorem spares_append :
    Spares codex x st (tr ++ tr') ↔ tr.Spares codex x st ∧ tr'.Spares codex x st :=
  List.forall_mem_append

theorem spares_cons {p : Battle × Deed} :
    Spares codex x st (p :: tr) ↔ ¬p.2.Touches codex x st p.1 ∧ tr.Spares codex x st :=
  List.forall_mem_cons

theorem ends_append : ends x st (tr ++ tr') = tr.ends x st + tr'.ends x st :=
  List.countP_append

/-- No status wears off in a trace without deeds of the actor's boundary. -/
theorem ends_eq_zero (h : ∀ p ∈ tr, p.2.holder? ≠ some x) : tr.ends x st = 0 := by
  refine List.countP_eq_zero.2 fun p hp hend => h p hp ?_
  cases hd : p.2 <;> simp_all [Deed.isEnd, Deed.holder?]

end Trace

variable {rules : Rules} {content : Effect → Prop} {b b' : Battle} {x y : ActorId} {st : String}
  {tr : Trace} {flow : Flow}

theorem Deed.holder?_of_isBoundary {d : Deed} (h : d.isBoundary = false) : d.holder? = none := by
  cases d <;> first | rfl | cases h

theorem Deed.counts_of_holder? {d : Deed} (h : d.holder? ≠ some x) : d.counts x = false := by
  cases d <;> simp_all [counts, holder?]

theorem Works.holder? (h : Works rules content b tr flow b') :
    ∀ p ∈ tr, p.2.holder? ≠ some x := by
  intro p hp
  rw [Deed.holder?_of_isBoundary (h.inner p hp)]
  exact nofun

/-- What effects and hooks do counts no statuses. -/
theorem Works.counts (h : Works rules content b tr flow b') : ∀ p ∈ tr, p.2.counts x = false :=
  fun p hp => Deed.counts_of_holder? (h.holder? p hp)

/-- In a boundary the deeds of boundaries are those of its actor. -/
theorem Expires.holder? {is : List Affliction} (h : Expires rules content y is b tr flow b')
    (hne : y ≠ x) : ∀ p ∈ tr, p.2.holder? ≠ some x := by
  have hother : some y ≠ some x := fun heq => hne (Option.some.inj heq)
  induction h with
  | done => exact List.forall_mem_nil _
  | halted hlast => exact List.forall_mem_cons.2 ⟨hother, hlast.toWorks.holder?⟩
  | next hlast _ ih =>
    exact List.forall_mem_cons.2 ⟨hother, List.forall_mem_append.2 ⟨hlast.toWorks.holder?, ih⟩⟩

theorem Ticks.holder? (h : Ticks rules content y b tr flow b') (hne : y ≠ x) :
    ∀ p ∈ tr, p.2.holder? ≠ some x := by
  have hother : some y ≠ some x := fun heq => hne (Option.some.inj heq)
  cases h with
  | free => exact List.forall_mem_nil _
  | haltedBefore h => exact h.holder?
  | haltedAfter h h' =>
    exact List.forall_mem_append.2 ⟨h.holder?, List.forall_mem_cons.2 ⟨hother, h'.holder?⟩⟩
  | passed h h' hexpires =>
    exact List.forall_mem_append.2 ⟨h.holder?, List.forall_mem_cons.2 ⟨hother,
      List.forall_mem_append.2 ⟨h'.holder?, List.forall_mem_cons.2 ⟨hother,
        hexpires.holder? hne⟩⟩⟩⟩

/-! ## What an actor holds of a status -/

namespace Battle

/-- The afflictions of a status that an actor holds. -/
def held (b : Battle) (x : ActorId) (st : String) : List Affliction :=
  (b.afflictionsOf x).filter fun i => i.status == st

theorem held_congr (h : b'.afflictionsOf x = b.afflictionsOf x) (st : String) :
    b'.held x st = b.held x st := by
  rw [held, held, h]

theorem mem_held {i : Affliction} :
    i ∈ b.held x st ↔ i ∈ b.afflictionsOf x ∧ i.status = st := by
  rw [held, List.mem_filter, beq_iff_eq]

/-- What is to be taken away but a status leaves what the actor holds of it. -/
theorem held_perform {r : Removal} {codex : Codex} (h : r.id = x → r.takes st = false) :
    (r.perform codex b).held x st = b.held x st := by
  rw [held, held, Removal.afflictionsOf_perform]
  split
  · next hid =>
    rw [List.filter_filter]
    refine List.filter_congr fun i _ => ?_
    by_cases hst : i.status = st
    · rw [hst, h hid.symm]
      simp
    · simp [hst]
  · rfl

theorem contains_of_held {i : Affliction} (h : i ∈ b.held x st) : b.actors.contains x = true := by
  obtain ⟨a, ha, -⟩ := exists_actor_of_afflictionsOf (mem_held.1 h).1
  exact Table.contains_iff.2 ⟨a, ha⟩

end Battle

/-- Accepting a status leaves the afflictions of other statuses as they are. -/
theorem Accepts.filter_of_ne {s : Status} {turns n : Nat} {is is' : List Affliction}
    (h : Accepts s turns is is' n) (hne : s.id ≠ st) :
    is'.filter (fun i => i.status == st) = is.filter fun i => i.status == st := by
  cases h with
  | added => simp [hne]
  | renewed _ _ hi | stacked _ _ hi => simp [hi, hne]

/-- Of the status that an actor accepts the first affliction has all its turns. -/
theorem Accepts.filter_self {s : Status} {turns n : Nat} {is is' : List Affliction}
    (h : Accepts s turns is is' n) :
    ∃ m rest, is'.filter (fun i => i.status == s.id) = ⟨s.id, turns, m⟩ :: rest := by
  have hnone : ∀ {is : List Affliction}, (∀ i ∈ is, i.status ≠ s.id) →
      is.filter (fun i => i.status == s.id) = [] := fun h =>
    List.filter_eq_nil_iff.2 fun i hi heq => h i hi (beq_iff_eq.1 heq)
  cases h with
  | added h => exact ⟨1, [], by simp [hnone h]⟩
  | @renewed before after i _ hbefore hi =>
    exact ⟨i.stackCount, _, by simp [hnone hbefore, hi]; rfl⟩
  | @stacked before after i _ hbefore hi =>
    exact ⟨Battle.nextStacks s i.stackCount, _, by
      simp [hnone hbefore, hi]; rfl⟩

/-- No deed makes an actor leave. -/
theorem Deed.contains {d : Deed} (hd : d.May rules content b) (hx : b.actors.contains x = true) :
    (d.perform rules b).actors.contains x = true :=
  (d.changes hd).evolves.grows.contains x hx

theorem Traced.contains (h : Traced rules content b tr b') (hx : b.actors.contains x = true) :
    b'.actors.contains x = true :=
  h.course.evolves.grows.contains x hx

/-- **A deed that neither touches a status nor counts leaves what the actor holds of it.** -/
theorem Deed.held {d : Deed} (hd : d.May rules content b) (hx : b.actors.contains x = true)
    (hspares : ¬d.Touches rules.codex x st b) (hcounts : d.counts x = false) :
    (d.perform rules b).held x st = b.held x st := by
  cases hinner : d.isBoundary with
  | true =>
    refine Battle.held_congr ?_ st
    cases d with
    | countDown id statuses =>
      rw [perform, Battle.afflictionsOf_countDown, if_neg]
      rintro rfl
      exact beq_eq_false_iff_ne.1 hcounts rfl
    | dropExpired id =>
      rw [perform, Battle.afflictionsOf_dropExpired, if_neg]
      rintro rfl
      exact beq_eq_false_iff_ne.1 hcounts rfl
    | wearOff id status => exact b.afflictionsOf_wearOff rules.codex id status x
    | _ => cases hinner
  | false =>
    rcases Deed.perform_cases hinner hd with
      ⟨huntouched, -⟩ | ⟨r, log, hr, heq⟩ | ⟨id, s, turns, rfl⟩
    · rcases huntouched.statuses x with hsame | ⟨hnone, -⟩
      · exact Battle.held_congr hsame st
      · obtain ⟨a, ha⟩ := Table.contains_iff.1 hx
        cases hnone.symm.trans ha
    · rw [heq]
      exact Battle.held_perform fun hid =>
        Bool.eq_false_iff.2 fun htakes => hspares (.inr ⟨r, hr, hid, htakes⟩)
    · change (b.afflict rules.codex id s turns).1.held x st = b.held x st
      rcases b.afflict_cases rules.codex id s turns with heq | ⟨b', is, n, heq, hto, hafter, -⟩
      · rw [heq]
      · rw [heq, Battle.held, Battle.held, hafter]
        split
        · next hid =>
          subst hid
          refine hto.filter_of_ne fun hst => hspares (.inl ⟨s, turns, rfl, hst, ?_⟩)
          rw [heq]
          rfl
        · rfl

/-- Deeds that neither touch a status nor count leave what the actor holds of it. -/
theorem Traced.held (h : Traced rules content b tr b') (hx : b.actors.contains x = true)
    (hspares : tr.Spares rules.codex x st) (hcounts : ∀ p ∈ tr, p.2.counts x = false) :
    b'.held x st = b.held x st := by
  induction h with
  | nil => rfl
  | @cons b b' d tr hd _ ih =>
    obtain ⟨hfirst, hrest⟩ := Trace.spares_cons.1 hspares
    obtain ⟨hcount, hcounts⟩ := List.forall_mem_cons.1 hcounts
    exact (ih (d.contains hd hx) hrest hcounts).trans (d.held hd hx hfirst hcount)

theorem Works.held (h : Works rules content b tr flow b') (hx : b.actors.contains x = true)
    (hspares : tr.Spares rules.codex x st) : b'.held x st = b.held x st :=
  h.traced.held hx hspares h.counts

/-- Once an actor has accepted a status, deeds that neither touch it nor count leave the first
affliction of it with all its turns. -/
theorem Traced.held_of_afflict {s : Status} {override : Option Nat}
    (h : Traced rules content (Deed.perform rules b (.afflict x s override)) tr b')
    (haccepted : (b.afflict rules.codex x s override).2.isSome = true)
    (hspares : tr.Spares rules.codex x s.id) (hcounts : ∀ p ∈ tr, p.2.counts x = false) :
    b'.actors.contains x = true ∧ ∃ stacked rest,
      b'.held x s.id = ⟨s.id, Battle.effectiveTurns s override, stacked⟩ :: rest := by
  obtain ⟨b₁, is, n, heq, hto, hheld, -⟩ :=
    (b.afflict_cases rules.codex x s override).resolve_left fun heq => by
      rw [heq] at haccepted
      cases haccepted
  rw [Deed.perform, heq] at h
  obtain ⟨stacked, rest, hfirst⟩ := hto.filter_self
  have hfirst₁ : b₁.held x s.id = ⟨s.id, Battle.effectiveTurns s override, stacked⟩ :: rest := by
    rw [Battle.held, hheld, if_pos rfl, hfirst]
  have hx : b₁.actors.contains x = true := Battle.contains_of_held (hfirst₁ ▸ List.mem_cons_self)
  exact ⟨h.contains hx, stacked, rest, (h.held hx hspares hcounts).trans hfirst₁⟩

/-! ## The boundary of the holder -/

namespace Affliction

/-- An affliction with a turn less. -/
def tired (i : Affliction) : Affliction := { i with remaining := i.remaining - 1 }

/-- What a boundary leaves of some afflictions. -/
def aged (is : List Affliction) : List Affliction :=
  (is.map tired).filter fun i => i.remaining != 0

/-- An affliction of a status with some turns left, and none without. -/
def lasting (st : String) (stacked turns : Nat) : List Affliction :=
  if turns = 0 then [] else [⟨st, turns, stacked⟩]

theorem aged_lasting (stacked turns : Nat) :
    aged (lasting st stacked turns) = lasting st stacked (turns - 1) := by
  unfold lasting aged
  rcases turns with _ | _ | turns <;> simp [tired]

/-- The turn that an affliction loses is its last one if it has just one. -/
theorem countP_lasting (stacked turns : Nat) :
    (lasting st stacked turns).countP (fun i => i.tired.remaining == 0) =
      if turns = 1 then 1 else 0 := by
  unfold lasting
  rcases turns with _ | _ | turns <;> simp [tired]

end Affliction

namespace Battle

/-- Who holds of a status what it held when a boundary began loses a turn of all of it. -/
theorem held_countDown (h : b'.held x st = b.held x st) :
    (b'.countDown x (b.statusesOf x)).held x st = (b.held x st).map Affliction.tired := by
  rw [held, afflictionsOf_countDown, if_pos rfl, List.filter_map]
  calc (List.filter _ (b'.afflictionsOf x)).map _
      = (b'.held x st).map _ := by
        refine congrArg _ (List.filter_congr fun i _ => ?_)
        dsimp only [Function.comp_apply]
        split <;> rfl
    _ = (b.held x st).map Affliction.tired := by
        rw [h]
        refine List.map_congr_left fun i hi => ?_
        have hst : (b.statusesOf x).contains i.status = true :=
          List.contains_iff_mem.2 (List.mem_map_of_mem (mem_held.1 hi).1)
        rw [if_pos hst]
        rfl

theorem held_dropExpired (b : Battle) (x : ActorId) (st : String) :
    (b.dropExpired x).held x st = (b.held x st).filter fun i => i.remaining != 0 := by
  rw [held, afflictionsOf_dropExpired, if_pos rfl, List.filter_comm]
  rfl

/-- The expired afflictions of a status are those of it without a turn left. -/
theorem countP_expired (b : Battle) (x : ActorId) (st : String) :
    (b.expired x).countP (fun i => i.status == st) =
      (b.held x st).countP fun i => i.remaining == 0 := by
  rw [expired, held, List.countP_filter, List.countP_filter]
  exact List.countP_congr fun i _ => by rw [Bool.and_comm]

end Battle

/-- Once the statuses are counted down, and before those without a turn left are dropped, the actor
holds what it held, with a turn less. -/
theorem held_counted {b₁ b₂ : Battle} {tr' : Trace} {flow' : Flow}
    (h : Works rules content b tr flow b₁)
    (h' : Works rules content (b₁.countDown x (b.statusesOf x)) tr' flow' b₂)
    (hx : b.actors.contains x = true) (hspares : tr.Spares rules.codex x st)
    (hspares' : tr'.Spares rules.codex x st) :
    b₂.held x st = (b.held x st).map Affliction.tired ∧ b₂.actors.contains x = true := by
  have hcounted := Battle.held_countDown (h.held hx hspares)
  have hmay : (Deed.countDown x (b.statusesOf x)).May rules content b₁ := trivial
  have hx₁ := Deed.contains hmay (h.traced.contains hx)
  exact ⟨(h'.held hx₁ hspares').trans hcounted, h'.traced.contains hx₁⟩

/-- As often as a status is among the afflictions that wear off, it does so. -/
theorem Expires.ends {is : List Affliction} (h : Expires rules content x is b tr flow b')
    (hflow : flow = .proceed) : tr.ends x st = is.countP fun i => i.status == st := by
  induction h with
  | done => rfl
  | halted => cases hflow
  | @next i is b b₁ b' tr tr' flow hlast _ ih =>
    rw [Trace.ends, List.countP_cons, ← Trace.ends, Trace.ends_append,
      Trace.ends_eq_zero hlast.toWorks.holder?, ih hflow, Nat.zero_add, List.countP_cons]
    simp [Deed.isEnd]

theorem Expires.held {is : List Affliction} (h : Expires rules content x is b tr flow b')
    (hx : b.actors.contains x = true) (hspares : tr.Spares rules.codex x st) :
    b'.held x st = b.held x st := by
  refine h.traced.held hx hspares ?_
  clear hx hspares
  induction h with
  | done => exact List.forall_mem_nil _
  | halted hlast => exact List.forall_mem_cons.2 ⟨rfl, hlast.toWorks.counts⟩
  | next hlast _ ih =>
    exact List.forall_mem_cons.2 ⟨rfl, List.forall_mem_append.2 ⟨hlast.toWorks.counts, ih⟩⟩

/-- **A boundary of an actor that does not halt takes a turn from what it holds of a status, and
lets wear off what has no turn left.** -/
theorem Ticks.held (h : Ticks rules content x b tr .proceed b') (hx : b.actors.contains x = true)
    (hspares : tr.Spares rules.codex x st) :
    b'.held x st = Affliction.aged (b.held x st) ∧
      tr.ends x st = (b.held x st).countP fun i => i.tired.remaining == 0 := by
  cases h with
  | free hnil =>
    have hnone : b.held x st = [] := by rw [Battle.held, hnil]; rfl
    rw [hnone]
    exact ⟨rfl, rfl⟩
  | @passed tr tr' tr'' b₁ b₂ _ _ h h' hexpires =>
    obtain ⟨hspares₁, hspares⟩ := Trace.spares_append.1 hspares
    obtain ⟨hspares₂, hspares⟩ := Trace.spares_append.1 (Trace.spares_cons.1 hspares).2
    have hspares₃ := (Trace.spares_cons.1 hspares).2
    obtain ⟨hheld, hx₂⟩ := held_counted h h' hx hspares₁ hspares₂
    have hmay : (Deed.dropExpired x).May rules content b₂ := trivial
    have hx₃ := Deed.contains hmay hx₂
    refine ⟨?_, ?_⟩
    · rw [hexpires.held hx₃ hspares₃, Battle.held_dropExpired, hheld]
      rfl
    · have hends : tr''.ends x st = (b.held x st).countP fun i => i.tired.remaining == 0 := by
        rw [hexpires.ends rfl, b₂.countP_expired, hheld, List.countP_map]
        rfl
      have hcounted : Trace.ends x st
          (tr ++ (b₁, .countDown x (b.statusesOf x)) :: (tr' ++ (b₂, .dropExpired x) :: tr'')) =
            tr.ends x st + (tr'.ends x st + tr''.ends x st) := by
        simp only [Trace.ends, List.countP_append, List.countP_cons]
        rfl
      rw [hcounted, Trace.ends_eq_zero h.holder?, Trace.ends_eq_zero h'.holder?, Nat.zero_add,
        Nat.zero_add, hends]

/-- Nothing wears off at a boundary that does not count. -/
theorem Ticks.ends_eq_zero (h : Ticks rules content x b tr flow b')
    (hcounts : ∀ p ∈ tr, p.2.counts x = false) : tr.ends x st = 0 := by
  have hcounted : ∀ (b : Battle) statuses,
      ((b, .countDown x statuses) : Battle × Deed).2.counts x ≠ false := fun b statuses => by
    simp [Deed.counts]
  cases h with
  | free => rfl
  | haltedBefore h => exact Trace.ends_eq_zero h.holder?
  | haltedAfter | passed =>
    exact absurd (hcounts _ (List.mem_append_right _ List.mem_cons_self)) (hcounted _ _)

/-- Each affliction that is to wear off does so and then runs its last hook. -/
theorem Expires.split {is : List Affliction} (h : Expires rules content x is b tr flow b')
    (hflow : flow = .proceed) {i : Affliction} (hi : i ∈ is) :
    ∃ before c last after c', tr = before ++ (c, .wearOff x i.status) :: (last ++ after) ∧
      RunsLast rules content x i (c.wearOff rules.codex x i.status) last .proceed c' := by
  induction h with
  | done => cases hi
  | halted => cases hflow
  | @next j is b b₁ b' tr tr' flow hlast _ ih =>
    rcases List.mem_cons.1 hi with rfl | hi
    · exact ⟨[], b, tr, tr', b₁, rfl, hlast⟩
    · obtain ⟨before, c, last, after, c', rfl, hruns⟩ := ih hflow hi
      exact ⟨(b, .wearOff x j.status) :: (tr ++ before), c, last, after, c', by simp, hruns⟩

theorem Ticks.split (h : Ticks rules content x b tr .proceed b')
    (hx : b.actors.contains x = true) (hspares : tr.Spares rules.codex x st) {i : Affliction}
    (hi : i ∈ b.held x st) (hlast : i.remaining = 1) :
    ∃ before c last after c', tr = before ++ (c, .wearOff x st) :: (last ++ after) ∧
      RunsLast rules content x i.tired (c.wearOff rules.codex x st) last .proceed c' := by
  obtain ⟨hmem, rfl⟩ := Battle.mem_held.1 hi
  cases h with
  | free hnil =>
    rw [hnil] at hmem
    cases hmem
  | @passed tr tr' tr'' b₁ b₂ _ _ h h' hexpires =>
    obtain ⟨hspares₁, hspares⟩ := Trace.spares_append.1 hspares
    obtain ⟨hspares₂, -⟩ := Trace.spares_append.1 (Trace.spares_cons.1 hspares).2
    obtain ⟨hheld, -⟩ := held_counted h h' hx hspares₁ hspares₂
    have hexpired : i.tired ∈ b₂.expired x := by
      have htired : i.tired ∈ b₂.held x i.status := by
        rw [hheld]
        exact List.mem_map_of_mem hi
      refine List.mem_filter.2 ⟨(Battle.mem_held.1 htired).1, ?_⟩
      rw [Affliction.tired, hlast]
      rfl
    obtain ⟨before, c, last, after, c', rfl, hruns⟩ := hexpires.split rfl hexpired
    exact ⟨tr ++ (b₁, .countDown x (b.statusesOf x)) :: (tr' ++ (b₂, .dropExpired x) :: before),
      c, last, after, c', by simp [Affliction.tired], hruns⟩

namespace Battle

/-! ## Calls -/

/-- Whether an actor passes a boundary in a call, and the boundary does not halt. -/
def passes (b : Battle) (x : ActorId) (q : Request) : Bool :=
  b.boundary? q.call == some x &&
    (b.play? q.rules fun run => tick q.rules.codex run x).any fun out => out.2 == .proceed

/-- The boundaries that an actor passes in a run and that do not halt. -/
def boundariesOf (b : Battle) (x : ActorId) : List Request → Nat
  | [] => 0
  | q :: qs => (b.passes x q).toNat + (b.after? q).elim 0 fun b => b.boundariesOf x qs

/-- A call, with the trace of its deeds, spares a status of an actor: neither the call nor a deed
touches the status, and a boundary of the actor that halts does so before it counts. -/
structure Spared (content : Effect → Prop) (x : ActorId) (st : String) (b : Battle) (q : Request)
    (tr : Trace) (b' : Battle) : Prop where
  unfolds : b.Unfolds q.rules content q.call tr b'
  call : ∀ r, q.call.removal? q.rules.codex = some r → r.id = x → r.takes st = false
  deeds : tr.Spares q.rules.codex x st
  halted : b.boundary? q.call = some x → b.passes x q = false → ∀ p ∈ tr, p.2.counts x = false

/-- A run, with the trace of its deeds, all of whose calls spare a status of an actor. -/
inductive SparedRun (content : Effect → Prop) (x : ActorId) (st : String) :
    Battle → List Request → Trace → Battle → Prop
  | nil (b : Battle) : SparedRun content x st b [] [] b
  | cons {b b₁ b' : Battle} {q : Request} {qs : List Request} {tr tr' : Trace}
      (hq : b.after? q = some b₁) (hspared : b.Spared content x st q tr b₁)
      (h : SparedRun content x st b₁ qs tr' b') :
      SparedRun content x st b (q :: qs) (tr ++ tr') b'

theorem passes_eq_false {q : Request} (h : b.boundary? q.call ≠ some x) : b.passes x q = false := by
  rw [passes, beq_eq_false_iff_ne.2 h, Bool.false_and]

theorem passes_eq {q : Request} {b₁ : Battle} (h : b.boundary? q.call = some x)
    (hplay : b.play? q.rules (fun run => tick q.rules.codex run x) = some (b₁, flow)) :
    b.passes x q = (flow == .proceed) := by
  rw [passes, h, hplay, beq_self_eq_true, Bool.true_and]
  rfl

theorem held_alike (h : b.Alike b') : b'.held x st = b.held x st :=
  held_congr (h.afflictions x) st

theorem boundary?_of_removal? {codex : Codex} {c : Call} {r : Removal}
    (h : c.removal? codex = some r) : b.boundary? c = none := by
  cases c <;> first | rfl | cases h

/-- **A call that spares a status takes a turn from what an actor holds of it, and lets wear off
what has no turn left, if the actor passes a boundary; else it leaves it as it is.** -/
theorem Spared.held {q : Request} (h : b.Spared content x st q tr b')
    (hx : b.actors.contains x = true) :
    if b.passes x q = true then
      b'.held x st = Affliction.aged (b.held x st) ∧
        tr.ends x st = (b.held x st).countP fun i => i.tired.remaining == 0
    else b'.held x st = b.held x st ∧ tr.ends x st = 0 := by
  have hkept : ∀ {b₁ b₂ : Battle}, b.Alike b₁ → Traced q.rules content b₁ tr b₂ → b₂.Alike b' →
      (∀ p ∈ tr, p.2.counts x = false) → b'.held x st = b.held x st := by
    intro b₁ b₂ hbefore htraced hafter hcounts
    have hx₁ : b₁.actors.contains x = true := (hbefore.contains x).trans hx
    exact ((held_alike hafter).trans (htraced.held hx₁ h.deeds hcounts)).trans (held_alike hbefore)
  cases h.unfolds.stirs with
  | worked hc _ hbefore hworks hafter =>
    rw [passes_eq_false (by rw [hc]; exact nofun), if_neg Bool.false_ne_true]
    exact ⟨hkept hbefore hworks.traced hafter hworks.counts, Trace.ends_eq_zero hworks.holder?⟩
  | @ticked y b₁ _ _ flow hc hplay hticks hafter =>
    by_cases hy : y = x
    · subst hy
      cases flow with
      | proceed =>
        have hpasses : b.passes y q = true := passes_eq hc hplay
        rw [if_pos hpasses, held_alike hafter]
        exact hticks.held hx h.deeds
      | halt =>
        have hpasses : b.passes y q = false := passes_eq hc hplay
        have hcounts := h.halted hc hpasses
        rw [hpasses, if_neg Bool.false_ne_true]
        exact ⟨hkept (.refl b) hticks.traced hafter hcounts, hticks.ends_eq_zero hcounts⟩
    · have hother := hticks.holder? hy
      rw [passes_eq_false (by rw [hc]; exact fun heq => hy (Option.some.inj heq)),
        if_neg Bool.false_ne_true]
      exact ⟨hkept (.refl b) hticks.traced hafter fun p hp => Deed.counts_of_holder? (hother p hp),
        Trace.ends_eq_zero hother⟩
  | removed hr =>
    rw [passes_eq_false (by rw [boundary?_of_removal? hr]; exact nofun), if_neg Bool.false_ne_true]
    exact ⟨held_perform (h.call _ hr), rfl⟩

/-! ## Runs -/

theorem Unfolds.contains {c : Call} (h : b.Unfolds rules content c tr b')
    (hx : b.actors.contains x = true) : b'.actors.contains x = true :=
  h.answers.evolves.grows.contains x hx

theorem SparedRun.contains {qs : List Request} (h : b.SparedRun content x st qs tr b')
    (hx : b.actors.contains x = true) : b'.actors.contains x = true := by
  induction h with
  | nil => exact hx
  | cons _ hspared _ ih => exact ih (hspared.unfolds.contains hx)

/-- **Along a run that spares a status an actor with one affliction of it loses a turn with each
boundary that it passes, until the status wears off, which happens once.** -/
theorem SparedRun.lasts {qs : List Request} (h : b.SparedRun content x st qs tr b')
    (hx : b.actors.contains x = true) {stacked turns : Nat}
    (hb : b.held x st = Affliction.lasting st stacked turns) :
    b'.held x st = Affliction.lasting st stacked (turns - b.boundariesOf x qs) ∧
      tr.ends x st = if 0 < turns ∧ turns ≤ b.boundariesOf x qs then 1 else 0 := by
  induction h generalizing turns with
  | nil =>
    rw [boundariesOf, if_neg (by omega)]
    exact ⟨hb, rfl⟩
  | @cons b b₁ b' q qs tr tr' hq hspared hrest ih =>
    have hx₁ := hspared.unfolds.contains hx
    have hfirst := hspared.held hx
    have hcount : b.boundariesOf x (q :: qs) = (b.passes x q).toNat + b₁.boundariesOf x qs := by
      rw [boundariesOf, hq, Option.elim_some]
    rw [hcount, Trace.ends_append]
    cases hpasses : b.passes x q with
    | false =>
      rw [hpasses, if_neg Bool.false_ne_true, hb] at hfirst
      obtain ⟨hheld, hends⟩ := ih hx₁ hfirst.1
      rw [hfirst.2, hends, Bool.toNat_false, Nat.zero_add, Nat.zero_add]
      exact ⟨hheld, rfl⟩
    | true =>
      rw [hpasses, if_pos rfl, hb, Affliction.aged_lasting] at hfirst
      obtain ⟨hheld, hends⟩ := ih hx₁ hfirst.1
      rw [hfirst.2, hends, hheld, Bool.toNat_true, Nat.sub_sub, Affliction.countP_lasting]
      refine ⟨rfl, ?_⟩
      split <;> split <;> split <;> omega

end Battle

/-! ## Runs that spare a status -/

/-- Whether an effect may touch a status: it applies the status, cleanses or dispels. -/
def Effect.Bears (e : Effect) (st : String) : Prop :=
  e.kind = .applyStatus ∧ e.statusId = some st ∨ e.kind = .cleanseStatus ∨ e.kind = .dispel

instance (e : Effect) (st : String) : Decidable (e.Bears st) :=
  inferInstanceAs (Decidable (_ ∨ _))

theorem Traced.spares (h : Traced rules content b tr b') (hbears : ∀ e, content e → ¬e.Bears st)
    (x : ActorId) : tr.Spares rules.codex x st := by
  induction h with
  | nil => exact List.forall_mem_nil _
  | @cons b _ d tr hd _ ih =>
    refine List.forall_mem_cons.2 ⟨?_, ih⟩
    rintro (⟨s, turns, rfl, rfl, -⟩ | ⟨r, hr, -⟩)
    · obtain ⟨-, e, he, hk, hstatus, -⟩ := hd
      exact hbears e he (.inl ⟨hk, hstatus⟩)
    · cases d with
      | change e o user id =>
        refine hbears e hd.1 (.inr ?_)
        cases hk : e.kind <;> simp_all [Deed.removal?]
      | _ => cases hr

namespace Battle

theorem Unfolds.traced {c : Call} (h : b.Unfolds rules content c tr b') :
    ∃ b₁ b₂, Traced rules content b₁ tr b₂ := by
  cases h.stirs with
  | worked _ _ _ hworks => exact ⟨_, _, hworks.traced⟩
  | ticked _ _ hticks => exact ⟨_, _, hticks.traced⟩
  | removed => exact ⟨b, b, .nil b⟩

/-- **A run that does not leave the battle over spares a status, if no call takes statuses away and
no effect of a call or of a hook may touch it.** -/
theorem exists_sparedRun (hbears : ∀ e, content e → ¬e.Bears st) (x : ActorId) {qs : List Request}
    (hqs : ∀ q ∈ qs, q.Within content ∧ q.call.removal? q.rules.codex = none)
    (h : b.run? qs = some b') (hgoing : b'.isOver = false) :
    ∃ tr, b.SparedRun content x st qs tr b' := by
  induction qs generalizing b with
  | nil =>
    cases h
    exact ⟨[], .nil _⟩
  | cons q qs ih =>
    obtain ⟨b₁, hq, hrest⟩ := Option.bind_eq_some_iff.1 h
    obtain ⟨⟨hwithin, hcall⟩, hqs⟩ := List.forall_mem_cons.1 hqs
    obtain ⟨tr, hunfolds⟩ := unfolds_of_after? hwithin hq
    obtain ⟨tr', hspared⟩ := ih hqs hrest
    obtain ⟨_, _, htraced⟩ := hunfolds.traced
    refine ⟨tr ++ tr', .cons hq ⟨hunfolds, fun r hr => ?_, htraced.spares hbears x, ?_⟩ hspared⟩
    · cases hcall.symm.trans hr
    · intro hboundary hpasses
      -- a boundary that halts leaves the battle over
      cases hunfolds.stirs with
      | worked hc => cases hc.symm.trans hboundary
      | @ticked y _ _ _ flow hc hplay hticks halike =>
        obtain rfl : y = x := Option.some.inj (hc.symm.trans hboundary)
        have hflow : flow = .halt := by
          cases flow with
          | proceed => cases hpasses.symm.trans (passes_eq hc hplay)
          | halt => rfl
        have hover := halike.ended (hticks.stops hflow)
        cases hover.symm.trans (going_of_run? hrest hgoing)
      | removed hr => cases hcall.symm.trans hr

end Battle

end Skirmish
