import Skirmish.Proofs.Frames
import Skirmish.Proofs.Stretches

/-!
# Taunts

A taunt stands in the battle from the deed that lays it on an actor. A deed touches it in two ways
only: another taunt on the actor takes its place, and a search of the actor for foes or anyone drops
it where its source is down (`Deed.taunt_cases`). Beside deeds, the end of the actor's own turn
shortens it.

So while its source is alive and no other taunt takes its place, a taunt is known from the number
of own turns that have ended since (`Unfolds.taunt`), at every moment of a run: between calls, and
before each deed within a call. From this `taunt_law` says how long it binds and to what.
-/

namespace Skirmish

/-- The taunt that a deed lays on an actor. -/
def Deed.taunt? : Deed → Option (ActorId × Taunt)
  | change e _ user id =>
    if e.kind = .taunt then some (id, ⟨user, e.statusTurns.getD 1⟩) else none
  | _ => none

namespace Battle

/-! ## Searches -/

/-- Where a taunt binds, whoever looks for foes or anyone finds its source, without a draw. -/
theorem resolveTargets_of_forced {b : Battle} {x y : ActorId} (h : b.forcedTarget? x = some y)
    {s : Selector} (hs : s.yieldsToTaunt = true) (named : List ActorId) :
    b.resolveTargets s x named = ([y], b) ∧ b.hasCandidates s x = true := by
  simp [resolveTargets, hasCandidates, h, hs]

theorem forcedTarget?_of_alive {b : Battle} {x : ActorId} {t : Taunt}
    (h : b.taunts.get? x = some t) (halive : b.isAlive t.source = true) :
    b.forcedTarget? x = some t.source := by
  simp [forcedTarget?, h, halive]

theorem forcedTarget?_of_down {b : Battle} {x : ActorId} {t : Taunt}
    (h : b.taunts.get? x = some t) (hdown : b.isAlive t.source = false) :
    b.forcedTarget? x = none := by
  simp [forcedTarget?, h, hdown]

/-- A search leaves the taunt on an actor as it is, or the actor drops it as it does not bind. -/
theorem taunt_resolveTargets (b : Battle) (s : Selector) (id : ActorId) (named : List ActorId)
    (x : ActorId) :
    (b.resolveTargets s id named).2.taunts.get? x = b.taunts.get? x ∨
      b.forcedTarget? x = none ∧ (b.resolveTargets s id named).2.taunts.get? x = none := by
  obtain ⟨m, taunts, heq, rfl | ⟨hfree, rfl⟩⟩ := b.resolveTargets_battle s id named
  · rw [heq]
    exact .inl rfl
  · rw [heq]
    by_cases hx : x = id
    · subst hx
      exact .inr ⟨hfree, by simp [Table.get?_erase]⟩
    · exact .inl (by simp [Table.get?_erase, hx])

/-- Only a search for foes or anyone can drop a taunt. -/
theorem taunts_of_not_yields (b : Battle) {s : Selector} (hs : s.yieldsToTaunt = false)
    (id : ActorId) (named : List ActorId) : (b.resolveTargets s id named).2.taunts = b.taunts := by
  simp [resolveTargets, hs, b.freeTargets_battle s id named]

/-- A taunt by an actor that is down is dropped by the first search that it could bind, and this
search finds what it finds without a taunt. -/
theorem resolveTargets_of_down {b : Battle} {x : ActorId} {t : Taunt}
    (h : b.taunts.get? x = some t) (hdown : b.isAlive t.source = false) {s : Selector}
    (hs : s.yieldsToTaunt = true) (named : List ActorId) :
    b.resolveTargets s x named = (b.dropTaunt x).resolveTargets s x named ∧
      (b.resolveTargets s x named).2.taunts.get? x = none := by
  have hfree := forcedTarget?_of_down h hdown
  have hnone : (b.dropTaunt x).forcedTarget? x = none := by
    simp [forcedTarget?, dropTaunt, Table.get?_erase]
  have herased : (b.taunts.erase x).erase x = b.taunts.erase x :=
    Table.erase_of_get? (by simp [Table.get?_erase])
  have htwice : (b.dropTaunt x).dropTaunt x = b.dropTaunt x :=
    congrArg (fun taunts => { b with taunts := taunts }) herased
  simp only [resolveTargets, hs, hfree, hnone, htwice, if_true, true_and]
  rw [freeTargets_battle]
  simp [dropTaunt, Table.get?_erase]

end Battle

/-! ## Deeds -/

variable {rules : Rules} {content : Effect → Prop} {b b' : Battle} {x y : ActorId}

/-- **A deed leaves the taunt on an actor as it is, drops one that does not bind, or lays one on the
actor.** -/
theorem Deed.taunt_cases (d : Deed) (rules : Rules) (b : Battle) (x : ActorId) :
    (d.perform rules b).taunts.get? x = b.taunts.get? x ∨
      (b.forcedTarget? x = none ∧ (d.perform rules b).taunts.get? x = none) ∨
      ∃ t, d.taunt? = some (x, t) ∧ (d.perform rules b).taunts.get? x = some t := by
  cases d with
  | aim s id => exact (b.taunt_resolveTargets s id [] x).imp_right .inl
  | supply e o user =>
    obtain ⟨_, _, _, _, _, _, _, _, heq⟩ := b.supply_eq rules e o user
    exact .inl (by rw [perform, heq])
  | strike e o user id rolls =>
    obtain ⟨_, _, _, _, heq, -⟩ := b.strike_eq rules e o user id rolls
    exact .inl (by rw [perform, heq])
  | change e o user id =>
    rcases b.applyImmediate_cases rules e o user id with ⟨_, _, heq⟩ | ⟨r, _, heq⟩ |
      ⟨_, _, _, _, -, heq⟩ | ⟨hk, _, heq⟩ | ⟨-, _, heq⟩
    · exact .inl (by rw [perform, heq])
    · obtain ⟨_, _, hremoved⟩ := r.perform_eq rules.codex b
      exact .inl (by rw [perform, heq, hremoved])
    · exact .inl (by rw [perform, heq]; rfl)
    · by_cases hx : x = id
      · subst hx
        exact .inr (.inr ⟨_, if_pos hk, by rw [perform, heq]; exact Table.get?_insert_self ..⟩)
      · exact .inl (by rw [perform, heq]; exact Table.get?_insert_of_ne hx _)
    · exact .inl (by rw [perform, heq])
  | afflict id st turns =>
    rcases b.afflict_eq rules.codex id st turns with heq | ⟨-, _, _, _, -, heq⟩
    · exact .inl (by rw [perform, heq])
    · obtain ⟨_, hgranted⟩ := Battle.grantShield_eq _ rules.codex id st
      exact .inl (by rw [perform, heq, hgranted])
  | countDown | dropExpired => exact .inl rfl
  | wearOff id status =>
    obtain ⟨_, heq⟩ := b.removeGranted_eq rules.codex id status
    exact .inl (by rw [perform, Battle.wearOff, heq]; rfl)

/-- While some deeds are done, one actor is not taunted and another one is alive. -/
structure Trace.Lets (tr : Trace) (x y : ActorId) : Prop where
  untaunted : ∀ p ∈ tr, ∀ t, p.2.taunt? ≠ some (x, t)
  alive : ∀ p ∈ tr, p.1.isAlive y = true

theorem Trace.lets_nil (x y : ActorId) : Trace.Lets [] x y :=
  ⟨List.forall_mem_nil _, List.forall_mem_nil _⟩

theorem Trace.Lets.append {tr tr' : Trace} (h : Trace.Lets (tr ++ tr') x y) :
    tr.Lets x y ∧ tr'.Lets x y := by
  obtain ⟨huntaunted, halive⟩ := h
  obtain ⟨hu, hu'⟩ := List.forall_mem_append.1 huntaunted
  obtain ⟨ha, ha'⟩ := List.forall_mem_append.1 halive
  exact ⟨⟨hu, ha⟩, ⟨hu', ha'⟩⟩

/-- A taunt by a living actor does not get lost among such deeds. -/
theorem Traced.taunt {tr : Trace} (h : Traced rules content b tr b') (hlets : tr.Lets x y)
    (hsource : ∀ t, b.taunts.get? x = some t → t.source = y) :
    b'.taunts.get? x = b.taunts.get? x := by
  refine h.induction (P := fun c => c.taunts.get? x = b.taunts.get? x) (fun c d hmem _ hc => ?_) rfl
  rcases d.taunt_cases rules c x with hsame | ⟨hfree, hnone⟩ | ⟨t, ht, -⟩
  · exact hsame.trans hc
  · rw [hnone, ← hc]
    cases ht : c.taunts.get? x with
    | none => rfl
    | some t =>
      have halive := hsource t (hc ▸ ht) ▸ hlets.alive _ hmem
      cases (Battle.forcedTarget?_of_alive ht halive).symm.trans hfree
  · exact absurd ht (hlets.untaunted _ hmem t)

/-! ## Calls -/

/-- What an own turn leaves of a taunt. -/
def Taunt.shortened? (t : Taunt) : Option Taunt :=
  if t.turns ≤ 1 then none else some { t with turns := t.turns - 1 }

namespace Battle

/-- Whether a call ends the turn of an actor. -/
def endsTurn (b : Battle) (x : ActorId) : Call → Bool
  | .pass => b.actingActor? == some x
  | _ => false

theorem endsTurn_pass {b : Battle} {id x : ActorId} (hid : b.actingActor? = some id) :
    b.endsTurn x .pass = true ↔ x = id := by
  rw [endsTurn, hid, beq_iff_eq, Option.some_inj]
  exact eq_comm

theorem taunt_shortenTaunt (b : Battle) (id x : ActorId) :
    (b.shortenTaunt id).taunts.get? x =
      if x = id then (b.taunts.get? x).bind Taunt.shortened? else b.taunts.get? x := by
  unfold shortenTaunt
  by_cases hx : x = id
  · subst hx
    rw [if_pos rfl]
    cases ht : b.taunts.get? x with
    | none => exact ht
    | some t =>
      simp only [Taunt.shortened?, Option.bind_some]
      split <;> simp [Table.get?_erase]
  · rw [if_neg hx]
    cases b.taunts.get? id with
    | none => rfl
    | some t =>
      dsimp only
      split <;> simp [Table.get?_erase, Table.get?_insert, hx]

theorem taunt_countBoundary (b : Battle) (id x : ActorId) :
    (b.countBoundary id).taunts.get? x =
      if x = id then (b.taunts.get? x).bind Taunt.shortened? else b.taunts.get? x := by
  have hserved : (b.serveSkip id).taunts = b.taunts := by
    unfold serveSkip
    split <;> rfl
  rw [← hserved]
  exact taunt_shortenTaunt _ id x

/-- A call looks for targets, if at all, before its deeds; the taunt on an actor goes on to them or
is dropped, as it does not bind. After them the end of its own turn shortens what is left of it. -/
theorem Unfolds.taunt_parts {c : Call} {tr : Trace} (h : b.Unfolds rules content c tr b')
    (x : ActorId) :
    ∃ b₁ b₂, Traced rules content b₁ tr b₂ ∧
      (b₁.taunts.get? x = b.taunts.get? x ∨
        b.forcedTarget? x = none ∧ b₁.taunts.get? x = none) ∧
      b'.taunts.get? x =
        if b.endsTurn x c then (b₂.taunts.get? x).bind Taunt.shortened? else b₂.taunts.get? x := by
  have hjudged : ∀ c : Battle, c.judge.2.taunts = c.taunts := by
    intro c
    obtain ⟨ended, actors, lines, heq⟩ := c.judge_eq
    rw [heq]
  have hremoved : ∀ r : Removal, (r.perform rules.codex b).taunts.get? x = b.taunts.get? x := by
    intro r
    obtain ⟨_, _, heq⟩ := r.perform_eq rules.codex b
    rw [heq]
  have hpassed : ∀ (c : Battle) (id : ActorId), b.actingActor? = some id →
      (c.countBoundary id).passOn.taunts.get? x =
        if b.endsTurn x .pass then (c.taunts.get? x).bind Taunt.shortened?
        else c.taunts.get? x := by
    intro c id hid
    obtain ⟨round, current, ended, actors, log, heq⟩ := (c.countBoundary id).passOn_eq
    rw [heq]
    simp only [endsTurn_pass hid]
    exact c.taunt_countBoundary id x
  cases h with
  | refused => exact ⟨b, b, .nil b, .inl rfl, rfl⟩
  | @played act id named targets report b₁ b₂ tr flow _ haimed hworks _ =>
    have hsearch := b.taunt_resolveTargets act.targeting id named x
    rw [haimed] at hsearch
    have hpaid : (b₁.pay id act).taunts = b₁.taunts := by
      obtain ⟨cooldowns, charges, inventory, heq⟩ := b₁.pay_eq id act
      rw [heq]
      rfl
    refine ⟨_, b₂, hworks.traced, by rwa [hpaid], ?_⟩
    rw [hjudged]
    rfl
  | @passed id b₁ tr flow hid _ _ hticks =>
    exact ⟨b, b₁, hticks.traced, .inl rfl, hpassed b₁ id hid⟩
  | @lapsed id hid => exact ⟨b, b, .nil b, .inl rfl, hpassed b id hid⟩
  | idle hid => exact ⟨b, b, .nil b, .inl rfl, by simp [endsTurn, hid]⟩
  | judged => exact ⟨b, b, .nil b, .inl rfl, congrArg (·.get? x) (hjudged b)⟩
  | @chose id acts =>
    obtain ⟨m, heq⟩ := b.chooseAction_seed id acts
    exact ⟨b, b, .nil b, .inl rfl, by rw [heq]; rfl⟩
  | @aimed s id named =>
    exact ⟨_, _, .nil _, b.taunt_resolveTargets s id named x, rfl⟩
  | resolved _ hworks => exact ⟨b, b', hworks.traced, .inl rfl, rfl⟩
  | bounded _ hticks => exact ⟨b, b', hticks.traced, .inl rfl, rfl⟩
  | @cleansed id tags =>
    exact ⟨b, b, .nil b, .inl rfl, hremoved (.cleansing rules.codex id tags)⟩
  | @dispelled id status =>
    exact ⟨b, b, .nil b, .inl rfl, hremoved (.dispelling id status)⟩

/-- What a call does to a taunt by a living actor where it lays no other one, and that the taunt is
as it was before each deed of the call. -/
theorem Unfolds.taunt {c : Call} {tr tr' : Trace} (h : b.Unfolds rules content c (tr ++ tr') b')
    (halive : b.isAlive y = true) (hlets : tr.Lets x y)
    (hsource : ∀ t, b.taunts.get? x = some t → t.source = y) :
    (∀ p ∈ tr'.head?, p.1.taunts.get? x = b.taunts.get? x) ∧
      (tr' = [] → b'.taunts.get? x =
        if b.endsTurn x c then (b.taunts.get? x).bind Taunt.shortened? else b.taunts.get? x) := by
  obtain ⟨b₁, b₂, htraced, hbegun, hended⟩ := h.taunt_parts x
  have hbegun : b₁.taunts.get? x = b.taunts.get? x := by
    rcases hbegun with hsame | ⟨hfree, hnone⟩
    · exact hsame
    · cases ht : b.taunts.get? x with
      | none => exact hnone
      | some t =>
        cases (forcedTarget?_of_alive ht (hsource t ht ▸ halive)).symm.trans hfree
  constructor
  · rintro ⟨c, d⟩ hmem
    obtain ⟨rest, rfl⟩ : ∃ rest, tr' = (c, d) :: rest := List.head?_eq_some_iff.1 hmem
    exact (htraced.split.1.taunt hlets fun t ht => hsource t (hbegun ▸ ht)).trans hbegun
  · rintro rfl
    rw [List.append_nil] at htraced
    rw [hended, htraced.taunt hlets fun t ht => hsource t (hbegun ▸ ht), hbegun]

/-! ## Runs -/

/-- From one battle to another, a number of turns of an actor end, and all the while it is not
taunted and another actor stays alive. -/
inductive Abides (x y : ActorId) (b : Battle) : Nat → Battle → Prop
  | start (hb : b.isAlive y = true) : Abides x y b 0 b
  | called {k : Nat} {c c' : Battle} {q : Request} {tr : Trace} (h : Abides x y b k c)
      (hq : c.after? q = some c')
      (hunfolds : c.Unfolds q.rules (fun _ => True) q.call tr c') (hlets : tr.Lets x y)
      (halive : c'.isAlive y = true) : Abides x y b (k + (c.endsTurn x q.call).toNat) c'
  | restored {k : Nat} {c c' : Battle} (h : Abides x y b k c) (hr : c.Restored c') :
      Abides x y b k c'

/-- In a call an actor taunts another one for a number of turns. What is done in the call since then
lays no other taunt on it, and the source of this one stays alive. -/
structure Provokes (b : Battle) (x y : ActorId) (n : Nat) (q : Request) (since : Trace)
    (b' : Battle) : Prop where
  call : b.after? q = some b'
  hit : ∃ before c e o,
    b.Unfolds q.rules (fun _ => True) q.call (before ++ (c, .change e o y x) :: since) b' ∧
      e.kind = .taunt ∧ e.statusTurns.getD 1 = n
  lets : since.Lets x y
  alive : b'.isAlive y = true

/-- A taunt for `n` turns binds an actor to its source when `passed` of its own turns have ended: it
stands as long as there are fewer than `n`, or one if `n` is zero, and so long whoever looks for
foes or anyone finds the source, without a draw. -/
structure Binds (x y : ActorId) (n passed : Nat) (b : Battle) : Prop where
  taunt : b.taunts.get? x = if passed < max 1 n then some ⟨y, n - passed⟩ else none
  finds : passed < max 1 n → ∀ s, s.yieldsToTaunt = true →
    (∀ named, b.resolveTargets s x named = ([y], b)) ∧ b.hasCandidates s x = true

theorem binds_of_taunt {b : Battle} {n passed : Nat} (halive : b.isAlive y = true)
    (h : b.taunts.get? x = if passed < max 1 n then some ⟨y, n - passed⟩ else none) :
    b.Binds x y n passed where
  taunt := h
  finds hpassed s hs := by
    rw [if_pos hpassed] at h
    have hforced : b.forcedTarget? x = some y := forcedTarget?_of_alive h halive
    exact ⟨fun named => (resolveTargets_of_forced hforced hs named).1,
      (resolveTargets_of_forced hforced hs []).2⟩

/-- The taunt that stands is the one whose turns are counted. -/
theorem Binds.source {b : Battle} {n passed : Nat} (h : b.Binds x y n passed) :
    ∀ t, b.taunts.get? x = some t → t.source = y := by
  intro t ht
  rw [h.taunt] at ht
  split at ht
  · obtain rfl := Option.some.inj ht
    rfl
  · contradiction

/-- One more own turn that ends takes one turn from the taunt, the last one takes it away. -/
theorem shortened_taunt (y : ActorId) (n passed : Nat) :
    (if passed < max 1 n then some (Taunt.mk y (n - passed)) else none).bind Taunt.shortened? =
      if passed + 1 < max 1 n then some ⟨y, n - (passed + 1)⟩ else none := by
  by_cases hpassed : passed < max 1 n
  · rw [if_pos hpassed, Option.bind_some, Taunt.shortened?]
    dsimp only
    by_cases hlast : n - passed ≤ 1
    · rw [if_pos hlast, if_neg (by omega)]
    · rw [if_neg hlast, if_pos (by omega), Nat.sub_sub]
  · rw [if_neg hpassed, if_neg (by omega)]
    rfl

/-- A call that lays no other taunt on the actor and leaves the source alive counts on. -/
theorem Binds.call {c : Call} {tr : Trace} {n passed : Nat} (h : b.Binds x y n passed)
    (halive : b.isAlive y = true) (hunfolds : b.Unfolds rules content c tr b')
    (hlets : tr.Lets x y) (halive' : b'.isAlive y = true) :
    b'.Binds x y n (passed + (b.endsTurn x c).toNat) := by
  have hunfolds : b.Unfolds rules content c (tr ++ []) b' := by rwa [List.append_nil]
  have hafter := (hunfolds.taunt halive hlets h.source).2 rfl
  refine binds_of_taunt halive' ?_
  rw [hafter, h.taunt]
  cases b.endsTurn x c with
  | true => exact shortened_taunt y n passed
  | false => rfl

/-- The taunt binds before each deed of such a call. -/
theorem Binds.amid {c : Call} {before after : Trace} {m : Battle} {d : Deed} {n passed : Nat}
    (h : b.Binds x y n passed) (halive : b.isAlive y = true)
    (hunfolds : b.Unfolds rules content c (before ++ (m, d) :: after) b')
    (hlets : before.Lets x y) (halive' : m.isAlive y = true) : m.Binds x y n passed :=
  binds_of_taunt halive' <|
    ((hunfolds.taunt halive hlets h.source).1 (m, d) rfl).trans h.taunt

/-- What the deeds since a hit and the end of the call leave of the taunt. -/
theorem Provokes.binds {n : Nat} {q : Request} {since : Trace} (h : b.Provokes x y n q since b') :
    (∀ p ∈ since, p.1.Binds x y n 0) ∧ b'.Binds x y n (b.endsTurn x q.call).toNat := by
  obtain ⟨before, c, e, o, hunfolds, hk, rfl⟩ := h.hit
  obtain ⟨b₁, b₂, htraced, -, hended⟩ := hunfolds.taunt_parts x
  obtain ⟨-, -, htraced⟩ := htraced.split
  have hhit : ((Deed.change e o y x).perform q.rules c).taunts.get? x =
      some ⟨y, e.statusTurns.getD 1⟩ := by
    rw [Deed.perform, applyImmediate]
    simp only [hk]
    exact Table.get?_insert_self ..
  have hsource : ∀ t, ((Deed.change e o y x).perform q.rules c).taunts.get? x = some t →
      t.source = y := by
    intro t ht
    obtain rfl := Option.some.inj (hhit.symm.trans ht)
    rfl
  have hstands := fun (tr : Trace) (b₃ : Battle)
      (h : Traced q.rules (fun _ => True) ((Deed.change e o y x).perform q.rules c) tr b₃)
      (hlets : tr.Lets x y) => (h.taunt hlets hsource).trans hhit
  have hzero : (0 : Nat) < max 1 (e.statusTurns.getD 1) := by omega
  constructor
  · rintro ⟨m, d⟩ hmem
    refine binds_of_taunt (h.lets.alive _ hmem) ?_
    obtain ⟨tr, tr', rfl⟩ := List.append_of_mem hmem
    rw [if_pos hzero]
    exact hstands tr m htraced.split.1 h.lets.append.1
  · refine binds_of_taunt h.alive ?_
    rw [hended, hstands since b₂ htraced h.lets]
    cases b.endsTurn x q.call with
    | false => rw [if_neg Bool.false_ne_true, Bool.toNat_false, if_pos hzero]; rfl
    | true =>
      have hshort := shortened_taunt y (e.statusTurns.getD 1) 0
      rw [if_pos hzero] at hshort
      simpa using hshort

theorem Abides.binds {n passed k : Nat} (h : b.Abides x y k b') (hb : b.Binds x y n passed) :
    b'.isAlive y = true ∧ b'.Binds x y n (passed + k) := by
  induction h with
  | start halive => exact ⟨halive, hb⟩
  | called _ _ hunfolds hlets halive ih =>
    rw [← Nat.add_assoc]
    exact ⟨halive, ih.2.call ih.1 hunfolds hlets halive⟩
  | restored _ hr ih =>
    rw [hr.eq]
    exact ih

theorem taunts_endTurn_of_ne (b : Battle) {id : ActorId} (hx : x ≠ id) :
    (b.countBoundary id).passOn.taunts.get? x = b.taunts.get? x := by
  obtain ⟨round, current, ended, actors, log, heq⟩ := (b.countBoundary id).passOn_eq
  rw [heq]
  exact (b.taunt_countBoundary id x).trans (if_neg hx)

/-- **A taunt for `n` turns binds for `max 1 n` own turns.** In every run after a hit in which the
source stays alive and lays on no further taunt, the number of own turns that have ended says
whether the taunt stands and for how long still. Where it stands, every search of the actor for foes
or anyone finds the source, without a draw: since the hit, between calls and before each deed of a
call.

Whatever becomes of the source, the taunt is left alone by refused actions, by snapshots, by
searches for oneself or allies and by the ends of other turns. If the source is down, the first
search that the taunt could bind drops it and goes on as if there were none. -/
theorem taunt_law {x y : ActorId} {n k : Nat} {q : Request} {since : Trace} {b b₁ b₂ : Battle}
    (hhit : b.Provokes x y n q since b₁) (hrun : b₁.Abides x y k b₂) :
    ((∀ p ∈ since, p.1.Binds x y n 0) ∧
      b₂.Binds x y n ((b.endsTurn x q.call).toNat + k) ∧
      ∀ (q' : Request) (before : Trace) (m : Battle) (d : Deed) (after : Trace) (b₃ : Battle),
        b₂.Unfolds q'.rules (fun _ => True) q'.call (before ++ (m, d) :: after) b₃ →
          before.Lets x y → m.isAlive y = true →
            m.Binds x y n ((b.endsTurn x q.call).toNat + k)) ∧
    ∀ c : Battle,
      (∀ rules act id named c' r,
        c.perform? rules act id named = some (c', .error r) → c'.taunts = c.taunts) ∧
      (∀ c', c.Restored c' → c'.taunts = c.taunts) ∧
      (∀ s id named, s.yieldsToTaunt = false →
        (c.resolveTargets s id named).2.taunts = c.taunts) ∧
      (∀ id, x ≠ id → (c.countBoundary id).passOn.taunts.get? x = c.taunts.get? x) ∧
      ∀ t, c.taunts.get? x = some t → c.isAlive t.source = false →
        ∀ s, s.yieldsToTaunt = true → ∀ named,
          c.resolveTargets s x named = (c.dropTaunt x).resolveTargets s x named ∧
            (c.resolveTargets s x named).2.taunts.get? x = none := by
  obtain ⟨hsince, hbegun⟩ := hhit.binds
  obtain ⟨halive, hbinds⟩ := hrun.binds hbegun
  refine ⟨⟨hsince, hbinds, fun q' before m d after b₃ hunfolds hlets hm => ?_⟩, fun c => ⟨?_, ?_, ?_,
    ?_, ?_⟩⟩
  · exact hbinds.amid halive hunfolds hlets hm
  · intro rules act id named c' r h
    rw [refused_only_logs c rules act id named c' r h]
  · intro c' h
    rw [h.eq]
  · intro s id named hs
    exact c.taunts_of_not_yields hs id named
  · intro id hx
    exact c.taunts_endTurn_of_ne hx
  · intro t ht hdown s hs named
    exact resolveTargets_of_down ht hdown hs named

/-! ## In an ambush -/

/-- The hero faces the slime and a wolf. -/
def ambush : Battle :=
  let wolf : Actor := { slime with id := "wolf", name := "Wolf" }
  (((bare ⟨7⟩).enter .player hero).enter .enemy slime).enter .enemy wolf |>.announce "Turn 1"

/-- A taunt for two turns. -/
def growl : Effect := { kind := .taunt, statusTurns := some 2 }

/-- The wolf growls at the hero. -/
def growling : Request := ⟨{}, .resolve (.effect growl {} "wolf" ["hero"])⟩

/-- The ambush once the wolf has growled. -/
def provoked : Battle := ambush.tauntBy "hero" "wolf" 2

theorem provokes_growling : ambush.Provokes "hero" "wolf" 2 growling [] provoked where
  call := by decide +kernel
  hit := by
    have hworks : Works growling.rules (fun _ => True) ambush
        [(ambush, .change growl {} "wolf" "hero")] .proceed provoked :=
      ⟨.cons ⟨trivial, by decide +kernel⟩ (.nil _), List.forall_mem_singleton.2 rfl, nofun⟩
    exact ⟨[], ambush, growl, {}, .resolved nofun hworks, rfl, rfl⟩
  lets := Trace.lets_nil ..
  alive := by decide +kernel

/-- Some actors end their turns one after the other. -/
def passAll (b : Battle) (ids : List ActorId) : Battle :=
  ids.foldl (fun b id => (b.countBoundary id).passOn) b

/-- Whoever holds no status ends its turn without a deed. -/
theorem Abides.pass {k k' : Nat} {ids : List ActorId} {id : ActorId}
    (h : b.Abides x y k (b.passAll ids)) (hid : (b.passAll ids).actingActor? = some id)
    (halive : (b.passAll ids).isAlive id = true) (hfree : (b.passAll ids).afflictionsOf id = [])
    (hcounted : (b.passAll (ids ++ [id])).isCounted = true)
    (hy : (b.passAll (ids ++ [id])).isAlive y = true)
    (hk : k + ((b.passAll ids).endsTurn x .pass).toNat = k') :
    b.Abides x y k' (b.passAll (ids ++ [id])) := by
  have hplay : (b.passAll ids).play? ({} : Rules) (fun run => tick ({} : Rules).codex run id) =
      some (b.passAll ids, .proceed) := by
    simp [play?, tick, hfree]
  have hpassed : b.passAll (ids ++ [id]) = ((b.passAll ids).countBoundary id).passOn :=
    List.foldl_append
  rw [hpassed] at hcounted hy ⊢
  rw [← hk]
  refine h.called (q := ⟨{}, .pass⟩) ?_ (.passed hid halive hplay (.free hfree))
    (Trace.lets_nil x y) hy
  simp [after?, endTurn?, passed?, hid, halive, hplay, hcounted]

/-- After one of its turns the hero is still bound to the wolf, not to the slime before it; the end
of its second turn frees it. -/
theorem wolf_binds_hero :
    ambush.Provokes "hero" "wolf" 2 growling [] provoked ∧
      provoked.Abides "hero" "wolf" 1 (provoked.passAll ["hero", "slime", "wolf"]) ∧
      provoked.Abides "hero" "wolf" 2 (provoked.passAll ["hero", "slime", "wolf", "hero"]) ∧
      ((provoked.passAll ["hero", "slime", "wolf"]).resolveTargets .singleEnemy "hero" []).1 =
        ["wolf"] ∧
      (provoked.passAll ["hero", "slime", "wolf", "hero"]).taunts.get? "hero" = none := by
  have h₀ : provoked.Abides "hero" "wolf" 0 (provoked.passAll []) := .start (by decide +kernel)
  have h₁ : provoked.Abides "hero" "wolf" 1 (provoked.passAll ["hero"]) :=
    h₀.pass (by decide +kernel) (by decide +kernel) (by decide +kernel) (by decide +kernel)
      (by decide +kernel) (by decide +kernel)
  have h₂ : provoked.Abides "hero" "wolf" 1 (provoked.passAll ["hero", "slime"]) :=
    h₁.pass (by decide +kernel) (by decide +kernel) (by decide +kernel) (by decide +kernel)
      (by decide +kernel) (by decide +kernel)
  have h₃ : provoked.Abides "hero" "wolf" 1 (provoked.passAll ["hero", "slime", "wolf"]) :=
    h₂.pass (by decide +kernel) (by decide +kernel) (by decide +kernel) (by decide +kernel)
      (by decide +kernel) (by decide +kernel)
  have h₄ : provoked.Abides "hero" "wolf" 2 (provoked.passAll ["hero", "slime", "wolf", "hero"]) :=
    h₃.pass (by decide +kernel) (by decide +kernel) (by decide +kernel) (by decide +kernel)
      (by decide +kernel) (by decide +kernel)
  obtain ⟨⟨-, hbound, -⟩, -⟩ := taunt_law provokes_growling h₃
  obtain ⟨⟨-, hfree, -⟩, -⟩ := taunt_law provokes_growling h₄
  refine ⟨provokes_growling, h₃, h₄, ?_, hfree.taunt⟩
  rw [(hbound.finds (by decide) .singleEnemy rfl).1 []]

end Battle

end Skirmish
