import Skirmish.Proofs.Ending

/-!
# What becomes of statuses and shields

Few deeds touch the statuses that actors hold and the shields that they have. Outside the boundaries
a status is applied, or statuses are taken away by an effect that cleanses or dispels, together with
their shields. All else is `Untouched`: nobody leaves, nobody's afflictions change, and no shield
appears that no effect names. `Deed.perform_cases` says that there is nothing else.

Of a call only three things matter here, which `Stirs` lists with the trace of its deeds: effects
and hooks work, an actor passes a boundary, or statuses are taken away; what goes before and comes
after them leaves a battle `Alike`. So what these three keep is kept by every run that does not
leave the battle over (`going_induction`).
-/

namespace Skirmish

variable {rules : Rules} {content : Effect → Prop}

/-- Whether an effect adds to the shields of an id; one that names no id adds to the unnamed one. -/
def Effect.NamesShield (e : Effect) (k : String) : Prop :=
  e.kind = .shield ∧ e.shieldId.getD Battle.unnamedShield = k

instance (e : Effect) (k : String) : Decidable (e.NamesShield k) :=
  inferInstanceAs (Decidable (_ ∧ _))

namespace Battle

/-! ## Untouched -/

/-- Nobody's afflictions change, and whoever joins has those that its maker gave it. -/
def SameStatuses (codex : Codex) (b b' : Battle) : Prop :=
  ∀ q, b'.afflictionsOf q = b.afflictionsOf q ∨
    b.actor? q = none ∧ ∃ template level a, level ≤ greatestCount ∧
      codex.spawn? template level = some a ∧ b'.afflictionsOf q = a.afflictions

/-- Nobody leaves, nobody's afflictions change, and no shield appears that no effect names. -/
structure Untouched (rules : Rules) (content : Effect → Prop) (b b' : Battle) : Prop where
  stayed : ∀ q, b'.actor? q = none → b.actor? q = none
  statuses : b.SameStatuses rules.codex b'
  shields : ∀ q k, b'.HasShield q k → b.HasShield q k ∨ ∃ e, content e ∧ e.NamesShield k

namespace Untouched

variable {b b' b'' : Battle}

theorem of_actors (ha : b'.actors = b.actors)
    (hs : ∀ q k, b'.HasShield q k → b.HasShield q k ∨ ∃ e, content e ∧ e.NamesShield k) :
    b.Untouched rules content b' :=
  ⟨fun q h => by rwa [actor?, ha] at h, fun q => .inl (afflictionsOf_congr ha q), hs⟩

theorem aside (ha : b'.actors = b.actors) (hs : b'.shields = b.shields) :
    b.Untouched rules content b' :=
  of_actors ha fun q k h => .inl ((hasShield_congr hs q k).1 h)

theorem refl (b : Battle) : b.Untouched rules content b := aside rfl rfl

theorem trans (h : b.Untouched rules content b') (h' : b'.Untouched rules content b'') :
    b.Untouched rules content b'' := by
  refine ⟨fun q hq => h.stayed q (h'.stayed q hq), fun q => ?_, fun q k hk => ?_⟩
  · rcases h'.statuses q with hsame' | ⟨hnone, hnew⟩
    · rw [hsame']
      exact h.statuses q
    · exact .inr ⟨h.stayed q hnone, hnew⟩
  · rcases h'.shields q k hk with hold | hnamed
    · exact h.shields q k hold
    · exact .inr hnamed

end Untouched

theorem untouched_announce (b : Battle) (line : String) :
    b.Untouched rules content (b.announce line) :=
  .aside rfl rfl

theorem untouched_modifyActor {b : Battle} {id : ActorId} {f : Actor → Actor}
    (hf : ∀ a, (f a).afflictions = a.afflictions) :
    b.Untouched rules content (b.modifyActor id f) := by
  refine ⟨fun q hq => ?_, fun q => .inl (afflictionsOf_of_kept hf q),
    fun q k h => .inl ((hasShield_congr rfl q k).1 h)⟩
  rw [actor?_modifyActor] at hq
  split at hq
  · next hid => exact hid ▸ Option.map_eq_none_iff.1 hq
  · exact hq

theorem afflictions_collapse (a : Actor) : a.collapse.afflictions = a.afflictions := by
  unfold Actor.collapse
  split <;> rfl

theorem untouched_faintIfDown (b : Battle) (id : ActorId) :
    b.Untouched rules content (b.faintIfDown id) := by
  obtain ⟨lines, heq⟩ := b.faintIfDown_eq id
  rw [heq]
  exact (untouched_modifyActor afflictions_collapse).trans (.aside rfl rfl)

/-- An actor changes elsewhere, and a line says so. -/
theorem untouched_change {b : Battle} {id : ActorId} {f : Actor → Actor} (line : String)
    (hf : ∀ a, (f a).afflictions = a.afflictions) :
    b.Untouched rules content ((b.modifyActor id f).announce line) :=
  (untouched_modifyActor hf).trans (untouched_announce ..)

/-- The actor may faint of it. -/
theorem untouched_sway {b : Battle} {id : ActorId} {f : Actor → Actor} (line : String)
    (hf : ∀ a, (f a).afflictions = a.afflictions) :
    b.Untouched rules content (((b.modifyActor id f).announce line).faintIfDown id) :=
  (untouched_change line hf).trans (untouched_faintIfDown ..)

theorem untouched_resolveTargets (b : Battle) (s : Selector) (acting : ActorId)
    (named : List ActorId) : b.Untouched rules content (b.resolveTargets s acting named).2 := by
  obtain ⟨m, taunts, heq, -⟩ := b.resolveTargets_battle s acting named
  rw [heq]
  exact .aside rfl rfl

theorem untouched_summonOne (b : Battle) (template : String) (user : ActorId) :
    b.Untouched rules content (b.summonOne rules.codex template user) := by
  unfold summonOne
  split
  · next side a n _ ha hn =>
    obtain ⟨-, hfree⟩ := freeNumber?_eq_some hn
    refine ⟨fun q hq => ?_, fun q => ?_, fun q k h => .inl ((hasShield_congr rfl q k).1 h)⟩
    · change (b.actors.insert (summonId template n) _).get? q = none at hq
      rw [Table.get?_insert] at hq
      split at hq
      · cases hq
      · exact hq
    change (((b.actors.insert (summonId template n) _).get? q).elim [] _ = _) ∨ _ ∧
      ∃ _ _ _, _ ∧ _ ∧ ((b.actors.insert (summonId template n) _).get? q).elim [] _ = _
    by_cases hq : q = summonId template n
    · subst hq
      have hnone : b.actor? (summonId template n) = none := by
        rw [Table.contains, Option.isSome_eq_false_iff, Option.isNone_iff_eq_none] at hfree
        exact hfree
      rw [Table.get?_insert_self]
      exact .inr ⟨hnone, template, _, a, Nat.min_le_right _ _, ha, rfl⟩
    · rw [Table.get?_insert_of_ne hq]
      exact .inl rfl
  · exact .refl b

theorem untouched_summonMany (template : String) (user : ActorId) (n : Nat) (b : Battle) :
    b.Untouched rules content (b.summonMany rules.codex template user n) := by
  induction n generalizing b with
  | zero => exact .refl b
  | succ n ih => exact (b.untouched_summonOne ..).trans (ih _)

theorem untouched_supply (b : Battle) (e : Effect) (o : Origin) (user : ActorId) :
    b.Untouched rules content (b.supply rules e o user).1 := by
  unfold supply
  dsimp only
  split
  case h_2 =>
    cases e.summonId with
    | none => exact .refl b
    | some template => exact untouched_summonMany ..
  case h_3 | h_4 =>
    cases e.itemId with
    | none => exact .refl b
    | some item => exact .aside rfl rfl
  all_goals exact .aside rfl rfl

theorem untouched_wound (b : Battle) (id : ActorId) (element : Option String) (critical : Bool)
    (amount : Int) : b.Untouched rules content (b.wound id element critical amount) := by
  have habsorbed : b.Untouched rules content (b.absorb id element amount).2 :=
    .of_actors rfl fun _ _ h => .inl (hasShield_of_absorb h)
  unfold wound
  dsimp only
  split <;> split
  · exact (habsorbed.trans (untouched_announce ..)).trans (untouched_sway _ fun _ => rfl)
  · exact habsorbed.trans (untouched_sway _ fun _ => rfl)
  · exact (habsorbed.trans (untouched_announce ..)).trans (untouched_faintIfDown ..)
  · exact habsorbed.trans (untouched_faintIfDown ..)

theorem untouched_strike (b : Battle) (e : Effect) (o : Origin) (user id : ActorId)
    (rolls : Rolls) : b.Untouched rules content (b.strike rules e o user id rolls).1 := by
  rcases b.strike_cases rules e o user id rolls with h | ⟨m, line, h⟩ | ⟨m, _, _, _, h⟩
  · rw [h]
    exact .refl b
  · rw [h]
    exact .aside rfl rfl
  · rw [h]
    have hrolled : b.Untouched rules content { b with seed := b.seed.advance m } :=
      .aside rfl rfl
    exact hrolled.trans (untouched_wound ..)

/-- An immediate effect that neither cleanses nor dispels. -/
theorem untouched_applyImmediate {b : Battle} {e : Effect} (hc : content e)
    (hcleanse : e.kind ≠ .cleanseStatus) (hdispel : e.kind ≠ .dispel) (o : Origin)
    (user id : ActorId) : b.Untouched rules content (b.applyImmediate rules e o user id) := by
  unfold applyImmediate
  dsimp only
  split
  case h_1 => exact untouched_change _ fun _ => rfl
  case h_2 => exact untouched_sway _ fun _ => rfl
  case h_3 hk => exact absurd hk hcleanse
  case h_4 hk => exact absurd hk hdispel
  case h_5 =>
    cases e.stat with
    | none => exact .refl b
    | some k => exact untouched_sway _ fun _ => rfl
  case h_6 hk =>
    refine .of_actors rfl fun q k h => ?_
    rcases hasShield_addShield.1 ((hasShield_congr rfl q k).1 h) with ⟨-, rfl⟩ | hold
    · exact .inr ⟨e, hc, hk, rfl⟩
    · exact .inl hold
  case h_8 =>
    unfold revive
    dsimp only
    split
    · exact .refl b
    · exact untouched_change _ fun _ => rfl
  all_goals exact .aside rfl rfl

end Battle

/-! ## Deeds -/

/-- What a deed is to take away, if it is an effect that cleanses or dispels. -/
def Deed.removal? (codex : Codex) : Deed → Option Removal
  | change e _ _ id =>
    match e.kind with
    | .cleanseStatus => some (.cleansing codex id e.cleanseTags)
    | .dispel => some (.dispelling id e.statusId)
    | _ => none
  | _ => none

/-- **Outside the boundaries a deed leaves statuses and shields untouched, takes statuses away and
may say so, or applies a status.** -/
theorem Deed.perform_cases {b : Battle} {d : Deed} (hinner : d.isBoundary = false)
    (hd : d.May rules content b) :
    (b.Untouched rules content (d.perform rules b) ∧ d.removal? rules.codex = none) ∨
      (∃ r log, d.removal? rules.codex = some r ∧
        d.perform rules b = { r.perform rules.codex b with log := log }) ∨
      ∃ id st turns, d = .afflict id st turns := by
  cases d with
  | aim s id => exact .inl ⟨b.untouched_resolveTargets s id [], rfl⟩
  | supply e o user => exact .inl ⟨b.untouched_supply e o user, rfl⟩
  | strike e o user id rolls => exact .inl ⟨b.untouched_strike e o user id rolls, rfl⟩
  | change e o user id =>
    by_cases hcleanse : e.kind = .cleanseStatus
    · obtain ⟨log, heq⟩ := b.cleanseAloud_eq rules.codex id e.cleanseTags
      refine .inr (.inl ⟨.cleansing rules.codex id e.cleanseTags, log, ?_, ?_⟩)
      · simp only [removal?, hcleanse]
      · rw [← heq]
        simp only [perform, Battle.applyImmediate, hcleanse]
    · by_cases hdispel : e.kind = .dispel
      · obtain ⟨log, heq⟩ := b.dispelAloud_eq rules.codex id e.statusId
        refine .inr (.inl ⟨.dispelling id e.statusId, log, ?_, ?_⟩)
        · simp only [removal?, hdispel]
        · rw [← heq]
          simp only [perform, Battle.applyImmediate, hdispel]
      · refine .inl ⟨Battle.untouched_applyImmediate hd.1 hcleanse hdispel o user id, ?_⟩
        cases hk : e.kind <;> simp_all [removal?]
  | afflict id st turns => exact .inr (.inr ⟨id, st, turns, rfl⟩)
  | countDown | dropExpired | wearOff => cases hinner

/-! ## Calls -/

/-- What a call itself is to take away. -/
def Call.removal? (codex : Codex) : Call → Option Removal
  | cleanse id tags => some (.cleansing codex id tags)
  | dispel id status => some (.dispelling id status)
  | _ => none

namespace Battle

/-- The same actors hold the same in both battles, and the second one is over if the first one
is. -/
structure Alike (b b' : Battle) : Prop where
  contains : ∀ q, b'.actors.contains q = b.actors.contains q
  afflictions : ∀ q, b'.afflictionsOf q = b.afflictionsOf q
  shields : b'.shields = b.shields
  ended : b.isOver = true → b'.isOver = true

namespace Alike

variable {b b' b'' : Battle}

theorem aside (ha : b'.actors = b.actors) (hs : b'.shields = b.shields)
    (he : b'.ended = b.ended) : b.Alike b' :=
  ⟨fun _ => by rw [ha], afflictionsOf_congr ha, hs, fun h => by rwa [isOver, he]⟩

theorem refl (b : Battle) : b.Alike b := aside rfl rfl rfl

theorem trans (h : b.Alike b') (h' : b'.Alike b'') : b.Alike b'' :=
  ⟨fun q => (h'.contains q).trans (h.contains q),
    fun q => (h'.afflictions q).trans (h.afflictions q), h'.shields.trans h.shields,
    fun hover => h'.ended (h.ended hover)⟩

/-- What is not over afterwards was not over before. -/
theorem going (h : b.Alike b') (hgoing : b'.isOver = false) : b.isOver = false :=
  Bool.eq_false_iff.2 fun hover => nomatch (h.ended hover).symm.trans hgoing

theorem hasShield (h : b.Alike b') (q : ActorId) (k : String) :
    b'.HasShield q k ↔ b.HasShield q k :=
  hasShield_congr h.shields q k

end Alike

theorem alike_resolveTargets {b b' : Battle} {s : Selector} {acting : ActorId}
    {named targets : List ActorId} (h : b.resolveTargets s acting named = (targets, b')) :
    b.Alike b' := by
  obtain ⟨m, taunts, heq, -⟩ := b.resolveTargets_battle s acting named
  rw [h] at heq
  obtain rfl : b' = _ := heq
  exact .aside rfl rfl rfl

theorem alike_pay (b : Battle) (id : ActorId) (act : Action) : b.Alike (b.pay id act) := by
  have hcontains := (b.sameCast_pay id act).contains
  obtain ⟨cooldowns, charges, inventory, heq⟩ := b.pay_eq id act
  rw [heq] at hcontains ⊢
  exact ⟨hcontains, afflictionsOf_of_kept fun _ => rfl, rfl, fun h => h⟩

theorem afflictionsOf_rewardAll (b : Battle) (xp gold : Int) (ids : List ActorId) (q : ActorId) :
    (b.rewardAll xp gold ids).afflictionsOf q = b.afflictionsOf q := by
  have hkept : ∀ (b : Battle) (id : ActorId) (f : Actor → Stats),
      (b.modifyActor id fun a => { a with stats := f a }).afflictionsOf q = b.afflictionsOf q := by
    intro b id f
    refine afflictionsOf_of_kept (fun a => ?_) q
    rfl
  exact rewardAll_induction (P := fun c => c.afflictionsOf q = b.afflictionsOf q) rfl
    (fun _ _ _ h => (hkept ..).trans h) fun _ _ _ h => (hkept ..).trans h

theorem alike_judge (b : Battle) : b.Alike b.judge.2 := by
  obtain ⟨ended, actors, lines, heq⟩ := b.judge_eq
  have hshields : b.judge.2.shields = b.shields := by rw [heq]
  have hcontains := b.sameCast_judge.contains
  clear heq
  unfold judge at hshields hcontains ⊢
  split
  · exact .refl b
  · next hgoing =>
    have hover : b.isOver = false := isOver_eq_false_iff.2 hgoing
    rw [hgoing] at hshields hcontains
    refine ⟨hcontains, fun q => ?_, hshields, fun h => nomatch hover.symm.trans h⟩
    split
    · rfl
    · exact afflictionsOf_rewardAll ..
    · rfl
    · rfl

theorem alike_countBoundary (b : Battle) (id : ActorId) : b.Alike (b.countBoundary id) := by
  obtain ⟨prevented, taunts, heq⟩ := b.countBoundary_eq id
  rw [heq]
  exact .aside rfl rfl rfl

theorem alike_passOn (b : Battle) : b.Alike b.passOn := by
  have hjudged := b.alike_judge
  unfold passOn
  split
  · next b₁ heq => rwa [heq] at hjudged
  · next b₁ heq =>
    rw [heq] at hjudged
    obtain ⟨round, current, log, hadvanced, -⟩ := b₁.advance_spec b₁.order.length
    rw [hadvanced]
    exact hjudged.trans (.aside rfl rfl rfl)

theorem alike_chooseAction (b : Battle) (id : ActorId) (acts : List Action) :
    b.Alike (b.chooseAction id acts).2 :=
  .aside rfl rfl rfl

/-- The actor that passes a boundary in a call: it ends its turn alive, or does so out of turn. -/
def boundary? (b : Battle) : Call → Option ActorId
  | .pass => b.actingActor?.filter b.isAlive
  | .resolve (.boundary x) => some x
  | _ => none

/-- What a call does to statuses and shields, with the trace of its deeds. -/
inductive Stirs (rules : Rules) (content : Effect → Prop) (b : Battle) (c : Call) :
    Trace → Battle → Prop
  /-- Effects and hooks work, and nothing else does. -/
  | worked {b₁ b₂ b' : Battle} {tr : Trace} {flow : Flow} (hc : b.boundary? c = none)
      (hr : c.removal? rules.codex = none) (h : b.Alike b₁)
      (hworks : Works rules content b₁ tr flow b₂) (h' : b₂.Alike b') :
      Stirs rules content b c tr b'
  /-- An actor passes a boundary. -/
  | ticked {x : ActorId} {b₁ b' : Battle} {tr : Trace} {flow : Flow} (hc : b.boundary? c = some x)
      (hplay : b.play? rules (fun run => tick rules.codex run x) = some (b₁, flow))
      (hticks : Ticks rules content x b tr flow b₁) (h' : b₁.Alike b') :
      Stirs rules content b c tr b'
  /-- Statuses are taken away. -/
  | removed {r : Removal} (hr : c.removal? rules.codex = some r) :
      Stirs rules content b c [] (r.perform rules.codex b)

variable {b b' : Battle} {c : Call} {tr : Trace}

/-- A call in which nothing happens to statuses and shields. -/
theorem Stirs.still (hc : b.boundary? c = none) (hr : c.removal? rules.codex = none)
    (h : b.Alike b') : b.Stirs rules content c [] b' :=
  .worked hc hr h ⟨.nil b', List.forall_mem_nil _, fun hflow : Flow.proceed = _ => nomatch hflow⟩
    (.refl b')

/-- **However a call unfolds, this is what it does to statuses and shields.** -/
theorem Unfolds.stirs (h : b.Unfolds rules content c tr b') : b.Stirs rules content c tr b' := by
  cases h with
  | refused => exact .still rfl rfl (.aside rfl rfl rfl)
  | played _ haimed hworks =>
    refine .worked rfl rfl ((alike_resolveTargets haimed).trans (alike_pay ..)) hworks ?_
    have hsaid : ∀ (b : Battle) line, b.Alike (b.announce line) := fun _ _ => .aside rfl rfl rfl
    exact (hsaid ..).trans (alike_judge _)
  | passed hid halive hplay hticks =>
    refine .ticked ?_ hplay hticks ((alike_countBoundary ..).trans (alike_passOn _))
    rw [boundary?, hid, Option.filter_some, if_pos halive]
  | @lapsed id hid hdown =>
    refine .still ?_ rfl ((b.alike_countBoundary id).trans (alike_passOn _))
    rw [boundary?, hid, Option.filter_some, if_neg (by rw [hdown]; decide)]
  | idle hid =>
    refine .still ?_ rfl (.refl b)
    rw [boundary?, hid, Option.filter_none]
  | judged => exact .still rfl rfl b.alike_judge
  | chose => exact .still rfl rfl (b.alike_chooseAction ..)
  | aimed => exact .still rfl rfl (alike_resolveTargets rfl)
  | @resolved r _ _ _ hr hworks =>
    refine .worked ?_ rfl (.refl b) hworks (.refl b')
    cases r with
    | boundary x => exact absurd rfl (hr x)
    | _ => rfl
  | bounded hplay hticks => exact .ticked rfl hplay hticks (.refl b')
  | @cleansed id tags => exact .removed (r := .cleansing rules.codex id tags) rfl
  | @dispelled id status => exact .removed (r := .dispelling id status) rfl

/-- A call or a run that does not leave a battle over did not find it so. -/
theorem going_of_after? {q : Request} (h : b.after? q = some b') (hgoing : b'.isOver = false) :
    b.isOver = false := by
  rw [isOver_eq_false_iff] at hgoing ⊢
  cases hended : b.ended with
  | none => rfl
  | some r => cases hgoing.symm.trans ((answers_of_after? q.within_true h).ended hended)

theorem going_of_run? {qs : List Request} (h : b.run? qs = some b') (hgoing : b'.isOver = false) :
    b.isOver = false := by
  induction qs generalizing b with
  | nil =>
    cases h
    exact hgoing
  | cons q qs ih =>
    obtain ⟨b₁, hq, hqs⟩ := Option.bind_eq_some_iff.1 h
    exact going_of_after? hq (ih hqs)

/-- **What is kept by every call that does not leave the battle over is kept by every run that does
not.** -/
theorem going_induction {I : Battle → Prop} {qs : List Request}
    (hqs : ∀ q ∈ qs, q.Within content)
    (hstep : ∀ q ∈ qs, ∀ c tr c', I c → c'.isOver = false →
      c.Stirs q.rules content q.call tr c' → I c')
    (h : b.run? qs = some b') (hgoing : b'.isOver = false) (hb : I b) : I b' := by
  induction qs generalizing b with
  | nil =>
    cases h
    exact hb
  | cons q qs ih =>
    obtain ⟨b₁, hq, hrest⟩ := Option.bind_eq_some_iff.1 h
    obtain ⟨hwithin, hqs⟩ := List.forall_mem_cons.1 hqs
    obtain ⟨hfirst, hstep⟩ := List.forall_mem_cons.1 hstep
    obtain ⟨tr, hunfolds⟩ := unfolds_of_after? hwithin hq
    exact ih hqs hstep hrest (hfirst b tr b₁ hb (going_of_run? hrest hgoing) hunfolds.stirs)

end Battle

end Skirmish
