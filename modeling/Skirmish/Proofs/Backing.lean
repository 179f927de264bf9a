import Skirmish.Proofs.Statuses

/-!
# Shields do not outlive their status

A status may grant a shield under an id that nothing else uses: no other status grants it, and no
effect adds to it. Whoever has such a shield then holds the status, although the two are kept apart
and change at different moments: an application adds the status before it sets the shield, cleansing
takes the statuses away before the shields, and at a boundary all expired statuses go at once, while
their shields go one by one with hooks running in between.

`Backed` says that all shields of an id belong to holders of the status, with the exception of some
actors. At a boundary the exception is the actor that passes it, as long as the status is still to
wear off; all work of effects and hooks keeps the property whatever the exception is
(`Backed.deed`). So it holds without exception after every run that does not leave the battle over
(`held_of_shield`).
-/

namespace Skirmish

/-- A status alone grants the shields of an id. -/
structure Codex.Owns (codex : Codex) (st k : String) : Prop where
  granted : codex.granted? st = some k
  only : ∀ st', codex.granted? st' = some k → st' = st

instance (codex : Codex) (st k : String) : Decidable (codex.Owns st k) :=
  decidable_of_iff
    (codex.granted? st = some k ∧
      codex.statuses.Each fun st' s => Status.shieldId? { s with id := st' } = some k → st' = st)
    ⟨fun ⟨hgranted, honly⟩ => ⟨hgranted, fun st' h => by
      obtain ⟨s, hs, hk⟩ := Option.bind_eq_some_iff.1 h
      obtain ⟨t, ht, rfl⟩ := Option.map_eq_some_iff.1 hs
      exact honly st' t ht hk⟩,
    fun ⟨hgranted, honly⟩ => ⟨hgranted, fun st' s hs hk => honly st' (by
      rw [Codex.granted?, Codex.status?, hs]
      exact hk)⟩⟩

theorem Codex.Owns.granted?_iff {codex : Codex} {st st' k : String} (h : codex.Owns st k) :
    codex.granted? st' = some k ↔ st' = st :=
  ⟨h.only st', fun heq => heq ▸ h.granted⟩

theorem Codex.Owns.shieldId?_iff {codex : Codex} {st k : String} {s : Status}
    (h : codex.Owns st k) (hs : codex.status? s.id = some s) :
    s.shieldId? = some k ↔ s.id = st := by
  rw [← h.granted?_iff, Codex.granted?, hs, Option.bind_some]

namespace Battle

/-- Whoever has a shield of an id holds a status, with some exceptions. -/
def Backed (st k : String) (but : ActorId → Prop) (b : Battle) : Prop :=
  ∀ q, b.HasShield q k → st ∈ b.statusesOf q ∨ but q

namespace Backed

variable {rules : Rules} {content : Effect → Prop} {b b' : Battle} {st k : String}
  {but : ActorId → Prop}

theorem congr (h : b.Backed st k but) (ha : ∀ q, b'.statusesOf q = b.statusesOf q)
    (hs : ∀ q, b'.HasShield q k → b.HasShield q k) : b'.Backed st k but :=
  fun q hq => ha q ▸ h q (hs q hq)

theorem alike (h : b.Backed st k but) (ha : b.Alike b') : b'.Backed st k but :=
  h.congr (fun q => congrArg _ (ha.afflictions q)) fun q => (ha.hasShield q k).1

/-- With the statuses their shields are taken away. -/
theorem perform (h : b.Backed st k but) {codex : Codex} (howns : codex.Owns st k) (r : Removal) :
    (r.perform codex b).Backed st k but := by
  intro q hq
  obtain ⟨hhas, hleft⟩ := Removal.hasShield_perform.1 hq
  refine (h q hhas).imp_left fun hst => ?_
  rw [statusesOf, Removal.afflictionsOf_perform]
  split
  · next hid =>
    obtain ⟨i, hi, rfl⟩ := List.mem_map.1 hst
    have hkept : r.takes i.status = false :=
      Bool.eq_false_iff.2 fun htakes => hleft ⟨hid, i.status, hst, htakes, howns.granted⟩
    exact List.mem_map_of_mem (List.mem_filter.2 ⟨hi, by rw [hkept]; rfl⟩)
  · exact hst

/-- **No work of effects and hooks leaves a shield behind**, unless it adds to it. -/
theorem deed {d : Deed} (h : b.Backed st k but) (howns : rules.codex.Owns st k)
    (hcontent : ∀ e, content e → ¬e.NamesShield k) (hinner : d.isBoundary = false)
    (hd : d.May rules content b) : (d.perform rules b).Backed st k but := by
  rcases Deed.perform_cases hinner hd with
    ⟨huntouched, -⟩ | ⟨r, log, -, heq⟩ | ⟨id, s, turns, rfl⟩
  · intro q hq
    rcases huntouched.shields q k hq with hhas | ⟨e, he, hnames⟩
    · refine (h q hhas).imp_left fun hst => ?_
      rcases huntouched.statuses q with hsame | ⟨hnone, -⟩
      · rwa [statusesOf, hsame]
      · rw [statusesOf, afflictionsOf, hnone] at hst
        cases hst
    · exact absurd hnames (hcontent e he)
  · rw [heq]
    exact (h.perform howns r).congr (fun _ => rfl) fun _ => (hasShield_congr rfl _ k).1
  · change (b.afflict rules.codex id s turns).1.Backed st k but
    rcases b.afflict_cases rules.codex id s turns with heq | ⟨b', is, n, heq, hto, hafter, hshields⟩
    · rw [heq]
      exact h
    · rw [heq]
      intro q hq
      rw [statusesOf, hafter]
      rcases hshields q k hq with hhas | ⟨rfl, hgranted⟩
      · refine (h q hhas).imp_left fun hst => ?_
        split
        · next hid =>
          subst hid
          exact hto.mem_status.2 (.inr hst)
        · exact hst
      · -- the shield is that of the status that was just accepted
        have hs : s.id = st := (howns.shieldId?_iff hd.1).1 hgranted
        rw [if_pos rfl]
        exact .inl (hto.mem_status.2 (.inl hs.symm))

theorem works {tr : Trace} {flow : Flow} (h : b.Backed st k but) (howns : rules.codex.Owns st k)
    (hcontent : ∀ e, content e → ¬e.NamesShield k)
    (hworks : Works rules content b tr flow b') : b'.Backed st k but :=
  hworks.induction (fun _ _ hinner hd hc => hc.deed howns hcontent hinner hd) h

/-! ## Boundaries -/

theorem countDown (h : b.Backed st k but) (x : ActorId) (statuses : List String) :
    (b.countDown x statuses).Backed st k but := by
  refine h.congr (fun q => ?_) fun q => (hasShield_congr rfl q k).1
  rw [statusesOf, afflictionsOf_countDown]
  split
  · rw [List.map_map]
    refine List.map_congr_left fun i _ => ?_
    simp only [Function.comp_apply]
    split <;> rfl
  · rfl

/-- Where expired statuses are dropped, the shields wait for these to wear off. -/
theorem dropExpired (h : b.Backed st k fun _ => False) (x : ActorId) :
    (b.dropExpired x).Backed st k
      fun q => q = x ∧ st ∈ (b.expired x).map (·.status) := by
  intro q hq
  have hst : st ∈ b.statusesOf q := (h q ((hasShield_congr rfl q k).1 hq)).resolve_right id
  rw [statusesOf, afflictionsOf_dropExpired]
  split
  · next hid =>
    subst hid
    obtain ⟨i, hi, rfl⟩ := List.mem_map.1 hst
    cases hleft : i.remaining with
    | zero =>
      refine .inr ⟨rfl, List.mem_map_of_mem (List.mem_filter.2 ⟨hi, ?_⟩)⟩
      rw [hleft]
      rfl
    | succ n =>
      refine .inl (List.mem_map_of_mem (List.mem_filter.2 ⟨hi, ?_⟩))
      rw [hleft]
      rfl
  · exact .inl hst

/-- A status that wears off is no longer waited for. -/
theorem wearOff {x : ActorId} {i : Affliction} {is : List Affliction} {codex : Codex}
    (howns : codex.Owns st k)
    (h : b.Backed st k fun q => q = x ∧ st ∈ (i :: is).map (·.status)) :
    (b.wearOff codex x i.status).Backed st k fun q => q = x ∧ st ∈ is.map (·.status) := by
  intro q hq
  obtain ⟨hhas, hleft⟩ := hasShield_wearOff.1 hq
  rw [statusesOf, afflictionsOf_wearOff]
  refine (h q hhas).imp_right fun ⟨hqx, hmem⟩ => ⟨hqx, ?_⟩
  rw [List.map_cons, List.mem_cons] at hmem
  refine hmem.resolve_left fun hst => hleft ⟨hqx, ?_⟩
  rw [← hst]
  exact howns.granted

theorem expires {x : ActorId} {is : List Affliction} {tr : Trace} {flow : Flow}
    (hexpires : Expires rules content x is b tr flow b') (howns : rules.codex.Owns st k)
    (hcontent : ∀ e, content e → ¬e.NamesShield k) (hgoing : b'.isOver = false)
    (h : b.Backed st k fun q => q = x ∧ st ∈ is.map (·.status)) :
    b'.Backed st k fun _ => False := by
  induction hexpires with
  | done => exact fun q hq => (h q hq).imp_right fun hwaits => nomatch hwaits.2
  | halted hlast => cases (hlast.stops rfl).symm.trans hgoing
  | next hlast _ ih => exact ih hgoing ((h.wearOff howns).works howns hcontent hlast.toWorks)

/-- **A boundary that does not halt leaves no shield behind.** -/
theorem ticks {x : ActorId} {tr : Trace} {flow : Flow} (h : b.Backed st k fun _ => False)
    (howns : rules.codex.Owns st k) (hcontent : ∀ e, content e → ¬e.NamesShield k)
    (hticks : Ticks rules content x b tr flow b') (hgoing : b'.isOver = false) :
    b'.Backed st k fun _ => False := by
  cases hticks with
  | free => exact h
  | haltedBefore h => cases (h.stops rfl).symm.trans hgoing
  | haltedAfter _ h' => cases (h'.stops rfl).symm.trans hgoing
  | passed hbefore hafter hexpires =>
    have hcounted := (h.works howns hcontent hbefore).countDown x (b.statusesOf x)
    have hdropped := (hcounted.works howns hcontent hafter).dropExpired x
    exact expires hexpires howns hcontent hgoing hdropped

end Backed

/-! ## Runs -/

/-- **Where one status alone grants the shields of an id, and no effect of a call or of a hook adds
to them, every run from the beginning of a battle that does not leave it over leaves only holders of
the status with such a shield.** -/
theorem held_of_shield {b b' : Battle} (hfresh : b.Fresh) {codex : Codex} {st k : String}
    (howns : codex.Owns st k) {qs : List Request} (hqs : ∀ q ∈ qs, q.rules.codex = codex)
    (hcontent : ∀ q ∈ qs, q.Within fun e => ¬e.NamesShield k) (h : b.run? qs = some b')
    (hgoing : b'.isOver = false) (q : ActorId) (hq : (b'.shield? q k).isSome = true) :
    ∃ i ∈ b'.afflictionsOf q, i.status = st := by
  have hnone : b.Backed st k fun _ => False := by
    intro q hq
    rw [hasShield_iff, shieldsOf, hfresh.untouched.1] at hq
    cases hq
  have hbacked : b'.Backed st k fun _ => False := by
    refine going_induction hcontent ?_ h hgoing hnone
    intro q hq c tr c' hc hgoing' hstirs
    obtain rfl := hqs q hq
    cases hstirs with
    | worked _ _ h hworks h' =>
      exact ((hc.alike h).works howns (fun _ he => he) hworks).alike h'
    | ticked _ _ hticks h' =>
      exact (hc.ticks howns (fun _ he => he) hticks (h'.going hgoing')).alike h'
    | removed => exact hc.perform howns _
  exact List.mem_map.1 ((hbacked q hq).resolve_right id)

/-! ## A ward -/

/-- A ward shields its holder. -/
def wardRules : Rules where
  codex :=
    let ward : Status := { id := "ward", duration := 2, shield := some { value := .flat 5 } }
    { statuses := Table.empty.insert "ward" ward }

/-- Only the ward is registered. -/
theorem status?_wardRules {st : String} {s : Status} (h : wardRules.codex.status? st = some s) :
    st = "ward" ∧ ∀ hook, s.hooked hook = [] := by
  obtain ⟨t, ht, rfl⟩ := Option.map_eq_some_iff.1 h
  change (Table.empty.insert "ward" _).get? st = some t at ht
  rw [Table.get?_insert] at ht
  split at ht
  · next hst =>
    cases ht
    exact ⟨hst, fun hook => by cases hook <;> rfl⟩
  · cases ht

theorem owns_ward : wardRules.codex.Owns "ward" "ward" := by decide +kernel

/-- The hero puts itself under a ward and is bitten. -/
def guarded : List Request :=
  [⟨wardRules, .play { Action.skill "ward" "Ward" with
      targeting := .user, effects := [.applyStatus "ward" none] } "hero" []⟩,
   ⟨wardRules, .pass⟩,
   ⟨wardRules, .play { Action.skill "bite" "Bite" with effects := [.trueDamage 2] } "slime" []⟩,
   ⟨wardRules, .pass⟩]

/-- After the bite the hero has a shield left, and so the ward. -/
theorem hero_holds_ward :
    ∃ b', duel.run? guarded = some b' ∧ (b'.shield? "hero" "ward").map (·.hp) = some 3 ∧
      ∃ i ∈ b'.afflictionsOf "hero", i.status = "ward" := by
  have hrun : (duel.run? guarded).map (fun b => ((b.shield? "hero" "ward").map (·.hp), b.isOver)) =
      some (some 3, false) := by
    decide +kernel
  obtain ⟨b', h, heq⟩ := Option.map_eq_some_iff.1 hrun
  obtain ⟨hhp, hgoing⟩ := Prod.mk.inj heq
  obtain ⟨s, hs, -⟩ := Option.map_eq_some_iff.1 hhp
  have hrules : ∀ q ∈ guarded, q.rules = wardRules := by
    intro q hq
    simp only [guarded, List.mem_cons, List.not_mem_nil, or_false] at hq
    rcases hq with rfl | rfl | rfl | rfl <;> rfl
  have hown : ∀ q ∈ guarded, ∀ e ∈ q.call.effects, ¬e.NamesShield "ward" := by decide +kernel
  have hwithin : ∀ q ∈ guarded, q.Within fun e => ¬e.NamesShield "ward" := by
    refine fun q hq => ⟨fun st s hs hook e he => ?_, hown q hq⟩
    rw [hrules q hq] at hs
    rw [(status?_wardRules hs).2 hook] at he
    cases he
  exact ⟨b', h, hhp, held_of_shield fresh_duel owns_ward (fun q hq => by rw [hrules q hq]) hwithin h
    hgoing "hero" (by rw [hs]; rfl)⟩

end Battle

end Skirmish
