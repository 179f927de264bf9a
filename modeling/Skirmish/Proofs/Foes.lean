import Skirmish.Proofs.Targeting

/-!
# Who is found among foes

The pool of foes is the opposing roster, but a taunt that binds comes before every pool: whoever
looks for foes finds its source, on whichever side this stands. A taunt does not come from nowhere:
a deed leaves the taunter of an actor as it is or does away with it, unless it lays a taunt itself
(`Traced.taunter`), and what calls do beside deeds brings no taunter (`taunter_of_run`).

So a search for foes finds the own party only where a member of it has taunted the actor in the run
(`finds_foes_or_taunter`).
-/

namespace Skirmish

/-- What an own turn leaves of a taunt has its source. -/
theorem Taunt.source_shortened {t t' : Taunt} (h : t.shortened? = some t') :
    t'.source = t.source := by
  unfold Taunt.shortened? at h
  split at h
  · cases h
  · cases h
    rfl

/-- A deed that lays a taunt has an effect that taunts. -/
theorem Deed.taunt?_eq_some {d : Deed} {x : ActorId} {t : Taunt} (h : d.taunt? = some (x, t)) :
    ∃ e o, d = .change e o t.source x ∧ e.kind = .taunt := by
  cases d with
  | change e o user id =>
    rw [taunt?, Option.ite_none_right_eq_some] at h
    obtain ⟨hk, heq⟩ := h
    cases heq
    exact ⟨e, o, rfl, hk⟩
  | _ => cases h

namespace Battle

/-- The actor whose taunt stands on another one. -/
def taunter? (b : Battle) (x : ActorId) : Option ActorId := (b.taunts.get? x).map (·.source)

variable {rules : Rules} {content : Effect → Prop} {b b' : Battle} {x y : ActorId}

theorem forcedTarget?_eq_some_iff :
    b.forcedTarget? x = some y ↔ b.taunter? x = some y ∧ b.isAlive y = true :=
  Option.filter_eq_some_iff

theorem taunter?_congr (h : b'.taunts.get? x = b.taunts.get? x) :
    b'.taunter? x = b.taunter? x :=
  congrArg (Option.map _) h

theorem taunter?_of_none (h : b.taunts.get? x = none) : b.taunter? x = none := by
  rw [taunter?, h, Option.map_none]

end Battle

/-! ## Where taunts come from -/

variable {rules : Rules} {content : Effect → Prop} {b b' : Battle} {x y : ActorId}

/-- Among the deeds of a trace an effect taunts an actor in the name of another one. -/
def Trace.Taunts (content : Effect → Prop) (tr : Trace) (x y : ActorId) : Prop :=
  ∃ c e o, (c, Deed.change e o y x) ∈ tr ∧ content e ∧ e.kind = .taunt

/-- Whose taunt stands after some deeds taunted before them or among them. -/
theorem Traced.taunter {tr : Trace} (h : Traced rules content b tr b')
    (hy : b'.taunter? x = some y) : b.taunter? x = some y ∨ tr.Taunts content x y := by
  revert hy
  refine h.induction (P := fun c => c.taunter? x = some y →
    b.taunter? x = some y ∨ tr.Taunts content x y) (fun c d hmem hmay hc hy => ?_) .inl
  rcases d.taunt_cases rules c x with hsame | ⟨-, hnone⟩ | ⟨t, ht, hlaid⟩
  · exact hc ((Battle.taunter?_congr hsame).symm.trans hy)
  · cases (Battle.taunter?_of_none hnone).symm.trans hy
  · obtain ⟨e, o, rfl, hk⟩ := Deed.taunt?_eq_some ht
    have hsource : t.source = y := by
      rw [Battle.taunter?, hlaid] at hy
      exact Option.some.inj hy
    subst hsource
    exact .inr ⟨c, e, o, hmem, hmay.1, hk⟩

namespace Battle

/-- What the end of a turn leaves of a taunt has its taunter. -/
theorem taunter?_of_shortened {b₁ : Battle}
    (h : b'.taunts.get? x = (b₁.taunts.get? x).bind Taunt.shortened?)
    (hy : b'.taunter? x = some y) : b₁.taunter? x = some y := by
  obtain ⟨t', ht', rfl⟩ := Option.map_eq_some_iff.1 hy
  obtain ⟨t, ht, hshort⟩ := Option.bind_eq_some_iff.1 (h.symm.trans ht')
  rw [taunter?, ht, Option.map_some, Taunt.source_shortened hshort]

/-- Whose taunt stands after a call taunted before it or in it. -/
theorem Unfolds.taunter {c : Call} {tr : Trace} (h : b.Unfolds rules content c tr b')
    (hy : b'.taunter? x = some y) : b.taunter? x = some y ∨ tr.Taunts content x y := by
  obtain ⟨b₁, b₂, htraced, hbegun, hended⟩ := h.taunt_parts x
  have hy₂ : b₂.taunter? x = some y := by
    split at hended
    · exact taunter?_of_shortened hended hy
    · exact (taunter?_congr hended).symm.trans hy
  refine (htraced.taunter hy₂).imp_left fun hy₁ => ?_
  rcases hbegun with hsame | ⟨-, hnone⟩
  · exact (taunter?_congr hsame).symm.trans hy₁
  · cases (taunter?_of_none hnone).symm.trans hy₁

/-- In some call of a run an effect taunts an actor in the name of another one. -/
def TauntsAlong (content : Effect → Prop) (b : Battle) (qs : List Request) (x y : ActorId) : Prop :=
  ∃ before q after c c' tr, qs = before ++ q :: after ∧ b.run? before = some c ∧
    c.after? q = some c' ∧ c.Unfolds q.rules content q.call tr c' ∧ tr.Taunts content x y

/-- **Whose taunt stands after a run taunted before it or in it.** -/
theorem taunter_of_run {qs : List Request} (hqs : ∀ q ∈ qs, q.Within content)
    (h : b.run? qs = some b') (hy : b'.taunter? x = some y) :
    b.taunter? x = some y ∨ b.TauntsAlong content qs x y := by
  induction qs generalizing b with
  | nil =>
    cases h
    exact .inl hy
  | cons q qs ih =>
    obtain ⟨hq, hrest⟩ := List.forall_mem_cons.1 hqs
    obtain ⟨c, hc, hrun⟩ := Option.bind_eq_some_iff.1 h
    -- the taunter was there after the first call, or a later one brought it
    rcases ih hrest hrun with hbefore | ⟨before, q', after, d, d', tr, rfl, hd, hlaid⟩
    · obtain ⟨tr, hunfolds⟩ := unfolds_of_after? hq hc
      refine (hunfolds.taunter hbefore).imp_right fun htaunts => ?_
      exact ⟨[], q, qs, b, c, tr, rfl, rfl, hc, hunfolds, htaunts⟩
    · refine .inr ⟨q :: before, q', after, d, d', tr, rfl, ?_, hlaid⟩
      rw [run?, hc]
      exact hd

/-- Nobody is taunted at the beginning. -/
theorem Fresh.taunter? (h : b.Fresh) (x : ActorId) : b.taunter? x = none := by
  obtain ⟨seed, order, actors, players, enemies, inventory, log, rfl⟩ := h.eq_bare
  rfl

/-- Whose taunt stands after a run from the beginning taunted in it. -/
theorem Fresh.tauntsAlong (hb : b.Fresh) {qs : List Request} (hqs : ∀ q ∈ qs, q.Within content)
    (h : b.run? qs = some b') (hy : b'.taunter? x = some y) : b.TauntsAlong content qs x y := by
  refine (taunter_of_run hqs h hy).resolve_left fun hbefore => ?_
  rw [hb.taunter? x] at hbefore
  cases hbefore

/-! ## Searches for foes -/

variable {own : Side} {s : Selector} {acting : ActorId}

/-- Whoever is alive stands on one of the two sides. -/
theorem Rostered.mem_roster_or (h : b.Rostered) (own : Side) (hx : b.isAlive x = true) :
    x ∈ b.roster own ∨ x ∈ b.roster own.opponent := by
  have hplace : x ∈ b.players ++ b.enemies :=
    h.perm.mem_iff.1 ((h.keys x).1 (Table.mem_keys_iff.2 (contains_of_isAlive hx)))
  cases own with
  | player => exact List.mem_append.1 hplace
  | enemy => exact (List.mem_append.1 hplace).symm

/-- A search for foes that no taunt forces finds opponents. -/
theorem Unforced.finds_foes (h : b.Unforced s acting) (hb : b.Rostered)
    (hacting : acting ∈ b.roster own) (hs : s.pool = .foes) (named : List ActorId) :
    ∀ id ∈ (b.resolveTargets s acting named).1, id ∈ b.roster own.opponent := by
  intro id hid
  rw [h.resolveTargets named] at hid
  have hpool := mem_freeTargets hid
  rw [pool_of_sideOf? (hb.sideOf?_eq hacting), hs] at hpool
  exact List.mem_of_mem_filter hpool

/-- **A search for foes finds opponents, or one of the own side that has taunted.** In every battle
that a run reaches from the beginning, whatever its effects and whomever a caller names, an actor of
a side that looks for foes finds opponents only, or else the search finds just one actor and leaves
the battle as it is. This one is alive and of the own side, its taunt stands on the actor that
looks, and an effect that was applied in the run taunts this actor in its name. -/
theorem finds_foes_or_taunter {b₀ : Battle} (hb₀ : b₀.Fresh) {qs : List Request}
    (hqs : ∀ q ∈ qs, q.Within content) (hrun : b₀.run? qs = some b)
    (hacting : acting ∈ b.roster own) (hs : s.pool = .foes) (named : List ActorId) :
    (∀ id ∈ (b.resolveTargets s acting named).1, id ∈ b.roster own.opponent) ∨
      ∃ id ∈ b.roster own, b.resolveTargets s acting named = ([id], b) ∧ b.isAlive id = true ∧
        b.taunter? acting = some id ∧ b₀.TauntsAlong content qs acting id := by
  have hb : b.Rostered := hb₀.rostered.after_run hrun
  have hyields : s.yieldsToTaunt = true := by rw [Selector.yieldsToTaunt, hs]; rfl
  cases hforced : b.forcedTarget? acting with
  | none =>
    have hfree : b.Unforced s acting := by
      intro _ t ht
      by_contra halive
      rw [Bool.not_eq_false] at halive
      cases (forcedTarget?_of_alive ht halive).symm.trans hforced
    exact .inl (hfree.finds_foes hb hacting hs named)
  | some id =>
    obtain ⟨htaunter, halive⟩ := forcedTarget?_eq_some_iff.1 hforced
    have hfound := (resolveTargets_of_forced hforced hyields named).1
    -- nothing says on which side the taunter stands
    rcases hb.mem_roster_or own halive with hown | hfoe
    · have hlaid := hb₀.tauntsAlong hqs hrun htaunter
      exact .inr ⟨id, hown, hfound, halive, htaunter, hlaid⟩
    · rw [hfound]
      exact .inl (List.forall_mem_singleton.2 hfoe)

/-! ## In an ambush -/

/-- A skill that taunts everyone there is. -/
def uproar : Action :=
  { Action.skill "uproar" "Uproar" with
    targeting := { pool := .anyone, mode := .all }, effects := [.taunt 2] }

/-- The hero lets its turn pass, and the slime raises an uproar. -/
def roused : List Request := [⟨{}, .pass⟩, ⟨{}, .play uproar "slime" []⟩]

/-- After the uproar the wolf, which is told to go for the hero, goes for the slime beside it. -/
theorem wolf_goes_for_slime :
    ∃ b, ambush.run? roused = some b ∧ "wolf" ∈ b.roster .enemy ∧ "slime" ∈ b.roster .enemy ∧
      b.resolveTargets .singleEnemy "wolf" ["hero"] = (["slime"], b) ∧
      ambush.TauntsAlong (fun _ => True) roused "wolf" "slime" := by
  have hrun : (ambush.run? roused).map (fun b => (b.players, b.enemies,
      (b.resolveTargets .singleEnemy "wolf" ["hero"]).1)) =
        some (["hero"], ["slime", "wolf"], ["slime"]) := by
    decide +kernel
  obtain ⟨b, hb, heq⟩ := Option.map_eq_some_iff.1 hrun
  simp only [Prod.mk.injEq] at heq
  obtain ⟨hplayers, henemies, hids⟩ := heq
  have hwolf : "wolf" ∈ b.roster .enemy := by simp [roster, henemies]
  rcases finds_foes_or_taunter fresh_ambush (fun q _ => q.within_true) hb hwolf
    (rfl : Selector.singleEnemy.pool = .foes) ["hero"] with
    hfoes | ⟨id, hown, hfound, -, -, hlaid⟩
  · have hslime := hfoes "slime" (by simp [hids])
    simp [Side.opponent, roster, hplayers] at hslime
  · rw [hfound] at hids
    cases hids
    exact ⟨b, hb, hwolf, hown, hfound, hlaid⟩

/-- A skill that taunts its own user. -/
def boast : Action :=
  { Action.skill "boast" "Boast" with targeting := .user, effects := [.taunt 2] }

/-- After a boast the hero finds itself when it looks for a foe. -/
theorem boaster_finds_itself :
    duel.Fresh ∧ Selector.singleEnemy.pool = .foes ∧
      ∃ b, duel.run? [⟨{}, .play boast "hero" []⟩] = some b ∧ "hero" ∈ b.roster .player ∧
        (b.resolveTargets .singleEnemy "hero" []).1 = ["hero"] ∧
        "hero" ∉ b.roster Side.player.opponent := by
  have hrun : (duel.run? [⟨{}, .play boast "hero" []⟩]).map (fun b => (b.players, b.enemies,
      (b.resolveTargets .singleEnemy "hero" []).1)) = some (["hero"], ["slime"], ["hero"]) := by
    decide +kernel
  obtain ⟨b, hb, heq⟩ := Option.map_eq_some_iff.1 hrun
  simp only [Prod.mk.injEq] at heq
  obtain ⟨hplayers, henemies, hids⟩ := heq
  refine ⟨fresh_duel, rfl, b, hb, ?_, hids, ?_⟩
  · simp [roster, hplayers]
  · simp [roster, Side.opponent, henemies]

end Battle

end Skirmish
