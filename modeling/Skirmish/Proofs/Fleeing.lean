import Skirmish.Proofs.Nesting

/-!
# Flight stops everything

Whoever flees ends the battle in the middle of whatever is being resolved: of an effect that has
more targets, of a hook that has more effects, of a list of statuses whose hooks are still to run,
at any depth. All of it has to stop then. A `Fate` is what can come of a battle that goes on: a step
goes on with a battle that goes on as well, or it halts, and then the flight was the last thing that
happened.

No deed but a flight ends a battle (`isOver_of_event`), so what resolves without one has such a fate
where its hooks have (`ResolvesBy.fated`). A flight itself is the whole of its effect, which leaves
the effects of a hook, one of which may be a flight, and the hooks within hooks (`fated_runHook`).
-/

namespace Skirmish

/-! ## Flight -/

/-- The battle once an actor has fled. -/
def Battle.flee (b : Battle) (user : ActorId) : Battle :=
  (b.announce s!"{b.nameOf user} fled from battle!").finish .fled

namespace Battle

theorem supply_of_flee (b : Battle) (rules : Rules) {e : Effect} (hk : e.kind = .flee) (o : Origin)
    (user : ActorId) : b.supply rules e o user = (b.flee user, .halt) := by
  simp only [supply, hk, flee]

theorem log_flee (b : Battle) (user : ActorId) :
    (b.flee user).log = b.log ++ [s!"{b.nameOf user} fled from battle!"] := rfl

/-- Whoever flees while the battle goes on ends it by that. -/
theorem ended_flee {b : Battle} (hb : b.isOver = false) (user : ActorId) :
    (b.flee user).ended = some .fled := by
  have hended : b.ended = none := isOver_eq_false_iff.1 hb
  rw [flee, finish, announce, hended]
  rfl

end Battle

section

variable {rules : Rules} {content content' : Effect → Prop}

/-! ## What does not end a battle -/

/-- Whether an effect is anything but a flight. -/
def Effect.Stays (e : Effect) : Prop := e.kind ≠ .flee

theorem Event.mono (hc : ∀ e, content e → content' e) {b b' : Battle}
    (h : Event rules content b b') : Event rules content' b b' := by
  obtain ⟨d, hd, hb⟩ := h
  refine ⟨d, ?_, hb⟩
  cases d with
  | supply => exact ⟨hc _ hd.1, hd.2⟩
  | strike => exact ⟨hc _ hd.1, hd.2⟩
  | change => exact ⟨hc _ hd.1, hd.2⟩
  | afflict =>
    obtain ⟨hst, e, he, happlies⟩ := hd
    exact ⟨hst, e, hc e he, happlies⟩
  | _ => trivial

/-- **Nothing but a flight ends a battle.** -/
theorem isOver_of_event {b b' : Battle} (h : Event rules Effect.Stays b b') :
    b'.isOver = b.isOver := by
  have hended : b'.ended = b.ended := by
    refine h.changes.induction (P := fun c => c.ended = b.ended) (fun c c' hc hchange => ?_) rfl
    cases hchange with
    | fled e hne hk => exact absurd hk hne
    | _ => exact hc
  rw [Battle.isOver, hended, Battle.isOver]

/-! ## Fates -/

/-- What comes of a battle that goes on: it still goes on where a step does, and where the step
halts, someone has just fled. -/
inductive Fate (rules : Rules) (b : Battle) : Flow → Battle → Prop
  /-- The battle goes on. -/
  | onward {b' : Battle} (h : Course rules (fun _ => True) b b') (hb : b'.isOver = false) :
      Fate rules b .proceed b'
  /-- Someone flees, and nothing happens after that. -/
  | fled {c : Battle} (h : Course rules (fun _ => True) b c) (hc : c.isOver = false)
      (user : ActorId) : Fate rules b .halt (c.flee user)

theorem Fate.after {b c b' : Battle} {flow : Flow} (hc : Course rules (fun _ => True) b c)
    (h : Fate rules c flow b') : Fate rules b flow b' := by
  cases h with
  | onward h hb => exact .onward (hc.trans h) hb
  | fled h hopen user => exact .fled (hc.trans h) hopen user

/-- From a battle that goes on, a step only leads to such fates. -/
def Step.Fated (rules : Rules) (step : Step) : Prop :=
  ∀ s, s.battle.isOver = false → ∀ s' flow, step s = some (s', flow) →
    Fate rules s.battle flow s'.battle

/-- The second of two steps is only taken from a battle that goes on. -/
theorem fate_andThen {first second : Step} {s : Scene}
    (hfirst : ∀ s' flow, first s = some (s', flow) → Fate rules s.battle flow s'.battle)
    (hsecond : second.Fated rules) {s' : Scene} {flow : Flow}
    (h : (first.andThen second) s = some (s', flow)) : Fate rules s.battle flow s'.battle := by
  obtain ⟨hhalt, rfl⟩ | ⟨s₁, hproceed, hrest⟩ := andThen_eq_some h
  · exact hfirst _ _ hhalt
  · cases hfirst _ _ hproceed with
    | onward hcourse hopen => exact (hsecond s₁ hopen _ _ hrest).after hcourse

theorem fated_each {α : Type} {f : α → Step} (xs : List α) (hf : ∀ x, (f x).Fated rules) :
    (Step.each f xs).Fated rules := by
  induction xs with
  | nil =>
    intro s hs s' flow h
    cases h
    exact .onward .refl hs
  | cons x xs ih =>
    intro s hs s' flow h
    exact fate_andThen (hf x s hs) ih h

/-- What resolves without a flight of its own is fated where its hooks are. -/
theorem ResolvesBy.fated {run : HookRunner} (hrun : ∀ c, (run c).Fated rules) {s : Scene}
    {o : HookRunner → Outcome} (h : Resolves rules Effect.Stays s o)
    (hs : s.battle.isOver = false) :
    ∀ s' flow, o run = some (s', flow) → Fate rules s.battle flow s'.battle := by
  induction h with
  | stay s flow hflow =>
    intro s' flow' h
    cases h
    cases flow with
    | proceed => exact .onward .refl hs
    | halt => exact absurd (hflow rfl) (by rw [hs]; decide)
  | fail => exact nofun
  | hook s c => exact hrun c s hs
  | after hb _ ih =>
    intro s' flow h
    exact (ih ((isOver_of_event hb).trans hs) s' flow h).after
      (.single (hb.mono fun _ _ => trivial))
  | andThen _ _ ih₁ ih₂ =>
    intro s' flow h
    exact fate_andThen (ih₁ hs) (fun s₁ hs₁ => ih₂ s₁ hs₁) h

/-! ## Effects and hooks -/

variable {run : HookRunner}

theorem fated_applyEffect (hrun : ∀ c, (run c).Fated rules) (e : Effect) (o : Origin)
    (user : ActorId) (targets : List ActorId) :
    (applyEffect rules run e o user targets).Fated rules := by
  intro s hs s' flow h
  by_cases hk : e.kind = .flee
  · -- the flight is all that such an effect does
    have haims : e.kind.isTargetless = true := by rw [hk]; rfl
    have hsupply := s.battle.supply_of_flee rules hk o user
    have hnumbers : s.battle.HasNumbers rules e o user :=
      Battle.hasNumbers_of_spawned_eq (by rw [hsupply]; rfl)
    simp only [applyEffect, hs, haims, Bool.false_eq_true, if_false, if_true,
      Battle.supplied?_of_hasNumbers hnumbers, hsupply] at h
    cases h
    exact .fled .refl hs user
  · have hresolves : ResolvesBy rules Effect.Stays (Act rules Effect.Stays) s _ :=
      resolves_applyEffect hk o user targets s
    exact (hresolves.mono fun _ _ => Act.event).fated hrun hs s' flow h

theorem fated_playEffect (hrun : ∀ c, (run c).Fated rules) (o : Origin) (user : ActorId)
    (targets : List ActorId) (e : Effect) :
    (playEffect rules run o user targets e).Fated rules := by
  intro s hs s' flow h
  unfold playEffect at h
  split at h
  · exact fated_applyEffect hrun e o user targets s hs s' flow h
  · next selector _ =>
    have haim : Event rules Effect.Stays s.battle
        (s.battle.resolveTargets selector user []).2 := ⟨.aim selector user, trivial, rfl⟩
    have hopen := (isOver_of_event haim).trans hs
    exact (fated_applyEffect hrun e o user _ _ hopen s' flow h).after
      (.single (haim.mono fun _ _ => trivial))

/-- **Hooks are fated, at every depth.** -/
theorem fated_runHook (rules : Rules) (depth : Nat) (c : HookCall) :
    (runHook rules depth c).Fated rules := by
  induction depth generalizing c with
  | zero =>
    intro s hs s' flow h
    obtain ⟨-, rfl, rfl⟩ | ⟨d, -, hd, -⟩ := runHook_eq_some h
    · exact .onward .refl hs
    · cases hd
  | succ depth ih =>
    intro s hs s' flow h
    obtain ⟨-, rfl, rfl⟩ | ⟨d, s₁, hd, rfl, hplay⟩ := runHook_eq_some h
    · exact .onward .refl hs
    · cases hd
      exact fated_each _ (fated_playEffect ih _ _ _) (s.enter c) hs s₁ flow hplay

theorem fated_step (r : Resolution) (depth : Nat) :
    (r.step rules (runHook rules depth)).Fated rules := by
  have hrun := fated_runHook rules depth
  cases r with
  | effect e o user targets => exact fated_applyEffect hrun e o user targets
  | status id status turns =>
    intro s hs s' flow h
    have hstays : (Effect.applyStatus status turns).Stays := nofun
    have hresolves : ResolvesBy rules Effect.Stays (Act rules Effect.Stays) s _ :=
      resolves_applyStatus hstays rfl rfl id s
    exact (hresolves.mono fun _ _ => Act.event).fated hrun hs s' flow h
  | boundary id => exact fun s hs s' flow => (resolves_tick id s).fated hrun hs s' flow
  | hook c => exact hrun c
  | damage attacker victim =>
    exact fun s hs s' flow => (resolves_onDamage attacker victim s).fated hrun hs s' flow

end

namespace Battle

/-- **Flight stops everything.** What is resolved in a battle that goes on, whichever hooks are
running, halts exactly where it leaves the battle over. Then someone fled from a battle that the
resolution had led to, and nothing has happened since: the battle ended by that flight, and the last
line of the log tells of it. -/
theorem flight_stops_everything (rules : Rules) (r : Resolution) (depth : Nat) {s s' : Scene}
    {flow : Flow} (hs : s.battle.isOver = false)
    (h : r.step rules (runHook rules depth) s = some (s', flow)) :
    (flow = .halt ↔ s'.battle.isOver = true) ∧
      (s'.battle.isOver = true → s'.battle.ended = some .fled ∧
        ∃ b user, Course rules (fun _ => True) s.battle b ∧ b.isOver = false ∧
          s'.battle = b.flee user ∧
          s'.battle.log = b.log ++ [s!"{b.nameOf user} fled from battle!"]) := by
  obtain ⟨b', running⟩ := s'
  cases fated_step r depth s hs _ _ h with
  | onward hcourse hopen =>
    have hover : ¬ b'.isOver = true := by rw [hopen]; decide
    exact ⟨⟨nofun, fun hb => absurd hb hover⟩, fun hb => absurd hb hover⟩
  | @fled b hcourse hopen user =>
    have hended : (b.flee user).ended = some .fled := ended_flee hopen user
    have hover : (b.flee user).isOver = true := by rw [isOver, hended]; rfl
    exact ⟨⟨fun _ => hover, fun _ => rfl⟩, fun _ =>
      ⟨hended, b, user, hcourse, hopen, rfl, b.log_flee user⟩⟩

/-! ## Panic -/

/-- Whoever is struck in panic flees, and would then find an egg. -/
def panicRules : Rules where
  codex :=
    let panic : Status := { id := "panic", onTakeDamage := [.flee, .giveItem "egg" 1] }
    { statuses := Table.empty.insert "panic" panic }

/-- The duel, in which the slime is in panic. -/
def panickyDuel : Battle :=
  duel.modifyActor "slime" fun a => { a with afflictions := [⟨"panic", 3, 1⟩] }

/-- A swing at the slime and then at the hero himself gets no further than the slime, and no egg is
found. -/
theorem swing_ends_with_flight :
    ∃ b', (Resolution.effect (.trueDamage 1) {} "hero" ["slime", "hero"]).step panicRules
        (runHook panicRules 12) ⟨panickyDuel, []⟩ = some (⟨b', []⟩, .halt) ∧
      b'.ended = some .fled ∧
      b'.log = ["Turn 1", "Slime takes 1 damage.", "Slime fled from battle!"] := by
  have hstep : ((Resolution.effect (.trueDamage 1) {} "hero" ["slime", "hero"]).step panicRules
      (runHook panicRules 12) ⟨panickyDuel, []⟩).map (fun p => (p.1.battle.log, p.1.running, p.2)) =
        some (["Turn 1", "Slime takes 1 damage.", "Slime fled from battle!"], [], .halt) := by
    decide +kernel
  obtain ⟨⟨⟨b', running⟩, flow⟩, h, heq⟩ := Option.map_eq_some_iff.1 hstep
  simp only [Prod.mk.injEq] at heq
  obtain ⟨hlog, rfl, rfl⟩ := heq
  obtain ⟨hover, hfled⟩ := flight_stops_everything panicRules _ 12 (by decide +kernel) h
  exact ⟨b', h, (hfled (hover.1 rfl)).1, hlog⟩

end Battle

end Skirmish
