import Skirmish.Proofs.Frames
import Skirmish.Proofs.Statuses
import Skirmish.Proofs.Wounds

/-!
# How a damage effect draws

A damage effect goes through its targets with the rolls that it made so far. Each target that it
reaches gets a blow (`Blow`), and `Battle.Sweep` lists the blows of a run with the battle that each
of them found. Numbers are only drawn once they are needed: a blow that cannot miss makes no draw to
hit, one that misses none to be critical, and where the rolls are shared a later blow finds the
numbers of the earlier ones. `Rolls.Follows` ties the rolls that are kept to the blows before, and
so the draws of a blow are known from these (`Blow.draws`), whatever hooks draw in between.
-/

namespace Skirmish

/-! ## Single rolls -/

namespace Rolls

/-- Rolls of which numbers are only kept where they are shared. -/
def Sound (r : Rolls) : Prop := r.isShared = false → r.hit = none ∧ r.crit = none

/-- A number is drawn where none is kept, and kept where it is shared. -/
theorem number_eq {shared : Bool} {kept : Option Float} (h : shared = false → kept = none)
    (seed : Seed) : number shared kept seed =
      (kept.getD seed.draw.1, if shared then some (kept.getD seed.draw.1) else kept,
        seed.advance (if kept = none then 1 else 0)) := by
  cases shared with
  | false =>
    obtain rfl := h rfl
    rfl
  | true => cases kept <;> rfl

theorem rollHit_eq {r : Rolls} (h : r.Sound) (chance : Float) (seed : Seed) :
    r.rollHit chance seed = (decide (r.hit.getD seed.draw.1 < chance),
      { r with hit := if r.isShared then some (r.hit.getD seed.draw.1) else r.hit },
      seed.advance (if r.hit = none then 1 else 0)) := by
  rw [rollHit, number_eq fun hs => (h hs).1]

theorem rollCrit_eq {r : Rolls} (h : r.Sound) (chance : Float) (seed : Seed) :
    r.rollCrit chance seed = (decide (r.crit.getD seed.draw.1 < chance),
      { r with crit := if r.isShared then some (r.crit.getD seed.draw.1) else r.crit },
      seed.advance (if r.crit = none then 1 else 0)) := by
  rw [rollCrit, number_eq fun hs => (h hs).2]

/-- What a roll to hit keeps is sound. -/
theorem Sound.withHit {r : Rolls} (h : r.Sound) (x : Float) :
    Sound { r with hit := if r.isShared then some x else r.hit } := by
  intro hs
  change r.isShared = false at hs
  exact ⟨by simp [hs, (h hs).1], (h hs).2⟩

end Rolls

/-- What a strike makes of the rolls and of the seed that it finds. -/
structure Rolled (rules : Rules) (e : Effect) (u t : Actor) (rolls : Rolls) (seed : Seed)
    (hit critical : Bool) (after : Rolls) (seed' : Seed) : Prop where
  hit_iff : hit = true ↔ e.canMiss = false ∨ rolls.hit.getD seed.draw.1 <
    rules.balance.hitChance (rules.codex.effective u) (rules.codex.effective t)
  critical_iff : critical = true ↔ hit = true ∧ e.canCrit = true ∧
    rolls.crit.getD (seed.advance (if e.canMiss = true ∧ rolls.hit = none then 1 else 0)).draw.1 <
      rules.balance.critChance (rules.codex.effective u) (rules.codex.effective t)
  isShared : after.isShared = rolls.isShared
  hit_kept : after.hit = if e.canMiss = true ∧ rolls.isShared = true then
    some (rolls.hit.getD seed.draw.1) else rolls.hit
  crit_kept : after.crit = if e.canCrit = true ∧ hit = true ∧ rolls.isShared = true then
    some (rolls.crit.getD
      (seed.advance (if e.canMiss = true ∧ rolls.hit = none then 1 else 0)).draw.1) else rolls.crit
  seed_eq : seed' = seed.advance ((if e.canMiss = true ∧ rolls.hit = none then 1 else 0) +
    if e.canCrit = true ∧ hit = true ∧ rolls.crit = none then 1 else 0)

theorem rolled_of_rollStrike {rules : Rules} {e : Effect} {u t : Actor} {rolls after : Rolls}
    {seed seed' : Seed} {hit critical : Bool} (hrolls : rolls.Sound)
    (h : rollStrike rules e u t rolls seed = (hit, critical, after, seed')) :
    Rolled rules e u t rolls seed hit critical after seed' := by
  unfold rollStrike at h
  dsimp only at h
  by_cases hmiss : e.canMiss = true
  · rw [if_pos hmiss, Rolls.rollHit_eq hrolls] at h
    dsimp only at h
    split at h
    · next hhit =>
      by_cases hcrit : e.canCrit = true
      · rw [if_pos hcrit, Rolls.rollCrit_eq (hrolls.withHit _)] at h
        cases h
        constructor <;> simp_all [Seed.advance_advance]
      · rw [if_neg hcrit] at h
        cases h
        constructor <;> simp_all
    · next hmissed =>
      cases h
      constructor <;> simp_all
  · rw [if_neg hmiss] at h
    dsimp only [if_true] at h
    by_cases hcrit : e.canCrit = true
    · rw [if_pos hcrit, Rolls.rollCrit_eq hrolls] at h
      cases h
      constructor <;> simp_all [Seed.advance]
    · rw [if_neg hcrit] at h
      cases h
      constructor <;> simp_all [Seed.advance]

/-! ## Blows -/

/-- A blow at a target that a damage effect reaches. -/
structure Blow where
  /-- The battle that the blow finds. -/
  battle : Battle
  target : ActorId
  attacker : Actor
  defender : Actor
  hit : Bool
  critical : Bool
  /-- The seed after the draws of the blow. -/
  seed : Seed

namespace Blow

/-- How likely a blow hits. -/
def hitChance (w : Blow) (rules : Rules) : Float :=
  rules.balance.hitChance (rules.codex.effective w.attacker) (rules.codex.effective w.defender)

/-- How likely a blow that hits is critical. -/
def critChance (w : Blow) (rules : Rules) : Float :=
  rules.balance.critChance (rules.codex.effective w.attacker) (rules.codex.effective w.defender)

/-- Two numbers decide over a blow: it hits where it cannot miss or the first one is below its own
chance to hit, and it is critical if it hits, can be critical and the second one is below its own
chance for that. -/
structure Decided (rules : Rules) (e : Effect) (h c : Float) (w : Blow) : Prop where
  hit : w.hit = true ↔ e.canMiss = false ∨ h < w.hitChance rules
  critical : w.critical = true ↔ w.hit = true ∧ e.canCrit = true ∧ c < w.critChance rules

/-- How often a blow draws, given the blows before it: once to hit if it can miss, and once to be
critical if it hits and can be; where rolls are shared, only if no blow before drew for the same. -/
def draws (e : Effect) (before : List Blow) (w : Blow) : Nat :=
  (if e.canMiss = true ∧ (e.sharedRoll = true → before = []) then 1 else 0) +
    if e.canCrit = true ∧ w.hit = true ∧
      (e.sharedRoll = true → ∀ v ∈ before, v.hit = false) then 1 else 0

end Blow

/-- How often the blows of an effect draw. -/
def drawsOf (e : Effect) (ws : List Blow) : Nat :=
  if e.sharedRoll then
    (if e.canMiss = true ∧ ws ≠ [] then 1 else 0) +
      if e.canCrit = true ∧ ∃ w ∈ ws, w.hit = true then 1 else 0
  else
    (if e.canMiss then ws.length else 0) + if e.canCrit then ws.countP (·.hit) else 0

/-- One blow more adds what it draws. -/
theorem drawsOf_append (e : Effect) (before : List Blow) (w : Blow) :
    drawsOf e (before ++ [w]) = drawsOf e before + w.draws e before := by
  unfold drawsOf Blow.draws
  cases e.sharedRoll with
  | false =>
    cases e.canMiss <;> cases e.canCrit <;> cases hw : w.hit <;> simp [hw] <;> omega
  | true =>
    have hnone : (∀ v ∈ before, v.hit = false) ↔ ¬ ∃ v ∈ before, v.hit = true := by simp
    have hsome : (∃ v ∈ before ++ [w], v.hit = true) ↔
        (∃ v ∈ before, v.hit = true) ∨ w.hit = true := by
      simp [or_and_right, exists_or]
    simp only [if_true, forall_const, hnone, hsome]
    by_cases hlanded : ∃ v ∈ before, v.hit = true <;> by_cases hfirst : before = [] <;>
      cases e.canMiss <;> cases e.canCrit <;> cases w.hit <;> simp [hlanded, hfirst]

/-! ## The blows of a run -/

namespace Battle

/-- The battle after a blow that misses. -/
def evaded (b : Battle) (u t : Actor) (seed : Seed) : Battle :=
  { b with seed := seed }.announce s!"{u.name}'s attack missed {t.name}."

/-- The battle after a blow that lands, before it is answered. -/
def stricken (b : Battle) (rules : Rules) (e : Effect) (o : Origin) (id : ActorId) (u t : Actor)
    (critical : Bool) (seed : Seed) : Battle :=
  { b with seed := seed }.wound id (e.element.or o.element) critical
    (strikeDamage rules e o u t critical)

end Battle

section

variable (rules : Rules) (run : HookRunner) (e : Effect) (o : Origin) (user : ActorId)

/-- The blows of a damage effect along its targets, from the rolls and the scene at its start to the
scene at its end. A target that is not reached is passed over. A blow that misses is told of; one
that lands wounds its target and is answered by the hooks of both, and where these halt, so does the
effect. -/
inductive Sweep : List ActorId → Rolls → Scene → List Blow → Scene → Flow → Prop
  | done {rolls : Rolls} {s : Scene} : Sweep [] rolls s [] s .proceed
  | passed {id : ActorId} {ids : List ActorId} {rolls : Rolls} {s s' : Scene} {ws : List Blow}
      {flow : Flow} (hreached : s.battle.isReached e id = false)
      (hrest : Sweep ids rolls s ws s' flow) : Sweep (id :: ids) rolls s ws s' flow
  | missed {id : ActorId} {ids : List ActorId} {rolls after : Rolls} {s s' : Scene} {u t : Actor}
      {critical : Bool} {seed : Seed} {ws : List Blow} {flow : Flow}
      (hreached : s.battle.isReached e id = true)
      (hchance : rules.balance.hasHitChance = true)
      (hu : s.battle.actor? user = some u) (ht : s.battle.actor? id = some t)
      (hroll : rollStrike rules e u t rolls s.battle.seed = (false, critical, after, seed))
      (hrest : Sweep ids after
        { s with battle := s.battle.evaded u t seed } ws s' flow) :
      Sweep (id :: ids) rolls s (⟨s.battle, id, u, t, false, critical, seed⟩ :: ws) s' flow
  | landed {id : ActorId} {ids : List ActorId} {rolls after : Rolls} {s s₁ s' : Scene} {u t : Actor}
      {critical : Bool} {seed : Seed} {ws : List Blow} {flow : Flow}
      (hreached : s.battle.isReached e id = true)
      (hchance : rules.balance.hasHitChance = true)
      (hu : s.battle.actor? user = some u) (ht : s.battle.actor? id = some t)
      (hroll : rollStrike rules e u t rolls s.battle.seed = (true, critical, after, seed))
      (hanswered : onDamage run user id
        { s with battle := s.battle.stricken rules e o id u t critical seed } = some (s₁, .proceed))
      (hrest : Sweep ids after s₁ ws s' flow) :
      Sweep (id :: ids) rolls s (⟨s.battle, id, u, t, true, critical, seed⟩ :: ws) s' flow
  | halted {id : ActorId} {ids : List ActorId} {rolls after : Rolls} {s s' : Scene} {u t : Actor}
      {critical : Bool} {seed : Seed} (hreached : s.battle.isReached e id = true)
      (hchance : rules.balance.hasHitChance = true)
      (hu : s.battle.actor? user = some u) (ht : s.battle.actor? id = some t)
      (hroll : rollStrike rules e u t rolls s.battle.seed = (true, critical, after, seed))
      (hanswered : onDamage run user id
        { s with battle := s.battle.stricken rules e o id u t critical seed } = some (s', .halt)) :
      Sweep (id :: ids) rolls s [⟨s.battle, id, u, t, true, critical, seed⟩] s' .halt

variable {rules run e o user}

/-- A target that is reached is struck, and the effect goes on behind what answers the strike. -/
theorem applyToEach_of_reached {id : ActorId} {s : Scene} (hk : e.kind = .damage)
    (hreached : s.battle.isReached e id = true) (hchance : rules.balance.hasHitChance = true)
    {rolls after : Rolls} {landed : Bool} {b : Battle}
    (hstrike : s.battle.strike rules e o user id rolls = (b, after, landed)) (ids : List ActorId) :
    applyToEach rules run e o user (id :: ids) rolls s =
      ((if landed then onDamage run user id else Step.done).andThen
        (applyToEach rules run e o user ids after)) { s with battle := b } := by
  simp only [applyToEach, if_pos hreached, hk, Battle.struck?_of_hasHitChance hchance, hstrike]

/-- Without a chance to hit nothing comes of a target that is reached. -/
theorem applyToEach_eq_none {id : ActorId} {s : Scene} (hk : e.kind = .damage)
    (hreached : s.battle.isReached e id = true) (hchance : rules.balance.hasHitChance = false)
    (huser : s.battle.actor? user ≠ none) (rolls : Rolls) (ids : List ActorId) :
    applyToEach rules run e o user (id :: ids) rolls s = none := by
  have hin : s.battle.actors.contains user = true :=
    Table.contains_iff.2 (Option.ne_none_iff_exists'.1 huser)
  simp only [applyToEach, if_pos hreached, hk, Battle.struck?_eq_none hchance hin]

theorem strike_of_missed {b : Battle} {id : ActorId} {u t : Actor} {rolls after : Rolls}
    {critical : Bool} {seed : Seed} (hu : b.actor? user = some u) (ht : b.actor? id = some t)
    (hroll : rollStrike rules e u t rolls b.seed = (false, critical, after, seed)) :
    b.strike rules e o user id rolls = (b.evaded u t seed, after, false) := by
  unfold rollStrike at hroll
  unfold Battle.strike
  simp only [hu, ht]
  dsimp only at hroll
  generalize (if e.canMiss = true then _ else _ : Bool × Rolls × Seed) = first at hroll ⊢
  obtain ⟨hit, rolls', seed'⟩ := first
  cases hit with
  | false =>
    cases hroll
    rfl
  | true => cases hroll

theorem Step.andThen_of_halt {first : Step} {s s' : Scene} (h : first s = some (s', .halt))
    (second : Step) : (first.andThen second) s = some (s', .halt) := by
  rw [Step.andThen, h]

/-- The blows of a run are those that the effect strikes. -/
theorem Sweep.applies {ids : List ActorId} {rolls : Rolls} {s s' : Scene} {ws : List Blow}
    {flow : Flow} (hk : e.kind = .damage) (h : Sweep rules run e o user ids rolls s ws s' flow) :
    applyToEach rules run e o user ids rolls s = some (s', flow) := by
  induction h with
  | done => rfl
  | passed hreached _ ih => simpa [applyToEach, hreached] using ih
  | missed hreached hchance hu ht hroll _ ih =>
    rw [applyToEach_of_reached hk hreached hchance (strike_of_missed hu ht hroll)]
    exact (Step.andThen_of_proceed rfl _).trans ih
  | landed hreached hchance hu ht hroll hanswered _ ih =>
    rw [applyToEach_of_reached hk hreached hchance (Battle.strike_of_rolled hu ht hroll o),
      if_pos rfl]
    exact (Step.andThen_of_proceed hanswered _).trans ih
  | halted hreached hchance hu ht hroll hanswered =>
    rw [applyToEach_of_reached hk hreached hchance (Battle.strike_of_rolled hu ht hroll o),
      if_pos rfl]
    exact Step.andThen_of_halt hanswered _

/-- An actor that is in one battle is in the other one. -/
def Battle.Keeps (x : ActorId) (b b' : Battle) : Prop := b.actor? x ≠ none → b'.actor? x ≠ none

theorem Battle.keeps_stricken (b : Battle) (rules : Rules) (e : Effect) (o : Origin)
    (id : ActorId) (u t : Actor) (critical : Bool) (seed : Seed) (x : ActorId) :
    Keeps x b (b.stricken rules e o id u t critical seed) := by
  have hwounded : Untouched rules (fun _ => True) { b with seed := seed }
      (b.stricken rules e o id u t critical seed) :=
    untouched_wound ..
  exact fun hx hnone => hx (hwounded.stayed x hnone)

theorem keeps_of_leads {s s' : Scene} {x : ActorId} (h : s.LeadsBy (Battle.Keeps x) s') :
    Battle.Keeps x s.battle s'.battle := by
  have hcourse := h.course
  generalize s'.battle = b' at hcourse ⊢
  induction hcourse with
  | refl => exact id
  | tail _ hstep ih => exact fun hx => hstep (ih hx)

theorem keeps_runHook (rules : Rules) (depth : Nat) (c : HookCall) (x : ActorId) :
    (runHook rules depth c).FollowsBy (Battle.Keeps x) := by
  intro s s' flow h
  have hall : rules.codex.HooksWithin fun _ => True := fun _ _ _ _ _ _ => trivial
  have hleads := follows_runHook hall depth c s s' flow h
  refine ⟨hleads.running, .single fun hx => ?_⟩
  obtain ⟨a, ha⟩ := Option.ne_none_iff_exists'.1 hx
  obtain ⟨a', ha'⟩ := Table.contains_iff.1 <|
    (Scene.Leads.grows hleads).contains x (Table.contains_iff.2 ⟨a, ha⟩)
  exact fun hnone => nomatch ha'.symm.trans hnone

/-- A damage effect that comes to an end does so by blows, as long as its user is there. -/
theorem exists_sweep (hk : e.kind = .damage)
    (hrun : ∀ c, (run c).FollowsBy (Battle.Keeps user)) {ids : List ActorId} {rolls : Rolls}
    {s s' : Scene} {flow : Flow} (huser : s.battle.actor? user ≠ none)
    (h : applyToEach rules run e o user ids rolls s = some (s', flow)) :
    ∃ ws, Sweep rules run e o user ids rolls s ws s' flow := by
  induction ids generalizing rolls s with
  | nil =>
    cases h
    exact ⟨[], .done⟩
  | cons id ids ih =>
    cases hreached : s.battle.isReached e id with
    | false =>
      simp only [applyToEach, hreached, Bool.false_eq_true, if_false] at h
      obtain ⟨ws, hws⟩ := ih huser h
      exact ⟨ws, .passed hreached hws⟩
    | true =>
      obtain ⟨u, hu⟩ := Option.ne_none_iff_exists'.1 huser
      obtain ⟨t, ht⟩ : ∃ t, s.battle.actor? id = some t := by
        cases ht : s.battle.actor? id with
        | none => simp [Battle.isReached, ht] at hreached
        | some t => exact ⟨t, rfl⟩
      have hchance : rules.balance.hasHitChance = true := by
        by_contra hnone
        rw [applyToEach_eq_none hk hreached (Bool.eq_false_iff.2 hnone) huser] at h
        cases h
      rcases hroll : rollStrike rules e u t rolls s.battle.seed with ⟨hit, critical, after, seed⟩
      cases hit with
      | false =>
        rw [applyToEach_of_reached hk hreached hchance (strike_of_missed hu ht hroll)] at h
        obtain ⟨hhalt, -⟩ | ⟨s₁, hproceed, hrest⟩ := andThen_eq_some h
        · cases hhalt
        · cases hproceed
          obtain ⟨ws, hws⟩ := ih (s := { s with battle := s.battle.evaded u t seed }) huser hrest
          exact ⟨_, .missed hreached hchance hu ht hroll hws⟩
      | true =>
        rw [applyToEach_of_reached hk hreached hchance (Battle.strike_of_rolled hu ht hroll o),
          if_pos rfl] at h
        obtain ⟨hhalt, rfl⟩ | ⟨s₁, hproceed, hrest⟩ := andThen_eq_some h
        · exact ⟨_, .halted hreached hchance hu ht hroll hhalt⟩
        · have hanswers (s : Scene) : ResolvesBy rules (fun _ => True) (Battle.Keeps user) s
              fun run => onDamage run user id s := resolves_onDamage user id s
          have hstays : s₁.battle.actor? user ≠ none :=
            keeps_of_leads ((hanswers _).leads hrun _ _ hproceed)
              (s.battle.keeps_stricken rules e o id u t critical seed user huser)
          obtain ⟨ws, hws⟩ := ih hstays hrest
          exact ⟨_, .landed hreached hchance hu ht hroll hproceed hws⟩

end

/-! ## Draws along the blows -/

/-- Each blow rolls with what the blows before it leave of the rolls. -/
inductive RollsAlong (rules : Rules) (e : Effect) : Rolls → List Blow → Prop
  | nil {rolls : Rolls} : RollsAlong rules e rolls []
  | cons {rolls after : Rolls} {w : Blow} {ws : List Blow}
      (hroll : rollStrike rules e w.attacker w.defender rolls w.battle.seed =
        (w.hit, w.critical, after, w.seed))
      (hrest : RollsAlong rules e after ws) : RollsAlong rules e rolls (w :: ws)

/-- The numbers that are kept once some blows have been struck: none where rolls are not shared,
else one to hit after any blow that can miss, and one to be critical after any hit that can be. -/
structure Rolls.Follows (e : Effect) (before : List Blow) (r : Rolls) : Prop where
  isShared : r.isShared = e.sharedRoll
  hit : r.hit = none ↔ (e.sharedRoll = true → e.canMiss = true → before = [])
  crit : r.crit = none ↔
    (e.sharedRoll = true → e.canCrit = true → ∀ v ∈ before, v.hit = false)

section

variable {rules : Rules} {e : Effect} {rolls after : Rolls} {before ws : List Blow} {w : Blow}

theorem Rolls.follows_start (e : Effect) : Rolls.Follows e [] ⟨e.sharedRoll, none, none⟩ :=
  ⟨rfl, by simp, by simp⟩

theorem Rolls.Follows.sound (h : rolls.Follows e before) : rolls.Sound := by
  intro hs
  have hseparate : e.sharedRoll = false := h.isShared ▸ hs
  exact ⟨h.hit.2 (by simp [hseparate]), h.crit.2 (by simp [hseparate])⟩

/-- A blow draws what is owed by the blows before it, and leaves the rolls to those behind it. -/
theorem Rolls.Follows.step (h : rolls.Follows e before)
    (hroll : rollStrike rules e w.attacker w.defender rolls w.battle.seed =
      (w.hit, w.critical, after, w.seed)) :
    after.Follows e (before ++ [w]) ∧ w.seed = w.battle.seed.advance (w.draws e before) := by
  have hrolled := rolled_of_rollStrike h.sound hroll
  refine ⟨⟨hrolled.isShared.trans h.isShared, ?_, ?_⟩, ?_⟩
  · rw [hrolled.hit_kept, h.isShared]
    cases hshared : e.sharedRoll <;> cases hmiss : e.canMiss <;> simp [h.hit, hshared, hmiss]
  · rw [hrolled.crit_kept, h.isShared]
    cases hshared : e.sharedRoll <;> cases hcrit : e.canCrit <;> cases hhit : w.hit <;>
      simp [h.crit, hshared, hcrit, hhit, or_imp, forall_and]
  · rw [hrolled.seed_eq, Blow.draws]
    cases hshared : e.sharedRoll <;> cases hmiss : e.canMiss <;> cases hcrit : e.canCrit <;>
      simp [h.hit, h.crit, hshared, hmiss, hcrit]

theorem RollsAlong.draws (h : RollsAlong rules e rolls ws) (hrolls : rolls.Follows e before) :
    ∀ between w after, ws = between ++ w :: after →
      w.seed = w.battle.seed.advance (w.draws e (before ++ between)) := by
  induction h generalizing before with
  | nil => exact fun between w after hws => by simp at hws
  | cons hroll _ ih =>
    intro between w after hws
    obtain ⟨hfollows, hseed⟩ := hrolls.step hroll
    cases between with
    | nil =>
      obtain ⟨rfl, rfl⟩ := List.cons.inj hws
      rw [List.append_nil]
      exact hseed
    | cons v between =>
      obtain ⟨rfl, rfl⟩ := List.cons.inj hws
      simpa using ih hfollows between w after rfl

/-- Where rolls are shared, the numbers that a blow leaves decided over it, and any that were there
before are among them. -/
theorem Rolled.decided {x y : Float} (hshared : rolls.isShared = true)
    (h : Rolled rules e w.attacker w.defender rolls w.battle.seed w.hit w.critical after w.seed)
    (hx : ∀ v ∈ after.hit, v = x) (hy : ∀ v ∈ after.crit, v = y) :
    (∀ v ∈ rolls.hit, v = x) ∧ (∀ v ∈ rolls.crit, v = y) ∧ w.Decided rules e x y := by
  rw [h.hit_kept, hshared] at hx
  rw [h.crit_kept, hshared] at hy
  refine ⟨fun v hv => ?_, fun v hv => ?_, ?_, ?_⟩
  · rw [Option.mem_def] at hv
    cases hmiss : e.canMiss <;> simp [hmiss, hv] at hx <;> exact hx
  · rw [Option.mem_def] at hv
    cases hcan : e.canCrit <;> cases hhit : w.hit <;> simp [hcan, hhit, hv] at hy <;> exact hy
  · rw [h.hit_iff]
    cases hmiss : e.canMiss with
    | false => simp
    | true =>
      have hdrawn : rolls.hit.getD w.battle.seed.draw.1 = x := by simpa [hmiss] using hx
      simp [hdrawn, Blow.hitChance]
  · rw [h.critical_iff]
    refine and_congr_right fun hhit => and_congr_right fun hcan => ?_
    simp only [hcan, hhit, and_self, if_true, Option.mem_def, Option.some.injEq,
      forall_eq'] at hy
    rw [hy]
    rfl

/-- **Where rolls are shared, two numbers decide over all blows**: those that are kept, where some
are. -/
theorem RollsAlong.shared (h : RollsAlong rules e rolls ws) (hshared : rolls.isShared = true) :
    ∃ x y, (∀ v ∈ rolls.hit, v = x) ∧ (∀ v ∈ rolls.crit, v = y) ∧
      ∀ w ∈ ws, w.Decided rules e x y := by
  induction h with
  | @nil rolls =>
    exact ⟨rolls.hit.getD 0, rolls.crit.getD 0, fun v hv => by simp [Option.mem_def.1 hv],
      fun v hv => by simp [Option.mem_def.1 hv], fun w hw => by cases hw⟩
  | cons hroll _ ih =>
    have hrolled := rolled_of_rollStrike (fun hs => by simp [hshared] at hs) hroll
    obtain ⟨x, y, hx, hy, hrest⟩ := ih (hrolled.isShared.trans hshared)
    obtain ⟨hhit, hcrit, hdecided⟩ := hrolled.decided hshared hx hy
    exact ⟨x, y, hhit, hcrit, List.forall_mem_cons.2 ⟨hdecided, hrest⟩⟩

/-- Where they are not, each blow is decided by its own draws. -/
theorem RollsAlong.separate (h : RollsAlong rules e rolls ws) (hrolls : rolls.Follows e before)
    (hseparate : e.sharedRoll = false) : ∀ w ∈ ws, w.Decided rules e w.battle.seed.draw.1
      (w.battle.seed.advance (if e.canMiss then 1 else 0)).draw.1 := by
  induction h generalizing before with
  | nil => exact fun w hw => by cases hw
  | @cons rolls after w ws hroll _ ih =>
    have hrolled := rolled_of_rollStrike hrolls.sound hroll
    have hhit : rolls.hit = none := hrolls.hit.2 (by simp [hseparate])
    have hcrit : rolls.crit = none := hrolls.crit.2 (by simp [hseparate])
    refine List.forall_mem_cons.2 ⟨⟨?_, ?_⟩, ih (hrolls.step hroll).1⟩
    · simpa [hhit, Blow.hitChance] using hrolled.hit_iff
    · simpa [hhit, hcrit, Blow.critChance] using hrolled.critical_iff

end

section

variable {rules : Rules} {run : HookRunner} {e : Effect} {o : Origin} {user : ActorId}

theorem Sweep.rollsAlong {ids : List ActorId} {rolls : Rolls} {s s' : Scene} {ws : List Blow}
    {flow : Flow} (h : Sweep rules run e o user ids rolls s ws s' flow) :
    RollsAlong rules e rolls ws := by
  induction h with
  | done => exact .nil
  | passed _ _ ih => exact ih
  | missed _ _ _ _ hroll _ ih | landed _ _ _ _ hroll _ _ ih => exact .cons hroll ih
  | halted _ _ _ _ hroll => exact .cons hroll .nil

/-! ## Where no hook answers -/

/-- Each blow finds the seed that the one before it left. -/
def Linked : Seed → List Blow → Seed → Prop
  | seed, [], last => last = seed
  | seed, w :: ws, last => w.battle.seed = seed ∧ Linked w.seed ws last

/-- The draws of linked blows are all that moves the seed on. -/
theorem Linked.seed (before : List Blow) {start seed last : Seed} {ws : List Blow}
    (h : Linked seed ws last)
    (hdraws : ∀ between w after, ws = between ++ w :: after →
      w.seed = w.battle.seed.advance (w.draws e (before ++ between)))
    (hseed : seed = start.advance (drawsOf e before)) :
    last = start.advance (drawsOf e (before ++ ws)) ∧
      ∀ between w after, ws = between ++ w :: after →
        w.battle.seed = start.advance (drawsOf e (before ++ between)) := by
  induction ws generalizing before seed with
  | nil =>
    obtain rfl : last = seed := h
    exact ⟨by simpa using hseed, fun between w after hws => by simp at hws⟩
  | cons w ws ih =>
    obtain ⟨hfound, hrest⟩ := h
    have hleft : w.seed = start.advance (drawsOf e (before ++ [w])) := by
      rw [hdraws [] w ws rfl, hfound, hseed, List.append_nil, Seed.advance_advance, drawsOf_append]
    have hbehind : ∀ between v after, ws = between ++ v :: after →
        v.seed = v.battle.seed.advance (v.draws e (before ++ [w] ++ between)) := by
      rintro between v after rfl
      simpa using hdraws (w :: between) v after rfl
    obtain ⟨hlast, hbetween⟩ := ih (before ++ [w]) hrest hbehind hleft
    refine ⟨by simpa using hlast, fun between v after hws => ?_⟩
    cases between with
    | nil =>
      obtain ⟨rfl, rfl⟩ := List.cons.inj hws
      rw [List.append_nil, hfound, hseed]
    | cons w' between =>
      obtain ⟨rfl, rfl⟩ := List.cons.inj hws
      simpa using hbetween between v after rfl

namespace Battle

theorem seed_stricken (b : Battle) (rules : Rules) (e : Effect) (o : Origin) (id : ActorId)
    (u t : Actor) (critical : Bool) (seed : Seed) :
    (b.stricken rules e o id u t critical seed).seed = seed := by
  obtain ⟨actors, log, heq⟩ := wound_eq { b with seed := seed } id (e.element.or o.element) critical
    (strikeDamage rules e o u t critical)
  rw [stricken, heq]
  rfl

theorem afflictionsOf_faintIfDown (b : Battle) (id q : ActorId) :
    (b.faintIfDown id).afflictionsOf q = b.afflictionsOf q := by
  obtain ⟨lines, heq⟩ := b.faintIfDown_eq id
  rw [heq]
  exact afflictionsOf_of_kept afflictions_collapse q

theorem afflictionsOf_wound (b : Battle) (id : ActorId) (element : Option String)
    (critical : Bool) (amount : Int) (q : ActorId) :
    (b.wound id element critical amount).afflictionsOf q = b.afflictionsOf q := by
  have hsway : ∀ b' : Battle, b'.actors = b.actors → ∀ delta,
      (b'.addResource id .hp delta).afflictionsOf q = b.afflictionsOf q := by
    intro b' hb delta
    have hkept : ∀ a : Actor,
        ({ a with stats := a.stats.add .hp delta } : Actor).afflictions = a.afflictions :=
      fun _ => rfl
    rw [addResource, afflictionsOf_of_kept hkept, afflictionsOf_congr hb]
  unfold wound
  dsimp only
  rw [afflictionsOf_faintIfDown]
  split
  · split <;> exact (afflictionsOf_congr (actors_announce _ _) q).trans (hsway _ rfl _)
  · split <;> rfl

end Battle

/-- A damage effect that no hook answers goes through all its targets, by blows of which each finds
the seed that the one before it left. -/
theorem exists_sweep_of_unanswering (hchance : rules.balance.hasHitChance = true) (depth : Nat)
    (running : List Frame) {ids : List ActorId} {rolls : Rolls} {b : Battle}
    (huser : b.actor? user ≠ none) (hattacker : b.Unanswering rules.codex user .onDealDamage)
    (hvictims : ∀ id ∈ ids, b.Unanswering rules.codex id .onTakeDamage) :
    ∃ b' ws, Sweep rules (runHook rules depth) e o user ids rolls ⟨b, running⟩ ws ⟨b', running⟩
        .proceed ∧ Linked b.seed ws b'.seed := by
  induction ids generalizing rolls b with
  | nil => exact ⟨b, [], .done, rfl⟩
  | cons id ids ih =>
    obtain ⟨hvictim, hothers⟩ := List.forall_mem_cons.1 hvictims
    cases hreached : b.isReached e id with
    | false =>
      obtain ⟨b', ws, hws, hlinked⟩ := ih huser hattacker hothers
      exact ⟨b', ws, .passed hreached hws, hlinked⟩
    | true =>
      obtain ⟨u, hu⟩ := Option.ne_none_iff_exists'.1 huser
      obtain ⟨t, ht⟩ : ∃ t, b.actor? id = some t := by
        cases ht : b.actor? id with
        | none => simp [Battle.isReached, ht] at hreached
        | some t => exact ⟨t, rfl⟩
      rcases hroll : rollStrike rules e u t rolls b.seed with ⟨hit, critical, after, seed⟩
      cases hit with
      | false =>
        obtain ⟨b', ws, hws, hlinked⟩ := ih (b := b.evaded u t seed) huser hattacker hothers
        exact ⟨b', _, .missed hreached hchance hu ht hroll hws, rfl, hlinked⟩
      | true =>
        let c := b.stricken rules e o id u t critical seed
        have hheld : ∀ q hook, b.Unanswering rules.codex q hook →
            c.Unanswering rules.codex q hook := by
          intro q hook hquiet
          unfold Battle.Unanswering
          rwa [show c.afflictionsOf q = b.afflictionsOf q from Battle.afflictionsOf_wound ..]
        obtain ⟨b', ws, hws, hlinked⟩ := ih (b := c)
          (b.keeps_stricken rules e o id u t critical seed user huser)
          (hheld _ _ hattacker) (fun q hq => hheld _ _ (hothers q hq))
        have hquiet : onDamage (runHook rules depth) user id ⟨c, running⟩ =
            some (⟨c, running⟩, .proceed) :=
          onDamage_of_unanswering (s := ⟨c, running⟩) (hheld user .onDealDamage hattacker)
            (hheld id .onTakeDamage hvictim) depth
        rw [show c.seed = seed from b.seed_stricken ..] at hlinked
        exact ⟨b', _, .landed hreached hchance hu ht hroll hquiet hws, rfl, hlinked⟩

/-- Without a chance to hit, a damage effect reaches no one, or nothing comes of it. -/
theorem sweep_of_no_chance (hk : e.kind = .damage) (hchance : rules.balance.hasHitChance = false)
    {s : Scene} (huser : s.battle.actor? user ≠ none) (ids : List ActorId) (rolls : Rolls) :
    Sweep rules run e o user ids rolls s [] s .proceed ∨
      applyToEach rules run e o user ids rolls s = none := by
  induction ids with
  | nil => exact .inl .done
  | cons id ids ih =>
    cases hreached : s.battle.isReached e id with
    | true => exact .inr (applyToEach_eq_none hk hreached hchance huser rolls ids)
    | false =>
      refine ih.imp (.passed hreached) fun hnone => ?_
      simpa only [applyToEach, hreached, Bool.false_eq_true, if_false] using hnone

/-! ## The draws of an effect -/

/-- The draws of blows are as the effect says: each blow draws what is owed by those before it,
shared numbers decide over all of them, and otherwise its own draws decide over each. -/
structure Fair (rules : Rules) (e : Effect) (ws : List Blow) : Prop where
  draws : ∀ before w after, ws = before ++ w :: after →
    w.seed = w.battle.seed.advance (w.draws e before)
  shared : e.sharedRoll = true → ∃ h c, ∀ w ∈ ws, w.Decided rules e h c
  separate : e.sharedRoll = false → ∀ w ∈ ws, w.Decided rules e w.battle.seed.draw.1
    (w.battle.seed.advance (if e.canMiss then 1 else 0)).draw.1

theorem Sweep.fair {ids : List ActorId} {s s' : Scene} {ws : List Blow} {flow : Flow}
    (h : Sweep rules run e o user ids ⟨e.sharedRoll, none, none⟩ s ws s' flow) :
    Fair rules e ws where
  draws := h.rollsAlong.draws (Rolls.follows_start e)
  shared := fun hshared => by
    obtain ⟨h, c, -, -, hdecided⟩ := h.rollsAlong.shared hshared
    exact ⟨h, c, hdecided⟩
  separate := h.rollsAlong.separate (Rolls.follows_start e)

variable (rules) in
/-- **What a damage effect draws.** It is played to its end, whatever hooks answer it, by blows at
the targets that it reaches, and these are fair: shared rolls draw at most once to hit and at most
once to be critical, and the two numbers are compared with the chances of each blow. Where no hook
of the user answers that it deals damage and none of the targets that they take it, the effect goes
through all its targets, and its draws are all that moves the seed on: each blow finds the seed
after the draws of the blows before it. An effect does not come to its end only if something cannot
be computed, which without hooks is the chance to hit. -/
theorem draws_of_damage {b : Battle} (hk : e.kind = .damage)
    (huser : b.actors.contains user = true) (hgoing : b.isOver = false) (o : Origin)
    (targets : List ActorId) :
    ((∃ b' flow, b.play? rules (fun run => applyEffect rules run e o user targets) =
        some (b', flow)) ∨
      b.BreaksOff ⟨rules, .resolve (.effect e o user targets)⟩) ∧
    (∀ depth running s' flow,
      applyEffect rules (runHook rules depth) e o user targets ⟨b, running⟩ = some (s', flow) →
      ∃ ws, Sweep rules (runHook rules depth) e o user targets ⟨e.sharedRoll, none, none⟩
        ⟨b, running⟩ ws s' flow ∧ Fair rules e ws) ∧
    (b.Unanswering rules.codex user .onDealDamage →
      (∀ id ∈ targets, b.Unanswering rules.codex id .onTakeDamage) → ∀ depth running,
        (∃ b' ws, applyEffect rules (runHook rules depth) e o user targets ⟨b, running⟩ =
            some (⟨b', running⟩, .proceed) ∧
          Sweep rules (runHook rules depth) e o user targets ⟨e.sharedRoll, none, none⟩
            ⟨b, running⟩ ws ⟨b', running⟩ .proceed ∧
          Fair rules e ws ∧ b'.seed = b.seed.advance (drawsOf e ws) ∧
          ∀ before w after, ws = before ++ w :: after →
            w.battle.seed = b.seed.advance (drawsOf e before)) ∨
        rules.balance.hasHitChance = false ∧
          applyEffect rules (runHook rules depth) e o user targets ⟨b, running⟩ = none) := by
  have hin : b.actor? user ≠ none := by
    obtain ⟨a, ha⟩ := Table.contains_iff.1 huser
    exact fun hnone => nomatch ha.symm.trans hnone
  have haims : e.kind.isTargetless = false := by rw [hk]; rfl
  have happly : ∀ run running, applyEffect rules run e o user targets ⟨b, running⟩ =
      applyToEach rules run e o user targets ⟨e.sharedRoll, none, none⟩ ⟨b, running⟩ := by
    intro run running
    simp only [applyEffect, hgoing, haims, Bool.false_eq_true, if_false]
  refine ⟨?_, ?_, ?_⟩
  · obtain ⟨b', h⟩ | hbreaks :=
      b.after?_returns ⟨rules, .resolve (.effect e o user targets)⟩
    · obtain ⟨⟨b', flow⟩, hplay, rfl⟩ := Option.map_eq_some_iff.1 h
      exact .inl ⟨b', flow, hplay⟩
    · exact .inr hbreaks
  · intro depth running s' flow h
    rw [happly] at h
    obtain ⟨ws, hws⟩ := exists_sweep hk (fun c => keeps_runHook rules depth c user) hin h
    exact ⟨ws, hws, hws.fair⟩
  · intro hattacker hvictims depth running
    have hswept : (∃ b' ws, Sweep rules (runHook rules depth) e o user targets
        ⟨e.sharedRoll, none, none⟩ ⟨b, running⟩ ws ⟨b', running⟩ .proceed ∧
        Linked b.seed ws b'.seed) ∨ rules.balance.hasHitChance = false ∧
          applyToEach rules (runHook rules depth) e o user targets ⟨e.sharedRoll, none, none⟩
            ⟨b, running⟩ = none := by
      cases hchance : rules.balance.hasHitChance with
      | true =>
        exact .inl (exists_sweep_of_unanswering hchance depth running hin hattacker hvictims)
      | false =>
        exact (sweep_of_no_chance hk hchance hin targets _).imp
          (fun hws => ⟨b, [], hws, rfl⟩) fun hnone => ⟨rfl, hnone⟩
    obtain ⟨b', ws, hws, hlinked⟩ | ⟨hchance, hnone⟩ := hswept
    · have hstart : b.seed = b.seed.advance (drawsOf e []) := by simp [drawsOf, Seed.advance]
      obtain ⟨hlast, hfound⟩ := Linked.seed [] hlinked hws.fair.draws hstart
      exact .inl ⟨b', ws, (happly _ _).trans (hws.applies hk), hws, hws.fair, hlast, hfound⟩
    · exact .inr ⟨hchance, (happly _ _).trans hnone⟩

/-- A volley, whose rolls are shared. -/
def volley : Effect := { Effect.damage 1 with sharedRoll := true }

/-- Shot twice at the slime, a volley draws twice, and it is as fair where thorns answer it. -/
theorem volley_draws_twice :
    (∃ b' ws, applyEffect {} (runHook {} 0) volley {} "hero" ["slime", "slime"]
        ⟨Battle.duel, []⟩ = some (⟨b', []⟩, .proceed) ∧
      Sweep {} (runHook {} 0) volley {} "hero" ["slime", "slime"] ⟨true, none, none⟩
        ⟨Battle.duel, []⟩ ws ⟨b', []⟩ .proceed ∧
      Fair {} volley ws ∧ b'.seed = Battle.duel.seed.advance 2) ∧
    ∃ depth s' flow ws, applyEffect thornRules (runHook thornRules depth) volley {} "hero"
        ["slime", "slime"] ⟨thornyDuel, []⟩ = some (s', flow) ∧
      Sweep thornRules (runHook thornRules depth) volley {} "hero" ["slime", "slime"]
        ⟨true, none, none⟩ ⟨thornyDuel, []⟩ ws s' flow ∧
      Fair thornRules volley ws := by
  have hk : volley.kind = .damage := rfl
  constructor
  · have huser : Battle.duel.actors.contains "hero" = true := by decide +kernel
    have hgoing : Battle.duel.isOver = false := by decide +kernel
    have hquiet : ∀ q hook, Battle.duel.Unanswering ({} : Rules).codex q hook :=
      fun _ _ _ _ _ h => nomatch h
    have hseed : (applyEffect {} (runHook {} 0) volley {} "hero" ["slime", "slime"]
        ⟨Battle.duel, []⟩).map (·.1.battle.seed) = some (Battle.duel.seed.advance 2) := by
      decide +kernel
    obtain ⟨-, -, hplain⟩ := draws_of_damage {} hk huser hgoing {} ["slime", "slime"]
    obtain ⟨b', ws, happly, hws, hfair, -, -⟩ :=
      (hplain (hquiet _ _) (fun q _ => hquiet q _) 0 []).resolve_right fun hnone => by
        rw [hnone.2] at hseed
        cases hseed
    rw [happly] at hseed
    exact ⟨b', ws, happly, hws, hfair, Option.some.inj hseed⟩
  · have huser : thornyDuel.actors.contains "hero" = true := by decide +kernel
    have hgoing : thornyDuel.isOver = false := by decide +kernel
    obtain ⟨hends, hhooked, -⟩ :=
      draws_of_damage thornRules hk huser hgoing {} ["slime", "slime"]
    obtain ⟨b', flow, hplay⟩ :=
      hends.resolve_right (Battle.not_breaksOff (by decide +kernel))
    obtain ⟨⟨s', flow'⟩, happly, -⟩ := Option.map_eq_some_iff.1 hplay
    obtain ⟨ws, hws, hfair⟩ := hhooked _ _ _ _ happly
    exact ⟨_, s', flow', ws, happly, hws, hfair⟩

end

end Skirmish
