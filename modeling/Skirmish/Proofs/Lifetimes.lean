import Skirmish.Proofs.Frames
import Skirmish.Proofs.Sparing

/-!
# How long a status lasts

Whoever accepts a status for some turns, outside its own boundary, holds it for as many boundaries
of its own turn, unless something touches the status. Each of them takes a turn from it, and the
last one takes it away and lets it wear off, with a line, with its shield and with its last hook
(`lasts_exactly`).

The law is that of one affliction. Where an actor came to hold a status twice, only the first
affliction of the two begins anew, and the other one goes on; and where a boundary halts after it
has counted, the turn is lost though the boundary was not passed (`twins_outlast`).
-/

namespace Skirmish

namespace Battle

variable {rules : Rules} {content : Effect → Prop} {b b' : Battle} {x : ActorId} {st : String}
  {tr : Trace}

/-! ## A lifetime -/

/-- An actor accepts a status for some turns in a call, which is no boundary of its own, and the
rest of the call spares the status. -/
def Receives (content : Effect → Prop) (x : ActorId) (st : String) (turns : Nat) (b : Battle)
    (q : Request) (b' : Battle) : Prop :=
  b.after? q = some b' ∧ b.boundary? q.call ≠ some x ∧
    ∃ (before : Trace) (c : Battle) (s : Status) (override : Option Nat) (after : Trace),
      b.Unfolds q.rules content q.call (before ++ (c, .afflict x s override) :: after) b' ∧
        s.id = st ∧ (c.afflict q.rules.codex x s override).2.isSome = true ∧
        effectiveTurns s override = turns ∧ after.Spares q.rules.codex x st

/-- Of the status that an actor receives its first affliction has all the turns. -/
theorem Receives.held {q : Request} {turns : Nat} (h : b.Receives content x st turns q b') :
    b'.actors.contains x = true ∧ ∃ stacked rest, b'.held x st = ⟨st, turns, stacked⟩ :: rest := by
  obtain ⟨-, hother, before, c, s, override, after, hunfolds, rfl, haccepted, rfl, hspares⟩ := h
  have hafter : ∀ {b₁ b₂ : Battle}, Traced q.rules content b₁
      (before ++ (c, .afflict x s override) :: after) b₂ → b₂.Alike b' →
      (∀ p ∈ before ++ (c, .afflict x s override) :: after, p.2.holder? ≠ some x) →
      b'.actors.contains x = true ∧
        ∃ stacked rest, b'.held x s.id = ⟨s.id, effectiveTurns s override, stacked⟩ :: rest := by
    intro b₁ b₂ htraced halike hholder
    have hcounts : ∀ p ∈ after, p.2.counts x = false := fun p hp =>
      Deed.counts_of_holder? (hholder p (List.mem_append_right _ (List.mem_cons_of_mem _ hp)))
    rw [halike.contains, held_alike halike]
    exact htraced.split.2.2.held_of_afflict haccepted hspares hcounts
  generalize htr : before ++ (c, Deed.afflict x s override) :: after = tr at hunfolds hafter
  cases hunfolds.stirs with
  | worked _ _ _ hworks halike => exact hafter hworks.traced halike hworks.holder?
  | ticked hc _ hticks halike =>
    exact hafter hticks.traced halike (hticks.holder? fun heq => hother (heq ▸ hc))
  | removed => simp at htr

/-- A status that is applied out of all effects, and has no hook that answers this, is received. -/
theorem receives_status {s : Status} {override : Option Nat} (hst : rules.codex.status? st = some s)
    (hquiet : s.onApply = []) (hcan : b.canStack x s = true)
    (haccepted : (b.afflict rules.codex x s override).2.isSome = true) :
    b.Receives (fun _ => True) x st (effectiveTurns s override)
      ⟨rules, .resolve (.status x st override)⟩ (b.afflict rules.codex x s override).1 := by
  obtain rfl : s.id = st := Codex.id_of_status? hst
  have hmay : (Deed.afflict x s override).May rules (fun _ => True) b :=
    ⟨hst, .applyStatus s.id override, trivial, rfl, rfl, rfl⟩
  have hworks : Works rules (fun _ => True) b [(b, .afflict x s override)] .proceed
      (b.afflict rules.codex x s override).1 :=
    ⟨.cons hmay (.nil _), List.forall_mem_singleton.2 rfl, nofun⟩
  refine ⟨?_, nofun, [], b, s, override, [], .resolved nofun hworks, rfl, haccepted, rfl,
    List.forall_mem_nil _⟩
  obtain ⟨count, hcount⟩ := Option.isSome_iff_exists.1 haccepted
  have hnone : ∀ b : Battle, (HookCall.effects ⟨x, s.id, .onApply, none, count⟩ rules.codex
      ⟨b, []⟩).isEmpty = true := by
    intro b
    simp [HookCall.effects, hst, Status.hooked, hquiet]
  rcases heq : b.afflict rules.codex x s override with ⟨b', count'⟩
  rw [heq] at hcount
  obtain rfl : count' = some count := hcount
  simp only [after?, Resolution.step, play?, applyStatus, hst, afflicted?_of_canStack hcan, heq,
    runHook_of_isEmpty (hnone b')]
  rfl

/-- Cleansing and dispelling run no hook: what becomes of such an effect does not depend on what
runs the hooks. -/
theorem applyToEach_of_removal {e : Effect} (he : e.kind = .cleanseStatus ∨ e.kind = .dispel)
    (run run' : HookRunner) (o : Origin) (user : ActorId) (ids : List ActorId) (rolls : Rolls)
    (s : Scene) :
    applyToEach rules run e o user ids rolls s = applyToEach rules run' e o user ids rolls s := by
  have himmediate : e.kind.isImmediate = true := by rcases he with he | he <;> rw [he] <;> rfl
  rw [applyToEach_of_immediate himmediate, applyToEach_of_immediate himmediate]

theorem applyEffect_of_removal {e : Effect} (he : e.kind = .cleanseStatus ∨ e.kind = .dispel)
    (run run' : HookRunner) (o : Origin) (user : ActorId) (targets : List ActorId) (s : Scene) :
    applyEffect rules run e o user targets s = applyEffect rules run' e o user targets s := by
  unfold applyEffect
  rw [applyToEach_of_removal he run run']

theorem unfolds_of_removal {c : Call} {r : Removal} (hr : c.removal? rules.codex = some r)
    (h : b.Unfolds rules content c tr b') : tr = [] ∧ b' = r.perform rules.codex b := by
  cases h <;> cases hr <;> exact ⟨rfl, rfl⟩

/-- In a trace a status of an actor wears off: a line says so, the shield that it granted is gone,
and then its last hook runs, for an affliction without a turn left. -/
def WearsOffIn (rules : Rules) (content : Effect → Prop) (x : ActorId) (st : String) (stacked : Nat)
    (tr : Trace) : Prop :=
  ∃ (before : Trace) (c : Battle) (last after : Trace) (worn c' : Battle),
    tr = before ++ (c, .wearOff x st) :: (last ++ after) ∧ worn = c.wearOff rules.codex x st ∧
      worn.log = c.log ++ [s!"{c.nameOf x}'s {rules.codex.statusName st} wore off."] ∧
      (∀ k, rules.codex.granted? st = some k → ¬worn.HasShield x k) ∧
      RunsLast rules content x ⟨st, 0, stacked⟩ worn last .proceed c'

theorem log_wearOff (b : Battle) (codex : Codex) (x : ActorId) (st : String) :
    (b.wearOff codex x st).log =
      b.log ++ [s!"{b.nameOf x}'s {codex.statusName st} wore off."] := by
  have hlog : (b.removeGranted codex x st).log = b.log := by
    unfold removeGranted
    cases (codex.status? st).bind Status.shieldId? <;> rfl
  rw [wearOff, log_announce, hlog]

theorem Spared.wearsOff {q : Request} {stacked : Nat} (h : b.Spared content x st q tr b')
    (hx : b.actors.contains x = true) (hpasses : b.passes x q = true)
    (hheld : b.held x st = [⟨st, 1, stacked⟩]) : WearsOffIn q.rules content x st stacked tr := by
  have hboundary : b.boundary? q.call = some x := by
    by_contra hne
    cases (passes_eq_false hne).symm.trans hpasses
  cases h.unfolds.stirs with
  | worked hc => cases hc.symm.trans hboundary
  | @ticked y b₁ _ _ flow hc hplay hticks _ =>
    obtain rfl : y = x := Option.some.inj (hc.symm.trans hboundary)
    obtain rfl : flow = .proceed := eq_of_beq ((passes_eq hc hplay).symm.trans hpasses)
    have hi : ⟨st, 1, stacked⟩ ∈ b.held y st := hheld ▸ List.mem_cons_self
    obtain ⟨before, c, last, after, c', htr, hlast⟩ := hticks.split hx h.deeds hi rfl
    refine ⟨before, c, last, after, _, c', htr, rfl, c.log_wearOff .., fun k hk hhas => ?_, hlast⟩
    exact (hasShield_wearOff.1 hhas).2 ⟨rfl, hk⟩
  | removed hr => cases (boundary?_of_removal? hr).symm.trans hboundary

/-- **A status lasts as many boundaries as it has turns.** Once an actor has accepted a status for
some turns, outside its own boundary, and then holds it once, every run that spares the status
leaves the actor with a turn less for each boundary that it passed without a halt, and without the
status after the last one. Its wearing off happens once, in that boundary: a line says so, the
shield that it granted is gone, and then the effects of its last hook are played if the actor is
alive. Neither cleansing nor dispelling runs a hook. -/
theorem lasts_exactly {content content' : Effect → Prop} {q : Request} {turns : Nat} {b₁ : Battle}
    (hreceives : b.Receives content x st turns q b₁) (hsingle : (b₁.held x st).length = 1) :
    (∃ stacked, ∀ qs tr b', b₁.SparedRun content' x st qs tr b' →
      let passed := b₁.boundariesOf x qs
      b'.held x st = (if passed < turns then [⟨st, turns - passed, stacked⟩] else []) ∧
      tr.ends x st = (if passed < turns then 0 else 1) ∧
      ∀ q tr b'', b'.Spared content' x st q tr b'' → b'.passes x q = true → passed + 1 = turns →
        WearsOffIn q.rules content' x st stacked tr) ∧
    (∀ (rules : Rules) (run run' : HookRunner) (e : Effect) o user targets s,
      e.kind = .cleanseStatus ∨ e.kind = .dispel →
        applyEffect rules run e o user targets s = applyEffect rules run' e o user targets s) ∧
    ∀ (rules : Rules) (c : Call) (r : Removal) (b b' : Battle) (tr : Trace),
      c.removal? rules.codex = some r → b.Unfolds rules content' c tr b' →
        tr = [] ∧ ∃ actors shields, b' = { b with actors := actors, shields := shields } := by
  refine ⟨?_, fun rules run run' e o user targets s he =>
    applyEffect_of_removal he run run' o user targets s, fun rules c r b b' tr hr hunfolds => ?_⟩
  · have hpos : 0 < turns := by
      obtain ⟨-, -, _, _, s, override, _, -, -, -, rfl, -⟩ := hreceives
      exact Nat.le_max_left 1 _
    obtain ⟨hx, stacked, rest, hheld⟩ := hreceives.held
    obtain rfl : rest = [] := by
      rw [hheld] at hsingle
      exact List.length_eq_zero_iff.1 (Nat.succ.inj hsingle)
    have hlasting : b₁.held x st = Affliction.lasting st stacked turns := by
      rw [hheld, Affliction.lasting, if_neg (by omega)]
    refine ⟨stacked, fun qs tr b' hrun => ?_⟩
    obtain ⟨hleft, hends⟩ := hrun.lasts hx hlasting
    refine ⟨?_, ?_, fun q tr b'' hspared hpasses hturns => ?_⟩
    · rw [hleft, Affliction.lasting]
      split <;> split <;> first | rfl | omega
    · rw [hends]
      split <;> split <;> first | rfl | omega
    · have hone : b'.held x st = [⟨st, 1, stacked⟩] := by
        rw [hleft, Affliction.lasting, if_neg (by omega)]
        congr
        omega
      exact hspared.wearsOff (hrun.contains hx) hpasses hone
  · obtain ⟨htr, rfl⟩ := unfolds_of_removal hr hunfolds
    exact ⟨htr, r.perform_eq rules.codex b⟩

/-! ## Daze -/

/-- A status without hooks. -/
def daze : Status := { id := "daze" }

/-- Beside daze there is flight: whoever ends its turn in it flees. -/
def dazeRules : Rules where
  codex :=
    let flight : Status := { id := "flight", onTurnEnd := [{ kind := .flee }] }
    { statuses := (Table.empty.insert "daze" daze).insert "flight" flight }

/-- Daze the hero for some turns. -/
def dazing (turns : Nat) : Request := ⟨dazeRules, .resolve (.status "hero" "daze" (some turns))⟩

/-- The battle once the hero is dazed. -/
def dazed (b : Battle) (turns : Nat) : Battle :=
  (b.afflict dazeRules.codex "hero" daze (some turns)).1

theorem receives_daze {b : Battle} {turns : Nat} (hturns : 1 ≤ turns)
    (haccepted : (b.afflict dazeRules.codex "hero" daze (some turns)).2.isSome = true) :
    b.Receives (fun _ => True) "hero" "daze" turns (dazing turns) (b.dazed turns) := by
  have hst : dazeRules.codex.status? "daze" = some daze := by rfl
  have hcan := canStack_of_not_addsStacks (show daze.stacking.addsStacks = false from rfl) b "hero"
  have hreceives := receives_status hst rfl hcan haccepted
  rwa [effectiveTurns, Option.getD_some, Nat.max_eq_right hturns] at hreceives

theorem within_dazeRules {c : Call} (hc : c.effects = []) :
    (⟨dazeRules, c⟩ : Request).Within fun e => ¬e.Bears "daze" := by
  have hooks : dazeRules.codex.HooksWithin fun e => ¬e.Bears "daze" := by decide +kernel
  exact ⟨hooks, fun e he => by rw [hc] at he; cases he⟩

/-- A number of turns passed. -/
def rounds (n : Nat) : List Request := List.replicate n ⟨dazeRules, .pass⟩

theorem exists_rounds {b b' : Battle} {n : Nat} (h : b.run? (rounds n) = some b')
    (hgoing : b'.isOver = false) :
    ∃ tr, b.SparedRun (fun e => ¬e.Bears "daze") "hero" "daze" (rounds n) tr b' := by
  refine exists_sparedRun (fun e he => he) "hero" (fun q hq => ?_) h hgoing
  obtain rfl := List.eq_of_mem_replicate hq
  exact ⟨within_dazeRules rfl, rfl⟩

/-- Dazed for two turns the hero loses one of them by its own turn and none by the slime's, and the
daze wears off by its next turn. -/
theorem daze_lasts_two_turns :
    duel.Receives (fun _ => True) "hero" "daze" 2 (dazing 2) (duel.dazed 2) ∧
      (∃ b' stacked, (duel.dazed 2).run? (rounds 2) = some b' ∧
        b'.held "hero" "daze" = [⟨"daze", 1, stacked⟩]) ∧
      ∃ b' tr, (duel.dazed 2).run? (rounds 3) = some b' ∧
        (duel.dazed 2).SparedRun (fun e => ¬e.Bears "daze") "hero" "daze" (rounds 3) tr b' ∧
        tr.ends "hero" "daze" = 1 ∧ b'.held "hero" "daze" = [] := by
  have hreceives : duel.Receives _ "hero" "daze" 2 (dazing 2) (duel.dazed 2) :=
    receives_daze (by decide) (by decide +kernel)
  obtain ⟨⟨stacked, hlasts⟩, -⟩ := lasts_exactly hreceives (by decide +kernel)
  have hgoing : ∀ n ∈ [2, 3], ((duel.dazed 2).run? (rounds n)).map (·.isOver) = some false := by
    decide +kernel
  have hone : (duel.dazed 2).boundariesOf "hero" (rounds 2) = 1 := by decide +kernel
  have htwo : (duel.dazed 2).boundariesOf "hero" (rounds 3) = 2 := by decide +kernel
  refine ⟨hreceives, ?_, ?_⟩
  · obtain ⟨b', h, hover⟩ := Option.map_eq_some_iff.1 (hgoing 2 (by decide))
    obtain ⟨tr, hspared⟩ := exists_rounds h hover
    obtain ⟨hheld, -⟩ := hlasts _ _ _ hspared
    rw [hone] at hheld
    exact ⟨b', stacked, h, hheld⟩
  · obtain ⟨b', h, hover⟩ := Option.map_eq_some_iff.1 (hgoing 3 (by decide))
    obtain ⟨tr, hspared⟩ := exists_rounds h hover
    obtain ⟨hheld, hends, -⟩ := hlasts _ _ _ hspared
    rw [htwo] at hheld hends
    exact ⟨b', tr, h, hspared, hends, hheld⟩

/-- The duel with a hero that is dazed twice. -/
def twinDuel : Battle :=
  duel.modifyActor "hero" fun a => { a with afflictions := [⟨"daze", 2, 1⟩, ⟨"daze", 9, 1⟩] }

/-- The duel with a hero in flight. -/
def flightDuel : Battle :=
  duel.modifyActor "hero" fun a => { a with afflictions := [⟨"flight", 5, 1⟩] }

/-- What began twice is renewed once: a daze for one turn is over with the hero's next turn, but the
other one goes on. And where the hero's turn ends the battle after its statuses were counted, the
turn that it lost is not one of those that passed without a halt. -/
theorem twins_outlast :
    (∃ b' tr, twinDuel.Receives (fun _ => True) "hero" "daze" 1 (dazing 1) (twinDuel.dazed 1) ∧
      (twinDuel.dazed 1).SparedRun (fun e => ¬e.Bears "daze") "hero" "daze" (rounds 1) tr b' ∧
      (twinDuel.dazed 1).boundariesOf "hero" (rounds 1) = 1 ∧
      b'.held "hero" "daze" = [⟨"daze", 8, 1⟩]) ∧
    ∃ b' tr, flightDuel.Receives (fun _ => True) "hero" "daze" 3 (dazing 3) (flightDuel.dazed 3) ∧
      ((flightDuel.dazed 3).held "hero" "daze").length = 1 ∧
      (flightDuel.dazed 3).after? ⟨dazeRules, .pass⟩ = some b' ∧
      (flightDuel.dazed 3).Unfolds dazeRules (fun e => ¬e.Bears "daze") .pass tr b' ∧
      tr.Spares dazeRules.codex "hero" "daze" ∧
      (flightDuel.dazed 3).boundariesOf "hero" (rounds 1) = 0 ∧
      b'.held "hero" "daze" = [⟨"daze", 2, 1⟩] := by
  constructor
  · have hrun : ((twinDuel.dazed 1).run? (rounds 1)).map
        (fun b => (b.isOver, b.held "hero" "daze")) = some (false, [⟨"daze", 8, 1⟩]) := by
      decide +kernel
    obtain ⟨b', h, heq⟩ := Option.map_eq_some_iff.1 hrun
    obtain ⟨hgoing, hheld⟩ := Prod.mk.inj heq
    obtain ⟨tr, hspared⟩ := exists_rounds h hgoing
    exact ⟨b', tr, receives_daze (by decide) (by decide +kernel), hspared, by decide +kernel, hheld⟩
  · have hpass : ((flightDuel.dazed 3).after? ⟨dazeRules, .pass⟩).map
        (fun b => b.held "hero" "daze") = some [⟨"daze", 2, 1⟩] := by
      decide +kernel
    obtain ⟨b', h, hheld⟩ := Option.map_eq_some_iff.1 hpass
    obtain ⟨tr, hunfolds⟩ := unfolds_of_after? (within_dazeRules rfl) h
    obtain ⟨_, _, htraced⟩ := hunfolds.traced
    exact ⟨b', tr, receives_daze (by decide) (by decide +kernel), by decide +kernel, h, hunfolds,
      htraced.spares (fun e he => he) "hero", by decide +kernel, hheld⟩

end Battle

end Skirmish
