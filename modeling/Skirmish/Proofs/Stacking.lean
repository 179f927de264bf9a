import Skirmish.Proofs.Grants

/-!
# Stacking

A status that is applied again and again to an actor that did not hold it becomes one affliction.
Its stacking rule says how often that is stacked (`Status.stacksAfter`), for how many turns it lasts
(`Status.turnsAfter`) and what the log says of each application (`Status.notices`). `Battle.Stacked`
bundles this with the shield of the status, which each accepted application sets anew. It holds
after the first application (`stacked_of_new`), each further one keeps it (`Stacked.again`), and so
it holds after any number of them, as long as they can be counted (`Status.Counts`,
`stacks_by_rule`).
-/

namespace Skirmish

/-! ## What the rule says -/

namespace Status

/-- The stacks after some applications to an actor that did not hold the status. -/
def stacksAfter (s : Status) (n : Nat) : Nat :=
  if s.stacking.addsStacks then min n (max 1 s.maxStacks) else 1

/-- Some applications can be counted: they add no stacks, or fewer are allowed than can be counted,
or there are no more of them than that. -/
def Counts (s : Status) (n : Nat) : Prop :=
  s.stacking.addsStacks = true → greatestCount ≤ s.maxStacks → n ≤ greatestCount

/-- The turns that are left after a first application and others: those of the first one where the
others are ignored, and else those of the last one. -/
def turnsAfter (s : Status) (first : Option Nat) (others : List (Option Nat)) : Nat :=
  Battle.effectiveTurns s (if s.stacking = .ignore then first else others.getLastD first)

/-- What the log says of an application that comes after `n` others. -/
def notice (s : Status) (name : String) (n : Nat) : List String :=
  if n = 0 then [s!"{name} is afflicted by {s.displayName}."]
  else
    match s.stacking with
    | .ignore => []
    | .renew => [s!"{s.displayName} on {name} was renewed."]
    | _ => [s!"{s.displayName} on {name} stacks to {s.stacksAfter (n + 1)}."]

/-- What the log says of some applications. -/
def notices (s : Status) (name : String) (n : Nat) : List String :=
  (List.range n).flatMap (s.notice name)

variable (s : Status)

theorem stacksAfter_one : s.stacksAfter 1 = 1 := by
  unfold stacksAfter
  split
  · omega
  · rfl

theorem stacksAfter_of_not_addsStacks (h : s.stacking.addsStacks = false) (n : Nat) :
    s.stacksAfter n = 1 := by
  rw [stacksAfter, h]
  rfl

theorem nextStacks_stacksAfter (h : s.stacking.addsStacks = true) (n : Nat) :
    Battle.nextStacks s (s.stacksAfter n) = s.stacksAfter (n + 1) := by
  unfold Battle.nextStacks
  rw [stacksAfter, stacksAfter, if_pos h, if_pos h]
  omega

theorem counts_of_le {s : Status} {m n : Nat} (hmn : m ≤ n) (h : s.Counts n) : s.Counts m :=
  fun hadds hmax => Nat.le_trans hmn (h hadds hmax)

/-- One application more than some can be counted exactly if the stacks after these have room for
one more. -/
theorem counts_succ_iff (n : Nat) :
    s.Counts (n + 1) ↔ (s.stacking.addsStacks = true → s.stacksAfter n < greatestCount) := by
  refine forall_congr' fun hadds => ?_
  rw [stacksAfter, if_pos hadds, greatestCount]
  omega

theorem turnsAfter_append_of_ignore (h : s.stacking = .ignore) (first t : Option Nat)
    (others : List (Option Nat)) :
    s.turnsAfter first (others ++ [t]) = s.turnsAfter first others := by
  rw [turnsAfter, turnsAfter, if_pos h, if_pos h]

theorem turnsAfter_append (h : s.stacking ≠ .ignore) (first t : Option Nat)
    (others : List (Option Nat)) :
    s.turnsAfter first (others ++ [t]) = Battle.effectiveTurns s t := by
  rw [turnsAfter, if_neg h, List.getLastD_concat]

theorem notices_succ (name : String) (n : Nat) :
    s.notices name (n + 1) = s.notices name n ++ s.notice name n := by
  rw [notices, notices, List.range_succ, List.flatMap_append, List.flatMap_singleton]

/-- The log has a line for each application that is accepted: only the first one is accepted where
further ones are ignored. -/
theorem length_notices (name : String) (n : Nat) :
    (s.notices name (n + 1)).length = if s.stacking = .ignore then 1 else n + 1 := by
  induction n with
  | zero =>
    rw [ite_self]
    rfl
  | succ n ih =>
    have hlast : (s.notice name (n + 1)).length = if s.stacking = .ignore then 0 else 1 := by
      rw [notice, if_neg n.succ_ne_zero]
      cases s.stacking <;> rfl
    rw [notices_succ, List.length_append, ih, hlast]
    split <;> rfl

end Status

namespace Battle

/-! ## Accepting an application -/

/-- Let an actor accept a status: its afflictions change, the log says so and the shield is set. -/
def accept (b : Battle) (codex : Codex) (id : ActorId) (s : Status)
    (g : List Affliction → List Affliction) (line : String) : Battle :=
  ((b.modifyActor id fun a => { a with afflictions := g a.afflictions }).announce line).grantShield
    codex id s

section

variable (b : Battle) (codex : Codex) (id : ActorId) (s : Status)
  (g : List Affliction → List Affliction) (line : String)

theorem actor?_accept (q : ActorId) :
    (b.accept codex id s g line).actor? q =
      if q = id then (b.actor? id).map fun a => { a with afflictions := g a.afflictions }
      else b.actor? q := by
  rw [accept, actor?, actors_grantShield]
  exact b.actor?_modifyActor id q _

theorem accept_eq :
    ∃ actors shields, b.accept codex id s g line =
      { b with actors := actors, shields := shields, log := b.log ++ [line] } := by
  obtain ⟨shields, heq⟩ := grantShield_eq _ codex id s
  rw [accept, heq]
  exact ⟨_, _, rfl⟩

theorem shield?_accept {a : Actor} (ha : b.actor? id = some a) (q : ActorId) (k : String) :
    (b.accept codex id s g line).shield? q k =
      if q = id ∧ s.shieldId? = some k then (b.accept codex id s g line).grant? codex id s
      else b.shield? q k := by
  have hid : ((b.modifyActor id fun a => { a with afflictions := g a.afflictions }).announce
      line).actors.contains id = true := by
    refine Table.contains_iff.2 ⟨{ a with afflictions := g a.afflictions }, ?_⟩
    have hmodified := b.actor?_modifyActor id id fun a => { a with afflictions := g a.afflictions }
    rw [if_pos rfl, ha] at hmodified
    exact hmodified
  rw [accept, shield?_grantShield hid, grant?_congr (actors_grantShield ..)]
  rfl

end

section

variable {b : Battle} {codex : Codex} {id : ActorId} {s : Status} {a : Actor} {i : Affliction}

theorem afflict_of_new (ha : b.actor? id = some a) (hnew : a.affliction? s.id = none)
    (turns : Option Nat) :
    b.afflict codex id s turns =
      (b.accept codex id s (· ++ [⟨s.id, effectiveTurns s turns, 1⟩])
        s!"{a.name} is afflicted by {s.displayName}.", some 1) := by
  have hname : b.nameOf id = a.name := by rw [nameOf, ha]; rfl
  simp only [afflict, ha, hnew, hname]
  rfl

theorem afflict_of_ignore (ha : b.actor? id = some a) (hi : a.affliction? s.id = some i)
    (hr : s.stacking = .ignore) (turns : Option Nat) :
    b.afflict codex id s turns = (b, none) := by
  simp only [afflict, ha, hi, hr]

theorem afflict_of_renew (ha : b.actor? id = some a) (hi : a.affliction? s.id = some i)
    (hr : s.stacking = .renew) (turns : Option Nat) :
    b.afflict codex id s turns =
      (b.accept codex id s (Affliction.updateFirst s.id fun i =>
          { i with remaining := effectiveTurns s turns })
        s!"{s.displayName} on {a.name} was renewed.", some i.stackCount) := by
  have hname : b.nameOf id = a.name := by rw [nameOf, ha]; rfl
  simp only [afflict, ha, hi, hr, hname]
  rfl

theorem afflict_of_addsStacks (ha : b.actor? id = some a) (hi : a.affliction? s.id = some i)
    (hr : s.stacking.addsStacks = true) (turns : Option Nat) :
    b.afflict codex id s turns =
      (b.accept codex id s (Affliction.updateFirst s.id fun j =>
          { j with remaining := effectiveTurns s turns, stackCount := nextStacks s i.stackCount })
        s!"{s.displayName} on {a.name} stacks to {nextStacks s i.stackCount}.",
        some (nextStacks s i.stackCount)) := by
  have hname : b.nameOf id = a.name := by rw [nameOf, ha]; rfl
  cases hstacking : s.stacking with
  | ignore | renew =>
    rw [hstacking] at hr
    cases hr
  | count | magnitude =>
    simp only [afflict, ha, hi, hstacking, hname]
    rfl

end

/-! ## Applying it again and again -/

/-- What is left of an actor once a status was applied, first for some turns and then for others. -/
def stackedActor (s : Status) (a : Actor) (first : Option Nat) (others : List (Option Nat)) :
    Actor :=
  { a with afflictions :=
      a.afflictions ++ [⟨s.id, s.turnsAfter first others, s.stacksAfter (others.length + 1)⟩] }

/-- What a battle has become since a status was applied to an actor that did not hold it, first for
some turns and then for others. -/
structure Stacked (b : Battle) (codex : Codex) (s : Status) (id : ActorId) (a : Actor)
    (first : Option Nat) (others : List (Option Nat)) (b' : Battle) : Prop where
  actor : ∀ q, b'.actor? q = if q = id then some (stackedActor s a first others) else b.actor? q
  shield : ∀ q k, b'.shield? q k =
    if q = id ∧ s.shieldId? = some k then b'.grant? codex id s else b.shield? q k
  log : b'.log = b.log ++ s.notices a.name (others.length + 1)
  kept : b' = { b with actors := b'.actors, shields := b'.shields, log := b'.log }

section

variable {rules : Rules} {b b' : Battle} {codex : Codex} {id : ActorId} {s : Status} {a : Actor}
  {first : Option Nat} {others : List (Option Nat)}

/-- The actor has one affliction of the status, behind those that it had before. -/
theorem affliction?_stackedActor (hnew : a.affliction? s.id = none) :
    (stackedActor s a first others).affliction? s.id =
      some ⟨s.id, s.turnsAfter first others, s.stacksAfter (others.length + 1)⟩ := by
  have hnone : a.afflictions.find? (fun i => i.status == s.id) = none := hnew
  simp [stackedActor, Actor.affliction?, List.find?_append, hnone]

theorem updateFirst_stackedActor (hnew : a.affliction? s.id = none)
    (f : Affliction → Affliction) :
    Affliction.updateFirst s.id f (stackedActor s a first others).afflictions =
      a.afflictions ++
        [f ⟨s.id, s.turnsAfter first others, s.stacksAfter (others.length + 1)⟩] :=
  Affliction.updateFirst_append
    (fun i hi heq => List.find?_eq_none.1 hnew i hi (beq_iff_eq.2 heq)) rfl []

theorem Stacked.held (h : b.Stacked codex s id a first others b')
    (hnew : a.affliction? s.id = none) :
    b'.held id s.id = [⟨s.id, s.turnsAfter first others, s.stacksAfter (others.length + 1)⟩] := by
  have hactor := h.actor id
  rw [if_pos rfl] at hactor
  have hnone : a.afflictions.filter (fun i => i.status == s.id) = [] :=
    List.filter_eq_nil_iff.2 (List.find?_eq_none.1 hnew)
  rw [Battle.held, afflictionsOf_eq hactor, stackedActor, List.filter_append, hnone]
  simp

/-- A further application that is accepted does to the affliction what the rule says. -/
theorem Stacked.accept (h : b.Stacked codex s id a first others b') {t : Option Nat}
    {g : List Affliction → List Affliction} {line : String}
    (hg : g (stackedActor s a first others).afflictions =
      (stackedActor s a first (others ++ [t])).afflictions)
    (hline : s.notice a.name (others.length + 1) = [line]) :
    b.Stacked codex s id a first (others ++ [t]) (b'.accept codex id s g line) := by
  have hactor := h.actor id
  rw [if_pos rfl] at hactor
  obtain ⟨actors, shields, heq⟩ := b'.accept_eq codex id s g line
  refine ⟨fun q => ?_, fun q k => ?_, ?_, ?_⟩
  · rw [actor?_accept, hactor, Option.map_some, hg, h.actor q]
    split <;> rfl
  · rw [b'.shield?_accept codex id s g line hactor q k, h.shield q k]
    split <;> rfl
  · rw [List.length_append, List.length_singleton, s.notices_succ, hline, ← List.append_assoc,
      ← h.log, heq]
  · rw [heq]
    exact congrArg (fun c : Battle =>
      { c with actors := actors, shields := shields, log := b'.log ++ [line] }) h.kept

/-- The first application is accepted. -/
theorem stacked_of_new (ha : b.actor? id = some a) (hnew : a.affliction? s.id = none)
    (first : Option Nat) : b.Stacked codex s id a first [] (b.afflict codex id s first).1 := by
  rw [afflict_of_new ha hnew]
  generalize hg : (· ++ [(⟨s.id, effectiveTurns s first, 1⟩ : Affliction)]) = g
  have hstacked : { a with afflictions := g a.afflictions } = stackedActor s a first [] := by
    rw [← hg, stackedActor, List.length_nil, s.stacksAfter_one, Status.turnsAfter]
    split <;> rfl
  obtain ⟨actors, shields, heq⟩ := b.accept_eq codex id s g _
  refine ⟨fun q => ?_, b.shield?_accept codex id s g _ ha, ?_, ?_⟩
  · rw [actor?_accept, ha, Option.map_some, hstacked]
  · rw [heq]
    rfl
  · rw [heq]

/-- A further application keeps to the rule. -/
theorem Stacked.again (h : b.Stacked codex s id a first others b')
    (hnew : a.affliction? s.id = none) (t : Option Nat) :
    b.Stacked codex s id a first (others ++ [t]) (b'.afflict codex id s t).1 := by
  have hactor := h.actor id
  rw [if_pos rfl] at hactor
  have hi : (stackedActor s a first others).affliction? s.id =
      some ⟨s.id, s.turnsAfter first others, s.stacksAfter (others.length + 1)⟩ :=
    affliction?_stackedActor hnew
  -- what the application leaves of the afflictions has the stacks and the turns that the rule says
  have hupdated : ∀ f : Affliction → Affliction,
      f ⟨s.id, s.turnsAfter first others, s.stacksAfter (others.length + 1)⟩ =
        ⟨s.id, s.turnsAfter first (others ++ [t]), s.stacksAfter (others.length + 1 + 1)⟩ →
      Affliction.updateFirst s.id f (stackedActor s a first others).afflictions =
        (stackedActor s a first (others ++ [t])).afflictions := by
    intro f hf
    rw [updateFirst_stackedActor hnew, hf, stackedActor, List.length_append, List.length_singleton]
  cases hr : s.stacking with
  | ignore =>
    have hone : s.stacking.addsStacks = false := by rw [hr]; rfl
    have hsame : stackedActor s a first (others ++ [t]) = stackedActor s a first others := by
      rw [stackedActor, stackedActor, s.turnsAfter_append_of_ignore hr,
        s.stacksAfter_of_not_addsStacks hone, s.stacksAfter_of_not_addsStacks hone]
    have hsilent : s.notice a.name (others.length + 1) = [] := by
      rw [Status.notice, if_neg (Nat.succ_ne_zero _), hr]
    rw [afflict_of_ignore hactor hi hr]
    refine ⟨fun q => ?_, h.shield, ?_, h.kept⟩
    · rw [hsame, h.actor q]
    · rw [List.length_append, List.length_singleton, s.notices_succ, hsilent, List.append_nil,
        h.log]
  | renew =>
    rw [afflict_of_renew hactor hi hr]
    have hnot : s.stacking ≠ .ignore := by rw [hr]; decide
    have hone : s.stacking.addsStacks = false := by rw [hr]; rfl
    refine h.accept (hupdated _ ?_) ?_
    · rw [s.turnsAfter_append hnot, s.stacksAfter_of_not_addsStacks hone,
        s.stacksAfter_of_not_addsStacks hone]
    · rw [Status.notice, if_neg (Nat.succ_ne_zero _), hr]
      rfl
  | count | magnitude =>
    have hnot : s.stacking ≠ .ignore := by rw [hr]; decide
    have hadds : s.stacking.addsStacks = true := by rw [hr]; rfl
    rw [afflict_of_addsStacks hactor hi hadds, s.nextStacks_stacksAfter hadds]
    refine h.accept (hupdated _ ?_) ?_
    · rw [s.turnsAfter_append hnot]
    · rw [Status.notice, if_neg (Nat.succ_ne_zero _), hr]
      rfl

/-! ## Any number of applications -/

/-- Where no effect answers it, an application is all that happens. -/
theorem applyStatus_of_quiet (hst : rules.codex.status? s.id = some s) (hquiet : s.onApply = [])
    {b : Battle} (hcan : b.canStack id s = true) (turns : Option Nat) (depth : Nat)
    (running : List Frame) :
    applyStatus rules (runHook rules depth) id s.id turns ⟨b, running⟩ =
      some (⟨(b.afflict rules.codex id s turns).1, running⟩, .proceed) := by
  have hnone : ∀ count scene, (HookCall.effects ⟨id, s.id, .onApply, none, count⟩ rules.codex
      scene).isEmpty = true := by
    intro count scene
    simp [HookCall.effects, hst, Status.hooked, hquiet]
  rcases heq : b.afflict rules.codex id s turns with ⟨b', count⟩
  simp only [applyStatus, hst, afflicted?_of_canStack hcan, heq]
  cases count with
  | none => rfl
  | some count => exact runHook_of_isEmpty (hnone _ _) depth

theorem applyStatus_of_full (hst : rules.codex.status? s.id = some s) {b : Battle}
    (hfull : b.canStack id s = false) (turns : Option Nat) (run : HookRunner)
    (running : List Frame) : applyStatus rules run id s.id turns ⟨b, running⟩ = none := by
  have hnone : b.afflicted? rules.codex id s turns = none := if_neg (Bool.eq_false_iff.1 hfull)
  simp only [applyStatus, hst, hnone]

theorem canStack_of_new (ha : b.actor? id = some a) (hnew : a.affliction? s.id = none) :
    b.canStack id s = true := by
  rw [canStack, ha, Option.bind_some, hnew, Option.all_none, Bool.or_true]

/-- After some applications one more can be counted exactly if there is room for it. -/
theorem Stacked.canStack_iff (h : b.Stacked codex s id a first others b')
    (hnew : a.affliction? s.id = none) :
    b'.canStack id s = true ↔ s.Counts (others.length + 1 + 1) := by
  have hactor := h.actor id
  rw [if_pos rfl] at hactor
  rw [s.counts_succ_iff, canStack, hactor, Option.bind_some, affliction?_stackedActor hnew,
    Option.all_some]
  cases s.stacking.addsStacks <;> simp

/-- As long as they can be counted, further applications keep to the rule one after the other. -/
theorem Stacked.each (hst : rules.codex.status? s.id = some s) (hquiet : s.onApply = [])
    (hnew : a.affliction? s.id = none) (ts : List (Option Nat))
    (hcounts : s.Counts (others.length + 1 + ts.length))
    (h : b.Stacked rules.codex s id a first others b') :
    ∃ b'', (∀ depth running, Step.each (applyStatus rules (runHook rules depth) id s.id) ts
        ⟨b', running⟩ = some (⟨b'', running⟩, .proceed)) ∧
      b.Stacked rules.codex s id a first (others ++ ts) b'' := by
  induction ts generalizing b' others with
  | nil =>
    rw [List.append_nil]
    exact ⟨b', fun _ _ => rfl, h⟩
  | cons t ts ih =>
    rw [List.length_cons] at hcounts
    have hcan : b'.canStack id s = true :=
      (h.canStack_iff hnew).2 (Status.counts_of_le (by omega) hcounts)
    have hlen : (others ++ [t]).length + 1 + ts.length = others.length + 1 + (ts.length + 1) := by
      rw [List.length_append, List.length_singleton]
      omega
    obtain ⟨b'', hrest, hstacked⟩ := ih (hlen ▸ hcounts) (h.again hnew t)
    rw [List.append_assoc, List.singleton_append] at hstacked
    refine ⟨b'', fun depth running => ?_, hstacked⟩
    rw [Step.each, Step.andThen, applyStatus_of_quiet hst hquiet hcan]
    exact hrest depth running

/-- Further applications that cannot be counted have no result. -/
theorem Stacked.each_eq_none (hst : rules.codex.status? s.id = some s) (hquiet : s.onApply = [])
    (hnew : a.affliction? s.id = none) (ts : List (Option Nat))
    (hsofar : s.Counts (others.length + 1)) (hfull : ¬s.Counts (others.length + 1 + ts.length))
    (h : b.Stacked rules.codex s id a first others b') (depth : Nat) (running : List Frame) :
    Step.each (applyStatus rules (runHook rules depth) id s.id) ts ⟨b', running⟩ = none := by
  induction ts generalizing b' others with
  | nil => exact absurd hsofar hfull
  | cons t ts ih =>
    rw [Step.each, Step.andThen]
    cases hcan : b'.canStack id s with
    | false => rw [applyStatus_of_full hst hcan]
    | true =>
      rw [applyStatus_of_quiet hst hquiet hcan]
      have hlen : (others ++ [t]).length = others.length + 1 := by
        rw [List.length_append, List.length_singleton]
      refine ih ?_ (fun hcounts => hfull ?_) (h.again hnew t)
      · rw [hlen]
        exact (h.canStack_iff hnew).1 hcan
      · rw [hlen] at hcounts
        exact Status.counts_of_le (by rw [List.length_cons]; omega) hcounts

/-- **Applied again and again, a status keeps to its stacking rule.** Let an actor not hold a status
that no effect answers, and let the status be applied to it for any turns, and then for others any
number of times. Unless there are more applications than can be counted, of a status that adds
stacks and allows as many, all of them go through, whatever hooks run around them. After them the
actor has one affliction of the status behind those that it had before: with one stack and the turns
of the first application where the rule ignores further ones, with one stack and the turns of the
last one where it renews, and else with the turns of the last one and as many stacks as there were
applications, up to the most that the status allows. The log has one line for each application that
is accepted, the shield of the status is what an accepted application grants now and none if that is
nothing, and all other actors, afflictions and shields are as they were, like everything else. -/
theorem stacks_by_rule (hst : rules.codex.status? s.id = some s) (hquiet : s.onApply = [])
    (ha : b.actor? id = some a) (hnew : a.affliction? s.id = none) (first : Option Nat)
    (others : List (Option Nat)) :
    (s.Counts (others.length + 1) → ∃ b', (∀ depth running,
        Step.each (applyStatus rules (runHook rules depth) id s.id) (first :: others)
          ⟨b, running⟩ = some (⟨b', running⟩, .proceed)) ∧
      b.Stacked rules.codex s id a first others b' ∧
      b'.held id s.id =
        [⟨s.id, s.turnsAfter first others, s.stacksAfter (others.length + 1)⟩] ∧
      (s.notices a.name (others.length + 1)).length =
        if s.stacking = .ignore then 1 else others.length + 1) ∧
    (¬s.Counts (others.length + 1) → ∀ depth running,
      Step.each (applyStatus rules (runHook rules depth) id s.id) (first :: others)
        ⟨b, running⟩ = none) := by
  have hcan : b.canStack id s = true := canStack_of_new ha hnew
  have hfirst : b.Stacked rules.codex s id a first [] (b.afflict rules.codex id s first).1 :=
    stacked_of_new ha hnew first
  have hone : s.Counts (([] : List (Option Nat)).length + 1) := fun _ _ => by decide
  have hlen : ([] : List (Option Nat)).length + 1 + others.length = others.length + 1 := by
    rw [List.length_nil]
    omega
  constructor
  · intro hcounts
    obtain ⟨b', hrest, hstacked⟩ := hfirst.each hst hquiet hnew others (hlen ▸ hcounts)
    refine ⟨b', fun depth running => ?_, hstacked, hstacked.held hnew, s.length_notices a.name _⟩
    rw [Step.each, Step.andThen, applyStatus_of_quiet hst hquiet hcan]
    exact hrest depth running
  · intro hfull depth running
    rw [Step.each, Step.andThen, applyStatus_of_quiet hst hquiet hcan]
    exact hfirst.each_eq_none hst hquiet hnew others hone (hlen ▸ hfull) depth running

end

/-- A hide that grows up to three layers, and shields as much with each new one. -/
def hide : Status :=
  { id := "hide", duration := 2, maxStacks := 3, stacking := .magnitude,
    shield := some { value := .flat 5 } }

/-- The hide is registered. -/
def hideRules : Rules := { codex := { statuses := Table.empty.insert "hide" hide } }

/-- Four applications make three layers, and the shield is that of one application. -/
theorem hide_has_three_layers :
    ∃ b', (∀ depth running,
        Step.each (applyStatus hideRules (runHook hideRules depth) "hero" "hide")
          [some 5, none, some 4, some 0] ⟨duel, running⟩ = some (⟨b', running⟩, .proceed)) ∧
      b'.held "hero" "hide" = [⟨"hide", 1, 3⟩] ∧
      b'.shield? "hero" "hide" = some ⟨"hide", 5, none⟩ ∧
      b'.log = ["Turn 1", "Hero is afflicted by hide.", "hide on Hero stacks to 2.",
        "hide on Hero stacks to 3.", "hide on Hero stacks to 3."] := by
  have hst : hideRules.codex.status? hide.id = some hide := rfl
  have ha : duel.actor? "hero" = some hero := rfl
  have hnew : hero.affliction? hide.id = none := rfl
  have hcounts : hide.Counts 4 := fun _ _ => by decide
  obtain ⟨b', happlied, hstacked, hheld, -⟩ :=
    (stacks_by_rule hst rfl ha hnew (some 5) [none, some 4, some 0]).1 hcounts
  have hgrant : b'.grant? hideRules.codex "hero" hide = some ⟨"hide", 5, none⟩ := by
    rw [grant?, hstacked.actor "hero"]
    decide +kernel
  refine ⟨b', happlied, hheld, ?_, ?_⟩
  · rw [hstacked.shield, if_pos ⟨rfl, rfl⟩, hgrant]
  · rw [hstacked.log]
    decide +kernel

end Battle

end Skirmish
