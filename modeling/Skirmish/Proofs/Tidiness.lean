import Mathlib.Data.List.Nodup
import Skirmish.Proofs.Statuses

/-!
# The afflictions of an actor are tidy

An actor holds no status twice, every affliction has a turn and a stack left, and no more stacks
than its status allows; a status that does not add stacks has one. That is what finding, changing
and removing an affliction by its status relies on, but no operation checks it: an application
either finds the status or adds it.

At the boundary of its turn an actor may hold afflictions without a turn left, from the moment they
are counted down until they are dropped, and hooks run in between. So tidiness has a parameter, the
fewest turns that an affliction may have left: it is one, and none for the actor at whose boundary
this is. All work of effects and hooks keeps it either way (`TidyFrom.deed`), the boundary lowers it
and raises it again (`TidyFrom.ticks`), and so every run that does not end the battle leaves every
actor tidy (`tidy_of_run`).
-/

namespace Skirmish

/-! ## Tidy afflictions -/

/-- An affliction with some turns left and as many stacks as its status allows. -/
structure Affliction.Tidy (codex : Codex) (least : Nat) (i : Affliction) : Prop where
  remaining : least ≤ i.remaining
  stacked : 1 ≤ i.stackCount
  capped : ∀ s, codex.status? i.status = some s → i.stackCount ≤ max 1 s.maxStacks
  single : ∀ s, codex.status? i.status = some s →
    s.stacking = .ignore ∨ s.stacking = .renew → i.stackCount = 1

/-- Tidy afflictions of distinct statuses. -/
structure Affliction.TidyList (codex : Codex) (least : Nat) (is : List Affliction) : Prop where
  nodup : (is.map (·.status)).Nodup
  each : ∀ i ∈ is, i.Tidy codex least

/-- Whatever level they are given, the makers of enemies make actors with tidy afflictions. -/
def Codex.SpawnsTidy (c : Codex) : Prop :=
  ∀ template level a, level ≤ greatestCount → c.spawn? template level = some a →
    Affliction.TidyList c 1 a.afflictions

instance (codex : Codex) (least : Nat) (i : Affliction) : Decidable (i.Tidy codex least) :=
  decidable_of_iff (least ≤ i.remaining ∧ 1 ≤ i.stackCount ∧
      ∀ s ∈ codex.status? i.status, i.stackCount ≤ max 1 s.maxStacks ∧
        (s.stacking = .ignore ∨ s.stacking = .renew → i.stackCount = 1))
    ⟨fun ⟨hr, hs, h⟩ => ⟨hr, hs, fun s hs => (h s hs).1, fun s hs => (h s hs).2⟩,
      fun h => ⟨h.remaining, h.stacked, fun s hs => ⟨h.capped s hs, h.single s hs⟩⟩⟩

instance (codex : Codex) (least : Nat) (is : List Affliction) :
    Decidable (Affliction.TidyList codex least is) :=
  decidable_of_iff ((is.map (·.status)).Nodup ∧ ∀ i ∈ is, i.Tidy codex least)
    ⟨fun ⟨hn, h⟩ => ⟨hn, h⟩, fun h => ⟨h.nodup, h.each⟩⟩

variable {codex : Codex} {least : Nat}

theorem tidyList_nil : Affliction.TidyList codex least [] := ⟨List.nodup_nil, List.forall_mem_nil _⟩

theorem Affliction.Tidy.mono {least' : Nat} {i : Affliction} (h : i.Tidy codex least)
    (hle : least' ≤ least) : i.Tidy codex least' :=
  ⟨Nat.le_trans hle h.remaining, h.stacked, h.capped, h.single⟩

namespace Affliction.TidyList

variable {is is' : List Affliction}

theorem mono {least' : Nat} (h : TidyList codex least is) (hle : least' ≤ least) :
    TidyList codex least' is :=
  ⟨h.nodup, fun i hi => (h.each i hi).mono hle⟩

theorem filter (h : TidyList codex least is) (p : Affliction → Bool) :
    TidyList codex least (is.filter p) :=
  ⟨h.nodup.sublist (List.filter_sublist.map _), fun i hi => h.each i (List.mem_filter.1 hi).1⟩

/-- An accepted application keeps afflictions tidy: the affliction that it changes begins anew, and
its stacks are at most those that the status allows. -/
theorem accepts {s : Status} {turns n : Nat} (h : TidyList codex least is)
    (hs : codex.status? s.id = some s) (hturns : least ≤ turns) (ha : Accepts s turns is is' n) :
    TidyList codex least is' := by
  cases ha with
  | added hnew =>
    refine ⟨?_, fun i hi => ?_⟩
    · rw [List.map_append, List.map_singleton, List.nodup_append_comm, List.singleton_append,
        List.nodup_cons]
      refine ⟨fun hmem => ?_, h.nodup⟩
      obtain ⟨i, hi, hid⟩ := List.mem_map.1 hmem
      exact hnew i hi hid
    · rcases List.mem_append.1 hi with hold | hlast
      · exact h.each i hold
      · obtain rfl := List.mem_singleton.1 hlast
        exact ⟨hturns, Nat.le_refl 1, fun _ _ => Nat.le_max_left _ _, fun _ _ _ => rfl⟩
  | @renewed before after i hr _ hi =>
    have hold := h.each i (List.mem_append_right _ List.mem_cons_self)
    refine ⟨by simpa using h.nodup, fun j hj => ?_⟩
    rw [List.mem_append, List.mem_cons] at hj
    rcases hj with hj | rfl | hj
    · exact h.each j (List.mem_append_left _ hj)
    · exact ⟨hturns, hold.stacked, hold.capped, hold.single⟩
    · exact h.each j (List.mem_append_right _ (List.mem_cons_of_mem _ hj))
  | @stacked before after i hr _ hi =>
    refine ⟨by simpa using h.nodup, fun j hj => ?_⟩
    rw [List.mem_append, List.mem_cons] at hj
    rcases hj with hj | rfl | hj
    · exact h.each j (List.mem_append_left _ hj)
    · have hcount : 1 ≤ Battle.nextStacks s i.stackCount ∧
          Battle.nextStacks s i.stackCount ≤ max 1 s.maxStacks := by
        unfold Battle.nextStacks
        omega
      refine ⟨hturns, hcount.1, fun s' hs' => ?_, fun s' hs' hsingle => ?_⟩
      all_goals
        obtain rfl : s = s' := Option.some.inj (hs.symm.trans (hi ▸ hs'))
      · exact hcount.2
      · rcases hsingle with hsingle | hsingle <;> rw [hsingle] at hr <;> cases hr
    · exact h.each j (List.mem_append_right _ (List.mem_cons_of_mem _ hj))

end Affliction.TidyList

namespace Battle

/-! ## Everyone's afflictions -/

/-- The afflictions of everyone are tidy, with some number of turns left that depends on the
actor. -/
def TidyFrom (codex : Codex) (least : ActorId → Nat) (b : Battle) : Prop :=
  ∀ q, Affliction.TidyList codex (least q) (b.afflictionsOf q)

/-- The afflictions of every actor are tidy, with at least one turn left. -/
def Tidy (b : Battle) (codex : Codex) : Prop :=
  ∀ q a, b.actor? q = some a → Affliction.TidyList codex 1 a.afflictions

theorem tidy_iff {b : Battle} : b.Tidy codex ↔ b.TidyFrom codex fun _ => 1 := by
  refine ⟨fun h q => ?_, fun h q a ha => afflictionsOf_eq ha ▸ h q⟩
  unfold afflictionsOf
  cases ha : b.actor? q with
  | none => exact tidyList_nil
  | some a => exact h q a ha

instance (b : Battle) (codex : Codex) : Decidable (b.Tidy codex) :=
  decidable_of_iff (∀ e ∈ b.actors.entries, Affliction.TidyList codex 1 e.2.afflictions)
    ⟨fun h q a ha => h (q, a) (Table.mem_entries_iff.2 ha),
      fun h e he => h e.1 e.2 (Table.mem_entries_iff.1 he)⟩

variable {rules : Rules} {content : Effect → Prop} {b b' : Battle} {least : ActorId → Nat}

theorem TidyFrom.congr (h : b.TidyFrom codex least)
    (ha : ∀ q, b'.afflictionsOf q = b.afflictionsOf q) : b'.TidyFrom codex least :=
  fun q => ha q ▸ h q

theorem TidyFrom.perform (h : b.TidyFrom codex least) (r : Removal) :
    (r.perform codex b).TidyFrom codex least := by
  intro q
  rw [Removal.afflictionsOf_perform]
  split
  · exact (h q).filter _
  · exact h q

/-- **No work of effects and hooks unsettles tidy afflictions**, also where they need not have a
turn left. -/
theorem TidyFrom.deed {d : Deed} (h : b.TidyFrom rules.codex least)
    (hspawn : rules.codex.SpawnsTidy) (hleast : ∀ q, least q ≤ 1) (hinner : d.isBoundary = false)
    (hd : d.May rules content b) : (d.perform rules b).TidyFrom rules.codex least := by
  rcases Deed.perform_cases hinner hd with
    ⟨huntouched, -⟩ | ⟨r, log, -, heq⟩ | ⟨id, s, turns, rfl⟩
  · intro q
    rcases huntouched.statuses q with hsame | ⟨-, template, level, a, hlevel, ha, hnew⟩
    · exact hsame ▸ h q
    · exact hnew ▸ (hspawn template level a hlevel ha).mono (hleast q)
  · rw [heq]
    exact (h.perform r).congr fun _ => rfl
  · change (b.afflict rules.codex id s turns).1.TidyFrom _ _
    rcases b.afflict_cases rules.codex id s turns with heq | ⟨b', is, n, heq, hto, hafter, -⟩
    · rw [heq]
      exact h
    · rw [heq]
      intro q
      rw [hafter]
      split
      · next hq =>
        subst hq
        have hturns : least q ≤ effectiveTurns s turns :=
          Nat.le_trans (hleast q) (Nat.le_max_left _ _)
        exact (h q).accepts hd.1 hturns hto
      · exact h q

theorem TidyFrom.works {tr : Trace} {flow : Flow} (h : b.TidyFrom rules.codex least)
    (hspawn : rules.codex.SpawnsTidy) (hleast : ∀ q, least q ≤ 1)
    (hworks : Works rules content b tr flow b') : b'.TidyFrom rules.codex least :=
  hworks.induction (fun _ _ hinner hd hc => hc.deed hspawn hleast hinner hd) h

/-! ## Boundaries -/

/-- At the boundary of an actor its afflictions need not have a turn left. -/
def leastAt (x : ActorId) (q : ActorId) : Nat := if q = x then 0 else 1

theorem leastAt_le (x q : ActorId) : leastAt x q ≤ 1 := by
  unfold leastAt
  split <;> decide

theorem TidyFrom.countDown (h : b.TidyFrom codex fun _ => 1) (x : ActorId)
    (statuses : List String) : (b.countDown x statuses).TidyFrom codex (leastAt x) := by
  intro q
  rw [afflictionsOf_countDown, leastAt]
  split
  · refine ⟨?_, fun i hi => ?_⟩
    · have hsame : ∀ i : Affliction, (if statuses.contains i.status then
          { i with remaining := i.remaining - 1 } else i).status = i.status := by
        intro i
        split <;> rfl
      simpa only [List.map_map, Function.comp_def, hsame] using (h q).nodup
    · obtain ⟨j, hj, rfl⟩ := List.mem_map.1 hi
      have htidy := (h q).each j hj
      split
      · exact ⟨Nat.zero_le _, htidy.stacked, htidy.capped, htidy.single⟩
      · exact htidy.mono (Nat.zero_le 1)
  · exact h q

theorem TidyFrom.dropExpired {x : ActorId} (h : b.TidyFrom codex (leastAt x)) :
    (b.dropExpired x).TidyFrom codex fun _ => 1 := by
  intro q
  have hq := h q
  rw [afflictionsOf_dropExpired]
  rw [leastAt] at hq
  split
  · refine ⟨(hq.filter _).nodup, fun i hi => ?_⟩
    obtain ⟨hmem, hleft⟩ := List.mem_filter.1 hi
    have htidy := hq.each i hmem
    have hone : 1 ≤ i.remaining := Nat.pos_of_ne_zero (bne_iff_ne.1 hleft)
    exact ⟨hone, htidy.stacked, htidy.capped, htidy.single⟩
  · next hne => rwa [if_neg hne] at hq

theorem TidyFrom.expires {x : ActorId} {is : List Affliction} {tr : Trace} {flow : Flow}
    (h : b.TidyFrom rules.codex fun _ => 1) (hspawn : rules.codex.SpawnsTidy)
    (hexpires : Expires rules content x is b tr flow b') :
    b'.TidyFrom rules.codex fun _ => 1 := by
  have hleast : ∀ _ : ActorId, 1 ≤ 1 := fun _ => Nat.le_refl 1
  induction hexpires with
  | done => exact h
  | @halted i _ b _ _ hlast =>
    have hworn := h.congr (b.afflictionsOf_wearOff rules.codex x i.status)
    exact hworn.works hspawn hleast hlast.toWorks
  | @next i _ b _ _ _ _ _ hlast _ ih =>
    have hworn := h.congr (b.afflictionsOf_wearOff rules.codex x i.status)
    exact ih (hworn.works hspawn hleast hlast.toWorks)

/-- **A boundary that does not halt leaves afflictions tidy**, though they are not so throughout. -/
theorem TidyFrom.ticks {x : ActorId} {tr : Trace} {flow : Flow}
    (h : b.TidyFrom rules.codex fun _ => 1) (hspawn : rules.codex.SpawnsTidy)
    (hticks : Ticks rules content x b tr flow b') (hgoing : b'.isOver = false) :
    b'.TidyFrom rules.codex fun _ => 1 := by
  have hleast : ∀ _ : ActorId, 1 ≤ 1 := fun _ => Nat.le_refl 1
  cases hticks with
  | free => exact h
  | haltedBefore h => cases (h.stops rfl).symm.trans hgoing
  | haltedAfter _ h' => cases (h'.stops rfl).symm.trans hgoing
  | passed hbefore hafter hexpires =>
    have hcounted := (h.works hspawn hleast hbefore).countDown x (b.statusesOf x)
    have hdropped := (hcounted.works hspawn (leastAt_le x) hafter).dropExpired
    exact hdropped.expires hspawn hexpires

/-! ## Runs -/

/-- **Where the afflictions of all actors are tidy, of those that begin the battle and of those that
makers make, every run that does not leave the battle over leaves the afflictions of every actor
tidy: no status twice, each with a turn and a stack left, with no more stacks than its status
allows, and with one stack if the status does not add any.** -/
theorem tidy_of_run (hspawn : codex.SpawnsTidy) (hb : b.Tidy codex) {qs : List Request}
    (hqs : ∀ q ∈ qs, q.rules.codex = codex) (h : b.run? qs = some b')
    (hgoing : b'.isOver = false) : b'.Tidy codex := by
  refine tidy_iff.2 (going_induction (fun q _ => q.within_true) ?_ h hgoing (tidy_iff.1 hb))
  intro q hq c tr c' hc hgoing' hstirs
  obtain rfl := hqs q hq
  cases hstirs with
  | worked _ _ h hworks h' =>
    exact ((hc.congr h.afflictions).works hspawn (fun _ => Nat.le_refl 1) hworks).congr
      h'.afflictions
  | ticked _ _ hticks h' => exact (hc.ticks hspawn hticks (h'.going hgoing')).congr h'.afflictions
  | removed => exact hc.perform _

/-! ## Venom -/

/-- Whoever ends its turn under venom gets it anew, stacked twice at most. -/
def venomRules : Rules where
  codex :=
    let venom : Status :=
      { id := "venom", maxStacks := 2, stacking := .count,
        onTurnEnd := [.applyStatus "venom" none] }
    { statuses := Table.empty.insert "venom" venom }

/-- The duel with a hero under venom. -/
def venomDuel : Battle :=
  duel.modifyActor "hero" fun a => { a with afflictions := [⟨"venom", 1, 1⟩] }

/-- Two turns of the hero stack the venom that has no turn left in between, but only once. -/
theorem tidy_under_venom :
    ∃ b', venomDuel.run? [⟨venomRules, .pass⟩, ⟨venomRules, .pass⟩, ⟨venomRules, .pass⟩] = some b' ∧
      b'.afflictionsOf "hero" = [⟨"venom", 1, 2⟩] ∧ b'.Tidy venomRules.codex := by
  have hrun : (venomDuel.run? [⟨venomRules, .pass⟩, ⟨venomRules, .pass⟩, ⟨venomRules, .pass⟩]).map
      (fun b => (b.afflictionsOf "hero", b.isOver)) = some ([⟨"venom", 1, 2⟩], false) := by
    decide +kernel
  obtain ⟨b', h, heq⟩ := Option.map_eq_some_iff.1 hrun
  obtain ⟨hheld, hgoing⟩ := Prod.mk.inj heq
  have hspawn : venomRules.codex.SpawnsTidy := by
    intro template level a _ ha
    cases ha
  have hqs : ∀ q ∈ [(⟨venomRules, .pass⟩ : Request), ⟨venomRules, .pass⟩, ⟨venomRules, .pass⟩],
      q.rules.codex = venomRules.codex := by
    intro q hq
    simp only [List.mem_cons, List.not_mem_nil, or_false, or_self] at hq
    rw [hq]
  exact ⟨b', h, hheld, tidy_of_run hspawn (by decide +kernel) hqs h hgoing⟩

end Battle

end Skirmish
