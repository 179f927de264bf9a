import Skirmish.Proofs.Backing
import Skirmish.Proofs.Frames
import Skirmish.Proofs.Sparing

/-!
# What a boundary leaves of a shield

An application that is accepted sets the shield of its status anew, and a status that wears off
takes the shield away. Where one status alone grants the shields of an id and hooks do nothing but
apply statuses, nothing else happens to such a shield at a boundary (`Deed.shield?_of_spares`). So
the shield is what its last grant has set, unless the status wears off after it
(`shield_of_last_grant`).

The order of the two is not for the holder to choose. Statuses without a turn left are all dropped
before the first of them wears off, and a last hook may then apply one that is still to wear off:
the holder has the status again, and its new shield goes with the old affliction
(`ward_loses_new_shield`).
-/

namespace Skirmish

/-- The shield that a status grants an actor now, if it has one of a positive amount. -/
def Battle.grant? (b : Battle) (codex : Codex) (id : ActorId) (s : Status) : Option Shield :=
  match s.shield, b.actor? id with
  | some g, some a =>
    let a := codex.effective a
    let amount := nearestAbove (g.value.resolve a a .hp)
    if 0 < amount then some ⟨g.id.getD s.id, amount, g.element⟩ else none
  | _, _ => none

namespace Battle

theorem grant?_congr {b b' : Battle} (h : b'.actors = b.actors) (codex : Codex) (id : ActorId)
    (s : Status) : b'.grant? codex id s = b.grant? codex id s := by
  rw [grant?, grant?, actor?, actor?, h]

theorem shield?_grantShield {b : Battle} {id : ActorId} (hid : b.actors.contains id = true)
    (codex : Codex) (s : Status) (q : ActorId) (k : String) :
    (b.grantShield codex id s).shield? q k =
      if q = id ∧ s.shieldId? = some k then b.grant? codex id s else b.shield? q k := by
  obtain ⟨a, ha⟩ := Table.contains_iff.1 hid
  have hactor : b.actor? id = some a := ha
  unfold grantShield grant? Status.shieldId?
  rw [hactor]
  cases s.shield with
  | none => simp
  | some g =>
    dsimp only
    rw [shield?_setShield]
    simp only [Option.map_some, Option.some_inj, eq_comm (a := k)]

/-- An accepted application sets the shield of its status, and no other one. -/
theorem shield?_afflict {b : Battle} {codex : Codex} {id : ActorId} {s : Status}
    {turns : Option Nat} (h : (b.afflict codex id s turns).2.isSome = true) (q : ActorId)
    (k : String) :
    (b.afflict codex id s turns).1.shield? q k =
      if q = id ∧ s.shieldId? = some k then (b.afflict codex id s turns).1.grant? codex id s
      else b.shield? q k := by
  rcases b.afflict_eq codex id s turns with heq | ⟨-, actors, log, n, hid, heq⟩
  · rw [heq] at h
    cases h
  · rw [heq]
    dsimp only
    rw [shield?_grantShield hid, grant?_congr (actors_grantShield ..)]
    rfl

theorem shield?_wearOff (b : Battle) (codex : Codex) (id : ActorId) (status : String) (q : ActorId)
    (k : String) :
    (b.wearOff codex id status).shield? q k =
      if q = id ∧ codex.granted? status = some k then none else b.shield? q k :=
  b.shield?_removeGranted codex id status q k

end Battle

/-! ## Deeds -/

variable {rules : Rules} {b b' : Battle} {x : ActorId} {st k : String} {d : Deed}

/-- A deed of hooks and boundaries that does not touch a status leaves the shield that the status
grants alone, unless the status wears off by it. -/
theorem Deed.shield?_of_spares (howns : rules.codex.Owns st k)
    (hd : d.May rules (fun e => e.kind = .applyStatus) b)
    (hspares : ¬d.Touches rules.codex x st b) :
    (d.perform rules b).shield? x k = if d.isEnd x st then none else b.shield? x k := by
  cases d with
  | aim s id =>
    obtain ⟨_, _, heq, -⟩ := b.resolveTargets_battle s id []
    exact Battle.shield?_congr (by rw [Deed.perform, heq]) x k
  | supply e o user =>
    obtain ⟨_, _, _, _, _, _, _, _, heq⟩ := b.supply_eq rules e o user
    exact Battle.shield?_congr (by rw [Deed.perform, heq]) x k
  | strike => cases hd.1.symm.trans hd.2.2
  | change e o user id =>
    have hkind : e.kind = .applyStatus := hd.1
    have hsame : (Deed.change e o user id).perform rules b = b := by
      simp only [Deed.perform, Battle.applyImmediate, hkind]
    exact Battle.shield?_congr (by rw [hsame]) x k
  | afflict id s turns =>
    cases haccepted : (b.afflict rules.codex id s turns).2 with
    | none =>
      rcases b.afflict_eq rules.codex id s turns with heq | ⟨-, _, _, _, -, heq⟩
      · exact Battle.shield?_congr (by rw [Deed.perform, heq]) x k
      · rw [heq] at haccepted
        cases haccepted
    | some n =>
      have hother : ¬(x = id ∧ s.shieldId? = some k) := by
        rintro ⟨rfl, hgrants⟩
        exact hspares (.inl ⟨s, turns, rfl, (howns.shieldId?_iff hd.1).1 hgrants,
          by rw [haccepted]; rfl⟩)
      rw [Deed.perform, Battle.shield?_afflict (by rw [haccepted]; rfl), if_neg hother]
      rfl
  | countDown | dropExpired => rfl
  | wearOff id status =>
    rw [Deed.perform, Battle.shield?_wearOff]
    simp only [howns.granted?_iff, Deed.isEnd, Bool.and_eq_true, beq_iff_eq, eq_comm (a := x)]

theorem Traced.shield?_of_spares {tr : Trace} (howns : rules.codex.Owns st k)
    (h : Traced rules (fun e => e.kind = .applyStatus) b tr b')
    (hspares : tr.Spares rules.codex x st) :
    b'.shield? x k = if tr.ends x st = 0 then b.shield? x k else none := by
  induction h with
  | nil => rfl
  | @cons b b' d tr hd h ih =>
    obtain ⟨hfirst, hrest⟩ := Trace.spares_cons.1 hspares
    rw [ih hrest, Deed.shield?_of_spares howns hd hfirst, Trace.ends, Trace.ends, List.countP_cons]
    cases d.isEnd x st <;> simp

/-! ## Boundaries -/

/-- **At a boundary a shield is what its last grant has set, unless its status wears off after
that.** This is for shields that one status alone grants, where hooks only apply statuses. Every
boundary that is passed has a trace, and in every such trace it depends on what comes after the last
application that the holder accepts. -/
theorem shield_of_last_grant (howns : rules.codex.Owns st k)
    (hc : rules.codex.HooksWithin fun e => e.kind = .applyStatus) :
    (∀ b' flow, b.play? rules (fun run => tick rules.codex run x) = some (b', flow) →
      ∃ tr, Ticks rules (fun e => e.kind = .applyStatus) x b tr flow b') ∧
    ∀ (before after : Trace) c s turns flow b',
      Ticks rules (fun e => e.kind = .applyStatus) x b
        (before ++ (c, .afflict x s turns) :: after) flow b' →
      s.id = st → (c.afflict rules.codex x s turns).2.isSome = true →
      after.Spares rules.codex x st →
        b'.shield? x k =
          if after.ends x st = 0 then (c.afflict rules.codex x s turns).1.grant? rules.codex x s
          else none := by
  refine ⟨fun b' flow h => Battle.ticks_play? hc h, ?_⟩
  intro before after c s turns flow b' h hs haccepted hspares
  obtain ⟨-, hmay, hafter⟩ := h.traced.split
  have hgrants : s.shieldId? = some k := (howns.shieldId?_iff hmay.1).2 hs
  have hset : (c.afflict rules.codex x s turns).1.shield? x k =
      (c.afflict rules.codex x s turns).1.grant? rules.codex x s := by
    rw [Battle.shield?_afflict haccepted, if_pos ⟨rfl, hgrants⟩]
  rw [hafter.shield?_of_spares howns hspares, Deed.perform, hset]

/-! ## An omen -/

/-- A ward shields its holder. -/
def ward : Status := { id := "ward", duration := 2, shield := some { value := .flat 5 } }

/-- An omen puts its holder under a ward when it wears off; a chill does nothing. -/
def omenRules : Rules where
  codex :=
    let omen : Status := { id := "omen", onExpire := [.applyStatus "ward" none] }
    let chill : Status := { id := "chill" }
    { statuses := ((Table.empty.insert "ward" ward).insert "omen" omen).insert "chill" chill }

/-- The duel, in which the hero has the shield of a ward and holds some statuses for one turn. -/
def omenDuel (statuses : List String) : Battle :=
  let held := Battle.duel.modifyActor "hero" fun a =>
    { a with afflictions := statuses.map fun st => ⟨st, 1, 1⟩ }
  { held with shields := Table.empty.insert "hero" [⟨"ward", 3, none⟩] }

/-- Of these statuses only the ward has a shield. -/
theorem granted?_omenRules {st k : String} (h : omenRules.codex.granted? st = some k) :
    st = "ward" := by
  have honly : omenRules.codex.statuses.Each fun st s => s.shield.isSome = true → st = "ward" := by
    decide +kernel
  obtain ⟨s, hs, hk⟩ := Option.bind_eq_some_iff.1 h
  obtain ⟨t, ht, rfl⟩ := Option.map_eq_some_iff.1 hs
  obtain ⟨g, hg, -⟩ := Option.map_eq_some_iff.1 hk
  exact honly st t ht (Option.isSome_iff_exists.2 ⟨g, hg⟩)

theorem within_omenRules : omenRules.codex.HooksWithin fun e => e.kind = .applyStatus := by
  decide +kernel

/-- A status without a last hook wears off without further ado. -/
theorem runsLast_of_quiet {content : Effect → Prop} {i : Affliction}
    (h : (rules.codex.status? i.status).elim [] (·.onExpire) = []) (b : Battle) :
    RunsLast rules content x i b [] .proceed b where
  traced := .nil b
  inner := List.forall_mem_nil _
  stops := nofun
  played := by
    split
    · exact ⟨0, by rw [h]; rfl⟩
    · exact ⟨rfl, rfl⟩

/-- The hero's statuses have lost their last turn. -/
def omenCounted : Battle :=
  let b := omenDuel ["ward", "omen", "chill"]
  b.countDown "hero" (b.statusesOf "hero")

/-- The ward and then the omen have worn off. -/
def omenOver : Battle :=
  ((omenCounted.dropExpired "hero").wearOff omenRules.codex "hero" "ward").wearOff
    omenRules.codex "hero" "omen"

/-- The omen has put the hero under a ward again. -/
def wardedAgain : Battle := (omenOver.afflict omenRules.codex "hero" ward none).1

theorem runsLast_omen :
    RunsLast omenRules (fun e => e.kind = .applyStatus) "hero" ⟨"omen", 0, 1⟩ omenOver
      [(omenOver, .afflict "hero" ward none)] .proceed wardedAgain where
  traced := .cons ⟨rfl, .applyStatus "ward" none, rfl, rfl, rfl, rfl⟩ (.nil _)
  inner := List.forall_mem_singleton.2 rfl
  stops := nofun
  played := by
    rw [if_pos (by decide +kernel)]
    exact ⟨1, by decide +kernel⟩

/-- The boundary at which the omen wears off after the ward and before the chill. -/
theorem ticks_omen :
    ∃ before, Ticks omenRules (fun e => e.kind = .applyStatus) "hero"
      (omenDuel ["ward", "omen", "chill"])
      (before ++ (omenOver, .afflict "hero" ward none) :: [(wardedAgain, .wearOff "hero" "chill")])
      .proceed (wardedAgain.wearOff omenRules.codex "hero" "chill") := by
  have hidle : ∀ b, Works omenRules (fun e => e.kind = .applyStatus) b [] .proceed b := fun b =>
    ⟨.nil b, List.forall_mem_nil _, nofun⟩
  have hexpired : omenCounted.expired "hero" =
      [⟨"ward", 0, 1⟩, ⟨"omen", 0, 1⟩, ⟨"chill", 0, 1⟩] := by
    decide +kernel
  have hexpires := Expires.next (runsLast_of_quiet (i := ⟨"ward", 0, 1⟩) rfl
    ((omenCounted.dropExpired "hero").wearOff omenRules.codex "hero" "ward"))
    (.next runsLast_omen (.next (runsLast_of_quiet (i := ⟨"chill", 0, 1⟩) rfl _) (.done _)))
  rw [← hexpired] at hexpires
  exact ⟨[_, _, _, _], .passed (hidle _) (hidle omenCounted) hexpires⟩

/-- Where the ward wears off before the omen, the hero keeps the shield of its new ward; a chill
that wears off after that does no harm. -/
theorem ward_keeps_new_shield :
    ∃ b', (omenDuel ["ward", "omen", "chill"]).play? omenRules
        (fun run => tick omenRules.codex run "hero") = some (b', .proceed) ∧
      b'.shield? "hero" "ward" = some ⟨"ward", 5, none⟩ := by
  obtain ⟨before, hticks⟩ := ticks_omen
  have howns : omenRules.codex.Owns "ward" "ward" := by decide +kernel
  have hspares : Trace.Spares omenRules.codex "hero" "ward"
      [(wardedAgain, .wearOff "hero" "chill")] := by
    rintro p hp (⟨s, turns, heq, -⟩ | ⟨r, hr, -⟩)
    · obtain rfl := List.mem_singleton.1 hp
      cases heq
    · obtain rfl := List.mem_singleton.1 hp
      cases hr
  have hshield := (shield_of_last_grant howns within_omenRules).2 _ _ _ _ _ _ _ hticks rfl
    (by decide +kernel) hspares
  exact ⟨_, by decide +kernel, hshield.trans (by decide +kernel)⟩

/-- The omen wears off before the ward, and the hero is put under a ward again. When the ward that
the hero held before wears off, the new shield goes with it: the hero holds a ward for two turns
without the shield that a ward grants. -/
theorem ward_loses_new_shield :
    (omenRules.codex.HooksWithin fun e => e.kind = .applyStatus) ∧
      (∀ st st' k, omenRules.codex.granted? st = some k → omenRules.codex.granted? st' = some k →
        st = st') ∧
      ∃ b', (omenDuel ["omen", "ward"]).play? omenRules
          (fun run => tick omenRules.codex run "hero") = some (b', .proceed) ∧
        b'.log = ["Turn 1", "Hero's omen wore off.", "Hero is afflicted by ward.",
          "Hero's ward wore off."] ∧
        b'.afflictionsOf "hero" = [⟨"ward", 2, 1⟩] ∧
        b'.grant? omenRules.codex "hero" ward = some ⟨"ward", 5, none⟩ ∧
        b'.shield? "hero" "ward" = none := by
  refine ⟨within_omenRules, fun st st' k h h' =>
    (granted?_omenRules h).trans (granted?_omenRules h').symm, ?_⟩
  have hticked : ((omenDuel ["omen", "ward"]).play? omenRules
      (fun run => tick omenRules.codex run "hero")).map (fun r =>
        (r.2, r.1.log, r.1.afflictionsOf "hero", r.1.grant? omenRules.codex "hero" ward,
          r.1.shield? "hero" "ward")) =
      some (.proceed, ["Turn 1", "Hero's omen wore off.", "Hero is afflicted by ward.",
        "Hero's ward wore off."], [⟨"ward", 2, 1⟩], some ⟨"ward", 5, none⟩, none) := by
    decide +kernel
  obtain ⟨⟨b', flow⟩, h, heq⟩ := Option.map_eq_some_iff.1 hticked
  simp only [Prod.mk.injEq] at heq
  obtain ⟨rfl, hlog, hheld, hgrant, hshield⟩ := heq
  exact ⟨b', h, hlog, hheld, hgrant, hshield⟩

end Skirmish
