import Mathlib.Data.List.Nodup
import Skirmish.Proofs.Answers

/-!
# Rosters, the turn order and the actors

A battle keeps its actors in four places: a table, the rosters of the two sides and the turn order.
`Enrolled` says that these agree, and `Rostered` spells out what that means for whoever reads them,
with a turn that some actor has.

A battle begins exactly when both sides have actors and no id is given twice (`create_ok_iff`). Then
it is rostered, and it stays so through every run, whatever is summoned (`rostered_of_run`).
-/

namespace Skirmish

open scoped List

namespace Battle

/-- The rosters, the turn order and the table of actors hold the same ids, each of them once. -/
structure Enrolled (b : Battle) : Prop where
  nodup : (b.players ++ b.enemies).Nodup
  perm : b.order.Perm (b.players ++ b.enemies)
  keys : ∀ id, b.actors.contains id = true ↔ id ∈ b.order
  own : ∀ id a, b.actor? id = some a → a.id = id

/-- No id stands twice in a roster or in both, the turn order holds the ids of both rosters once
each, the actors are those of the turn order, each of them under its own id, and someone has the
turn. -/
structure Rostered (b : Battle) : Prop where
  players : b.players.Nodup
  enemies : b.enemies.Nodup
  disjoint : b.players.Disjoint b.enemies
  perm : b.order.Perm (b.players ++ b.enemies)
  order : b.order.Nodup
  keys : ∀ id, id ∈ b.actors.keys ↔ id ∈ b.order
  own : ∀ id a, b.actor? id = some a → a.id = id
  current : b.current < b.order.length

theorem Enrolled.order_nodup {b : Battle} (h : b.Enrolled) : b.order.Nodup :=
  h.perm.nodup_iff.2 h.nodup

theorem Enrolled.rostered {b : Battle} (h : b.Enrolled) (hcur : b.current < b.order.length) :
    b.Rostered := by
  obtain ⟨hp, he, hdisj⟩ := List.nodup_append'.1 h.nodup
  exact ⟨hp, he, hdisj, h.perm, h.order_nodup, fun id => Table.mem_keys_iff.trans (h.keys id),
    h.own, hcur⟩

theorem Rostered.enrolled {b : Battle} (h : b.Rostered) : b.Enrolled :=
  ⟨List.nodup_append'.2 ⟨h.players, h.enemies, h.disjoint⟩, h.perm,
    fun id => Table.mem_keys_iff.symm.trans (h.keys id), h.own⟩

/-! ## Entering -/

theorem enrolled_bare (seed : Seed) : (bare seed).Enrolled := by
  refine ⟨List.nodup_nil, .refl _, fun id => ?_, fun id a h => ?_⟩
  · simp [bare, Table.contains]
  · cases h

/-- Whoever enters goes to the end of the turn order and of one roster, which is the same up to
order. -/
theorem perm_enter {b : Battle} (h : b.order.Perm (b.players ++ b.enemies)) (side : Side)
    (a : Actor) :
    (b.enter side a).order.Perm ((b.enter side a).players ++ (b.enter side a).enemies) := by
  have hend : (b.order ++ [a.id]).Perm (b.players ++ (b.enemies ++ [a.id])) := by
    rw [← List.append_assoc]
    exact h.append_right [a.id]
  cases side with
  | enemy => exact hend
  | player =>
    calc b.order ++ [a.id]
      _ ~ b.players ++ (b.enemies ++ [a.id]) := hend
      _ ~ b.players ++ ([a.id] ++ b.enemies) := List.perm_append_comm.append_left _
      _ = b.players ++ [a.id] ++ b.enemies := (List.append_assoc ..).symm

theorem Enrolled.enter {b : Battle} (h : b.Enrolled) {side : Side} {a : Actor}
    (hfree : b.actors.contains a.id = false) : (b.enter side a).Enrolled := by
  have hnew : a.id ∉ b.order := by
    intro hmem
    rw [(h.keys a.id).2 hmem] at hfree
    cases hfree
  have horder : (b.order ++ [a.id]).Nodup :=
    List.nodup_append'.2 ⟨h.order_nodup, List.nodup_singleton _, by simpa using hnew⟩
  refine ⟨(perm_enter h.perm side a).nodup_iff.1 horder, perm_enter h.perm side a, fun id => ?_,
    fun id a' ha' => ?_⟩
  · change (b.actors.insert a.id a).contains id = true ↔ id ∈ b.order ++ [a.id]
    rw [Table.contains_insert, Bool.or_eq_true, beq_iff_eq, h.keys, List.mem_append,
      List.mem_singleton]
    exact or_comm
  · change (b.actors.insert a.id a).get? id = some a' at ha'
    rw [Table.get?_insert] at ha'
    split at ha'
    · next hid =>
      cases ha'
      exact hid.symm
    · exact h.own id a' ha'

/-! ## Beginning -/

/-- The battle after some actors have entered on a side. -/
structure Entered (b : Battle) (side : Side) (ids : List ActorId) (b' : Battle) : Prop where
  enrolled : b'.Enrolled
  order : b'.order = b.order ++ ids
  players : b'.players = b.players ++ if side = .player then ids else []
  enemies : b'.enemies = b.enemies ++ if side = .enemy then ids else []
  current : b'.current = b.current

theorem entered_one {b : Battle} (h : b.Enrolled) {side : Side} {a : Actor}
    (hfree : b.actors.contains a.id = false) : b.Entered side [a.id] (b.enter side a) := by
  refine ⟨h.enter hfree, rfl, ?_, ?_, rfl⟩
  · cases side with
    | player => rfl
    | enemy => exact (List.append_nil _).symm
  · cases side with
    | player => exact (List.append_nil _).symm
    | enemy => rfl

theorem Entered.trans {b b' b'' : Battle} {side : Side} {ids ids' : List ActorId}
    (h : b.Entered side ids b') (h' : b'.Entered side ids' b'') :
    b.Entered side (ids ++ ids') b'' := by
  refine ⟨h'.enrolled, ?_, ?_, ?_, h'.current.trans h.current⟩
  · rw [h'.order, h.order, List.append_assoc]
  · rw [h'.players, h.players, List.append_assoc]
    split <;> rfl
  · rw [h'.enemies, h.enemies, List.append_assoc]
    split <;> rfl

theorem insertActors_of_free {b : Battle} {a : Actor} (h : b.actors.contains a.id = false)
    (side : Side) (as : List Actor) :
    b.insertActors side (a :: as) = (b.enter side a).insertActors side as := by
  simp only [insertActors, insertActor, h, Bool.false_eq_true, if_false]
  rfl

theorem insertActors_of_taken {b : Battle} {a : Actor} (h : b.actors.contains a.id = true)
    (side : Side) (as : List Actor) :
    b.insertActors side (a :: as) = .error (.duplicateActor a.id) := by
  simp only [insertActors, insertActor, h, if_true]
  rfl

/-- Actors can enter exactly when their ids are new and distinct. -/
theorem insertActors_ok_iff {b : Battle} (h : b.Enrolled) (side : Side) (as : List Actor) :
    (∃ b', b.insertActors side as = .ok b') ↔ (b.order ++ as.map (·.id)).Nodup := by
  induction as generalizing b with
  | nil => simpa [insertActors] using h.order_nodup
  | cons a as ih =>
    cases hc : b.actors.contains a.id with
    | true =>
      have hmem : a.id ∈ b.order := (h.keys a.id).1 hc
      rw [insertActors_of_taken hc]
      refine iff_of_false (fun ⟨_, hb'⟩ => by cases hb') fun hnodup => ?_
      exact (List.nodup_append'.1 hnodup).2.2 hmem List.mem_cons_self
    | false =>
      rw [insertActors_of_free hc, ih (h.enter hc), List.map_cons, ← List.singleton_append,
        ← List.append_assoc]
      rfl

/-- Actors that could enter stand at the end of the turn order and of their roster. -/
theorem entered_insertActors {b b' : Battle} (h : b.Enrolled) {side : Side} {as : List Actor}
    (hok : b.insertActors side as = .ok b') : b.Entered side (as.map (·.id)) b' := by
  induction as generalizing b with
  | nil =>
    cases hok
    exact ⟨h, by simp, by simp, by simp, rfl⟩
  | cons a as ih =>
    cases hc : b.actors.contains a.id with
    | true =>
      rw [insertActors_of_taken hc] at hok
      cases hok
    | false =>
      rw [insertActors_of_free hc] at hok
      exact (entered_one h hc).trans (ih (h.enter hc) hok)

/-- A battle begins once both sides have entered and neither of them is empty. -/
theorem create_eq_ok_iff {seed : Seed} {ps es : List Actor} {b : Battle} :
    create seed ps es = .ok b ↔
      ∃ b₁, (bare seed).insertActors .player ps = .ok b₁ ∧
        ∃ b₂, b₁.insertActors .enemy es = .ok b₂ ∧
          b₂.players ≠ [] ∧ b₂.enemies ≠ [] ∧ b₂.announce "Turn 1" = b := by
  have hlast : ∀ b₂ : Battle,
      (do if b₂.players.isEmpty || b₂.enemies.isEmpty then throw .emptySide
          return b₂.announce "Turn 1" : Except Fault Battle) = .ok b ↔
        b₂.players ≠ [] ∧ b₂.enemies ≠ [] ∧ b₂.announce "Turn 1" = b := by
    intro b₂
    cases hp : b₂.players with
    | nil => exact iff_of_false (fun h => by cases h) fun h => h.1 rfl
    | cons p ps =>
      cases he : b₂.enemies with
      | nil => exact iff_of_false (fun h => by cases h) fun h => h.2.1 rfl
      | cons e es =>
        refine ⟨fun h => ⟨List.cons_ne_nil _ _, List.cons_ne_nil _ _, ?_⟩, fun h => ?_⟩
        · exact Except.ok.inj h
        · exact congrArg Except.ok h.2.2
  unfold create
  simp only [bind_eq_ok_iff, hlast]

/-- What both sides have brought in when the battle begins. -/
theorem entered_both {seed : Seed} {ps es : List Actor} {b₁ b₂ : Battle}
    (h₁ : (bare seed).insertActors .player ps = .ok b₁)
    (h₂ : b₁.insertActors .enemy es = .ok b₂) :
    b₂.Enrolled ∧ b₂.order = (ps ++ es).map (·.id) ∧ b₂.players = ps.map (·.id) ∧
      b₂.enemies = es.map (·.id) ∧ b₂.current = 0 := by
  have hps := entered_insertActors (enrolled_bare seed) h₁
  have hes := entered_insertActors hps.enrolled h₂
  refine ⟨hes.enrolled, ?_, ?_, ?_, hes.current.trans hps.current⟩
  · rw [hes.order, hps.order, List.map_append]
    rfl
  · rw [hes.players, hps.players]
    exact List.append_nil _
  · rw [hes.enemies, hps.enemies]
    rfl

/-- A battle begins exactly when both sides have actors and no id is given twice. -/
theorem create_ok_iff (seed : Seed) (ps es : List Actor) :
    (∃ b, create seed ps es = .ok b) ↔
      ps ≠ [] ∧ es ≠ [] ∧ ((ps ++ es).map (·.id)).Nodup := by
  have hbare : (bare seed).Enrolled := enrolled_bare seed
  simp only [create_eq_ok_iff]
  constructor
  · rintro ⟨_, b₁, h₁, b₂, h₂, hp, he, -⟩
    obtain ⟨hb₂, horder, hplayers, henemies, -⟩ := entered_both h₁ h₂
    rw [hplayers] at hp
    rw [henemies] at he
    refine ⟨fun h => hp (by rw [h]; rfl), fun h => he (by rw [h]; rfl), ?_⟩
    rw [← horder]
    exact hb₂.order_nodup
  · rintro ⟨hp, he, hnodup⟩
    rw [List.map_append] at hnodup
    obtain ⟨b₁, h₁⟩ := (insertActors_ok_iff hbare .player ps).2 hnodup.of_append_left
    have hps := entered_insertActors hbare h₁
    have hboth : (b₁.order ++ es.map (·.id)).Nodup := by
      rw [hps.order]
      exact hnodup
    obtain ⟨b₂, h₂⟩ := (insertActors_ok_iff hps.enrolled .enemy es).2 hboth
    obtain ⟨-, -, hplayers, henemies, -⟩ := entered_both h₁ h₂
    refine ⟨_, b₁, h₁, b₂, h₂, ?_, ?_, rfl⟩
    · rw [hplayers]
      exact fun h => hp (List.map_eq_nil_iff.1 h)
    · rw [henemies]
      exact fun h => he (List.map_eq_nil_iff.1 h)

/-- At the beginning the four places agree, and someone has the turn. -/
theorem enrolled_create {seed : Seed} {ps es : List Actor} {b : Battle}
    (h : create seed ps es = .ok b) : b.Enrolled ∧ b.current < b.order.length := by
  obtain ⟨b₁, h₁, b₂, h₂, hp, -, rfl⟩ := create_eq_ok_iff.1 h
  obtain ⟨hb₂, horder, hplayers, -, hcur⟩ := entered_both h₁ h₂
  refine ⟨⟨hb₂.nodup, hb₂.perm, hb₂.keys, hb₂.own⟩, ?_⟩
  change b₂.current < b₂.order.length
  have hlen : b₂.order.length = b₂.players.length + b₂.enemies.length := by
    rw [hb₂.perm.length_eq, List.length_append]
  have hpos := List.length_pos_of_ne_nil hp
  omega

/-! ## Going on -/

theorem SameCast.enrolled {b b' : Battle} (h : b.SameCast b') (hb : b.Enrolled) : b'.Enrolled := by
  refine ⟨?_, ?_, fun id => ?_, fun id a' ha' => ?_⟩
  · rw [h.players, h.enemies]
    exact hb.nodup
  · rw [h.order, h.players, h.enemies]
    exact hb.perm
  · rw [h.contains, h.order]
    exact hb.keys id
  · obtain ⟨a, ha, hbecomes⟩ := h.actor_eq_some ha'
    exact hbecomes.id_eq.trans (hb.own id a ha)

/-- Shifts keep the four places in agreement, and the turn with someone. -/
theorem Shifts.enrolled {codex : Codex} {b b' : Battle} (h : b.Shifts codex b')
    (hb : b.Enrolled ∧ b.current < b.order.length) :
    b'.Enrolled ∧ b'.current < b'.order.length := by
  obtain ⟨henrolled, hcur⟩ := hb
  cases h with
  | kept h =>
    refine ⟨h.enrolled henrolled, ?_⟩
    rw [h.current, h.order]
    exact hcur
  | joined side template level n a _ _ _ _ hfree =>
    have hcounted : ({ b with spawned := n } : Battle).Enrolled :=
      ⟨henrolled.nodup, henrolled.perm, henrolled.keys, henrolled.own⟩
    refine ⟨hcounted.enter hfree, ?_⟩
    change b.current < (b.order ++ [summonId template n]).length
    rw [List.length_append]
    omega
  | passed =>
    obtain ⟨round, current, log, heq, hlt⟩ := b.advance_spec b.order.length
    rw [heq]
    exact ⟨⟨henrolled.nodup, henrolled.perm, henrolled.keys, henrolled.own⟩, hlt hcur⟩

theorem Rostered.after_run {b b' : Battle} (h : b.Rostered) {qs : List Request}
    (hrun : b.run? qs = some b') : b'.Rostered := by
  obtain ⟨henrolled, hcur⟩ : b'.Enrolled ∧ b'.current < b'.order.length :=
    run_induction (fun _ _ _ _ h hshift => hshift.enrolled h) hrun ⟨h.enrolled, h.current⟩
  exact henrolled.rostered hcur

/-- A battle at its beginning, with some stock of items. -/
def Fresh (b : Battle) : Prop :=
  ∃ seed ps es b₀ stock, create seed ps es = .ok b₀ ∧ b = { b₀ with inventory := stock }

/-- Whoever enters only takes a place among the actors. -/
theorem insertActors_eq {b b' : Battle} {side : Side} {as : List Actor}
    (h : b.insertActors side as = .ok b') :
    ∃ order actors players enemies, b' =
      { b with order := order, actors := actors, players := players, enemies := enemies } := by
  induction as generalizing b with
  | nil =>
    cases h
    exact ⟨_, _, _, _, rfl⟩
  | cons a as ih =>
    cases hc : b.actors.contains a.id with
    | true =>
      rw [insertActors_of_taken hc] at h
      cases h
    | false =>
      rw [insertActors_of_free hc] at h
      obtain ⟨order, actors, players, enemies, heq⟩ := ih h
      exact ⟨order, actors, players, enemies, heq⟩

/-- Beside its cast and its stock, a battle at its beginning is as bare as before anyone entered. -/
theorem Fresh.eq_bare {b : Battle} (h : b.Fresh) :
    ∃ seed order actors players enemies inventory log, b =
      { bare seed with
        order := order, actors := actors, players := players, enemies := enemies,
        inventory := inventory, log := log } := by
  obtain ⟨seed, ps, es, b₀, stock, hcreate, rfl⟩ := h
  obtain ⟨b₁, h₁, b₂, h₂, -, -, rfl⟩ := create_eq_ok_iff.1 hcreate
  obtain ⟨_, _, _, _, rfl⟩ := insertActors_eq h₁
  obtain ⟨_, _, _, _, rfl⟩ := insertActors_eq h₂
  exact ⟨seed, _, _, _, _, stock, _, rfl⟩

/-- No one has a shield or has used an action when a battle begins. -/
theorem Fresh.untouched {b : Battle} (h : b.Fresh) : b.shields = ∅ ∧ b.charges = ∅ := by
  obtain ⟨_, _, _, _, _, _, _, rfl⟩ := h.eq_bare
  exact ⟨rfl, rfl⟩

theorem Fresh.rostered {b : Battle} (h : b.Fresh) : b.Rostered := by
  obtain ⟨seed, ps, es, b₀, stock, hcreate, rfl⟩ := h
  obtain ⟨henrolled, hcur⟩ := enrolled_create hcreate
  exact Enrolled.rostered ⟨henrolled.nodup, henrolled.perm, henrolled.keys, henrolled.own⟩ hcur

/-- A battle to which some run leads from its beginning. -/
def Reachable (b : Battle) : Prop :=
  ∃ seed ps es b₀ qs, create seed ps es = .ok b₀ ∧ b₀.run? qs = some b

theorem Reachable.enrolled {b : Battle} (h : b.Reachable) :
    b.Enrolled ∧ b.current < b.order.length := by
  obtain ⟨seed, ps, es, b₀, qs, hcreate, hrun⟩ := h
  exact run_induction (fun _ _ _ _ h hshift => hshift.enrolled h) hrun (enrolled_create hcreate)

/-- **A battle begins exactly when both sides have actors and no id is given twice, and then its
rosters, its turn order and its actors agree after every run.** -/
theorem rostered_of_run (seed : Seed) (ps es : List Actor) :
    ((∃ b, create seed ps es = .ok b) ↔
        ps ≠ [] ∧ es ≠ [] ∧ ((ps ++ es).map (·.id)).Nodup) ∧
      ∀ b, create seed ps es = .ok b →
        ∀ qs b', b.run? qs = some b' → b'.Rostered := by
  refine ⟨create_ok_iff seed ps es, fun b hb qs b' hrun => ?_⟩
  obtain ⟨henrolled, hcur⟩ : b'.Enrolled ∧ b'.current < b'.order.length :=
    run_induction (fun _ _ _ _ h hshift => hshift.enrolled h) hrun (enrolled_create hb)
  exact henrolled.rostered hcur

/-- An enemy under the id that the first imp would get. -/
def lookalike : Actor := { slime with id := "imp#1" }

/-- The hero summons an imp and passes the turn. -/
def reinforcement : List Request :=
  [⟨impRules, .resolve (.effect (.summon "imp") {} "hero" [])⟩, ⟨impRules, .pass⟩]

theorem rostered_beside_lookalike :
    ∃ b b', create ⟨7⟩ [hero] [lookalike] = .ok b ∧ b.run? reinforcement = some b' ∧
      b'.order = ["hero", "imp#1", "imp#2"] ∧ b'.Rostered := by
  have hruns := rostered_of_run ⟨7⟩ [hero] [lookalike]
  obtain ⟨b, hb⟩ := hruns.1.2 (by decide)
  obtain ⟨b', hb', horder⟩ :
      ∃ b', b.run? reinforcement = some b' ∧ b'.order = ["hero", "imp#1", "imp#2"] := by
    have h : ((create ⟨7⟩ [hero] [lookalike]).toOption.bind fun b =>
        (b.run? reinforcement).map (·.order)) = some ["hero", "imp#1", "imp#2"] := by
      decide +kernel
    rw [hb] at h
    exact Option.map_eq_some_iff.1 h
  exact ⟨b, b', hb, hb', horder, hruns.2 b hb reinforcement b' hb'⟩

end Battle

end Skirmish
