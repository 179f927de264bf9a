import Skirmish.Proofs.Nesting
import Skirmish.Proofs.Stores
import Skirmish.Proofs.Targeting

/-!
# Summons

The id of a summoned actor is that of its template with a number, and the number goes up by one
until no actor has that id. `Seeks` is this search without any bound, and `Enlists` are summons that
search so, one after the other.

Distinct numbers make distinct ids (`summonId_injective`), so a search passes no more numbers than
there are actors and comes to its end (`exists_seeks`); the number at which it ends is the one that
`freeNumber?` finds within its bound (`Seeks.freeNumber?_eq`). So as long as the numbers are counts
of 32 bits, an effect brings in just as many actors as it says, under ids that are new, whoever had
been given the ids of templates before (`summons_exactly`).
-/

namespace Skirmish

namespace Battle

variable {b b₁ b₂ b' : Battle} {template : String} {k : Nat}

/-! ## Ids -/

theorem summonId_injective (template : String) : Function.Injective (summonId template) :=
  fun _ _ h => Nat.repr_injective ((String.append_right_inj _).1 h)

/-- Numbers in a row whose ids are all taken are no more than there are actors. -/
theorem le_size_of_taken {n d : Nat}
    (h : ∀ m, n < m → m ≤ n + d → b.actors.contains (summonId template m) = true) :
    d ≤ b.actors.size := by
  have hnodup : ((List.range' (n + 1) d).map (summonId template)).Nodup :=
    List.Nodup.map (summonId_injective template) (List.nodup_range' ..)
  have hle := Table.length_le_size hnodup fun id hid => by
    obtain ⟨m, hm, rfl⟩ := List.mem_map.1 hid
    have hrange := List.mem_range'_1.1 hm
    exact h m (by omega) (by omega)
  rwa [List.length_map, List.length_range'] at hle

/-! ## The search for an id -/

/-- The search for the id of a summoned actor, from a battle and after a number of increments: the
number goes up by one until its id is free. -/
inductive Seeks (template : String) : Battle → Nat → Battle → Prop where
  | free {b : Battle} (hfree : b.actors.contains (summonId template (b.spawned + 1)) = false) :
      Seeks template b 1 { b with spawned := b.spawned + 1 }
  | taken {b b' : Battle} {k : Nat}
      (htaken : b.actors.contains (summonId template (b.spawned + 1)) = true)
      (hrest : Seeks template { b with spawned := b.spawned + 1 } k b') :
      Seeks template b (k + 1) b'

namespace Seeks

/-- A search only counts, passes numbers whose ids are taken and ends at one whose id is free. -/
theorem spec (h : b.Seeks template k b') :
    0 < k ∧ b' = { b with spawned := b.spawned + k } ∧
      b.actors.contains (summonId template (b.spawned + k)) = false ∧
      ∀ m, b.spawned < m → m < b.spawned + k →
        b.actors.contains (summonId template m) = true := by
  induction h with
  | free hfree => exact ⟨Nat.one_pos, rfl, hfree, fun m _ _ => by omega⟩
  | @taken b b' k htaken _ ih =>
    obtain ⟨-, rfl, hfree, hpassed⟩ := ih
    have hassoc : b.spawned + 1 + k = b.spawned + (k + 1) := by omega
    simp only [hassoc] at hfree hpassed
    refine ⟨Nat.succ_pos k, by simp only [hassoc], hfree, fun m hm hlt => ?_⟩
    rcases Nat.eq_or_lt_of_le (Nat.succ_le_of_lt hm) with rfl | hm
    · exact htaken
    · exact hpassed m hm hlt

theorem free_id (h : b.Seeks template k b') :
    b.actors.contains (summonId template b'.spawned) = false := by
  obtain ⟨-, rfl, hfree, -⟩ := h.spec
  exact hfree

theorem actors_eq (h : b.Seeks template k b') : b'.actors = b.actors := by
  obtain ⟨-, rfl, -⟩ := h.spec
  rfl

theorem spawned_eq (h : b.Seeks template k b') : b'.spawned = b.spawned + k := by
  obtain ⟨-, rfl, -⟩ := h.spec
  rfl

/-- All numbers but the last one that a search tries are taken, so they are no more than there are
actors. -/
theorem le_size (h : b.Seeks template k b') : k ≤ b.actors.size + 1 := by
  obtain ⟨-, -, -, hpassed⟩ := h.spec
  -- the last number is free, so only those before it can be counted
  have hle : k - 1 ≤ b.actors.size := le_size_of_taken fun m hm hle => hpassed m hm (by omega)
  omega

/-- The bounded search finds the number at which the search without a bound ends. -/
theorem freeNumber?_eq (h : b.Seeks template k b') :
    b.freeNumber? template = some b'.spawned := by
  have hle := h.le_size
  have hfree := h.free_id
  obtain ⟨hpos, -, -, hpassed⟩ := h.spec
  rw [h.spawned_eq] at hfree ⊢
  refine List.find?_range'_eq_some.2
    ⟨by simp [hfree], List.mem_range'_1.2 (by omega), fun m hm hlt => ?_⟩
  simp [hpassed m hm hlt]

end Seeks

/-- However far away a free number is, the search comes to its end there or before. -/
theorem exists_seeks_of_free (d : Nat) (b : Battle)
    (h : b.actors.contains (summonId template (b.spawned + d + 1)) = false) :
    ∃ k b', b.Seeks template k b' := by
  induction d generalizing b with
  | zero => exact ⟨_, _, .free h⟩
  | succ d ih =>
    cases htaken : b.actors.contains (summonId template (b.spawned + 1)) with
    | false => exact ⟨_, _, .free htaken⟩
    | true =>
      have hassoc : b.spawned + 1 + d + 1 = b.spawned + (d + 1) + 1 := by omega
      rw [← hassoc] at h
      obtain ⟨k, b', hrest⟩ := ih { b with spawned := b.spawned + 1 } h
      exact ⟨_, _, .taken htaken hrest⟩

/-- Every search comes to its end, as more numbers than there are actors are not all taken. -/
theorem exists_seeks (b : Battle) (template : String) : ∃ k b', b.Seeks template k b' := by
  by_contra hnone
  have htaken : ∀ m, b.spawned < m → m ≤ b.spawned + (b.actors.size + 1) →
      b.actors.contains (summonId template m) = true := by
    intro m hm _
    by_contra hfree
    obtain ⟨d, rfl⟩ := Nat.exists_eq_add_of_lt hm
    exact hnone (exists_seeks_of_free d b (Bool.eq_false_iff.2 hfree))
  have hle := le_size_of_taken htaken
  omega

/-! ## Reinforcements -/

/-- Actors that are like `a` but for their ids have joined a side: under distinct ids that were
free, at the end of its roster and of the turn order. No one else has come or changed. -/
structure Reinforced (b : Battle) (side : Side) (a : Actor) (ids : List ActorId) (b' : Battle) :
    Prop where
  nodup : ids.Nodup
  free : ∀ id ∈ ids, b.actors.contains id = false
  order : b'.order = b.order ++ ids
  own : b'.roster side = b.roster side ++ ids
  others : b'.roster side.opponent = b.roster side.opponent
  actors : ∀ id, b'.actor? id = if id ∈ ids then some { a with id := id } else b.actor? id
  size : b'.actors.size = b.actors.size + ids.length
  rostered : b'.Rostered

theorem Rostered.size_actors (h : b.Rostered) : b.actors.size = b.order.length := by
  rw [← Table.length_keys]
  exact ((List.perm_ext_iff_of_nodup b.actors.nodup_keys h.order).2 h.keys).length_eq

/-- In rostered battles the turn order tells who is new. -/
theorem Rostered.reinforced {side : Side} {a : Actor} {ids : List ActorId} (hb : b.Rostered)
    (hb' : b'.Rostered) (horder : b'.order = b.order ++ ids)
    (hown : b'.roster side = b.roster side ++ ids)
    (hothers : b'.roster side.opponent = b.roster side.opponent)
    (hactors : ∀ id, b'.actor? id = if id ∈ ids then some { a with id := id } else b.actor? id) :
    b.Reinforced side a ids b' := by
  obtain ⟨-, hnodup, hdisjoint⟩ := List.nodup_append'.1 (horder ▸ hb'.order)
  refine ⟨hnodup, fun id hid => ?_, horder, hown, hothers, hactors, ?_, hb'⟩
  · refine Bool.eq_false_iff.2 fun hpresent => ?_
    exact hdisjoint ((hb.keys id).1 (Table.mem_keys_iff.2 hpresent)) hid
  · rw [hb'.size_actors, hb.size_actors, horder, List.length_append]

/-- No one joins by no summons. -/
theorem Rostered.reinforced_nil (hb : b.Rostered) (side : Side) (a : Actor) :
    b.Reinforced side a [] b :=
  hb.reinforced hb (List.append_nil _).symm (List.append_nil _).symm rfl fun _ => rfl

/-- Whoever enters under a free id is a reinforcement, whatever the number has come to. -/
theorem Rostered.reinforced_enter (hb : b.Rostered) (side : Side) (a : Actor) (n : Nat)
    {id : ActorId} (hfree : b.actors.contains id = false) :
    b.Reinforced side a [id] ({ b with spawned := n }.enter side { a with id := id }) := by
  have hcounted : ({ b with spawned := n } : Battle).Enrolled :=
    ⟨hb.enrolled.nodup, hb.perm, hb.enrolled.keys, hb.own⟩
  have hcurrent : b.current < (b.order ++ [id]).length := by
    rw [List.length_append]
    exact Nat.lt_add_right _ hb.current
  refine hb.reinforced ((hcounted.enter hfree).rostered hcurrent) rfl ?_ ?_ fun q => ?_
  · cases side <;> rfl
  · cases side <;> rfl
  · change (b.actors.insert id { a with id := id }).get? q = _
    rw [Table.get?_insert]
    by_cases hq : q = id <;> simp [hq, actor?]

namespace Reinforced

variable {side : Side} {a : Actor} {ids ids' : List ActorId}

theorem trans (hb : b.Rostered) (h : b.Reinforced side a ids b₁)
    (h' : b₁.Reinforced side a ids' b') : b.Reinforced side a (ids ++ ids') b' := by
  refine hb.reinforced h'.rostered ?_ ?_ (h'.others.trans h.others) fun id => ?_
  · rw [h'.order, h.order, List.append_assoc]
  · rw [h'.own, h.own, List.append_assoc]
  · rw [h'.actors, h.actors]
    by_cases hid : id ∈ ids' <;> simp [hid]

theorem announce (h : b.Reinforced side a ids b') (line : String) :
    b.Reinforced side a ids (b'.announce line) :=
  ⟨h.nodup, h.free, h.order, h.own, h.others, h.actors, h.size,
    Enrolled.rostered ⟨h.rostered.enrolled.nodup, h.rostered.perm, h.rostered.enrolled.keys,
      h.rostered.own⟩ h.rostered.current⟩

/-- Who has been there is the same actor as before. -/
theorem actor?_eq (h : b.Reinforced side a ids b') {q : ActorId}
    (hq : b.actors.contains q = true) : b'.actor? q = b.actor? q := by
  have hold : q ∉ ids := fun hnew => Bool.eq_false_iff.1 (h.free q hnew) hq
  rw [h.actors, if_neg hold]

theorem contains (h : b.Reinforced side a ids b') {q : ActorId}
    (hq : b.actors.contains q = true) : b'.actors.contains q = true := by
  change (b'.actor? q).isSome = true
  rw [h.actor?_eq hq]
  exact hq

theorem contains_new (h : b.Reinforced side a ids b') {q : ActorId} (hq : q ∈ ids) :
    b'.actors.contains q = true := by
  change (b'.actor? q).isSome = true
  rw [h.actors, if_pos hq]
  rfl

theorem mem_roster (h : b.Reinforced side a ids b') {q : ActorId} (hq : q ∈ b.roster side) :
    q ∈ b'.roster side := by
  rw [h.own]
  exact List.mem_append_left _ hq

end Reinforced

/-! ## Many summons -/

/-- The log says whom an actor has summoned. -/
def announceSummons (b : Battle) (user : ActorId) (a : Actor) : Battle :=
  b.announce s!"{b.nameOf user} summons {a.name}!"

/-- Some summons one after the other, by searches without a bound: each actor enters under the id to
which its search has come, and the log says so. -/
inductive Enlists (side : Side) (template : String) (a : Actor) (user : ActorId) :
    Battle → List ActorId → Battle → Prop where
  | done (b : Battle) : Enlists side template a user b [] b
  | next {b b₁ b₂ b' : Battle} {k : Nat} {ids : List ActorId} (hseeks : b.Seeks template k b₁)
      (hjoins : b₁.insertActor side { a with id := summonId template b₁.spawned } = .ok b₂)
      (hrest : Enlists side template a user (b₂.announceSummons user a) ids b') :
      Enlists side template a user b (summonId template b₁.spawned :: ids) b'

variable {side : Side} {a : Actor} {user : ActorId} {ids : List ActorId} {codex : Codex}

theorem Rostered.contains_of_mem_roster (h : b.Rostered) (hx : user ∈ b.roster side) :
    b.actors.contains user = true := by
  cases side with
  | player => exact h.contains (.inl hx)
  | enemy => exact h.contains (.inr hx)

namespace Seeks

/-- Under the id to which a search has come an actor can enter. -/
theorem insertActor_eq (h : b.Seeks template k b₁) (side : Side) (a : Actor) :
    b₁.insertActor side { a with id := summonId template b₁.spawned } =
      .ok (b₁.enter side { a with id := summonId template b₁.spawned }) := by
  have hfree := h.free_id
  rw [← h.actors_eq] at hfree
  exact if_neg (Bool.eq_false_iff.1 hfree)

/-- What a search and the entrance after it come to. -/
theorem joined (h : b.Seeks template k b₁) (hb : b.Rostered)
    (hjoins : b₁.insertActor side { a with id := summonId template b₁.spawned } = .ok b₂) :
    b.Reinforced side a [summonId template b₁.spawned] b₂ ∧ b₂.spawned = b₁.spawned := by
  rw [h.insertActor_eq] at hjoins
  cases hjoins
  have hfree := h.free_id
  obtain ⟨-, rfl, -⟩ := h.spec
  exact ⟨hb.reinforced_enter side a _ hfree, rfl⟩

/-- A summons is a search and an entrance. -/
theorem summonOne_eq (h : b.Seeks template k b₁) (hb : b.Rostered)
    (huser : user ∈ b.roster side) (ha : codex.spawn? template (b.summonLevel user) = some a)
    (hjoins : b₁.insertActor side { a with id := summonId template b₁.spawned } = .ok b₂) :
    b.summonOne codex template user = b₂.announceSummons user a := by
  have hname : b₂.nameOf user = b.nameOf user := by
    unfold nameOf
    rw [(h.joined hb hjoins).1.actor?_eq (hb.contains_of_mem_roster huser)]
  have hnumber := h.freeNumber?_eq
  rw [h.insertActor_eq] at hjoins
  cases hjoins
  obtain ⟨-, rfl, -⟩ := h.spec
  unfold summonOne announceSummons
  rw [hname, hb.sideOf?_eq huser, ha, hnumber]

end Seeks

/-- However many actors are summoned, each of them finds an id and enters. -/
theorem exists_enlists (side : Side) (template : String) (a : Actor) (user : ActorId) (n : Nat)
    (b : Battle) : ∃ ids b', ids.length = n ∧ b.Enlists side template a user ids b' := by
  induction n generalizing b with
  | zero => exact ⟨[], b, rfl, .done b⟩
  | succ n ih =>
    obtain ⟨k, b₁, hseeks⟩ := b.exists_seeks template
    have hjoins := hseeks.insertActor_eq side a
    obtain ⟨ids, b', hlength, hrest⟩ := ih _
    exact ⟨_, b', congrArg (· + 1) hlength, .next hseeks hjoins hrest⟩

namespace Enlists

theorem reinforced (h : b.Enlists side template a user ids b') (hb : b.Rostered) :
    b.Reinforced side a ids b' := by
  induction h with
  | done b => exact hb.reinforced_nil side a
  | @next b b₁ b₂ b' k ids hseeks hjoins _ ih =>
    have hjoined : b.Reinforced side a [_] (b₂.announceSummons user a) :=
      (hseeks.joined hb hjoins).1.announce _
    exact hjoined.trans hb (ih hjoined.rostered)

/-- The numbers that the searches have passed are taken in the end, by those who were there or by
those who have entered. -/
theorem taken (h : b.Enlists side template a user ids b') (hb : b.Rostered) {m : Nat}
    (hm : b.spawned < m) (hle : m ≤ b'.spawned) :
    b'.actors.contains (summonId template m) = true := by
  induction h with
  | done b => omega
  | @next b b₁ b₂ b' k ids hseeks hjoins hrest ih =>
    obtain ⟨hjoined, hspawned⟩ := hseeks.joined hb hjoins
    have hall := (next hseeks hjoins hrest).reinforced hb
    -- this search has passed the number, or it has come to it, or it is left to the next ones
    rcases Nat.lt_trichotomy m b₁.spawned with hlt | rfl | hgt
    · obtain ⟨-, -, -, hpassed⟩ := hseeks.spec
      rw [hseeks.spawned_eq] at hlt
      exact hall.contains (hpassed m hm hlt)
    · exact hall.contains_new List.mem_cons_self
    · rw [← hspawned] at hgt
      exact ih (hjoined.announce _).rostered hgt hle

/-- All summons together count no further than there are actors in the end. -/
theorem spawned_le_add (h : b.Enlists side template a user ids b') (hb : b.Rostered) :
    b'.spawned ≤ b.spawned + b.actors.size + ids.length := by
  have hsize := (h.reinforced hb).size
  -- the new actors count like the old ones, as each number that was passed is taken by one of them
  have hle : b'.spawned - b.spawned ≤ b'.actors.size :=
    le_size_of_taken fun m hm hle => h.taken hb hm (by omega)
  omega

/-- The summons of an effect are these. -/
theorem summonMany_eq (h : b.Enlists side template a user ids b') (hb : b.Rostered)
    (huser : user ∈ b.roster side) (ha : codex.spawn? template (b.summonLevel user) = some a) :
    b.summonMany codex template user ids.length = b' := by
  induction h with
  | done b => rfl
  | @next b b₁ b₂ b' k ids hseeks hjoins hrest ih =>
    obtain ⟨hjoined, hspawned⟩ := hseeks.joined hb hjoins
    have hone := hseeks.summonOne_eq hb huser ha hjoins
    have hnext : b.Reinforced side a [_] (b₂.announceSummons user a) := hjoined.announce _
    -- the user is still there, on the same side and at the same level
    have hlevel : (b₂.announceSummons user a).summonLevel user = b.summonLevel user := by
      unfold summonLevel
      rw [hnext.actor?_eq (hb.contains_of_mem_roster huser)]
    rw [List.length_cons, summonMany, hone]
    exact ih hnext.rostered (hnext.mem_roster huser) (hlevel ▸ ha)

end Enlists

/-! ## Effects -/

/-- An effect that summons does so as often as its magnitude rounds to, at least once and at most as
often as an effect may. -/
theorem supply_of_summons (b : Battle) (rules : Rules) {e : Effect} (hk : e.kind = .summon)
    (hid : e.summonId = some template) (o : Origin) (user : ActorId) :
    b.supply rules e o user = (b.summonMany rules.codex template user
      (min (max (nearest (b.magnitude rules e o user user)) 1) greatestSummons).toNat,
      .proceed) := by
  unfold supply
  simp only [hk, hid, Option.elim_some]

/-- **A summons always finds an id that is new, and an effect brings in just as many actors as it
says.** In a rostered battle, for every template and whoever in a roster summons, the search for an
id ends. It has then counted at most once more than there are actors, and no one has the id; under
it any actor enters, on the side of the user and at the end of the turn order. That is the summons,
as long as the number is a count.

An effect that summons from a registered template brings in as many actors as its magnitude rounds
to, but at least one and at most eight, all of them new and distinct. All their searches together
count at most up to the number of actors in the end, and the effect comes to that as long as the
last number is a count. -/
theorem summons_exactly (hb : b.Rostered) (huser : user ∈ b.roster side) (template : String) :
    (∃ k b₁, b.Seeks template k b₁) ∧
      (∀ k b₁, b.Seeks template k b₁ →
        k ≤ b.actors.size + 1 ∧ b₁ = { b with spawned := b.spawned + k } ∧
        b.actors.contains (summonId template b₁.spawned) = false ∧
        ∀ a, ∃ b₂, b₁.insertActor side { a with id := summonId template b₁.spawned } = .ok b₂ ∧
          b.Reinforced side a [summonId template b₁.spawned] b₂ ∧
          ∀ codex : Codex, codex.spawn? template (b.summonLevel user) = some a →
            b₁.spawned ≤ greatestCount →
            b.summonOne codex template user = b₂.announceSummons user a) ∧
      ∀ (rules : Rules) (e : Effect) (o : Origin) (make : Nat → Actor), e.kind = .summon →
        e.summonId = some template → rules.codex.enemies.get? template = some make →
        ∃ ids b', b.Enlists side template (make (b.summonLevel user)) user ids b' ∧
          (ids.length : Int) = min (max (nearest (b.magnitude rules e o user user)) 1) 8 ∧
          b.Reinforced side (make (b.summonLevel user)) ids b' ∧
          b'.spawned ≤ b.spawned + b.actors.size + ids.length ∧
          (b'.spawned ≤ greatestCount →
            b.supply rules e o user = (b', .proceed) ∧
            (b.ended = none → ∀ run targets running,
              applyEffect rules run e o user targets ⟨b, running⟩ =
                some (⟨b', running⟩, .proceed))) := by
  refine ⟨b.exists_seeks template, fun k b₁ hseeks => ?_, fun rules e o make hk hid hmake => ?_⟩
  · refine ⟨hseeks.le_size, hseeks.spec.2.1, hseeks.free_id, fun a => ?_⟩
    have hjoins := hseeks.insertActor_eq side a
    exact ⟨_, hjoins, (hseeks.joined hb hjoins).1, fun codex ha _ =>
      hseeks.summonOne_eq hb huser ha hjoins⟩
  · obtain ⟨ids, b', hlength, henlists⟩ := exists_enlists side template
      (make (b.summonLevel user)) user
      (min (max (nearest (b.magnitude rules e o user user)) 1) greatestSummons).toNat b
    have hcount : (ids.length : Int) =
        min (max (nearest (b.magnitude rules e o user user)) 1) 8 := by
      unfold greatestSummons at hlength
      omega
    have ha : rules.codex.spawn? template (b.summonLevel user) =
        some (make (b.summonLevel user)) := by
      unfold Codex.spawn?
      rw [hmake, Option.map_some]
    refine ⟨ids, b', henlists, hcount, henlists.reinforced hb, henlists.spawned_le_add hb,
      fun hmax => ?_⟩
    have hsupply : b.supply rules e o user = (b', .proceed) := by
      rw [b.supply_of_summons rules hk hid, ← hlength, henlists.summonMany_eq hb huser ha]
    refine ⟨hsupply, fun hgoing run targets running => ?_⟩
    have hover : b.isOver = false := isOver_eq_false_iff.2 hgoing
    have htargetless : e.kind.isTargetless = true := by rw [hk]; rfl
    have hnumbers : b.HasNumbers rules e o user := by
      rw [HasNumbers, hsupply]
      exact Nat.le_trans hmax (Nat.le_max_right ..)
    unfold applyEffect
    simp only [hover, htargetless, Bool.false_eq_true, if_false, if_true,
      supplied?_of_hasNumbers hnumbers, hsupply, Option.map_some]

/-- The hero faces someone who has the id of the first imp. -/
def lookalikeDuel : Battle :=
  (((bare ⟨7⟩).enter .player hero).enter .enemy lookalike).announce "Turn 1"

theorem rostered_lookalikeDuel : lookalikeDuel.Rostered := by
  have hcreate : create ⟨7⟩ [hero] [lookalike] = .ok lookalikeDuel := by rfl
  obtain ⟨henrolled, hcur⟩ := enrolled_create hcreate
  exact henrolled.rostered hcur

/-- A summons of a thousand imps. -/
def horde : Effect := { Effect.summon "imp" with value := .flat 1000 }

/-- The second number is the first free one, and of a thousand imps eight come from there on. -/
theorem horde_beside_lookalike :
    (∃ b₁, lookalikeDuel.Seeks "imp" 2 b₁ ∧ lookalikeDuel.actors.contains "imp#2" = false) ∧
      ∃ b', applyEffect impRules (runHook impRules 0) horde {} "hero" [] ⟨lookalikeDuel, []⟩ =
          some (⟨b', []⟩, .proceed) ∧
        lookalikeDuel.Reinforced .player
          { id := "imp", name := "Imp", stats := { hp := 5, maxHp := 5, level := 1 } }
          ["imp#2", "imp#3", "imp#4", "imp#5", "imp#6", "imp#7", "imp#8", "imp#9"] b' := by
  have hhero : "hero" ∈ lookalikeDuel.roster .player := by decide
  obtain ⟨-, hends, heffect⟩ := summons_exactly rostered_lookalikeDuel hhero "imp"
  refine ⟨?_, ?_⟩
  · have hseeks : lookalikeDuel.Seeks "imp" 2 _ := .taken (by decide) (.free (by decide))
    exact ⟨_, hseeks, (hends 2 _ hseeks).2.2.1⟩
  · obtain ⟨ids, b', -, hlength, hreinforced, hbound, hruns⟩ :=
      heffect impRules horde {} _ rfl rfl (Table.get?_insert_self ..)
    have hthousand : nearest (lookalikeDuel.magnitude impRules horde {} "hero" "hero") = 1000 := by
      decide +kernel
    rw [hthousand] at hlength
    have hmax : b'.spawned ≤ greatestCount := by
      change b'.spawned ≤ 0 + 2 + ids.length at hbound
      unfold greatestCount
      omega
    obtain ⟨hsupply, happly⟩ := hruns hmax
    have horder : (lookalikeDuel.supply impRules horde {} "hero").1.order = lookalikeDuel.order ++
        ["imp#2", "imp#3", "imp#4", "imp#5", "imp#6", "imp#7", "imp#8", "imp#9"] := by
      decide +kernel
    rw [hsupply, hreinforced.order] at horder
    obtain rfl := List.append_cancel_left horder
    exact ⟨b', happly rfl _ _ _, hreinforced⟩

end Battle

end Skirmish
