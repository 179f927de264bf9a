import Skirmish.Resolution.Boundary

/-!
# What actors hold

The statuses that an actor holds and the shields that it has are kept in two places of a battle. The
operations of resolution that touch them are few, and the laws here say what each of them leaves in
either place: applying a status (`Battle.afflict_cases`), taking statuses away together with the
shields that they granted (`Removal`), draining and granting shields, and the two halves of a
boundary, which count statuses down and let them wear off.
-/

namespace Skirmish

namespace Battle

/-! ## Afflictions -/

/-- The statuses that an actor holds, one for each affliction. -/
def statusesOf (b : Battle) (id : ActorId) : List String := (b.afflictionsOf id).map (·.status)

theorem afflictionsOf_congr {b b' : Battle} (h : b'.actors = b.actors) (q : ActorId) :
    b'.afflictionsOf q = b.afflictionsOf q := by
  rw [afflictionsOf, afflictionsOf, actor?, actor?, h]

theorem afflictionsOf_eq {b : Battle} {q : ActorId} {a : Actor} (h : b.actor? q = some a) :
    b.afflictionsOf q = a.afflictions := by
  rw [afflictionsOf, h]
  rfl

theorem exists_actor_of_afflictionsOf {b : Battle} {q : ActorId} {i : Affliction}
    (h : i ∈ b.afflictionsOf q) : ∃ a, b.actor? q = some a ∧ i ∈ a.afflictions := by
  unfold afflictionsOf at h
  cases ha : b.actor? q with
  | none =>
    rw [ha] at h
    cases h
  | some a =>
    rw [ha] at h
    exact ⟨a, rfl, h⟩

theorem afflictionsOf_modifyActor {b : Battle} {id : ActorId} {f : Actor → Actor}
    {g : List Affliction → List Affliction} (hf : ∀ a, (f a).afflictions = g a.afflictions)
    (hg : b.actor? id = none → g [] = []) (q : ActorId) :
    (b.modifyActor id f).afflictionsOf q =
      if q = id then g (b.afflictionsOf q) else b.afflictionsOf q := by
  unfold afflictionsOf
  rw [actor?_modifyActor]
  split
  · next hq =>
    subst hq
    cases ha : b.actor? q with
    | none => exact (hg ha).symm
    | some a => exact hf a
  · rfl

theorem afflictionsOf_of_kept {b : Battle} {id : ActorId} {f : Actor → Actor}
    (hf : ∀ a, (f a).afflictions = a.afflictions) (q : ActorId) :
    (b.modifyActor id f).afflictionsOf q = b.afflictionsOf q := by
  rw [afflictionsOf_modifyActor (g := fun is => is) hf fun _ => rfl]
  split <;> rfl

/-! ## Shields -/

/-- Whether an actor has a shield of an id. -/
def HasShield (b : Battle) (q : ActorId) (k : String) : Prop := (b.shield? q k).isSome = true

theorem hasShield_iff {b : Battle} {q : ActorId} {k : String} :
    b.HasShield q k ↔ k ∈ (b.shieldsOf q).map (·.id) := by
  simp [HasShield, shield?, List.find?_isSome]

theorem shield?_congr {b b' : Battle} (h : b'.shields = b.shields) (q : ActorId) (k : String) :
    b'.shield? q k = b.shield? q k := by
  rw [shield?, shield?, shieldsOf, shieldsOf, h]

theorem hasShield_congr {b b' : Battle} (h : b'.shields = b.shields) (q : ActorId) (k : String) :
    b'.HasShield q k ↔ b.HasShield q k := by
  rw [HasShield, HasShield, shield?_congr h]

theorem hasShield_withShields {b : Battle} {id q : ActorId} {ss : List Shield} {k : String} :
    (b.withShields id ss).HasShield q k ↔
      if q = id then k ∈ ss.map (·.id) else b.HasShield q k := by
  rw [hasShield_iff, shieldsOf_withShields]
  split
  · rfl
  · exact hasShield_iff.symm

theorem shield?_withShields (b : Battle) (id q : ActorId) (ss : List Shield) (k : String) :
    (b.withShields id ss).shield? q k =
      if q = id then ss.find? (fun s => s.id == k) else b.shield? q k := by
  rw [shield?, shieldsOf_withShields]
  split <;> rfl

theorem shield?_removeShield (b : Battle) (id q : ActorId) (k' k : String) :
    (b.removeShield id k').shield? q k =
      if q = id ∧ k = k' then none else b.shield? q k := by
  rw [removeShield, shield?_withShields]
  by_cases hq : q = id
  · subst hq
    rw [if_pos rfl, List.find?_filter]
    by_cases hk : k = k'
    · simp [hk]
    · rw [if_neg fun h => hk h.2, shield?]
      congr 1
      funext s
      by_cases hs : s.id = k <;> simp [hs, hk]
  · rw [if_neg hq, if_neg fun h => hq h.1]

/-- A shield of a new id is granted behind the others. -/
theorem grant_of_notMem {k : String} {element : Option String} {amount : Int} {ss : List Shield}
    (h : ∀ s ∈ ss, s.id ≠ k) : Shield.grant k element amount ss = ss ++ [⟨k, amount, element⟩] := by
  induction ss with
  | nil => rfl
  | cons s ss ih =>
    obtain ⟨hs, hrest⟩ := List.forall_mem_cons.1 h
    rw [Shield.grant, if_neg hs, ih hrest, List.cons_append]

/-- A shield is set to an amount, whatever it was before. -/
theorem shield?_setShield (b : Battle) (id q : ActorId) (k' k : String) (element : Option String)
    (amount : Int) :
    (b.setShield id k' element amount).shield? q k =
      if q = id ∧ k = k' then (if 0 < amount then some ⟨k', amount, element⟩ else none)
      else b.shield? q k := by
  have hremoved := b.shield?_removeShield id q k' k
  unfold setShield
  dsimp only
  by_cases hamount : 0 < amount
  · have hnew : ∀ s ∈ (b.removeShield id k').shieldsOf id, s.id ≠ k' := by
      intro s hs
      rw [removeShield, shieldsOf_withShields, if_pos rfl] at hs
      simpa using (List.mem_filter.1 hs).2
    rw [if_pos hamount, if_pos hamount, addShield, grant_of_notMem hnew, shield?_withShields]
    by_cases hq : q = id
    · subst hq
      rw [if_pos rfl, List.find?_append]
      change ((b.removeShield q k').shield? q k).or _ = _
      rw [hremoved]
      by_cases hk : k = k'
      · simp [hk]
      · simp [hk, Ne.symm hk]
    · rw [if_neg hq, hremoved]
      simp [hq]
  · rw [if_neg hamount, if_neg hamount, hremoved]

theorem mem_grant {k k' : String} {element : Option String} {amount : Int} {ss : List Shield} :
    k ∈ (Shield.grant k' element amount ss).map (·.id) ↔ k = k' ∨ k ∈ ss.map (·.id) := by
  induction ss with
  | nil => simp [Shield.grant]
  | cons s ss ih =>
    unfold Shield.grant
    split
    · next hid => simp [hid]
    · rw [List.map_cons, List.mem_cons, ih, List.map_cons, List.mem_cons]
      exact or_left_comm

theorem hasShield_addShield {b : Battle} {id q : ActorId} {k k' : String}
    {element : Option String} {amount : Int} :
    (b.addShield id k' element amount).HasShield q k ↔
      (q = id ∧ k = k') ∨ b.HasShield q k := by
  rw [addShield, hasShield_withShields]
  split
  · next hq =>
    subst hq
    rw [mem_grant, hasShield_iff]
    simp
  · next hq => simp [hq]

theorem hasShield_of_setShield {b : Battle} {id q : ActorId} {k k' : String}
    {element : Option String} {amount : Int}
    (h : (b.setShield id k' element amount).HasShield q k) :
    (q = id ∧ k = k') ∨ b.HasShield q k := by
  rw [HasShield, shield?_setShield] at h
  split at h
  · next hself => exact .inl hself
  · exact .inr h

/-- Draining shields keeps their ids and their order. -/
theorem map_id_drain (element : Option String) (left : Int) (ss : List Shield) :
    (Shield.drain element left ss).1.map (·.id) = ss.map (·.id) := by
  induction ss generalizing left with
  | nil => rfl
  | cons s ss ih =>
    unfold Shield.drain
    split
    · rfl
    · split <;> simp only [List.map_cons, ih]

theorem hasShield_of_absorb {b : Battle} {id q : ActorId} {element : Option String} {amount : Int}
    {k : String} (h : (b.absorb id element amount).2.HasShield q k) : b.HasShield q k := by
  unfold absorb at h
  dsimp only at h
  rw [hasShield_withShields] at h
  split at h
  · next hq =>
    subst hq
    obtain ⟨s, hs, rfl⟩ := List.mem_map.1 h
    rw [hasShield_iff, ← map_id_drain element (max 0 amount)]
    exact List.mem_map_of_mem (List.mem_filter.1 hs).1
  · exact h

end Battle

/-! ## Taking statuses away -/

/-- The id of the shield that a status grants, if it is registered. -/
def Codex.granted? (codex : Codex) (status : String) : Option String :=
  (codex.status? status).bind Status.shieldId?

/-- Statuses that are to be taken from an actor. -/
structure Removal where
  id : ActorId
  takes : String → Bool

namespace Removal

/-- The statuses with one of some tags, or all of them. -/
def cleansing (codex : Codex) (id : ActorId) (tags : Option (List String)) : Removal where
  id := id
  takes st := tags.all fun tags => (codex.status? st).any fun s => tags.any s.hasTag

/-- A status, or all of them. -/
def dispelling (id : ActorId) (status : Option String) : Removal where
  id := id
  takes st := status.all fun named => st == named

/-- The battle once they are taken away. -/
def perform (r : Removal) (codex : Codex) (b : Battle) : Battle :=
  (b.detachWhere codex r.id fun i => r.takes i.status).2

end Removal

namespace Battle

theorem cleanse_eq (b : Battle) (codex : Codex) (id : ActorId) (tags : Option (List String)) :
    (b.cleanse codex id tags).2 = (Removal.cleansing codex id tags).perform codex b := rfl

theorem dispel_eq (b : Battle) (codex : Codex) (id : ActorId) (status : Option String) :
    (b.dispel codex id status).2 = (Removal.dispelling id status).perform codex b := rfl

/-- Told of or not, what is cleansed is taken away. -/
theorem cleanseAloud_eq (b : Battle) (codex : Codex) (id : ActorId) (tags : Option (List String)) :
    ∃ log, b.cleanseAloud codex id tags =
      { (Removal.cleansing codex id tags).perform codex b with log := log } := by
  rw [← cleanse_eq]
  unfold cleanseAloud
  split
  · next heq => exact ⟨_, by rw [heq]⟩
  · next heq => exact ⟨_, by rw [heq]; rfl⟩

theorem dispelAloud_eq (b : Battle) (codex : Codex) (id : ActorId) (status : Option String) :
    ∃ log, b.dispelAloud codex id status =
      { (Removal.dispelling id status).perform codex b with log := log } := by
  rw [← dispel_eq]
  unfold dispelAloud
  split
  · next heq => exact ⟨_, by rw [heq]⟩
  · next heq => exact ⟨_, by rw [heq]; rfl⟩

theorem actors_removeGranted (b : Battle) (codex : Codex) (id : ActorId) (status : String) :
    (b.removeGranted codex id status).actors = b.actors := by
  unfold removeGranted
  cases (codex.status? status).bind Status.shieldId? <;> rfl

theorem shield?_removeGranted (b : Battle) (codex : Codex) (id : ActorId) (status : String)
    (q : ActorId) (k : String) :
    (b.removeGranted codex id status).shield? q k =
      if q = id ∧ codex.granted? status = some k then none else b.shield? q k := by
  unfold removeGranted Codex.granted?
  cases (codex.status? status).bind Status.shieldId? with
  | none => simp
  | some k' =>
    rw [Option.elim_some, shield?_removeShield]
    simp only [Option.some_inj, eq_comm (a := k)]

theorem hasShield_removeGranted {b : Battle} {codex : Codex} {id q : ActorId} {status k : String} :
    (b.removeGranted codex id status).HasShield q k ↔
      b.HasShield q k ∧ ¬(q = id ∧ codex.granted? status = some k) := by
  rw [HasShield, shield?_removeGranted]
  split
  · next h => simp [h]
  · next h => simp only [h, not_false_eq_true, and_true, HasShield]

/-- Taking statuses away leaves the actors as they are once their afflictions are gone, and of the
shields those that none of the statuses grants. -/
theorem foldl_removeGranted (b : Battle) (codex : Codex) (id : ActorId) (statuses : List String) :
    (statuses.foldl (fun b st => b.removeGranted codex id st) b).actors = b.actors ∧
      ∀ q k, (statuses.foldl (fun b st => b.removeGranted codex id st) b).HasShield q k ↔
        b.HasShield q k ∧ ¬(q = id ∧ ∃ st ∈ statuses, codex.granted? st = some k) := by
  induction statuses generalizing b with
  | nil => exact ⟨rfl, fun q k => by simp⟩
  | cons st statuses ih =>
    obtain ⟨hactors, hshields⟩ := ih (b.removeGranted codex id st)
    refine ⟨hactors.trans (b.actors_removeGranted ..), fun q k => ?_⟩
    rw [List.foldl_cons, hshields, hasShield_removeGranted]
    simp only [List.mem_cons, exists_eq_or_imp, and_or_left, not_or, and_assoc]

theorem removeGranted_eq (b : Battle) (codex : Codex) (id : ActorId) (status : String) :
    ∃ shields, b.removeGranted codex id status = { b with shields := shields } := by
  unfold removeGranted
  cases (codex.status? status).bind Status.shieldId? <;> exact ⟨_, rfl⟩

/-- Beside the shields taking them away changes nothing. -/
theorem foldl_removeGranted_eq (b : Battle) (codex : Codex) (id : ActorId)
    (statuses : List String) : ∃ shields,
      statuses.foldl (fun b st => b.removeGranted codex id st) b =
        { b with shields := shields } := by
  induction statuses generalizing b with
  | nil => exact ⟨b.shields, rfl⟩
  | cons st statuses ih =>
    obtain ⟨_, hone⟩ := b.removeGranted_eq codex id st
    obtain ⟨shields, heq⟩ := ih (b.removeGranted codex id st)
    exact ⟨shields, by rw [List.foldl_cons, heq, hone]⟩

end Battle

namespace Removal

open Battle

variable {r : Removal} {codex : Codex} {b : Battle}

/-- What is taken away is named once more by its afflictions, and these are the ones that go. -/
theorem contains_taken {is : List Affliction} {i : Affliction} (hi : i ∈ is) :
    ((is.filter fun i => r.takes i.status).map (·.status)).contains i.status =
      r.takes i.status := by
  rw [Bool.eq_iff_iff, List.contains_iff_mem, List.mem_map]
  constructor
  · rintro ⟨j, hj, hstatus⟩
    rw [← hstatus]
    exact (List.mem_filter.1 hj).2
  · exact fun htakes => ⟨i, List.mem_filter.2 ⟨hi, htakes⟩, rfl⟩

/-- Nothing is to be taken away, or the afflictions and the shields of what is taken go. -/
theorem perform_cases (r : Removal) (codex : Codex) (b : Battle) :
    (r.perform codex b = b ∧ ∀ i ∈ b.afflictionsOf r.id, r.takes i.status = false) ∨
      r.perform codex b = (b.detach codex r.id
        (((b.afflictionsOf r.id).filter fun i => r.takes i.status).map (·.status))).2 := by
  unfold perform detachWhere
  split
  · next hnil =>
    refine .inl ⟨rfl, fun i hi => ?_⟩
    rw [← contains_taken (r := r) hi, hnil]
    rfl
  · exact .inr rfl

/-- Actors and shields are all that taking statuses away changes. -/
theorem perform_eq (r : Removal) (codex : Codex) (b : Battle) : ∃ actors shields,
    r.perform codex b = { b with actors := actors, shields := shields } := by
  rcases r.perform_cases codex b with ⟨heq, -⟩ | heq
  · exact ⟨b.actors, b.shields, heq⟩
  · rw [heq, detach]
    obtain ⟨shields, hfold⟩ := foldl_removeGranted_eq _ codex r.id _
    exact ⟨_, shields, hfold⟩

theorem afflictionsOf_perform (q : ActorId) : (r.perform codex b).afflictionsOf q =
    if q = r.id then (b.afflictionsOf q).filter (fun i => !r.takes i.status)
    else b.afflictionsOf q := by
  rcases r.perform_cases codex b with ⟨heq, hnone⟩ | heq
  · rw [heq]
    split
    · next hq =>
      subst hq
      exact (List.filter_eq_self.2 fun i hi => by rw [hnone i hi]; rfl).symm
    · rfl
  · rw [heq, detach, afflictionsOf_congr (foldl_removeGranted ..).1,
      afflictionsOf_modifyActor (fun _ => rfl) fun _ => rfl]
    split
    · next hq =>
      subst hq
      exact List.filter_congr fun i hi => by rw [contains_taken hi]
    · rfl

theorem hasShield_perform {q : ActorId} {k : String} : (r.perform codex b).HasShield q k ↔
    b.HasShield q k ∧ ¬(q = r.id ∧ ∃ st ∈ b.statusesOf q, r.takes st = true ∧
      codex.granted? st = some k) := by
  rcases r.perform_cases codex b with ⟨heq, hnone⟩ | heq
  · rw [heq]
    refine ⟨fun h => ⟨h, ?_⟩, And.left⟩
    rintro ⟨rfl, st, hst, htakes, -⟩
    obtain ⟨i, hi, rfl⟩ := List.mem_map.1 hst
    rw [hnone i hi] at htakes
    cases htakes
  · rw [heq, detach, (foldl_removeGranted ..).2, hasShield_congr (b := b) rfl]
    refine and_congr_right fun _ => not_congr (and_congr_right fun hq => ?_)
    subst hq
    constructor
    · rintro ⟨st, hst, hk⟩
      obtain ⟨i, hi, rfl⟩ := List.mem_map.1 hst
      obtain ⟨hmem, htakes⟩ := List.mem_filter.1 hi
      exact ⟨i.status, List.mem_map_of_mem hmem, htakes, hk⟩
    · rintro ⟨st, hst, htakes, hk⟩
      obtain ⟨i, hi, rfl⟩ := List.mem_map.1 hst
      exact ⟨i.status, List.mem_map_of_mem (List.mem_filter.2 ⟨hi, htakes⟩), hk⟩

end Removal

/-! ## Applying a status -/

/-- Where the first affliction of a status is known, so is what becomes of it. -/
theorem Affliction.updateFirst_append {st : String} {f : Affliction → Affliction}
    {before : List Affliction} {i : Affliction} (hbefore : ∀ j ∈ before, j.status ≠ st)
    (hi : i.status = st) (after : List Affliction) :
    updateFirst st f (before ++ i :: after) = before ++ f i :: after := by
  induction before with
  | nil => rw [List.nil_append, updateFirst, if_pos hi, List.nil_append]
  | cons j before ih =>
    obtain ⟨hj, hrest⟩ := List.forall_mem_cons.1 hbefore
    rw [List.cons_append, updateFirst, if_neg hj, ih hrest, List.cons_append]

/-- What becomes of the afflictions of an actor, and how often its status is stacked, when it
accepts one for some turns. -/
inductive Accepts (s : Status) (turns : Nat) : List Affliction → List Affliction → Nat → Prop
  /-- The actor does not hold the status. -/
  | added {is : List Affliction} (h : ∀ i ∈ is, i.status ≠ s.id) :
      Accepts s turns is (is ++ [⟨s.id, turns, 1⟩]) 1
  /-- The first affliction of the status begins anew. -/
  | renewed {before after : List Affliction} {i : Affliction} (hr : s.stacking = .renew)
      (hbefore : ∀ j ∈ before, j.status ≠ s.id) (hi : i.status = s.id) :
      Accepts s turns (before ++ i :: after)
        (before ++ { i with remaining := turns } :: after) i.stackCount
  /-- The first affliction of the status begins anew, with one stack more. -/
  | stacked {before after : List Affliction} {i : Affliction} (hr : s.stacking.addsStacks = true)
      (hbefore : ∀ j ∈ before, j.status ≠ s.id) (hi : i.status = s.id) :
      Accepts s turns (before ++ i :: after)
        (before ++ { i with remaining := turns, stackCount := Battle.nextStacks s i.stackCount } ::
          after) (Battle.nextStacks s i.stackCount)

/-- Whoever accepts a status holds it, and whatever else it held. -/
theorem Accepts.mem_status {s : Status} {turns n : Nat} {is is' : List Affliction}
    (h : Accepts s turns is is' n) {st : String} :
    st ∈ is'.map (·.status) ↔ st = s.id ∨ st ∈ is.map (·.status) := by
  cases h with
  | added => simp [or_comm]
  | renewed _ _ hi | stacked _ _ hi =>
    simp only [List.map_append, List.map_cons, List.mem_append, List.mem_cons, hi]
    grind

namespace Battle

theorem hasShield_of_grantShield {b : Battle} {codex : Codex} {id q : ActorId} {s : Status}
    {k : String} (h : (b.grantShield codex id s).HasShield q k) :
    b.HasShield q k ∨ q = id ∧ s.shieldId? = some k := by
  unfold grantShield at h
  split at h
  · next g a hg ha =>
    rcases hasShield_of_setShield h with ⟨hq, hk⟩ | hold
    · exact .inr ⟨hq, by rw [Status.shieldId?, hg, hk]; rfl⟩
    · exact .inl hold
  · exact .inl h

theorem actors_grantShield (b : Battle) (codex : Codex) (id : ActorId) (s : Status) :
    (b.grantShield codex id s).actors = b.actors := by
  unfold grantShield setShield
  dsimp only
  split
  · split <;> rfl
  · rfl

/-- Where an actor holds a status, its afflictions are those before the first one of the status,
that one and those after it. -/
theorem affliction?_eq_some {a : Actor} {st : String} {i : Affliction}
    (h : a.affliction? st = some i) :
    ∃ before after, a.afflictions = before ++ i :: after ∧ (∀ j ∈ before, j.status ≠ st) ∧
      i.status = st := by
  obtain ⟨hi, before, after, heq, hbefore⟩ := List.find?_eq_some_iff_append.1 h
  refine ⟨before, after, heq, fun j hj => ?_, eq_of_beq hi⟩
  simpa using hbefore j hj

/-- An application is ignored, or the actor accepts the status and may get its shield. -/
theorem afflict_cases (b : Battle) (codex : Codex) (id : ActorId) (s : Status)
    (turns : Option Nat) :
    b.afflict codex id s turns = (b, none) ∨
      ∃ b' is n, b.afflict codex id s turns = (b', some n) ∧
        Accepts s (effectiveTurns s turns) (b.afflictionsOf id) is n ∧
        (∀ q, b'.afflictionsOf q = if q = id then is else b.afflictionsOf q) ∧
        ∀ q k, b'.HasShield q k → b.HasShield q k ∨ q = id ∧ s.shieldId? = some k := by
  unfold afflict
  dsimp only
  split
  · exact .inl rfl
  · next a ha =>
    have hheld := afflictionsOf_eq ha
    have haccepted : ∀ (g : List Affliction → List Affliction) line n,
        Accepts s (effectiveTurns s turns) a.afflictions (g a.afflictions) n →
        ∃ b' is m, (((b.modifyActor id fun a => { a with afflictions := g a.afflictions }).announce
            line).grantShield codex id s, some n) = (b', some m) ∧
          Accepts s (effectiveTurns s turns) (b.afflictionsOf id) is m ∧
          (∀ q, b'.afflictionsOf q = if q = id then is else b.afflictionsOf q) ∧
          ∀ q k, b'.HasShield q k → b.HasShield q k ∨ q = id ∧ s.shieldId? = some k := by
      intro g line n hg
      refine ⟨_, g a.afflictions, n, rfl, hheld ▸ hg, fun q => ?_, fun q k h => ?_⟩
      · rw [afflictionsOf_congr (actors_grantShield ..), afflictionsOf_congr (actors_announce ..),
          afflictionsOf_modifyActor (fun _ => rfl) fun hnone => nomatch ha.symm.trans hnone]
        split
        · next hq => rw [hq, hheld]
        · rfl
      · exact (hasShield_of_grantShield h).imp_left (hasShield_congr rfl q k).1
    split
    · next hnone =>
      refine .inr (haccepted (· ++ [⟨s.id, effectiveTurns s turns, 1⟩]) _ _
        (.added fun i hi heq => ?_))
      exact List.find?_eq_none.1 hnone i hi (beq_iff_eq.2 heq)
    · exact .inl rfl
    · next i hi hr =>
      obtain ⟨before, after, heq, hbefore, hstatus⟩ := affliction?_eq_some hi
      refine .inr (haccepted (Affliction.updateFirst s.id _) _ _ ?_)
      rw [heq, Affliction.updateFirst_append hbefore hstatus]
      exact .renewed hr hbefore hstatus
    · next i hi hignore hrenew =>
      obtain ⟨before, after, heq, hbefore, hstatus⟩ := affliction?_eq_some hi
      refine .inr (haccepted (Affliction.updateFirst s.id _) _ _ ?_)
      rw [heq, Affliction.updateFirst_append hbefore hstatus]
      refine .stacked ?_ hbefore hstatus
      cases hr : s.stacking <;> simp_all [Stacking.addsStacks]

/-! ## Boundaries -/

/-- Wearing off leaves the afflictions as they are, and takes the shield of the status away. -/
theorem afflictionsOf_wearOff (b : Battle) (codex : Codex) (id : ActorId) (status : String)
    (q : ActorId) : (b.wearOff codex id status).afflictionsOf q = b.afflictionsOf q :=
  afflictionsOf_congr (b.actors_removeGranted ..) q

theorem hasShield_wearOff {b : Battle} {codex : Codex} {id q : ActorId} {status k : String} :
    (b.wearOff codex id status).HasShield q k ↔
      b.HasShield q k ∧ ¬(q = id ∧ codex.granted? status = some k) :=
  (hasShield_congr rfl q k).trans hasShield_removeGranted

theorem afflictionsOf_countDown (b : Battle) (id : ActorId) (statuses : List String)
    (q : ActorId) : (b.countDown id statuses).afflictionsOf q =
      if q = id then (b.afflictionsOf q).map fun i =>
        if statuses.contains i.status then { i with remaining := i.remaining - 1 } else i
      else b.afflictionsOf q :=
  afflictionsOf_modifyActor (fun _ => rfl) (fun _ => rfl) q

theorem afflictionsOf_dropExpired (b : Battle) (id q : ActorId) :
    (b.dropExpired id).afflictionsOf q =
      if q = id then (b.afflictionsOf q).filter fun i => i.remaining != 0
      else b.afflictionsOf q :=
  afflictionsOf_modifyActor (fun _ => rfl) (fun _ => rfl) q

end Battle

end Skirmish
