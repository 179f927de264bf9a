import Skirmish.Proofs.Wounds

/-!
# Cleansing and dispelling

Cleansing and dispelling differ in what they name only. What either of them leaves of an actor, of
its shields and of the rest of a battle is one law about `Battle.detachWhere`, which is stated as
`Battle.Sheds`: afflictions go where their status is named, shields where such a status grants them,
and what remains stands in its old order. As nothing is left that is named, a second call finds
nothing to take.
-/

namespace Skirmish

namespace Battle

variable {codex : Codex} {b b' : Battle} {id q : ActorId}

/-! ## Shields of statuses that go -/

theorem shieldsOf_removeGranted (b : Battle) (codex : Codex) (id : ActorId) (status : String) :
    (b.removeGranted codex id status).shieldsOf id =
      (b.shieldsOf id).filter fun s => codex.granted? status ≠ some s.id := by
  unfold removeGranted Codex.granted?
  cases (codex.status? status).bind Status.shieldId? with
  | none => simp
  | some k =>
    rw [Option.elim_some, removeShield, shieldsOf_withShields, if_pos rfl]
    refine List.filter_congr fun s _ => ?_
    by_cases hs : s.id = k
    · simp [hs]
    · simp [hs, Ne.symm hs]

theorem shieldsOf_foldl_removeGranted (b : Battle) (codex : Codex) (id : ActorId)
    (statuses : List String) :
    (statuses.foldl (fun b st => b.removeGranted codex id st) b).shieldsOf id =
      (b.shieldsOf id).filter fun s => ∀ st ∈ statuses, codex.granted? st ≠ some s.id := by
  induction statuses generalizing b with
  | nil => simp
  | cons st statuses ih =>
    rw [List.foldl_cons, ih, shieldsOf_removeGranted, List.filter_filter]
    refine List.filter_congr fun s _ => ?_
    simp only [List.forall_mem_cons, Bool.decide_and, Bool.and_comm]

/-- The shields of other actors stay, and no entry without shields arises. -/
theorem get?_shields_removeGranted (b : Battle) (codex : Codex) (id : ActorId) (status : String) :
    (∀ q, q ≠ id → (b.removeGranted codex id status).shields.get? q = b.shields.get? q) ∧
      ((b.removeGranted codex id status).shields.get? id = some [] →
        b.shields.get? id = some []) := by
  unfold removeGranted
  cases (codex.status? status).bind Status.shieldId? with
  | none => exact ⟨fun _ _ => rfl, fun h => h⟩
  | some k =>
    refine ⟨fun q hq => shields_withShields_of_ne hq _, fun h => ?_⟩
    rw [Option.elim_some, removeShield, get?_shields_withShields] at h
    split at h
    · cases h
    · next hss => exact absurd (Option.some.inj h) hss

theorem get?_shields_foldl_removeGranted (b : Battle) (codex : Codex) (id : ActorId)
    (statuses : List String) :
    (∀ q, q ≠ id →
      (statuses.foldl (fun b st => b.removeGranted codex id st) b).shields.get? q =
        b.shields.get? q) ∧
    ((statuses.foldl (fun b st => b.removeGranted codex id st) b).shields.get? id = some [] →
      b.shields.get? id = some []) := by
  induction statuses generalizing b with
  | nil => exact ⟨fun _ _ => rfl, fun h => h⟩
  | cons st statuses ih =>
    obtain ⟨hothers, hemptied⟩ := ih (b.removeGranted codex id st)
    obtain ⟨hothers', hemptied'⟩ := b.get?_shields_removeGranted codex id st
    exact ⟨fun q hq => (hothers q hq).trans (hothers' q hq), fun h => hemptied' (hemptied h)⟩

/-! ## What is taken, and what stays -/

/-- An actor loses the statuses that are named, their display names are told, and nothing else
happens to the battle. -/
structure Sheds (codex : Codex) (id : ActorId) (named : String → Prop) [DecidablePred named]
    (b : Battle) (told : List String) (b' : Battle) : Prop where
  /-- The display names are those of what is lost, in the order in which it was held. -/
  told_eq : told = ((b.statusesOf id).filter fun st => named st).map codex.statusName
  /-- Of its record the actor loses the afflictions of what is named. -/
  actor : b'.actor? id = (b.actor? id).map fun a =>
    { a with afflictions := a.afflictions.filter fun i => ¬ named i.status }
  /-- It loses the shields that some status it held and that is named grants. -/
  shields : b'.shieldsOf id = (b.shieldsOf id).filter fun s =>
    ∀ st ∈ b.statusesOf id, named st → codex.granted? st ≠ some s.id
  /-- Without any shield it has no entry for them. -/
  emptied : b'.shields.get? id = some [] → b.shields.get? id = some []
  others : ∀ q, q ≠ id → b'.actor? q = b.actor? q ∧ b'.shields.get? q = b.shields.get? q
  rest : ∃ actors shields, b' = { b with actors := actors, shields := shields }
  /-- Where nothing is lost the battle is as it was. -/
  idle : told = [] → b' = b

variable {named : String → Prop} [DecidablePred named]

/-- What is named is told of by the names of the afflictions that go. -/
theorem map_status_filter (is : List Affliction) :
    (is.filter fun i => named i.status).map (·.status) =
      (is.map (·.status)).filter fun st => named st := by
  rw [List.filter_map]
  rfl

/-- Nobody who holds nothing that is named loses anything. -/
theorem Sheds.of_forall_not (h : ∀ st ∈ b.statusesOf id, ¬ named st) :
    Sheds codex id named b [] b where
  told_eq := by
    rw [List.filter_eq_nil_iff.2 fun st hst => by simpa using h st hst]
    rfl
  actor := by
    cases ha : b.actor? id with
    | none => rfl
    | some a =>
      have hall : a.afflictions.filter (fun i => ¬ named i.status) = a.afflictions :=
        List.filter_eq_self.2 fun i hi => by
          simpa using h i.status (List.mem_map_of_mem (afflictionsOf_eq ha ▸ hi))
      rw [Option.map_some, hall]
  shields := (List.filter_eq_self.2 fun s _ => by
    simpa using fun st hst hnamed => absurd hnamed (h st hst)).symm
  emptied := fun h => h
  others := fun _ _ => ⟨rfl, rfl⟩
  rest := ⟨b.actors, b.shields, rfl⟩
  idle := fun _ => rfl

variable (codex) in
/-- Whoever holds something that is named loses it. -/
theorem sheds_detach (h : ((b.statusesOf id).filter fun st => named st) ≠ []) :
    Sheds codex id named b
      (b.detach codex id ((b.statusesOf id).filter fun st => named st)).1
      (b.detach codex id ((b.statusesOf id).filter fun st => named st)).2 := by
  have hmem : ∀ st ∈ b.statusesOf id,
      ((b.statusesOf id).filter fun st => named st).contains st = decide (named st) := by
    intro st hst
    rw [Bool.eq_iff_iff, List.contains_iff_mem, List.mem_filter]
    exact and_iff_right hst
  generalize hstatuses : ((b.statusesOf id).filter fun st => named st) = statuses at h hmem ⊢
  let c := b.modifyActor id fun a =>
    { a with afflictions := a.afflictions.filter fun i => !statuses.contains i.status }
  let r := statuses.foldl (fun b st => b.removeGranted codex id st) c
  have hactors : r.actors = c.actors := (foldl_removeGranted c codex id statuses).1
  have hactor : ∀ q, r.actor? q = c.actor? q := fun q => by rw [actor?, actor?, hactors]
  obtain ⟨hforeign, hemptied⟩ := get?_shields_foldl_removeGranted c codex id statuses
  refine ⟨by rw [hstatuses]; rfl, ?_, ?_, hemptied, fun q hq => ⟨?_, hforeign q hq⟩, ?_, ?_⟩
  · change r.actor? id = _
    rw [hactor, actor?_modifyActor, if_pos rfl]
    cases ha : b.actor? id with
    | none => rfl
    | some a =>
      have hkept : a.afflictions.filter (fun i => !statuses.contains i.status) =
          a.afflictions.filter fun i => ¬ named i.status :=
        List.filter_congr fun i hi => by
          rw [hmem _ (List.mem_map_of_mem (afflictionsOf_eq ha ▸ hi)), decide_not]
      simp only [Option.map_some, hkept]
  · change r.shieldsOf id = _
    rw [shieldsOf_foldl_removeGranted]
    change (b.shieldsOf id).filter _ = _
    refine List.filter_congr fun s _ => ?_
    simp only [← hstatuses, List.mem_filter, decide_eq_true_eq, and_imp]
  · change r.actor? q = _
    rw [hactor, actor?_modifyActor, if_neg hq]
  · obtain ⟨shields, hfold⟩ := foldl_removeGranted_eq c codex id statuses
    exact ⟨c.actors, shields, hfold⟩
  · exact fun hnil => absurd (List.map_eq_nil_iff.1 hnil) h

/-- Nothing is left that is named. -/
theorem Sheds.not_named {told : List String} (h : Sheds codex id named b told b') {st : String}
    (hst : st ∈ b'.statusesOf id) : ¬ named st := by
  obtain ⟨i, hi, rfl⟩ := List.mem_map.1 hst
  obtain ⟨a, ha, hia⟩ := exists_actor_of_afflictionsOf hi
  rw [h.actor] at ha
  obtain ⟨_, -, rfl⟩ := Option.map_eq_some_iff.1 ha
  simpa using (List.mem_filter.1 hia).2

variable (named) in
/-- What is named is taken, and then there is nothing left to take. -/
theorem sheds_detachWhere (b : Battle) (codex : Codex) (id : ActorId) :
    ∃ told b', b.detachWhere codex id (fun i => named i.status) = (told, b') ∧
      Sheds codex id named b told b' ∧
      b'.detachWhere codex id (fun i => named i.status) = ([], b') := by
  have hnone : ∀ {b : Battle}, (∀ st ∈ b.statusesOf id, ¬ named st) →
      b.detachWhere codex id (fun i => named i.status) = ([], b) := by
    intro b h
    unfold detachWhere
    rw [map_status_filter, List.filter_eq_nil_iff.2 fun st hst => by simpa using h st hst]
  by_cases hnil : ((b.statusesOf id).filter fun st => named st) = []
  · have h : ∀ st ∈ b.statusesOf id, ¬ named st := fun st hst => by
      simpa using List.filter_eq_nil_iff.1 hnil st hst
    exact ⟨[], b, hnone h, .of_forall_not h, hnone h⟩
  · have heq : b.detachWhere codex id (fun i => named i.status) =
        b.detach codex id ((b.statusesOf id).filter fun st => named st) := by
      unfold detachWhere
      split
      · next h =>
        rw [map_status_filter] at h
        exact absurd h hnil
      · rw [map_status_filter, statusesOf]
    have hsheds := sheds_detach codex hnil
    exact ⟨_, _, heq, hsheds, hnone fun st => hsheds.not_named⟩

/-- **Cleansing and dispelling take exactly what they name.** Cleansing names the registered
statuses with one of some tags, or all statuses; dispelling names one status, or all of them. The
actor loses them and the shields that they grant, the display names are those of what it lost, and
nothing else in the battle changes; the same call, made once more, takes nothing. -/
theorem removal_exact (b : Battle) (codex : Codex) (id : ActorId) :
    (∀ tags : Option (List String), ∃ told b', b.cleanse codex id tags = (told, b') ∧
      Sheds codex id (fun st => ∀ ts ∈ tags, ∃ s ∈ codex.status? st, ∃ t ∈ ts, t ∈ s.tags)
        b told b' ∧
      b'.cleanse codex id tags = ([], b')) ∧
    (∀ status : Option String, ∃ told b', b.dispel codex id status = (told, b') ∧
      Sheds codex id (fun st => ∀ k ∈ status, st = k) b told b' ∧
      b'.dispel codex id status = ([], b')) := by
  constructor
  · intro tags
    let named (st : String) : Prop := ∀ ts ∈ tags, ∃ s ∈ codex.status? st, ∃ t ∈ ts, t ∈ s.tags
    have hnamed : (fun i : Affliction => tags.all fun tags => isTagged codex tags i) =
        fun i => decide (named i.status) := by
      funext i
      rw [Bool.eq_iff_iff, decide_eq_true_iff]
      cases tags with
      | none => simp [named]
      | some ts => cases hs : codex.status? i.status <;> simp [named, isTagged, hs, Status.hasTag]
    simp only [cleanse, hnamed]
    exact sheds_detachWhere named b codex id
  · intro status
    let named (st : String) : Prop := ∀ k ∈ status, st = k
    have hnamed : (fun i : Affliction => status.all fun st => i.status == st) =
        fun i => decide (named i.status) := by
      funext i
      rw [Bool.eq_iff_iff, decide_eq_true_iff]
      cases status <;> simp [named]
    simp only [dispel, hnamed]
    exact sheds_detachWhere named b codex id

end Battle

end Skirmish
