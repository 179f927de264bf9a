import Skirmish.Proofs.Cleansing
import Skirmish.Proofs.Frames
import Skirmish.Proofs.Refusal

/-!
# Whom an immediate effect touches

An immediate effect goes through its targets and changes each of them that admits it
(`Battle.admits`): a living actor that passes the filter of the effect, or one that is down, could
have hp and passes it, if the effect revives. What each target has to do with the actors, their
shields, their taunts and the turns they lose concerns that target alone, so it only touches one
actor (`Battle.touches_applyImmediate`), and nothing at all where the target does not admit the
effect. Along the targets only actors are touched that admit the effect at one of their places
(`Battle.touches_applyInTurn`).
-/

namespace Skirmish

namespace Battle

variable {b b' b'' : Battle} {e : Effect} {p p' : ActorId → Prop} {id x : ActorId}

/-! ## Admission -/

/-- Whether an actor is one that an immediate effect is meant to change. -/
def admits (b : Battle) (e : Effect) (x : ActorId) : Bool :=
  (b.actor? x).any fun a =>
    (if e.kind = .revive then !a.alive && decide (0 < a.stats.maxHp) else a.alive) &&
      Filter.permits e.onlyIf a

/-- An effect that reaches an actor which does not admit it revives nobody. -/
theorem applyImmediate_of_not_admits (rules : Rules) (o : Origin) (user : ActorId)
    (hr : b.isReached e x = true) (h : b.admits e x = false) :
    b.applyImmediate rules e o user x = b := by
  unfold isReached at hr
  unfold admits at h
  cases ha : b.actor? x with
  | none => simp [ha] at hr
  | some a =>
    simp only [ha, Option.any_some, Bool.and_eq_true] at hr
    simp only [ha, Option.any_some, hr.2, Bool.and_true] at h
    by_cases hk : e.kind = .revive
    · rw [if_pos hk] at h
      have hidle : b.isAlive x || decide ((b.actor? x).elim 0 (·.stats.maxHp) ≤ 0) := by
        simp only [isAlive, ha, Option.any_some, Option.elim_some]
        cases halive : a.alive with
        | true => rfl
        | false => simpa [halive] using h
      unfold applyImmediate revive
      simp only [hk]
      rw [if_pos hidle]
    · rw [if_neg hk] at h
      simp [h, hk] at hr

/-! ## What is touched -/

/-- What a battle knows of an actor is what it knew. -/
structure KeepsActor (b b' : Battle) (x : ActorId) : Prop where
  actor : b'.actor? x = b.actor? x
  shields : b'.shields.get? x = b.shields.get? x
  taunt : b'.taunts.get? x = b.taunts.get? x
  prevented : b'.prevented.get? x = b.prevented.get? x

/-- Of all that a battle holds, only some actors are touched, and the log grows. -/
structure Touches (p : ActorId → Prop) (b b' : Battle) : Prop where
  rest : ∃ actors shields taunts prevented lines, b' =
    { b with
      actors := actors, shields := shields, taunts := taunts, prevented := prevented,
      log := b.log ++ lines }
  others : ∀ x, ¬ p x → b.KeepsActor b' x

theorem Touches.refl (b : Battle) : Touches p b b where
  rest := ⟨b.actors, b.shields, b.taunts, b.prevented, [], by rw [List.append_nil]⟩
  others := fun _ _ => ⟨rfl, rfl, rfl, rfl⟩

theorem Touches.trans (h : Touches p b b') (h' : Touches p b' b'') : Touches p b b'' where
  rest := by
    obtain ⟨_, _, _, _, lines, rfl⟩ := h.rest
    obtain ⟨actors, shields, taunts, prevented, lines', rfl⟩ := h'.rest
    exact ⟨actors, shields, taunts, prevented, lines ++ lines', by rw [← List.append_assoc]⟩
  others := fun x hx =>
    have hb := h.others x hx
    have hb' := h'.others x hx
    ⟨hb'.actor.trans hb.actor, hb'.shields.trans hb.shields, hb'.taunt.trans hb.taunt,
      hb'.prevented.trans hb.prevented⟩

theorem Touches.mono (h : Touches p b b') (hp : ∀ x, p x → p' x) : Touches p' b b' where
  rest := h.rest
  others := fun x hx => h.others x fun hpx => hx (hp x hpx)

theorem touches_announce (b : Battle) (line : String) : Touches p b (b.announce line) where
  rest := ⟨b.actors, b.shields, b.taunts, b.prevented, [line], rfl⟩
  others := fun _ _ => ⟨rfl, rfl, rfl, rfl⟩

theorem touches_modifyActor (b : Battle) (id : ActorId) (f : Actor → Actor) :
    Touches (· = id) b (b.modifyActor id f) where
  rest := ⟨_, b.shields, b.taunts, b.prevented, [], by rw [List.append_nil]; rfl⟩
  others := fun _ hx => ⟨by rw [actor?_modifyActor, if_neg hx], rfl, rfl, rfl⟩

theorem touches_faintIfDown (b : Battle) (id : ActorId) :
    Touches (· = id) b (b.faintIfDown id) := by
  unfold faintIfDown
  split
  · exact .refl b
  · split
    · exact (touches_modifyActor ..).trans (touches_announce ..)
    · exact .refl b

theorem touches_withShields (b : Battle) (id : ActorId) (ss : List Shield) :
    Touches (· = id) b (b.withShields id ss) where
  rest := ⟨b.actors, _, b.taunts, b.prevented, [], by rw [List.append_nil]; rfl⟩
  others := fun _ hx => ⟨rfl, shields_withShields_of_ne hx ss, rfl, rfl⟩

theorem Sheds.touches {codex : Codex} {named : String → Prop} [DecidablePred named]
    {told : List String} (h : Sheds codex id named b told b') : Touches (· = id) b b' := by
  have hothers := h.others
  obtain ⟨actors, shields, rfl⟩ := h.rest
  exact ⟨⟨actors, shields, b.taunts, b.prevented, [], by rw [List.append_nil]⟩,
    fun x hx => ⟨(hothers x hx).1, (hothers x hx).2, rfl, rfl⟩⟩

theorem touches_detachWhere (b : Battle) (codex : Codex) (id : ActorId) (takes : String → Bool) :
    Touches (· = id) b (b.detachWhere codex id fun i => takes i.status).2 := by
  obtain ⟨told, b', heq, hsheds, -⟩ := sheds_detachWhere (fun st => takes st = true) b codex id
  simp only [Bool.decide_eq_true] at heq
  rw [heq]
  exact hsheds.touches

theorem touches_cleanseAloud (b : Battle) (codex : Codex) (id : ActorId)
    (tags : Option (List String)) : Touches (· = id) b (b.cleanseAloud codex id tags) := by
  have htouches := b.touches_detachWhere codex id (Removal.cleansing codex id tags).takes
  change Touches _ _ (b.cleanse codex id tags).2 at htouches
  unfold cleanseAloud
  split
  · next heq =>
    rw [heq] at htouches
    exact htouches
  · next heq =>
    rw [heq] at htouches
    exact htouches.trans (touches_announce ..)

theorem touches_dispelAloud (b : Battle) (codex : Codex) (id : ActorId) (status : Option String) :
    Touches (· = id) b (b.dispelAloud codex id status) := by
  have htouches := b.touches_detachWhere codex id (Removal.dispelling id status).takes
  change Touches _ _ (b.dispel codex id status).2 at htouches
  unfold dispelAloud
  split
  · next heq =>
    rw [heq] at htouches
    exact htouches
  · next heq =>
    rw [heq] at htouches
    exact htouches.trans (touches_announce ..)

/-- A target is all that an immediate effect on it touches. -/
theorem touches_applyImmediate (b : Battle) (rules : Rules) (e : Effect) (o : Origin)
    (user id : ActorId) : Touches (· = id) b (b.applyImmediate rules e o user id) := by
  unfold applyImmediate
  dsimp only
  split
  case h_1 => exact (touches_modifyActor ..).trans (touches_announce ..)
  case h_2 =>
    exact ((touches_modifyActor ..).trans (touches_announce ..)).trans (touches_faintIfDown ..)
  case h_3 => exact b.touches_cleanseAloud ..
  case h_4 => exact b.touches_dispelAloud ..
  case h_5 =>
    cases e.stat with
    | none => exact .refl b
    | some k =>
      exact ((touches_modifyActor ..).trans (touches_announce ..)).trans (touches_faintIfDown ..)
  case h_6 => exact (touches_withShields ..).trans (touches_announce ..)
  case h_7 =>
    have htaunted : Touches (· = id) b
        { b with taunts := b.taunts.insert id ⟨user, e.statusTurns.getD 1⟩ } :=
      ⟨⟨b.actors, b.shields, _, b.prevented, [], by rw [List.append_nil]⟩,
        fun x hx => ⟨rfl, rfl, Table.get?_insert_of_ne hx _, rfl⟩⟩
    exact htaunted.trans (touches_announce ..)
  case h_8 =>
    unfold revive
    dsimp only
    split
    · exact .refl b
    · exact (touches_modifyActor ..).trans (touches_announce ..)
  case h_9 =>
    have hprevented : Touches (· = id) b
        { b with prevented := b.prevented.insert id b.boundaries } :=
      ⟨⟨b.actors, b.shields, b.taunts, _, [], by rw [List.append_nil]⟩,
        fun x hx => ⟨rfl, rfl, rfl, Table.get?_insert_of_ne hx _⟩⟩
    exact hprevented.trans (touches_announce ..)
  all_goals exact .refl b

/-! ## One target after the other -/

variable (rules : Rules) (o : Origin) (user : ActorId)

/-- A place touches its target, and only if the target admits the effect there. -/
theorem touches_place (b : Battle) (e : Effect) (id : ActorId) :
    Touches (fun x => x = id ∧ b.admits e x = true) b
      (b.applyInTurn rules e o user [id]) := by
  change Touches _ b (if b.isReached e id then b.applyImmediate rules e o user id else b)
  split
  · next hr =>
    cases h : b.admits e id with
    | true =>
      refine (b.touches_applyImmediate rules e o user id).mono ?_
      rintro x rfl
      exact ⟨rfl, h⟩
    | false =>
      rw [applyImmediate_of_not_admits rules o user hr h]
      exact .refl b
  · exact .refl b

theorem applyInTurn_append (b : Battle) (e : Effect) (before after : List ActorId) :
    b.applyInTurn rules e o user (before ++ after) =
      (b.applyInTurn rules e o user before).applyInTurn rules e o user after :=
  List.foldl_append

/-- Along the targets, whoever admits the effect at one of its places is touched. -/
theorem touches_applyInTurn (b : Battle) (e : Effect) (targets : List ActorId) :
    Touches (fun x => ∃ before after, targets = before ++ x :: after ∧
        (b.applyInTurn rules e o user before).admits e x = true)
      b (b.applyInTurn rules e o user targets) := by
  induction targets generalizing b with
  | nil => exact .refl b
  | cons id ids ih =>
    rw [← List.singleton_append, applyInTurn_append]
    refine Touches.trans ((b.touches_place rules o user e id).mono ?_)
      ((ih (b.applyInTurn rules e o user [id])).mono ?_)
    · rintro x ⟨rfl, h⟩
      exact ⟨[], ids, rfl, h⟩
    · rintro x ⟨before, after, rfl, h⟩
      exact ⟨id :: before, after, rfl, h⟩

/-- Who does not admit an effect does not come to admit it along the targets. -/
theorem admits_applyInTurn {targets : List ActorId} (h : b.admits e x = false) :
    (b.applyInTurn rules e o user targets).admits e x = false := by
  induction targets generalizing b with
  | nil => exact h
  | cons id ids ih =>
    rw [← List.singleton_append, applyInTurn_append]
    apply ih
    have hkept := (b.touches_place rules o user e id).others x fun hx => by simp [h] at hx
    rw [← h, admits, admits, hkept.actor]

/-- **An immediate effect touches nobody but targets that admit it.** Whatever runs the hooks, the
effect goes through: draws, turns, rosters, inventory, cooldowns, charges and the end of the battle
stay as they are, and the log grows. An actor that is no target, or that admits the effect at none
of its places among the targets, given what the effect made of the battle up to there, keeps its
record, its shields, its taunt and its mark of a lost turn. -/
theorem immediate_touches_admitting (hk : e.kind.isImmediate = true) (run : HookRunner)
    (targets : List ActorId) (s : Scene) :
    ∃ b', applyEffect rules run e o user targets s =
        some ({ s with battle := b' }, if s.battle.isOver then .halt else .proceed) ∧
      (∃ actors shields taunts prevented lines, b' =
        { s.battle with
          actors := actors, shields := shields, taunts := taunts, prevented := prevented,
          log := s.battle.log ++ lines }) ∧
      ∀ x, (∀ before after s' flow, targets = before ++ x :: after →
          applyEffect rules run e o user before s = some (s', flow) →
            s'.battle.admits e x = false) →
        s.battle.KeepsActor b' x := by
  have happly := applyEffect_of_immediate hk rules run o user
  by_cases hover : s.battle.isOver = true
  · refine ⟨s.battle, ?_, (Touches.refl (p := fun _ => False) s.battle).rest, ?_⟩
    · rw [happly, if_pos hover, if_pos hover]
    · exact fun x _ => ⟨rfl, rfl, rfl, rfl⟩
  · have htouches := touches_applyInTurn rules o user s.battle e targets
    refine ⟨s.battle.applyInTurn rules e o user targets, ?_, htouches.rest, fun x hx => ?_⟩
    · rw [happly, if_neg hover, if_neg hover]
    · apply htouches.others
      rintro ⟨before, after, htargets, hadmits⟩
      have hrejected := hx before after _ _ htargets (by rw [happly, if_neg hover])
      rw [hadmits] at hrejected
      cases hrejected

/-- The duel once the slime is down. -/
def wonDuel : Battle := duel.modifyActor "slime" Actor.faint

/-- Brings back whoever is down. -/
def rally : Effect := Effect.revive (.flat 3)

/-- Meant for both, a revival brings back the slime, and the hero, who stands, is as before. -/
theorem rally_passes_hero :
    ∃ b', applyEffect {} (runHook {} 0) rally {} "hero" ["hero", "slime", "hero"] ⟨wonDuel, []⟩ =
        some (⟨b', []⟩, .proceed) ∧
      b'.isAlive "slime" = true ∧ wonDuel.KeepsActor b' "hero" := by
  have himmediate : rally.kind.isImmediate = true := rfl
  have hgoing : wonDuel.isOver = false := by decide +kernel
  have hstands : wonDuel.admits rally "hero" = false := by decide +kernel
  have happly : ∀ targets, applyEffect {} (runHook {} 0) rally {} "hero" targets ⟨wonDuel, []⟩ =
      some (⟨wonDuel.applyInTurn {} rally {} "hero" targets, []⟩, .proceed) := fun targets => by
    rw [applyEffect_of_immediate himmediate, hgoing]
    rfl
  obtain ⟨b', heq, -, hkept⟩ := immediate_touches_admitting {} {} "hero" himmediate (runHook {} 0)
    ["hero", "slime", "hero"] ⟨wonDuel, []⟩
  rw [hgoing, if_neg Bool.false_ne_true] at heq
  refine ⟨b', heq, ?_, hkept "hero" fun before after s' flow _ hbefore => ?_⟩
  · rw [happly] at heq
    cases heq
    decide +kernel
  · rw [happly] at hbefore
    cases hbefore
    exact admits_applyInTurn {} {} "hero" hstands

end Battle

end Skirmish
