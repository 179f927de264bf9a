import Skirmish.Proofs.Search
import Skirmish.Turn.Play

/-!
# Refusals

A refused action leaves nothing behind but a line of the log (`refused_only_logs`). All refusals but
the last one come before anything is changed. The last one comes after a search for targets, which
may have drawn and may have dropped a taunt; `restore_resolveTargets` says that both are undone,
whatever the selector and whoever was named.
-/

namespace Skirmish

namespace Battle

/-! ## Checks -/

/-- What comes of two things in a row that can fail. -/
theorem bind_eq_ok_iff {ε α β : Type} {x : Except ε α} {f : α → Except ε β} {r : β} :
    x >>= f = .ok r ↔ ∃ a, x = .ok a ∧ f a = .ok r := by
  cases x with
  | error e => exact iff_of_false (fun h => by cases h) fun ⟨_, h, _⟩ => by cases h
  | ok a => exact ⟨fun h => ⟨a, rfl, h⟩, fun ⟨_, ha, h⟩ => by cases ha; exact h⟩

/-- A check that is passed lets the rest decide. -/
theorem check_eq_ok_iff {ε α : Type} {c : Prop} [Decidable c] {e : ε} {k : Except ε α} {r : α} :
    (if c then (do let _ ← (throw e : Except ε PUnit); k) else k) = .ok r ↔ ¬ c ∧ k = .ok r := by
  split
  · next hc => exact iff_of_false nofun fun h => h.1 hc
  · next hc => exact ⟨fun h => ⟨hc, h⟩, fun h => h.2⟩

/-- Who passes the checks is alive and has the turn in a battle that goes on. -/
theorem checkActor_eq_ok_iff {b : Battle} {id : ActorId} {a : Actor} :
    b.checkActor id = .ok a ↔ b.ended = none ∧ b.actor? id = some a ∧ a.alive = true ∧
      b.currentActor? = some id ∧ b.isPrevented id = false := by
  have hover : ¬ b.isOver = true ↔ b.ended = none := Option.not_isSome_iff_eq_none
  unfold checkActor
  cases ha : b.actor? id with
  | none => simp [check_eq_ok_iff]
  | some a' =>
    simp only [check_eq_ok_iff, hover, Bool.not_eq_true, Bool.not_eq_true', bne_iff_ne, ne_eq,
      Decidable.not_not, Bool.not_eq_false, Option.some.injEq]
    constructor
    · rintro ⟨hended, halive, hturn, hfree, ha'⟩
      obtain rfl := Except.ok.inj ha'
      exact ⟨hended, rfl, halive, hturn, hfree⟩
    · rintro ⟨hended, rfl, halive, hturn, hfree⟩
      exact ⟨hended, halive, hturn, hfree, rfl⟩

theorem checkActor_of_validate {b : Battle} {act : Action} {id : ActorId}
    (h : b.validate act id = .ok ()) : ∃ a, b.checkActor id = .ok a := by
  obtain ⟨a, ha, -⟩ := bind_eq_ok_iff.1 h
  exact ⟨a, ha⟩

/-! ## Grounds -/

theorem bind_eq_error_iff {ε α β : Type} {x : Except ε α} {f : α → Except ε β} {e : ε} :
    x >>= f = .error e ↔ x = .error e ∨ ∃ a, x = .ok a ∧ f a = .error e := by
  cases x with
  | error e' =>
    refine ⟨fun h => .inl (congrArg Except.error (Except.error.inj h)), ?_⟩
    rintro (h | ⟨_, ha, -⟩)
    · exact congrArg Except.error (Except.error.inj h)
    · cases ha
  | ok a =>
    refine ⟨fun h => .inr ⟨a, rfl, h⟩, ?_⟩
    rintro (h | ⟨_, ha, h⟩)
    · cases h
    · cases ha
      exact h

/-- A check that fails gives its own refusal, else the rest does. -/
theorem check_eq_error_iff {ε α : Type} {c : Prop} [Decidable c] {e e' : ε} {k : Except ε α} :
    (if c then (do let _ ← (throw e : Except ε PUnit); k) else k) = .error e' ↔
      c ∧ e = e' ∨ ¬c ∧ k = .error e' := by
  split
  · next hc =>
    refine ⟨fun h => .inl ⟨hc, Except.error.inj h⟩, ?_⟩
    rintro (⟨-, rfl⟩ | ⟨hnot, -⟩)
    · rfl
    · exact absurd hc hnot
  · next hc => exact ⟨fun h => .inr ⟨hc, h⟩, fun h => h.elim (fun h => absurd h.1 hc) And.right⟩

/-- The grounds on which an action of an actor is refused, at the targets that the caller names. -/
inductive Grounds (b : Battle) (act : Action) (id : ActorId) (named : List ActorId) :
    Refusal → Prop
  | battleOver (h : b.isOver = true) : Grounds b act id named .battleOver
  | unknownActor (h : b.actor? id = none) : Grounds b act id named (.unknownActor id)
  | fainted (a : Actor) (ha : b.actor? id = some a) (h : a.alive = false) :
      Grounds b act id named (.fainted a.name)
  | notYourTurn (a : Actor) (ha : b.actor? id = some a) (h : b.currentActor? ≠ some id) :
      Grounds b act id named (.notYourTurn a.name)
  | prevented (a : Actor) (ha : b.actor? id = some a) (h : b.isPrevented id = true) :
      Grounds b act id named (.prevented a.name)
  | canUseBlocked (a : Actor) (ha : b.actor? id = some a)
      (h : Filter.permits act.canUse a = false) : Grounds b act id named (.canUseBlocked act.name)
  | notEnoughSta (a : Actor) (ha : b.actor? id = some a) (h : a.stats.sta < act.costs.sta) :
      Grounds b act id named (.notEnoughSta act.name act.costs.sta a.stats.sta)
  | notEnoughMp (a : Actor) (ha : b.actor? id = some a) (h : a.stats.mp < act.costs.mp) :
      Grounds b act id named (.notEnoughMp act.name act.costs.mp a.stats.mp)
  | onCooldown (h : 0 < b.cooldown id act.id) :
      Grounds b act id named (.onCooldown act.name (b.cooldown id act.id))
  | noCharges (h : b.usesLeft? id act = some 0) : Grounds b act id named (.noCharges act.name)
  | notInInventory (item : String) (hi : act.inventoryItem? = some item)
      (h : b.itemCount item = 0) : Grounds b act id named (.notInInventory act.name)
  | noValidTarget (h : (b.resolveTargets act.targeting id named).1 = []) :
      Grounds b act id named (.noValidTarget act.name)

section

variable {b : Battle} {act : Action} {id : ActorId} {r : Refusal}

theorem grounds_of_checkActor (h : b.checkActor id = .error r) (named : List ActorId) :
    b.Grounds act id named r := by
  unfold checkActor at h
  cases ha : b.actor? id with
  | none =>
    simp only [ha, check_eq_error_iff] at h
    rcases h with ⟨hover, rfl⟩ | ⟨-, h⟩
    · exact .battleOver hover
    · obtain rfl := Except.error.inj h
      exact .unknownActor ha
  | some a =>
    simp only [ha, check_eq_error_iff] at h
    rcases h with ⟨hover, rfl⟩ | ⟨-, ⟨hdown, rfl⟩ | ⟨-, ⟨hturn, rfl⟩ | ⟨-, ⟨hskip, rfl⟩ | ⟨-, h⟩⟩⟩⟩
    · exact .battleOver hover
    · exact .fainted a ha (by simpa using hdown)
    · exact .notYourTurn a ha (by simpa using hturn)
    · exact .prevented a ha hskip
    · cases h

theorem grounds_of_validate (h : b.validate act id = .error r) (named : List ActorId) :
    b.Grounds act id named r := by
  obtain h | ⟨a, hchecked, h⟩ := bind_eq_error_iff.1 h
  · exact grounds_of_checkActor h named
  have ha : b.actor? id = some a := (checkActor_eq_ok_iff.1 hchecked).2.1
  obtain ⟨huse, rfl⟩ | ⟨-, h⟩ := check_eq_error_iff.1 h
  · exact .canUseBlocked a ha (by simpa using huse)
  obtain h | ⟨-, -, h⟩ := bind_eq_error_iff.1 h
  · obtain ⟨hsta, rfl⟩ | ⟨-, h⟩ := check_eq_error_iff.1 h
    · exact .notEnoughSta a ha hsta
    · split at h
      · next hmp =>
        obtain rfl := Except.error.inj h
        exact .notEnoughMp a ha hmp
      · cases h
  · obtain ⟨hcooldown, rfl⟩ | ⟨-, h⟩ := check_eq_error_iff.1 h
    · exact .onCooldown hcooldown
    · obtain ⟨hcharges, rfl⟩ | ⟨-, h⟩ := check_eq_error_iff.1 h
      · exact .noCharges (by simpa using hcharges)
      · split at h
        · next hitem =>
          obtain rfl := Except.error.inj h
          obtain ⟨item, hi, hnone⟩ := (Option.any_eq_true _ _).1 hitem
          exact .notInInventory item hi (by simpa using hnone)
        · cases h

/-- **Every refusal of an action has its grounds.** -/
theorem grounds_of_refused {rules : Rules} {named : List ActorId} {b' : Battle}
    (h : b.perform? rules act id named = some (b', .error r)) : b.Grounds act id named r := by
  unfold perform? at h
  split at h
  · next hv =>
    cases h
    exact grounds_of_validate hv named
  · split at h
    · next hs =>
      cases h
      exact .noValidTarget (by rw [hs])
    · obtain ⟨out, -, hout⟩ := Option.map_eq_some_iff.1 h
      cases (Prod.mk.inj hout).2

end

/-! ## Undoing a search -/

/-- The table that a search leaves behind, with what stood at the acting actor put back. -/
theorem put_back_taunt {t taunts : Table Taunt} {id : ActorId}
    (h : taunts = t ∨ taunts = t.erase id) :
    (t.get? id).elim taunts (taunts.insert id) = t := by
  cases hid : t.get? id with
  | none =>
    rcases h with rfl | rfl
    · rfl
    · exact Table.erase_of_get? hid
  | some v =>
    rcases h with rfl | rfl
    · exact Table.insert_of_get? hid
    · exact (Table.insert_erase ..).trans (Table.insert_of_get? hid)

/-- A search for targets can be undone. -/
theorem restore_resolveTargets {b searched : Battle} {s : Selector} {id : ActorId}
    {named found : List ActorId} (h : b.resolveTargets s id named = (found, searched)) :
    searched.restore id b.seed (b.taunts.get? id) = b := by
  obtain ⟨m, taunts, hb, ht⟩ := b.resolveTargets_battle s id named
  rw [h] at hb
  change searched = _ at hb
  rw [hb, restore, put_back_taunt (ht.imp_right And.right)]

/-- **A refused action only adds the text of its refusal to the log.** -/
theorem refused_only_logs (b : Battle) (rules : Rules) (act : Action) (id : ActorId)
    (named : List ActorId) (b' : Battle) (r : Refusal)
    (h : b.perform? rules act id named = some (b', .error r)) :
    b' = { b with log := b.log ++ [r.message] } := by
  unfold perform? at h
  split at h
  · -- refused before the search
    next hv =>
    obtain ⟨rfl, hr⟩ := Prod.mk.inj (Option.some.inj h)
    cases hr
    rfl
  · split at h
    · next searched hs =>
      obtain ⟨rfl, hr⟩ := Prod.mk.inj (Option.some.inj h)
      cases hr
      rw [restore_resolveTargets hs]
      rfl
    · -- an action that is carried out is not refused
      obtain ⟨out, -, hout⟩ := Option.map_eq_some_iff.1 h
      cases (Prod.mk.inj hout).2

/-! ## In a duel -/

/-- A player. -/
def hero : Actor := { id := "hero", name := "Hero", stats := Stats.full 10 5 5 4 1 1 }

/-- An enemy. -/
def slime : Actor := { id := "slime", name := "Slime", stats := Stats.full 8 0 0 2 1 1 }

/-- The hero faces the slime. -/
def duel : Battle :=
  (((bare ⟨7⟩).enter .player hero).enter .enemy slime).announce "Turn 1"

/-- The duel, in which someone who has no part in it taunted the hero. -/
def hauntedDuel : Battle := { duel with taunts := Table.empty.insert "hero" ⟨"ghost", 2⟩ }

/-- A shot at no one is refused after the search has dropped the stale taunt. -/
theorem shot_at_no_one_only_logs :
    ∃ b', hauntedDuel.perform? {} (Action.skill "shot" "Shot") "hero" ["ghost"] =
        some (b', .error (.noValidTarget "Shot")) ∧
      b' = { hauntedDuel with
        log := hauntedDuel.log ++ [(Refusal.noValidTarget "Shot").message] } := by
  have h : hauntedDuel.perform? {} (Action.skill "shot" "Shot") "hero" ["ghost"] =
      some ({ hauntedDuel with log := ["Turn 1", (Refusal.noValidTarget "Shot").message] },
        .error (.noValidTarget "Shot")) := by
    rfl
  exact ⟨_, h, refused_only_logs _ _ _ _ _ _ _ h⟩

end Battle

end Skirmish
