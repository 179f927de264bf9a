import Skirmish.Proofs.Nesting
import Skirmish.Proofs.Statuses

/-!
# The statuses that answer damage

Damage runs a hook of every status that the attacker holds, and then of every one that the victim
holds. The list of either is taken once, before its first hook runs, so a hook that takes a status
away or stacks it comes too late for the rest of the list. `onDamageHeld` looks each status up when
its turn comes, as the boundary of a turn does (`runHeld_eq`), and leaves out what is no longer
held.

Both do the same as long as the hooks leave each status as it was when the list was taken
(`onDamage_of_steady`). This is so where no hook applies a status or takes one away
(`damage_answered_by_held`), and it is not so in general (`dispelled_nest_gives_an_egg`).
-/

namespace Skirmish

open Relation (ReflTransGen)

/-- How often a status is stacked on an actor that holds it. -/
def Battle.stacksOf? (b : Battle) (id : ActorId) (status : String) : Option Nat :=
  ((b.actor? id).bind (·.affliction? status)).map (·.stackCount)

section

variable (run : HookRunner) (holder : ActorId) (hook : Hook)

/-- Run a hook of a status, if the actor holds the status now. -/
def runIfHeld (counterpart : Option ActorId) (status : String) : Step := fun s =>
  match s.battle.stacksOf? holder status with
  | none => some (s, .proceed)
  | some n => run ⟨holder, status, hook, counterpart, n⟩ s

/-- Run a hook of every status that an actor holds now, because of someone else, of those that it
still holds when their turn comes. -/
def answerHeld (other : ActorId) : Step := fun s =>
  Step.each (runIfHeld run holder hook (some other)) (s.battle.statusesOf holder) s

/-- Run the hooks that answer damage, of those statuses that are still held. -/
def onDamageHeld (attacker victim : ActorId) : Step :=
  (answerHeld run attacker .onDealDamage victim).andThen
    (answerHeld run victim .onTakeDamage attacker)

/-- While hooks of some afflictions run one after the other, each finds its status stacked as often
as the affliction says. -/
def Steady (other : ActorId) : List Affliction → Scene → Prop
  | [], _ => True
  | i :: is, s => s.battle.stacksOf? holder i.status = some i.stackCount ∧
      ∀ s', run ⟨holder, i.status, hook, some other, i.stackCount⟩ s = some (s', .proceed) →
        Steady other is s'

end

/-! ## Two ways through a list -/

section

variable {run : HookRunner} {holder : ActorId} {hook : Hook} {other : ActorId} {s : Scene}

/-- The hooks of a boundary are looked up in the same way. -/
theorem runHeld_eq (statuses : List String) :
    runHeld run holder hook statuses = Step.each (runIfHeld run holder hook none) statuses := by
  unfold runHeld
  congr 1
  funext status s
  unfold runIfHeld Battle.stacksOf?
  cases (s.battle.actor? holder).bind (·.affliction? status) <;> rfl

theorem each_runIfHeld {is : List Affliction} (h : Steady run holder hook other is s) :
    Step.each (runIfHeld run holder hook (some other)) (is.map (·.status)) s =
      Step.each (fun i => run ⟨holder, i.status, hook, some other, i.stackCount⟩) is s := by
  induction is generalizing s with
  | nil => rfl
  | cons i is ih =>
    obtain ⟨hheld, hrest⟩ := h
    have hfirst : runIfHeld run holder hook (some other) i.status s =
        run ⟨holder, i.status, hook, some other, i.stackCount⟩ s := by
      rw [runIfHeld, hheld]
    simp only [List.map_cons, Step.each, Step.andThen, hfirst]
    split
    · rfl
    · next s' hs' => exact ih (hrest s' hs')
    · rfl

theorem answerHeld_eq (h : Steady run holder hook other (s.battle.afflictionsOf holder) s) :
    answerHeld run holder hook other s = answerDamage run holder hook other s :=
  each_runIfHeld h

/-- What the attacker's hooks do to the victim does no harm, as its list is taken after them. -/
theorem onDamage_of_steady {attacker victim : ActorId}
    (hattacker : Steady run attacker .onDealDamage victim (s.battle.afflictionsOf attacker) s)
    (hvictim : ∀ s', answerDamage run attacker .onDealDamage victim s = some (s', .proceed) →
      Steady run victim .onTakeDamage attacker (s'.battle.afflictionsOf victim) s') :
    onDamage run attacker victim s = onDamageHeld run attacker victim s := by
  simp only [onDamage, onDamageHeld, Step.andThen, answerHeld_eq hattacker]
  split
  · rfl
  · next s' hs' => exact (answerHeld_eq (hvictim s' hs')).symm
  · rfl

end

/-! ## Hooks that leave statuses alone -/

/-- An effect neither applies a status nor takes one away. -/
def Effect.SparesStatuses (e : Effect) : Prop :=
  e.kind ≠ .applyStatus ∧ e.kind ≠ .cleanseStatus ∧ e.kind ≠ .dispel

instance (e : Effect) : Decidable e.SparesStatuses := inferInstanceAs (Decidable (_ ∧ _ ∧ _))

section

variable {rules : Rules} {b b' : Battle} {x : ActorId}

theorem Battle.stacksOf?_eq (b : Battle) (x : ActorId) (st : String) :
    b.stacksOf? x st = ((b.afflictionsOf x).find? (·.status == st)).map (·.stackCount) := by
  unfold stacksOf? afflictionsOf
  cases b.actor? x <;> rfl

theorem Battle.stacksOf?_of_mem {i : Affliction} (hnodup : (b.statusesOf x).Nodup)
    (hi : i ∈ b.afflictionsOf x) : b.stacksOf? x i.status = some i.stackCount := by
  obtain ⟨before, after, heq⟩ := List.append_of_mem hi
  have hfirst : (b.afflictionsOf x).find? (·.status == i.status) = some i := by
    refine List.find?_eq_some_iff_append.2 ⟨beq_self_eq_true _, before, after, heq, fun j hj => ?_⟩
    rw [statusesOf, heq, List.map_append, List.map_cons] at hnodup
    have hne : j.status ≠ i.status := fun hsame =>
      (List.nodup_append.1 hnodup).2.2 _ (List.mem_map_of_mem hj) _ List.mem_cons_self hsame
    simpa using hne
  rw [stacksOf?_eq, hfirst, Option.map_some]

/-- Such deeds leave what an actor holds as it is. -/
theorem Act.afflictionsOf (h : Act rules Effect.SparesStatuses b b') (hx : b.actor? x ≠ none) :
    b'.actor? x ≠ none ∧ b'.afflictionsOf x = b.afflictionsOf x := by
  obtain ⟨d, hinner, hd, rfl⟩ := h
  rcases Deed.perform_cases hinner hd with ⟨huntouched, -⟩ | ⟨r, log, hr, -⟩ | ⟨id, s, turns, rfl⟩
  · exact ⟨fun hnone => hx (huntouched.stayed x hnone),
      (huntouched.statuses x).resolve_right fun hnew => hx hnew.1⟩
  · -- only an effect that cleanses or dispels takes statuses away
    unfold Deed.removal? at hr
    split at hr
    · split at hr
      · next hkind => exact absurd hkind hd.1.2.1
      · next hkind => exact absurd hkind hd.1.2.2
      · cases hr
    · cases hr
  · obtain ⟨-, e, hspares, hkind, -⟩ := hd
    exact absurd hkind hspares.1

theorem afflictionsOf_of_acts (h : ReflTransGen (Act rules Effect.SparesStatuses) b b')
    (hx : b.actor? x ≠ none) : b'.actor? x ≠ none ∧ b'.afflictionsOf x = b.afflictionsOf x := by
  induction h with
  | refl => exact ⟨hx, rfl⟩
  | tail _ hact ih =>
    obtain ⟨hin, hsame⟩ := ih
    obtain ⟨hin', hsame'⟩ := hact.afflictionsOf hin
    exact ⟨hin', hsame'.trans hsame⟩

variable {s : Scene} {holder : ActorId} {hook : Hook} {other : ActorId}

theorem steady_of_spares (hc : rules.codex.HooksWithin Effect.SparesStatuses) (depth : Nat)
    {is : List Affliction}
    (hheld : ∀ i ∈ is, s.battle.stacksOf? holder i.status = some i.stackCount) :
    Steady (runHook rules depth) holder hook other is s := by
  induction is generalizing s with
  | nil => trivial
  | cons i is ih =>
    refine ⟨hheld i List.mem_cons_self, fun s' hs' => ih fun j hj => ?_⟩
    have hj' := hheld j (List.mem_cons_of_mem _ hj)
    have hin : s.battle.actor? holder ≠ none := by
      intro hnone
      rw [Battle.stacksOf?, hnone] at hj'
      cases hj'
    have hcourse := (acts_runHook hc depth _ s s' _ hs').course
    rw [Battle.stacksOf?_eq, (afflictionsOf_of_acts hcourse hin).2, ← Battle.stacksOf?_eq, hj']

/-- **Where no hook applies a status or takes one away, damage is answered by the statuses that are
still held, with the stacks that they have by then**: by every one that is held when the list is
taken, as nothing happens to them in between. -/
theorem damage_answered_by_held (hc : rules.codex.HooksWithin Effect.SparesStatuses)
    {attacker victim : ActorId} (hattacker : (s.battle.statusesOf attacker).Nodup)
    (hvictim : (s.battle.statusesOf victim).Nodup) (hin : s.battle.actor? victim ≠ none)
    (depth : Nat) :
    onDamage (runHook rules depth) attacker victim s =
      onDamageHeld (runHook rules depth) attacker victim s := by
  refine onDamage_of_steady (steady_of_spares hc depth fun i hi =>
    Battle.stacksOf?_of_mem hattacker hi) fun s' hs' => ?_
  have hanswers : ResolvesBy rules Effect.SparesStatuses (Act rules Effect.SparesStatuses) s
      fun run => answerDamage run attacker .onDealDamage victim s := resolves_answerDamage ..
  have hcourse := (hanswers.leads (acts_runHook hc depth) _ _ hs').course
  have hsame := (afflictionsOf_of_acts hcourse hin).2
  refine steady_of_spares hc depth fun i hi => Battle.stacksOf?_of_mem ?_ hi
  rw [Battle.statusesOf, hsame]
  exact hvictim

end

/-! ## Thorns -/

/-- Under thorns the hero and the slime wound each other, and neither loses its thorns by it. -/
theorem thorns_answer_held :
    (onDamage (runHook thornRules 12) "hero" "slime" ⟨thornyDuel, []⟩).isSome = true ∧
      onDamage (runHook thornRules 12) "hero" "slime" ⟨thornyDuel, []⟩ =
        onDamageHeld (runHook thornRules 12) "hero" "slime" ⟨thornyDuel, []⟩ := by
  have hspares : thornRules.codex.HooksWithin Effect.SparesStatuses := by decide +kernel
  have hhero : (thornyDuel.statusesOf "hero").Nodup := by decide +kernel
  have hslime : (thornyDuel.statusesOf "slime").Nodup := by decide +kernel
  have hin : thornyDuel.actor? "slime" ≠ none := by decide +kernel
  exact ⟨by decide +kernel, damage_answered_by_held hspares hhero hslime hin 12⟩

/-! ## A nest -/

/-- A purge takes the nest away from its holder when the holder is struck; under a nest whoever is
struck finds an egg. -/
def nestRules : Rules where
  codex :=
    let purge : Status :=
      { id := "purge"
        onTakeDamage := [{ kind := .dispel, statusId := some "nest", selector := some .user }] }
    let nest : Status := { id := "nest", onTakeDamage := [.giveItem "egg" 1] }
    { statuses := (Table.empty.insert "purge" purge).insert "nest" nest }

/-- The duel, in which the hero is under a purge and a nest. -/
def nestDuel : Battle :=
  Battle.duel.modifyActor "hero" fun a =>
    { a with afflictions := [⟨"purge", 3, 1⟩, ⟨"nest", 3, 1⟩] }

/-- Damage is answered by a status that the holder has no more: struck by the slime, the hero loses
its nest and finds an egg in it all the same. Where statuses are looked up there is no egg. -/
theorem dispelled_nest_gives_an_egg :
    (nestDuel.play? nestRules fun run => onDamage run "slime" "hero").map (fun r =>
        (r.1.statusesOf "hero", r.1.itemCount "egg", r.1.log)) =
      some (["purge"], 1, ["Turn 1", "nest dispelled from Hero.", "Hero obtained 1 egg."]) ∧
    (nestDuel.play? nestRules fun run => onDamageHeld run "slime" "hero").map (fun r =>
        (r.1.statusesOf "hero", r.1.itemCount "egg", r.1.log)) =
      some (["purge"], 0, ["Turn 1", "nest dispelled from Hero."]) ∧
    (nestDuel.play? nestRules fun run => onDamage run "slime" "hero") ≠
      nestDuel.play? nestRules fun run => onDamageHeld run "slime" "hero" := by
  have hfound : (nestDuel.play? nestRules fun run => onDamage run "slime" "hero").map (fun r =>
      (r.1.statusesOf "hero", r.1.itemCount "egg", r.1.log)) =
        some (["purge"], 1, ["Turn 1", "nest dispelled from Hero.", "Hero obtained 1 egg."]) := by
    decide +kernel
  have hheld : (nestDuel.play? nestRules fun run => onDamageHeld run "slime" "hero").map (fun r =>
      (r.1.statusesOf "hero", r.1.itemCount "egg", r.1.log)) =
        some (["purge"], 0, ["Turn 1", "nest dispelled from Hero."]) := by
    decide +kernel
  refine ⟨hfound, hheld, fun hsame => ?_⟩
  rw [hsame, hheld] at hfound
  revert hfound
  decide

end Skirmish
