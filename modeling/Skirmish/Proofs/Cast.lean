import Mathlib.Logic.Relation
import Skirmish.Resolution.Immediate

/-!
# What can become of the cast

`Actor.Alters` lists what can happen to one actor: its afflictions change, it is healed, hurt or
changed in a stat while it is alive, it is brought back when it is down, it pays and it is rewarded.
`Battle.SameCast` says of two battles that the same actors take part, in the same places, and that
each one became what it is by such alterations. All that a battle does keeps the cast in this sense,
apart from summoning and from passing the turn on.
-/

namespace Skirmish

open Relation (ReflTransGen)

/-! ## One actor -/

namespace Actor

/-- Let an actor faint that is alive without hp. -/
def collapse (a : Actor) : Actor := if a.alive && decide (a.stats.hp ≤ 0) then a.faint else a

/-- What an effect can do to an actor at once, unless it brings the actor back. -/
inductive Undergoes (a : Actor) : Actor → Prop
  | afflictions (is : List Affliction) : Undergoes a { a with afflictions := is }
  | healed (ha : a.alive = true) (r : Resource) (n : Int) (hn : 0 ≤ n) :
      Undergoes a { a with stats := a.stats.add r n }
  | swayed (ha : a.alive = true) (r : Resource) (n : Int) :
      Undergoes a ({ a with stats := a.stats.add r n } : Actor).collapse
  | adjusted (ha : a.alive = true) (k : StatKind) (n : Int) :
      Undergoes a ({ a with stats := a.stats.adjust k n } : Actor).collapse
  | collapsed : Undergoes a a.collapse

/-- What can happen to an actor at once. -/
inductive Alters (a : Actor) : Actor → Prop
  | undergone {a' : Actor} (h : a.Undergoes a') : Alters a a'
  | revived (ha : a.alive = false) (n : Int) (hn : 1 ≤ n) (hmax : n ≤ a.stats.maxHp) :
      Alters a { a with alive := true, stats := a.stats.set .hp n }
  | paid (c : Costs) :
      Alters a { a with stats := (a.stats.add .sta (-c.sta)).add .mp (-c.mp) }
  | gainedXp (n : Int) : Alters a { a with stats := { a.stats with xp := n } }
  | gainedGold (n : Int) : Alters a { a with stats := { a.stats with gold := n } }

/-- What can become of an actor. -/
abbrev Becomes : Actor → Actor → Prop := ReflTransGen Alters

theorem id_collapse (a : Actor) : a.collapse.id = a.id := by
  unfold collapse
  split <;> rfl

theorem Undergoes.id_eq {a a' : Actor} (h : a.Undergoes a') : a'.id = a.id := by
  cases h with
  | swayed => exact id_collapse _
  | adjusted => exact id_collapse _
  | collapsed => exact id_collapse _
  | _ => rfl

theorem Alters.id_eq {a a' : Actor} (h : a.Alters a') : a'.id = a.id := by
  cases h with
  | undergone h => exact h.id_eq
  | _ => rfl

theorem Becomes.id_eq {a a' : Actor} (h : a.Becomes a') : a'.id = a.id := by
  induction h with
  | refl => rfl
  | tail _ h ih => exact h.id_eq.trans ih

end Actor

/-! ## The cast of a battle -/

namespace Battle

/-- The same actors take part in the same places, whatever became of them. -/
structure SameCast (b b' : Battle) : Prop where
  order : b'.order = b.order
  current : b'.current = b.current
  players : b'.players = b.players
  enemies : b'.enemies = b.enemies
  spawned : b'.spawned = b.spawned
  actors : ∀ q, Option.Rel Actor.Becomes (b.actor? q) (b'.actor? q)

namespace SameCast

variable {b b' : Battle}

/-- What stands beside the actors and their places may change in any way. -/
theorem aside (ho : b'.order = b.order) (hc : b'.current = b.current)
    (hp : b'.players = b.players) (he : b'.enemies = b.enemies) (hs : b'.spawned = b.spawned)
    (ha : b'.actors = b.actors) : b.SameCast b' := by
  refine ⟨ho, hc, hp, he, hs, fun q => ?_⟩
  rw [actor?, actor?, ha]
  cases b.actors.get? q with
  | none => exact .none
  | some a => exact .some .refl

theorem refl (b : Battle) : b.SameCast b := aside rfl rfl rfl rfl rfl rfl

theorem trans {b'' : Battle} (h : b.SameCast b') (h' : b'.SameCast b'') : b.SameCast b'' := by
  refine ⟨h'.order.trans h.order, h'.current.trans h.current, h'.players.trans h.players,
    h'.enemies.trans h.enemies, h'.spawned.trans h.spawned, fun q => ?_⟩
  have hq := h.actors q
  have hq' := h'.actors q
  revert hq hq'
  generalize b.actor? q = x
  generalize b'.actor? q = y
  generalize b''.actor? q = z
  intro hq hq'
  cases hq with
  | none => exact hq'
  | some hab =>
    cases hq' with
    | some hbc => exact .some (hab.trans hbc)

theorem actor_eq_some {q : ActorId} {a' : Actor} (h : b.SameCast b') (hq : b'.actor? q = some a') :
    ∃ a, b.actor? q = some a ∧ a.Becomes a' := by
  have hr := h.actors q
  rw [hq] at hr
  cases hb : b.actor? q with
  | none =>
    rw [hb] at hr
    cases hr
  | some a =>
    rw [hb] at hr
    cases hr with
    | some hab => exact ⟨a, rfl, hab⟩

theorem contains (h : b.SameCast b') (q : ActorId) :
    b'.actors.contains q = b.actors.contains q := by
  have hr := h.actors q
  simp only [actor?] at hr
  unfold Table.contains
  revert hr
  generalize b.actors.get? q = x
  generalize b'.actors.get? q = y
  intro hr
  cases hr <;> rfl

end SameCast

/-! ## Primitive changes -/

theorem sameCast_modifyActor {b : Battle} {id : ActorId} {f : Actor → Actor}
    (hf : ∀ a, b.actor? id = some a → a.Becomes (f a)) : b.SameCast (b.modifyActor id f) := by
  refine ⟨rfl, rfl, rfl, rfl, rfl, fun q => ?_⟩
  rw [actor?_modifyActor]
  split
  · next hq =>
    subst hq
    cases ha : b.actor? q with
    | none => exact .none
    | some a => exact .some (hf a ha)
  · cases b.actor? q with
    | none => exact .none
    | some a => exact .some .refl

theorem sameCast_announce (b : Battle) (line : String) : b.SameCast (b.announce line) :=
  .aside rfl rfl rfl rfl rfl rfl

theorem sameCast_finish (b : Battle) (reason : EndReason) : b.SameCast (b.finish reason) :=
  .aside rfl rfl rfl rfl rfl rfl

end Battle

end Skirmish
