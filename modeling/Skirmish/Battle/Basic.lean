import Skirmish.Fault
import Skirmish.Random.Seed

/-!
# Battles

A `Battle` is everything that can still matter to a battle between two parties: whose turn it is,
the actors and their rosters, the shared inventory, what actions and effects have left behind on
each actor, the seed of all draws to come and the log.

Actors are only ever added, at the end of their roster and of the turn order, and the log only grows
at its end.
-/

namespace Skirmish

/-! ## Parts of a battle -/

/-- One of the two parties. -/
inductive Side where
  | player
  | enemy
deriving DecidableEq, Inhabited

/-- The other party. -/
def Side.opponent : Side → Side
  | player => enemy
  | enemy => player

/-- Why a battle is over. -/
inductive EndReason where
  | victory
  | defeat
  | fled
deriving DecidableEq, Inhabited

/-- The uses that an actor has left of an action. -/
structure Charges where
  remaining : Nat
  max : Nat
deriving DecidableEq, Inhabited

/-- Hp that absorb damage: all damage, or damage of one element. -/
structure Shield where
  id : String
  hp : Int
  element : Option String := none
deriving DecidableEq, Inhabited

/-- A taunt: whom the taunted actor has to aim at, for how many of its turns. -/
structure Taunt where
  source : ActorId
  turns : Nat
deriving DecidableEq, Inhabited

/-- The state of a battle. -/
structure Battle where
  round : Nat
  order : List ActorId
  current : Nat
  seed : Seed
  actors : Table Actor
  players : List ActorId
  enemies : List ActorId
  inventory : Table Nat
  log : List String
  cooldowns : Table (Table Nat)
  charges : Table (Table Charges)
  shields : Table (List Shield)
  taunts : Table Taunt
  prevented : Table Nat
  boundaries : Nat
  spawned : Nat
  ended : Option EndReason
deriving DecidableEq, Inhabited

namespace Battle

/-! ## Actors -/

/-- An actor of the battle. -/
def actor? (b : Battle) (id : ActorId) : Option Actor := b.actors.get? id

/-- Change an actor, if there is one of that id. -/
def modifyActor (b : Battle) (id : ActorId) (f : Actor → Actor) : Battle :=
  { b with actors := b.actors.modify id f }

/-- The name that the log shows for an actor, its id if there is none. -/
def nameOf (b : Battle) (id : ActorId) : String := ((b.actor? id).map (·.name)).getD id

/-- Whether an actor is in the battle and alive. -/
def isAlive (b : Battle) (id : ActorId) : Bool := (b.actor? id).any (·.alive)

/-- The actors of a side in formation order. -/
def roster (b : Battle) : Side → List ActorId
  | .player => b.players
  | .enemy => b.enemies

/-- The side of an actor. -/
def sideOf? (b : Battle) (id : ActorId) : Option Side :=
  if b.players.contains id then some .player
  else if b.enemies.contains id then some .enemy
  else none

/-- The living actors of a side in formation order. -/
def living (b : Battle) (side : Side) : List ActorId := (b.roster side).filter b.isAlive

/-- Whether no actor of a side is alive. -/
def isDown (b : Battle) (side : Side) : Bool := (b.living side).isEmpty

/-! ## Log -/

/-- Append a line to the log. -/
def announce (b : Battle) (line : String) : Battle := { b with log := b.log ++ [line] }

/-- Whether a text stands somewhere in another one. -/
def occurs (text : List Char) : List Char → Bool
  | [] => text.isEmpty
  | c :: cs => text.isPrefixOf (c :: cs) || occurs text cs

/-- Whether a line of the log contains a text. -/
def logContains (b : Battle) (text : String) : Bool :=
  b.log.any fun line => occurs text.toList line.toList

/-! ## What is left behind -/

/-- The actor whose place in the turn order is reached. -/
def currentActor? (b : Battle) : Option ActorId := b.order[b.current]?

/-- Whether an actor loses its turn: it was told so before the turn began. -/
def isPrevented (b : Battle) (id : ActorId) : Bool := (b.prevented.get? id).any (· < b.boundaries)

/-- The turns for which an actor cannot use an action yet. -/
def cooldown (b : Battle) (id : ActorId) (action : String) : Nat :=
  ((b.cooldowns.get? id).bind (·.get? action)).getD 0

/-- The charges of an action, once an actor has used it. -/
def chargesOf? (b : Battle) (id : ActorId) (action : String) : Option Charges :=
  (b.charges.get? id).bind (·.get? action)

/-- How many units of an item the party has. -/
def itemCount (b : Battle) (item : String) : Nat := (b.inventory.get? item).getD 0

/-- Set how many units of an item the party has; none are kept as no entry. -/
def withItem (b : Battle) (item : String) (n : Nat) : Battle :=
  { b with inventory := if n = 0 then b.inventory.erase item else b.inventory.insert item n }

/-! ## Ending -/

/-- Whether the battle is over. -/
def isOver (b : Battle) : Bool := b.ended.isSome

/-- End the battle, unless it is over. -/
def finish (b : Battle) (reason : EndReason) : Battle :=
  { b with ended := b.ended.or (some reason) }

/-! ## Beginning -/

/-- A battle that no one has entered. -/
def bare (seed : Seed) : Battle where
  round := 1
  order := []
  current := 0
  seed := seed
  actors := ∅
  players := []
  enemies := []
  inventory := ∅
  log := []
  cooldowns := ∅
  charges := ∅
  shields := ∅
  taunts := ∅
  prevented := ∅
  boundaries := 0
  spawned := 0
  ended := none

/-- Put an actor at the end of a roster and of the turn order. -/
def enter (b : Battle) (side : Side) (a : Actor) : Battle :=
  { b with
    actors := b.actors.insert a.id a
    players := if side = .player then b.players ++ [a.id] else b.players
    enemies := if side = .enemy then b.enemies ++ [a.id] else b.enemies
    order := b.order ++ [a.id] }

/-- Let an actor enter the battle, if its id is free. -/
def insertActor (b : Battle) (side : Side) (a : Actor) : Except Fault Battle :=
  if b.actors.contains a.id then .error (.duplicateActor a.id) else .ok (b.enter side a)

/-- Let actors enter the battle one after the other. -/
def insertActors (b : Battle) (side : Side) : List Actor → Except Fault Battle
  | [] => .ok b
  | a :: as => do (← b.insertActor side a).insertActors side as

/-- Begin a battle between two parties; the players act first. -/
def create (seed : Seed) (players enemies : List Actor) : Except Fault Battle := do
  let b ← (bare seed).insertActors .player players
  let b ← b.insertActors .enemy enemies
  if b.players.isEmpty || b.enemies.isEmpty then throw .emptySide
  return b.announce "Turn 1"

/-! ## Laws -/

@[simp] theorem log_announce (b : Battle) (line : String) :
    (b.announce line).log = b.log ++ [line] := rfl

@[simp] theorem actors_announce (b : Battle) (line : String) :
    (b.announce line).actors = b.actors := rfl

theorem actor?_modifyActor (b : Battle) (id q : ActorId) (f : Actor → Actor) :
    (b.modifyActor id f).actor? q = if q = id then (b.actor? id).map f else b.actor? q :=
  Table.get?_modify ..

theorem isOver_eq_false_iff {b : Battle} : b.isOver = false ↔ b.ended = none := by
  rw [isOver, Option.isSome_eq_false_iff, Option.isNone_iff_eq_none]

theorem itemCount_withItem (b : Battle) (item q : String) (n : Nat) :
    (b.withItem item n).itemCount q = if q = item then n else b.itemCount q := by
  unfold withItem itemCount
  by_cases hn : n = 0 <;> by_cases hq : q = item <;>
    simp [hn, hq, Table.get?_erase, Table.get?_insert]

end Battle

end Skirmish
