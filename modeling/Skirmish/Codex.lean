import Skirmish.Action
import Skirmish.Balance
import Skirmish.Fault
import Skirmish.Status

/-!
# The codex

The codex holds every definition that a battle reads: skills, items, statuses and the makers of
enemies, each kind under ids of its own. It is filled before the battle, no id twice, and only read
after that. Together with a balance it makes the `Rules` of a battle.
-/

namespace Skirmish

/-- The definitions that a battle reads. -/
structure Codex where
  skills : Table Action := ∅
  items : Table Action := ∅
  statuses : Table Status := ∅
  enemies : Table (Nat → Actor) := ∅
deriving Inhabited

/-- Put a definition under an id that is still free. -/
def Table.register {α : Type} (t : Table α) (kind : DefinitionKind) (id : String) (v : α) :
    Except Fault (Table α) :=
  if t.contains id then .error (.duplicateDefinition kind id) else .ok (t.insert id v)

namespace Codex

/-! ## Registration -/

/-- Register a skill. -/
def addSkill (c : Codex) (a : Action) : Except Fault Codex := do
  return { c with skills := ← c.skills.register .skill a.id a }

/-- Register an item. -/
def addItem (c : Codex) (a : Action) : Except Fault Codex := do
  return { c with items := ← c.items.register .item a.id a }

/-- Register a status. -/
def addStatus (c : Codex) (s : Status) : Except Fault Codex := do
  return { c with statuses := ← c.statuses.register .status s.id s }

/-- Register a maker of enemies, which is given their level. -/
def addEnemy (c : Codex) (id : String) (make : Nat → Actor) : Except Fault Codex := do
  return { c with enemies := ← c.enemies.register .enemy id make }

/-! ## Look-up -/

/-- A registered skill. -/
def skill? (c : Codex) (id : String) : Option Action := c.skills.get? id

/-- A registered item. -/
def item? (c : Codex) (id : String) : Option Action := c.items.get? id

/-- A registered status; it bears the id under which it is registered. -/
def status? (c : Codex) (id : String) : Option Status :=
  (c.statuses.get? id).map fun s => { s with id := id }

theorem id_of_status? {c : Codex} {id : String} {s : Status} (h : c.status? id = some s) :
    s.id = id := by
  obtain ⟨t, -, rfl⟩ := Option.map_eq_some_iff.1 h
  rfl

/-- Make an enemy of a level. -/
def spawn? (c : Codex) (id : String) (level : Nat) : Option Actor :=
  (c.enemies.get? id).map fun make => make level

/-- The name that the log shows for a status, its id if it is not registered. -/
def statusName (c : Codex) (id : String) : String := ((c.status? id).map (·.displayName)).getD id

/-- How many definitions of each kind there are, and the ids of the enemies. -/
def summary (c : Codex) : String :=
  s!"Definitions \x7b skills: {c.skills.size}, items: {c.items.size}, " ++
    s!"statuses: {c.statuses.size}, enemies: {Text.quotedList c.enemies.keys} \x7d"

end Codex

/-! ## Breeds -/

/-- A base actor and what each level adds to its stats. -/
structure Breed where
  base : Actor
  perLevel : Stats := {}
deriving DecidableEq, Inhabited

/-- The actor of a breed at a level; no stat leaves the whole numbers. -/
def Breed.at (b : Breed) (level : Nat) : Actor :=
  { b.base with
    stats := b.base.stats.zipWith (fun x y => saturate (x + saturate (y * level))) b.perLevel }

/-! ## Rules -/

/-- What a battle is played by. -/
structure Rules where
  codex : Codex := {}
  balance : Balance := {}
deriving Inhabited

end Skirmish
