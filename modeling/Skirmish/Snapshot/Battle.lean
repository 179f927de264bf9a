import Skirmish.Battle.Basic
import Skirmish.Snapshot.Codec

/-!
# Snapshots of a battle

`Battle.toBytes` writes a whole battle, so that it can go on later from where it was, and
`Battle.ofBytes?` reads it. Bytes after the battle are ignored.
-/

namespace Skirmish

namespace Codec

/-! ## Actors -/

/-- The stats of an actor. -/
def stats : Codec Stats :=
  (whole.pair <| whole.pair <| whole.pair <| whole.pair <| whole.pair <| whole.pair <|
    whole.pair <| whole.pair <| whole.pair <| whole.pair whole).via
    (fun s => (s.hp, s.maxHp, s.sta, s.maxSta, s.mp, s.maxMp, s.attack, s.defence, s.level, s.xp,
      s.gold))
    (fun (hp, maxHp, sta, maxSta, mp, maxMp, attack, defence, level, xp, gold) =>
      { hp, maxHp, sta, maxSta, mp, maxMp, attack, defence, level, xp, gold })
    fun _ => rfl

/-- A status that an actor holds. -/
def affliction : Codec Affliction :=
  (text.pair <| count.pair count).via (fun i => (i.status, i.remaining, i.stackCount))
    (fun (status, remaining, stackCount) => { status, remaining, stackCount })
    fun _ => rfl

/-- An actor. -/
def actor : Codec Actor :=
  (text.pair <| text.pair <| stats.pair <| (list affliction).pair <| truth.pair <|
    (list text).pair <| (option text).pair (table text)).via
    (fun a => (a.id, a.name, a.stats, a.afflictions, a.alive, a.tags, a.calling, a.notes))
    (fun (id, name, stats, afflictions, alive, tags, calling, notes) =>
      { id, name, stats, afflictions, alive, tags, calling, notes })
    fun _ => rfl

/-! ## Battles -/

/-- The seed of the draws to come. -/
def seed : Codec Seed := word.via Seed.word Seed.mk fun _ => rfl

/-- The charges of an action. -/
def charges : Codec Charges :=
  (count.pair count).via (fun c => (c.remaining, c.max))
    (fun (remaining, max) => { remaining, max })
    fun _ => rfl

/-- A shield. -/
def shield : Codec Shield :=
  (text.pair <| whole.pair (option text)).via (fun s => (s.id, s.hp, s.element))
    (fun (id, hp, element) => { id, hp, element })
    fun _ => rfl

/-- A taunt. -/
def taunt : Codec Taunt :=
  (text.pair count).via (fun t => (t.source, t.turns)) (fun (source, turns) => { source, turns })
    fun _ => rfl

/-- Why a battle ended. -/
def endReason : Codec EndReason := oneOf [.victory, .defeat, .fled]

/-- A battle. -/
def battle : Codec Battle :=
  (count.pair <| (list text).pair <| size.pair <| seed.pair <| (table actor).pair <|
    (list text).pair <| (list text).pair <| (table count).pair <| (list text).pair <|
    (table (table count)).pair <| (table (table charges)).pair <|
    (table (list shield)).pair <| (table taunt).pair <| (table size).pair <| size.pair <|
    count.pair (option endReason)).via
    (fun b => (b.round, b.order, b.current, b.seed, b.actors, b.players, b.enemies, b.inventory,
      b.log, b.cooldowns, b.charges, b.shields, b.taunts, b.prevented, b.boundaries, b.spawned,
      b.ended))
    (fun (round, order, current, seed, actors, players, enemies, inventory, log, cooldowns,
      charges, shields, taunts, prevented, boundaries, spawned, ended) =>
      { round, order, current, seed, actors, players, enemies, inventory, log, cooldowns, charges,
        shields, taunts, prevented, boundaries, spawned, ended })
    fun _ => rfl

end Codec

/-- The bytes of a battle. -/
def Battle.toBytes (b : Battle) : Bytes := Codec.battle.write b

/-- The battle at the beginning of some bytes. -/
def Battle.ofBytes? (xs : Bytes) : Option Battle := (Codec.battle.read xs).map Prod.fst

end Skirmish
