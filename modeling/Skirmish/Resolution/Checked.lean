import Skirmish.Battle.Outcome
import Skirmish.Resolution.Hooks

/-!
# Checked arithmetic

Stats and amounts are whole numbers of 64 bits, and integers stand for them. Sums that are meant to
stop at the ends of the range are saturated; every other sum, difference, negation and absolute
value has to be whole of itself, or nothing comes of the operation that computes it. The operations
here are those of the same name without a question mark, with all these checks: they have no result
where an intermediate number is not whole. `Battle.settled?` makes up for the checks of a victory
once it is judged.
-/

namespace Skirmish

/-- A whole number, and nothing beyond their range. -/
def whole? (n : Int) : Option Int := if IsWhole n then some n else none

/-! ## Shields -/

/-- Drain shields one after the other. -/
def Shield.drain? (element : Option String) : Int → List Shield → Option (List Shield × Int)
  | left, [] => some ([], left)
  | left, s :: ss =>
    if left = 0 then some (s :: ss, left)
    else if s.absorbs element then do
      let taken := min s.hp left
      let hp ← whole? (s.hp - taken)
      let left ← whole? (left - taken)
      let (ss, left) ← drain? element left ss
      return ({ s with hp := hp } :: ss, left)
    else do
      let (ss, left) ← drain? element left ss
      return (s :: ss, left)

/-- Add to a resource, with the change that this makes. -/
def Stats.add? (s : Stats) (r : Resource) (delta : Int) : Option (Stats × Int) := do
  let t := s.set r (saturate (s.current r + delta))
  let n ← whole? (t.current r - s.current r)
  return (t, n)

namespace Battle

/-- Absorb damage; the absorbed part comes first. -/
def absorb? (b : Battle) (id : ActorId) (element : Option String) (amount : Int) :
    Option (Int × Battle) := do
  let amount := max 0 amount
  let (ss, left) ← Shield.drain? element amount (b.shieldsOf id)
  let absorbed ← whole? (amount - left)
  return (absorbed, b.withShields id (ss.filter fun s => 0 < s.hp))

/-! ## Effects -/

/-- Add to a resource of an actor; the change that this makes comes first. -/
def addResource? (b : Battle) (id : ActorId) (r : Resource) (delta : Int) :
    Option (Int × Battle) :=
  match b.actor? id with
  | none => some (0, b)
  | some a => do
    let (stats, n) ← a.stats.add? r delta
    return (n, b.modifyActor id fun a => { a with stats := stats })

/-- Take what is left of damage after the shields from the hp of a target. -/
def wound? (b : Battle) (id : ActorId) (element : Option String) (critical : Bool)
    (amount : Int) : Option Battle := do
  let name := b.nameOf id
  let lead := if critical then "Critical hit! " else ""
  let (absorbed, b) ← b.absorb? id element amount
  let dealt ← whole? (amount - absorbed)
  let b :=
    if 0 < absorbed then b.announce s!"{lead}{name}'s shield absorbed {absorbed} damage." else b
  let lead := if 0 < absorbed then "" else lead
  if 0 < dealt ∨ absorbed = 0 then
    let loss ← whole? (-dealt)
    let (_, b) ← b.addResource? id .hp loss
    return (b.announce s!"{lead}{name} takes {dealt} damage.").faintIfDown id
  else return b.faintIfDown id

/-- Compare an attacker with a defender, as the chances of a strike do. -/
def compare? (attacker defender : Actor) : Option Unit := do
  let _ ← whole? (attacker.stats.attack - defender.stats.defence)
  let _ ← whole? (attacker.stats.level - defender.stats.level)

/-- Strike a target. -/
def strike? (b : Battle) (rules : Rules) (e : Effect) (o : Origin) (user id : ActorId)
    (rolls : Rolls) : Option (Battle × Rolls × Bool) :=
  match b.actor? user, b.actor? id with
  | some u, some t => do
    let attacker := rules.codex.effective u
    let defender := rules.codex.effective t
    compare? attacker defender
    let element := e.element.or o.element
    let (hit, rolls, seed) :=
      if e.canMiss then rolls.rollHit (rules.balance.hitChance attacker defender) b.seed
      else (true, rolls, b.seed)
    if hit then
      let (critical, rolls, seed) :=
        if e.canCrit then rolls.rollCrit (rules.balance.critChance attacker defender) seed
        else (false, rolls, seed)
      let raw :=
        e.value.resolve attacker defender e.basis * rules.balance.elementFactor element t *
          rules.balance.resistFactor t * (if critical then rules.balance.critFactor else 1) *
          o.scale
      let b ← { b with seed := seed }.wound? id element critical (damageAmount raw)
      return (b, rolls, true)
    else
      return ({ b with seed := seed }.announce s!"{u.name}'s attack missed {t.name}.", rolls, false)
  | _, _ => some (b, rolls, false)

/-- Restore a resource. -/
def heal? (b : Battle) (id : ActorId) (r : Resource) (amount : Int) : Option Battle := do
  let (n, healed) ← b.addResource? id r amount
  return healed.announce s!"{b.nameOf id} recovers {n} {r.label}."

/-- Change a resource either way. -/
def changeResource? (b : Battle) (id : ActorId) (r : Resource) (delta : Int) : Option Battle := do
  let (n, changed) ← b.addResource? id r delta
  let verb := if 0 ≤ n then "gains" else "loses"
  let size ← if 0 ≤ n then some n else whole? (-n)
  return (changed.announce s!"{b.nameOf id} {verb} {size} {r.label}.").faintIfDown id

/-- Change a stat for the rest of the battle. -/
def modifyStat? (b : Battle) (id : ActorId) (k : StatKind) (delta : Int) : Option Battle := do
  let verb := if 0 ≤ delta then "rises" else "falls"
  let size ← whole? delta.natAbs
  return ((b.modifyActor id fun a => { a with stats := a.stats.adjust k delta }).announce
    s!"{b.nameOf id}'s {k.label} {verb} by {size}.").faintIfDown id

/-- Apply an immediate effect to a target. The kinds that are not listed compute nothing but
saturated sums. -/
def applyImmediate? (b : Battle) (rules : Rules) (e : Effect) (o : Origin) (user id : ActorId) :
    Option Battle :=
  let amount := b.magnitude rules e o user id
  match e.kind with
  | .heal => b.heal? id (e.resource.getD .hp) (nearestAbove amount)
  | .resource => b.changeResource? id (e.resource.getD .hp) (nearest amount)
  | .modifyStat => e.stat.elim (some b) fun k => b.modifyStat? id k (nearest amount)
  | _ => some (b.applyImmediate rules e o user id)

/-- Apply an immediate effect to the targets that it reaches, one after the other. -/
def applyInTurn? (b : Battle) (rules : Rules) (e : Effect) (o : Origin) (user : ActorId) :
    List ActorId → Option Battle
  | [] => some b
  | id :: ids =>
    if b.isReached e id then
      (b.applyImmediate? rules e o user id).bind fun b => b.applyInTurn? rules e o user ids
    else b.applyInTurn? rules e o user ids

/-! ## Rewards -/

/-- Add numbers to a total, one after the other. -/
def total? : Int → List Int → Option Int
  | total, [] => some total
  | total, n :: ns => (whole? (total + n)).bind fun total => total? total ns

/-- The sum of a stat over the enemies of a battle. -/
def spoils? (b : Battle) (f : Stats → Int) : Option Int :=
  total? 0 ((b.enemies.filterMap b.actor?).map fun a => f a.stats)

/-- Reward the living players for all enemies. -/
def grantRewards? (b : Battle) : Option Battle := do
  let xp ← b.spoils? (·.xp)
  let gold ← b.spoils? (·.gold)
  return (b.rewardAll xp gold (b.living .player)).announce
    s!"Victory! Gained {xp} XP and {gold} gold."

/-- What has become of a battle, if it was won with spoils that are whole or not won at all. The
spoils of a victory are still there to be summed once they are granted. -/
def settled? (b b' : Battle) : Option Battle :=
  if b.ended = none ∧ b'.ended = some .victory then do
    let _ ← b'.spoils? (·.xp)
    let _ ← b'.spoils? (·.gold)
    return b'
  else some b'

end Battle

end Skirmish
