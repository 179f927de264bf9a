import Skirmish.Battle.Basic
import Skirmish.Selector

/-!
# Targets

`Battle.resolveTargets` finds the targets of a selector for an acting actor. A taunt by a living
actor forces the choice among foes or anyone, and a taunt by one that is down is dropped. Otherwise
the pool is built, and the mode picks from it or from the ids that a caller names; only the mode
`random` draws, once for each target.

`Battle.hasCandidates` answers, without a draw, whether there would be a target.
-/

namespace Skirmish

namespace Battle

/-! ## Pools -/

/-- The actors that a selector's pool names, as the acting actor sees it. -/
def membersOf (b : Battle) (pool : Selector.Pool) (acting : ActorId) (own : Side) : List ActorId :=
  match pool with
  | .oneself => [acting]
  | .allies => b.roster own
  | .foes => b.roster own.opponent
  | .anyone => acting :: (b.roster own).filter (· != acting) ++ b.roster own.opponent

/-- The actors that come into question. -/
def pool (b : Battle) (s : Selector) (acting : ActorId) : List ActorId :=
  match b.sideOf? acting with
  | none => []
  | some own => (b.membersOf s.pool acting own).filter fun id => s.includeDead || b.isAlive id

/-- Whether an actor passes the condition of a selector. -/
def meets (b : Battle) (s : Selector) (id : ActorId) : Bool :=
  (b.actor? id).any fun a => Filter.permits s.condition a

/-! ## Taunts -/

/-- The living actor at whom a taunt forces the acting actor to aim. -/
def forcedTarget? (b : Battle) (acting : ActorId) : Option ActorId :=
  ((b.taunts.get? acting).map (·.source)).filter b.isAlive

/-- Drop the taunt on an actor. -/
def dropTaunt (b : Battle) (acting : ActorId) : Battle := { b with taunts := b.taunts.erase acting }

/-! ## Picks -/

/-- The first `n` distinct ids that a caller names and that may be chosen. -/
def pickNamed (allowed : ActorId → Bool) : Nat → List ActorId → List ActorId → List ActorId
  | _, picked, [] => picked.reverse
  | n, picked, id :: ids =>
    if picked.length = n then picked.reverse
    else if picked.contains id || !allowed id then pickNamed allowed n picked ids
    else pickNamed allowed n (id :: picked) ids

/-- Draw `n` actors from a pool, each one at most once. -/
def pickRandom : Nat → List ActorId → Seed → List ActorId × Seed
  | 0, _, seed => ([], seed)
  | n + 1, pool, seed =>
    let (i, seed) := seed.index pool.length
    match pool[i]? with
    | none => ([], seed)
    | some id =>
      let (ids, seed) := pickRandom n (pool.eraseIdx i) seed
      (id :: ids, seed)

/-- The place of an actor in the order of a metric. -/
def rankOf (b : Battle) (m : Selector.Metric) (id : ActorId) : Int :=
  rank ((b.actor? id).elim 0 m.of)

/-- A pool in increasing order of a metric; equals stay in the order of the pool. -/
def increasing (b : Battle) (m : Selector.Metric) (pool : List ActorId) : List ActorId :=
  pool.mergeSort fun x y => b.rankOf m x ≤ b.rankOf m y

/-- A pool in decreasing order of a metric; equals stay in the order of the pool. -/
def decreasing (b : Battle) (m : Selector.Metric) (pool : List ActorId) : List ActorId :=
  pool.mergeSort fun x y => b.rankOf m y ≤ b.rankOf m x

/-- Pick from a pool by the mode of a selector; `n` is the count that the pool allows. -/
def pick (b : Battle) (s : Selector) (n : Nat) (pool : List ActorId) : List ActorId × Battle :=
  match s.mode with
  | .oneself | .single => (pool.take 1, b)
  | .all => (pool, b)
  | .random =>
    let (ids, seed) := pickRandom n pool b.seed
    (ids, { b with seed := seed })
  | .lowest => ((b.increasing s.comparedMetric pool).take n, b)
  | .highest => ((b.decreasing s.comparedMetric pool).take n, b)
  | .condition => ((pool.filter (b.meets s)).take n, b)

/-- Whether a caller may name an actor of a pool. -/
def mayName (b : Battle) (s : Selector) (pool : List ActorId) (id : ActorId) : Bool :=
  pool.contains id && (s.mode != .condition || b.meets s id)

/-- The targets of a selector when no taunt forces them. -/
def freeTargets (b : Battle) (s : Selector) (acting : ActorId) (named : List ActorId) :
    List ActorId × Battle :=
  let pool := b.pool s acting
  let n := min s.count pool.length
  if pool.isEmpty then ([], b)
  else if !named.isEmpty && s.takesExplicit then (pickNamed (b.mayName s pool) n [] named, b)
  else b.pick s n pool

/-- The targets of a selector for an acting actor; a caller may name some. -/
def resolveTargets (b : Battle) (s : Selector) (acting : ActorId) (named : List ActorId) :
    List ActorId × Battle :=
  if s.yieldsToTaunt then
    match b.forcedTarget? acting with
    | some id => ([id], b)
    | none => (b.dropTaunt acting).freeTargets s acting named
  else b.freeTargets s acting named

/-- Whether a selector finds a target when no one is named. -/
def hasCandidates (b : Battle) (s : Selector) (acting : ActorId) : Bool :=
  if s.yieldsToTaunt && (b.forcedTarget? acting).isSome then true
  else
    let pool := b.pool s acting
    match s.mode with
    | .oneself | .single | .all => !pool.isEmpty
    | .random | .lowest | .highest => decide (0 < s.count) && !pool.isEmpty
    | .condition => decide (0 < s.count) && pool.any (b.meets s)

end Battle

end Skirmish
