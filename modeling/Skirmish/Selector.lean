import Skirmish.Filter

/-!
# Selectors

A selector says whom an action or an effect aims at: the pool of actors that come into question, as
the acting actor sees them, and the mode in which some of them are picked. Finding the targets in a
battle is the work of `Skirmish.Battle.Targets`.
-/

namespace Skirmish

namespace Selector

/-- Who comes into question, as the acting actor sees it. -/
inductive Pool where
  | oneself
  | allies
  | foes
  | anyone
deriving DecidableEq, Inhabited

/-- How targets are picked from the pool. -/
inductive Mode where
  | oneself
  | single
  | all
  | random
  | lowest
  | highest
  | condition
deriving DecidableEq, Inhabited

/-- What the modes `lowest` and `highest` compare. -/
inductive Metric where
  | fraction (r : Resource)
  | hp
  | attack
  | defence
  | level
deriving DecidableEq, Inhabited

/-- Read a metric of an actor. -/
def Metric.of (m : Metric) (a : Actor) : Float :=
  match m with
  | fraction r => a.stats.fraction r
  | hp => Float.ofInt a.stats.hp
  | attack => Float.ofInt a.stats.attack
  | defence => Float.ofInt a.stats.defence
  | level => Float.ofInt a.stats.level

end Selector

/-- Whom an action or an effect aims at. -/
structure Selector where
  pool : Selector.Pool
  mode : Selector.Mode := .single
  count : Nat := 1
  metric : Option Selector.Metric := none
  condition : Option Filter := none
  includeDead : Bool := false
deriving Inhabited

namespace Selector

/-- The acting actor. -/
def user : Selector := { pool := .oneself, mode := .oneself }

/-- The first living foe. -/
def singleEnemy : Selector := { pool := .foes, mode := .single }

/-- Every living foe. -/
def allEnemies : Selector := { pool := .foes, mode := .all }

/-- The first living ally. -/
def singleAlly : Selector := { pool := .allies, mode := .single }

/-- Every living ally. -/
def allAllies : Selector := { pool := .allies, mode := .all }

/-- The metric that is compared, the fraction of hp unless another one is named. -/
def comparedMetric (s : Selector) : Metric := s.metric.getD (.fraction .hp)

/-- Whether a taunt can force the choice. -/
def yieldsToTaunt (s : Selector) : Bool := s.pool == .foes || s.pool == .anyone

/-- Whether a caller may name the targets. -/
def takesExplicit (s : Selector) : Bool := !(s.mode == .oneself || s.mode == .all)

end Selector

end Skirmish
