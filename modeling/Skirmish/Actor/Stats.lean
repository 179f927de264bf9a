import Skirmish.Number.Nearest

/-!
# Stats

A stat block holds three depletable resources, each a current value beside its maximum, and the
stats that combat reads. `Stats.set` and `Stats.add` keep a current value between zero and its
maximum (`current_set`), and `Stats.adjust` lowers a current value with its maximum.
-/

namespace Skirmish

/-- A depletable resource. -/
inductive Resource where
  | hp
  | sta
  | mp
deriving DecidableEq, Inhabited

namespace Resource

/-- The name of a resource in the log. -/
def label : Resource → String
  | hp => "HP"
  | sta => "STA"
  | mp => "MP"

end Resource

/-- A stat that an effect or a status can change. -/
inductive StatKind where
  | attack
  | defence
  | level
  | maxHp
  | maxSta
  | maxMp
deriving DecidableEq, Inhabited

namespace StatKind

/-- The name of a stat in the log. -/
def label : StatKind → String
  | attack => "ATK"
  | defence => "DEF"
  | level => "LV"
  | maxHp => "max HP"
  | maxSta => "max STA"
  | maxMp => "max MP"

end StatKind

/-- The numbers of an actor. -/
structure Stats where
  hp : Int := 0
  maxHp : Int := 0
  sta : Int := 0
  maxSta : Int := 0
  mp : Int := 0
  maxMp : Int := 0
  attack : Int := 0
  defence : Int := 0
  level : Int := 0
  xp : Int := 0
  gold : Int := 0
deriving DecidableEq, Inhabited

namespace Stats

/-- The stats of an unhurt actor. -/
def full (maxHp maxSta maxMp attack defence level : Int) : Stats where
  hp := maxHp
  maxHp := maxHp
  sta := maxSta
  maxSta := maxSta
  mp := maxMp
  maxMp := maxMp
  attack := attack
  defence := defence
  level := level

/-! ## Resources -/

/-- The current value of a resource. -/
def current (s : Stats) : Resource → Int
  | .hp => s.hp
  | .sta => s.sta
  | .mp => s.mp

/-- The maximum of a resource. -/
def maximum (s : Stats) : Resource → Int
  | .hp => s.maxHp
  | .sta => s.maxSta
  | .mp => s.maxMp

/-- The current value as a fraction of the maximum, and `0` where the maximum is not positive. -/
def fraction (s : Stats) (r : Resource) : Float :=
  if s.maximum r ≤ 0 then 0
  else Float.ofInt (s.current r) / Float.ofInt (s.maximum r)

/-- Replace the current value of a resource, whatever its maximum. -/
def withCurrent (s : Stats) (r : Resource) (n : Int) : Stats :=
  match r with
  | .hp => { s with hp := n }
  | .sta => { s with sta := n }
  | .mp => { s with mp := n }

/-- The value between zero and a maximum that is nearest to a number. -/
def between (maximum n : Int) : Int := max 0 (min n (max 0 maximum))

/-- Set a resource as near to a number as its maximum allows. -/
def set (s : Stats) (r : Resource) (n : Int) : Stats :=
  s.withCurrent r (between (s.maximum r) n)

/-- Add to a resource, or take from it, within its bounds. -/
def add (s : Stats) (r : Resource) (delta : Int) : Stats := s.set r (s.current r + delta)

/-- The change that `add` makes. -/
def change (s : Stats) (r : Resource) (delta : Int) : Int :=
  (s.add r delta).current r - s.current r

/-! ## Stats -/

/-- The value of a stat. -/
def stat (s : Stats) : StatKind → Int
  | .attack => s.attack
  | .defence => s.defence
  | .level => s.level
  | .maxHp => s.maxHp
  | .maxSta => s.maxSta
  | .maxMp => s.maxMp

/-- Replace the value of a stat. -/
def withStat (s : Stats) (k : StatKind) (n : Int) : Stats :=
  match k with
  | .attack => { s with attack := n }
  | .defence => { s with defence := n }
  | .level => { s with level := n }
  | .maxHp => { s with maxHp := n }
  | .maxSta => { s with maxSta := n }
  | .maxMp => { s with maxMp := n }

/-- Bring every resource between zero and its maximum. -/
def settle (s : Stats) : Stats :=
  ((s.set .hp s.hp).set .sta s.sta).set .mp s.mp

/-- Change a stat, which stays at least zero and at most the greatest whole number. -/
def adjust (s : Stats) (k : StatKind) (delta : Int) : Stats :=
  (s.withStat k (max 0 (saturate (s.stat k + delta)))).settle

/-- Combine two stat blocks stat by stat. -/
def zipWith (f : Int → Int → Int) (s t : Stats) : Stats where
  hp := f s.hp t.hp
  maxHp := f s.maxHp t.maxHp
  sta := f s.sta t.sta
  maxSta := f s.maxSta t.maxSta
  mp := f s.mp t.mp
  maxMp := f s.maxMp t.maxMp
  attack := f s.attack t.attack
  defence := f s.defence t.defence
  level := f s.level t.level
  xp := f s.xp t.xp
  gold := f s.gold t.gold

/-! ## Laws -/

theorem between_nonneg (m n : Int) : 0 ≤ between m n := by
  unfold between
  omega

theorem between_le {m : Int} (h : 0 ≤ m) (n : Int) : between m n ≤ m := by
  unfold between
  omega

@[simp] theorem current_withCurrent (s : Stats) (r : Resource) (n : Int) :
    (s.withCurrent r n).current r = n := by
  cases r <;> rfl

@[simp] theorem maximum_withCurrent (s : Stats) (r q : Resource) (n : Int) :
    (s.withCurrent r n).maximum q = s.maximum q := by
  cases r <;> cases q <;> rfl

@[simp] theorem maximum_set (s : Stats) (r q : Resource) (n : Int) :
    (s.set r n).maximum q = s.maximum q :=
  maximum_withCurrent ..

theorem current_set (s : Stats) (r : Resource) (n : Int) :
    (s.set r n).current r = between (s.maximum r) n :=
  current_withCurrent ..

theorem current_set_of_ne {r q : Resource} (h : q ≠ r) (s : Stats) (n : Int) :
    (s.set r n).current q = s.current q := by
  cases r <;> cases q <;> first | rfl | exact absurd rfl h

end Stats

end Skirmish
