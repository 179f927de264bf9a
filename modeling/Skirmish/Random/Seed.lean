import Skirmish.Random.ChaCha

/-!
# Seeds and draws

The whole state of the generator is one word, the `Seed`. A draw expands the seed to a key, takes a
number of the unit interval from the first two words of the key's first block and the next seed from
the two words after them. So every draw makes one `Seed.step`, and equal seeds give equal draws.

`index`, `chance` and `weighted` are the draws that a battle makes. `index` stays below its bound
(`index_lt`) and makes one step (`index_seed`).
-/

namespace Skirmish

/-- The state of the generator. -/
structure Seed where
  word : UInt64
deriving DecidableEq, Inhabited

namespace Seed

/-! ## Expansion -/

/-- One step of the congruential generator that expands a seed. -/
def churn (w : UInt64) : UInt64 := w * 6364136223846793005 + 11634580027462260723

/-- The word that the expansion shows for its state: some of the high bits, rotated by the
others. -/
def shown (w : UInt64) : UInt32 :=
  let x : UInt32 := (((w >>> 18) ^^^ w) >>> 27).toUInt32
  let n : UInt32 := (w >>> 59).toUInt32
  (x >>> n) ||| (x <<< (32 - n))

/-- Four words of the expansion and the state after them. -/
def expandRow (w : UInt64) : ChaCha.Row × UInt64 :=
  let w0 := churn w
  let w1 := churn w0
  let w2 := churn w1
  let w3 := churn w2
  (⟨shown w0, shown w1, shown w2, shown w3⟩, w3)

/-- The key of a seed. -/
def key (s : Seed) : ChaCha.Key :=
  let (upper, w) := expandRow s.word
  ⟨upper, (expandRow w).1⟩

/-! ## One step -/

/-- Two words as one, the low word first. -/
def join (low high : UInt32) : UInt64 := low.toUInt64 ||| (high.toUInt64 <<< 32)

/-- The number `n / 2 ^ 53` of the unit interval, `n` being the upper 53 bits of a word. -/
def unit (w : UInt64) : Float := (w >>> 11).toFloat / 9007199254740992

/-- The next seed and the number drawn with it, at least `0` and below `1`. -/
def step (s : Seed) : Seed × Float :=
  let words := (ChaCha.block s.key).a
  (⟨join words.w2 words.w3⟩, unit (join words.w0 words.w1))

/-- The seed after a number of steps. -/
def advance (s : Seed) : Nat → Seed
  | 0 => s
  | n + 1 => (s.step.1).advance n

/-! ## Draws -/

/-- Draw a number of the unit interval. -/
def draw (s : Seed) : Float × Seed := (s.step.2, s.step.1)

/-- Draw an index below a bound; nothing is drawn when the bound is zero. -/
def index (bound : Nat) (s : Seed) : Nat × Seed :=
  if bound = 0 then (0, s)
  else
    let (u, s) := s.draw
    (min (u * Float.ofNat bound).toUInt64.toNat (bound - 1), s)

/-- Draw a truth value that is true with a given probability. -/
def chance (p : Float) (s : Seed) : Bool × Seed :=
  let (u, s) := s.draw
  (decide (u < p), s)

/-- The sum of the positive weights. -/
def totalWeight (ws : List Float) : Float := (ws.filter fun w => 0 < w).foldl (· + ·) 0

/-- The first index at which the weights, a threshold less, fall below zero. -/
def crossing (threshold : Float) : List Float → Option Nat
  | [] => none
  | w :: ws =>
    if w ≤ 0 then (crossing threshold ws).map (· + 1)
    else if threshold - w < 0 then some 0
    else (crossing (threshold - w) ws).map (· + 1)

/-- The last index with a positive weight. -/
def lastPositive : List Float → Option Nat
  | [] => none
  | w :: ws =>
    match lastPositive ws with
    | some i => some (i + 1)
    | none => if 0 < w then some 0 else none

/-- Draw an index in proportion to its weight. Nothing is drawn and nothing picked when no weight is
positive; where rounding leaves the threshold uncrossed, the last positive weight is picked. -/
def weighted (ws : List Float) (s : Seed) : Option Nat × Seed :=
  let total := totalWeight ws
  if total ≤ 0 then (none, s)
  else
    let (u, s) := s.draw
    ((crossing (u * total) ws).or (lastPositive ws), s)

/-! ## Laws -/

theorem advance_succ (s : Seed) (n : Nat) : s.advance (n + 1) = s.step.1.advance n := rfl

theorem advance_advance (s : Seed) (m n : Nat) : (s.advance m).advance n = s.advance (m + n) := by
  induction m generalizing s with
  | zero => rw [Nat.zero_add, advance]
  | succ m ih => rw [Nat.succ_add, advance_succ, advance_succ, ih]

theorem index_lt {bound : Nat} (h : 0 < bound) (s : Seed) : (s.index bound).1 < bound := by
  unfold index
  split
  · omega
  · dsimp only
    omega

theorem index_seed {bound : Nat} (h : 0 < bound) (s : Seed) : (s.index bound).2 = s.step.1 := by
  unfold index
  split
  · omega
  · rfl

end Seed

end Skirmish
