/-!
# The ChaCha block function

Sixteen words stand in four rows of four. A quarter round works on one column, so on whole rows it
works on all four columns at once; turning the rows against each other brings the diagonals into the
columns. `block` runs eight rounds and adds the words that it started from.
-/

namespace Skirmish.ChaCha

/-- Four words side by side. -/
structure Row where
  w0 : UInt32
  w1 : UInt32
  w2 : UInt32
  w3 : UInt32
deriving DecidableEq

namespace Row

/-- Combine two rows column by column. -/
def zipWith (f : UInt32 → UInt32 → UInt32) (r s : Row) : Row :=
  ⟨f r.w0 s.w0, f r.w1 s.w1, f r.w2 s.w2, f r.w3 s.w3⟩

/-- Add two rows, each word modulo `2 ^ 32`. -/
def add (r s : Row) : Row := zipWith (· + ·) r s

/-- Add one row to another by exclusive or and rotate each word `n` bits to the left. -/
def mix (n : UInt32) (r s : Row) : Row :=
  zipWith (fun a b => let x := a ^^^ b; (x <<< n) ||| (x >>> (32 - n))) r s

/-- Turn a row one column to the left. -/
def turn (r : Row) : Row := ⟨r.w1, r.w2, r.w3, r.w0⟩

theorem turn_turn_turn_turn (r : Row) : r.turn.turn.turn.turn = r := rfl

end Row

/-- The sixteen words of a block. -/
structure Block where
  a : Row
  b : Row
  c : Row
  d : Row
deriving DecidableEq

namespace Block

/-- Add two blocks word by word. -/
def add (x y : Block) : Block := ⟨x.a.add y.a, x.b.add y.b, x.c.add y.c, x.d.add y.d⟩

/-- A quarter round on each column. -/
def columnRound (x : Block) : Block :=
  let a := x.a.add x.b
  let d := x.d.mix 16 a
  let c := x.c.add d
  let b := x.b.mix 12 c
  let a := a.add b
  let d := d.mix 8 a
  let c := c.add d
  let b := b.mix 7 c
  ⟨a, b, c, d⟩

/-- Bring the diagonals into the columns. -/
def skew (x : Block) : Block := ⟨x.a, x.b.turn, x.c.turn.turn, x.d.turn.turn.turn⟩

/-- Bring the columns back into the diagonals. -/
def unskew (x : Block) : Block := ⟨x.a, x.b.turn.turn.turn, x.c.turn.turn, x.d.turn⟩

theorem unskew_skew (x : Block) : x.skew.unskew = x := rfl

/-- A round on the columns and one on the diagonals. -/
def doubleRound (x : Block) : Block := x.columnRound.skew.columnRound.unskew

end Block

/-- Eight words of a key, in two rows. -/
structure Key where
  upper : Row
  lower : Row
deriving DecidableEq

/-- The first row of every block, the text `expand 32-byte k`. -/
def sigma : Row := ⟨0x61707865, 0x3320646e, 0x79622d32, 0x6b206574⟩

/-- The first block of a key's stream, at eight rounds. -/
def block (key : Key) : Block :=
  let start : Block := ⟨sigma, key.upper, key.lower, ⟨0, 0, 0, 0⟩⟩
  start.doubleRound.doubleRound.doubleRound.doubleRound.add start

end Skirmish.ChaCha
