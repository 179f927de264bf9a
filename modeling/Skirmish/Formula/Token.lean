import Skirmish.Number.Decimal

/-!
# Tokens of a formula

The text of a formula is a sequence of numbers, names and marks, with blanks between them as one
likes. A number is the longest run of digits and points that starts at its place, a name the longest
run of letters, digits, underscores and points that starts with a letter or an underscore.

`Token.lex` finds the tokens of a text, or none if some part of it is no token.
-/

namespace Skirmish.Formula

/-- A token of a formula. -/
inductive Token where
  | number (x : Float)
  | name (s : String)
  | plus
  | minus
  | times
  | divided
  | comma
  | opening
  | closing
deriving DecidableEq

namespace Token

/-! ## Characters -/

/-- Whether a character may stand between tokens. -/
def isBlank (c : Char) : Bool :=
  c == ' ' || c == '\t' || c == '\n' || c == '\r' || c == '\x0c'

/-- Whether a character belongs to a number. -/
def isNumeral (c : Char) : Bool := c.isDigit || c == '.'

/-- Whether a character starts a name. -/
def startsName (c : Char) : Bool := c.isAlpha || c == '_'

/-- Whether a character belongs to a name. -/
def isNamed (c : Char) : Bool := c.isAlphanum || c == '_' || c == '.'

/-- The token that a single character is. -/
def mark? : Char → Option Token
  | '+' => some plus
  | '-' => some minus
  | '*' => some times
  | '/' => some divided
  | ',' => some comma
  | '(' => some opening
  | ')' => some closing
  | _ => none

/-! ## Numbers -/

/-- The number that a run of digits and points writes: at least one digit, at most one point. -/
def numeral? (cs : List Char) : Option Float :=
  let whole := cs.takeWhile (· != '.')
  let part := (cs.dropWhile (· != '.')).drop 1
  if part.contains '.' || (whole ++ part).isEmpty then none
  else some (decimal (digitsValue (whole ++ part)) (-(part.length : Int)))

/-! ## Tokens -/

/-- The tokens of a text. -/
def lex : List Char → Option (List Token)
  | [] => some []
  | c :: cs =>
    if isBlank c then lex cs
    else if isNumeral c then do
      let x ← numeral? (c :: cs.takeWhile isNumeral)
      let ts ← lex (cs.dropWhile isNumeral)
      return number x :: ts
    else if startsName c then do
      let ts ← lex (cs.dropWhile isNamed)
      return name (String.ofList (c :: cs.takeWhile isNamed)) :: ts
    else do
      let t ← mark? c
      let ts ← lex cs
      return t :: ts
termination_by cs => cs.length
decreasing_by
  all_goals
    have := (List.dropWhile_sublist isNumeral (l := cs)).length_le
    have := (List.dropWhile_sublist isNamed (l := cs)).length_le
    simp only [List.length_cons]
    omega

end Token

end Skirmish.Formula
