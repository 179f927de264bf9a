import Skirmish.Formula.Basic
import Skirmish.Formula.Token

/-!
# Reading formulas

The grammar has sums of products of signed operands; an operand is a number, a variable, a group or
a call. Operators of one rank associate to the left. Groups, calls and signs may be nested to
`Formula.greatestNesting`, and each reader below is given the depth that is left to it.

`Formula.parse?` reads a whole text, and `Formula.evaluate?` computes its value.
-/

namespace Skirmish.Formula

/-- Something that reads a beginning of the tokens and leaves the rest. -/
abbrev Reader (α : Type) := List Token → Option (α × List Token)

/-! ## Names -/

/-- The number of a stat block that a name stands for. -/
def quantityOfName? : String → Option Quantity
  | "hp" => some (.current .hp)
  | "maxHp" => some (.maximum .hp)
  | "sta" => some (.current .sta)
  | "maxSta" => some (.maximum .sta)
  | "mp" => some (.current .mp)
  | "maxMp" => some (.maximum .mp)
  | "atk" => some .attack
  | "def" => some .defence
  | "lv" => some .level
  | "level" => some .level
  | "xp" => some .xp
  | "gold" => some .gold
  | _ => none

/-- The variable that a name stands for, such as `u.stats.atk`. -/
def variableOfName? (s : String) : Option Formula :=
  match s.toList with
  | 'u' :: '.' :: 's' :: 't' :: 'a' :: 't' :: 's' :: '.' :: cs =>
    (quantityOfName? (String.ofList cs)).map (.variable .user)
  | 't' :: '.' :: 's' :: 't' :: 'a' :: 't' :: 's' :: '.' :: cs =>
    (quantityOfName? (String.ofList cs)).map (.variable .target)
  | _ => none

/-- The call of a named function; one of a single number takes no more than one. -/
def callOfName? (s : String) (e : Formula) (es : List Formula) : Option Formula :=
  match s, es with
  | "min", es => some (extreme .least e es)
  | "max", es => some (extreme .greatest e es)
  | "floor", [] => some (shape .floor e)
  | "ceil", [] => some (shape .ceiling e)
  | "abs", [] => some (shape .absolute e)
  | _, _ => none

/-! ## Chains -/

/-- Read more operands, each after an operator of one rank, onto a formula; at most `n` of them. -/
def chainFrom (rank : Token → Option Operator) (operand : Reader Formula) :
    Nat → Formula → Reader Formula
  | 0, e, ts => some (e, ts)
  | _ + 1, e, [] => some (e, [])
  | n + 1, e, t :: ts =>
    match rank t with
    | none => some (e, t :: ts)
    | some op => do
      let (r, ts) ← operand ts
      chainFrom rank operand n (binary op e r) ts

/-- Read operands with operators of one rank between them. -/
def chain (rank : Token → Option Operator) (operand : Reader Formula) : Reader Formula :=
  fun ts => do
    let (e, ts) ← operand ts
    chainFrom rank operand ts.length e ts

/-- The operators of a sum. -/
def additive? : Token → Option Operator
  | .plus => some .add
  | .minus => some .sub
  | _ => none

/-- The operators of a product. -/
def multiplicative? : Token → Option Operator
  | .times => some .mul
  | .divided => some .div
  | _ => none

/-- Read a sum of products of operands. -/
def sum (operand : Reader Formula) : Reader Formula :=
  chain additive? (chain multiplicative? operand)

/-- Read the rest of the arguments of a call and its closing mark; at most `n` arguments. -/
def argumentsFrom (argument : Reader Formula) : Nat → Reader (List Formula)
  | _, .closing :: ts => some ([], ts)
  | n + 1, .comma :: ts => do
    let (e, ts) ← argument ts
    let (es, ts) ← argumentsFrom argument n ts
    return (e :: es, ts)
  | _, _ => none

/-! ## Formulas -/

/-- Read an operand, to a depth that is left. -/
def operand : Nat → Reader Formula
  | _, .number x :: ts => some (number x, ts)
  | d + 1, .minus :: ts => do
    let (e, ts) ← operand d ts
    return (negate e, ts)
  | d + 1, .opening :: ts => do
    match ← sum (operand d) ts with
    | (e, .closing :: ts) => return (group e, ts)
    | _ => none
  | d + 1, .name s :: .opening :: ts => do
    let (e, ts) ← sum (operand d) ts
    let (es, ts) ← argumentsFrom (sum (operand d)) ts.length ts
    return (← callOfName? s e es, ts)
  | _, .name s :: ts => do return (← variableOfName? s, ts)
  | _, _ => none

/-- The depth to which groups, calls and signs may be nested. -/
def greatestNesting : Nat := 64

/-- Read a text as a formula. -/
def parse? (text : String) : Option Formula := do
  match ← sum (operand greatestNesting) (← Token.lex text.toList) with
  | (e, []) => return e
  | _ => none

/-- The value of a text that is a formula with a finite value. -/
def evaluate? (text : String) (user target : Actor) : Option Float := do
  let x ← (← parse? text).value user.stats target.stats
  if x.isFinite then return x else none

end Skirmish.Formula
