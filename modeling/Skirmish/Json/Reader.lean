import Skirmish.Json.Basic
import Skirmish.Number.Decimal

/-!
# Reading JSON

`Json.parse?` reads a whole text. Each reader takes the beginning of some characters and leaves the
rest. Values within values use up a depth, which the length of the text bounds.
-/

namespace Skirmish.Json

/-- Drop blanks. -/
def skip : List Char → List Char := List.dropWhile fun c => " \t\n\r".contains c

/-! ## Numbers -/

/-- Read a sign and digits of an exponent. -/
def readExponent (cs : List Char) : Option (Int × List Char) :=
  let (negative, cs) :=
    match cs with
    | '-' :: cs => (true, cs)
    | '+' :: cs => (false, cs)
    | cs => (false, cs)
  let ds := cs.takeWhile Char.isDigit
  let n : Int := digitsValue ds
  if ds.isEmpty then none else some (if negative then -n else n, cs.dropWhile Char.isDigit)

/-- Read the part of a number after the point, if there is one: its digits. -/
def readFraction : List Char → Option (Option (List Char) × List Char)
  | '.' :: cs =>
    let ds := cs.takeWhile Char.isDigit
    if ds.isEmpty then none else some (some ds, cs.dropWhile Char.isDigit)
  | cs => some (none, cs)

/-- Read the exponent of a number, if there is one. -/
def readPower : List Char → Option (Option Int × List Char)
  | 'e' :: cs | 'E' :: cs => (readExponent cs).map fun (n, cs) => (some n, cs)
  | cs => some (none, cs)

/-- A float, unless it is beyond the doubles. -/
def floatOf (negative : Bool) (m : Nat) (e : Int) : Option Json :=
  let x := decimal m e
  if x.isFinite then some (float (if negative then -x else x)) else none

/-- The number of a sign and digits: an integer if it fits into 64 bits and is not a negative zero,
and a float otherwise. -/
def integerOf (negative : Bool) (m : Nat) : Option Json :=
  let n : Int := if negative then -m else m
  if negative && m == 0 || n < leastWhole || greatestSize < n then floatOf negative m 0
  else some (int n)

/-- Read a number. -/
def readNumber (cs : List Char) : Option (Json × List Char) := do
  let (negative, cs) :=
    match cs with
    | '-' :: cs => (true, cs)
    | cs => (false, cs)
  let ds := cs.takeWhile Char.isDigit
  if ds.isEmpty || (ds.head? == some '0' && ds.length != 1) then none
  let (fraction, cs) ← readFraction (cs.dropWhile Char.isDigit)
  let (power, cs) ← readPower cs
  let j ←
    match fraction, power with
    | none, none => integerOf negative (digitsValue ds)
    | fraction, power =>
      let part := fraction.getD []
      floatOf negative (digitsValue (ds ++ part)) (power.getD 0 - part.length)
  return (j, cs)

/-! ## Texts -/

/-- The value of a hexadecimal digit. -/
def hexDigit? (c : Char) : Option Nat :=
  if c.isDigit then some (digitValue c)
  else if 'a' ≤ c ∧ c ≤ 'f' then some (c.toNat - 'a'.toNat + 10)
  else if 'A' ≤ c ∧ c ≤ 'F' then some (c.toNat - 'A'.toNat + 10)
  else none

/-- The value of four hexadecimal digits. -/
def hex4? (a b c d : Char) : Option Nat := do
  return (((← hexDigit? a) * 16 + (← hexDigit? b)) * 16 + (← hexDigit? c)) * 16 + (← hexDigit? d)

/-- The character that a letter stands for after a backslash. -/
def escaped? : Char → Option Char
  | '"' => some '"'
  | '\\' => some '\\'
  | '/' => some '/'
  | 'b' => some '\x08'
  | 'f' => some '\x0c'
  | 'n' => some '\n'
  | 'r' => some '\r'
  | 't' => some '\t'
  | _ => none

/-- The character of two surrogates. -/
def joinSurrogates? (high low : Nat) : Option Char :=
  if 0xdc00 ≤ low ∧ low < 0xe000 then
    some (Char.ofNat (0x10000 + (high - 0xd800) * 1024 + (low - 0xdc00)))
  else none

/-- Read a text up to its closing quote. -/
def readChars : List Char → Option (List Char × List Char)
  | [] => none
  | '"' :: cs => some ([], cs)
  | '\\' :: 'u' :: a :: b :: c :: d :: cs => do
    let n ← hex4? a b c d
    if 0xd800 ≤ n ∧ n < 0xdc00 then
      match cs with
      | '\\' :: 'u' :: a :: b :: c :: d :: cs => do
        let x ← joinSurrogates? n (← hex4? a b c d)
        let (xs, cs) ← readChars cs
        return (x :: xs, cs)
      | _ => none
    else if 0xdc00 ≤ n ∧ n < 0xe000 then none
    else do
      let (xs, cs) ← readChars cs
      return (Char.ofNat n :: xs, cs)
  | '\\' :: c :: cs => do
    let x ← escaped? c
    let (xs, cs) ← readChars cs
    return (x :: xs, cs)
  | c :: cs => do
    if c.toNat < 0x20 || c == '\\' then none
    let (xs, cs) ← readChars cs
    return (c :: xs, cs)

/-- Read a text after its opening quote. -/
def readText (cs : List Char) : Option (String × List Char) :=
  (readChars cs).map fun (xs, cs) => (String.ofList xs, cs)

/-! ## Values -/

mutual

/-- Read a value, to a depth. -/
def readValue : Nat → List Char → Option (Json × List Char)
  | 0, _ => none
  | n + 1, cs =>
    match skip cs with
    | 'n' :: 'u' :: 'l' :: 'l' :: cs => some (null, cs)
    | 't' :: 'r' :: 'u' :: 'e' :: cs => some (bool true, cs)
    | 'f' :: 'a' :: 'l' :: 's' :: 'e' :: cs => some (bool false, cs)
    | '"' :: cs => (readText cs).map fun (s, cs) => (str s, cs)
    | '[' :: cs =>
      match skip cs with
      | ']' :: cs => some (arr [], cs)
      | cs => (readItems n cs).map fun (items, cs) => (arr items, cs)
    | '\x7b' :: cs =>
      match skip cs with
      | '\x7d' :: cs => some (obj [], cs)
      | cs => (readFields n [] cs).map fun (fields, cs) => (obj fields, cs)
    | cs => readNumber cs

/-- Read the items of an array and its end. -/
def readItems : Nat → List Char → Option (List Json × List Char)
  | 0, _ => none
  | n + 1, cs => do
    let (j, cs) ← readValue n cs
    match skip cs with
    | ',' :: cs =>
      let (items, cs) ← readItems n cs
      return (j :: items, cs)
    | ']' :: cs => return ([j], cs)
    | _ => none

/-- Read more fields of an object and its end. -/
def readFields : Nat → List (String × Json) → List Char → Option (List (String × Json) × List Char)
  | 0, _, _ => none
  | n + 1, fields, cs =>
    match skip cs with
    | '"' :: cs => do
      let (name, cs) ← readText cs
      match skip cs with
      | ':' :: cs =>
        let (j, cs) ← readValue n cs
        let fields := putField fields name j
        match skip cs with
        | ',' :: cs => readFields n fields cs
        | '\x7d' :: cs => return (fields, cs)
        | _ => none
      | _ => none
    | _ => none

end

/-- The value that a text writes. -/
def parse? (text : String) : Option Json :=
  let cs := text.toList
  match readValue (2 * cs.length + 2) cs with
  | some (j, cs) => if (skip cs).isEmpty then some j else none
  | none => none

end Skirmish.Json
