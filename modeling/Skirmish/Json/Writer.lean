import Skirmish.Json.Basic

/-!
# Writing JSON

A value is written without blanks. A float is written as a text of its bits, so that it is exact:
`f64:` and sixteen hexadecimal digits, or `f64:nan`.
-/

namespace Skirmish.Json

/-- The `n` lowest hexadecimal digits of a number, after some characters. -/
def hexDigits : Nat → Nat → List Char → List Char
  | 0, _, cs => cs
  | n + 1, m, cs => hexDigits n (m / 16) (Nat.digitChar (m % 16) :: cs)

/-- The text of a float. -/
def floatText (x : Float) : String :=
  if x.isNaN then "f64:nan" else "f64:" ++ String.ofList (hexDigits 16 x.toBits.toNat [])

/-- The characters that write one character of a text. -/
def escape (c : Char) : List Char :=
  if c == '"' then ['\\', '"']
  else if c == '\\' then ['\\', '\\']
  else if c.toNat < 0x20 then '\\' :: 'u' :: hexDigits 4 c.toNat []
  else [c]

/-- Write a text after what is already written. -/
def putText (out s : String) : String :=
  (s.toList.foldl (fun out c => (escape c).foldl String.push out) (out.push '"')).push '"'

mutual

/-- Write a value after what is already written. -/
def put (out : String) : Json → String
  | null => out ++ "null"
  | bool true => out ++ "true"
  | bool false => out ++ "false"
  | int n => out ++ toString n
  | float x => putText out (floatText x)
  | str s => putText out s
  | arr items => (putItems (out.push '[') items).push ']'
  | obj fields => (putFields (out.push '\x7b') fields).push '\x7d'

/-- Write items with commas between them. -/
def putItems (out : String) : List Json → String
  | [] => out
  | [j] => put out j
  | j :: k :: items => putItems ((put out j).push ',') (k :: items)

/-- Write fields with commas between them. -/
def putFields (out : String) : List (String × Json) → String
  | [] => out
  | [(name, j)] => put ((putText out name).push ':') j
  | (name, j) :: f :: fields =>
    putFields ((put ((putText out name).push ':') j).push ',') (f :: fields)

end

/-- The text of a value. -/
def compress (j : Json) : String := put "" j

end Skirmish.Json
