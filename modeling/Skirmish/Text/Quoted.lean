import Skirmish.Text.Hidden

/-!
# Quoted text

A text is quoted between double quotes. A backslash stands before a quote or a backslash, the usual
controls have their letters, and every other hidden character is written by its code point, so that
a quoted text shows all that is in it.
-/

namespace Skirmish.Text

/-- The characters that write one character between quotes. -/
def escape (c : Char) : List Char :=
  match c with
  | '\x00' => ['\\', '0']
  | '\t' => ['\\', 't']
  | '\n' => ['\\', 'n']
  | '\r' => ['\\', 'r']
  | '"' => ['\\', '"']
  | '\\' => ['\\', '\\']
  | c =>
    if isHidden c then ['\\', 'u', '\x7b'] ++ Nat.toDigits 16 c.toNat ++ ['\x7d'] else [c]

/-- A text between quotes. -/
def quoted (s : String) : String := String.ofList ('"' :: s.toList.flatMap escape ++ ['"'])

/-- Quoted texts as a list in brackets. -/
def quotedList (ss : List String) : String := "[" ++ ", ".intercalate (ss.map quoted) ++ "]"

end Skirmish.Text
