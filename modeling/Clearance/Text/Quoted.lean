/-
# Clearance.Text.Quoted -- text quoted for a diagnostic

A diagnostic shows a text between quotes so that every character in it can be
told: quotes and backslashes are escaped, NUL, tab, line feed and carriage
return have letters, and any other hidden character is written as its code point
in braces, `\u{301}`.
-/
import Clearance.Text.Hidden

namespace Clearance.Text

set_option autoImplicit false

/-- One character between quotes. -/
def showChar (c : Char) : List Char :=
  match c with
  | '"' => ['\\', '"']
  | '\\' => ['\\', '\\']
  | '\x00' => ['\\', '0']
  | '\t' => ['\\', 't']
  | '\n' => ['\\', 'n']
  | '\r' => ['\\', 'r']
  | c =>
      if isHidden c then '\\' :: 'u' :: '\x7b' :: Nat.toDigits 16 c.toNat ++ ['\x7d']
      else [c]

/-- The text between quotes. -/
def quoted (s : String) : String :=
  String.ofList ('"' :: s.toList.flatMap showChar ++ ['"'])

end Clearance.Text
