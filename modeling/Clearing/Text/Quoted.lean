import Clearing.Text.Shown

/-!
# Quoted texts

A text in quotes stands on one line and shows what it holds: a quote and a backslash are escaped, controls with
a letter of their own by that letter, and every other character that does not show by its code.
-/

namespace Clearing.Text

/-- A character by its code, in braces. -/
def codeEscape (c : Char) : List Char :=
  '\\' :: 'u' :: '\x7b' :: Nat.toDigits 16 c.toNat ++ ['\x7d']

/-- The letter that escapes a character in a quoted text. -/
def escapeLetter? : Char → Option Char
  | '"' => some '"'
  | '\\' => some '\\'
  | '\n' => some 'n'
  | '\r' => some 'r'
  | '\t' => some 't'
  | '\x00' => some '0'
  | _ => none

/-- A character as it stands in a quoted text. -/
def quotedChar (c : Char) : List Char :=
  match escapeLetter? c with
  | some l => ['\\', l]
  | none => if isShown c then [c] else codeEscape c

/-- A text in quotes. -/
def quoted (s : String) : String := String.ofList ('"' :: s.toList.flatMap quotedChar ++ ['"'])

end Clearing.Text
