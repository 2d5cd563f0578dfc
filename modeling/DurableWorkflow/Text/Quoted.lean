/-
Text between double quotes in messages. Quotes and backslashes have a backslash
before them, and characters that cannot be seen are shown by their number in
braces.
-/
import DurableWorkflow.Text.Unprintable

namespace DurableWorkflow.Text

/-- The hexadecimal digits of a number, in lower case. -/
def hexText (n : Nat) : List Char := Nat.toDigits 16 n

/-- A character inside quoted text. -/
def shown (c : Char) : List Char :=
  match c with
  | '"' => ['\\', '"']
  | '\\' => ['\\', '\\']
  | '\n' => ['\\', 'n']
  | '\r' => ['\\', 'r']
  | '\t' => ['\\', 't']
  | '\x00' => ['\\', '0']
  | c =>
    if unprintable.has c.toNat then '\\' :: 'u' :: '\x7b' :: (hexText c.toNat ++ ['\x7d'])
    else [c]

/-- Quoted text. -/
def quoted (s : String) : String :=
  String.ofList ('"' :: (s.toList.flatMap shown ++ ['"']))

end DurableWorkflow.Text
