/-
The text of a JSON value. The compact form has no blanks. The laid-out form has
a line for each item and each member, indented by two blanks for each level.
Floats have the fewest digits that read back, always with a fraction or an
exponent, so that no float is written like a whole number.
-/
import DurableWorkflow.Json.Value
import DurableWorkflow.Decimal.Shortest

namespace DurableWorkflow

-- =========================================================== numbers

namespace Decimal

/-- Digits with the point at its place, padded with zeros on the left or the
right, with at least one digit on either side. -/
def Digits.positional (d : Digits) : List Char :=
  if d.point ≤ 0 then
    '0' :: '.' :: (List.replicate d.point.natAbs '0' ++ d.digits)
  else
    let k := d.point.toNat
    if d.digits.length ≤ k then
      d.digits ++ List.replicate (k - d.digits.length) '0' ++ ['.', '0']
    else d.digits.take k ++ '.' :: d.digits.drop k

/-- Digits with the point after the first of them, followed by the exponent and
its sign. -/
def Digits.scientific (d : Digits) : List Char :=
  let e := d.point - 1
  let sign := if e < 0 then '-' else '+'
  let front := match d.digits with
    | [] => ['0']
    | [c] => [c]
    | c :: r => c :: '.' :: r
  front ++ 'e' :: sign :: (Nat.repr e.natAbs).toList

/-- A finite float: positional from `1e-5` up to below `1e16`, with an exponent
outside of that. -/
def text (x : Float) : List Char :=
  let bits := x.toBits
  let sign := if bits >>> 63 == 1 then ['-'] else []
  let size := bits &&& 0x7FFFFFFFFFFFFFFF
  if size == 0 then sign ++ ['0', '.', '0']
  else
    let d := shortest size
    sign ++ (if -5 < d.point ∧ d.point ≤ 16 then d.positional else d.scientific)

end Decimal

namespace Value

-- ============================================================ pieces

/-- A hexadecimal digit, in lower case. -/
def hexDigit (n : Nat) : Char :=
  if n < 10 then Char.ofNat (48 + n) else Char.ofNat (87 + n)

/-- A character inside a quoted string. Only quotes, backslashes and control
characters are escaped. -/
def escape (c : Char) : List Char :=
  match c with
  | '"' => ['\\', '"']
  | '\\' => ['\\', '\\']
  | '\n' => ['\\', 'n']
  | '\r' => ['\\', 'r']
  | '\t' => ['\\', 't']
  | '\x08' => ['\\', 'b']
  | '\x0c' => ['\\', 'f']
  | c =>
    if c.toNat < 32 then
      ['\\', 'u', '0', '0', hexDigit (c.toNat / 16), hexDigit (c.toNat % 16)]
    else [c]

/-- A quoted string. -/
def quote (s : String) : List Char :=
  '"' :: (s.toList.flatMap escape ++ ['"'])

/-- A whole number in decimal digits. -/
def digits (n : Int) : List Char :=
  if n < 0 then '-' :: (Nat.repr n.natAbs).toList else (Nat.repr n.toNat).toList

/-- A float, or `null` where it has no number to write. -/
def floatText (x : Float) : List Char :=
  if x.isFinite then Decimal.text x else ['n', 'u', 'l', 'l']

/-- The text of a value that has no parts, and nothing for the others. -/
def atom : Value → List Char
  | .null => ['n', 'u', 'l', 'l']
  | .bool true => ['t', 'r', 'u', 'e']
  | .bool false => ['f', 'a', 'l', 's', 'e']
  | .int n => digits n
  | .real x => floatText x
  | .string s => quote s
  | .array _ => []
  | .object _ => []

-- ====================================================== compact text

mutual

/-- The compact text of a value. -/
def chars : Value → List Char
  | .array items => '[' :: itemChars items
  | .object members => '\x7b' :: memberChars members
  | v => v.atom

/-- The items of an array and the closing bracket. -/
def itemChars : List Value → List Char
  | [] => [']']
  | [v] => chars v ++ [']']
  | v :: vs => chars v ++ ',' :: itemChars vs

/-- The members of an object and the closing brace. -/
def memberChars : List (String × Value) → List Char
  | [] => ['\x7d']
  | [(k, v)] => quote k ++ ':' :: (chars v ++ ['\x7d'])
  | (k, v) :: ms => quote k ++ ':' :: (chars v ++ ',' :: memberChars ms)

end

/-- The compact text of a value. -/
def text (v : Value) : String := String.ofList v.chars

-- ===================================================== laid-out text

/-- A line break and the blanks of a level. -/
def newline (level : Nat) : List Char := '\n' :: List.replicate (2 * level) ' '

mutual

/-- The laid-out text of a value at a level of nesting. -/
def layout (level : Nat) : Value → List Char
  | .array [] => ['[', ']']
  | .array items => '[' :: layoutItems level items
  | .object [] => ['\x7b', '\x7d']
  | .object members => '\x7b' :: layoutMembers level members
  | v => v.atom

/-- Items one level further in, then the closing bracket. -/
def layoutItems (level : Nat) : List Value → List Char
  | [] => newline level ++ [']']
  | [v] => newline (level + 1) ++ layout (level + 1) v ++ newline level ++ [']']
  | v :: vs => newline (level + 1) ++ layout (level + 1) v ++ ',' :: layoutItems level vs

/-- Members one level further in, then the closing brace. -/
def layoutMembers (level : Nat) : List (String × Value) → List Char
  | [] => newline level ++ ['\x7d']
  | [(k, v)] =>
    newline (level + 1) ++ quote k ++ ':' :: ' ' :: layout (level + 1) v
      ++ newline level ++ ['\x7d']
  | (k, v) :: ms =>
    newline (level + 1) ++ quote k ++ ':' :: ' ' :: layout (level + 1) v
      ++ ',' :: layoutMembers level ms

end

/-- The laid-out text of a value. -/
def pretty (v : Value) : String := String.ofList (v.layout 0)

end Value

end DurableWorkflow
