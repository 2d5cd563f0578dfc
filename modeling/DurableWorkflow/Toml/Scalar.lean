/-
The small pieces of a TOML text: blanks, line ends, strings, numbers, dates and
times. A reader of a piece gives the piece and what is left after it, or nothing
if there is no such piece.

A string in three quotes may run over several lines. In it a backslash at the end
of a line takes the line end and the blanks after it away.
-/
import DurableWorkflow.Decimal.Reading
import DurableWorkflow.Json.Value

namespace DurableWorkflow.Toml

open Decimal (isDigit)

/-- A reader of a piece. -/
abbrev Scan (α : Type) := List Char → Option (α × List Char)

-- ========================================================= characters

/-- A blank within a line. -/
def isBlank (c : Char) : Bool := c = ' ' || c = '\t'

/-- A character that may stand in comments and strings; control characters other
than the tab may not. -/
def isPlain (c : Char) : Bool :=
  c = '\t' || (32 ≤ c.toNat && c.toNat ≤ 126) || 128 ≤ c.toNat

/-- The text without leading blanks. -/
def skipBlanks (cs : List Char) : List Char := cs.dropWhile isBlank

/-- What is left after a line end. -/
def afterNewline? : List Char → Option (List Char)
  | '\n' :: r => some r
  | '\r' :: '\n' :: r => some r
  | _ => none

/-- What is left after the end of a line or of the text. -/
def endOfLine : List Char → Option (List Char)
  | [] => some []
  | cs => afterNewline? cs

/-- What is left after the rest of a line, on which nothing but a comment may
stand. -/
def restOfLine (cs : List Char) : Option (List Char) :=
  match skipBlanks cs with
  | '#' :: r => endOfLine (r.dropWhile isPlain)
  | r => endOfLine r

/-- Skips blanks, line ends and comments; `inComment` says whether the text begins
within a comment. -/
def skipLines (inComment : Bool) : List Char → Option (List Char)
  | [] => if inComment then none else some []
  | '\n' :: r => skipLines false r
  | '\r' :: '\n' :: r => skipLines false r
  | c :: r =>
    if inComment then if isPlain c then skipLines true r else none
    else if isBlank c then skipLines false r
    else if c = '#' then skipLines true r
    else some (c :: r)

-- ============================================================ strings

/-- The value of a hexadecimal digit. -/
def hexValue? (c : Char) : Option Nat :=
  if isDigit c then some (c.toNat - 48)
  else if 97 ≤ c.toNat ∧ c.toNat ≤ 102 then some (c.toNat - 87)
  else if 65 ≤ c.toNat ∧ c.toNat ≤ 70 then some (c.toNat - 55)
  else none

/-- The character with a hexadecimal number. -/
def scalar? (digits : List Char) : Option Char := do
  let n ← digits.foldlM (fun n c => (hexValue? c).map (16 * n + ·)) 0
  if n < 0xD800 ∨ (0xDFFF < n ∧ n < 0x110000) then some (Char.ofNat n) else none

/-- Where in a fold of lines a string stands: not in one, before its line end, or
after it. -/
inductive Fold
  | none
  | before
  | after
deriving DecidableEq, Repr

/-- What the characters between the quotes stand for; line ends may be among them
if the string is `long`. -/
def unescape (long : Bool) : Fold → List Char → Option (List Char)
  | .before, [] => none
  | _, [] => some []
  | .before, '\n' :: r => unescape long .after r
  | .before, '\r' :: '\n' :: r => unescape long .after r
  | .before, c :: r => if isBlank c then unescape long .before r else none
  | .after, '\n' :: r => unescape long .after r
  | .after, '\r' :: '\n' :: r => unescape long .after r
  | .after, ' ' :: r => unescape long .after r
  | .after, '\t' :: r => unescape long .after r
  | _, '\\' :: 'b' :: r => return '\x08' :: (← unescape long .none r)
  | _, '\\' :: 't' :: r => return '\t' :: (← unescape long .none r)
  | _, '\\' :: 'n' :: r => return '\n' :: (← unescape long .none r)
  | _, '\\' :: 'f' :: r => return '\x0c' :: (← unescape long .none r)
  | _, '\\' :: 'r' :: r => return '\r' :: (← unescape long .none r)
  | _, '\\' :: '"' :: r => return '"' :: (← unescape long .none r)
  | _, '\\' :: '\\' :: r => return '\\' :: (← unescape long .none r)
  | _, '\\' :: 'u' :: a :: b :: c :: d :: r => do
    let x ← scalar? [a, b, c, d]
    return x :: (← unescape long .none r)
  | _, '\\' :: 'U' :: a :: b :: c :: d :: e :: f :: g :: h :: r => do
    let x ← scalar? [a, b, c, d, e, f, g, h]
    return x :: (← unescape long .none r)
  | _, '\\' :: r => if long then unescape long .before r else none
  | _, '\n' :: r => if long then return '\n' :: (← unescape long .none r) else none
  | _, '\r' :: '\n' :: r => if long then return '\n' :: (← unescape long .none r) else none
  | _, c :: r => if isPlain c then return c :: (← unescape long .none r) else none

/-- A string without escapes stands for its characters. -/
def literal (long : Bool) : List Char → Option (List Char)
  | [] => some []
  | '\n' :: r => if long then return '\n' :: (← literal long r) else none
  | '\r' :: '\n' :: r => if long then return '\n' :: (← literal long r) else none
  | c :: r => if isPlain c then return c :: (← literal long r) else none

/-- The characters up to a double quote that has no backslash before it. -/
def untilQuote : Scan (List Char)
  | [] => none
  | '"' :: r => some ([], r)
  | '\\' :: c :: r => (untilQuote r).map fun (cs, rest) => ('\\' :: c :: cs, rest)
  | c :: r => (untilQuote r).map fun (cs, rest) => (c :: cs, rest)

/-- The characters up to three quotes in a row; one or two quotes more belong to
the string. -/
def untilQuotes (quote : Char) (escapes : Bool) : Scan (List Char)
  | [] => none
  | [_] => none
  | c :: d :: r =>
    if c = quote ∧ d = quote ∧ r.head? = some quote then
      let more := min 2 ((r.drop 1).takeWhile (· = quote)).length
      some (List.replicate more quote, r.drop (1 + more))
    else if c = '\\' ∧ escapes then
      (untilQuotes quote escapes r).map fun (cs, rest) => (c :: d :: cs, rest)
    else
      (untilQuotes quote escapes (d :: r)).map fun (cs, rest) => (c :: cs, rest)

/-- A string on one line. -/
def shortString : Scan String
  | '"' :: r => do
    let (raw, rest) ← untilQuote r
    return (String.ofList (← unescape false .none raw), rest)
  | '\'' :: r => do
    let raw := r.takeWhile (· ≠ '\'')
    let '\'' :: rest := r.drop raw.length | none
    return (String.ofList (← literal false raw), rest)
  | _ => none

/-- A string. A line end right after three quotes does not belong to it. -/
def string : Scan String
  | '"' :: '"' :: '"' :: r => do
    let (raw, rest) ← untilQuotes '"' true ((afterNewline? r).getD r)
    return (String.ofList (← unescape true .none raw), rest)
  | '\'' :: '\'' :: '\'' :: r => do
    let (raw, rest) ← untilQuotes '\'' false ((afterNewline? r).getD r)
    return (String.ofList (← literal true raw), rest)
  | cs => shortString cs

-- ============================================================ numbers

/-- Further digits; each may have one underscore before it. -/
def moreDigits (ok : Char → Bool) : List Char → List Char × List Char
  | [] => ([], [])
  | '_' :: c :: r =>
    if ok c then
      let (ds, rest) := moreDigits ok r
      (c :: ds, rest)
    else ([], '_' :: c :: r)
  | c :: r =>
    if ok c then
      let (ds, rest) := moreDigits ok r
      (c :: ds, rest)
    else ([], c :: r)

/-- Digits, at least one. -/
def digits (ok : Char → Bool) : Scan (List Char)
  | [] => none
  | c :: r =>
    if ok c then
      let (ds, rest) := moreDigits ok r
      some (c :: ds, rest)
    else none

/-- The greatest whole number. -/
def maxWhole : Int := 0x7fffffffffffffff

/-- A whole number of 64 bits. -/
def whole (n : Int) (rest : List Char) : Option (Value × List Char) :=
  if -maxWhole - 1 ≤ n ∧ n ≤ maxWhole then some (.int n, rest) else none

/-- A whole number in a base, after its mark. -/
def based (base : Nat) (ok : Char → Bool) : Scan Value := fun cs => do
  let (ds, rest) ← digits ok cs
  whole (ds.foldl (fun n c => base * n + (hexValue? c).getD 0) 0 : Nat) rest

/-- The exponent of a float, after its letter. -/
def exponent : Scan Int := fun cs => do
  let (down, cs) := match cs with
    | '-' :: r => (true, r)
    | '+' :: r => (false, r)
    | r => (false, r)
  let (ds, rest) ← digits isDigit cs
  let n : Int := Decimal.ofDigits ds
  return (if down then -n else n, rest)

/-- A float; one that is too large is refused. -/
def float (negative : Bool) (mantissa : Nat) (e : Int) (rest : List Char) :
    Option (Value × List Char) :=
  let x := Decimal.nearest mantissa e
  let x := if negative then -x else x
  if x == Decimal.infinity then none else some (.real x, rest)

/-- What follows the digits of a number before the point. -/
def afterFront (negative : Bool) (front : List Char) (cs : List Char) :
    Option (Value × List Char) :=
  let scaled (back : List Char) (rest : List Char) : Option (Value × List Char) := do
    let (e, rest) ← exponent rest
    float negative (Decimal.ofDigits (front ++ back)) (e - back.length) rest
  match cs with
  | 'e' :: r => scaled [] r
  | 'E' :: r => scaled [] r
  | '.' :: r => do
    let (back, rest) ← digits isDigit r
    match rest with
    | 'e' :: r => scaled back r
    | 'E' :: r => scaled back r
    | _ => float negative (Decimal.ofDigits (front ++ back)) (-(back.length : Int)) rest
  | rest =>
    let n : Int := Decimal.ofDigits front
    whole (if negative then -n else n) rest

/-- A number after its sign, if it had one. -/
def unsigned (negative : Bool) : Scan Value
  | 'i' :: 'n' :: 'f' :: r =>
    some (.real (if negative then -Decimal.infinity else Decimal.infinity), r)
  | 'n' :: 'a' :: 'n' :: r => some (.real Decimal.notANumber, r)
  | '0' :: r => afterFront negative ['0'] r
  | cs => do
    let (front, rest) ← digits isDigit cs
    afterFront negative front rest

/-- A number. Leading zeros are refused, and other bases have no sign. -/
def number : Scan Value
  | '0' :: 'x' :: r => based 16 (fun c => (hexValue? c).isSome) r
  | '0' :: 'o' :: r => based 8 (fun c => isDigit c && c.toNat < 56) r
  | '0' :: 'b' :: r => based 2 (fun c => c = '0' || c = '1') r
  | '+' :: r => unsigned false r
  | '-' :: r => unsigned true r
  | r => unsigned false r

-- ==================================================== dates and times

/-- A number of exactly so many digits within bounds. -/
def field (width low high : Nat) : Scan Nat := fun cs =>
  let ds := cs.take width
  let n := Decimal.ofDigits ds
  if ds.length = width ∧ ds.all isDigit ∧ low ≤ n ∧ n ≤ high then some (n, cs.drop width)
  else none

/-- What is left after a character. -/
def expect (c : Char) : List Char → Option (List Char)
  | [] => none
  | d :: r => if d = c then some r else none

/-- The length of a month. -/
def daysOf (year month : Nat) : Nat :=
  if month = 2 then
    if year % 4 = 0 ∧ (year % 100 ≠ 0 ∨ year % 400 = 0) then 29 else 28
  else if month = 4 ∨ month = 6 ∨ month = 9 ∨ month = 11 then 30
  else 31

/-- What is left after a date. -/
def date (cs : List Char) : Option (List Char) := do
  let (year, cs) ← field 4 0 9999 cs
  let (month, cs) ← field 2 1 12 (← expect '-' cs)
  let (_, cs) ← field 2 1 (daysOf year month) (← expect '-' cs)
  return cs

/-- What is left after a time. -/
def time (cs : List Char) : Option (List Char) := do
  let (_, cs) ← field 2 0 23 cs
  let (_, cs) ← field 2 0 59 (← expect ':' cs)
  let (_, cs) ← field 2 0 60 (← expect ':' cs)
  match cs with
  | '.' :: r => if r.head?.any isDigit then some (r.dropWhile isDigit) else none
  | _ => some cs

/-- What is left after the distance from universal time, if there is one. -/
def zone (cs : List Char) : Option (List Char) :=
  let distance (r : List Char) : Option (List Char) := do
    let (_, r) ← field 2 0 23 r
    let (_, r) ← field 2 0 59 (← expect ':' r)
    return r
  match cs with
  | 'Z' :: r => some r
  | 'z' :: r => some r
  | '+' :: r => distance r
  | '-' :: r => distance r
  | _ => some cs

/-- What is left after the time of a date, if there is one. -/
def clockPart (cs : List Char) : Option (List Char) :=
  match cs with
  | 'T' :: r => (time r).bind zone
  | 't' :: r => (time r).bind zone
  | ' ' :: r => ((time r).bind zone).or (some cs)
  | _ => some cs

/-- A date, a time, or both. They stand for an object of one member. -/
def moment : Scan Value := fun cs => do
  let rest ← ((date cs).bind clockPart).or (time cs)
  return (.object [("moment", .string (String.ofList (cs.take (cs.length - rest.length))))], rest)

end DurableWorkflow.Toml
