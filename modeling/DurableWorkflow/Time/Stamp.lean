/-
Instants as text, in the form of RFC 3339 in universal time. Years of four
digits have no sign; other years have one. A stored instant always has six
fraction digits, so that the order of such texts is the order of the instants
as long as their years have four digits; a shown instant has the fewest of 0, 3,
6 and 9 fraction digits that are exact.

There are two ways to read such text. Data from outside may have blanks before
its numbers, years of other lengths with a sign, and the letters `UTC` for the
offset. A stored text has to have the exact form.
-/
import DurableWorkflow.Time.Instant
import DurableWorkflow.Text.Blank
import DurableWorkflow.Text.Measure
import DurableWorkflow.Decimal.Reading

namespace DurableWorkflow.Time

-- ========================================================== printing

/-- A number with at least `width` digits. -/
def padded (width n : Nat) : List Char :=
  let ds := (Nat.repr n).toList
  List.replicate (width - ds.length) '0' ++ ds

/-- A year: four digits, or a sign and at least four. -/
def yearText (y : Int) : List Char :=
  if 0 ≤ y ∧ y ≤ 9999 then padded 4 y.toNat
  else (if y < 0 then '-' else '+') :: padded 4 y.natAbs

/-- The fewest fraction digits of 0, 3, 6 and 9 that are exact. -/
def shortFraction (nanos : Nat) : List Char :=
  if nanos = 0 then []
  else if nanos % 1000000 = 0 then '.' :: padded 3 (nanos / 1000000)
  else if nanos % 1000 = 0 then '.' :: padded 6 (nanos / 1000)
  else '.' :: padded 9 nanos

/-- Six fraction digits; the rest is cut off. -/
def microFraction (nanos : Nat) : List Char := '.' :: padded 6 (nanos / 1000)

/-- Date and time of an instant, with its fraction written by `fraction`, and the
offset. -/
def Instant.write (fraction : Nat → List Char) (offset : List Char) (t : Instant) : List Char :=
  let days := t.seconds / 86400
  let date := Date.ofNumber days
  let clock := (t.seconds - days * 86400).toNat
  let leap := decide (second ≤ t.nanos)
  let seconds := clock % 60 + (if leap then 1 else 0)
  let nanos := if leap then t.nanos - second else t.nanos
  yearText date.year ++ '-' :: padded 2 date.month ++ '-' :: padded 2 date.day
    ++ 'T' :: padded 2 (clock / 3600) ++ ':' :: padded 2 (clock / 60 % 60)
    ++ ':' :: padded 2 seconds ++ fraction nanos ++ offset

/-- The text that shows an instant. -/
def Instant.text (t : Instant) : String := String.ofList (t.write shortFraction ['Z'])

/-- The text that shows an instant with its offset in numbers. -/
def Instant.textWithOffset (t : Instant) : String :=
  String.ofList (t.write shortFraction ['+', '0', '0', ':', '0', '0'])

/-- The text under which an instant is stored. -/
def Instant.stored (t : Instant) : String := String.ofList (t.write microFraction ['Z'])

-- =========================================================== reading

/-- Why a text is no instant. -/
inductive StampError
  | tooShort
  | invalid
  | outOfRange
  | tooLong
  | impossible
deriving DecidableEq, Repr

def StampError.message : StampError → String
  | .tooShort => "premature end of input"
  | .invalid => "input contains invalid characters"
  | .outOfRange => "input is out of range"
  | .tooLong => "trailing input"
  | .impossible => "no possible date and time matching input"

/-- What was read, or why nothing could be. -/
abbrev Scan := Except StampError

/-- At least `least` and at most `most` digits; no more than 64 bits. -/
def number (least most : Nat) (cs : List Char) : Scan (Nat × List Char) :=
  let ds := (cs.take most).takeWhile Decimal.isDigit
  if ds.length < least then
    throw (if Text.bytes (cs.take least) < least then .tooShort else .invalid)
  else
    let n := Decimal.ofDigits ds
    if 0x8000000000000000 ≤ n then throw .outOfRange else pure (n, cs.drop ds.length)

/-- A number within bounds. -/
def within (low high : Nat) (r : Scan (Nat × List Char)) : Scan (Nat × List Char) := do
  let (n, rest) ← r
  if low ≤ n ∧ n ≤ high then pure (n, rest) else throw .outOfRange

/-- A given character. -/
def literal (c : Char) : List Char → Scan (List Char)
  | [] => throw .tooShort
  | d :: r => if d = c then pure r else throw .invalid

/-- The fraction of a second: up to nine digits count, further ones are passed
over. -/
def fraction (cs : List Char) : Scan (Nat × List Char) :=
  match cs with
  | '.' :: r => do
    let (n, rest) ← number 1 9 r
    let digits := r.length - rest.length
    pure (n * Nat.pow 10 (9 - digits), rest.dropWhile Decimal.isDigit)
  | _ => pure (0, cs)

/-- The letter between date and time. -/
def divider : List Char → Scan (List Char)
  | [] => throw .tooShort
  | c :: r => if c = 'T' ∨ c = 't' ∨ c = ' ' then pure r else throw .invalid

/-- Two digits of an offset, as they are checked before their value. -/
def twoDigits : List Char → Scan (Nat × Nat × List Char)
  | [] => throw .tooShort
  | [c] => if c.toNat < 128 then throw .tooShort else throw .invalid
  | c :: d :: r =>
    match Decimal.digit? c, Decimal.digit? d with
    | some a, some b => pure (a, b, r)
    | _, _ => throw .invalid

/-- An offset in seconds; `colon` reads what stands between hours and
minutes. -/
def offset (colon : List Char → Scan (List Char)) (cs : List Char) : Scan (Int × List Char) :=
  match cs with
  | [] => throw .tooShort
  | c :: r =>
    if c = 'Z' ∨ c = 'z' then pure (0, r)
    else if c = '+' ∨ c = '-' ∨ c = '\u2212' then do
      let (a, b, r) ← twoDigits r
      let r ← colon r
      let (m, n, r) ← twoDigits r
      if 6 ≤ m then throw .outOfRange
      let seconds : Int := (10 * a + b) * 3600 + (10 * m + n) * 60
      pure (if c = '+' then seconds else -seconds, r)
    else throw .invalid

/-- The pieces of an instant, as they were written. -/
structure Pieces where
  year : Int
  month : Nat
  day : Nat
  hour : Nat
  minute : Nat
  second : Nat
  nanos : Nat
  offset : Int

/-- The instant of its pieces. Second 60 is a leap second. -/
def Pieces.instant (p : Pieces) : Scan Instant := do
  let date : Date := ⟨p.year, p.month, p.day⟩
  if p.year < -262143 ∨ 262142 < p.year ∨ ¬ date.Valid then throw .outOfRange
  if 86400 ≤ p.offset.natAbs then throw .outOfRange
  let (s, nanos) := if p.second = 60 then (59, p.nanos + Time.second) else (p.second, p.nanos)
  let seconds := date.number * 86400 + (p.hour * 3600 + p.minute * 60 + s : Nat) - p.offset
  if Instant.inRange seconds then pure ⟨seconds, nanos⟩ else throw .impossible

/-- Reads a stored text. -/
def Instant.ofStored (s : String) : Scan Instant := do
  let (year, r) ← number 4 4 s.toList
  let r ← literal '-' r
  let (month, r) ← within 1 12 (number 2 2 r)
  let r ← literal '-' r
  let (day, r) ← within 1 31 (number 2 2 r)
  let r ← divider r
  let (hour, r) ← within 0 23 (number 2 2 r)
  let r ← literal ':' r
  let (minute, r) ← within 0 59 (number 2 2 r)
  let r ← literal ':' r
  let (second, r) ← within 0 60 (number 2 2 r)
  let (nanos, r) ← fraction r
  let (offset, r) ← offset (literal ':') r
  if 86340 < offset.natAbs then throw .outOfRange
  if ¬ r.isEmpty then throw .tooLong
  Pieces.instant ⟨year, month, day, hour, minute, second, nanos, offset⟩

/-- A year with a sign and any number of digits, or up to four digits. -/
def signedYear (cs : List Char) : Scan (Int × List Char) := do
  match Text.trimStart cs with
  | '-' :: r =>
    let (n, r) ← number 1 r.length r
    if 0x80000000 < n then throw .outOfRange
    pure (-(n : Int), r)
  | '+' :: r =>
    let (n, r) ← number 1 r.length r
    if 0x80000000 ≤ n then throw .outOfRange
    pure ((n : Int), r)
  | r =>
    let (n, r) ← number 1 4 r
    pure ((n : Int), r)

/-- One or two digits after blanks. -/
def shortNumber (low high : Nat) (cs : List Char) : Scan (Nat × List Char) :=
  within low high (number 1 2 (Text.trimStart cs))

/-- A given character after blanks. -/
def looseLiteral (c : Char) (cs : List Char) : Scan (List Char) :=
  literal c (Text.trimStart cs)

/-- The offset of data from outside. -/
def looseOffset (cs : List Char) : Scan (Int × List Char) :=
  match cs with
  | u :: t :: c :: r =>
    if u.toLower = 'u' ∧ t.toLower = 't' ∧ c.toLower = 'c' then pure (0, r)
    else offset (fun r => pure (r.dropWhile fun c => c = ':' || Text.isBlank c)) cs
  | _ => offset (fun r => pure (r.dropWhile fun c => c = ':' || Text.isBlank c)) cs

/-- Reads data from outside. -/
def Instant.ofText (s : String) : Scan Instant := do
  let (year, r) ← signedYear s.toList
  let r ← looseLiteral '-' r
  let (month, r) ← shortNumber 1 12 r
  let r ← looseLiteral '-' r
  let (day, r) ← shortNumber 1 31 r
  let r ← divider r
  let (hour, r) ← shortNumber 0 23 r
  let r ← looseLiteral ':' r
  let (minute, r) ← shortNumber 0 59 r
  let r ← looseLiteral ':' r
  let (second, r) ← shortNumber 0 60 r
  let (nanos, r) ← fraction r
  let (offset, r) ← looseOffset (Text.trimStart r)
  if ¬ (Text.trimStart r).isEmpty then throw .tooLong
  Pieces.instant ⟨year, month, day, hour, minute, second, nanos, offset⟩

end DurableWorkflow.Time
