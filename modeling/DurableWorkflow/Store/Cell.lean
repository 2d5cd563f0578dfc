/-
Cells of stored tables. A text column turns numbers into text; a number column
turns text into a number where it reads as one, and keeps it as text otherwise.
-/
import DurableWorkflow.Decimal.Reading
import DurableWorkflow.Json.Printer
import DurableWorkflow.Failure

namespace DurableWorkflow.Store

-- ============================================================= cells

/-- A stored cell. -/
inductive Cell
  | null
  | int (n : Int)
  | real (x : Float)
  | text (s : String)

/-- The class of a cell, in messages. -/
def Cell.className : Cell → String
  | .null => "Null"
  | .int _ => "Integer"
  | .real _ => "Real"
  | .text _ => "Text"

-- ========================================================== numbers

/-- A blank around a number. -/
def isCellBlank (c : Char) : Bool := c = ' ' || (9 ≤ c.toNat && c.toNat ≤ 13)

/-- Whether a whole number has 64 bits. -/
def fits64 (n : Int) : Bool := decide (-0x8000000000000000 ≤ n) && decide (n < 0x8000000000000000)

/-- A decimal number: its digits before and after the point, and its exponent. -/
structure Written where
  negative : Bool
  front : List Char
  back : List Char
  hasPoint : Bool
  exponent : Option Int

/-- Reads a decimal number that fills the text but for blanks around it. -/
def readNumber? (cs : List Char) : Option Written :=
  let cs := cs.dropWhile isCellBlank
  let (negative, cs) := match cs with
    | '-' :: r => (true, r)
    | '+' :: r => (false, r)
    | r => (false, r)
  let front := cs.takeWhile Decimal.isDigit
  let cs := cs.drop front.length
  let (hasPoint, back, cs) := match cs with
    | '.' :: r => (true, r.takeWhile Decimal.isDigit, r.dropWhile Decimal.isDigit)
    | r => (false, [], r)
  if front.isEmpty ∧ back.isEmpty then none
  else
    let finish (e : Option Int) (rest : List Char) : Option Written :=
      if (rest.dropWhile isCellBlank).isEmpty then some ⟨negative, front, back, hasPoint, e⟩
      else none
    let exponent (r : List Char) : Option Written :=
      let (down, ds) := match r with
        | '-' :: t => (true, t)
        | '+' :: t => (false, t)
        | t => (false, t)
      let digits := ds.takeWhile Decimal.isDigit
      if digits.isEmpty then none
      else
        let n : Int := Decimal.ofDigits digits
        finish (some (if down then -n else n)) (ds.drop digits.length)
    match cs with
    | 'e' :: r => exponent r
    | 'E' :: r => exponent r
    | r => finish none r

/-- A float as a whole number, where nothing is lost by that. -/
def wholeOf? (w : Written) : Option Int :=
  let mantissa := Decimal.ofDigits (w.front ++ w.back)
  let e := w.exponent.getD 0 - w.back.length
  let x := Decimal.nearest mantissa e
  if x < Decimal.whole 0x8000000000000000 then
    let n := x.floor.toUInt64.toNat
    if Decimal.whole n == x then some (if w.negative then -(n : Int) else n) else none
  else none

/-- A text in a number column. -/
def numeric (s : String) : Cell :=
  match readNumber? s.toList with
  | none => .text s
  | some w =>
    let n : Int := Decimal.ofDigits w.front
    let n := if w.negative then -n else n
    if !w.hasPoint && w.exponent.isNone && fits64 n then .int n
    else match wholeOf? w with
      | some n => .int n
      | none => .real (Decimal.nearest (Decimal.ofDigits (w.front ++ w.back))
          (w.exponent.getD 0 - w.back.length))

/-- A value in a number column. -/
def Cell.asNumber : Cell → Cell
  | .text s => numeric s
  | c => c

/-- A value in a text column; `none` for no value. -/
def Cell.asText : Cell → Option String
  | .null => none
  | .int n => some (toString n)
  | .real x => some (String.ofList (Decimal.text x))
  | .text s => some s

end DurableWorkflow.Store
