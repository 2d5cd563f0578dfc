/-
Decimal text read as a float, in two ways. `nearest` gives the float nearest
to the decimal, which is what a numeric string means. `scaled` is the reading
of numbers in JSON: the leading digits as one 64-bit number, then one
multiplication or division by a power of ten, each rounded by itself, so the
last place may differ from the nearest float.
-/
import DurableWorkflow.Text.Blank

namespace DurableWorkflow.Decimal

-- ============================================================ digits

/-- The value of a decimal digit. -/
def digit? (c : Char) : Option Nat :=
  if '0' ≤ c ∧ c ≤ '9' then some (c.toNat - 48) else none

/-- A decimal digit of ASCII. -/
def isDigit (c : Char) : Bool := (digit? c).isSome

/-- The number that a run of decimal digits writes. -/
def ofDigits (cs : List Char) : Nat :=
  cs.foldl (fun n c => 10 * n + (c.toNat - 48)) 0

-- ========================================================== rounding

/-- Positive infinity. -/
def infinity : Float := 1.0 / 0.0

/-- Not a number. -/
def notANumber : Float := 0.0 / 0.0

/-- The float nearest to `mantissa * 10 ^ exponent`. Exponents far outside the
range of floats are answered without the power. -/
def nearest (mantissa : Nat) (exponent : Int) : Float :=
  let size := ((Nat.repr mantissa).length : Int) + exponent
  if mantissa = 0 then 0.0
  else if 310 < size then infinity
  else if size < -330 then 0.0
  else Float.ofScientific mantissa (exponent < 0) exponent.natAbs

/-- The power of ten with this exponent, rounded once; exact up to 22. -/
def power (k : Nat) : Float := Float.ofScientific 1 false k

/-- A whole number of 64 bits as a float. -/
def whole (n : Nat) : Float := n.toUInt64.toFloat

/-- A whole number of either sign as the nearest float, for magnitudes of 64
bits. -/
def ofInt (n : Int) : Float :=
  if n < 0 then -(whole n.natAbs) else whole n.natAbs

/-- Divides by the largest power of ten until the rest of the exponent fits;
`none` if the result is too large for a float. -/
def scaledFrom : Nat → Float → Int → Option Float
  | 0, _, _ => some 0.0
  | fuel + 1, x, e =>
    if e.natAbs ≤ 308 then
      if 0 ≤ e then
        let y := x * power e.natAbs
        if y.isInf then none else some y
      else some (x / power e.natAbs)
    else if x == 0.0 then some x
    else if 0 ≤ e then none
    else scaledFrom fuel (x / power 308) (e + 308)

/-- `mantissa * 10 ^ exponent` for a mantissa of 64 bits, scaled by one power of
ten; `none` if the result is too large for a float. -/
def scaled (mantissa : Nat) (exponent : Int) : Option Float :=
  scaledFrom 4 (whole mantissa) exponent

-- =================================================== numeric strings

/-- The exponent part of a numeric string: empty, or `e` with an optional sign
and at least one digit. -/
def exponent? : List Char → Option Int
  | [] => some 0
  | c :: r =>
    if c = 'e' ∨ c = 'E' then
      let (negative, ds) := match r with
        | '+' :: t => (false, t)
        | '-' :: t => (true, t)
        | t => (false, t)
      if ds.isEmpty ∨ ds.any (fun d => !isDigit d) then none
      else some (if negative then -(ofDigits ds : Int) else ofDigits ds)
    else none

/-- A numeric string without its sign: digits with at most one point, at least
one digit on either side of it, and an optional exponent. -/
def unsigned? (cs : List Char) : Option Float :=
  let front := cs.takeWhile isDigit
  let (back, rest) := match cs.dropWhile isDigit with
    | '.' :: t => (t.takeWhile isDigit, t.dropWhile isDigit)
    | t => ([], t)
  if front.isEmpty ∧ back.isEmpty then none
  else (exponent? rest).map fun e =>
    nearest (ofDigits (front ++ back)) (e - back.length)

/-- The named floats, in any mixture of cases. -/
def named? (cs : List Char) : Option Float :=
  match String.ofList (cs.map Char.toLower) with
  | "inf" => some infinity
  | "infinity" => some infinity
  | "nan" => some notANumber
  | _ => none

/-- The float that a numeric string writes, or `none` if it writes no number.
Blanks around it are ignored. -/
def float? (s : String) : Option Float :=
  let read (cs : List Char) := (named? cs).or (unsigned? cs)
  match Text.trim s.toList with
  | '-' :: t => (read t).map (- ·)
  | '+' :: t => read t
  | t => read t

end DurableWorkflow.Decimal
