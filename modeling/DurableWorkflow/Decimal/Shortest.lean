/-
The fewest decimal digits that still name one floating point number. A
finite float is exactly `m * 2 ^ q`, and the reals that round to it form an
interval around it whose ends belong to it when `m` is even. Of the decimals
with 1, 2, 3, ... digits the first that falls into the interval is chosen,
and of two such neighbours the one nearer to the float. Everything is done in
whole numbers, so no rounding enters the choice itself.
-/

namespace DurableWorkflow.Decimal

-- ============================================================= parts

/-- A positive finite float as `mantissa * 2 ^ exponent`; `narrow` says that
the gap to the next smaller float is half the gap to the next larger one. -/
structure Binary where
  mantissa : Nat
  exponent : Int
  narrow : Bool
deriving DecidableEq, Repr

/-- Reads the fields of the 64 bits of a float, whatever its sign. -/
def Binary.ofBits (bits : UInt64) : Binary :=
  let fraction := (bits &&& 0xFFFFFFFFFFFFF).toNat
  let biased := ((bits >>> 52) &&& 0x7FF).toNat
  if biased = 0 then ⟨fraction, -1074, false⟩
  else
    ⟨0x10000000000000 + fraction, (biased : Int) - 1075, fraction == 0 && decide (1 < biased)⟩

/-- Decimal digits `digits` with the point after `point` of them:
`0.digits * 10 ^ point`. -/
structure Digits where
  digits : List Char
  point : Int
deriving DecidableEq, Repr

-- ============================================================ choice

/-- Three positive rationals with one denominator: a number and the ends of the
interval that rounds to it. -/
structure Interval where
  low : Nat
  value : Nat
  high : Nat
  scale : Nat
  closed : Bool

/-- The interval of reals that round to a float, with a common denominator. -/
def Binary.interval (b : Binary) : Interval :=
  let (num, den) :=
    if b.exponent < 0 then (1, 1 <<< b.exponent.natAbs) else (1 <<< b.exponent.natAbs, 1)
  let below := if b.narrow then 1 else 2
  ⟨(4 * b.mantissa - below) * num, 4 * b.mantissa * num, (4 * b.mantissa + 2) * num,
    4 * den, b.mantissa % 2 == 0⟩

/-- The power of ten with the magnitude of an exponent. -/
def tenTo (p : Int) : Nat := Nat.pow 10 p.natAbs

/-- Whether `c * 10 ^ p` lies in the interval. -/
def Interval.holds (i : Interval) (c : Nat) (p : Int) : Bool :=
  let (x, s) := if p < 0 then (c * i.scale, tenTo p) else (c * i.scale * tenTo p, 1)
  if i.closed then decide (i.low * s ≤ x) && decide (x ≤ i.high * s)
  else decide (i.low * s < x) && decide (x < i.high * s)

/-- The multiple of `10 ^ p` at or below the value. -/
def Interval.floor (i : Interval) (p : Int) : Nat :=
  if p < 0 then i.value * tenTo p / i.scale else i.value / (i.scale * tenTo p)

/-- Whether the value is at least half way from `c` to `c + 1` on the grid of
`10 ^ p`; half way itself counts when `c` is odd. -/
def Interval.upperHalf (i : Interval) (c : Nat) (p : Int) : Bool :=
  let (v, s) := if p < 0 then (2 * i.value * tenTo p, i.scale)
    else (2 * i.value, i.scale * tenTo p)
  let half := (2 * c + 1) * s
  decide (half < v) || (decide (half = v) && c % 2 == 1)

/-- The point of the grid of `10 ^ p` that the interval holds, if any, the one
nearer to the value if it holds both neighbours. -/
def Interval.onGrid (i : Interval) (p : Int) : Option Nat :=
  let c := i.floor p
  match i.holds c p && decide (0 < c), i.holds (c + 1) p with
  | true, true => some (if i.upperHalf c p then c + 1 else c)
  | true, false => some c
  | false, true => some (c + 1)
  | false, false => none

/-- The number of decimal digits before the point: the least `k` with
`value < 10 ^ k`, searched upward from a guess that is not above it. -/
def Interval.width (i : Interval) : Nat → Int → Int
  | 0, k => k
  | fuel + 1, k =>
    let less := if k < 0 then decide (i.value * tenTo k < i.scale)
      else decide (i.value < i.scale * tenTo k)
    if less then k else i.width fuel (k + 1)

/-- Tries one digit, then two, and so on. -/
def Interval.shortest (i : Interval) (k : Int) : Nat → Nat → Nat × Int
  | 0, n => (i.floor (k - n), k - n)
  | more + 1, n =>
    match i.onGrid (k - n) with
    | some c => (c, k - n)
    | none => i.shortest k more (n + 1)

/-- The shortest digits of a positive finite float. -/
def shortest (bits : UInt64) : Digits :=
  let b := Binary.ofBits bits
  let i := b.interval
  let guess := ((Nat.log2 b.mantissa : Int) + b.exponent) * 30103 / 100000 - 1
  let (c, p) := i.shortest (i.width 4 guess) 17 1
  let text := (Nat.repr c).toList
  let kept := (text.reverse.dropWhile (· == '0')).reverse
  ⟨kept, (text.length : Int) + p⟩

end DurableWorkflow.Decimal
