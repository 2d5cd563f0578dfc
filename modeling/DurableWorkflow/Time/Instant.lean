/-
Instants to the nanosecond, as seconds since 1970 and nanoseconds of the second.
A leap second is the second before it with a thousand million nanoseconds more,
and only the last second of a minute can have one. Instants lie within a fixed
range of years, so adding a span of time may fail.
-/
import DurableWorkflow.Time.Calendar

namespace DurableWorkflow.Time

/-- The nanoseconds of a second. -/
def second : Nat := 1000000000

/-- An instant. -/
structure Instant where
  seconds : Int
  nanos : Nat
deriving DecidableEq, Repr, Inhabited

namespace Instant

-- ============================================================= range

/-- The beginning of 1970. -/
def epoch : Instant := ⟨0, 0⟩

/-- The first second of the earliest year. -/
def earliest : Int := (Date.number ⟨-262143, 1, 1⟩) * 86400

/-- The last second of the latest year. -/
def latest : Int := (Date.number ⟨262142, 12, 31⟩) * 86400 + 86399

/-- Whether seconds lie within the years of instants. -/
def inRange (seconds : Int) : Bool := decide (earliest ≤ seconds) && decide (seconds ≤ latest)

-- ========================================================== addition

/-- The instant that lies `secs` seconds and `frac` nanoseconds away, both of one
sign. From within a leap second the way out of it is one second long. -/
def shift (t : Instant) (secs frac : Int) : Option Instant :=
  let carry (s f : Int) : Option Instant :=
    let (s, f) :=
      if f < 0 then (s - 1, f + second)
      else if (second : Int) ≤ f then (s + 1, f - second)
      else (s, f)
    if inRange s then some ⟨s, f.toNat⟩ else none
  if second ≤ t.nanos then
    if 0 < secs ∨ (0 < frac ∧ 2 * second - frac ≤ t.nanos) then
      carry (t.seconds + secs) (t.nanos - second + frac)
    else if secs < 0 then carry (t.seconds + 1 + secs) (t.nanos - second + frac)
    else some ⟨t.seconds, (t.nanos + frac).toNat⟩
  else carry (t.seconds + secs) (t.nanos + frac)

/-- The instant that lies a number of nanoseconds away. -/
def addNanos (t : Instant) (n : Int) : Option Instant :=
  t.shift (n.tdiv second) (n.tmod second)

/-- The instant that lies a number of seconds away. -/
def addSeconds (t : Instant) (n : Int) : Option Instant := t.shift n 0

/-- The instant at the full microsecond at or before this one. -/
def truncate (t : Instant) : Instant := ⟨t.seconds, t.nanos / 1000 * 1000⟩

/-- Earlier or equal. -/
def le (a b : Instant) : Prop :=
  a.seconds < b.seconds ∨ (a.seconds = b.seconds ∧ a.nanos ≤ b.nanos)

end Instant

-- ============================================================= clock

/-- A clock that moves only when it is told to. Once it was moved out of the
range of instants it stands still for ever. -/
structure Clock where
  now : Instant
  stuck : Bool

namespace Clock

/-- A clock that shows an instant. -/
def starting (t : Instant) : Clock := ⟨t, false⟩

/-- Sets the clock. -/
def set (c : Clock) (t : Instant) : Clock := if c.stuck then c else ⟨t, false⟩

/-- Moves the clock by nanoseconds; `false` if that leads out of the range. -/
def advance (c : Clock) (nanos : Int) : Bool × Clock :=
  if c.stuck then (true, c)
  else match c.now.addNanos nanos with
    | some t => (true, ⟨t, false⟩)
    | none => (false, ⟨c.now, true⟩)

end Clock

end DurableWorkflow.Time
