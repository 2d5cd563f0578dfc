/-
When a failed action is tried again, and how long the engine waits before. The
wait doubles with each attempt up to a ceiling, and is scattered by a fifth to
either side.
-/
import DurableWorkflow.Graph.Node

namespace DurableWorkflow

/-- How often an action is tried again, and the bounds of the waits in seconds. -/
structure RetryPolicy where
  maxRetries : UInt32
  initialSeconds : UInt64
  maxSeconds : UInt64
deriving DecidableEq, Repr

namespace RetryPolicy

/-- The policy of a node under a ceiling for waits. -/
def ofNode (n : Node) (maxSeconds : UInt64) : RetryPolicy :=
  ⟨n.retryCount, n.retryDelaySeconds, maxSeconds⟩

/-- The largest number of 64 bits. -/
def largest : UInt64 := 0xFFFFFFFFFFFFFFFF

/-- A power of two, or the largest number if there is no room for it. -/
def factor (attempt : UInt32) : UInt64 :=
  if attempt < 64 then (1 : UInt64) <<< attempt.toUInt64 else largest

/-- A product, or the largest number if there is no room for it. -/
def saturatingMul (a b : UInt64) : UInt64 :=
  if a.toNat * b.toNat < 0x10000000000000000 then a * b else largest

/-- The wait before the next attempt, without the scattering. -/
def baseSeconds (p : RetryPolicy) (attempt : UInt32) : UInt64 :=
  min (saturatingMul p.initialSeconds (factor attempt)) p.maxSeconds

/-- The least and the greatest scattered wait, in percent of the wait. -/
def scatter (base : UInt64) : Nat × Nat := if base = 0 then (0, 0) else (80, 120)

end RetryPolicy

end DurableWorkflow
