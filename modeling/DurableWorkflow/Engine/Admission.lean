/-
How many runs of a workflow may be started: fewer than its limit in the hour before
now. A run counts by the time at which it was started, whatever became of it.
-/
import DurableWorkflow.Store.Tables

namespace DurableWorkflow.Store

open Time (Instant)

/-- The seconds of an hour. -/
def hour : Int := 3600

/-- Whether another run of a workflow may be started now. -/
def admits (s : Store) (workflow : String) (limit : UInt32) (now : Instant) :
    Except Failure Bool :=
  match now.addSeconds (-hour) with
  | none => .error .outOfTime
  | some since => .ok (decide (s.countSince workflow since < limit.toNat))

end DurableWorkflow.Store
