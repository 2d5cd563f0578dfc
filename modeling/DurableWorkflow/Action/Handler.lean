/-
Handlers perform actions. A handler gets the configuration of its node and the
context of the run; it answers with a value or a failure and may change the
context. What else it can see and change is the world, which is handed through.
A handler that takes longer than it is given has failed, but what it has done
until then stays done.
-/
import DurableWorkflow.Action.Kind
import DurableWorkflow.Condition

namespace DurableWorkflow

-- ========================================================== handlers

/-- What a handler answers: a value or a failure, the context it leaves behind,
and for how many seconds it was idle. -/
structure Answer where
  outcome : Except Failure Value
  context : Context
  idle : Nat

/-- A handler in a world. -/
abbrev Handler (σ : Type) := Dict Value → Context → σ → Answer × σ

/-- The handlers at hand, at most one for each kind. -/
abbrev Registry (σ : Type) := ActionKind → Option (Handler σ)

namespace Registry

variable {σ : Type}

/-- No handlers. -/
def empty : Registry σ := fun _ => none

/-- Sets the handler of a kind. -/
def register (r : Registry σ) (kind : ActionKind) (h : Handler σ) : Registry σ :=
  fun k => if k = kind then some h else r k

/-- Takes the handler of a kind away. -/
def unregister (r : Registry σ) (kind : ActionKind) : Registry σ :=
  fun k => if k = kind then none else r k

/-- The kinds that have a handler, in the order in which kinds are listed. -/
def kinds (r : Registry σ) : List ActionKind := ActionKind.all.filter fun k => (r k).isSome

/-- What a handler did within the seconds it was given. -/
def settle (kind : ActionKind) (seconds : UInt64) (a : Answer) : Except Failure Value :=
  if seconds.toNat < a.idle then .error (.actionTimeout kind.name seconds) else a.outcome

/-- Performs the action with a name. -/
def execute (r : Registry σ) (name : String) (config : Dict Value) (context : Context)
    (seconds : UInt64) (world : σ) : Except Failure Value × Context × σ :=
  match ActionKind.ofText name with
  | .error e => (.error e, context, world)
  | .ok kind =>
    match r kind with
    | none => (.error (.actionNotRegistered kind.name), context, world)
    | some h =>
      let (a, world) := h config context world
      (settle kind seconds a, a.context, world)

end Registry

end DurableWorkflow
