/-
Why an operation of the engine fails. A failure is a cause with its particulars;
its wording is a function of it.
-/
import DurableWorkflow.Json.Decoder

namespace DurableWorkflow

-- ============================================================= store

/-- Why the store refuses an operation. -/
inductive StoreFault
  | missingValue (table column : String)
  | notUnique (table column : String)
  | wrongClass (stored : String) (index : Nat) (column : String)
  | patternTooComplex
  | frozen
  | cannotOpen (path : String)
  | noDirectory (reason : String)
  | other (reason : String)
deriving DecidableEq, Repr

def StoreFault.message : StoreFault → String
  | .missingValue table column => "NOT NULL constraint failed: " ++ table ++ "." ++ column
  | .notUnique table column => "UNIQUE constraint failed: " ++ table ++ "." ++ column
  | .wrongClass stored index column =>
    "Invalid column type " ++ stored ++ " at index: " ++ toString index ++ ", name: " ++ column
  | .patternTooComplex => "LIKE or GLOB pattern too complex"
  | .frozen => "runs are frozen"
  | .cannotOpen path => "unable to open database file: " ++ path
  | .noDirectory reason => "Failed to create db directory: " ++ reason
  | .other reason => reason

-- ========================================================== failures

/-- Why an operation fails. -/
inductive Failure
  | workflowNotFound (id : String)
  | runNotFound (id : String)
  | runNotExecutable (id status : String)
  | invalidWorkflow (reason : String)
  | nodeConfig (node reason : String)
  | unknownAction (name : String)
  | actionNotRegistered (action : String)
  | actionInput (action reason : String)
  | actionFailed (action reason : String)
  | actionTimeout (action : String) (seconds : UInt64)
  | corruptRecord (id field : String)
  | database (fault : StoreFault)
  | settings (reason : String)
  | settingsNotFound (path : String)
  | io (reason : String)
  | json (error : DecodeError)
  | outOfTime

namespace Failure

def message : Failure → String
  | .workflowNotFound id => "Workflow not found: " ++ id
  | .runNotFound id => "Run not found: " ++ id
  | .runNotExecutable id status => "Run " ++ id ++ " is not executable (status: " ++ status ++ ")"
  | .invalidWorkflow reason => "Invalid workflow: " ++ reason
  | .nodeConfig node reason => "Invalid config for node " ++ node ++ ": " ++ reason
  | .unknownAction name => "Unknown action type: " ++ name
  | .actionNotRegistered action => "No handler registered for action: " ++ action
  | .actionInput action reason =>
    "Action input validation failed: " ++ action ++ ": " ++ reason
  | .actionFailed action reason => "Action failed: " ++ action ++ ": " ++ reason
  | .actionTimeout action seconds =>
    "Action timeout after " ++ toString seconds.toNat ++ "s: " ++ action
  | .corruptRecord id field => "Corrupt " ++ field ++ " on record " ++ id
  | .database fault => "Database error: " ++ fault.message
  | .settings reason => "Config error: " ++ reason
  | .settingsNotFound path => "Config file not found: " ++ path
  | .io reason => "I/O error: " ++ reason
  | .json error => "JSON error: " ++ error.message
  | .outOfTime => "The time is out of range"

/-- Whether another attempt could end differently. A name that means nothing,
input that is refused and a bad node fail in the same way every time. -/
def isTransient : Failure → Bool
  | .actionFailed _ _ => true
  | .actionTimeout _ _ => true
  | .io _ => true
  | _ => false

end Failure

end DurableWorkflow
