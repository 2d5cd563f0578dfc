/-
The two actions that the engine performs itself: writing a message to the log, and
setting a variable of the context.
-/
import DurableWorkflow.Action.Handler
import DurableWorkflow.Action.Placeholder

namespace DurableWorkflow

namespace Action

/-- The variable that is set, and its value. -/
structure Assignment where
  name : String
  value : Value

/-- The message of a configuration. -/
def messageShape : Decoder.Shape String where
  title := "LogInput"
  fields := [.may "message" Decoder.string fun a _ => a]
  blank := ""

/-- The assignment of a configuration. -/
def assignmentShape : Decoder.Shape Assignment where
  title := "UpdateVarInput"
  fields := [
    .may "variable" Decoder.string fun a s => { s with name := a },
    .may "value" Decoder.value fun a s => { s with value := a }]
  blank := ⟨"", .null⟩

/-- The input of an action from its configuration. -/
def input {α : Type} (kind : ActionKind) (shape : Decoder.Shape α) (config : Dict Value) :
    Except Failure α :=
  match Decoder.ofValue (Decoder.record shape) (.object config) with
  | .ok a => .ok a
  | .error e => .error (.actionInput kind.name e.message)

/-- Writes a message, and answers with it. -/
def log (config : Dict Value) (context : Context) : Answer :=
  match input .log messageShape config with
  | .error e => ⟨.error e, context, 0⟩
  | .ok message =>
    ⟨.ok (.object [("logged", .string (Placeholder.fill message context))]), context, 0⟩

/-- Sets a variable, unless its name is empty, and answers with the name. -/
def updateVar (config : Dict Value) (context : Context) : Answer :=
  match input .updateVar assignmentShape config with
  | .error e => ⟨.error e, context, 0⟩
  | .ok a =>
    ⟨.ok (.object [("updated", .string a.name)]),
      if a.name = "" then context else context.insert a.name a.value, 0⟩

end Action

namespace Registry

variable {σ : Type}

/-- The handlers of the engine itself. -/
def standard : Registry σ := fun k =>
  match k with
  | .log => some fun config context world => (Action.log config context, world)
  | .updateVar => some fun config context world => (Action.updateVar config context, world)
  | _ => none

end Registry

end DurableWorkflow
