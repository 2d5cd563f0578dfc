/-
What can be asked for on the command line, and how it is asked for.
-/
import DurableWorkflow.CommandLine.Arguments
import DurableWorkflow.Settings.Source

namespace DurableWorkflow.CommandLine

/-- Something to do. -/
inductive Command
  | showTemplate (name : String)
  | createWorkflow (file template name : Option String)
  | listWorkflows (status : Option WorkflowStatus) (tag : Option String) (limit : Option Nat)
  | showWorkflow (id : String)
  | activateWorkflow (id : String)
  | pauseWorkflow (id : String)
  | deleteWorkflow (id : String)
  | startRun (workflow : String) (trigger : Option String) (execute : Bool)
  | executeRun (id : String)
  | showRun (id : String)
  | listRuns (workflow : Option String) (status : Option RunStatus) (limit : Option Nat)
  | cancelRun (id : String)
  | resumeDue (execute : Bool)
  | showTrail (workflow run : Option String) (limit : Option Nat)
  | showStatistics (workflow : Option String)

/-- Something to do, the path of the settings, and the path of the database if it is
not the one of the settings. -/
structure Invocation where
  settings : String
  database : Option String
  command : Command

-- ============================================================= levels

/-- The options before the command, and the commands. -/
def firstLevel : Level where
  flags := [⟨"config", some 'c', .path⟩, .long "db" .text]
  operands := 0
  commands := ["workflow", "template", "run", "resume-due", "audit", "stats"]
  isFirst := true

/-- The commands about workflows. -/
def workflowLevel : Level :=
  ⟨[], 0, ["create", "list", "show", "activate", "pause", "delete"], false⟩

/-- The commands about runs. -/
def runLevel : Level := ⟨[], 0, ["start", "exec", "show", "list", "cancel"], false⟩

-- =========================================================== commands

/-- The one operand. -/
def operand (args : List String) : Except Stop String := do
  let g ← Level.leaf [] 1 args
  .ok (g.operands.headD "")

/-- A limit that was given. -/
def limit (g : Given) : Option Nat := (g.value? "limit").bind count?

/-- Reads what to do about workflows. -/
def Command.ofWorkflow (args : List String) : Except Stop Command := do
  let (_, name, rest) ← workflowLevel.branch args
  match name with
  | "create" =>
    let g ← Level.leaf [.long "file" .path, .long "template" .text, .long "name" .text] 0 rest
    if g.isOn "file" ∧ g.isOn "template" then .error .refused
    .ok (.createWorkflow (g.value? "file") (g.value? "template") (g.value? "name"))
  | "list" =>
    let g ← Level.leaf
      [.long "status" .workflowStatus, .long "tag" .text, .long "limit" .count] 0 rest
    let status := (g.value? "status").bind fun s => (WorkflowStatus.ofText s).toOption
    .ok (.listWorkflows status (g.value? "tag") (limit g))
  | "show" => return .showWorkflow (← operand rest)
  | "activate" => return .activateWorkflow (← operand rest)
  | "pause" => return .pauseWorkflow (← operand rest)
  | _ => return .deleteWorkflow (← operand rest)

/-- Reads what to do about runs. -/
def Command.ofRun (args : List String) : Except Stop Command := do
  let (_, name, rest) ← runLevel.branch args
  match name with
  | "start" =>
    let g ← Level.leaf [.long "trigger" .text, .long "exec" .switch] 1 rest
    .ok (.startRun (g.operands.headD "") (g.value? "trigger") (g.isOn "exec"))
  | "exec" => return .executeRun (← operand rest)
  | "show" => return .showRun (← operand rest)
  | "list" =>
    let g ← Level.leaf
      [.long "workflow" .text, .long "status" .runStatus, .long "limit" .count] 0 rest
    let status := (g.value? "status").bind fun s => (RunStatus.ofText s).toOption
    .ok (.listRuns (g.value? "workflow") status (limit g))
  | _ => return .cancelRun (← operand rest)

/-- Reads what to do. -/
def Command.ofName (name : String) (args : List String) : Except Stop Command :=
  match name with
  | "workflow" => ofWorkflow args
  | "template" => return .showTemplate (← operand args)
  | "run" => ofRun args
  | "resume-due" => return .resumeDue ((← Level.leaf [.long "exec" .switch] 0 args).isOn "exec")
  | "audit" => do
    let g ← Level.leaf
      [.long "workflow" .text, .long "run" .text, .long "limit" .count] 0 args
    .ok (.showTrail (g.value? "workflow") (g.value? "run") (limit g))
  | _ => return .showStatistics ((← Level.leaf [.long "workflow" .text] 0 args).value? "workflow")

namespace Invocation

/-- Where settings are looked for if nothing else is given. -/
def standardSettings : String := "weft.toml"

/-- Reads the arguments. The environment may name the database too. -/
def ofArguments (env : Environment) (args : List String) : Except Stop Invocation := do
  let (g, name, rest) ← firstLevel.branch args
  let c ← Command.ofName name rest
  .ok ⟨(g.value? "config").getD standardSettings, (g.value? "db").or (env "WEFT_DB"), c⟩

end Invocation

end DurableWorkflow.CommandLine
