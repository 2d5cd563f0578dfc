/-
From arguments to what is written: settings are read, the database is opened, what
was asked for is done, and the answer is laid out as JSON. What goes wrong is
reported with its cause and the exit code 1; arguments that are refused have the exit
code 2.
-/
import DurableWorkflow.Action.Standard
import DurableWorkflow.Catalogue
import DurableWorkflow.CommandLine.Disk
import DurableWorkflow.CommandLine.Invocation
import DurableWorkflow.Engine.Definitions
import DurableWorkflow.Engine.Runs

namespace DurableWorkflow.CommandLine

-- ============================================================ answers

/-- What a command writes, and its exit code. -/
structure Reply where
  code : Nat
  out : String
  err : String
deriving DecidableEq, Repr

/-- What went wrong, with its cause. -/
structure Trouble where
  message : String
  cause : Option String

/-- What went wrong in the engine. -/
def Trouble.ofFailure (f : Failure) : Trouble := ⟨f.message, none⟩

/-- The lines of a cause, each behind four blanks; a last empty line does not
count. -/
def causeLines (cause : String) : List (List Char) :=
  let lines := Text.splitAt '\n' cause.toList
  let ended := lines.dropLast.map fun l => if l.getLast? = some '\r' then l.dropLast else l
  match lines.getLast? with
  | some (c :: r) => ended ++ [c :: r]
  | _ => ended

/-- The report on what went wrong. -/
def Trouble.text (t : Trouble) : String :=
  let cause := match t.cause with
    | none => ""
    | some c =>
      "\nCaused by:\n"
        ++ String.join ((causeLines c).map fun l => "    " ++ String.ofList l ++ "\n")
  "Error: " ++ t.message ++ "\n" ++ cause

/-- The reply to what went well or did not. -/
def Reply.of : Except Trouble Value → Reply
  | .ok v => ⟨0, v.pretty ++ "\n", ""⟩
  | .error t => ⟨1, "", t.text⟩

/-- The name and the version of the program. -/
def versionText : String := "weft 0.3.1\n"

/-- How the program is used. -/
def helpText : String :=
  "Persisted workflow automation engine\n\n" ++
  "Usage: weft [OPTIONS] <COMMAND>\n\n" ++
  "Commands: workflow, template, run, resume-due, audit, stats, help\n" ++
  "Options: -c, --config <CONFIG>; --db <DB>; -h, --help; -V, --version\n"

/-- The reply to arguments that ask for nothing to be done. -/
def Reply.ofStop : Stop → Reply
  | .refused => ⟨2, "", "error: invalid arguments\n\nFor more information, try '--help'.\n"⟩
  | .version => ⟨0, versionText, ""⟩
  | .help => ⟨0, helpText, ""⟩

-- =========================================================== commands

variable {σ : Type}

/-- What the program works on. -/
structure Shell (σ : Type) where
  disk : Disk
  world : σ
  issued : Issued

/-- The answer of the engine as a value. -/
def answer {α : Type} (r : Except Failure α) (encode : α → Value) : Except Trouble Value :=
  match r with
  | .ok a => .ok (encode a)
  | .error f => .error (.ofFailure f)

/-- The answer to a question that may have no answer. -/
def found {α : Type} (r : Except Failure (Option α)) (missing : Failure) (encode : α → Value) :
    Except Trouble Value :=
  match r with
  | .ok (some a) => .ok (encode a)
  | .ok none => .error (.ofFailure missing)
  | .error f => .error (.ofFailure f)

/-- The answer that tells whether something was changed. -/
def changed (name : String) (r : Except Failure Bool) : Except Trouble Value :=
  answer r fun b => .object [(name, .bool b)]

/-- The blueprint from a file or a template. -/
def blueprint (d : Disk) (file template : Option String) : Except Trouble Blueprint :=
  match file, template with
  | some path, _ =>
    match d.read path with
    | .error f => .error ⟨"Failed to read " ++ path, some f.message⟩
    | .ok text =>
      match Decoder.ofText Blueprint.decode text with
      | .error e => .error ⟨"Invalid workflow JSON in " ++ path, some e.message⟩
      | .ok b => .ok b
  | none, some name =>
    match Catalogue.find? name with
    | some b => .ok b
    | none => .error ⟨"Unknown template '" ++ name ++ "'", none⟩
  | none, none => .error ⟨"Pass --file <path> or --template <name>", none⟩

/-- The payload that a run is started with. -/
def payload (trigger : Option String) : Except Trouble Value :=
  match trigger with
  | none => .ok .null
  | some raw =>
    match Decoder.ofText Decoder.value raw with
    | .ok v => .ok v
    | .error e => .error ⟨"Invalid --trigger JSON", some e.message⟩

/-- Starts a run, and executes it if that is wanted. -/
def start (e : Engine σ) (workflow : String) (trigger : Option String) (execute : Bool)
    (s : EngineState σ) : Except Trouble Value × EngineState σ :=
  match payload trigger with
  | .error t => (.error t, s)
  | .ok v =>
    match e.startRun workflow v s with
    | (.error f, s) => (.error (.ofFailure f), s)
    | (.ok none, s) =>
      (.ok (.object [
        ("reason", .string "workflow missing, inactive, or over its hourly run limit"),
        ("run_id", .null)]), s)
    | (.ok (some id), s) =>
      if execute then
        let (r, s) := e.executeRun id s
        (answer r Report.encode, s)
      else (.ok (.object [("run_id", .string id)]), s)

/-- Executes runs one by one; a run that cannot be executed is reported as such. -/
def executeAll (e : Engine σ) : List String → EngineState σ → List Value × EngineState σ
  | [], s => ([], s)
  | id :: ids, s =>
    let (r, s) := e.executeRun id s
    let v := match r with
      | .ok report => report.encode.sorted
      | .error f => .object [("error", .string f.message), ("run_id", .string id)]
    let (vs, s) := executeAll e ids s
    (v :: vs, s)

/-- Lets runs go on whose time has come, and executes them if that is wanted. -/
def resume (e : Engine σ) (execute : Bool) (s : EngineState σ) :
    Except Trouble Value × EngineState σ :=
  match e.resumeDueRuns s with
  | (.error f, s) => (.error (.ofFailure f), s)
  | (.ok ids, s) =>
    if execute then
      let (vs, s) := executeAll e ids s
      (.ok (.array vs), s)
    else (.ok (.ofTexts ids), s)

/-- Shows a template, for which nothing has to be opened. -/
def template (name : String) : Except Trouble Value :=
  match Catalogue.find? name with
  | some b => .ok b.encode
  | none =>
    .error ⟨"Unknown template '" ++ name ++ "' (expected one of: "
      ++ String.intercalate ", " Catalogue.names ++ ")", none⟩

/-- Does what was asked for. -/
def perform (e : Engine σ) (d : Disk) (c : Command) (s : EngineState σ) :
    Except Trouble Value × EngineState σ :=
  match c with
  | .showTemplate name => (template name, s)
  | .createWorkflow file template name =>
    match blueprint d file template with
    | .error t => (.error t, s)
    | .ok b =>
      let (r, s) := e.createWorkflow { b with name := name.getD b.name } s
      (answer r Workflow.encode, s)
  | .listWorkflows status tag limit =>
    (answer (e.listWorkflows status tag limit s) fun ws => .array (ws.map Workflow.encode), s)
  | .showWorkflow id =>
    (found (Engine.workflow? id s) (.workflowNotFound id) Workflow.encode, s)
  | .activateWorkflow id =>
    let (r, s) := e.activateWorkflow id s
    (changed "activated" r, s)
  | .pauseWorkflow id =>
    let (r, s) := e.pauseWorkflow id s
    (changed "paused" r, s)
  | .deleteWorkflow id =>
    let (b, s) := Engine.deleteWorkflow id s
    (changed "deleted" (.ok b), s)
  | .startRun workflow trigger execute => start e workflow trigger execute s
  | .executeRun id =>
    let (r, s) := e.executeRun id s
    (answer r Report.encode, s)
  | .showRun id => (found (Engine.run? id s) (.runNotFound id) Run.encode, s)
  | .listRuns workflow status limit =>
    (answer (e.listRuns workflow status limit s) fun rs => .array (rs.map Run.encode), s)
  | .cancelRun id =>
    let (r, s) := e.cancelRun id s
    (changed "cancelled" r, s)
  | .resumeDue execute => resume e execute s
  | .showTrail workflow run limit =>
    (.ok (.array ((e.entries workflow run limit s).map Entry.encode)), s)
  | .showStatistics workflow => (.ok (Engine.statistics workflow s).encode, s)

-- =========================================================== sessions

/-- The settings of an invocation. Without a file there are the standard ones. -/
def Invocation.settings? (i : Invocation) (env : Environment) (d : Disk) :
    Except Failure Settings := do
  let s ←
    if d.has i.settings then
      match d.read i.settings with
      | .ok text => Settings.ofText env text
      | .error _ => .error (.settingsNotFound i.settings)
    else .ok .standard
  .ok (match i.database with
    | some path => { s with store := ⟨path⟩ }
    | none => s)

/-- Does what was asked for on a database, and keeps its rows. -/
def Invocation.session (i : Invocation) (engine : EngineSettings → Engine σ)
    (env : Environment) (s : Shell σ) : Reply × Shell σ :=
  match i.settings? env s.disk with
  | .error f => (.of (.error (.ofFailure f)), s)
  | .ok settings =>
    match s.disk.openStore (settings.storePath env) with
    | (.error f, disk) => (.of (.error (.ofFailure (.database f))), { s with disk := disk })
    | (.ok (store, place), disk) =>
      let (r, state) :=
        perform (engine settings.engine) disk i.command ⟨store, s.world, s.issued⟩
      (.of r, ⟨disk.keep place state.store, state.world, state.issued⟩)

/-- What the program does with its arguments. -/
def run (engine : EngineSettings → Engine σ) (env : Environment) (args : List String)
    (s : Shell σ) : Reply × Shell σ :=
  match Invocation.ofArguments env args with
  | .error stop => (.ofStop stop, s)
  | .ok i =>
    match i.command with
    | .showTemplate name => (.of (template name), s)
    | _ => i.session engine env s

end DurableWorkflow.CommandLine
