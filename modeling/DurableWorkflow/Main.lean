/-
The program. It puts together what a session needs of the real disk, the environment
and the clock, lets the session run, and writes down what came of it. Each reading of
the clock within a session is a microsecond after the one before.

What shows in no answer and in no stored row is left out: messages for a log, the pause
before an action is tried again (only its length is known, `RetryPolicy`), and a second
caller at the same time. Ids are not drawn at random but taken from a supply. Tables are
kept on the disk as one JSON text (`Store.archive`), not in the pages of a database.
-/
import DurableWorkflow.CommandLine.Session
import DurableWorkflow.Engine.Seeded
import DurableWorkflow.Store.Archive
import Std.Time.DateTime.Timestamp

open DurableWorkflow
open DurableWorkflow.CommandLine
open DurableWorkflow.Time (Instant)

namespace DurableWorkflow.Program

/-- The variables with these names. -/
def environment (names : List String) : IO Environment := do
  let known ← names.filterMapM fun name => do
    return (← IO.getEnv name).map fun v => (name, v)
  return fun name => (known.find? fun e => e.1 = name).map (·.2)

/-- The path of a place. -/
def pathOf (place : List String) : String :=
  match place with
  | "/" :: names => "/" ++ String.intercalate "/" names
  | names => String.intercalate "/" names

/-- What is at a place of the real disk. -/
def look (keepsRows : Bool) (place : List String) : IO (Option DiskItem) := do
  try
    let text ← IO.FS.readFile (pathOf place)
    if keepsRows then
      match Store.ofArchive text with
      | .ok s => return some (.store s)
      | .error _ => return some (.text text)
    else return some (.text text)
  catch
    | .noFileOrDirectory _ _ _ => return none
    | .inappropriateType _ _ _ => return some .folder
    | _ => return none

/-- Takes what a path leads through, and to, from the real disk. -/
def load (keepsRows : Bool) (path : String) (d : Disk) : IO Disk := do
  let mut place := Disk.origin path
  let mut d := d
  let names := Disk.names path
  for (name, k) in names.zipIdx do
    place := Disk.step place name
    match ← look (keepsRows && k + 1 = names.length) place with
    | some i => d := d.put place i
    | none => pure ()
  return d

/-- The part of the real disk, and of the environment, that an invocation has to do
with. -/
def gather (i : Invocation) : IO (Disk × Environment) := do
  let d ← load false i.settings .empty
  let text := (d.read i.settings).toOption.getD ""
  let env ← environment ("HOME" :: "WEFT_DB" :: references text.toList)
  let d ← match i.command with
    | .createWorkflow (some path) _ _ => load false path d
    | _ => pure d
  match i.settings? env d with
  | .error _ => return (d, env)
  | .ok s => return (← load true (s.storePath env) d, env)

/-- Writes the databases of a disk to the real one. -/
def save (d : Disk) : IO Unit := do
  for (place, i) in d.items do
    match i with
    | .store s =>
      if 1 < place.length then IO.FS.createDirAll (pathOf place.dropLast)
      IO.FS.writeFile (pathOf place) s.archive
    | _ => pure ()

/-- The time on the clock. -/
def clock : IO Instant := do
  let span := (← Std.Time.Timestamp.now).toDurationSinceUnixEpoch
  return ⟨span.second.val, span.nano.val.toNat⟩

/-- A seed for ids. -/
def seed : IO Nat := do
  return (← IO.getRandomBytes 16).toList.foldl (fun n b => 256 * n + b.toNat) 0

/-- The engine with its own handlers. -/
def engine (ids : IdSupply) (settings : EngineSettings) : Engine Instant where
  registry := .standard
  now t := (t, (t.addNanos 1000).getD t)
  settings := settings
  ids := ids

end DurableWorkflow.Program

def main (args : List String) : IO UInt32 := do
  let env ← Program.environment ["WEFT_DB"]
  let (d, env) ← match Invocation.ofArguments env args with
    | .ok i => Program.gather i
    | .error _ => pure (.empty, env)
  let ids := IdSupply.ofSeed (← Program.seed)
  let now ← Program.clock
  let (reply, shell) := CommandLine.run (Program.engine ids) env args ⟨d, now, .none⟩
  Program.save shell.disk
  (← IO.getStdout).putStr reply.out
  (← IO.getStderr).putStr reply.err
  return reply.code.toUInt32
