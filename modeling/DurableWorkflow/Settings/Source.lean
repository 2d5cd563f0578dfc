/-
Settings from a TOML text in which `$\x7bNAME\x7d` stands for the value of an
environment variable. What was put in for a variable is not looked at again.

The path of the database may begin with `~/` for the home directory.
-/
import DurableWorkflow.Failure
import DurableWorkflow.Settings
import DurableWorkflow.Toml.Reader

namespace DurableWorkflow

/-- The environment: the values of variables by their names. -/
abbrev Environment := String → Option String

-- ========================================================== expansion

/-- What stands for a reference to a variable: its value, or the reference itself if
there is no such variable. -/
def Environment.resolve (env : Environment) (name : List Char) : List Char :=
  match env (String.ofList name) with
  | some v => v.toList
  | none => '$' :: '\x7b' :: (name ++ ['\x7d'])

/-- Puts in the values of variables. A reference that is not closed is taken to end
with the text, and is closed if there is no such variable. -/
def Environment.expand (env : Environment) : List Char → List Char
  | [] => []
  | '$' :: '\x7b' :: r =>
    env.resolve (r.takeWhile (· ≠ '\x7d'))
      ++ env.expand ((r.dropWhile (· ≠ '\x7d')).drop 1)
  | c :: r => c :: env.expand r
termination_by cs => cs.length
decreasing_by
  · have := (List.dropWhile_sublist (l := r) (· ≠ '\x7d')).length_le
    simp only [List.length_drop, List.length_cons]
    omega
  · simp

/-- The names of the variables that a text refers to. -/
def references : List Char → List String
  | [] => []
  | '$' :: '\x7b' :: r =>
    String.ofList (r.takeWhile (· ≠ '\x7d'))
      :: references ((r.dropWhile (· ≠ '\x7d')).drop 1)
  | _ :: r => references r
termination_by cs => cs.length
decreasing_by
  · have := (List.dropWhile_sublist (l := r) (· ≠ '\x7d')).length_le
    simp only [List.length_drop, List.length_cons]
    omega
  · simp

-- =========================================================== settings

namespace Settings

/-- Settings from a text. -/
def ofText (env : Environment) (text : String) : Except Failure Settings :=
  match Toml.read (String.ofList (env.expand text.toList)) with
  | none => .error (.settings "malformed text")
  | some v =>
    match Decoder.ofSettings decode v with
    | .ok s => .ok s
    | .error e => .error (.settings e.message)

/-- A path below a directory; a path from the root stays as it is. -/
def below (directory path : List Char) : List Char :=
  match path with
  | '/' :: _ => path
  | _ =>
    if directory.isEmpty ∨ directory.getLast? = some '/' then directory ++ path
    else directory ++ '/' :: path

/-- The path of the database. -/
def storePath (env : Environment) (s : Settings) : String :=
  match s.store.path.toList, env "HOME" with
  | '~' :: '/' :: rest, some home => String.ofList (below home.toList rest)
  | _, _ => s.store.path

end Settings

end DurableWorkflow
