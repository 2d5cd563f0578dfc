/-
Arguments of a command line at one level: options, operands, and the name of a
command, with which the next level begins. An option has a long name and may have a
short one; its value follows it, or is attached to it. Each option is given at most
once. A value that begins with a hyphen has to be attached. After `--` everything is
an operand.
-/
import DurableWorkflow.Run

namespace DurableWorkflow.CommandLine

-- ============================================================ options

/-- What the value of an option may be; a switch has none. -/
inductive Kind
  | switch
  | text
  | path
  | count
  | workflowStatus
  | runStatus
deriving DecidableEq, Repr

/-- A count of at most 64 bits, which may have a plus sign. -/
def count? (s : String) : Option Nat :=
  let ds := match s.toList with
    | '+' :: r => r
    | r => r
  let n := Decimal.ofDigits ds
  if !ds.isEmpty && ds.all Decimal.isDigit && n < 0x10000000000000000 then some n else none

/-- Whether a value is of a kind. -/
def Kind.accepts : Kind → String → Bool
  | .switch, v => v.isEmpty
  | .text, _ => true
  | .path, v => !v.isEmpty
  | .count, v => (count? v).isSome
  | .workflowStatus, v => (WorkflowStatus.ofText v).toOption.isSome
  | .runStatus, v => (RunStatus.ofText v).toOption.isSome

/-- An option. -/
structure Flag where
  name : String
  short : Option Char
  kind : Kind
deriving DecidableEq, Repr

/-- An option without a short name. -/
def Flag.long (name : String) (kind : Kind) : Flag := ⟨name, none, kind⟩

/-- What may be given at a level: options, a number of operands, and the commands
below; only the first level tells the version. -/
structure Level where
  flags : List Flag
  operands : Nat
  commands : List String
  isFirst : Bool

-- ============================================================ reading

/-- Why reading ends early: the arguments are refused, or something is asked for
that makes the rest of them pointless. -/
inductive Stop
  | refused
  | version
  | help
deriving DecidableEq, Repr

/-- The values of options, and the operands. -/
structure Given where
  values : Dict String
  operands : List String

namespace Given

/-- Nothing was given. -/
def none : Given := ⟨[], []⟩

/-- Gives an option its value. -/
def set (g : Given) (f : Flag) (value : String) : Except Stop Given :=
  if g.values.has f.name || !f.kind.accepts value then .error .refused
  else .ok { g with values := g.values.insert f.name value }

/-- Adds an operand. -/
def add (g : Given) (l : Level) (operand : String) : Except Stop Given :=
  if g.operands.length < l.operands then .ok { g with operands := g.operands ++ [operand] }
  else .error .refused

/-- The value of an option. -/
def value? (g : Given) (name : String) : Option String := g.values.find? name

/-- Whether a switch was given. -/
def isOn (g : Given) (name : String) : Bool := g.values.has name

end Given

/-- An argument, apart from where it stands. -/
inductive Shape
  | divider
  | long (name : String) (value : Option String)
  | short (letter : Char) (rest : List Char)
  | plain

/-- What an argument looks like. -/
def Shape.of (argument : String) : Shape :=
  match argument.toList with
  | ['-', '-'] => .divider
  | '-' :: '-' :: r =>
    let name := r.takeWhile (· ≠ '=')
    .long (String.ofList name)
      (match r.drop name.length with
      | [] => none
      | _ :: value => some (String.ofList value))
  | '-' :: c :: r => .short c r
  | _ => .plain

/-- Takes an option; the option is left open if its value is to follow. -/
def take (l : Level) (g : Given) : Shape → Except Stop (Given × Option Flag)
  | .long name value =>
    match l.flags.find? (fun f => f.name = name), value with
    | some f, some v =>
      if f.kind = .switch then .error .refused else return (← g.set f v, none)
    | some f, none =>
      if f.kind = .switch then return (← g.set f "", none) else .ok (g, some f)
    | none, none =>
      if name = "version" ∧ l.isFirst then .error .version
      else if name = "help" then .error .help
      else .error .refused
    | none, some _ => .error .refused
  | .short letter rest =>
    match l.flags.find? (fun f => f.short = some letter), rest with
    | some f, [] => .ok (g, some f)
    | some f, '=' :: v => return (← g.set f (String.ofList v), none)
    | some f, v => return (← g.set f (String.ofList v), none)
    | none, _ =>
      if letter = 'V' ∧ l.isFirst then .error .version
      else if letter = 'h' then .error .help
      else .error .refused
  | _ => .error .refused

/-- Reads the arguments of a level: what was given, and the command with the
arguments after it. `pending` is an option whose value is to follow; after the
divider everything is an operand. -/
def scan (l : Level) (pending : Option Flag) (divided : Bool) (g : Given) :
    List String → Except Stop (Given × Option (String × List String))
  | [] => if pending.isSome then .error .refused else .ok (g, none)
  | a :: rest =>
    if divided then do scan l none true (← g.add l a) rest
    else match pending, Shape.of a with
      | some f, .plain => do scan l none false (← g.set f a) rest
      | some _, _ => .error .refused
      | none, .divider => scan l none true g rest
      | none, .plain =>
        if l.commands.contains a then .ok (g, some (a, rest))
        else if a = "help" ∧ !l.commands.isEmpty then .error .help
        else do scan l none false (← g.add l a) rest
      | none, shape => do
        let (g, pending) ← take l g shape
        scan l pending false g rest

/-- Reads the arguments of a level that has commands. -/
def Level.branch (l : Level) (args : List String) :
    Except Stop (Given × String × List String) := do
  let (g, some (name, rest)) ← scan l none false .none args | .error .refused
  .ok (g, name, rest)

/-- Reads the arguments of a level that has no commands; no operand may be
missing. -/
def Level.leaf (flags : List Flag) (operands : Nat) (args : List String) : Except Stop Given := do
  let (g, _) ← scan ⟨flags, operands, [], false⟩ none false .none args
  if g.operands.length = operands then .ok g else .error .refused

end DurableWorkflow.CommandLine
