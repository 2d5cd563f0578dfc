/-
Reading a TOML text as a value. A text is a sequence of lines; a line has a header,
a key with its value, a comment, or nothing. Lists may run over several lines,
tables in braces may not. Keys of more than 79 parts are refused, and so are lists
and tables in braces that lie more than 79 deep.
-/
import DurableWorkflow.Toml.Scalar
import DurableWorkflow.Toml.Table

namespace DurableWorkflow.Toml

-- =============================================================== keys

/-- A character of a key without quotes. -/
def isBare (c : Char) : Bool := c.isAlphanum || c = '-' || c = '_'

/-- One part of a key. -/
def keyPart (cs : List Char) : Option (String × List Char) :=
  match cs with
  | '"' :: _ => shortString cs
  | '\'' :: _ => shortString cs
  | _ =>
    let name := cs.takeWhile isBare
    if name.isEmpty then none else some (String.ofList name, cs.drop name.length)

/-- The parts of a key with blanks around them. `fuel` bounds their number. -/
def keyParts : Nat → Scan (List String)
  | 0, _ => none
  | fuel + 1, cs => do
    let (part, cs) ← keyPart (skipBlanks cs)
    match skipBlanks cs with
    | '.' :: r =>
      let (parts, rest) ← keyParts fuel r
      return (part :: parts, rest)
    | rest => return ([part], rest)

/-- The most parts of a key, and the deepest nesting. -/
def limit : Nat := 79

/-- A key. -/
def key : Scan (List String) := keyParts limit

-- ============================================================= values

/-- A value that has no parts. -/
def scalar (cs : List Char) : Option (Value × List Char) :=
  match cs with
  | '"' :: _ => (string cs).map fun (s, rest) => (.string s, rest)
  | '\'' :: _ => (string cs).map fun (s, rest) => (.string s, rest)
  | 't' :: 'r' :: 'u' :: 'e' :: r => some (.bool true, r)
  | 'f' :: 'a' :: 'l' :: 's' :: 'e' :: r => some (.bool false, r)
  | _ => (moment cs).or (number cs)

mutual

/-- A value, nested at most `depth` deep. `fuel` bounds the number of steps. -/
def value : Nat → Nat → Scan Value
  | 0, _, _ => none
  | fuel + 1, depth, cs =>
    match cs, depth with
    | '[' :: _, 0 => none
    | '\x7b' :: _, 0 => none
    | '[' :: r, d + 1 => items fuel d [] r
    | '\x7b' :: r, d + 1 =>
      match skipBlanks r with
      | '\x7d' :: rest => some (.object [], rest)
      | r => pairs fuel d [] r
    | cs, _ => scalar cs

/-- The items of a list up to its closing bracket, after those that are there
already, the latest first. -/
def items : Nat → Nat → List Value → Scan Value
  | 0, _, _, _ => none
  | fuel + 1, depth, done, cs =>
    match skipLines false cs with
    | none => none
    | some (']' :: rest) => some (.array done.reverse, rest)
    | some cs =>
      match value fuel depth cs with
      | none => none
      | some (v, cs) =>
        match skipLines false cs with
        | some (',' :: r) => items fuel depth (v :: done) r
        | some (']' :: rest) => some (.array (v :: done).reverse, rest)
        | _ => none

/-- The entries of a table in braces up to the closing one, after those that are
there already. -/
def pairs : Nat → Nat → Dict Item → Scan Value
  | 0, _, _, _ => none
  | fuel + 1, depth, done, cs =>
    match key cs with
    | some (parts, '=' :: r) =>
      match value fuel depth (skipBlanks r) with
      | none => none
      | some (v, cs) =>
        match put v parts done, skipBlanks cs with
        | some done, ',' :: r => pairs fuel depth done r
        | some done, '\x7d' :: rest => some (.object (closeEntries done), rest)
        | _, _ => none
    | _ => none

end

-- ============================================================== lines

/-- The tables so far, and the path of the table that keys go to. -/
structure Progress where
  root : Dict Item
  path : List String

/-- Opens the table, or the row, that a header names. -/
def Progress.header (p : Progress) (parts : List String)
    (enter : String → Dict Item → Option (Dict Item)) : Option Progress := do
  let last ← parts.getLast?
  return ⟨← change (enter last) parts.dropLast p.root, parts⟩

/-- A line that begins with other than blanks. -/
def line (p : Progress) (cs : List Char) : Option (Progress × List Char) :=
  match cs with
  | '#' :: _ => (restOfLine cs).map fun rest => (p, rest)
  | '\n' :: r => some (p, r)
  | '\r' :: r => (expect '\n' r).map fun rest => (p, rest)
  | '[' :: '[' :: r => do
    let (parts, ']' :: ']' :: r) ← key r | none
    let rest ← restOfLine r
    return (← p.header parts openRow, rest)
  | '[' :: r => do
    let (parts, ']' :: r) ← key r | none
    let rest ← restOfLine r
    return (← p.header parts openTable, rest)
  | _ => do
    let (parts, '=' :: r) ← key cs | none
    let (v, r) ← value (2 * r.length + 2) limit (skipBlanks r)
    let rest ← restOfLine r
    return ({ p with root := ← change (put v parts) p.path p.root }, rest)

/-- Line after line. `fuel` bounds their number. -/
def lines : Nat → Progress → List Char → Option Progress
  | 0, _, _ => none
  | fuel + 1, p, cs =>
    match skipBlanks cs with
    | [] => some p
    | cs => do
      let (p, rest) ← line p cs
      lines fuel p rest

/-- The value of a TOML text; a mark for the order of bytes before it is skipped. -/
def read (s : String) : Option Value :=
  let cs := match s.toList with
    | '\ufeff' :: r => r
    | r => r
  (lines (cs.length + 1) ⟨[], []⟩ cs).map fun p => .object (closeEntries p.root)

end DurableWorkflow.Toml
