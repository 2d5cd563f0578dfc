/-
The tables of a TOML text while they are being filled. A table is made by its own
header, as part of the path of another header, or as part of a dotted key. Each
table gets its own header at most once; a table that dotted keys have made gets
none, and dotted keys may go only through tables that have no header.

A header in double brackets adds a row to a list of tables. A path that leads
through such a list leads through its latest row.
-/
import DurableWorkflow.Json.Value

namespace DurableWorkflow.Toml

/-- How a table came to be. -/
inductive Made
  | byHeader
  | byPath
  | byDots
deriving DecidableEq, Repr

/-- What a key stands for: a finished value, a table, or a list of tables with the
latest row apart. -/
inductive Item
  | value (v : Value)
  | table (made : Made) (entries : List (String × Item))
  | tables (latest : List (String × Item)) (earlier : List (List (String × Item)))

-- ============================================================ filling

/-- Puts a value at a dotted key in a table. Every key gets a value at most once. -/
def put (v : Value) : List String → Dict Item → Option (Dict Item)
  | [], _ => none
  | [key], es => if Dict.has es key then none else some (Dict.insert es key (.value v))
  | key :: k :: ks, es =>
    match Dict.find? es key with
    | none => return Dict.insert es key (.table .byDots (← put v (k :: ks) []))
    | some (.table .byDots inner) =>
      return Dict.insert es key (.table .byDots (← put v (k :: ks) inner))
    | some (.table .byPath inner) =>
      if ks.isEmpty then none
      else return Dict.insert es key (.table .byPath (← put v (k :: ks) inner))
    | some (.table .byHeader _) => none
    | some (.tables latest earlier) =>
      if ks.isEmpty then none
      else return Dict.insert es key (.tables (← put v (k :: ks) latest) earlier)
    | some (.value _) => none

-- ============================================================ headers

/-- Changes the table at a path. -/
def change (f : Dict Item → Option (Dict Item)) : List String → Dict Item → Option (Dict Item)
  | [], es => f es
  | key :: ks, es =>
    match Dict.find? es key with
    | none => return Dict.insert es key (.table .byPath (← change f ks []))
    | some (.table made inner) => return Dict.insert es key (.table made (← change f ks inner))
    | some (.tables latest earlier) =>
      return Dict.insert es key (.tables (← change f ks latest) earlier)
    | some (.value _) => none

/-- Gives a table its header. -/
def openTable (key : String) (es : Dict Item) : Option (Dict Item) :=
  match Dict.find? es key with
  | none => some (Dict.insert es key (.table .byHeader []))
  | some (.table .byPath inner) => some (Dict.insert es key (.table .byHeader inner))
  | some _ => none

/-- Adds a row to a list of tables. -/
def openRow (key : String) (es : Dict Item) : Option (Dict Item) :=
  match Dict.find? es key with
  | none => some (Dict.insert es key (.tables [] []))
  | some (.tables latest earlier) => some (Dict.insert es key (.tables [] (latest :: earlier)))
  | some _ => none

-- ============================================================= values

mutual

/-- What an item stands for once everything was read. -/
def Item.close : Item → Value
  | .value v => v
  | .table _ es => .object (closeEntries es)
  | .tables latest earlier => .array (closeRows earlier [.object (closeEntries latest)])

/-- The entries of a table as members of an object. -/
def closeEntries : List (String × Item) → List (String × Value)
  | [] => []
  | (k, i) :: es => (k, i.close) :: closeEntries es

/-- Rows before others, the latest of them first. -/
def closeRows : List (List (String × Item)) → List Value → List Value
  | [], vs => vs
  | r :: rs, vs => closeRows rs (.object (closeEntries r) :: vs)

end

end DurableWorkflow.Toml
