/-
Folders, texts and databases, as far as the command line has to do with them. A path
leads from folder to folder; a path that does not begin at the root begins at the
working folder.

A database is made where there is none, with the folders that lead to it. An empty
text is a database without rows. The database without a path, and the one in memory,
are gone after use.
-/
import DurableWorkflow.Store.Tables

namespace DurableWorkflow

/-- What is found at a path. -/
inductive DiskItem
  | folder
  | text (s : String)
  | store (s : Store)

/-- What is where; a place is the list of the names that lead to it. -/
structure Disk where
  items : List (List String × DiskItem)

/-- Why a path leads nowhere, or not to what is wanted. -/
inductive PathFault
  | missing
  | taken
  | notFolder
  | isFolder
  | notText
deriving DecidableEq, Repr

def PathFault.message : PathFault → String
  | .missing => "No such file or directory (os error 2)"
  | .taken => "File exists (os error 17)"
  | .notFolder => "Not a directory (os error 20)"
  | .isFolder => "Is a directory (os error 21)"
  | .notText => "stream did not contain valid UTF-8"

namespace Disk

-- ============================================================== paths

/-- A disk with nothing on it. -/
def empty : Disk := ⟨[]⟩

/-- The names in a path. -/
def names (path : String) : List String :=
  ((Text.splitAt '/' path.toList).map String.ofList).filter fun n => n ≠ "" ∧ n ≠ "."

/-- The place where a path begins: the root, or the working folder. -/
def origin (path : String) : List String :=
  match path.toList with
  | '/' :: _ => ["/"]
  | _ => []

/-- The place that a name leads to. -/
def step (place : List String) (name : String) : List String :=
  if name = ".." then
    match place.getLast? with
    | none => [".."]
    | some "/" => place
    | some ".." => place ++ [".."]
    | some _ => place.dropLast
  else place ++ [name]

/-- What is at a place. The root, the working folder and the folders above it are
folders. -/
def find? (d : Disk) (place : List String) : Option DiskItem :=
  if place = ["/"] ∨ place.all (· = "..") then some .folder
  else (d.items.find? fun i => i.1 = place).map (·.2)

/-- Puts something at a place. -/
def put (d : Disk) (place : List String) (i : DiskItem) : Disk :=
  ⟨(place, i) :: d.items.filter fun j => j.1 ≠ place⟩

/-- Follows names from a folder on. -/
def follow (d : Disk) (place : List String) : List String → Except PathFault (List String)
  | [] => .ok place
  | name :: rest =>
    match d.find? place with
    | none => .error .missing
    | some .folder => d.follow (step place name) rest
    | some _ => .error .notFolder

/-- What a path leads to. -/
def item (d : Disk) (path : String) : Except PathFault DiskItem := do
  if path.isEmpty then .error .missing
  let place ← d.follow (origin path) (names path)
  let some i := d.find? place | .error .missing
  match i, path.toList.getLast? with
  | .folder, _ => .ok i
  | _, some '/' => .error .notFolder
  | _, _ => .ok i

/-- Whether a path leads to something. -/
def has (d : Disk) (path : String) : Bool := (d.item path).toOption.isSome

/-- The text at a path. -/
def read (d : Disk) (path : String) : Except PathFault String :=
  match d.item path with
  | .error f => .error f
  | .ok (.text s) => .ok s
  | .ok .folder => .error .isFolder
  | .ok (.store _) => .error .notText

-- ============================================================ folders

/-- Makes the folders that names lead through, where there are none. -/
def makeFolders (d : Disk) (place : List String) : List String → Except PathFault Disk
  | [] => .ok d
  | name :: rest =>
    let next := step place name
    match d.find? next with
    | none => (d.put next .folder).makeFolders next rest
    | some .folder => d.makeFolders next rest
    | some _ => .error (if rest.isEmpty then .taken else .notFolder)

-- ========================================================== databases

/-- Paths of databases that are gone after use. -/
def isPassing (path : String) : Bool := path = "" || path = ":memory:"

/-- Opens the database at a path: its rows, the place where to keep them, and the
disk with the folders that were made. -/
def openStore (d : Disk) (path : String) :
    Except StoreFault (Store × Option (List String)) × Disk :=
  if isPassing path then (.ok (.empty, none), d)
  else
    let start := origin path
    match d.makeFolders start (names path).dropLast with
    | .error f => (.error (.noDirectory f.message), d)
    | .ok d =>
      let place := (names path).foldl step start
      match d.find? place with
      | none => (.ok (.empty, some place), d.put place (.store .empty))
      | some (.store s) => (.ok (s, some place), d)
      | some (.text "") => (.ok (.empty, some place), d.put place (.store .empty))
      | some (.text _) => (.error (.other "file is not a database"), d)
      | some .folder => (.error (.cannotOpen path), d)

/-- Keeps the rows of a database. -/
def keep (d : Disk) (place : Option (List String)) (s : Store) : Disk :=
  match place with
  | none => d
  | some p => d.put p (.store s)

end Disk

end DurableWorkflow
