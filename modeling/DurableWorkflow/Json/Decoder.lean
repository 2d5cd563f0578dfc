/-
Typed data from a document. A record is read from an object by the names of its
fields, in the order in which the members stand in the document, or from a list
by position. Members with other names are skipped. A choice is read from its
name, or from an object whose one member has that name and `null`.

An objection to a text carries the place where it was noticed: after a scalar,
before a list or an object of the wrong type, and after the closing bracket of a
record that lacks something.
-/
import DurableWorkflow.Json.Reader
import DurableWorkflow.Text.Quoted

namespace DurableWorkflow

-- ========================================================== messages

/-- What was found, in words. -/
def Found.text : Found → String
  | .nothing => "null"
  | .bool b => "boolean `" ++ (if b then "true" else "false") ++ "`"
  | .int n => "integer `" ++ String.ofList (Value.digits n) ++ "`"
  | .real x => "floating point `" ++ String.ofList (Value.floatText x) ++ "`"
  | .string s => "string " ++ Text.quoted s
  | .sequence => "sequence"
  | .mapping => "map"

/-- The names to choose from, in words. -/
def alternatives : List String → String
  | [] => "there are no variants"
  | [a] => "expected `" ++ a ++ "`"
  | [a, b] => "expected `" ++ a ++ "` or `" ++ b ++ "`"
  | names => "expected one of " ++ String.intercalate ", " (names.map fun n => "`" ++ n ++ "`")

def Cause.message : Cause → String
  | .malformed c => c.message
  | .wrongType found expected => "invalid type: " ++ found.text ++ ", expected " ++ expected
  | .wrongValue found expected => "invalid value: " ++ found.text ++ ", expected " ++ expected
  | .wrongLength n expected => "invalid length " ++ toString n ++ ", expected " ++ expected
  | .missingField name => "missing field `" ++ name ++ "`"
  | .duplicateField name => "duplicate field `" ++ name ++ "`"
  | .unknownVariant name known => "unknown variant `" ++ name ++ "`, " ++ alternatives known
  | .rejected reason => reason

def Cause.category : Cause → Category
  | .malformed c => c.category
  | _ => .data

/-- Why typed data could not be had, and where that was noticed in the text. -/
structure DecodeError where
  cause : Cause
  position : Option Position

def DecodeError.message (e : DecodeError) : String :=
  match e.position with
  | none => e.cause.message
  | some p =>
    e.cause.message ++ " at line " ++ toString p.line ++ " column " ++ toString p.column

-- ========================================================== decoders

/-- Reads typed data from a document. -/
abbrev Decoder (α : Type) := Document → Except Fault α

namespace Document

/-- The place after a scalar of a text. -/
def Span.after (s : Span) : Option Place :=
  match s.origin with
  | .text => some (.before s.stop)
  | _ => none

/-- The place before a list or an object of a text. -/
def Span.before (s : Span) : Option Place :=
  match s.origin with
  | .text => some (.before s.start)
  | _ => none

/-- The objection to a document of the wrong type; a fault of the text comes
first. -/
def mismatch (expected : String) : Document → Fault
  | .null s => ⟨.wrongType .nothing expected, Span.after s⟩
  | .bool s b => ⟨.wrongType (.bool b) expected, Span.after s⟩
  | .int s n => ⟨.wrongType (.int n) expected, Span.after s⟩
  | .real s x => ⟨.wrongType (.real x) expected, Span.after s⟩
  | .string s t => ⟨.wrongType (.string t) expected, Span.after s⟩
  | .array s _ _ => ⟨.wrongType .sequence expected, Span.before s⟩
  | .object s _ _ => ⟨.wrongType .mapping expected, Span.before s⟩
  | .broken _ f _ => f
  | .absent f => f

/-- Where a document begins, for one that does. -/
def start? : Document → Option (List Char)
  | .null s => some s.start
  | .bool s _ => some s.start
  | .int s _ => some s.start
  | .real s _ => some s.start
  | .string s _ => some s.start
  | .array s _ _ => some s.start
  | .object s _ _ => some s.start
  | .broken start _ _ => some start
  | .absent _ => none

end Document

namespace Decoder

variable {α : Type}

/-- Any value. -/
def value : Decoder Value := Document.value

/-- A text. -/
def string : Decoder String
  | .string _ s => pure s
  | d => throw (d.mismatch "a string")

/-- A text that is read further. -/
def parsed (expected : String) (parse : String → Except String α) : Decoder α
  | .string s t =>
    match parse t with
    | .ok a => pure a
    | .error reason => throw ⟨.rejected reason, Document.Span.after s⟩
  | d => throw (d.mismatch expected)

/-- A whole number from `low` up to below `high`. -/
def integer (expected : String) (low high : Int) : Decoder Int
  | .int s n =>
    if low ≤ n ∧ n < high then pure n
    else throw ⟨.wrongValue (.int n) expected, Document.Span.after s⟩
  | d => throw (d.mismatch expected)

/-- A whole number of 64 bits without sign. -/
def u64 : Decoder UInt64 := fun d =>
  return (← integer "u64" 0 0x10000000000000000 d).toNat.toUInt64

/-- A whole number of 32 bits without sign. -/
def u32 : Decoder UInt32 := fun d => return (← integer "u32" 0 0x100000000 d).toNat.toUInt32

/-- A count or a limit; it has at most 64 bits. -/
def count : Decoder Nat := fun d => return (← integer "usize" 0 0x10000000000000000 d).toNat

/-- A whole number of 64 bits. -/
def i64 : Decoder Int := integer "i64" (-0x8000000000000000) 0x8000000000000000

/-- `null` for nothing. -/
def optional (read : Decoder α) : Decoder (Option α)
  | .null _ => pure none
  | d => return some (← read d)

/-- What an ending means to one who wants a further piece. -/
def finish : Ending → Except Fault Unit
  | .closed => pure ()
  | .cut f _ _ => throw f

/-- Reads items one by one. -/
def each (read : Decoder α) : List Document → Except Fault (List α)
  | [] => pure []
  | d :: ds => do
    let a ← read d
    let as ← each read ds
    pure (a :: as)

/-- Reads members one by one; of two with one name the later wins. -/
def entries (read : Decoder α) (m : Dict α) : List (Key × Document) → Except Fault (Dict α)
  | [] => pure m
  | (k, d) :: ms => do
    let name ← k.name
    let a ← read d
    entries read (m.insert name a) ms

/-- A list. -/
def list (read : Decoder α) : Decoder (List α)
  | .array span items ending => do
    Document.guardDepth span
    let as ← each read items
    finish ending
    pure as
  | d => throw (d.mismatch "a sequence")

/-- A map. -/
def dict (read : Decoder α) : Decoder (Dict α)
  | .object span members ending => do
    Document.guardDepth span
    let m ← entries read [] members
    finish ending
    pure m
  | d => throw (d.mismatch "a map")

-- =========================================================== choices

/-- A choice among names; `other` is what every other name means, if that is
allowed. -/
structure Choice (α : Type) where
  names : List (String × α)
  other : Option α

/-- What a name stands for. -/
def Choice.find (c : Choice α) (name : String) (place : Option Place) : Except Fault α :=
  match Dict.find? c.names name, c.other with
  | some a, _ => pure a
  | none, some a => pure a
  | none, none => throw ⟨.unknownVariant name (c.names.map (·.1)), place⟩

/-- The value beside a name has to be `null`; settings may also have an empty
list or table. -/
def unit : Document → Except Fault Unit
  | .null _ => pure ()
  | .array ⟨.settings, _, _, _⟩ [] _ => pure ()
  | .object ⟨.settings, _, _, _⟩ [] _ => pure ()
  | d => throw (d.mismatch "unit")

/-- The objection to a document that is no choice. -/
def noChoice (d : Document) (origin : Origin) : Fault :=
  match origin, d.start? with
  | .text, some cs => .looking .valueExpected cs
  | _, _ => d.mismatch "string or map"

/-- What is left after a piece that was read. -/
def rest (d : Document) : List Char :=
  match d with
  | .null s => s.stop
  | _ => []

/-- A choice from an object of a text: its one member is the name of the choice
with `null`, and the object ends after it. -/
def choiceOfText (c : Choice α) (span : Span) (members : List (Key × Document)) :
    Except Fault α := do
  Document.guardDepth span
  match members with
  | [] => throw ((Json.document (span.start.drop 1)).1.mismatch "variant identifier")
  | (k, d) :: _ =>
    let name ← k.name
    let a ← c.find name (some (.before k.stop))
    unit d
    match Json.skipBlanks (rest d) with
    | [] => throw (.here .objectEnds [])
    | '\x7d' :: _ => pure a
    | cs => throw (.here .valueExpected cs)

/-- A choice from an object in memory. -/
def choiceOfObject (c : Choice α) (members : List (Key × Document)) : Except Fault α :=
  match members with
  | [(k, d)] => do
    let name ← k.name
    let a ← c.find name none
    unit d
    pure a
  | _ => throw ⟨.wrongValue .mapping "map with a single key", none⟩

/-- A name from a choice. -/
def choice (c : Choice α) : Decoder α
  | .string span s => c.find s (Document.Span.after span)
  | .object span members _ =>
    if span.origin = .text then choiceOfText c span members else choiceOfObject c members
  | .broken start f skip =>
    match start with
    | '"' :: _ => throw f
    | _ => throw (noChoice (.broken start f skip) .text)
  | .absent f => throw f
  | .array s items ending => throw (noChoice (.array s items ending) s.origin)
  | .null s => throw (noChoice (.null s) s.origin)
  | .bool s b => throw (noChoice (.bool s b) s.origin)
  | .int s n => throw (noChoice (.int s n) s.origin)
  | .real s x => throw (noChoice (.real s x) s.origin)

-- =========================================================== records

/-- A field of a record: its name, whether it may be missing, and how it is set
from a document. -/
structure Field (ρ : Type) where
  name : String
  required : Bool
  read : Document → ρ → Except Fault ρ

/-- A field that has to be there. -/
def Field.must {ρ : Type} (name : String) (read : Decoder α) (set : α → ρ → ρ) :
    Field ρ :=
  ⟨name, true, fun d r => return set (← read d) r⟩

/-- A field that may be missing. -/
def Field.may {ρ : Type} (name : String) (read : Decoder α) (set : α → ρ → ρ) : Field ρ :=
  ⟨name, false, fun d r => return set (← read d) r⟩

/-- A kind of record: its name, its fields in order, and the record that is
filled in. -/
structure Shape (ρ : Type) where
  title : String
  fields : List (Field ρ)
  blank : ρ

variable {ρ : Type}

/-- How many fields a list ought to have. -/
def Shape.expected (shape : Shape ρ) : String :=
  let n := shape.fields.length
  "struct " ++ shape.title ++ " with " ++ toString n ++ (if n = 1 then " element" else " elements")

/-- Sets the fields from the members of an object, each field at most once. -/
def fill (shape : Shape ρ) : List String → ρ → List (Key × Document) →
    Except Fault (List String × ρ)
  | seen, r, [] => pure (seen, r)
  | seen, r, (k, d) :: ms => do
    let name ← k.name
    match shape.fields.find? (fun f => f.name = name) with
    | none =>
      d.skip
      fill shape seen r ms
    | some f =>
      if seen.contains name then
        throw ⟨.duplicateField name, some (.before (Json.skipBlanks k.stop))⟩
      let r ← f.read d r
      fill shape (name :: seen) r ms

/-- What a list may hold after the last field: nothing, in a text; in memory its
length is refused; settings may have more. -/
def surplus (span : Span) (length : Nat) (items : List Document) (ending : Ending) :
    Except Fault Unit :=
  match span.origin, items with
  | .memory, _ :: _ => throw ⟨.wrongLength length "fewer elements in array", none⟩
  | .text, d :: _ => throw (.looking .trailingCharacters (d.start?.getD []))
  | .text, [] =>
    match ending with
    | .closed => pure ()
    | .cut _ _ f => throw f
  | _, _ => pure ()

/-- Sets the fields from the items of a list; `index` of them are set. -/
def place (shape : Shape ρ) (span : Span) (length : Nat) (ending : Ending) (r : ρ) :
    Nat → List (Field ρ) → List Document → Except Fault ρ
  | _, [], items => do
    surplus span length items ending
    pure r
  | index, f :: fs, [] => do
    finish ending
    match (f :: fs).findIdx? (·.required) with
    | none => pure r
    | some i =>
      throw ⟨.wrongLength (index + i) shape.expected, Document.Span.after span⟩
  | index, f :: fs, d :: ds => do
    let r ← f.read d r
    place shape span length ending r (index + 1) fs ds

/-- A record. -/
def record (shape : Shape ρ) : Decoder ρ
  | .object span members ending => do
    Document.guardDepth span
    let (seen, r) ← fill shape [] shape.blank members
    finish ending
    match shape.fields.find? (fun f => f.required && !seen.contains f.name) with
    | none => pure r
    | some f => throw ⟨.missingField f.name, Document.Span.after span⟩
  | .array span items ending => do
    Document.guardDepth span
    place shape span items.length ending shape.blank 0 shape.fields items
  | d => throw (d.mismatch ("struct " ++ shape.title))

-- =========================================================== reading

/-- Typed data from a value in memory. -/
def ofValue (read : Decoder α) (v : Value) : Except DecodeError α :=
  match read (.ofValue .memory v) with
  | .ok a => .ok a
  | .error f => .error ⟨f.cause, none⟩

/-- Typed data from settings. -/
def ofSettings (read : Decoder α) (v : Value) : Except DecodeError α :=
  match read (.ofValue .settings v) with
  | .ok a => .ok a
  | .error f => .error ⟨f.cause, none⟩

/-- Typed data from a text that holds nothing else. -/
def ofChars (read : Decoder α) (cs : List Char) : Except Fault α := do
  let (d, left) := Json.document cs
  let a ← read d
  match Json.skipBlanks (left.getD []) with
  | [] => pure a
  | r => throw (.looking .trailingCharacters r)

/-- Typed data from a text, with the position of an objection. -/
def ofText (read : Decoder α) (s : String) : Except DecodeError α :=
  match ofChars read s.toList with
  | .ok a => .ok a
  | .error f => .error ⟨f.cause, f.place.map (·.position s.toList)⟩

end Decoder

end DurableWorkflow
