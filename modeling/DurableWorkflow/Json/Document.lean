/-
A JSON document before anything has been asked of it. Reading a text never
fails: where the text is malformed, the document has a broken piece at that
place, which is noticed by whoever needs the piece. So a reader of typed data
meets the faults of a text in the order in which they stand in it, mixed with
its own objections, and a part that nobody needs is only looked at as far as
skipping it requires.

A document can also be made from a value in memory or from settings. Then
nothing is broken and objections carry no place.
-/
import DurableWorkflow.Json.Printer
import DurableWorkflow.Text.Measure

namespace DurableWorkflow

-- ============================================================ places

/-- A place in a text: the characters from there on, and how many bytes
further the place is. -/
structure Place where
  left : List Char
  ahead : Nat

/-- The place before the characters that are left. -/
def Place.before (left : List Char) : Place := ⟨left, 0⟩

/-- The place after the next byte, if there is one. -/
def Place.looking (left : List Char) : Place := ⟨left, if left.isEmpty then 0 else 1⟩

/-- A line and a column, the column in bytes. -/
structure Position where
  line : Nat
  column : Nat
deriving DecidableEq, Repr

/-- Walks to an offset in bytes and counts lines and the bytes of the last
line. -/
def positionFrom (line column : Nat) : Nat → List Char → Position
  | 0, _ => ⟨line, column⟩
  | n + 1, [] => ⟨line, column + (n + 1)⟩
  | n + 1, c :: r =>
    if n + 1 < c.utf8Size then ⟨line, column + (n + 1)⟩
    else if c = '\n' then positionFrom (line + 1) 0 (n + 1 - c.utf8Size) r
    else positionFrom line (column + c.utf8Size) (n + 1 - c.utf8Size) r
termination_by _ cs => cs.length

/-- Line and column of a place in its text. -/
def Place.position (text : List Char) (p : Place) : Position :=
  positionFrom 1 0 (Text.bytes text - Text.bytes p.left + p.ahead) text

-- ============================================================ causes

/-- What makes a text no JSON. -/
inductive Complaint
  | listEnds
  | objectEnds
  | stringEnds
  | valueEnds
  | colonExpected
  | listCommaExpected
  | objectCommaExpected
  | wordExpected
  | valueExpected
  | escapeInvalid
  | numberInvalid
  | numberTooLarge
  | controlCharacter
  | keyExpected
  | surrogateAlone
  | trailingComma
  | trailingCharacters
  | escapeCutShort
  | nestedTooDeep
deriving DecidableEq, Repr

/-- How a document was refused: a broken text, a text that ends too early, or
data that do not fit. -/
inductive Category
  | malformed
  | cutShort
  | data
deriving DecidableEq, Repr

def Complaint.message : Complaint → String
  | .listEnds => "EOF while parsing a list"
  | .objectEnds => "EOF while parsing an object"
  | .stringEnds => "EOF while parsing a string"
  | .valueEnds => "EOF while parsing a value"
  | .colonExpected => "expected `:`"
  | .listCommaExpected => "expected `,` or `]`"
  | .objectCommaExpected => "expected `,` or `\x7d`"
  | .wordExpected => "expected ident"
  | .valueExpected => "expected value"
  | .escapeInvalid => "invalid escape"
  | .numberInvalid => "invalid number"
  | .numberTooLarge => "number out of range"
  | .controlCharacter => "control character (\\u0000-\\u001F) found while parsing a string"
  | .keyExpected => "key must be a string"
  | .surrogateAlone => "lone leading surrogate in hex escape"
  | .trailingComma => "trailing comma"
  | .trailingCharacters => "trailing characters"
  | .escapeCutShort => "unexpected end of hex escape"
  | .nestedTooDeep => "recursion limit exceeded"

def Complaint.category : Complaint → Category
  | .listEnds => .cutShort
  | .objectEnds => .cutShort
  | .stringEnds => .cutShort
  | .valueEnds => .cutShort
  | _ => .malformed

/-- What was found in place of what was wanted. -/
inductive Found
  | nothing
  | bool (b : Bool)
  | int (n : Int)
  | real (x : Float)
  | string (s : String)
  | sequence
  | mapping

/-- Why a document was refused. -/
inductive Cause
  | malformed (complaint : Complaint)
  | wrongType (found : Found) (expected : String)
  | wrongValue (found : Found) (expected : String)
  | wrongLength (length : Nat) (expected : String)
  | missingField (name : String)
  | duplicateField (name : String)
  | unknownVariant (name : String) (known : List String)
  | rejected (reason : String)

/-- A cause with the place where it was noticed, if the document is a text. -/
structure Fault where
  cause : Cause
  place : Option Place

/-- A malformed text, at a place. -/
def Fault.malformed (c : Complaint) (p : Place) : Fault := ⟨.malformed c, some p⟩

/-- A complaint at the place before what is left. -/
def Fault.here (c : Complaint) (left : List Char) : Fault := .malformed c (.before left)

/-- A complaint about the next byte. -/
def Fault.looking (c : Complaint) (left : List Char) : Fault := .malformed c (.looking left)

-- ========================================================= documents

/-- Where a document comes from. -/
inductive Origin
  | memory
  | settings
  | text
deriving DecidableEq, Repr

/-- Where a piece of a document begins and ends. `deep` marks a list or an
object of a text that is nested more deeply than typed data may be. -/
structure Span where
  origin : Origin
  start : List Char
  stop : List Char
  deep : Bool

/-- The span of everything that was made from a value in memory. -/
def Span.memory : Span := ⟨.memory, [], [], false⟩

/-- The span of everything that was made from settings. -/
def Span.settings : Span := ⟨.settings, [], [], false⟩

/-- How a list or an object ends: with its bracket, or by a fault. The fault
differs for one who reads the next item, one who skips it, and one who expects
no further item. -/
inductive Ending
  | closed
  | cut (read skip past : Fault)

/-- The name of a member and what is left after it. A name that can only be
skipped over is a fault. -/
structure Key where
  name : Except Fault String
  stop : List Char

/-- A document. A broken piece has a fault for one who reads it, and another one
for who skips it, if it cannot be skipped. An absent piece is a fault for
both. -/
inductive Document
  | null (span : Span)
  | bool (span : Span) (b : Bool)
  | int (span : Span) (n : Int)
  | real (span : Span) (x : Float)
  | string (span : Span) (s : String)
  | array (span : Span) (items : List Document) (ending : Ending)
  | object (span : Span) (members : List (Key × Document)) (ending : Ending)
  | broken (start : List Char) (read : Fault) (skip : Option Fault)
  | absent (fault : Fault)

namespace Document

-- ======================================================== from memory

mutual

/-- A value as a document. -/
def ofValue (span : Span) : Value → Document
  | .null => .null span
  | .bool b => .bool span b
  | .int n => .int span n
  | .real x => .real span x
  | .string s => .string span s
  | .array items => .array span (ofItems span items) .closed
  | .object members => .object span (ofMembers span members) .closed

/-- The items of an array as documents. -/
def ofItems (span : Span) : List Value → List Document
  | [] => []
  | v :: vs => ofValue span v :: ofItems span vs

/-- The members of an object as documents. -/
def ofMembers (span : Span) : List (String × Value) → List (Key × Document)
  | [] => []
  | (k, v) :: ms => (⟨.ok k, []⟩, ofValue span v) :: ofMembers span ms

end

-- =========================================================== skipping

mutual

/-- Looks at a piece only as far as is needed to find its end. -/
def skip : Document → Except Fault Unit
  | .array _ items ending => do
    skipItems items
    match ending with
    | .closed => pure ()
    | .cut _ f _ => throw f
  | .object _ members ending => do
    skipMembers members
    match ending with
    | .closed => pure ()
    | .cut _ f _ => throw f
  | .broken _ _ (some f) => throw f
  | .absent f => throw f
  | _ => pure ()

/-- Skips items one by one. -/
def skipItems : List Document → Except Fault Unit
  | [] => pure ()
  | d :: ds => do
    skip d
    skipItems ds

/-- Skips members one by one. -/
def skipMembers : List (Key × Document) → Except Fault Unit
  | [] => pure ()
  | (_, d) :: ms => do
    skip d
    skipMembers ms

end

-- ============================================================= values

/-- Refuses a list or an object that is nested too deeply. -/
def guardDepth (span : Span) : Except Fault Unit :=
  if span.deep then throw (.looking .nestedTooDeep span.start) else pure ()

mutual

/-- A document as a value. -/
def value : Document → Except Fault Value
  | .null _ => pure .null
  | .bool _ b => pure (.bool b)
  | .int _ n => pure (.int n)
  | .real _ x => pure (.real x)
  | .string _ s => pure (.string s)
  | .array span items ending => do
    guardDepth span
    let vs ← valueItems items
    match ending with
    | .closed => pure (.array vs)
    | .cut f _ _ => throw f
  | .object span members ending => do
    guardDepth span
    let ms ← valueMembers [] members
    match ending with
    | .closed => pure (.object ms)
    | .cut f _ _ => throw f
  | .broken _ f _ => throw f
  | .absent f => throw f

/-- The items of a document as values. -/
def valueItems : List Document → Except Fault (List Value)
  | [] => pure []
  | d :: ds => do
    let v ← value d
    let vs ← valueItems ds
    pure (v :: vs)

/-- The members of a document as a map; of two with one name the later
wins. -/
def valueMembers (found : Dict Value) : List (Key × Document) → Except Fault (Dict Value)
  | [] => pure found
  | (k, d) :: ms => do
    let name ← k.name
    let v ← value d
    valueMembers (found.insert name v) ms

end

end Document

end DurableWorkflow
