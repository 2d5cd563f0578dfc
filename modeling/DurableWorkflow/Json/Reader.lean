/-
Reading a text as a document. Every piece is read twice over where it matters:
once for its meaning, once for what it takes to skip it, because skipping asks
for less. A number that is too large for a float and a string with half of a
surrogate pair can be skipped but not read.

Numbers are collected as one whole number of at most 64 bits and a power of
ten; further digits only move the point.
-/
import DurableWorkflow.Json.Document
import DurableWorkflow.Decimal.Reading

namespace DurableWorkflow.Json

open Decimal (isDigit)

/-- A blank between the pieces of a document. -/
def isBlank (c : Char) : Bool := c = ' ' || c = '\n' || c = '\t' || c = '\r'

/-- The text without leading blanks. -/
def skipBlanks (cs : List Char) : List Char := cs.dropWhile isBlank

-- ============================================================= words

/-- Reads the rest of a word. -/
def readWord : List Char → List Char → Except Fault (List Char)
  | [], cs => pure cs
  | _ :: _, [] => throw (.here .valueEnds [])
  | w :: ws, c :: r =>
    if c = w then readWord ws r else throw (.malformed .wordExpected ⟨c :: r, 1⟩)

-- =========================================================== numbers

/-- Whether a number fits 64 bits. -/
def fits (n : Nat) : Bool := n < 0x10000000000000000

/-- Collects digits as long as the number fits; the rest begins at the first
digit that does not. -/
def gather (n : Nat) : List Char → Nat × Nat × List Char
  | [] => (n, 0, [])
  | c :: r =>
    match Decimal.digit? c with
    | some d =>
      if fits (10 * n + d) then
        let (m, k, rest) := gather (10 * n + d) r
        (m, k + 1, rest)
      else (n, 0, c :: r)
    | none => (n, 0, c :: r)

/-- The digits of an exponent; the largest exponent that is told apart has 31
bits. -/
def gatherExponent (e : Nat) : List Char → Option Nat × List Char
  | [] => (some e, [])
  | c :: r =>
    match Decimal.digit? c with
    | some d =>
      if 10 * e + d < 0x80000000 then gatherExponent (10 * e + d) r
      else (none, r)
    | none => (some e, c :: r)

/-- Keeps an exponent within 32 bits. -/
def clamp (e : Int) : Int := max (-0x80000000) (min e 0x7fffffff)

/-- A finished float, or a complaint that it is too large. -/
def float (negative : Bool) (mantissa : Nat) (exponent : Int) (rest : List Char) :
    Except Fault (Value × List Char) :=
  match Decimal.scaled mantissa exponent with
  | some x => pure (.real (if negative then -x else x), rest)
  | none => throw (.here .numberTooLarge rest)

/-- Reads an exponent after its letter. -/
def readExponent (negative : Bool) (mantissa : Nat) (exponent : Int) (cs : List Char) :
    Except Fault (Value × List Char) :=
  let (down, ds) := match cs with
    | '+' :: r => (false, r)
    | '-' :: r => (true, r)
    | r => (false, r)
  match ds with
  | [] => throw (.here .valueEnds [])
  | c :: r =>
    match Decimal.digit? c with
    | none => throw (.malformed .numberInvalid ⟨c :: r, 1⟩)
    | some d =>
      match gatherExponent d r with
      | (some e, rest) =>
        float negative mantissa (clamp (if down then exponent - e else exponent + e)) rest
      | (none, rest) =>
        if mantissa ≠ 0 ∧ !down then throw (.here .numberTooLarge rest)
        else pure (.real (if negative then -0.0 else 0.0), rest.dropWhile isDigit)

/-- Reads the digits after a point. -/
def readFraction (negative : Bool) (mantissa : Nat) (exponent : Int) (cs : List Char) :
    Except Fault (Value × List Char) :=
  let (m, k, rest) := gather mantissa cs
  let more := rest.dropWhile isDigit
  if k = 0 ∧ more.length = rest.length then
    if rest.isEmpty then throw (.here .valueEnds rest)
    else throw (.looking .numberInvalid rest)
  else
    match more with
    | 'e' :: r => readExponent negative m (exponent - k) r
    | 'E' :: r => readExponent negative m (exponent - k) r
    | r => float negative m (exponent - k) r

/-- Reads what follows the digits of a whole number that fits 64 bits. -/
def readTail (negative : Bool) (n : Nat) (exponent : Int) (cs : List Char) :
    Except Fault (Value × List Char) :=
  match cs with
  | '.' :: r => readFraction negative n exponent r
  | 'e' :: r => readExponent negative n exponent r
  | 'E' :: r => readExponent negative n exponent r
  | r => float negative n exponent r

/-- A whole number, if it stays one: a negative one needs to fit 63 bits, and
zero has no sign. -/
def whole? (negative : Bool) (n : Nat) : Option Int :=
  if !negative then some n
  else if 0 < n ∧ n ≤ 0x8000000000000000 then some (-(n : Int))
  else none

/-- Reads a number after its sign. -/
def readNumber (negative : Bool) (cs : List Char) : Except Fault (Value × List Char) :=
  match cs with
  | [] => throw (.here .valueEnds [])
  | c :: r =>
    match Decimal.digit? c with
    | none => throw (.malformed .numberInvalid ⟨c :: r, 1⟩)
    | some d =>
      let (n, rest) := if d = 0 then (0, r) else
        let (n, _, rest) := gather d r
        (n, rest)
      let more := rest.dropWhile isDigit
      let extra := rest.length - more.length
      if d = 0 ∧ 0 < extra then throw (.looking .numberInvalid rest)
      else if 0 < extra then readTail negative n extra more
      else match rest with
        | '.' :: _ => readTail negative n 0 rest
        | 'e' :: _ => readTail negative n 0 rest
        | 'E' :: _ => readTail negative n 0 rest
        | _ =>
          match whole? negative n with
          | some i => pure (.int i, rest)
          | none => pure (.real (-(Decimal.whole n)), rest)

/-- Skips an exponent after its letter. -/
def skipExponent (cs : List Char) : Except Fault (List Char) :=
  let ds := match cs with
    | '+' :: r => r
    | '-' :: r => r
    | r => r
  match ds with
  | [] => throw (.here .numberInvalid [])
  | c :: r =>
    if isDigit c then pure (r.dropWhile isDigit)
    else throw (.malformed .numberInvalid ⟨c :: r, 1⟩)

/-- Skips what follows the digits before the point. -/
def skipTail (cs : List Char) : Except Fault (List Char) :=
  match cs with
  | '.' :: r =>
    let more := r.dropWhile isDigit
    if more.length = r.length then throw (.looking .numberInvalid r)
    else match more with
      | 'e' :: t => skipExponent t
      | 'E' :: t => skipExponent t
      | t => pure t
  | 'e' :: r => skipExponent r
  | 'E' :: r => skipExponent r
  | r => pure r

/-- Skips a number after its sign. -/
def skipNumber (cs : List Char) : Except Fault (List Char) :=
  match cs with
  | [] => throw (.here .numberInvalid [])
  | c :: r =>
    if c = '0' then
      match r with
      | d :: t => if isDigit d then throw (.looking .numberInvalid (d :: t)) else skipTail r
      | [] => pure []
    else if isDigit c then skipTail (r.dropWhile isDigit)
    else throw (.malformed .numberInvalid ⟨c :: r, 1⟩)

-- =========================================================== strings

/-- The value of a hexadecimal digit. -/
def hex? (c : Char) : Option Nat :=
  if '0' ≤ c ∧ c ≤ '9' then some (c.toNat - 48)
  else if 'a' ≤ c ∧ c ≤ 'f' then some (c.toNat - 87)
  else if 'A' ≤ c ∧ c ≤ 'F' then some (c.toNat - 55)
  else none

/-- The number of four hexadecimal digits. -/
def hex4? (a b c d : Char) : Option Nat := do
  let a ← hex? a
  let b ← hex? b
  let c ← hex? c
  let d ← hex? d
  pure (4096 * a + 256 * b + 16 * c + d)

/-- Reads four hexadecimal digits. They are four bytes, so a wide character
among the next four bytes is a fault as well. -/
def readHex (cs : List Char) : Except Fault (Nat × List Char) :=
  match cs with
  | a :: b :: c :: d :: r =>
    match hex4? a b c d with
    | some n => pure (n, r)
    | none => throw (.malformed .escapeInvalid ⟨cs, 4⟩)
  | _ =>
    if Text.bytes cs < 4 then throw (.here .stringEnds [])
    else throw (.malformed .escapeInvalid ⟨cs, 4⟩)

/-- The character that a letter after a backslash stands for. -/
def escaped? : Char → Option Char
  | '"' => some '"'
  | '\\' => some '\\'
  | '/' => some '/'
  | 'b' => some '\x08'
  | 'f' => some '\x0c'
  | 'n' => some '\n'
  | 'r' => some '\r'
  | 't' => some '\t'
  | _ => none

/-- Reads the second half of a surrogate pair. -/
def readLowHalf (high : Nat) (cs : List Char) : Except Fault (Char × List Char) :=
  match cs with
  | [] => throw (.here .stringEnds [])
  | '\\' :: [] => throw (.here .stringEnds [])
  | '\\' :: 'u' :: r => do
    let (low, rest) ← readHex r
    if 0xDC00 ≤ low ∧ low < 0xE000 then
      pure (Char.ofNat (0x10000 + (high - 0xD800) * 1024 + (low - 0xDC00)), rest)
    else throw (.here .surrogateAlone rest)
  | '\\' :: c :: r => throw (.malformed .escapeCutShort ⟨c :: r, 1⟩)
  | c :: r => throw (.malformed .escapeCutShort ⟨c :: r, 1⟩)

/-- Reads an escape after its backslash. -/
def readEscape (cs : List Char) : Except Fault (Char × List Char) :=
  match cs with
  | [] => throw (.here .stringEnds [])
  | 'u' :: r => do
    let (n, rest) ← readHex r
    if 0xDC00 ≤ n ∧ n < 0xE000 then throw (.here .surrogateAlone rest)
    else if 0xD800 ≤ n ∧ n < 0xDC00 then readLowHalf n rest
    else pure (Char.ofNat n, rest)
  | c :: r =>
    match escaped? c with
    | some e => pure (e, r)
    | none => throw (.malformed .escapeInvalid ⟨c :: r, 1⟩)

/-- Reads a string after its opening quote; `done` holds the characters so far,
the last one first. -/
def readString : Nat → List Char → List Char → Except Fault (String × List Char)
  | 0, _, cs => throw (.here .stringEnds cs)
  | fuel + 1, done, cs =>
    match cs with
    | [] => throw (.here .stringEnds [])
    | '"' :: r => pure (String.ofList done.reverse, r)
    | '\\' :: r => do
      let (c, rest) ← readEscape r
      readString fuel (c :: done) rest
    | c :: r =>
      if c.toNat < 32 then throw (.malformed .controlCharacter ⟨c :: r, 1⟩)
      else readString fuel (c :: done) r

/-- Skips an escape after its backslash. -/
def skipEscape (cs : List Char) : Except Fault (List Char) :=
  match cs with
  | [] => throw (.here .stringEnds [])
  | 'u' :: r => do
    let (_, rest) ← readHex r
    pure rest
  | c :: r =>
    match escaped? c with
    | some _ => pure r
    | none => throw (.malformed .escapeInvalid ⟨c :: r, 1⟩)

/-- Skips a string after its opening quote. -/
def skipString : Nat → List Char → Except Fault (List Char)
  | 0, cs => throw (.here .stringEnds cs)
  | fuel + 1, cs =>
    match cs with
    | [] => throw (.here .stringEnds [])
    | '"' :: r => pure r
    | '\\' :: r => do
      let rest ← skipEscape r
      skipString fuel rest
    | c :: r =>
      if c.toNat < 32 then throw (.here .controlCharacter (c :: r))
      else skipString fuel r

-- ============================================================ pieces

/-- A piece with what is left after it; nothing is left after a piece whose end
cannot be found. -/
abbrev Piece := Document × Option (List Char)

/-- How deeply lists and objects may be nested in typed data. -/
def maxDepth : Nat := 127

/-- A piece that failed to be read, and can at most be skipped. -/
def unread (start : List Char) (fault : Fault) (skipped : Except Fault (List Char)) : Piece :=
  match skipped with
  | .ok rest => (.broken start fault none, some rest)
  | .error f => (.broken start fault (some f), none)

/-- The span of a piece of the text. -/
def span (depth : Nat) (start stop : List Char) : Span :=
  ⟨.text, start, stop, decide (maxDepth ≤ depth)⟩

/-- A number as a piece; its digits begin after its sign. -/
def numberPiece (start : List Char) (negative : Bool) (cs : List Char) : Piece :=
  match readNumber negative cs with
  | .ok (.int n, rest) => (.int (span 0 start rest) n, some rest)
  | .ok (.real x, rest) => (.real (span 0 start rest) x, some rest)
  | .ok (_, rest) => (.null (span 0 start rest), some rest)
  | .error f => unread start f (skipNumber cs)

/-- A string as a piece; its characters begin after the opening quote. -/
def stringPiece (start cs : List Char) : Piece :=
  match readString (cs.length + 1) [] cs with
  | .ok (s, rest) => (.string (span 0 start rest) s, some rest)
  | .error f => unread start f (skipString (cs.length + 1) cs)

/-- A word as a piece. -/
def wordPiece (start word cs : List Char) (make : Span → Document) : Piece :=
  match readWord word cs with
  | .ok rest => (make (span 0 start rest), some rest)
  | .error f => (.broken start f (some f), none)

/-- The name of a member, and what is left after it. -/
def readName (cs : List Char) : Except Fault String × Except Fault (List Char) :=
  match readString (cs.length + 1) [] cs with
  | .ok (s, rest) => (.ok s, .ok rest)
  | .error f => (.error f, skipString (cs.length + 1) cs)

-- ========================================================= documents

/-- The faults at a place where a list ought to go on or to end. -/
def listCut (cs : List Char) : Ending :=
  if cs.isEmpty then
    let f := Fault.here .listEnds cs
    .cut f f f
  else
    let f := Fault.looking .listCommaExpected cs
    .cut f f (.looking .trailingCharacters cs)

/-- The faults at a place where an object ought to go on or to end. -/
def objectCut (cs : List Char) : Ending :=
  if cs.isEmpty then
    let f := Fault.here .objectEnds cs
    .cut f f f
  else
    let f := Fault.looking .objectCommaExpected cs
    .cut f f f

/-- The ending of a list or an object after a piece whose end was not found;
nobody gets past that piece. -/
def lost (cs : List Char) : Ending :=
  let f := Fault.here .valueEnds cs
  .cut f f f

mutual

/-- Reads one value. -/
def readValue : Nat → Nat → List Char → Piece
  | 0, _, cs => (.absent (.here .valueEnds cs), none)
  | fuel + 1, depth, text =>
    let cs := skipBlanks text
    match cs with
    | [] => (.absent (.here .valueEnds []), none)
    | 'n' :: r => wordPiece cs ['u', 'l', 'l'] r .null
    | 't' :: r => wordPiece cs ['r', 'u', 'e'] r (.bool · true)
    | 'f' :: r => wordPiece cs ['a', 'l', 's', 'e'] r (.bool · false)
    | '"' :: r => stringPiece cs r
    | '-' :: r => numberPiece cs true r
    | '[' :: r =>
      let (items, ending, rest) := readItems fuel (depth + 1) true r
      (.array (span depth cs (rest.getD [])) items ending, rest)
    | '\x7b' :: r =>
      let (members, ending, rest) := readMembers fuel (depth + 1) true r
      (.object (span depth cs (rest.getD [])) members ending, rest)
    | c :: _ =>
      if isDigit c then numberPiece cs false cs
      else
        let f := Fault.looking .valueExpected cs
        (.broken cs f (some f), none)

/-- Reads the items of a list up to its bracket. -/
def readItems : Nat → Nat → Bool → List Char → List Document × Ending × Option (List Char)
  | 0, _, _, cs => ([], lost cs, none)
  | fuel + 1, depth, first, text =>
    let cs := skipBlanks text
    let item (cs : List Char) : List Document × Ending × Option (List Char) :=
      match readValue fuel depth cs with
      | (d, none) => ([d], lost cs, none)
      | (d, some rest) =>
        let (ds, ending, rest) := readItems fuel depth false rest
        (d :: ds, ending, rest)
    match cs with
    | [] => ([], listCut [], none)
    | ']' :: r => ([], .closed, some r)
    | c :: r =>
      if first then item cs
      else if c = ',' then
        match skipBlanks r with
        | [] =>
          let f := Fault.here .valueEnds []
          ([], .cut f f (.here .trailingCharacters []), none)
        | ']' :: t =>
          let f := Fault.looking .trailingComma (']' :: t)
          ([], .cut f (.looking .valueExpected (']' :: t)) f, none)
        | ds => item ds
      else ([], listCut cs, none)

/-- Reads the members of an object up to its brace. -/
def readMembers : Nat → Nat → Bool → List Char →
    List (Key × Document) × Ending × Option (List Char)
  | 0, _, _, cs => ([], lost cs, none)
  | fuel + 1, depth, first, text =>
    let cs := skipBlanks text
    let member (cs : List Char) : List (Key × Document) × Ending × Option (List Char) :=
      match readName cs with
      | (.error f, .error g) => ([], .cut f g f, none)
      | (.ok _, .error g) => ([], .cut g g g, none)
      | (name, .ok rest) =>
        match skipBlanks rest with
        | ':' :: r =>
          match readValue fuel depth r with
          | (d, none) => ([(⟨name, rest⟩, d)], lost r, none)
          | (d, some after) =>
            let (ms, ending, left) := readMembers fuel depth false after
            ((⟨name, rest⟩, d) :: ms, ending, left)
        | [] => ([(⟨name, rest⟩, .absent (.here .objectEnds []))], lost [], none)
        | ds => ([(⟨name, rest⟩, .absent (.looking .colonExpected ds))], lost ds, none)
    match cs with
    | [] => ([], objectCut [], none)
    | '\x7d' :: r => ([], .closed, some r)
    | c :: r =>
      if first then
        if c = '"' then member r
        else
          let f := Fault.looking .keyExpected cs
          ([], .cut f f f, none)
      else if c = ',' then
        match skipBlanks r with
        | [] =>
          let f := Fault.here .valueEnds []
          ([], .cut f (.here .objectEnds []) f, none)
        | '"' :: t => member t
        | '\x7d' :: t =>
          let ds := '\x7d' :: t
          let f := Fault.looking .trailingComma ds
          ([], .cut f (.looking .keyExpected ds) f, none)
        | ds =>
          let f := Fault.looking .keyExpected ds
          ([], .cut f f f, none)
      else ([], objectCut cs, none)

end

/-- Reads a text as a document, and gives what is left after it. -/
def document (cs : List Char) : Piece := readValue (2 * cs.length + 2) 0 cs

end DurableWorkflow.Json
