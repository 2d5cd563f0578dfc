/-
Reading a regular expression from its text. Any violation of the rules makes the
whole text no expression, and it does not matter which one.

In loose texts blanks and comments between the parts do not count. Braces after a
part always are a count. Groups that look around, and references back to a group,
do not exist.
-/
import DurableWorkflow.Regex.Expression

namespace DurableWorkflow.Regex

open Text (isBlank)

-- ============================================================= state

/-- The text that is left, whether blanks count in it, and the names of the
groups so far. -/
structure Source where
  left : List Char
  loose : Bool
  names : List String

/-- A step of reading, which may fail. -/
abbrev Reads := StateT Source Option

/-- Passes over blanks and comments. -/
def skipLoose (comment : Bool) : List Char → List Char
  | [] => []
  | c :: r =>
    if comment then skipLoose (c ≠ '\n') r
    else if isBlank c then skipLoose false r
    else if c = '#' then skipLoose true r
    else c :: r

namespace Source

/-- Passes over what does not count. -/
def space (s : Source) : Source :=
  if s.loose then { s with left := skipLoose false s.left } else s

/-- Passes over one character. -/
def bump (s : Source) : Source := { s with left := s.left.drop 1 }

/-- Passes over one character and what does not count after it. -/
def bumpSpace (s : Source) : Source := s.bump.space

end Source

/-- Passes over what does not count. -/
def space : Reads Unit := modify Source.space

/-- Passes over one character. -/
def bump : Reads Unit := modify Source.bump

/-- Passes over one character and what does not count after it. -/
def bumpSpace : Reads Unit := modify Source.bumpSpace

/-- The text that is left. -/
def left : Reads (List Char) := return (← get).left

/-- The next character; fails at the end. -/
def current : Reads Char := do
  match ← left with
  | c :: _ => pure c
  | [] => failure

/-- Fails unless a condition holds. -/
def demand (b : Bool) : Reads Unit := if b then pure () else failure

/-- Passes over a given text, if it comes next. -/
def accept (word : List Char) : Reads Bool := do
  let cs ← left
  if word.isPrefixOf cs then
    modify fun s => { s with left := cs.drop word.length }
    pure true
  else pure false

-- =========================================================== numbers

/-- Digits with what does not count between them. -/
def readDigits (done : List Char) : Nat → Reads (List Char)
  | 0 => failure
  | fuel + 1 => do
    match ← left with
    | c :: _ =>
      if '0' ≤ c ∧ c ≤ '9' then
        bumpSpace
        readDigits (c :: done) fuel
      else pure done.reverse
    | [] => pure done.reverse

/-- A count, with blanks around it; `none` if there are no digits. -/
def readCount : Reads (Option Nat) := do
  modify fun s => { s with left := s.left.dropWhile isBlank }
  let ds ← readDigits [] ((← left).length + 1)
  modify fun s => { s with left := s.left.dropWhile isBlank }
  if ds.isEmpty then pure none
  else
    let n := ds.foldl (fun n c => 10 * n + (c.toNat - 48)) 0
    demand (n < 0x100000000)
    pure (some n)

/-- A hexadecimal digit. -/
def hexValue? (c : Char) : Option Nat :=
  if '0' ≤ c ∧ c ≤ '9' then some (c.toNat - 48)
  else if 'a' ≤ c ∧ c ≤ 'f' then some (c.toNat - 87)
  else if 'A' ≤ c ∧ c ≤ 'F' then some (c.toNat - 55)
  else none

/-- The character with a number. -/
def charOf (n : Nat) : Reads Char :=
  if n < 0xD800 ∨ (0xE000 ≤ n ∧ n < 0x110000) then pure (Char.ofNat n) else failure

/-- A fixed number of hexadecimal digits. -/
def readHexDigits (n : Nat) : Nat → Reads Nat
  | 0 => pure n
  | k + 1 => do
    match hexValue? (← current) with
    | none => failure
    | some d =>
      bumpSpace
      readHexDigits (16 * n + d) k

/-- Hexadecimal digits up to a brace. -/
def readHexBrace (digits : List Nat) : Nat → Reads (List Nat)
  | 0 => failure
  | fuel + 1 => do
    let c ← current
    if c = '\x7d' then
      bumpSpace
      pure digits.reverse
    else match hexValue? c with
      | none => failure
      | some d =>
        bumpSpace
        readHexBrace (d :: digits) fuel

/-- A character by its number, after the backslash; `k` digits or digits in
braces. -/
def readHex (k : Nat) : Reads Literal := do
  bumpSpace
  let c ← current
  if c = '\x7b' then
    bumpSpace
    let ds ← readHexBrace [] ((← left).length + 1)
    demand (!ds.isEmpty)
    let n := ds.foldl (fun n d => 16 * n + d) 0
    return ⟨← charOf n, false⟩
  else
    let n ← readHexDigits 0 k
    return ⟨← charOf n, k = 2⟩

-- =========================================================== escapes

/-- What a backslash and what follows it stand for. -/
inductive Escape
  | literal (l : Literal)
  | mark (m : Mark)
  | property (negated : Bool) (set : CharSet)
  | letter (negated : Bool) (l : Letter)

/-- Characters up to a brace. -/
def readBraced (done : List Char) : Nat → Reads (List Char)
  | 0 => failure
  | fuel + 1 => do
    let c ← current
    if c = '\x7d' then
      bump
      pure done.reverse
    else
      bumpSpace
      readBraced (c :: done) fuel

/-- The set that a name in braces stands for, and whether the name itself negates
it. -/
def propertyOf (name : List Char) : Option (Bool × CharSet) :=
  let pair (mark : List Char) : Option (List Char × List Char) :=
    let rec find (front : List Char) : List Char → Option (List Char × List Char)
      | [] => none
      | c :: r =>
        if mark.isPrefixOf (c :: r) then some (front.reverse, (c :: r).drop mark.length)
        else find (c :: front) r
    find [] name
  let valued (p : List Char × List Char) : Option CharSet :=
    valued? (String.ofList p.1) (String.ofList p.2)
  match pair ['!', '='], pair [':'], pair ['='] with
  | some p, _, _ => (valued p).map fun s => (true, s)
  | none, some p, _ => (valued p).map fun s => (false, s)
  | none, none, some p => (valued p).map fun s => (false, s)
  | none, none, none => (named? (String.ofList name)).map fun s => (false, s)

/-- A property, after the backslash. -/
def readProperty (negated : Bool) : Reads Escape := do
  bumpSpace
  let c ← current
  if c = '\x7b' then
    bumpSpace
    let name ← readBraced [] ((← left).length + 1)
    match propertyOf name with
    | some (flip, set) => pure (.property (negated != flip) set)
    | none => failure
  else
    demand (c ≠ '\\')
    bumpSpace
    match named? (String.singleton c) with
    | some set => pure (.property negated set)
    | none => failure

/-- The letters and dashes of the name of a boundary. -/
def readBoundaryName (done : List Char) : Nat → Reads (List Char)
  | 0 => failure
  | fuel + 1 => do
    let c ← current
    if c.isAlpha ∨ c = '-' then
      bumpSpace
      readBoundaryName (c :: done) fuel
    else pure done.reverse

/-- A boundary, which may have a name in braces; braces with something else in
them are a count. -/
def readBoundary : Reads Mark := do
  let before ← get
  match before.left with
  | '\x7b' :: _ =>
    bumpSpace
    let c ← current
    if c.isAlpha ∨ c = '-' then
      let name ← readBoundaryName [] ((← left).length + 1)
      demand ((← current) = '\x7d')
      bump
      match String.ofList name with
      | "start" => pure .wordStart
      | "end" => pure .wordEnd
      | "start-half" => pure .wordStartHalf
      | "end-half" => pure .wordEndHalf
      | _ => failure
    else
      set before
      pure .boundary
  | _ => pure .boundary

/-- Whether a backslash before the character stands for the character itself:
all of ASCII but letters, digits and angle brackets. -/
def isEscapable (c : Char) : Bool := c.toNat < 128 && !c.isAlphanum && c ≠ '<' && c ≠ '>'

/-- An escape, from the backslash on. -/
def readEscape : Reads Escape := do
  bump
  let c ← current
  let literal (c : Char) : Reads Escape := do
    bump
    pure (.literal ⟨c, false⟩)
  let mark (m : Mark) : Reads Escape := do
    bump
    pure (.mark m)
  let letter (negated : Bool) (l : Letter) : Reads Escape := do
    bump
    pure (.letter negated l)
  match c with
  | 'x' => return .literal (← readHex 2)
  | 'u' => return .literal (← readHex 4)
  | 'U' => return .literal (← readHex 8)
  | 'p' => readProperty false
  | 'P' => readProperty true
  | 'd' => letter false .digit
  | 's' => letter false .blank
  | 'w' => letter false .word
  | 'D' => letter true .digit
  | 'S' => letter true .blank
  | 'W' => letter true .word
  | 'a' => literal '\x07'
  | 'f' => literal '\x0c'
  | 't' => literal '\t'
  | 'n' => literal '\n'
  | 'r' => literal '\r'
  | 'v' => literal '\x0b'
  | 'A' => mark .textStart
  | 'z' => mark .textEnd
  | 'B' => mark .notBoundary
  | '<' => mark .wordStart
  | '>' => mark .wordEnd
  | 'b' => do
    bump
    return .mark (← readBoundary)
  | c => if isEscapable c then literal c else failure

-- =========================================================== classes

/-- One piece of a class, which may be the beginning of a range. -/
def readClassPiece : Reads Escape := do
  let c ← current
  if c = '\\' then readEscape
  else
    bump
    pure (.literal ⟨c, false⟩)

/-- A piece that stands for itself in a class. -/
def Escape.toClass : Escape → Reads ClassSet
  | .literal l => pure (.literal l)
  | .property negated s => pure (.property negated s)
  | .letter negated l => pure (.letter negated l)
  | .mark _ => failure

/-- A piece that is an end of a range. -/
def Escape.toLiteral : Escape → Reads Literal
  | .literal l => pure l
  | _ => failure

/-- The first character that counts after the next one. -/
def peekLoose (s : Source) : Option Char :=
  let rec skip (comment : Bool) : List Char → Option Char
    | [] => none
    | c :: r =>
      if isBlank c then skip comment r
      else if !comment && c = '#' then skip true r
      else some c
  match s.left with
  | [] => none
  | _ :: r => if s.loose then skip false r else r.head?

/-- A piece of a class or a range. A dash before the end of the class or before
another dash is no range. -/
def readClassRange : Reads ClassSet := do
  let first ← readClassPiece
  space
  let c ← current
  let next := peekLoose (← get)
  if c ≠ '-' ∨ next = some ']' ∨ next = some '-' then first.toClass
  else
    bumpSpace
    let second ← readClassPiece
    let low ← first.toLiteral
    let high ← second.toLiteral
    demand (low.char ≤ high.char)
    pure (.range low high)

/-- Dashes at the beginning of a class. -/
def readDashes (done : List ClassSet) : Nat → Reads (List ClassSet)
  | 0 => failure
  | fuel + 1 => do
    let c ← current
    if c = '-' then
      bumpSpace
      readDashes (.literal ⟨'-', false⟩ :: done) fuel
    else pure done

/-- The opening of a class: whether it is negated, and the pieces that only stand
for themselves at the beginning, the last one first. -/
def readClassOpening : Reads (Bool × List ClassSet) := do
  bumpSpace
  let c ← current
  let negated := c = '^'
  if negated then bumpSpace
  let dashes ← readDashes [] ((← left).length + 1)
  let c ← current
  if dashes.isEmpty ∧ c = ']' then
    bumpSpace
    demand (!(← left).isEmpty)
    pure (negated, [.literal ⟨']', false⟩])
  else pure (negated, dashes)

/-- A named class of ASCII, if one comes next. -/
def readAsciiClass : Reads (Option ClassSet) := do
  let cs ← left
  match cs with
  | '[' :: ':' :: r =>
    let (negated, r) := match r with
      | '^' :: t => (true, t)
      | t => (false, t)
    let name := r.takeWhile (· ≠ ':')
    match r.drop name.length, asciiClass? (String.ofList name) with
    | ':' :: ']' :: rest, some set =>
      modify fun s => { s with left := rest }
      pure (some (.ascii negated set))
    | _, _ => pure none
  | _ => pure none

/-- The operator that comes next in a class, if any. -/
def operator? : List Char → Option SetOperator
  | '&' :: '&' :: _ => some .meet
  | '-' :: '-' :: _ => some .minus
  | '~' :: '~' :: _ => some .exclusive
  | _ => none

/-- What was collected of a class: the left side of an operator, and the pieces
after it, the last one first. -/
structure ClassState where
  before : Option (ClassSet × SetOperator)
  parts : List ClassSet

/-- The class that was collected. -/
def ClassState.close (s : ClassState) : ClassSet :=
  let right := ClassSet.ofParts s.parts.reverse
  match s.before with
  | none => right
  | some (left, op) => .operation op left right

/-- A class from its opening bracket to its closing one. -/
def readClass : Nat → Reads ClassSet
  | 0 => failure
  | fuel + 1 => do
    let (negated, parts) ← readClassOpening
    let rec body : Nat → ClassState → Reads ClassSet
      | 0, _ => failure
      | k + 1, state => do
        space
        let cs ← left
        match operator? cs, cs with
        | _, [] => failure
        | some op, _ =>
          bump
          bump
          body k ⟨some (state.close, op), []⟩
        | none, ']' :: _ =>
          bump
          pure (.bracket negated state.close)
        | none, '[' :: _ =>
          match ← readAsciiClass with
          | some set => body k { state with parts := set :: state.parts }
          | none =>
            let inner ← readClass fuel
            body k { state with parts := inner :: state.parts }
        | none, _ =>
          let set ← readClassRange
          body k { state with parts := set :: state.parts }
    body ((← left).length + 1) ⟨none, parts⟩

-- ============================================================ groups

/-- The flag of a letter. -/
def flag? : Char → Option Flag
  | 'i' => some .caseless
  | 'm' => some .multiLine
  | 's' => some .dotAll
  | 'U' => some .swapGreed
  | 'u' => some .unicode
  | 'R' => some .carriageReturn
  | 'x' => some .loose
  | _ => none

/-- Flags up to a colon or a bracket. Each flag stands once, and there is at most
one dash, with a flag after it. -/
def readFlags (off last : Bool) (done : List FlagChange) : Nat → Reads (List FlagChange)
  | 0 => failure
  | fuel + 1 => do
    let c ← current
    if c = ':' ∨ c = ')' then
      demand (!last)
      pure done.reverse
    else if c = '-' then
      demand (!off)
      bump
      readFlags true true done fuel
    else match flag? c with
      | none => failure
      | some f =>
        demand (!(done.any fun d => d.flag = f))
        bump
        readFlags off false (⟨f, !off⟩ :: done) fuel

/-- Whether a set of flags makes a text loose, if it says anything about it. -/
def looseness (changes : List FlagChange) : Option Bool :=
  (changes.find? fun d => d.flag = .loose).map (·.on)

/-- Letters may begin the name of a group. -/
def isNameStart (c : Char) : Bool :=
  c = '_' || ((lookup "alphabetic" properties).getD .none).has c.toNat

/-- Letters, numbers and a few marks may follow in the name of a group. -/
def isNamePart (c : Char) : Bool :=
  c = '_' || c = '.' || c = '[' || c = ']' || isNameStart c
    || ((category? "n").getD .none).has c.toNat

/-- The name of a group up to its angle bracket; no two groups have one name. -/
def readGroupName : Reads Unit := do
  let cs ← left
  let name := cs.takeWhile (· ≠ '>')
  match name, cs.drop name.length with
  | c :: r, '>' :: rest =>
    let text := String.ofList (c :: r)
    demand (isNameStart c && r.all isNamePart)
    demand (!((← get).names.contains text))
    modify fun s => { s with left := rest, names := text :: s.names }
  | _, _ => failure

/-- The beginning of a group, after its bracket. -/
inductive Opening
  | flags (changes : List FlagChange)
  | group (changes : List FlagChange)

/-- Whether a group looks around. -/
def looksAround : List Char → Bool
  | '?' :: '=' :: _ => true
  | '?' :: '!' :: _ => true
  | '?' :: '<' :: '=' :: _ => true
  | '?' :: '<' :: '!' :: _ => true
  | _ => false

/-- Reads the beginning of a group. -/
def readOpening : Reads Opening := do
  bumpSpace
  demand (!looksAround (← left))
  if ← accept ['?', 'P', '<'] then
    readGroupName
    pure (.group [])
  else if ← accept ['?', '<'] then
    readGroupName
    pure (.group [])
  else if ← accept ['?'] then
    let start := (← left).length
    let changes ← readFlags false false [] (start + 1)
    let c ← current
    bump
    if c = ')' then
      demand (!changes.isEmpty)
      pure (.flags changes)
    else pure (.group changes)
  else pure (.group [])

-- ======================================================= expressions

/-- The part that an operator repeats, and the parts before it. -/
def popPart : List Expression → Reads (Expression × List Expression)
  | [] => failure
  | .flags _ :: _ => failure
  | e :: es => pure (e, es)

/-- A part that is repeated a counted number of times, from the brace on. -/
def readRepeat (inner : Expression) : Reads Expression := do
  bumpSpace
  demand (!(← left).isEmpty)
  let least ← readCount
  let c ← current
  let (least, most) ← (do
    if c = ',' then
      bumpSpace
      let c ← current
      if c = '\x7d' then return (← least, none)
      else
        let low ← least
        let high ← readCount
        return (low, some (← high))
    else
      let n ← least
      return (n, some n) : Reads (Nat × Option Nat))
  demand ((← current) = '\x7d')
  bumpSpace
  match ← left with
  | '?' :: _ => bump
  | _ => pure ()
  demand (match most with
    | some high => least ≤ high
    | none => true)
  pure (.repeated inner least most)

/-- A part that is repeated by a single mark. -/
def readMarkedRepeat (inner : Expression) (least : Nat) (most : Option Nat) :
    Reads Expression := do
  bump
  match ← left with
  | '?' :: _ => bump
  | _ => pure ()
  pure (.repeated inner least most)

/-- Escapes as expressions. -/
def Escape.toExpression : Escape → Expression
  | .literal l => .literal l
  | .mark m => .mark m
  | .property negated s => .property negated s
  | .letter negated l => .letter negated l

/-- A class as an expression. -/
def ofClass : ClassSet → Expression
  | .bracket negated inner => .bracket negated inner
  | s => .bracket false s

/-- Alternatives up to a closing bracket or the end. `parts` are those of the
current one and `choices` the earlier ones, each list with the last one first. -/
def readChoices : Nat → List Expression → List Expression → Reads Expression
  | 0, _, _ => failure
  | fuel + 1, choices, parts => do
    space
    let finish : Expression :=
      .ofChoices (.ofParts parts.reverse :: choices).reverse
    match ← left with
    | [] => pure finish
    | c :: _ =>
      match c with
      | ')' => pure finish
      | '|' =>
        bump
        readChoices fuel (.ofParts parts.reverse :: choices) []
      | '(' =>
        let outer := (← get).loose
        match ← readOpening with
        | .flags changes =>
          modify fun s => { s with loose := (looseness changes).getD outer }
          readChoices fuel choices (.flags changes :: parts)
        | .group changes =>
          modify fun s => { s with loose := (looseness changes).getD outer }
          let inner ← readChoices fuel [] []
          demand ((← current) = ')')
          bump
          modify fun s => { s with loose := outer }
          readChoices fuel choices (.group changes inner :: parts)
      | '[' =>
        let set ← readClass ((← left).length + 1)
        readChoices fuel choices (ofClass set :: parts)
      | '?' =>
        let (e, es) ← popPart parts
        let r ← readMarkedRepeat e 0 (some 1)
        readChoices fuel choices (r :: es)
      | '*' =>
        let (e, es) ← popPart parts
        let r ← readMarkedRepeat e 0 none
        readChoices fuel choices (r :: es)
      | '+' =>
        let (e, es) ← popPart parts
        let r ← readMarkedRepeat e 1 none
        readChoices fuel choices (r :: es)
      | '\x7b' =>
        let (e, es) ← popPart parts
        let r ← readRepeat e
        readChoices fuel choices (r :: es)
      | '\\' =>
        let e ← readEscape
        readChoices fuel choices (e.toExpression :: parts)
      | '.' =>
        bump
        readChoices fuel choices (.dot :: parts)
      | '^' =>
        bump
        readChoices fuel choices (.mark .lineStart :: parts)
      | '$' =>
        bump
        readChoices fuel choices (.mark .lineEnd :: parts)
      | c =>
        bump
        readChoices fuel choices (.literal ⟨c, false⟩ :: parts)

/-- Reads a whole text. -/
def Expression.read (text : List Char) : Option Expression := do
  let (e, s) ← (readChoices (2 * text.length + 2) [] []).run ⟨text, false, []⟩
  if s.left.isEmpty ∧ e.depth ≤ maxDepth then some e else none

end DurableWorkflow.Regex
