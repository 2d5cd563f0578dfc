/-
The meaning of a regular expression: flags are worked out, and what is left is
sets of characters, conditions on a position, sequence, choice and repetition.
How often a repetition is tried first makes no difference to whether a text
matches, so it is not kept.

Without the flag for all characters, classes know ASCII only, and a class that
could match a piece of a character is refused.
-/
import DurableWorkflow.Regex.Reader

namespace DurableWorkflow.Regex

-- ========================================================== patterns

/-- A condition on a position, with the alphabet of words where that matters. -/
structure Look where
  mark : Mark
  multiLine : Bool
  carriageReturn : Bool
  unicode : Bool
deriving DecidableEq, Repr

/-- A pattern. -/
inductive Pattern
  | empty
  | chars (set : CharSet)
  | look (l : Look)
  | seq (a b : Pattern)
  | alt (a b : Pattern)
  | repeated (a : Pattern) (least : Nat) (most : Option Nat)

/-- The flags at some place of an expression. -/
structure Flags where
  caseless : Bool
  multiLine : Bool
  dotAll : Bool
  unicode : Bool
  carriageReturn : Bool

/-- The flags at the beginning. -/
def Flags.start : Flags := ⟨false, false, false, true, false⟩

/-- Sets or clears a flag. -/
def Flags.change (f : Flags) (c : FlagChange) : Flags :=
  match c.flag with
  | .caseless => { f with caseless := c.on }
  | .multiLine => { f with multiLine := c.on }
  | .dotAll => { f with dotAll := c.on }
  | .unicode => { f with unicode := c.on }
  | .carriageReturn => { f with carriageReturn := c.on }
  | .swapGreed => f
  | .loose => f

/-- Sets and clears flags. -/
def Flags.apply (f : Flags) (cs : List FlagChange) : Flags := cs.foldl Flags.change f

-- =========================================================== classes

/-- A set with the differences of case that the flags ask for. -/
def Flags.fold (f : Flags) (s : CharSet) : CharSet :=
  if !f.caseless then s else if f.unicode then .folded s else .foldedAscii s

/-- A set after folding and negation. Among bytes only sets of ASCII are left. -/
def Flags.finish (f : Flags) (negated : Bool) (s : CharSet) : Option CharSet :=
  let s := f.fold s
  let s := if negated then .complement s else s
  if f.unicode || s.isAscii then some s else none

/-- The set of a class that has a letter. -/
def Flags.letter (f : Flags) (negated : Bool) (l : Letter) : Option CharSet :=
  let s := match l, f.unicode with
    | .digit, true => digits
    | .blank, true => blanks
    | .word, true => wordCharacters
    | .digit, false => asciiDigits
    | .blank, false => asciiBlanks
    | .word, false => asciiWordCharacters
  if !negated then some s else if f.unicode then some (.complement s) else none

/-- The set of a property. -/
def Flags.property (f : Flags) (negated : Bool) (s : CharSet) : Option CharSet :=
  if f.unicode then f.finish negated s else none

/-- A character in a class. -/
def Flags.classChar (f : Flags) (l : Literal) : Option Nat :=
  if f.unicode || l.char.toNat < 128 then some l.char.toNat else none

mutual

/-- The set of the inside of a class. -/
def ClassSet.set (f : Flags) : ClassSet → Option CharSet
  | .literal l => (f.classChar l).map fun n => .span n n
  | .range low high => do
    let a ← f.classChar low
    let b ← f.classChar high
    pure (.span a b)
  | .ascii negated s => f.finish negated s
  | .property negated s => f.property negated s
  | .letter negated l => f.letter negated l
  | .bracket negated inner => do
    let s ← ClassSet.set f inner
    f.finish negated s
  | .union parts => do
    let ss ← ClassSet.sets f parts
    pure (.union ss)
  | .operation op left right => do
    let a ← ClassSet.set f left
    let b ← ClassSet.set f right
    let a := f.fold a
    let b := f.fold b
    match op with
    | .meet => pure (.meet a b)
    | .minus => pure (.minus a b)
    | .exclusive => pure (.exclusive a b)

/-- The sets of some classes. -/
def ClassSet.sets (f : Flags) : List ClassSet → Option (List CharSet)
  | [] => some []
  | s :: ss => do
    let a ← ClassSet.set f s
    let as ← ClassSet.sets f ss
    pure (a :: as)

end

-- ========================================================== literals

/-- The pattern of one character. A byte outside of ASCII is part of a character
only. -/
def Flags.literal (f : Flags) (l : Literal) : Option Pattern :=
  if !f.unicode && l.byte && 128 ≤ l.char.toNat then none
  else some (.chars (f.fold (.single l.char)))

/-- The pattern of any character, or of any but line breaks. -/
def Flags.dot (f : Flags) : Option Pattern :=
  if !f.unicode then none
  else if f.dotAll then some (.chars .all)
  else if f.carriageReturn then
    some (.chars (.complement (.union [.single '\r', .single '\n'])))
  else some (.chars (.complement (.single '\n')))

-- ======================================================= expressions

mutual

/-- The pattern of an expression and the flags after it. -/
def Expression.pattern (f : Flags) : Expression → Option (Pattern × Flags)
  | .literal l => (f.literal l).map (·, f)
  | .dot => f.dot.map (·, f)
  | .mark m => some (.look ⟨m, f.multiLine, f.carriageReturn, f.unicode⟩, f)
  | .property negated s => (f.property negated s).map (.chars ·, f)
  | .letter negated l => (f.letter negated l).map (.chars ·, f)
  | .bracket negated inner => do
    let s ← inner.set f
    let s ← f.finish negated s
    pure (.chars s, f)
  | .flags changes => some (.empty, f.apply changes)
  | .repeated inner least most => do
    let (p, f) ← Expression.pattern f inner
    pure (.repeated p least most, f)
  | .group changes inner => do
    let (p, _) ← Expression.pattern (f.apply changes) inner
    pure (p, f)
  | .sequence parts => Expression.seqPattern f parts
  | .alternatives parts => Expression.altPattern f parts

/-- The pattern of parts one after the other. -/
def Expression.seqPattern (f : Flags) : List Expression → Option (Pattern × Flags)
  | [] => some (.empty, f)
  | e :: es => do
    let (p, f) ← Expression.pattern f e
    let (q, f) ← Expression.seqPattern f es
    pure (.seq p q, f)

/-- The pattern of parts to choose from; flags that one part sets hold in the
next ones. -/
def Expression.altPattern (f : Flags) : List Expression → Option (Pattern × Flags)
  | [] => some (.empty, f)
  | [e] => Expression.pattern f e
  | e :: es => do
    let (p, f) ← Expression.pattern f e
    let (q, f) ← Expression.altPattern f es
    pure (.alt p q, f)

end

/-- The pattern that a text writes. -/
def Pattern.read (text : List Char) : Option Pattern := do
  let e ← Expression.read text
  let (p, _) ← e.pattern .start
  pure p

end DurableWorkflow.Regex
