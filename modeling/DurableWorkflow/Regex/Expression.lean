/-
Regular expressions as they are written, before the meaning of their flags is
worked out. An expression may be nested in others up to a fixed depth.
-/
import DurableWorkflow.Regex.CharSet

namespace DurableWorkflow.Regex

-- ============================================================= parts

/-- A flag that changes the meaning of what follows. -/
inductive Flag
  | caseless
  | multiLine
  | dotAll
  | swapGreed
  | unicode
  | carriageReturn
  | loose
deriving DecidableEq, Repr

/-- A flag that is set or cleared. -/
structure FlagChange where
  flag : Flag
  on : Bool
deriving DecidableEq, Repr

/-- A condition on the characters around a position. -/
inductive Mark
  | lineStart
  | lineEnd
  | textStart
  | textEnd
  | boundary
  | notBoundary
  | wordStart
  | wordEnd
  | wordStartHalf
  | wordEndHalf
deriving DecidableEq, Repr

/-- The classes that have a letter. -/
inductive Letter
  | digit
  | blank
  | word
deriving DecidableEq, Repr

/-- How two sets are combined. -/
inductive SetOperator
  | meet
  | minus
  | exclusive
deriving DecidableEq, Repr

/-- A character of an expression; `byte` says that it was written as a byte of two
hexadecimal digits. -/
structure Literal where
  char : Char
  byte : Bool
deriving DecidableEq, Repr

/-- The inside of a bracketed class. -/
inductive ClassSet
  | literal (l : Literal)
  | range (low high : Literal)
  | ascii (negated : Bool) (set : CharSet)
  | property (negated : Bool) (set : CharSet)
  | letter (negated : Bool) (l : Letter)
  | bracket (negated : Bool) (inner : ClassSet)
  | union (parts : List ClassSet)
  | operation (op : SetOperator) (left right : ClassSet)

/-- A regular expression. -/
inductive Expression
  | literal (l : Literal)
  | dot
  | mark (m : Mark)
  | property (negated : Bool) (set : CharSet)
  | letter (negated : Bool) (l : Letter)
  | bracket (negated : Bool) (inner : ClassSet)
  | flags (changes : List FlagChange)
  | repeated (inner : Expression) (least : Nat) (most : Option Nat)
  | group (changes : List FlagChange) (inner : Expression)
  | sequence (parts : List Expression)
  | alternatives (parts : List Expression)

-- ============================================================= depth

mutual

/-- How deeply the parts of a class are nested. -/
def ClassSet.depth : ClassSet → Nat
  | .bracket _ inner => inner.depth + 1
  | .union parts => ClassSet.depthOfAll parts + 1
  | .operation _ left right => max left.depth right.depth + 1
  | _ => 0

/-- The greatest depth of some classes. -/
def ClassSet.depthOfAll : List ClassSet → Nat
  | [] => 0
  | s :: ss => max s.depth (ClassSet.depthOfAll ss)

end

mutual

/-- How deeply the parts of an expression are nested. -/
def Expression.depth : Expression → Nat
  | .bracket _ inner => inner.depth + 1
  | .repeated inner _ _ => inner.depth + 1
  | .group _ inner => inner.depth + 1
  | .sequence parts => Expression.depthOfAll parts + 1
  | .alternatives parts => Expression.depthOfAll parts + 1
  | _ => 0

/-- The greatest depth of some expressions. -/
def Expression.depthOfAll : List Expression → Nat
  | [] => 0
  | e :: es => max e.depth (Expression.depthOfAll es)

end

/-- The greatest depth of an expression. -/
def maxDepth : Nat := 250

/-- Parts one after the other; a single part stands for itself. -/
def Expression.ofParts : List Expression → Expression
  | [e] => e
  | es => .sequence es

/-- Parts to choose from; a single part stands for itself. -/
def Expression.ofChoices : List Expression → Expression
  | [e] => e
  | es => .alternatives es

/-- The union of the parts of a class; a single part stands for itself. -/
def ClassSet.ofParts : List ClassSet → ClassSet
  | [s] => s
  | ss => .union ss

end DurableWorkflow.Regex
