/-
Patterns for stored text. A percent sign stands for any run of characters, an
underscore for any one character, and a backslash takes the meaning of the
character after it. Letters of ASCII match in either case. `escape` makes a
pattern that matches a text literally.

U+FFFE and U+FFFF are no characters. They are seen as U+FFFD, which stands for what
cannot be read, in a pattern and in a text, so these three are not told apart.
-/
import DurableWorkflow.Text.Measure

namespace DurableWorkflow.Store

-- ======================================================== characters

/-- The character as which one is seen. -/
def seen (c : Char) : Char := if c = '\ufffe' ∨ c = '\uffff' then '\ufffd' else c

/-- A text as it is seen: it ends at its first null character. -/
def seenText (cs : List Char) : List Char := (cs.takeWhile (· ≠ '\x00')).map seen

-- ========================================================== patterns

/-- A piece of a pattern. `nothing` matches no text at all. -/
inductive Wildcard
  | run
  | one
  | char (c : Char)
  | nothing
deriving DecidableEq, Repr

/-- The pieces of a pattern. A backslash at its end has nothing to protect. -/
def wildcards : List Char → List Wildcard
  | [] => []
  | '\\' :: [] => [.nothing]
  | '\\' :: c :: r => .char c :: wildcards r
  | '%' :: r => .run :: wildcards r
  | '_' :: r => .one :: wildcards r
  | c :: r => .char c :: wildcards r

/-- A letter of ASCII in lower case; any other character as it is. -/
def lower (c : Char) : Char := c.toLower

/-- Whether a condition holds for some end of a text. -/
def anyEnd (p : List Char → Bool) : List Char → Bool
  | [] => p []
  | c :: r => p (c :: r) || anyEnd p r

/-- Whether a whole text matches the pieces of a pattern. -/
def matching : List Wildcard → List Char → Bool
  | [], t => t.isEmpty
  | .run :: ws, t => anyEnd (matching ws) t
  | .one :: ws, t =>
    match t with
    | [] => false
    | _ :: r => matching ws r
  | .char c :: ws, t =>
    match t with
    | [] => false
    | d :: r => lower c = lower d && matching ws r
  | .nothing :: _, _ => false

/-- Whether a whole text matches a pattern, both as they are seen. -/
def like (pattern text : List Char) : Bool :=
  matching (wildcards (seenText pattern)) (seenText text)

/-- The greatest size of a pattern in bytes. -/
def maxPattern : Nat := 50000

-- ========================================================== escaping

/-- A character that means itself in a pattern. -/
def escapeChar (c : Char) : List Char :=
  if c = '\\' ∨ c = '%' ∨ c = '_' then ['\\', c] else [c]

/-- The pattern that matches a text literally. -/
def escape (cs : List Char) : List Char := cs.flatMap escapeChar

/-- The pattern that matches every text with a given text in it. -/
def containing (cs : List Char) : List Char := '%' :: (escape cs ++ ['%'])

end DurableWorkflow.Store
