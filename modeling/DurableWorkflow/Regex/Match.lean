/-
Whether a pattern occurs in a text. A position lies before a character or at the
end, and a set of positions is a number with a bit for each of them. A pattern
leads from the positions where an occurrence may begin to those where it may end,
so a repetition is followed until it reaches no new position. The work is bounded
by the lengths of pattern and text, however the pattern is nested.
-/
import DurableWorkflow.Regex.Pattern

namespace DurableWorkflow.Regex

-- ========================================================= positions

/-- The positions before a character of a set. -/
def CharSet.positions (s : CharSet) : List Char → Nat
  | [] => 0
  | c :: r => (if s.has c.toNat then 1 else 0) + 2 * s.positions r

/-- Whether a character belongs to a word. -/
def inWord (unicode : Bool) (c : Option Char) : Bool :=
  match c with
  | none => false
  | some c => (if unicode then wordCharacters else asciiWordCharacters).has c.toNat

/-- Whether a condition holds between two characters; there is none before the
beginning and after the end. -/
def Look.holds (l : Look) (before after : Option Char) : Bool :=
  let a := inWord l.unicode before
  let b := inWord l.unicode after
  match l.mark with
  | .textStart => before.isNone
  | .textEnd => after.isNone
  | .lineStart =>
    before.isNone || (l.multiLine &&
      (before = some '\n' || (l.carriageReturn && before = some '\r' && after ≠ some '\n')))
  | .lineEnd =>
    after.isNone || (l.multiLine &&
      (if l.carriageReturn then
        after = some '\r' || (after = some '\n' && before ≠ some '\r')
      else after = some '\n'))
  | .boundary => a != b
  | .notBoundary => a == b
  | .wordStart => !a && b
  | .wordEnd => a && !b
  | .wordStartHalf => !a
  | .wordEndHalf => !b

/-- The positions where a condition holds; `before` is the last character so
far. -/
def Look.positions (l : Look) (before : Option Char) : List Char → Nat
  | [] => if l.holds before none then 1 else 0
  | c :: r => (if l.holds before (some c) then 1 else 0) + 2 * l.positions (some c) r

-- ============================================================= steps

/-- A pattern with the positions of one text filled in. -/
inductive Steps
  | stay
  | advance (places : Nat)
  | check (places : Nat)
  | seq (a b : Steps)
  | alt (a b : Steps)
  | repeated (a : Steps) (least : Nat) (most : Option Nat)

/-- Fills in the positions of a text. -/
def Pattern.steps (text : List Char) : Pattern → Steps
  | .empty => .stay
  | .chars s => .advance (s.positions text)
  | .look l => .check (l.positions none text)
  | .seq a b => .seq (a.steps text) (b.steps text)
  | .alt a b => .alt (a.steps text) (b.steps text)
  | .repeated a least most => .repeated (a.steps text) least most

/-- Applies a function a number of times, or until nothing is left. -/
def iterate (f : Nat → Nat) : Nat → Nat → Nat
  | 0, s => s
  | k + 1, s => if s = 0 then 0 else iterate f k (f s)

/-- Adds the positions that are reached in at most so many steps; `fresh` are
those that were reached last. -/
def spread (f : Nat → Nat) : Nat → Nat → Nat → Nat
  | 0, reached, _ => reached
  | k + 1, reached, fresh =>
    let next := f fresh
    let new := next ^^^ (next &&& reached)
    if new = 0 then reached else spread f k (reached ||| new) new

/-- The positions where occurrences end that begin at some positions of a text
with `size` characters. -/
def Steps.ends (size : Nat) : Steps → Nat → Nat
  | .stay, s => s
  | .advance places, s => (s &&& places) <<< 1
  | .check places, s => s &&& places
  | .seq a b, s => b.ends size (a.ends size s)
  | .alt a b, s => a.ends size s ||| b.ends size s
  | .repeated a least most, s =>
    let start := iterate (a.ends size) (min least (size + 1)) s
    let more := match most with
      | none => size + 1
      | some m => min (m - least) (size + 1)
    spread (a.ends size) more start start

/-- Whether a pattern occurs in a text. -/
def Pattern.occursIn (p : Pattern) (text : List Char) : Bool :=
  let size := text.length
  (p.steps text).ends size ((1 <<< (size + 1)) - 1) ≠ 0

/-- Whether the pattern that a text writes occurs in another text; a text that
writes no pattern occurs nowhere. -/
def occurs (pattern text : String) : Bool :=
  match Pattern.read pattern.toList with
  | none => false
  | some p => p.occursIn text.toList

end DurableWorkflow.Regex
