/-
Sets of characters, as they are written in a pattern: ranges and tables, and what
is built from them by union, intersection, difference and complement. `folded`
adds all characters that differ from a member only in case.
-/
import DurableWorkflow.Regex.Categories
import DurableWorkflow.Regex.Scripts
import DurableWorkflow.Regex.Properties
import DurableWorkflow.Regex.Folding

namespace DurableWorkflow.Regex

open Text (Ranges)

-- ============================================================== case

/-- A run of pairs: the first characters, the step between them, and the distance
to the second ones. -/
structure CaseRun where
  first : Nat
  last : Nat
  step : Nat
  distance : Nat

/-- Splits a text at the first of two marks; gives the mark as well. -/
def cut (a b : Char) (cs : List Char) : List Char × Option Char × List Char :=
  let front := cs.takeWhile fun c => c ≠ a && c ≠ b
  match cs.drop front.length with
  | [] => (front, none, [])
  | c :: r => (front, some c, r)

/-- Reads one run of pairs. -/
def CaseRun.read (cs : List Char) : CaseRun :=
  let (span, mark, distance) := cut '+' '/' cs
  let (low, high) := Ranges.bound span
  ⟨low, high, if mark = some '/' then 2 else 1, Ranges.ofHex distance⟩

/-- All runs of pairs. -/
def caseRuns : List CaseRun := (Ranges.words [] [] casePairs.toList).map CaseRun.read

/-- The pieces of a text between commas. -/
def commaPieces (piece : List Char) : List Char → List (List Char)
  | [] => [piece.reverse]
  | c :: r => if c = ',' then piece.reverse :: commaPieces [] r else commaPieces (c :: piece) r

/-- All larger sets. -/
def caseGroups : List (List Nat) :=
  (Ranges.words [] [] caseSets.toList).map fun w => (commaPieces [] w).map Ranges.ofHex

/-- The other character of a pair from a run. -/
def CaseRun.partners (r : CaseRun) (n : Nat) : List Nat :=
  let inRun (m : Nat) := r.first ≤ m && m ≤ r.last && (m - r.first) % r.step == 0
  (if inRun n then [n + r.distance] else [])
    ++ (if r.distance ≤ n && inRun (n - r.distance) then [n - r.distance] else [])

/-- The characters that differ from this one only in case. -/
def companions (n : Nat) : List Nat :=
  caseRuns.flatMap (·.partners n)
    ++ (caseGroups.filter (·.contains n)).flatMap (·.filter (· ≠ n))

-- ============================================================== sets

/-- A set of characters. -/
inductive CharSet
  | span (low high : Nat)
  | table (ranges : Ranges)
  | union (sets : List CharSet)
  | meet (a b : CharSet)
  | minus (a b : CharSet)
  | exclusive (a b : CharSet)
  | complement (a : CharSet)
  | folded (a : CharSet)
  | foldedAscii (a : CharSet)

namespace CharSet

/-- The letter of ASCII in the other case. -/
def swapCase (n : Nat) : Nat :=
  if 65 ≤ n ∧ n ≤ 90 then n + 32 else if 97 ≤ n ∧ n ≤ 122 then n - 32 else n

mutual

/-- Whether a code point is in a set. -/
def has (n : Nat) : CharSet → Bool
  | .span low high => low ≤ n && n ≤ high
  | .table ranges => ranges.has n
  | .union sets => hasAny n sets
  | .meet a b => has n a && has n b
  | .minus a b => has n a && !has n b
  | .exclusive a b => has n a != has n b
  | .complement a => !has n a
  | .folded a => has n a || (companions n).any fun m => has m a
  | .foldedAscii a => has n a || has (swapCase n) a

/-- Whether a code point is in one of some sets. -/
def hasAny (n : Nat) : List CharSet → Bool
  | [] => false
  | s :: ss => has n s || hasAny n ss

end

/-- One character. -/
def single (c : Char) : CharSet := .span c.toNat c.toNat

/-- No character. -/
def none : CharSet := .union []

/-- Every character. -/
def all : CharSet := .complement none

/-- Whether all bytes of a set are characters of ASCII. -/
def isAscii (s : CharSet) : Bool := (List.range 128).all fun i => !has (128 + i) s

end CharSet

-- ============================================================ tables

/-- The first table with a name. -/
def lookup (name : String) : List (List String × String) → Option CharSet
  | [] => none
  | (names, ranges) :: rest =>
    if names.contains name then some (.table (.ofText ranges)) else lookup name rest

/-- A general category or a group of them. -/
def category? (name : String) : Option CharSet :=
  if name = "any" then some .all
  else if name = "ascii" then some (.span 0 127)
  else if name = "assigned" then (lookup "cn" categories).map .complement
  else match lookup name categories with
    | some s => some s
    | none =>
      (categoryGroups.find? fun g => g.1.contains name).map fun g =>
        .union (g.2.filterMap fun member => lookup member categories)

/-- A script. -/
def script? (name : String) : Option CharSet :=
  if unknownScript.contains name then
    some (.complement (.union (scripts.map fun s => .table (.ofText s.2))))
  else lookup name scripts

/-- A script together with the characters that are used with it. -/
def scriptExtension? (name : String) : Option CharSet :=
  match lookup name commonExtensions with
  | some s => some s
  | none =>
    match script? name, lookup name scriptExtensions with
    | some s, some more => some (.union [s, more])
    | some s, none => some s
    | none, _ => none

/-- A name without what does not count in it: blanks, dashes, underscores, a
leading `is`, and the difference of case. -/
def plainName (s : String) : String :=
  let strip (cs : List Char) : List Char :=
    (cs.filter fun c => c ≠ ' ' && c ≠ '_' && c ≠ '-' && c.toNat < 128).map Char.toLower
  match s.toList with
  | a :: b :: r =>
    if (a = 'i' ∨ a = 'I') ∧ (b = 's' ∨ b = 'S') then
      match strip r with
      | ['c'] => "isc"
      | cs => String.ofList cs
    else String.ofList (strip (a :: b :: r))
  | cs => String.ofList (strip cs)

/-- The set with a name: a property, a general category or a script. Three names
are those of categories, although properties have them too. -/
def named? (name : String) : Option CharSet :=
  let plain := plainName name
  let categoryFirst := plain = "cf" || plain = "sc" || plain = "lc"
  match (if categoryFirst then none else lookup plain properties) with
  | some s => some s
  | none => (category? plain).or (script? plain)

/-- The set of the characters for which a property has a value. -/
def valued? (property value : String) : Option CharSet :=
  let property := plainName property
  let value := plainName value
  if property = "gc" || property = "generalcategory" || property = "category" then category? value
  else if property = "sc" || property = "script" then script? value
  else if property = "scx" || property = "scriptextensions" then scriptExtension? value
  else none

-- ============================================================ classes

/-- Decimal digits. -/
def digits : CharSet := (category? "nd").getD .none

/-- Blanks. -/
def blanks : CharSet := (lookup "whitespace" properties).getD .none

/-- Characters of words: letters, marks, digits, connectors and joiners. -/
def wordCharacters : CharSet :=
  .union [(lookup "alphabetic" properties).getD .none, (category? "m").getD .none, digits,
    (category? "pc").getD .none, (lookup "joincontrol" properties).getD .none]

/-- Decimal digits of ASCII. -/
def asciiDigits : CharSet := .span 48 57

/-- Blanks of ASCII. -/
def asciiBlanks : CharSet := .union [.span 9 13, .span 32 32]

/-- Characters of words of ASCII. -/
def asciiWordCharacters : CharSet := .union [.span 48 57, .span 65 90, .span 95 95, .span 97 122]

/-- The named classes of ASCII. -/
def asciiClass? : String → Option CharSet
  | "alnum" => some (.union [.span 48 57, .span 65 90, .span 97 122])
  | "alpha" => some (.union [.span 65 90, .span 97 122])
  | "ascii" => some (.span 0 127)
  | "blank" => some (.union [.span 9 9, .span 32 32])
  | "cntrl" => some (.union [.span 0 31, .span 127 127])
  | "digit" => some asciiDigits
  | "graph" => some (.span 33 126)
  | "lower" => some (.span 97 122)
  | "print" => some (.span 32 126)
  | "punct" => some (.union [.span 33 47, .span 58 64, .span 91 96, .span 123 126])
  | "space" => some asciiBlanks
  | "upper" => some (.span 65 90)
  | "word" => some asciiWordCharacters
  | "xdigit" => some (.union [.span 48 57, .span 65 70, .span 97 102])
  | _ => none

end DurableWorkflow.Regex
