/-
Sets of characters as ranges of code points in ascending order. The large ones
are data of the character standard; they are written as hexadecimal text and
read once.
-/
import DurableWorkflow.Text.Blank

namespace DurableWorkflow.Text

/-- Ranges of code points, both ends included, apart and in ascending order. -/
structure Ranges where
  bounds : Array (Nat × Nat)

namespace Ranges

/-- Looks for a range with the code point among those from `low` up to below
`high`. -/
def search (r : Array (Nat × Nat)) (n : Nat) : Nat → Nat → Nat → Bool
  | 0, _, _ => false
  | fuel + 1, low, high =>
    if high ≤ low then false
    else
      let mid := (low + high) / 2
      match r[mid]? with
      | none => false
      | some (a, b) =>
        if n < a then search r n fuel low mid
        else if b < n then search r n fuel (mid + 1) high
        else true

/-- Whether a code point is in the set. -/
def has (r : Ranges) (n : Nat) : Bool := search r.bounds n 32 0 r.bounds.size

/-- The number that a run of hexadecimal digits writes. -/
def ofHex (cs : List Char) : Nat :=
  cs.foldl (fun n c => 16 * n + (if c.toNat < 58 then c.toNat - 48 else c.toNat - 55)) 0

/-- One range: a code point, or two with a dash between them. -/
def bound (cs : List Char) : Nat × Nat :=
  match cs.dropWhile (· ≠ '-') with
  | [] => (ofHex cs, ofHex cs)
  | _ :: r => (ofHex (cs.takeWhile (· ≠ '-')), ofHex r)

/-- The pieces of a text between its blanks, the last one first. -/
def words (done : List (List Char)) (word : List Char) : List Char → List (List Char)
  | [] => if word.isEmpty then done else word.reverse :: done
  | c :: r =>
    if isBlank c then words (if word.isEmpty then done else word.reverse :: done) [] r
    else words done (c :: word) r

/-- Reads ranges from their text. -/
def ofText (s : String) : Ranges := ⟨((words [] [] s.toList).reverse.map bound).toArray⟩

end Ranges

end DurableWorkflow.Text
