/-
The text of a value is read as one document, all of it, and nothing of what
follows it. `written` is that document: it has the shape of the value, its strings
and names are those of the value, and of a number it says what reading the number
says. Typed data from a text that was written are data from that document, so
whatever is to be said about them can be said without the reader
(`ofText_text`).

The proof is an induction over the value, with one step for each piece of a list
or an object, and with as much fuel as the text is long.
-/
import DurableWorkflow.Json.Decoder
import DurableWorkflow.Proofs.Json.Numbers
import DurableWorkflow.Proofs.Json.Strings

namespace DurableWorkflow.Json

open Decimal (isDigit)
open Value (itemChars memberChars quote)

variable {c : Char} {cs r rest after : List Char} {fuel depth : Nat} {v : Value} {d : Document}

-- ==================================================== what is written

/-- The items after the first of an array, each with its comma, and the closing
bracket. -/
def itemTail : List Value → List Char
  | [] => [']']
  | v :: vs => ',' :: (v.chars ++ itemTail vs)

/-- The members after the first of an object, each with its comma, and the closing
brace. -/
def memberTail : List (String × Value) → List Char
  | [] => ['\x7d']
  | (k, v) :: ms => ',' :: (quote k ++ ':' :: (v.chars ++ memberTail ms))

theorem itemChars_cons (v : Value) (vs : List Value) :
    itemChars (v :: vs) = v.chars ++ itemTail vs := by
  induction vs generalizing v with
  | nil => rfl
  | cons w vs ih =>
      show v.chars ++ ',' :: itemChars (w :: vs) = _
      rw [ih w]
      rfl

theorem memberChars_cons (k : String) (v : Value) (ms : List (String × Value)) :
    memberChars ((k, v) :: ms) = quote k ++ ':' :: (v.chars ++ memberTail ms) := by
  induction ms generalizing k v with
  | nil => rfl
  | cons m ms ih =>
      show quote k ++ ':' :: (v.chars ++ ',' :: memberChars ((m.1, m.2) :: ms)) = _
      rw [ih m.1 m.2]
      rfl

/-- The document that the text of a number is read as. -/
def writtenNumber (rest : List Char) : List Char → Document
  | '-' :: r => (numberPiece ('-' :: (r ++ rest)) true (r ++ rest)).1
  | cs => (numberPiece (cs ++ rest) false (cs ++ rest)).1

mutual

/-- The document that the text of a value is read as, where `rest` follows it. -/
def written (depth : Nat) (rest : List Char) : Value → Document
  | .null => .null (span 0 ('n' :: 'u' :: 'l' :: 'l' :: rest) rest)
  | .bool true => .bool (span 0 ('t' :: 'r' :: 'u' :: 'e' :: rest) rest) true
  | .bool false => .bool (span 0 ('f' :: 'a' :: 'l' :: 's' :: 'e' :: rest) rest) false
  | .int n => writtenNumber rest (Value.digits n)
  | .real x =>
    if x.isFinite then writtenNumber rest (Decimal.text x)
    else .null (span 0 ('n' :: 'u' :: 'l' :: 'l' :: rest) rest)
  | .string s => .string (span 0 (quote s ++ rest) rest) s
  | .array items =>
    .array (span depth ('[' :: (itemChars items ++ rest)) rest)
      (writtenItems (depth + 1) rest items) .closed
  | .object members =>
    .object (span depth ('\x7b' :: (memberChars members ++ rest)) rest)
      (writtenMembers (depth + 1) rest members) .closed

/-- The items of an array that was written. -/
def writtenItems (depth : Nat) (rest : List Char) : List Value → List Document
  | [] => []
  | v :: vs => written depth (itemTail vs ++ rest) v :: writtenItems depth rest vs

/-- The members of an object that was written. -/
def writtenMembers (depth : Nat) (rest : List Char) :
    List (String × Value) → List (Key × Document)
  | [] => []
  | (k, v) :: ms =>
    (⟨.ok k, ':' :: (v.chars ++ (memberTail ms ++ rest))⟩,
      written depth (memberTail ms ++ rest) v) :: writtenMembers depth rest ms

end

-- ============================================================ atoms

/-- A text that begins neither with a blank nor with the end of a list. -/
def Begins (cs : List Char) : Prop := ∃ c r, cs = c :: r ∧ isBlank c = false ∧ c ≠ ']'

theorem skipBlanks_cons (h : isBlank c = false) : skipBlanks (c :: r) = c :: r :=
  List.dropWhile_cons_of_neg (by rw [h]; exact Bool.false_ne_true)

/-- A digit is no other character that has a meaning of its own. -/
theorem ne_of_isDigit (h : isDigit c = true) {x : Char} (hx : isDigit x = false) : c ≠ x := by
  rintro rfl
  rw [h] at hx
  cases hx

theorem isBlank_of_isDigit (h : isDigit c = true) : isBlank c = false := by
  have hspace := ne_of_isDigit h (x := ' ') (by decide)
  have hline := ne_of_isDigit h (x := '\n') (by decide)
  have htab := ne_of_isDigit h (x := '\t') (by decide)
  have hreturn := ne_of_isDigit h (x := '\r') (by decide)
  simp [isBlank, hspace, hline, htab, hreturn]

/-- What begins with a digit is read as a number. -/
theorem readValue_digit (h : isDigit c = true) :
    readValue (fuel + 1) depth (c :: r) = numberPiece (c :: r) false (c :: r) := by
  have hne : ∀ x : Char, isDigit x = false → c ≠ x := fun x hx => ne_of_isDigit h hx
  rw [readValue.eq_def]
  simp only [skipBlanks_cons (isBlank_of_isDigit h)]
  split
  next heq => cases heq
  next heq => exact absurd (List.cons.inj heq).1 (hne _ (by decide))
  next heq => exact absurd (List.cons.inj heq).1 (hne _ (by decide))
  next heq => exact absurd (List.cons.inj heq).1 (hne _ (by decide))
  next heq => exact absurd (List.cons.inj heq).1 (hne _ (by decide))
  next heq => exact absurd (List.cons.inj heq).1 (hne _ (by decide))
  next heq => exact absurd (List.cons.inj heq).1 (hne _ (by decide))
  next heq => exact absurd (List.cons.inj heq).1 (hne _ (by decide))
  next heq =>
    obtain ⟨rfl, rfl⟩ := List.cons.inj heq
    rw [if_pos h]

/-- A number begins with a digit or with its sign. -/
theorem Written.cases_cons (h : Written cs) :
    (∃ ds ts, cs = '-' :: (ds ++ ts) ∧ Numeral ds ts) ∨
      ∃ c ds ts, cs = (c :: ds) ++ ts ∧ Numeral (c :: ds) ts ∧ isDigit c = true := by
  cases h with
  | negative h => exact .inl ⟨_, _, rfl, h⟩
  | @plain ds ts h =>
      cases ds with
      | nil => exact absurd rfl h.digits.some
      | cons c ds => exact .inr ⟨c, ds, ts, rfl, h, h.digits.all c List.mem_cons_self⟩

/-- The text of a number is read as that number, and nothing else of the text. -/
theorem readValue_number (h : Written cs) (hrest : Ends rest) :
    readValue (fuel + 1) depth (cs ++ rest) = (writtenNumber rest cs, some rest) := by
  rcases h.cases_cons with ⟨ds, ts, rfl, hnumeral⟩ | ⟨c, ds, ts, rfl, hnumeral, hc⟩
  · have hleft := hnumeral.left hrest ('-' :: (ds ++ ts ++ rest)) true
    rw [← List.append_assoc] at hleft
    exact Prod.ext rfl hleft
  · have hleft := hnumeral.left hrest ((c :: ds) ++ ts ++ rest) false
    rw [← List.append_assoc] at hleft
    have hwritten : writtenNumber rest ((c :: ds) ++ ts)
        = (numberPiece ((c :: ds) ++ ts ++ rest) false ((c :: ds) ++ ts ++ rest)).1 := by
      rw [List.cons_append, writtenNumber.eq_def]
      split
      next heq => exact absurd (List.cons.inj heq).1 (ne_of_isDigit hc (by decide))
      next => rfl
    have hread : readValue (fuel + 1) depth ((c :: ds) ++ ts ++ rest)
        = numberPiece ((c :: ds) ++ ts ++ rest) false ((c :: ds) ++ ts ++ rest) :=
      readValue_digit hc
    rw [hread, hwritten]
    exact Prod.ext rfl hleft

theorem Written.begins (h : Written cs) : Begins cs := by
  rcases h.cases_cons with ⟨ds, ts, rfl, -⟩ | ⟨c, ds, ts, rfl, -, hc⟩
  · exact ⟨'-', _, rfl, by decide, by decide⟩
  · exact ⟨c, _, rfl, isBlank_of_isDigit hc, ne_of_isDigit hc (by decide)⟩

/-- The text of a value begins with neither a blank nor the end of a list. -/
theorem chars_begins (v : Value) : Begins v.chars := by
  cases v with
  | null => exact ⟨'n', _, rfl, by decide, by decide⟩
  | bool b =>
      cases b
      · exact ⟨'f', _, rfl, by decide, by decide⟩
      · exact ⟨'t', _, rfl, by decide, by decide⟩
  | int n => exact (written_digits n).begins
  | real x =>
      show Begins (Value.floatText x)
      unfold Value.floatText
      split
      · exact (written_text x).begins
      · exact ⟨'n', _, rfl, by decide, by decide⟩
  | string s => exact ⟨'"', _, rfl, by decide, by decide⟩
  | array items => exact ⟨'[', _, rfl, by decide, by decide⟩
  | object members => exact ⟨'\x7b', _, rfl, by decide, by decide⟩

theorem chars_length_pos (v : Value) : 1 ≤ v.chars.length := by
  obtain ⟨c, r, h, -⟩ := chars_begins v
  rw [h, List.length_cons]
  omega

-- ====================================================== one more piece

/-- A list ends with its bracket. -/
theorem readItems_close (first : Bool) :
    readItems (fuel + 1) depth first (']' :: r) = ([], .closed, some r) := rfl

/-- An object ends with its brace. -/
theorem readMembers_close (first : Bool) :
    readMembers (fuel + 1) depth first ('\x7d' :: r) = ([], .closed, some r) := rfl

/-- The first item of a list. -/
theorem readItems_first {ds : List Document} {ending : Ending} {left : Option (List Char)}
    (hcs : Begins cs) (hd : readValue fuel depth cs = (d, some after))
    (hds : readItems fuel depth false after = (ds, ending, left)) :
    readItems (fuel + 1) depth true cs = (d :: ds, ending, left) := by
  obtain ⟨c, r, rfl, hblank, hbracket⟩ := hcs
  rw [readItems.eq_def]
  simp only [skipBlanks_cons hblank, hd, hds, if_true]

/-- An item after a comma. -/
theorem readItems_next {ds : List Document} {ending : Ending} {left : Option (List Char)}
    (hcs : Begins cs) (hd : readValue fuel depth cs = (d, some after))
    (hds : readItems fuel depth false after = (ds, ending, left)) :
    readItems (fuel + 1) depth false (',' :: cs) = (d :: ds, ending, left) := by
  obtain ⟨c, r, rfl, hblank, hbracket⟩ := hcs
  have hcomma : skipBlanks (',' :: c :: r) = ',' :: c :: r := skipBlanks_cons (by decide)
  rw [readItems.eq_def]
  simp only [hcomma]
  split
  next heq => cases heq
  next heq => exact absurd (List.cons.inj heq).1 (by decide)
  next heq =>
    obtain ⟨rfl, rfl⟩ := List.cons.inj heq
    rw [if_neg Bool.false_ne_true, if_pos rfl, skipBlanks_cons hblank]
    split
    next heq => cases heq
    next heq => exact absurd (List.cons.inj heq).1 hbracket
    next => simp only [hd, hds]

section members

variable {k : String} {ms : List (Key × Document)} {ending : Ending} {left : Option (List Char)}

/-- The first member of an object. -/
theorem readMembers_first (hd : readValue fuel depth cs = (d, some after))
    (hms : readMembers fuel depth false after = (ms, ending, left)) :
    readMembers (fuel + 1) depth true (quote k ++ ':' :: cs)
      = ((⟨.ok k, ':' :: cs⟩, d) :: ms, ending, left) := by
  have hquote : skipBlanks ('"' :: (closing k ++ ':' :: cs)) = '"' :: (closing k ++ ':' :: cs) :=
    skipBlanks_cons (by decide)
  have hcolon : skipBlanks (':' :: cs) = ':' :: cs := skipBlanks_cons (by decide)
  rw [quote_eq, List.cons_append, readMembers.eq_def]
  simp only [hquote]
  split
  next heq => cases heq
  next heq => exact absurd (List.cons.inj heq).1 (by decide)
  next heq =>
    obtain ⟨rfl, rfl⟩ := List.cons.inj heq
    simp only [if_true, readName_closing, hcolon, hd, hms]

/-- A member after a comma. -/
theorem readMembers_next (hd : readValue fuel depth cs = (d, some after))
    (hms : readMembers fuel depth false after = (ms, ending, left)) :
    readMembers (fuel + 1) depth false (',' :: (quote k ++ ':' :: cs))
      = ((⟨.ok k, ':' :: cs⟩, d) :: ms, ending, left) := by
  have hcomma : skipBlanks (',' :: '"' :: (closing k ++ ':' :: cs))
      = ',' :: '"' :: (closing k ++ ':' :: cs) := skipBlanks_cons (by decide)
  have hquote : skipBlanks ('"' :: (closing k ++ ':' :: cs)) = '"' :: (closing k ++ ':' :: cs) :=
    skipBlanks_cons (by decide)
  have hcolon : skipBlanks (':' :: cs) = ':' :: cs := skipBlanks_cons (by decide)
  rw [quote_eq, List.cons_append, readMembers.eq_def]
  simp only [hcomma]
  split
  next heq => cases heq
  next heq => exact absurd (List.cons.inj heq).1 (by decide)
  next heq =>
    obtain ⟨rfl, rfl⟩ := List.cons.inj heq
    rw [if_neg Bool.false_ne_true, if_pos rfl, hquote]
    split
    next heq => cases heq
    next heq =>
      obtain ⟨-, rfl⟩ := List.cons.inj heq
      simp only [readName_closing, hcolon, hd, hms]
    next heq => exact absurd (List.cons.inj heq).1 (by decide)
    next hne _ => exact absurd rfl (hne _)

end members

-- ============================================================ values

theorem Begins.append (h : Begins cs) : Begins (cs ++ r) := by
  obtain ⟨c, cs, rfl, hblank, hbracket⟩ := h
  exact ⟨c, cs ++ r, rfl, hblank, hbracket⟩

theorem itemTail_length_pos (vs : List Value) : 1 ≤ (itemTail vs).length := by
  cases vs <;> simp [itemTail]

/-- Behind an item stands a comma or the bracket. -/
theorem ends_itemTail (vs : List Value) (rest : List Char) : Ends (itemTail vs ++ rest) := by
  cases vs with
  | nil => exact ends_cons (.inr (.inl rfl)) _
  | cons v vs => exact ends_cons (.inl rfl) _

/-- Behind a member stands a comma or the brace. -/
theorem ends_memberTail (ms : List (String × Value)) (rest : List Char) :
    Ends (memberTail ms ++ rest) := by
  cases ms with
  | nil => exact ends_cons (.inr (.inr rfl)) _
  | cons m ms => exact ends_cons (.inl rfl) _

/-- There is fuel for one more piece. -/
theorem exists_succ {n : Nat} (h : n + 1 ≤ fuel) : ∃ k, fuel = k + 1 := ⟨fuel - 1, by omega⟩

mutual

/-- The text of a value is read as the document of the value, and nothing else of
the text. -/
theorem readValue_chars (depth : Nat) (v : Value) {fuel : Nat} {rest : List Char}
    (hfuel : v.chars.length ≤ fuel) (hrest : Ends rest) :
    readValue fuel depth (v.chars ++ rest) = (written depth rest v, some rest) := by
  have hpos := chars_length_pos v
  obtain ⟨fuel, rfl⟩ : ∃ k, fuel = k + 1 := ⟨fuel - 1, by omega⟩
  match v with
  | .null => rfl
  | .bool true => rfl
  | .bool false => rfl
  | .int n => exact readValue_number (written_digits n) hrest
  | .real x =>
      show readValue (fuel + 1) depth (Value.floatText x ++ rest) = _
      unfold Value.floatText written
      split
      next => exact readValue_number (written_text x) hrest
      next => rfl
  | .string s => exact stringPiece_closing _ s rest
  | .array items =>
      have hitems : readItems fuel (depth + 1) true (itemChars items ++ rest)
          = (writtenItems (depth + 1) rest items, .closed, some rest) :=
        readItems_chars (depth + 1) items (Nat.le_of_succ_le_succ hfuel)
      show readValue (fuel + 1) depth ('[' :: (itemChars items ++ rest)) = _
      rw [readValue.eq_def]
      simp only [show skipBlanks ('[' :: (itemChars items ++ rest))
        = '[' :: (itemChars items ++ rest) from skipBlanks_cons (by decide), hitems]
      rfl
  | .object members =>
      have hmembers : readMembers fuel (depth + 1) true (memberChars members ++ rest)
          = (writtenMembers (depth + 1) rest members, .closed, some rest) :=
        readMembers_chars (depth + 1) members (Nat.le_of_succ_le_succ hfuel)
      show readValue (fuel + 1) depth ('\x7b' :: (memberChars members ++ rest)) = _
      rw [readValue.eq_def]
      simp only [show skipBlanks ('\x7b' :: (memberChars members ++ rest))
        = '\x7b' :: (memberChars members ++ rest) from skipBlanks_cons (by decide), hmembers]
      rfl

/-- The items of an array are read up to its bracket. -/
theorem readItems_chars (depth : Nat) (items : List Value) {fuel : Nat} {rest : List Char}
    (hfuel : (itemChars items).length ≤ fuel) :
    readItems fuel depth true (itemChars items ++ rest)
      = (writtenItems depth rest items, .closed, some rest) := by
  match items with
  | [] =>
      obtain ⟨fuel, rfl⟩ : ∃ k, fuel = k + 1 := exists_succ hfuel
      exact readItems_close true
  | v :: vs =>
      rw [itemChars_cons, List.length_append] at hfuel
      have hv := chars_length_pos v
      have hvs := itemTail_length_pos vs
      obtain ⟨fuel, rfl⟩ : ∃ k, fuel = k + 1 := ⟨fuel - 1, by omega⟩
      rw [itemChars_cons, List.append_assoc]
      exact readItems_first (chars_begins v).append
        (readValue_chars depth v (by omega) (ends_itemTail vs rest))
        (readItems_tail depth vs (by omega))

/-- The further items of an array are read up to its bracket. -/
theorem readItems_tail (depth : Nat) (items : List Value) {fuel : Nat} {rest : List Char}
    (hfuel : (itemTail items).length ≤ fuel) :
    readItems fuel depth false (itemTail items ++ rest)
      = (writtenItems depth rest items, .closed, some rest) := by
  match items with
  | [] =>
      obtain ⟨fuel, rfl⟩ : ∃ k, fuel = k + 1 := exists_succ hfuel
      exact readItems_close false
  | v :: vs =>
      rw [itemTail, List.length_cons, List.length_append] at hfuel
      have hvs := itemTail_length_pos vs
      obtain ⟨fuel, rfl⟩ : ∃ k, fuel = k + 1 := ⟨fuel - 1, by omega⟩
      rw [itemTail, List.cons_append, List.append_assoc]
      exact readItems_next (chars_begins v).append
        (readValue_chars depth v (by omega) (ends_itemTail vs rest))
        (readItems_tail depth vs (by omega))

/-- The members of an object are read up to its brace. -/
theorem readMembers_chars (depth : Nat) (members : List (String × Value)) {fuel : Nat}
    {rest : List Char} (hfuel : (memberChars members).length ≤ fuel) :
    readMembers fuel depth true (memberChars members ++ rest)
      = (writtenMembers depth rest members, .closed, some rest) := by
  match members with
  | [] =>
      obtain ⟨fuel, rfl⟩ : ∃ k, fuel = k + 1 := exists_succ hfuel
      exact readMembers_close true
  | (k, v) :: ms =>
      rw [memberChars_cons, List.length_append, List.length_cons, List.length_append] at hfuel
      obtain ⟨fuel, rfl⟩ : ∃ k, fuel = k + 1 := ⟨fuel - 1, by omega⟩
      rw [memberChars_cons, List.append_assoc, List.cons_append, List.append_assoc]
      exact readMembers_first (readValue_chars depth v (by omega) (ends_memberTail ms rest))
        (readMembers_tail depth ms (by omega))

/-- The further members of an object are read up to its brace. -/
theorem readMembers_tail (depth : Nat) (members : List (String × Value)) {fuel : Nat}
    {rest : List Char} (hfuel : (memberTail members).length ≤ fuel) :
    readMembers fuel depth false (memberTail members ++ rest)
      = (writtenMembers depth rest members, .closed, some rest) := by
  match members with
  | [] =>
      obtain ⟨fuel, rfl⟩ : ∃ k, fuel = k + 1 := exists_succ hfuel
      exact readMembers_close false
  | (k, v) :: ms =>
      rw [memberTail, List.length_cons, List.length_append, List.length_cons,
        List.length_append] at hfuel
      obtain ⟨fuel, rfl⟩ : ∃ k, fuel = k + 1 := ⟨fuel - 1, by omega⟩
      rw [memberTail, List.cons_append, List.append_assoc, List.cons_append, List.append_assoc]
      exact readMembers_next (readValue_chars depth v (by omega) (ends_memberTail ms rest))
        (readMembers_tail depth ms (by omega))

end

-- ========================================================= documents

/-- The text of a value is one document. -/
theorem document_chars (v : Value) : document v.chars = (written 0 [] v, some []) := by
  have h : readValue (2 * v.chars.length + 2) 0 (v.chars ++ []) = (written 0 [] v, some []) :=
    readValue_chars 0 v (by omega) ends_nil
  rw [List.append_nil] at h
  exact h

/-- Typed data from the text of a value are data from its document. -/
theorem ofText_text {α : Type} (read : Decoder α) (v : Value) (a : α) :
    Decoder.ofText read v.text = .ok a ↔ read (written 0 [] v) = .ok a := by
  have hchars : Decoder.ofChars read v.chars = read (written 0 [] v) := by
    unfold Decoder.ofChars
    rw [document_chars]
    exact bind_pure _
  unfold Decoder.ofText Value.text
  rw [String.toList_ofList, hchars]
  cases read (written 0 [] v) <;> simp

/-- Nothing is read from the text of nothing. -/
theorem ofText_null : Decoder.ofText Decoder.value Value.null.text = .ok .null :=
  (ofText_text _ _ _).mpr rfl

/-- A list without items is read as such. -/
theorem ofText_nil {α : Type} (read : Decoder α) :
    Decoder.ofText (Decoder.list read) (Value.array []).text = .ok [] :=
  (ofText_text _ _ _).mpr rfl

/-- A map without members is read as such. -/
theorem ofText_empty {α : Type} (read : Decoder α) :
    Decoder.ofText (Decoder.dict read) (Value.object []).text = .ok [] :=
  (ofText_text _ _ _).mpr rfl

end DurableWorkflow.Json
