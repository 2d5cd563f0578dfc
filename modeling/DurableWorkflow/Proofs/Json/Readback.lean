/-
A value is read back from its text, if it is nested no more deeply than the reader
follows; and if it is nested more deeply, it is not read at all.

The reader follows lists and objects through `maxDepth` levels, the writer through
any number of them. So how many levels a value has (`Value.levels`) decides whether
it comes back, together with the place at which it is written: what stands inside of
another value has fewer levels left (`value_written`, `value_written_deep`).

Besides this a value comes back if its whole numbers have 64 bits and its objects
are in the order of their names, as in any value in memory (`Value.fits`), and if its
floats are read back (`Value.exact`).
-/
import DurableWorkflow.Proofs.Dict
import DurableWorkflow.Proofs.Json.Figures
import DurableWorkflow.Proofs.Json.Records

namespace DurableWorkflow

-- ============================================================= parts

namespace Value

mutual

/-- Whether something holds of a value and of all its parts. -/
def Every (p : Value → Prop) : Value → Prop
  | .array items => p (.array items) ∧ EveryItem p items
  | .object members => p (.object members) ∧ EveryMember p members
  | v => p v

/-- Whether something holds of some items and of all their parts. -/
def EveryItem (p : Value → Prop) : List Value → Prop
  | [] => True
  | v :: vs => Every p v ∧ EveryItem p vs

/-- Whether something holds of the values of some members and of all their parts. -/
def EveryMember (p : Value → Prop) : List (String × Value) → Prop
  | [] => True
  | (_, v) :: ms => Every p v ∧ EveryMember p ms

end

mutual

/-- Through how many levels of lists and objects a value is nested. -/
def levels : Value → Nat
  | .array items => itemLevels items + 1
  | .object members => memberLevels members + 1
  | _ => 0

/-- The levels of the deepest of some items. -/
def itemLevels : List Value → Nat
  | [] => 0
  | v :: vs => max (levels v) (itemLevels vs)

/-- The levels of the deepest of some members. -/
def memberLevels : List (String × Value) → Nat
  | [] => 0
  | (_, v) :: ms => max (levels v) (memberLevels ms)

end

variable {p : Value → Prop} {v : Value} {n : Nat}

theorem everyItem_iff {vs : List Value} : EveryItem p vs ↔ ∀ v ∈ vs, v.Every p := by
  induction vs with
  | nil => exact iff_of_true trivial fun _ h => by cases h
  | cons v vs ih => rw [EveryItem, ih, List.forall_mem_cons]

theorem everyMember_iff {ms : List (String × Value)} :
    EveryMember p ms ↔ ∀ m ∈ ms, m.2.Every p := by
  induction ms with
  | nil => exact iff_of_true trivial fun _ h => by cases h
  | cons m ms ih => rw [EveryMember, ih, List.forall_mem_cons]

theorem itemLevels_le_iff {vs : List Value} : itemLevels vs ≤ n ↔ ∀ v ∈ vs, v.levels ≤ n := by
  induction vs with
  | nil => exact iff_of_true (Nat.zero_le n) fun _ h => by cases h
  | cons v vs ih => rw [itemLevels, Nat.max_le, ih, List.forall_mem_cons]

theorem memberLevels_le_iff {ms : List (String × Value)} :
    memberLevels ms ≤ n ↔ ∀ m ∈ ms, m.2.levels ≤ n := by
  induction ms with
  | nil => exact iff_of_true (Nat.zero_le n) fun _ h => by cases h
  | cons m ms ih => rw [memberLevels, Nat.max_le, ih, List.forall_mem_cons]

/-- A value as it can be in memory: its whole numbers have 64 bits, and its objects are
in the order of their names. -/
def fits : Value → Prop
  | .int n => Json.InRange n
  | .object members => Dict.Sorted members
  | _ => True

/-- A value that is no float, or one that is read back. -/
def exact : Value → Prop
  | .real x => Json.Exact x
  | _ => True

end Value

namespace Json

variable {rest : List Char} {depth : Nat}

-- ======================================================= what is read

/-- A list or an object may be read where there is a level left. -/
theorem guardDepth_span (start stop : List Char) (h : depth + 1 ≤ maxDepth) :
    Document.guardDepth (span depth start stop) = .ok () := by
  unfold Document.guardDepth span
  rw [if_neg]
  · rfl
  · rw [decide_eq_true_eq]
    omega

/-- It may not be read where there is none left. -/
theorem guardDepth_deep (start stop : List Char) (h : maxDepth ≤ depth) :
    Document.guardDepth (span depth start stop)
      = .error (.looking .nestedTooDeep start) := by
  unfold Document.guardDepth span
  rw [if_pos]
  · rfl
  · rw [decide_eq_true_eq]
    exact h

mutual

/-- A value is read back where there are levels enough left for it. -/
theorem value_written (depth : Nat) (v : Value) {rest : List Char} (hfits : v.Every Value.fits)
    (hexact : v.Every Value.exact) (hdepth : depth + v.levels ≤ maxDepth) (hrest : Ends rest) :
    Document.value (written depth rest v) = .ok v := by
  match v with
  | .null => rfl
  | .bool true => rfl
  | .bool false => rfl
  | .int n =>
      unfold written
      rw [writtenNumber_digits hfits hrest]
      rfl
  | .real x => exact Exact.value_written hexact depth hrest
  | .string s => rfl
  | .array items =>
      rw [Value.levels] at hdepth
      unfold written Document.value
      rw [guardDepth_span _ _ (by omega),
        valueItems_written (depth + 1) items hfits.2 hexact.2 (by omega)]
      rfl
  | .object members =>
      rw [Value.levels] at hdepth
      unfold written Document.value
      rw [guardDepth_span _ _ (by omega),
        valueMembers_written (depth + 1) rest [] members hfits.1 hfits.2 hexact.2 (by omega)]
      rfl

/-- The items of an array are read back. -/
theorem valueItems_written (depth : Nat) (items : List Value) {rest : List Char}
    (hfits : Value.EveryItem Value.fits items) (hexact : Value.EveryItem Value.exact items)
    (hdepth : depth + Value.itemLevels items ≤ maxDepth) :
    Document.valueItems (writtenItems depth rest items) = .ok items := by
  match items with
  | [] => rfl
  | v :: vs =>
      rw [Value.itemLevels] at hdepth
      unfold writtenItems Document.valueItems
      rw [value_written depth v hfits.1 hexact.1 (by omega) (ends_itemTail vs rest),
        valueItems_written depth vs hfits.2 hexact.2 (by omega)]
      rfl

/-- The members of an object are read back, after those that were read before. -/
theorem valueMembers_written (depth : Nat) (rest : List Char) (found members : Dict Value)
    (hsorted : Dict.Sorted (found ++ members)) (hfits : Value.EveryMember Value.fits members)
    (hexact : Value.EveryMember Value.exact members)
    (hdepth : depth + Value.memberLevels members ≤ maxDepth) :
    Document.valueMembers found (writtenMembers depth rest members) = .ok (found ++ members) := by
  match members with
  | [] =>
      rw [List.append_nil]
      rfl
  | (k, v) :: ms =>
      rw [Value.memberLevels] at hdepth
      have happend : found ++ (k, v) :: ms = found ++ [(k, v)] ++ ms := by
        rw [List.append_assoc, List.singleton_append]
      rw [happend] at hsorted ⊢
      have hinsert : Dict.insert found k v = found ++ [(k, v)] :=
        Dict.insert_append (List.Pairwise.sublist (List.sublist_append_left _ _) hsorted)
      have hrest := valueMembers_written depth rest (found ++ [(k, v)]) ms hsorted
        hfits.2 hexact.2 (by omega)
      unfold writtenMembers Document.valueMembers
      rw [value_written depth v hfits.1 hexact.1 (by omega) (ends_memberTail ms rest)]
      simp only [bind, Except.bind, hinsert, hrest]

end

mutual

/-- A value is not read where there are not levels enough left for it. -/
theorem value_written_deep (depth : Nat) (v : Value) {rest : List Char} (hin : depth ≤ maxDepth)
    (hdepth : maxDepth < depth + v.levels) (a : Value) :
    Document.value (written depth rest v) ≠ .ok a := by
  match v with
  | .array items =>
      intro h
      rw [Value.levels] at hdepth
      unfold written Document.value at h
      obtain ⟨_, hguard, h⟩ := Decoder.bind_eq_ok.mp h
      obtain ⟨vs, hitems, -⟩ := Decoder.bind_eq_ok.mp h
      rcases Nat.lt_or_ge depth maxDepth with hlt | hge
      · exact valueItems_written_deep (depth + 1) items (by omega) (by omega) vs hitems
      · rw [guardDepth_deep _ _ hge] at hguard
        cases hguard
  | .object members =>
      intro h
      rw [Value.levels] at hdepth
      unfold written Document.value at h
      obtain ⟨_, hguard, h⟩ := Decoder.bind_eq_ok.mp h
      obtain ⟨ms, hmembers, -⟩ := Decoder.bind_eq_ok.mp h
      rcases Nat.lt_or_ge depth maxDepth with hlt | hge
      · exact valueMembers_written_deep (depth + 1) [] members (by omega) (by omega) ms hmembers
      · rw [guardDepth_deep _ _ hge] at hguard
        cases hguard
  | .null | .bool _ | .int _ | .real _ | .string _ =>
      change maxDepth < depth + 0 at hdepth
      omega

/-- Items are not read if one of them is nested too deeply. -/
theorem valueItems_written_deep (depth : Nat) (items : List Value) {rest : List Char}
    (hin : depth ≤ maxDepth) (hdepth : maxDepth < depth + Value.itemLevels items)
    (as : List Value) : Document.valueItems (writtenItems depth rest items) ≠ .ok as := by
  match items with
  | [] =>
      rw [Value.itemLevels] at hdepth
      omega
  | v :: vs =>
      intro h
      rw [Value.itemLevels] at hdepth
      unfold writtenItems Document.valueItems at h
      obtain ⟨a, hv, h⟩ := Decoder.bind_eq_ok.mp h
      obtain ⟨as', hvs, -⟩ := Decoder.bind_eq_ok.mp h
      rcases Nat.lt_or_ge maxDepth (depth + v.levels) with hlt | hge
      · exact value_written_deep depth v hin hlt a hv
      · exact valueItems_written_deep depth vs hin (by omega) as' hvs

/-- Members are not read if one of them is nested too deeply. -/
theorem valueMembers_written_deep (depth : Nat) (found members : Dict Value) {rest : List Char}
    (hin : depth ≤ maxDepth) (hdepth : maxDepth < depth + Value.memberLevels members)
    (as : Dict Value) :
    Document.valueMembers found (writtenMembers depth rest members) ≠ .ok as := by
  match members with
  | [] =>
      rw [Value.memberLevels] at hdepth
      omega
  | (k, v) :: ms =>
      intro h
      rw [Value.memberLevels] at hdepth
      unfold writtenMembers Document.valueMembers at h
      obtain ⟨name, -, h⟩ := Decoder.bind_eq_ok.mp h
      obtain ⟨a, hv, h⟩ := Decoder.bind_eq_ok.mp h
      rcases Nat.lt_or_ge maxDepth (depth + v.levels) with hlt | hge
      · exact value_written_deep depth v hin hlt a hv
      · exact valueMembers_written_deep depth _ ms hin (by omega) as h

end

-- ============================================================== maps

/-- Entries of a map of values are its members. -/
theorem entries_value (found : Dict Value) (ms : List (Key × Document)) :
    Decoder.entries Decoder.value found ms = Document.valueMembers found ms := by
  induction ms generalizing found with
  | nil => rfl
  | cons m ms ih =>
      obtain ⟨k, d⟩ := m
      unfold Decoder.entries Document.valueMembers
      simp only [ih]
      rfl

/-- A map of values is read back. -/
theorem dict_written {members : Dict Value} (hsorted : members.Sorted)
    (hfits : ∀ m ∈ members, m.2.Every Value.fits) (hexact : ∀ m ∈ members, m.2.Every Value.exact)
    (hdepth : ∀ m ∈ members, depth + 1 + m.2.levels ≤ maxDepth) (hin : depth + 1 ≤ maxDepth) :
    Decoder.dict Decoder.value (written depth rest (.object members)) = .ok members := by
  have hlevels : Value.memberLevels members ≤ maxDepth - (depth + 1) :=
    Value.memberLevels_le_iff.mpr fun m hm => by
      have := hdepth m hm
      omega
  have hread := valueMembers_written (depth + 1) rest [] members hsorted
    (Value.everyMember_iff.mpr hfits) (Value.everyMember_iff.mpr hexact) (by omega)
  unfold written Decoder.dict
  simp only [guardDepth_span _ _ hin, entries_value, hread]
  rfl

/-- A map of values is not read if one of them is nested too deeply. -/
theorem dict_written_deep {members : Dict Value} (hin : depth + 1 ≤ maxDepth)
    (hdeep : ∃ m ∈ members, maxDepth < depth + 1 + m.2.levels) (as : Dict Value) :
    Decoder.dict Decoder.value (written depth rest (.object members)) ≠ .ok as := by
  intro h
  have hlevels : maxDepth < depth + 1 + Value.memberLevels members := by
    obtain ⟨m, hm, hdeep⟩ := hdeep
    have := Value.memberLevels_le_iff.mp (Nat.le_refl _) m hm
    omega
  unfold written Decoder.dict at h
  obtain ⟨-, -, h⟩ := Decoder.bind_eq_ok.mp h
  obtain ⟨ms, hmembers, -⟩ := Decoder.bind_eq_ok.mp h
  rw [entries_value] at hmembers
  exact valueMembers_written_deep (depth + 1) [] members hin hlevels ms hmembers

end Json

end DurableWorkflow
