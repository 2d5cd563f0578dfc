/-
Typed data are read back from the text of the value that shows them. `ReadsBack` says
so of one decoder and one value, wherever the value is written; and for each way to
put decoders together there is a lemma that reads back what was put together in the
same way.

A record is written with its fields in some order, and some of them may be left out.
`Fills` follows the parts that are written: each of them sets its field, and a part
that is left out leaves the record as it is. So a kind of record is read back as soon
as this is said of each of its fields.
-/
import DurableWorkflow.Json.Moment
import DurableWorkflow.Proofs.Json.Readback
import DurableWorkflow.Proofs.Time.Stamps

namespace DurableWorkflow.Json

open Time (Instant)

variable {α ρ : Type} {depth : Nat} {rest : List Char} {v : Value} {a : α} {read : Decoder α}

/-- Whether a value that is written at some depth is read as some data, whatever
follows it. -/
def ReadsBack (depth : Nat) (read : Decoder α) (v : Value) (a : α) : Prop :=
  ∀ rest, Ends rest → read (written depth rest v) = .ok a

/-- What is read back at the beginning of a text is read back from the text. -/
theorem ReadsBack.ofText (h : ReadsBack 0 read v a) : Decoder.ofText read v.text = .ok a :=
  (ofText_text read v a).mpr (h [] ends_nil)

-- =========================================================== scalars

theorem readsBack_value (hfits : v.Every Value.fits) (hexact : v.Every Value.exact)
    (hdepth : depth + v.levels ≤ maxDepth) : ReadsBack depth Decoder.value v v :=
  fun _ hrest => value_written depth v hfits hexact hdepth hrest

theorem readsBack_string (s : String) : ReadsBack depth Decoder.string (.string s) s :=
  fun _ _ => rfl

/-- A whole number within the bounds of its type is read back. -/
theorem readsBack_integer (expected : String) {low high n : Int} (hn : InRange n) (hlow : low ≤ n)
    (hhigh : n < high) : ReadsBack depth (Decoder.integer expected low high) (.int n) n := by
  intro rest hrest
  unfold written
  rw [writtenNumber_digits hn hrest]
  show (if low ≤ n ∧ n < high then _ else _ : Except Fault Int) = .ok n
  rw [if_pos ⟨hlow, hhigh⟩]
  rfl

/-- Data that are made from other data are read back with them. -/
theorem ReadsBack.map {β : Type} (h : ReadsBack depth read v a) (f : α → β) :
    ReadsBack depth (fun d => return f (← read d)) v (f a) := by
  intro rest hrest
  simp only [h rest hrest]
  rfl

theorem readsBack_count {n : Nat} (hn : n < 0x10000000000000000) :
    ReadsBack depth Decoder.count (.int n) n :=
  (readsBack_integer "usize" (n := (n : Int)) ⟨by omega, by omega⟩ (by omega)
    (by omega)).map Int.toNat

theorem readsBack_u64 (n : UInt64) : ReadsBack depth Decoder.u64 (.int n.toNat) n := by
  have hn := n.toNat_lt
  have hint :
      ReadsBack depth (Decoder.integer "u64" 0 0x10000000000000000) (.int n.toNat) n.toNat :=
    readsBack_integer "u64" ⟨by omega, by omega⟩ (by omega) (by omega)
  have hsame : ((n.toNat : Int)).toNat.toUInt64 = n := by simp
  have hread : ReadsBack depth Decoder.u64 (.int n.toNat) ((n.toNat : Int)).toNat.toUInt64 :=
    hint.map fun i => i.toNat.toUInt64
  rwa [hsame] at hread

theorem readsBack_u32 (n : UInt32) : ReadsBack depth Decoder.u32 (.int n.toNat) n := by
  have hn := n.toNat_lt
  have hint : ReadsBack depth (Decoder.integer "u32" 0 0x100000000) (.int n.toNat) n.toNat :=
    readsBack_integer "u32" ⟨by omega, by omega⟩ (by omega) (by omega)
  have hsame : ((n.toNat : Int)).toNat.toUInt32 = n := by simp
  have hread : ReadsBack depth Decoder.u32 (.int n.toNat) ((n.toNat : Int)).toNat.toUInt32 :=
    hint.map fun i => i.toNat.toUInt32
  rwa [hsame] at hread

/-- The name of a choice is read back. -/
theorem readsBack_choice {c : Decoder.Choice α} {name : String}
    (h : Dict.find? c.names name = some a) :
    ReadsBack depth (Decoder.choice c) (.string name) a := by
  intro rest hrest
  show c.find name _ = .ok a
  unfold Decoder.Choice.find
  rw [h]
  rfl

theorem readsBack_instant {t : Instant} (ht : t.Valid)
    (hrange : Instant.inRange t.seconds = true) : ReadsBack depth Decoder.instant t.encode t := by
  intro rest hrest
  unfold Decoder.instant Decoder.parsed Instant.encode written
  simp only [Instant.ofText_text ht hrange]
  rfl

-- ======================================================= composed data

/-- What may be nothing is read back as something, if it is not written as nothing. -/
theorem ReadsBack.optional (h : ReadsBack depth read v a) (hnull : ∀ s, read (.null s) ≠ .ok a) :
    ReadsBack depth (Decoder.optional read) v (some a) := by
  intro rest hrest
  have hread := h rest hrest
  unfold Decoder.optional
  split
  next s heq =>
    rw [heq] at hread
    exact absurd hread (hnull s)
  next =>
    rw [hread]
    rfl

/-- What may be nothing is read back, if it is something. -/
theorem readsBack_optional {encode : α → Value} {o : Option α}
    (h : ∀ a ∈ o, ReadsBack depth read (encode a) a) (hnull : ∀ s a, read (.null s) ≠ .ok a) :
    ∀ a ∈ o, ReadsBack depth (Decoder.optional read) (encode a) o := by
  intro a ha
  obtain rfl : o = some a := ha
  exact (h a rfl).optional fun s => hnull s a

theorem readsBack_null : ReadsBack depth (Decoder.optional read) .null none := fun _ _ => rfl

/-- Items are read back one by one. -/
theorem each_writtenItems {encode : α → Value} {kept : α → α} {as : List α}
    (h : ∀ a ∈ as, ReadsBack depth read (encode a) (kept a)) :
    Decoder.each read (writtenItems depth rest (as.map encode)) = .ok (as.map kept) := by
  induction as with
  | nil => rfl
  | cons a as ih =>
      obtain ⟨ha, has⟩ := List.forall_mem_cons.mp h
      rw [List.map_cons, writtenItems, Decoder.each, ha _ (ends_itemTail _ rest)]
      simp only [bind, Except.bind, ih has]
      rfl

/-- A list is read back if its items are. -/
theorem readsBack_list (encode : α → Value) (kept : α → α) {as : List α}
    (h : ∀ a ∈ as, ReadsBack (depth + 1) read (encode a) (kept a)) (hin : depth + 1 ≤ maxDepth) :
    ReadsBack depth (Decoder.list read) (.array (as.map encode)) (as.map kept) := by
  intro rest hrest
  unfold written Decoder.list
  simp only [guardDepth_span _ _ hin, each_writtenItems h]
  rfl

theorem readsBack_texts (ss : List String) (hin : depth + 1 ≤ maxDepth) :
    ReadsBack depth (Decoder.list Decoder.string) (.ofTexts ss) ss := by
  have h : ReadsBack depth (Decoder.list Decoder.string) (.ofTexts ss) (ss.map id) :=
    readsBack_list Value.string id (fun s _ => readsBack_string s) hin
  rwa [List.map_id] at h

/-- Entries are read back one by one, after those that were read before. -/
theorem entries_writtenMembers (rest : List Char) {encode : α → Value} {found m : Dict α}
    (hsorted : Dict.Sorted (found ++ m))
    (h : ∀ e ∈ m, ReadsBack depth read (encode e.2) e.2) :
    Decoder.entries read found (writtenMembers depth rest (m.map fun e => (e.1, encode e.2)))
      = .ok (found ++ m) := by
  induction m generalizing found with
  | nil =>
      rw [List.append_nil]
      rfl
  | cons e m ih =>
      obtain ⟨k, a⟩ := e
      obtain ⟨ha, hm⟩ := List.forall_mem_cons.mp h
      have happend : found ++ (k, a) :: m = found ++ [(k, a)] ++ m := by
        rw [List.append_assoc, List.singleton_append]
      rw [happend] at hsorted ⊢
      have hinsert : Dict.insert found k a = found ++ [(k, a)] :=
        Dict.insert_append (List.Pairwise.sublist (List.sublist_append_left _ _) hsorted)
      rw [List.map_cons, writtenMembers, Decoder.entries, ha _ (ends_memberTail _ rest)]
      simp only [bind, Except.bind, hinsert, ih hsorted hm]

/-- A map is read back if its entries are. -/
theorem readsBack_dict (encode : α → Value) {m : Dict α} (hsorted : m.Sorted)
    (h : ∀ e ∈ m, ReadsBack (depth + 1) read (encode e.2) e.2) (hin : depth + 1 ≤ maxDepth) :
    ReadsBack depth (Decoder.dict read) (.object (m.map fun e => (e.1, encode e.2))) m := by
  intro rest hrest
  have hread : Decoder.entries read []
      (writtenMembers (depth + 1) rest (m.map fun e => (e.1, encode e.2))) = .ok m :=
    entries_writtenMembers rest hsorted h
  unfold written Decoder.dict
  simp only [guardDepth_span _ _ hin, hread]
  rfl

-- =========================================================== records

/-- What the parts of a record that are written, in their order, make of a record: each
sets its field, and a part that is left out sets nothing. -/
inductive Fills (shape : Decoder.Shape ρ) (depth : Nat) :
    ρ → List (String × Option Value) → ρ → Prop
  | done {r : ρ} : Fills shape depth r [] r
  | absent {r r' : ρ} {name : String} {ps : List (String × Option Value)}
    (h : Fills shape depth r ps r') : Fills shape depth r ((name, none) :: ps) r'
  | present {r r₁ r' : ρ} {name : String} {v : Value} {f : Decoder.Field ρ}
    {ps : List (String × Option Value)}
    (hfield : shape.fields.find? (fun f => f.name = name) = some f)
    (hread : ∀ rest, Ends rest → f.read (written depth rest v) r = .ok r₁)
    (h : Fills shape depth r₁ ps r') : Fills shape depth r ((name, some v) :: ps) r'

variable {shape : Decoder.Shape ρ} {r r' : ρ} {ps : List (String × Option Value)}
  {name : String} {set : α → ρ → ρ}

/-- The members that are written of some parts. -/
def partsWritten (ps : List (String × Option Value)) : List (String × Value) :=
  ps.filterMap fun m => m.2.map fun v => (m.1, v)

/-- A field that has to be there sets what is read back. -/
theorem Fills.must
    (hfield : shape.fields.find? (fun f => f.name = name) = some (.must name read set))
    (hread : ReadsBack depth read v a) (h : Fills shape depth (set a r) ps r') :
    Fills shape depth r ((name, some v) :: ps) r' :=
  .present hfield (fun rest hrest => by
    show (do return set (← read (written depth rest v)) r : Except Fault ρ) = _
    rw [hread rest hrest]
    rfl) h

/-- So does a field that may be missing. -/
theorem Fills.may
    (hfield : shape.fields.find? (fun f => f.name = name) = some (.may name read set))
    (hread : ReadsBack depth read v a) (h : Fills shape depth (set a r) ps r') :
    Fills shape depth r ((name, some v) :: ps) r' :=
  .present hfield (fun rest hrest => by
    show (do return set (← read (written depth rest v)) r : Except Fault ρ) = _
    rw [hread rest hrest]
    rfl) h

/-- A part that may be nothing is left out then, and is read back otherwise. -/
theorem Fills.optional {encode : α → Value} {o o' : Option α} {set : Option α → ρ → ρ}
    (hfield : shape.fields.find? (fun f => f.name = name)
      = some (.may name (Decoder.optional read) set))
    (habsent : o = none → set o' r = r)
    (hread : ∀ a ∈ o, ReadsBack depth (Decoder.optional read) (encode a) o')
    (h : Fills shape depth (set o' r) ps r') :
    Fills shape depth r ((name, o.map encode) :: ps) r' := by
  cases o with
  | none =>
      rw [habsent rfl] at h
      exact .absent h
  | some a => exact .may hfield (hread a rfl) h

/-- The parts of a record are set from the members that are written of them, if no name
occurs twice. -/
theorem Fills.fill (h : Fills shape depth r ps r') (rest : List Char) (seen : List String)
    (hnames : (ps.map Prod.fst).Nodup) (hseen : ∀ name ∈ ps.map Prod.fst, name ∉ seen) :
    ∃ seen', Decoder.fill shape seen r (writtenMembers depth rest (partsWritten ps))
        = .ok (seen', r') ∧ (∀ name ∈ seen, name ∈ seen') ∧
      ∀ name ∈ (partsWritten ps).map Prod.fst, name ∈ seen' := by
  induction h generalizing seen with
  | done => exact ⟨seen, rfl, fun _ h => h, fun _ h => (List.not_mem_nil h).elim⟩
  | absent _ ih =>
      exact ih seen (List.nodup_cons.mp hnames).2 fun n hn => hseen n (List.mem_cons_of_mem _ hn)
  | @present r r₁ r' name v f ps hfield hread h ih =>
      obtain ⟨hname, hnames⟩ := List.nodup_cons.mp hnames
      have hnew : seen.contains name = false := by
        have := hseen name List.mem_cons_self
        simpa using this
      obtain ⟨seen', hfill, hkept, hset⟩ := ih (name :: seen) hnames fun n hn hmem => by
        rcases List.mem_cons.mp hmem with rfl | hmem
        · exact hname hn
        · exact hseen n (List.mem_cons_of_mem _ hn) hmem
      refine ⟨seen', ?_, fun n hn => hkept n (List.mem_cons_of_mem _ hn), fun n hn => ?_⟩
      · show Decoder.fill shape seen r ((⟨.ok name, _⟩, written depth _ v) :: writtenMembers depth
          rest (partsWritten ps)) = _
        unfold Decoder.fill
        simp only [bind, Except.bind, hfield, hnew, hread _ (ends_memberTail _ rest)]
        exact hfill
      · rcases List.mem_cons.mp hn with rfl | hn
        · exact hkept _ List.mem_cons_self
        · exact hset n hn

/-- A record is read back from its parts, if all that it has to have is written. -/
theorem Fills.record (h : Fills shape (depth + 1) shape.blank ps r)
    (hnames : (ps.map Prod.fst).Nodup)
    (hrequired : ((shape.fields.filter (·.required)).map (·.name)) ⊆ (partsWritten ps).map Prod.fst)
    (hin : depth + 1 ≤ maxDepth) :
    ReadsBack depth (Decoder.record shape) (.record ps) r := by
  intro rest hrest
  obtain ⟨seen, hfill, -, hset⟩ := h.fill rest [] hnames
    fun _ _ hmem => List.not_mem_nil hmem
  have hall : shape.fields.find? (fun f => f.required && !seen.contains f.name) = none := by
    rw [List.find?_eq_none]
    intro f hf hmissing
    obtain ⟨hreq, hnot⟩ := Bool.and_eq_true_iff.mp hmissing
    have := hset _ (hrequired (List.mem_map_of_mem (List.mem_filter.mpr ⟨hf, hreq⟩)))
    simp [this] at hnot
  show Decoder.record shape (.object (span depth _ rest) (writtenMembers (depth + 1) rest
    (partsWritten ps)) .closed) = _
  unfold Decoder.record
  simp only [guardDepth_span _ _ hin, hfill, bind, Except.bind, Decoder.finish, hall]
  rfl

end DurableWorkflow.Json
