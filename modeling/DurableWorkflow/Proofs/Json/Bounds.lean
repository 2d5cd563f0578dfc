/-
What is read from a text keeps within the limits of values in memory: its whole
numbers have 64 bits, its maps are in the order of their names, and it is nested
through no more levels than the reader follows. What stands inside of a list or an
object has fewer levels left.

This is said first of documents (`Shaped`), for every text whatsoever, and then of
typed data: `Yields` says that all that a decoder reads from such a document has some
property, and for each way to put decoders together there is a lemma that puts the
properties together.
-/
import DurableWorkflow.Proofs.Json.Readback

namespace DurableWorkflow.Json

open Decimal (isDigit)

variable {α β ρ : Type} {depth fuel n : Nat} {cs rest after : List Char} {negative : Bool}
  {v : Value} {d : Document}

-- ============================================================ shapes

mutual

/-- A document whose whole numbers have 64 bits and that marks what is nested too
deeply, where it stands at some depth itself. -/
def Shaped (depth : Nat) : Document → Prop
  | .int _ n => InRange n
  | .array span items _ => (maxDepth ≤ depth → span.deep = true) ∧ ShapedItems (depth + 1) items
  | .object span members _ =>
    (maxDepth ≤ depth → span.deep = true) ∧ ShapedMembers (depth + 1) members
  | _ => True

/-- The items of such a document. -/
def ShapedItems (depth : Nat) : List Document → Prop
  | [] => True
  | d :: ds => Shaped depth d ∧ ShapedItems depth ds

/-- The members of such a document. -/
def ShapedMembers (depth : Nat) : List (Key × Document) → Prop
  | [] => True
  | (_, d) :: ms => Shaped depth d ∧ ShapedMembers depth ms

end

-- =========================================================== numbers

theorem float_real {mantissa : Nat} {exponent : Int}
    (h : float negative mantissa exponent rest = .ok (v, after)) : ∃ x, v = .real x := by
  unfold float at h
  split at h
  next => exact ⟨_, ((Prod.mk.inj (Except.ok.inj h)).1).symm⟩
  next => cases h

/-- What has an exponent is a float. -/
theorem readExponent_real {mantissa : Nat} {exponent : Int}
    (h : readExponent negative mantissa exponent cs = .ok (v, after)) : ∃ x, v = .real x := by
  unfold readExponent at h
  split at h
  split at h
  next => cases h
  next =>
    split at h
    next => cases h
    next =>
      split at h
      next => exact float_real h
      next =>
        split at h
        next => cases h
        next => exact ⟨_, ((Prod.mk.inj (Except.ok.inj h)).1).symm⟩

/-- What has a fraction is a float. -/
theorem readFraction_real {mantissa : Nat} {exponent : Int}
    (h : readFraction negative mantissa exponent cs = .ok (v, after)) : ∃ x, v = .real x := by
  unfold readFraction at h
  simp only at h
  split at h
  next => split at h <;> cases h
  next =>
    split at h
    next => exact readExponent_real h
    next => exact readExponent_real h
    next => exact float_real h

theorem readTail_real {exponent : Int}
    (h : readTail negative n exponent cs = .ok (v, after)) : ∃ x, v = .real x := by
  unfold readTail at h
  split at h
  next => exact readFraction_real h
  next => exact readExponent_real h
  next => exact readExponent_real h
  next => exact float_real h

/-- Digits are collected as long as the number fits. -/
theorem fits_gather (h : fits n = true) (cs : List Char) : fits (gather n cs).1 = true := by
  induction cs generalizing n with
  | nil => exact h
  | cons c cs ih =>
      unfold gather
      split
      next d _ =>
        by_cases hd : fits (10 * n + d) = true
        · simp only [hd, if_true]
          exact ih hd
        · simp only [hd]
          exact h
      next => exact h

theorem digit?_lt {c : Char} {d : Nat} (h : Decimal.digit? c = some d) : d < 10 := by
  unfold Decimal.digit? at h
  split at h
  next hc =>
    have hnine : c.toNat ≤ '9'.toNat := hc.2
    have h57 : '9'.toNat = 57 := rfl
    have := Option.some.inj h
    omega
  next => cases h

/-- A whole number of at most 64 bits has 64 bits with its sign, if it stays whole. -/
theorem whole?_inRange {i : Int} (hfits : fits n = true) (h : whole? negative n = some i) :
    InRange i := by
  unfold fits at hfits
  rw [decide_eq_true_eq] at hfits
  unfold whole? at h
  unfold InRange
  split at h
  next =>
    have := Option.some.inj h
    omega
  next =>
    split at h
    next =>
      have := Option.some.inj h
      omega
    next => cases h

/-- A whole number that is read has 64 bits. -/
theorem readNumber_inRange {i : Int} (h : readNumber negative cs = .ok (.int i, after)) :
    InRange i := by
  unfold readNumber at h
  split at h
  next => cases h
  next c r =>
    split at h
    next => cases h
    next d hd =>
      have hfits : fits d = true := by
        have := digit?_lt hd
        unfold fits
        rw [decide_eq_true_eq]
        omega
      simp only at h
      generalize hfront : (if d = 0 then (0, r) else ((gather d r).1, (gather d r).2.2)) = front
        at h
      have hfront' : fits front.1 = true := by
        rw [← hfront]
        split
        next => rfl
        next => exact fits_gather hfits r
      split at h
      next => cases h
      next =>
        split at h
        next => exact absurd (readTail_real h).choose_spec (by simp)
        next =>
          split at h
          next => exact absurd (readTail_real h).choose_spec (by simp)
          next => exact absurd (readTail_real h).choose_spec (by simp)
          next => exact absurd (readTail_real h).choose_spec (by simp)
          next =>
            split at h
            next hwhole =>
              obtain rfl := Value.int.inj (Prod.mk.inj (Except.ok.inj h)).1
              exact whole?_inRange hfront' hwhole
            next => cases (Prod.mk.inj (Except.ok.inj h)).1

-- ========================================================= documents

theorem shaped_numberPiece (start cs : List Char) :
    Shaped depth (numberPiece start negative cs).1 := by
  unfold numberPiece
  split
  next h => exact readNumber_inRange h
  next => trivial
  next => trivial
  next f _ =>
    unfold unread
    split <;> trivial

theorem shaped_stringPiece (start cs : List Char) : Shaped depth (stringPiece start cs).1 := by
  unfold stringPiece
  split
  next => trivial
  next f _ =>
    unfold unread
    split <;> trivial

theorem shaped_wordPiece (make : Span → Document) (hmake : ∀ s, Shaped depth (make s))
    (start word cs : List Char) : Shaped depth (wordPiece start word cs make).1 := by
  unfold wordPiece
  split
  next => exact hmake _
  next => trivial

mutual

/-- Whatever a text is, it is read as a document of that shape. -/
theorem shaped_readValue (fuel depth : Nat) (text : List Char) :
    Shaped depth (readValue fuel depth text).1 := by
  match fuel with
  | 0 => trivial
  | fuel + 1 =>
      rw [readValue.eq_def]
      simp only
      split
      next => trivial
      next => exact shaped_wordPiece .null (fun _ => trivial) _ _ _
      next => exact shaped_wordPiece (.bool · true) (fun _ => trivial) _ _ _
      next => exact shaped_wordPiece (.bool · false) (fun _ => trivial) _ _ _
      next => exact shaped_stringPiece _ _
      next => exact shaped_numberPiece _ _
      next r _ =>
        exact ⟨fun h => decide_eq_true h, shaped_readItems fuel (depth + 1) true r⟩
      next r _ =>
        exact ⟨fun h => decide_eq_true h, shaped_readMembers fuel (depth + 1) true r⟩
      next =>
        split
        next => exact shaped_numberPiece _ _
        next => trivial

/-- So are the items of a list. -/
theorem shaped_readItems (fuel depth : Nat) (first : Bool) (text : List Char) :
    ShapedItems depth (readItems fuel depth first text).1 := by
  match fuel with
  | 0 => trivial
  | fuel + 1 =>
      have hitem : ∀ cs, ShapedItems depth (match readValue fuel depth cs with
          | (d, none) => ([d], lost cs, none)
          | (d, some rest) =>
            let (ds, ending, rest) := readItems fuel depth false rest
            (d :: ds, ending, rest) : List Document × Ending × Option (List Char)).1 := by
        intro cs
        have hd := shaped_readValue fuel depth cs
        split
        next heq =>
          rw [heq] at hd
          exact ⟨hd, trivial⟩
        next rest heq =>
          rw [heq] at hd
          exact ⟨hd, shaped_readItems fuel depth false rest⟩
      rw [readItems.eq_def]
      simp only
      split
      next => trivial
      next => trivial
      next =>
        split
        next => exact hitem _
        next =>
          split
          next =>
            split
            next => trivial
            next => trivial
            next => exact hitem _
          next => trivial

/-- So are the members of an object. -/
theorem shaped_readMembers (fuel depth : Nat) (first : Bool) (text : List Char) :
    ShapedMembers depth (readMembers fuel depth first text).1 := by
  match fuel with
  | 0 => trivial
  | fuel + 1 =>
      have hmember : ∀ cs, ShapedMembers depth (match readName cs with
          | (.error f, .error g) => ([], .cut f g f, none)
          | (.ok _, .error g) => ([], .cut g g g, none)
          | (name, .ok rest) =>
            match skipBlanks rest with
            | ':' :: r =>
              match readValue fuel depth r with
              | (d, none) => ([(⟨name, rest⟩, d)], lost r, none)
              | (d, some after) =>
                let (ms, ending, left) := readMembers fuel depth false after
                ((⟨name, rest⟩, d) :: ms, ending, left)
            | [] => ([(⟨name, rest⟩, .absent (.here .objectEnds []))], lost [], none)
            | ds => ([(⟨name, rest⟩, .absent (.looking .colonExpected ds))], lost ds, none) :
          List (Key × Document) × Ending × Option (List Char)).1 := by
        intro cs
        split
        next => trivial
        next => trivial
        next =>
          split
          next r _ =>
            have hd := shaped_readValue fuel depth r
            split
            next heq =>
              rw [heq] at hd
              exact ⟨hd, trivial⟩
            next after heq =>
              rw [heq] at hd
              exact ⟨hd, shaped_readMembers fuel depth false after⟩
          next => exact ⟨trivial, trivial⟩
          next => exact ⟨trivial, trivial⟩
      rw [readMembers.eq_def]
      simp only
      split
      next => trivial
      next => trivial
      next =>
        split
        next =>
          split
          next => exact hmember _
          next => trivial
        next =>
          split
          next =>
            split
            next => trivial
            next => exact hmember _
            next => trivial
            next => trivial
          next => trivial

end

-- ============================================================ values

/-- What may be read as a list or an object has a level left. -/
theorem lt_of_guardDepth {span : Span} {u : Unit} (hspan : maxDepth ≤ depth → span.deep = true)
    (h : Document.guardDepth span = .ok u) : depth + 1 ≤ maxDepth := by
  by_contra hge
  unfold Document.guardDepth at h
  rw [hspan (by omega)] at h
  cases h

/-- A map whose values keep within the limits. -/
structure Bounded (depth : Nat) (m : Dict Value) : Prop where
  sorted : m.Sorted
  fits : ∀ e ∈ m, e.2.Every Value.fits
  levels : ∀ e ∈ m, depth + e.2.levels ≤ maxDepth

theorem bounded_nil : Bounded depth [] :=
  ⟨Dict.sorted_nil, fun _ h => (List.not_mem_nil h).elim, fun _ h => (List.not_mem_nil h).elim⟩

/-- An entry that keeps within the limits may be set. -/
theorem Bounded.insert {m : Dict Value} (hm : Bounded depth m) (k : String)
    (hfits : v.Every Value.fits) (hlevels : depth + v.levels ≤ maxDepth) :
    Bounded depth (m.insert k v) where
  sorted := hm.sorted.insert k v
  fits := Dict.of_insert (p := fun e : String × Value => e.2.Every Value.fits) hm.fits hfits
  levels := Dict.of_insert (p := fun e : String × Value => depth + e.2.levels ≤ maxDepth)
    hm.levels hlevels

mutual

/-- A value of such a document keeps within the limits. -/
theorem bounds_value (depth : Nat) (d : Document) {v : Value} (hin : depth ≤ maxDepth)
    (hd : Shaped depth d) (h : Document.value d = .ok v) :
    v.Every Value.fits ∧ depth + v.levels ≤ maxDepth := by
  match d with
  | .null _ =>
      obtain rfl := Except.ok.inj h
      exact ⟨trivial, hin⟩
  | .bool _ _ =>
      obtain rfl := Except.ok.inj h
      exact ⟨trivial, hin⟩
  | .int _ _ =>
      obtain rfl := Except.ok.inj h
      exact ⟨hd, hin⟩
  | .real _ _ =>
      obtain rfl := Except.ok.inj h
      exact ⟨trivial, hin⟩
  | .string _ _ =>
      obtain rfl := Except.ok.inj h
      exact ⟨trivial, hin⟩
  | .array span items ending =>
      unfold Document.value at h
      obtain ⟨_, hguard, h⟩ := Decoder.bind_eq_ok.mp h
      obtain ⟨vs, hitems, h⟩ := Decoder.bind_eq_ok.mp h
      have hdepth := lt_of_guardDepth hd.1 hguard
      have hvs := bounds_valueItems (depth + 1) items hdepth hd.2 hitems
      have hlevels : Value.itemLevels vs ≤ maxDepth - (depth + 1) :=
        Value.itemLevels_le_iff.mpr fun v hv => by
          have := (hvs v hv).2
          omega
      split at h
      next =>
        obtain rfl := Except.ok.inj h
        refine ⟨⟨trivial, Value.everyItem_iff.mpr fun v hv => (hvs v hv).1⟩, ?_⟩
        rw [Value.levels]
        omega
      next => cases h
  | .object span members ending =>
      unfold Document.value at h
      obtain ⟨_, hguard, h⟩ := Decoder.bind_eq_ok.mp h
      obtain ⟨ms, hmembers, h⟩ := Decoder.bind_eq_ok.mp h
      have hdepth := lt_of_guardDepth hd.1 hguard
      have hms := bounds_valueMembers (depth + 1) members hdepth hd.2 bounded_nil hmembers
      have hlevels : Value.memberLevels ms ≤ maxDepth - (depth + 1) :=
        Value.memberLevels_le_iff.mpr fun m hm => by
          have := hms.levels m hm
          omega
      split at h
      next =>
        obtain rfl := Except.ok.inj h
        refine ⟨⟨hms.sorted, Value.everyMember_iff.mpr hms.fits⟩, ?_⟩
        rw [Value.levels]
        omega
      next => cases h
  | .broken _ _ _ => cases h
  | .absent _ => cases h

/-- So do items. -/
theorem bounds_valueItems (depth : Nat) (items : List Document) {vs : List Value}
    (hin : depth ≤ maxDepth) (hitems : ShapedItems depth items)
    (h : Document.valueItems items = .ok vs) :
    ∀ v ∈ vs, v.Every Value.fits ∧ depth + v.levels ≤ maxDepth := by
  match items with
  | [] =>
      obtain rfl := Except.ok.inj h
      exact fun _ h => (List.not_mem_nil h).elim
  | d :: ds =>
      unfold Document.valueItems at h
      obtain ⟨v, hv, h⟩ := Decoder.bind_eq_ok.mp h
      obtain ⟨vs', hvs, h⟩ := Decoder.bind_eq_ok.mp h
      obtain rfl := Except.ok.inj h
      exact List.forall_mem_cons.mpr ⟨bounds_value depth d hin hitems.1 hv,
        bounds_valueItems depth ds hin hitems.2 hvs⟩

/-- So do members, with those that were read before. -/
theorem bounds_valueMembers (depth : Nat) (members : List (Key × Document)) {found ms : Dict Value}
    (hin : depth ≤ maxDepth) (hmembers : ShapedMembers depth members)
    (hfound : Bounded depth found) (h : Document.valueMembers found members = .ok ms) :
    Bounded depth ms := by
  match members with
  | [] =>
      obtain rfl := Except.ok.inj h
      exact hfound
  | (k, d) :: rest =>
      unfold Document.valueMembers at h
      obtain ⟨name, -, h⟩ := Decoder.bind_eq_ok.mp h
      obtain ⟨v, hv, h⟩ := Decoder.bind_eq_ok.mp h
      obtain ⟨hfits, hlevels⟩ := bounds_value depth d hin hmembers.1 hv
      exact bounds_valueMembers depth rest hin hmembers.2 (hfound.insert name hfits hlevels) h

end

-- ======================================================== typed data

/-- Whether all that a decoder reads at some depth of a text has a property. -/
def Yields (depth : Nat) (read : Decoder α) (p : α → Prop) : Prop :=
  ∀ d a, depth ≤ maxDepth → Shaped depth d → read d = .ok a → p a

variable {read : Decoder α} {p q : α → Prop}

/-- What is read from a text is read at its beginning. -/
theorem Yields.ofText (h : Yields 0 read p) {s : String} {a : α}
    (hread : Decoder.ofText read s = .ok a) : p a := by
  unfold Decoder.ofText at hread
  split at hread
  next a' ha =>
    obtain rfl := Except.ok.inj hread
    obtain ⟨a', ha', hrest⟩ := Decoder.bind_eq_ok.mp ha
    split at hrest
    next =>
      obtain rfl := Except.ok.inj hrest
      exact h (document s.toList).1 a' (Nat.zero_le _) (shaped_readValue _ 0 _) ha'
    next => cases hrest
  next => cases hread

theorem Yields.imp (h : Yields depth read p) (himp : ∀ a, p a → q a) : Yields depth read q :=
  fun d a hin hd ha => himp a (h d a hin hd ha)

/-- Of some data nothing needs to be said. -/
theorem yields_any : Yields depth read fun _ => True := fun _ _ _ _ _ => trivial

theorem yields_value : Yields depth Decoder.value fun v =>
    v.Every Value.fits ∧ depth + v.levels ≤ maxDepth :=
  fun d _ hin hd h => bounds_value depth d hin hd h

theorem yields_entries (h : Yields depth read p) {found m : Dict α} {ms : List (Key × Document)}
    (hin : depth ≤ maxDepth) (hms : ShapedMembers depth ms)
    (hfound : found.Sorted ∧ ∀ e ∈ found, p e.2) (hm : Decoder.entries read found ms = .ok m) :
    m.Sorted ∧ ∀ e ∈ m, p e.2 := by
  induction ms generalizing found with
  | nil =>
      obtain rfl := Except.ok.inj hm
      exact hfound
  | cons x ms ih =>
      obtain ⟨k, d⟩ := x
      obtain ⟨name, -, hm⟩ := Decoder.bind_eq_ok.mp hm
      obtain ⟨a, ha, hm⟩ := Decoder.bind_eq_ok.mp hm
      refine ih hms.2 ⟨hfound.1.insert name a, ?_⟩ hm
      exact Dict.of_insert (p := fun e : String × α => p e.2) hfound.2 (h d a hin hms.1 ha)

/-- The entries of a map are read one level further in, and stand in the order of their
names. -/
theorem Yields.dict (h : Yields (depth + 1) read p) :
    Yields depth (Decoder.dict read) fun m => m.Sorted ∧ ∀ e ∈ m, p e.2 := by
  intro d m hin hd hm
  unfold Decoder.dict at hm
  split at hm
  next span members ending =>
    obtain ⟨_, hguard, hm⟩ := Decoder.bind_eq_ok.mp hm
    obtain ⟨m', hmembers, hm⟩ := Decoder.bind_eq_ok.mp hm
    obtain ⟨-, -, hm⟩ := Decoder.bind_eq_ok.mp hm
    obtain rfl := Except.ok.inj hm
    exact yields_entries h (lt_of_guardDepth hd.1 hguard) hd.2
      ⟨Dict.sorted_nil, fun _ h => (List.not_mem_nil h).elim⟩ hmembers
  next => cases hm

/-- A map of values keeps within the limits one level further in. -/
theorem yields_dict : Yields depth (Decoder.dict Decoder.value) (Bounded (depth + 1)) :=
  yields_value.dict.imp fun _ ⟨hsorted, hvalues⟩ =>
    ⟨hsorted, fun e he => (hvalues e he).1, fun e he => (hvalues e he).2⟩

theorem yields_each (h : Yields depth read p) {ds : List Document} {as : List α}
    (hin : depth ≤ maxDepth) (hds : ShapedItems depth ds) (has : Decoder.each read ds = .ok as) :
    ∀ a ∈ as, p a := by
  induction ds generalizing as with
  | nil =>
      obtain rfl := Except.ok.inj has
      exact fun _ h => (List.not_mem_nil h).elim
  | cons d ds ih =>
      obtain ⟨a, as', rfl, ha, has'⟩ := Decoder.each_cons_ok has
      exact List.forall_mem_cons.mpr ⟨h d a hin hds.1 ha, ih hds.2 has'⟩

/-- The items of a list are read one level further in. -/
theorem Yields.list (h : Yields (depth + 1) read p) :
    Yields depth (Decoder.list read) fun as => ∀ a ∈ as, p a := by
  intro d as hin hd has
  unfold Decoder.list at has
  split at has
  next span items ending =>
    obtain ⟨_, hguard, has⟩ := Decoder.bind_eq_ok.mp has
    obtain ⟨as', hitems, has⟩ := Decoder.bind_eq_ok.mp has
    obtain ⟨-, -, has⟩ := Decoder.bind_eq_ok.mp has
    obtain rfl := Except.ok.inj has
    exact yields_each h (lt_of_guardDepth hd.1 hguard) hd.2 hitems
  next => cases has

/-- A count has 64 bits. -/
theorem yields_count : Yields depth Decoder.count fun n => n < 0x10000000000000000 := by
  intro d n _ _ h
  obtain ⟨i, hi, h⟩ := Decoder.bind_eq_ok.mp h
  obtain rfl := Except.ok.inj h
  unfold Decoder.integer at hi
  split at hi
  next =>
    split at hi
    next hrange =>
      obtain rfl := Except.ok.inj hi
      omega
    next => cases hi
  next => cases hi

/-- What may be nothing is nothing, or is read. -/
theorem Yields.optional (h : Yields depth read p) :
    Yields depth (Decoder.optional read) fun o => ∀ a ∈ o, p a := by
  intro d o hin hd ho
  unfold Decoder.optional at ho
  split at ho
  next =>
    obtain rfl := Except.ok.inj ho
    exact fun _ h => by cases h
  next =>
    obtain ⟨a, ha, ho⟩ := Decoder.bind_eq_ok.mp ho
    obtain rfl := Except.ok.inj ho
    intro b hb
    obtain rfl := Option.some.inj hb
    exact h _ _ hin hd ha

-- =========================================================== records

variable {p : ρ → Prop} {shape : Decoder.Shape ρ}

/-- Whether setting a field from a piece at some depth keeps a property of the
record. -/
def Keeps (depth : Nat) (p : ρ → Prop) (f : Decoder.Field ρ) : Prop :=
  ∀ d r r', depth ≤ maxDepth → Shaped depth d → f.read d r = .ok r' → p r → p r'

/-- A field keeps a property if what it sets keeps it. -/
theorem keeps_must {q : α → Prop} {name : String} {set : α → ρ → ρ} (h : Yields depth read q)
    (hset : ∀ a r, q a → p r → p (set a r)) : Keeps depth p (.must name read set) := by
  intro d r r' hin hd hr hp
  obtain ⟨a, ha, rfl⟩ := Decoder.must_read_ok hr
  exact hset a r (h d a hin hd ha) hp

theorem keeps_may {q : α → Prop} {name : String} {set : α → ρ → ρ} (h : Yields depth read q)
    (hset : ∀ a r, q a → p r → p (set a r)) : Keeps depth p (.may name read set) :=
  show Keeps depth p (.must name read set) from keeps_must h hset

theorem keeps_fill (hfields : ∀ f ∈ shape.fields, Keeps depth p f) (hin : depth ≤ maxDepth)
    {seen seen' : List String} {r r' : ρ} {ms : List (Key × Document)}
    (hms : ShapedMembers depth ms) (h : Decoder.fill shape seen r ms = .ok (seen', r'))
    (hr : p r) : p r' := by
  induction ms generalizing seen r with
  | nil =>
      obtain ⟨-, rfl⟩ := Prod.mk.inj (Except.ok.inj h)
      exact hr
  | cons m ms ih =>
      obtain ⟨k, d⟩ := m
      obtain ⟨n, -, ⟨-, h⟩ | ⟨f, r₁, hfind, -, hread, h⟩⟩ := Decoder.fill_cons_ok h
      · exact ih hms.2 h hr
      · exact ih hms.2 h (hfields f (List.mem_of_find?_eq_some hfind) d r r₁ hin hms.1 hread hr)

theorem keeps_place (hin : depth ≤ maxDepth) {span : Span} {length : Nat} {ending : Ending}
    {fs : List (Decoder.Field ρ)} (hfields : ∀ f ∈ fs, Keeps depth p f) {index : Nat}
    {ds : List Document} (hds : ShapedItems depth ds) {r r' : ρ}
    (h : Decoder.place shape span length ending r index fs ds = .ok r') (hr : p r) : p r' := by
  induction fs generalizing index ds r with
  | nil =>
      rw [Decoder.place] at h
      obtain ⟨-, -, h⟩ := Decoder.bind_eq_ok.mp h
      obtain rfl := Except.ok.inj h
      exact hr
  | cons f fs ih =>
      obtain ⟨hf, hfs⟩ := List.forall_mem_cons.mp hfields
      cases ds with
      | nil =>
          rw [Decoder.place] at h
          obtain ⟨-, -, h⟩ := Decoder.bind_eq_ok.mp h
          split at h
          next =>
            obtain rfl := Except.ok.inj h
            exact hr
          next => cases h
      | cons d ds =>
          rw [Decoder.place] at h
          obtain ⟨r₁, hread, h⟩ := Decoder.bind_eq_ok.mp h
          exact ih hfs hds.2 h (hf d r r₁ hin hds.1 hread hr)

/-- A record has a property if the record that is filled in has it and every field
keeps it. -/
theorem yields_record (hblank : depth + 1 ≤ maxDepth → p shape.blank)
    (hfields : ∀ f ∈ shape.fields, Keeps (depth + 1) p f) :
    Yields depth (Decoder.record shape) p := by
  intro d r hin hd h
  unfold Decoder.record at h
  split at h
  next span members ending =>
    obtain ⟨_, hguard, h⟩ := Decoder.bind_eq_ok.mp h
    obtain ⟨⟨seen, r'⟩, hfill, h⟩ := Decoder.bind_eq_ok.mp h
    obtain ⟨-, -, h⟩ := Decoder.bind_eq_ok.mp h
    split at h
    next =>
      obtain rfl := Except.ok.inj h
      have hlt := lt_of_guardDepth hd.1 hguard
      exact keeps_fill hfields hlt hd.2 hfill (hblank hlt)
    next => cases h
  next span items ending =>
    obtain ⟨_, hguard, h⟩ := Decoder.bind_eq_ok.mp h
    have hlt := lt_of_guardDepth hd.1 hguard
    exact keeps_place hlt hfields hd.2 h (hblank hlt)
  next => cases h

end DurableWorkflow.Json
