/-
Reading lists and records one piece at a time: what it means that it succeeded.

A field of a record is set once. So what the field of one name sets is there when
the whole record was read, whatever else the document held and in whatever order
(`fill_keeps`).
-/
import DurableWorkflow.Json.Decoder

namespace DurableWorkflow.Decoder

variable {α β ρ : Type}

-- ============================================================= steps

/-- Two steps succeed exactly when the first does, and the second with what it
gave. -/
theorem bind_eq_ok {ε : Type} {m : Except ε α} {f : α → Except ε β} {b : β} :
    (m >>= f) = .ok b ↔ ∃ a, m = .ok a ∧ f a = .ok b := by
  cases m with
  | error e =>
      constructor
      · intro h
        cases h
      · rintro ⟨a, h, -⟩
        cases h
  | ok a =>
      constructor
      · intro h
        exact ⟨a, rfl, h⟩
      · rintro ⟨a', h, hf⟩
        cases h
        exact hf

/-- A list is read item by item. -/
theorem each_cons_ok {read : Decoder α} {d : Document} {ds : List Document} {as : List α}
    (h : each read (d :: ds) = .ok as) :
    ∃ a as', as = a :: as' ∧ read d = .ok a ∧ each read ds = .ok as' := by
  obtain ⟨a, ha, h⟩ := bind_eq_ok.mp h
  obtain ⟨as', has, h⟩ := bind_eq_ok.mp h
  injection h with h
  exact ⟨a, as', h.symm, ha, has⟩

/-- What is read as a list are its items. -/
theorem list_array_ok {read : Decoder α} {span : Span} {items : List Document} {ending : Ending}
    {as : List α} (h : list read (.array span items ending) = .ok as) :
    each read items = .ok as := by
  obtain ⟨-, -, h⟩ := bind_eq_ok.mp h
  obtain ⟨as', has, h⟩ := bind_eq_ok.mp h
  obtain ⟨-, -, h⟩ := bind_eq_ok.mp h
  injection h with h
  exact h ▸ has

-- =========================================================== records

variable {shape : Shape ρ}

/-- What is read as a record was filled in from its members. -/
theorem record_object_ok {span : Span} {members : List (Key × Document)} {ending : Ending} {r : ρ}
    (h : record shape (.object span members ending) = .ok r) :
    ∃ seen, fill shape [] shape.blank members = .ok (seen, r) := by
  obtain ⟨-, -, h⟩ := bind_eq_ok.mp h
  obtain ⟨⟨seen, r'⟩, hfill, h⟩ := bind_eq_ok.mp h
  obtain ⟨-, -, h⟩ := bind_eq_ok.mp h
  split at h
  next =>
    injection h with h
    exact ⟨seen, h ▸ hfill⟩
  next => cases h

/-- A member is passed over, if there is no field of its name; else it sets the
field, which was not set before. -/
theorem fill_cons_ok {seen seen' : List String} {r r' : ρ} {k : Key} {d : Document}
    {ms : List (Key × Document)} (h : fill shape seen r ((k, d) :: ms) = .ok (seen', r')) :
    ∃ name, k.name = .ok name ∧
      ((shape.fields.find? (fun f => f.name = name) = none
          ∧ fill shape seen r ms = .ok (seen', r')) ∨
        ∃ f r₁, shape.fields.find? (fun f => f.name = name) = some f ∧ name ∉ seen
          ∧ f.read d r = .ok r₁ ∧ fill shape (name :: seen) r₁ ms = .ok (seen', r')) := by
  obtain ⟨name, hname, h⟩ := bind_eq_ok.mp h
  refine ⟨name, hname, ?_⟩
  cases hfind : shape.fields.find? (fun f => f.name = name) with
  | none =>
      simp only [hfind] at h
      obtain ⟨-, -, h⟩ := bind_eq_ok.mp h
      exact .inl ⟨rfl, h⟩
  | some f =>
      simp only [hfind] at h
      by_cases hseen : seen.contains name = true
      · rw [if_pos hseen] at h
        cases h
      · rw [if_neg hseen] at h
        obtain ⟨r₁, hread, h⟩ := bind_eq_ok.mp h
        exact .inr ⟨f, r₁, rfl, by simpa using hseen, hread, h⟩

variable {p : ρ → β} {name : String}

/-- Whether a part of a record is set by the field of one name only. -/
def SetBy (shape : Shape ρ) (p : ρ → β) (name : String) : Prop :=
  ∀ f ∈ shape.fields, f.name ≠ name → ∀ d r r', f.read d r = .ok r' → p r' = p r

/-- A part that was set stays as it is. -/
theorem fill_keeps (hset : SetBy shape p name) {seen seen' : List String} {r r' : ρ}
    {ms : List (Key × Document)} (hseen : name ∈ seen)
    (h : fill shape seen r ms = .ok (seen', r')) : p r' = p r := by
  induction ms generalizing seen r with
  | nil =>
      injection h with h
      rw [(Prod.mk.inj h).2]
  | cons m ms ih =>
      obtain ⟨n, -, ⟨-, h⟩ | ⟨f, r₁, hfind, hn, hread, h⟩⟩ := fill_cons_ok h
      · exact ih hseen h
      · have hname : f.name = n := by simpa using List.find?_some hfind
        have hne : f.name ≠ name := fun heq => hn (by rw [← hname, heq]; exact hseen)
        rw [ih (List.mem_cons_of_mem n hseen) h]
        exact hset f (List.mem_of_find?_eq_some hfind) hne m.2 r r₁ hread

/-- A part that is set by the first member is in the record what that member
says. -/
theorem record_first (hset : SetBy shape p name) {span : Span} {stop : List Char} {d : Document}
    {ms : List (Key × Document)} {ending : Ending} {f : Field ρ}
    (hfield : shape.fields.find? (fun f => f.name = name) = some f) {r : ρ}
    (h : record shape (.object span ((⟨.ok name, stop⟩, d) :: ms) ending) = .ok r) :
    ∃ r₁, f.read d shape.blank = .ok r₁ ∧ p r = p r₁ := by
  obtain ⟨seen, hfill⟩ := record_object_ok h
  obtain ⟨n, hn, hcases⟩ := fill_cons_ok hfill
  injection hn with hn
  subst hn
  rcases hcases with ⟨hnone, -⟩ | ⟨f', r₁, hfind, -, hread, hrest⟩
  · rw [hfield] at hnone
    cases hnone
  · obtain rfl : f = f' := Option.some.inj (hfield.symm.trans hfind)
    exact ⟨r₁, hread, fill_keeps hset List.mem_cons_self hrest⟩

/-- A field sets what was read. -/
theorem must_read_ok {field : String} {read : Decoder α} {set : α → ρ → ρ} {d : Document}
    {r r' : ρ} (h : (Field.must field read set).read d r = .ok r') :
    ∃ a, read d = .ok a ∧ r' = set a r := by
  obtain ⟨a, ha, h⟩ := bind_eq_ok.mp h
  injection h with h
  exact ⟨a, ha, h.symm⟩

/-- A field that may be missing sets what was read. -/
theorem may_read_ok {field : String} {read : Decoder α} {set : α → ρ → ρ} {d : Document}
    {r r' : ρ} (h : (Field.may field read set).read d r = .ok r') :
    ∃ a, read d = .ok a ∧ r' = set a r :=
  must_read_ok (show (Field.must field read set).read d r = .ok r' from h)

end DurableWorkflow.Decoder
