/-
Maps with text keys, kept as lists in ascending order of their keys. Keys are
compared character by character by code point, which is also the order of
their bytes. `insert` keeps the order, so a map that is built by insertion has
one entry for each key and one way to be written.
-/

namespace DurableWorkflow

/-- A map from text to values, in ascending order of the keys. -/
abbrev Dict (α : Type) := List (String × α)

namespace Dict

variable {α β : Type}

-- ========================================================= operations

/-- The value of the first entry with this key. -/
def find? : Dict α → String → Option α
  | [], _ => none
  | (k, a) :: m, key => if k = key then some a else find? m key

/-- Whether there is an entry with this key. -/
def has (m : Dict α) (key : String) : Bool := (m.find? key).isSome

/-- Sets the value of a key, at its place in the order. -/
def insert : Dict α → String → α → Dict α
  | [], key, a => [(key, a)]
  | (k, b) :: m, key, a =>
    if key = k then (key, a) :: m
    else if key < k then (key, a) :: (k, b) :: m
    else (k, b) :: insert m key a

/-- Removes the entries with this key. -/
def erase : Dict α → String → Dict α
  | [], _ => []
  | (k, a) :: m, key => if k = key then erase m key else (k, a) :: erase m key

/-- The map of these entries; of two with one key the later wins. -/
def ofEntries (es : List (String × α)) : Dict α :=
  es.foldl (fun m e => m.insert e.1 e.2) []

/-- The keys, in order. -/
def keys (m : Dict α) : List String := m.map (·.1)

/-- Ascending order of the keys, each key once. -/
def Sorted (m : Dict α) : Prop := m.Pairwise (fun x y => x.1 < y.1)

-- ============================================================== laws

theorem find?_insert (m : Dict α) (k : String) (a : α) (key : String) :
    (m.insert k a).find? key = if k = key then some a else m.find? key := by
  induction m with
  | nil => simp [insert, find?]
  | cons e m ih =>
    obtain ⟨k', b⟩ := e
    simp only [insert]
    split
    · rename_i h
      subst h
      by_cases h' : k = key <;> simp [find?, h']
    · split
      · simp only [find?]
      · by_cases h' : k' = key
        · subst h'
          rename_i h _
          simp [find?, h]
        · simp [find?, h', ih]

theorem find?_erase (m : Dict α) (k key : String) :
    (m.erase k).find? key = if k = key then none else m.find? key := by
  induction m with
  | nil => simp [erase, find?]
  | cons e m ih =>
    obtain ⟨k', b⟩ := e
    simp only [erase]
    split
    · rename_i h
      subst h
      rw [ih]
      by_cases h' : k' = key <;> simp [find?, h']
    · by_cases h' : k' = key
      · subst h'
        rename_i h
        simp [find?, Ne.symm h]
      · simp [find?, h', ih]

end Dict

end DurableWorkflow
