/-
What the trail says about one run: its marks, in the order of the numbers of the
entries. A mark is an event with the node that it names, if it names one.

The trail is only ever appended to, and a new entry gets a greater number than
all others, so the order of the list is the order of the numbers.
-/
import DurableWorkflow.Proofs.Store.Runs

namespace DurableWorkflow.Store

open Time (Instant)

-- ============================================================= marks

/-- What an entry of the trail says about a run: an event, and a node. -/
structure Mark where
  event : String
  node : Option String
deriving DecidableEq, Repr

/-- The mark of an event. -/
def Mark.of (event : Event) (node : Option String) : Mark := ⟨event.name, node⟩

/-- The mark of a visit to a node. -/
def Mark.visit (node : String) : Mark := .of .stepExecuted (some node)

/-- What the trail says about a run. -/
def marks (s : Store) (id : String) : List Mark :=
  (s.trail.filter fun r => r.runId = some id).map fun r => ⟨r.event, r.node⟩

/-- The nodes that were visited, as marks tell it. -/
def visited (ms : List Mark) : List String :=
  (ms.filter fun m => m.event = Event.stepExecuted.name).filterMap Mark.node

theorem visited_append (ms ns : List Mark) : visited (ms ++ ns) = visited ms ++ visited ns := by
  rw [visited, List.filter_append, List.filterMap_append]
  rfl

/-- The marks of visits tell the visits. -/
theorem visited_visits (nodes : List String) : visited (nodes.map Mark.visit) = nodes := by
  induction nodes with
  | nil => rfl
  | cons n ns ih =>
      have hn : visited [Mark.visit n] = [n] := rfl
      rw [List.map_cons, ← List.singleton_append, visited_append, hn, ih, List.singleton_append]

-- ========================================================= appending

variable {s : Store}

/-- The number of the next entry is greater than the numbers given so far. -/
theorem lastEntry_lt_nextEntry (s : Store) : s.lastEntry < s.nextEntry := by
  suffices key : ∀ (rows : List EntryRow) (n : Int), n ≤ rows.foldl (fun n r => max n r.id) n by
    have := key s.trail s.lastEntry
    unfold nextEntry
    omega
  intro rows
  induction rows with
  | nil => intro n; exact Int.le_refl n
  | cons r rows ih =>
      intro n
      have := ih (max n r.id)
      rw [List.foldl_cons]
      omega

/-- A new entry keeps a store sound. -/
theorem Sound.append (hs : s.Sound) (workflow : String) (run : Option String) (event : Event)
    (node : Option String) (details : String) (now : Instant) :
    (s.append workflow run event node details now).2.Sound := by
  have hnext := lastEntry_lt_nextEntry s
  refine ⟨hs.named, hs.unique, ?_, ?_, hs.unfrozen⟩
  · refine List.pairwise_append.mpr ⟨hs.numbered, List.pairwise_singleton _ _, ?_⟩
    intro a ha b hb
    have hle := hs.bounded a ha
    rw [List.mem_singleton.mp hb]
    show a.id < s.nextEntry
    omega
  · intro r hr
    show r.id ≤ s.nextEntry
    rcases List.mem_append.mp hr with hr | hr
    · have hle := hs.bounded r hr
      omega
    · obtain rfl := List.mem_singleton.mp hr
      exact Int.le_refl _

/-- A new entry is the last mark of its run, and no mark of any other. -/
theorem marks_append (s : Store) (workflow : String) (run : Option String) (event : Event)
    (node : Option String) (details : String) (now : Instant) (id : String) :
    (s.append workflow run event node details now).2.marks id
      = s.marks id ++ (if run = some id then [.of event node] else []) := by
  unfold marks append
  rw [List.filter_append, List.map_append]
  congr 1
  by_cases h : run = some id
  · rw [if_pos h, List.filter_cons_of_pos (by simpa using h)]
    rfl
  · rw [if_neg h, List.filter_cons_of_neg (by simpa using h)]
    rfl

/-- Where the trail is the same, so are the marks. -/
theorem marks_congr {s' : Store} (h : s'.trail = s.trail) (id : String) :
    s'.marks id = s.marks id := by
  rw [marks, marks, h]

end DurableWorkflow.Store
