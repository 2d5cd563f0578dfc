/-
Letting runs go on whose time has come. The rows that are due are taken in the order of the
texts of their times, and one after another goes on: its row says that it runs, and no longer
until when it waits, and an entry of the trail tells at which node it stands.

What a sequence of rows that go on makes of a store is `Round`. It is proved by induction on the
rows (`Round.cons`): a row that has gone on is running, so it is not among those that are still
to go on, and these stand where they stood. After a round over all rows that are due none is due,
so another one, before the clock has moved, finds nothing to do.
-/
import DurableWorkflow.Proofs.Engine.Effects
import DurableWorkflow.Proofs.Engine.LifeCycle

namespace DurableWorkflow

open Time (Instant)
open Store (RunRow EntryRow)

variable {σ : Type}

-- ============================================================ rounds

namespace Store

variable {s s' s'' : Store} {row : RunRow} {rows : List RunRow} {now : Instant}

/-- Whether an entry tells that a run goes on, and at which node it stands. -/
structure RunRow.IsToldBy (row : RunRow) (entry : EntryRow) : Prop where
  workflow : entry.workflowId = row.workflowId
  run : entry.runId = row.id
  event : entry.event = Event.runResumed.name
  node : entry.node = some row.currentNode
  details : entry.details = ""

/-- The second store is the first one after some rows went on in turn. Every other row is as it
was. -/
structure Round (s s' : Store) (rows : List RunRow) : Prop where
  runs : s'.runs = s.runs.map fun row => if row ∈ rows then row.resume else row
  workflows : s'.workflows = s.workflows
  trail : ∃ entries, s'.trail = s.trail ++ entries ∧ List.Forall₂ RunRow.IsToldBy rows entries
  sound : s'.Sound

theorem Round.nil (hs : s.Sound) : Round s s [] where
  runs := by simp
  workflows := rfl
  trail := ⟨[], (List.append_nil _).symm, .nil⟩
  sound := hs

/-- A run that goes on does not wait any longer. -/
theorem RunRow.not_waiting_resume (row : RunRow) : ¬ Stands row.resume .waiting :=
  fun hwait => nomatch hwait.unique (show Stands row.resume .running from rfl)

/-- One row and then others are a round of them all, if the others wait. -/
theorem Round.cons (hfirst : Round s s' [row]) (hrest : Round s' s'' rows)
    (hwait : ∀ r ∈ rows, Stands r .waiting) : Round s s'' (row :: rows) where
  runs := by
    rw [hrest.runs, hfirst.runs, List.map_map]
    apply List.map_congr_left
    intro r _
    have hsingle : r ∈ [row] ↔ r = row := List.mem_singleton
    have hcons : r ∈ row :: rows ↔ r = row ∨ r ∈ rows := List.mem_cons
    simp only [Function.comp_apply, hsingle, hcons]
    by_cases hr : r = row
    · have hgone : r.resume ∉ rows := fun hmem => r.not_waiting_resume (hwait _ hmem)
      rw [if_pos hr, if_neg hgone, if_pos (.inl hr)]
    · rw [if_neg hr]
      simp only [hr, false_or]
  workflows := hrest.workflows.trans hfirst.workflows
  trail := by
    obtain ⟨entries, htrail, htold⟩ := hfirst.trail
    obtain ⟨others, htrail', htold'⟩ := hrest.trail
    refine ⟨entries ++ others, ?_, List.rel_append htold htold'⟩
    rw [htrail', htrail, List.append_assoc]
  sound := hrest.sound

/-- A row that goes on is found with its id. -/
theorem Round.runRow? (h : Round s s' rows) (hmem : row ∈ s.runs) (hrow : row ∈ rows)
    {id : String} (hid : row.id = some id) : s'.runRow? id = some row.resume := by
  refine h.sound.runRow?_of_mem ?_ (show row.resume.id = some id from hid)
  rw [h.runs]
  exact List.mem_map.mpr ⟨row, hmem, if_pos hrow⟩

/-- In a sound store, the row of a run that waits is the only one that is changed when the run
goes on. -/
theorem runs_of_resumeRun (hs : s.Sound) {id : String} (hrow : s.runRow? id = some row)
    (hwait : Stands row .waiting) (hresume : s.resumeRun id = .ok (true, s')) :
    s'.runs = s.runs.map fun r => if r ∈ [row] then r.resume else r := by
  obtain ⟨-, rfl⟩ := changeRuns_eq_true hresume
  apply List.map_congr_left
  intro r hr
  have hiff : (r.id = some id ∧ Stands r .waiting) ↔ r ∈ [row] := by
    rw [List.mem_singleton]
    constructor
    · rintro ⟨hid, -⟩
      exact Option.some.inj ((hs.runRow?_of_mem hr hid).symm.trans hrow)
    · rintro rfl
      exact ⟨id_of_runRow? hrow, hwait⟩
  simp only [Bool.and_eq_true, decide_eq_true_eq]
  exact if_congr hiff rfl rfl

/-- After a round over the rows that are due none is due. -/
theorem Round.isDue_eq_false (h : Round s s' rows) (hdue : rows.Perm (s.runs.filter (isDue now))) :
    ∀ row ∈ s'.runs, isDue now row = false := by
  intro row hrow
  rw [h.runs] at hrow
  obtain ⟨old, hold, rfl⟩ := List.mem_map.mp hrow
  rw [Bool.eq_false_iff]
  by_cases hmem : old ∈ rows
  · rw [if_pos hmem]
    exact fun hstill => old.not_waiting_resume (isDue_iff.mp hstill).1
  · rw [if_neg hmem]
    exact fun hstill => hmem (hdue.mem_iff.mpr (List.mem_filter.mpr ⟨hold, hstill⟩))

end Store

open Store (Round)

-- ============================================================ engines

variable {e : Engine σ} {s : EngineState σ}

/-- A run that waits goes on in a round of its own. -/
theorem resumeRun_round (hs : s.store.Sound) {id : String} {row : RunRow}
    (hrow : s.store.runRow? id = some row) (hwait : Stands row .waiting) :
    (e.resumeRun id s).1 = .ok true ∧ Round s.store (e.resumeRun id s).2.store [row] := by
  obtain ⟨store, hresume, hnew, hresumed⟩ := e.resumeRun_eq hs hrow hwait
  have hruns := Store.runs_of_resumeRun hs hrow hwait hresume
  rw [hresumed]
  refine ⟨rfl, hruns, hnew.workflows, ?_, ?_⟩
  · refine ⟨_, congrArg (· ++ _) hnew.trail, List.forall₂_cons.mpr ⟨?_, .nil⟩⟩
    exact ⟨rfl, (Store.id_of_runRow? hrow).symm, rfl, rfl, rfl⟩
  · exact hnew.sound.append _ _ _ _ _ _

/-- Different runs that wait go on one by one in a round. The induction is on their rows: those
that are still to go on stand in the store as they did. -/
theorem resumeRuns_round {rows : List RunRow} {ids : List String} (hs : s.store.Sound)
    (hnamed : ids.map some = rows.map RunRow.id) (hdistinct : ids.Nodup)
    (hrows : ∀ row ∈ rows, row ∈ s.store.runs ∧ Stands row .waiting) :
    (e.resumeRuns ids s).1 = .ok ids ∧ Round s.store (e.resumeRuns ids s).2.store rows := by
  induction rows generalizing ids s with
  | nil =>
      obtain rfl : ids = [] := by simpa using hnamed
      exact ⟨rfl, .nil hs⟩
  | cons row rows ih =>
      obtain ⟨id, ids, rfl⟩ := List.exists_cons_of_ne_nil
        (show ids ≠ [] by rintro rfl; simp at hnamed)
      obtain ⟨hid, hnamed⟩ := List.cons.inj hnamed
      obtain ⟨hnew, hdistinct⟩ := List.nodup_cons.mp hdistinct
      obtain ⟨hmem, hwait⟩ := hrows row List.mem_cons_self
      obtain ⟨hreply, hfirst⟩ := resumeRun_round (e := e) hs
        (hs.runRow?_of_mem hmem hid.symm) hwait
      have hstill : ∀ r ∈ rows, r ∈ (e.resumeRun id s).2.store.runs ∧ Stands r .waiting := by
        intro r hr
        obtain ⟨hmem', hwait'⟩ := hrows r (List.mem_cons_of_mem row hr)
        refine ⟨?_, hwait'⟩
        have hne : r ∉ [row] := by
          rintro hsame
          apply hnew
          have hname : some id ∈ ids.map some := by
            rw [hnamed, hid, ← List.mem_singleton.mp hsame]
            exact List.mem_map_of_mem hr
          simpa using hname
        rw [hfirst.runs]
        exact List.mem_map.mpr ⟨r, hmem', if_neg hne⟩
      obtain ⟨hreplies, hrest⟩ := ih hfirst.sound hnamed hdistinct hstill
      rw [e.resumeRuns_cons hreply hreplies]
      exact ⟨rfl, hfirst.cons hrest fun r hr => (hstill r hr).2⟩

/-- What letting go on comes to, if some rows are due: their ids are answered, each once and in
the order of their times, and the rows go on in a round. Each of these runs waited for a time
that the clock has reached, and has a row that is as it was but for its standing and that time.
As long as the clock shows the same, no run is let go on again. -/
structure GoOn (e : Engine σ) (s : EngineState σ) (rows : List RunRow) (ids : List String) :
    Prop where
  reply : (e.resumeDueRuns s).1 = .ok ids
  due : Engine.DueRows s.store (e.clock s).1 rows ids
  waited : ∀ row ∈ rows, row.status = RunStatus.waiting.name ∧
    ∃ t, row.resumeAt = some t ∧ t ≤ (e.clock s).1.stored
  round : Round s.store (e.resumeDueRuns s).2.store rows
  went : ∀ id ∈ ids, ∃ row ∈ rows, s.store.runRow? id = some row ∧
    (e.resumeDueRuns s).2.store.runRow? id
      = some { row with status := RunStatus.running.name, resumeAt := none }
  others : ∀ id, id ∉ ids →
    (e.resumeDueRuns s).2.store.runRow? id = s.store.runRow? id
  again : ∀ s', s'.store = (e.resumeDueRuns s).2.store → (e.clock s').1 = (e.clock s).1 →
    e.resumeDueRuns s' = (.ok [], (e.clock s').2)

/-- In a sound store the runs that are due go on. -/
theorem exists_goOn (hs : s.store.Sound) : ∃ rows ids, GoOn e s rows ids := by
  obtain ⟨rows, ids, hids, hdue⟩ := Engine.exists_dueRows hs (e.clock s).1
  have hrows : ∀ row ∈ rows, row ∈ s.store.runs ∧ Store.isDue (e.clock s).1 row = true := by
    intro row hrow
    exact List.mem_filter.mp (hdue.due.mem_iff.mp hrow)
  obtain ⟨hreply, hround⟩ := resumeRuns_round (e := e) (s := (e.clock s).2) hs hdue.named
    hdue.distinct fun row hrow => ⟨(hrows row hrow).1, (Store.isDue_iff.mp (hrows row hrow).2).1⟩
  rw [← e.resumeDueRuns_eq hids] at hreply hround
  refine ⟨rows, ids, hreply, hdue, fun row hrow => Store.isDue_iff.mp (hrows row hrow).2, hround,
    ?_, ?_, ?_⟩
  · intro id hid
    have hname : some id ∈ rows.map RunRow.id := hdue.named ▸ List.mem_map_of_mem hid
    obtain ⟨row, hrow, hname⟩ := List.mem_map.mp hname
    have hmem := (hrows row hrow).1
    exact ⟨row, hrow, hs.runRow?_of_mem hmem hname, hround.runRow? hmem hrow hname⟩
  · intro id hid
    obtain ⟨ids', hreply', -, -, -, hothers⟩ := e.resumeDueRuns_moved hs
    obtain rfl : ids' = ids := Except.ok.inj (hreply'.symm.trans hreply)
    exact (hothers id hid).1
  · intro s' hstore hclock
    have hnone := Store.dueRuns_eq_nil (hround.isDue_eq_false hdue.due)
    rw [← hstore, ← hclock] at hnone
    exact e.resumeDueRuns_eq hnone

/-- After every history, letting runs go on does so once with each run that is due, and with no
other, and keeps where it stands. -/
theorem due_runs_go_on (e : Engine σ) (world : σ) (h : List (Occurrence σ)) :
    ∃ rows ids, GoOn e (e.after h (.starting world)) rows ids :=
  exists_goOn (sound_after e world h)

end DurableWorkflow
