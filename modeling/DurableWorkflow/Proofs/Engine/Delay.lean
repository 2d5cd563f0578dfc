/-
A suspended delay, from the execution that meets it to the operation that lets the
run go on. The run is parked with the instant at which the delay is over, and as
long as it waits nothing changes that (`row_of_staysWaiting`). It goes on when the
text of that instant is not after the text of the clock's reading, because the
store compares texts.

Texts are in the order of time as long as the years have four digits. A delay that
ends after the year 9999 is over at once for every clock that has not come so far:
its year has a sign, and the sign stands before all digits.
-/
import DurableWorkflow.Proofs.Engine.LifeCycle
import DurableWorkflow.Proofs.Graph.Delay
import DurableWorkflow.Proofs.Json.Texts

namespace DurableWorkflow

open Time (Instant YearsInOrder)
open Store (RunRow)

variable {σ : Type} {e : Engine σ} {s : EngineState σ} {run : String} {t due : Instant}
  {seconds : UInt64}

-- ============================================================ parking

/-- Executing the run comes to a delay, where delays suspend, when the clock shows
some time. -/
structure MeetsDelay (e : Engine σ) (s : EngineState σ) (run : String) (t : Instant)
    (seconds : UInt64) : Prop where
  mode : e.settings.delayMode = .suspend
  positive : seconds ≠ 0
  reached : ∃ r w, Engine.executable s.store run = .ok (r, w) ∧
    Graph.Meets e.toSurroundings w.nodes e.settings.maxSteps (.ofRun r) s.world t seconds

/-- A run is parked at a delay that is accepted, until that is over. -/
theorem parks_of_meetsDelay (hs : s.store.Sound) (h : MeetsDelay e s run t seconds)
    (hend : Graph.delayEnd t seconds = some due) :
    (∃ report, (e.perform (.execute run) s).1 = .ok (.executed report) ∧
        report.status = .waiting ∧ report.resumeAt = some due) ∧
      ∃ row, (e.perform (.execute run) s).2.store.runRow? run = some row ∧
        Stands row .waiting ∧ row.resumeAt = some due.stored := by
  obtain ⟨r, w, hread, hmeets⟩ := h.reached
  have hhalt : (e.driveRun r w s).1.halt = .suspended due :=
    Graph.drive_of_delay h.mode h.positive hmeets hend
  have hdriven : (e.driven r w s).status = .waiting ∧ (e.driven r w s).resumeAt = some due := by
    unfold Engine.driven Engine.progressed
    rw [hhalt]
    exact ⟨rfl, rfl⟩
  rcases e.executeRun_moved hs run with ⟨row, r', w', -, hread', hreply, hmoved⟩ | ⟨f, hf, -⟩
  · obtain ⟨rfl, rfl⟩ := Prod.mk.inj (Except.ok.inj (hread'.symm.trans hread))
    refine ⟨⟨.ofRun (e.driven r' w' s), ?_, hdriven⟩, _, hmoved.row, ?_, ?_⟩
    · show (e.executeRun run s).1.map Reply.executed = _
      rw [hreply]
      rfl
    · show (e.driven r' w' s).status.name = _
      rw [hdriven.1]
    · show (e.driven r' w' s).resumeAt.map Instant.stored = _
      rw [hdriven.2]
      rfl
  · rw [hread] at hf
    cases hf

/-- The row of a run after it was parked. -/
theorem row_of_meetsDelay {world : σ} {h : List (Occurrence σ)}
    (hmeets : MeetsDelay e (e.after h (.starting world)) run t seconds)
    (hend : Graph.delayEnd t seconds = some due) :
    ∃ row, (e.after (h ++ [.operation (.execute run)]) (.starting world)).store.runRow? run
        = some row ∧ Stands row .waiting ∧ row.resumeAt = some due.stored := by
  rw [e.after_append]
  exact (parks_of_meetsDelay (sound_after e world h) hmeets hend).2

-- ============================================================ waiting

/-- A run that waits throughout a history. -/
def StaysWaiting (e : Engine σ) (s : EngineState σ) (run : String) (later : List (Occurrence σ)) :
    Prop :=
  ∀ k, ∃ row, (e.after (later.take k) s).store.runRow? run = some row ∧ Stands row .waiting

/-- A run that waits before and after an occurrence has the same row. -/
theorem Passage.of_waiting {x : Occurrence σ} {row row' : RunRow}
    (h : Passage run x (some row) (some row')) (hrow : Stands row .waiting)
    (hrow' : Stands row' .waiting) : row' = row := by
  cases h with
  | stays _ _ => rfl
  | ends hruns _ => cases hrow.unique hruns
  | resumes _ hruns => cases hrow'.unique hruns
  | cancels _ hover => cases hrow'.unique hover

/-- A run that stays waiting keeps its row. -/
theorem row_of_staysWaiting (hs : Lived s.store) {row : RunRow} {later : List (Occurrence σ)}
    (hrow : s.store.runRow? run = some row) (hwait : StaysWaiting e s run later) :
    (e.after later s).store.runRow? run = some row := by
  induction later generalizing s with
  | nil => exact hrow
  | cons x later ih =>
      obtain ⟨row₀, hrow₀, hstands₀⟩ := hwait 0
      obtain rfl : row₀ = row := Option.some.inj (hrow₀.symm.trans hrow)
      obtain ⟨row₁, hrow₁, hstands₁⟩ := hwait 1
      change (e.next s x).store.runRow? run = some row₁ at hrow₁
      have hpass := next_passage (e := e) hs.sound (hs.begun run) x
      rw [hrow, hrow₁] at hpass
      obtain rfl := hpass.of_waiting hstands₀ hstands₁
      exact ih (lived_next hs x) hrow₁ fun k => hwait (k + 1)

/-- A run waits on when nothing happens but that time goes by. -/
theorem staysWaiting_outside {row : RunRow} (hrow : s.store.runRow? run = some row)
    (hwait : Stands row .waiting) (world : σ) (issued : Issued) :
    StaysWaiting e s run [.outside world issued] := by
  rintro (_ | k)
  · exact ⟨row, hrow, hwait⟩
  · rw [List.take_succ_cons, List.take_nil]
    exact ⟨row, hrow, hwait⟩

-- =========================================================== going on

/-- Letting runs go on that are due makes the run a running one. -/
def GoesOn (e : Engine σ) (s : EngineState σ) (run : String) : Prop :=
  ∃ row, (e.perform .resumeDue s).2.store.runRow? run = some row ∧ Stands row .running

/-- A waiting run goes on when the text of its time is not after that of the
clock. -/
theorem goesOn_iff (hs : s.store.Sound) {row : RunRow} (hrow : s.store.runRow? run = some row)
    (hwait : Stands row .waiting) (hat : row.resumeAt = some due.stored) :
    GoesOn e s run ↔ due.stored ≤ (e.clock s).1.stored := by
  obtain ⟨ids, -, -, hmem, hresumed, hothers⟩ := e.resumeDueRuns_moved hs
  have hdue : Store.isDue (e.clock s).1 row = true ↔ due.stored ≤ (e.clock s).1.stored := by
    have hstatus : row.status = RunStatus.waiting.name := hwait
    simp [Store.isDue, hstatus, hat]
  rw [← hdue]
  constructor
  · rintro ⟨row', hrow', hruns⟩
    by_cases hid : run ∈ ids
    · obtain ⟨row₀, hrow₀, hisDue⟩ := (hmem run).mp hid
      obtain rfl : row₀ = row := Option.some.inj (hrow₀.symm.trans hrow)
      exact hisDue
    · have hsame := (hothers run hid).1
      have hkept : some row' = some row := hrow'.symm.trans (hsame.trans hrow)
      obtain rfl := Option.some.inj hkept
      cases hwait.unique hruns
  · intro hisDue
    obtain ⟨row₀, hrow₀, hnew, -⟩ := hresumed run ((hmem run).mpr ⟨row, hrow, hisDue⟩)
    exact ⟨row₀.resume, hnew, rfl⟩

-- ================================================== a pause of its own

/-- An engine whose clock shows what the world says, in seconds, and whose delays
suspend. -/
def Engine.still : Engine Nat where
  registry := .empty
  now n := (⟨n, 0⟩, n)
  settings := { EngineSettings.standard with delayMode := .suspend }
  ids := ⟨fun n => "w" ++ toString n, fun n => "r" ++ toString n, fun n => "n" ++ toString n⟩

/-- The graph that pauses and then is over. -/
def pause (seconds : Nat) : List Node :=
  [{ Node.new "wait" .delay with
      config := .object [("seconds", .int seconds)], nextNodes := ["end"] },
    .new "end" .finish]

/-- Makes the workflow that pauses. -/
def makesPause (seconds : Nat) : List (Occurrence Nat) :=
  [.operation (.create ((Blueprint.new "pause").withNodes (pause seconds)))]

/-- Makes the workflow that pauses and starts a run of it. -/
def startsPause (seconds : Nat) : List (Occurrence Nat) :=
  makesPause seconds ++ [.operation (.start "w0" .null)]

/-- The state after that run was executed. -/
def inPause (seconds : Nat) : EngineState Nat :=
  Engine.still.after (startsPause seconds ++ [.operation (.execute "r0")]) (.starting 0)

/-- The clock shows every instant as it is. -/
theorem valid_still (w : Nat) : (Engine.still.now w).1.Valid where
  nanos := by
    show 0 < 2 * Time.second
    decide
  leap h := absurd h (by
    show ¬ Time.second ≤ 0
    decide)

theorem clock_still (n : Nat) (s : EngineState Nat) :
    (Engine.still.clock (Engine.still.after [.outside n .none] s)).1 = ⟨n, 0⟩ := rfl

/-- No run is started by making the workflow. -/
theorem state_makesPause (n : Nat) :
    (Engine.still.after (makesPause n) (.starting 0)).world = 0 ∧
      (Engine.still.after (makesPause n) (.starting 0)).store.runs = [] ∧
      (Engine.still.after (makesPause n) (.starting 0)).issued.runs = 0 := ⟨rfl, rfl, rfl⟩

/-- The workflow that pauses is found with its nodes, whatever they are read as. -/
theorem workflow_makesPause {n : Nat} {nodes : List Node}
    (hnodes : Decoder.ofText (Decoder.list Node.decode) (Store.nodesText (pause n)) = .ok nodes) :
    ∃ w, (Engine.still.after (makesPause n) (.starting 0)).store.workflow? "w0" = .ok (some w) ∧
      w.id = "w0" ∧ w.nodes = nodes ∧ w.presets = [] ∧ w.status = .draft ∧ w.maxRunsPerHour = 10 ∧
      w.unreadable = [] := by
  have hrow : (Engine.still.after (makesPause n) (.starting 0)).store.workflowRow? "w0"
      = some (.of (Engine.still.draft ((Blueprint.new "pause").withNodes (pause n)) (pause n) "w0"
          ⟨0, 0⟩)) := rfl
  have hread := Store.WorkflowRow.read_of
    (w := Engine.still.draft ((Blueprint.new "pause").withNodes (pause n)) (pause n) "w0" ⟨0, 0⟩)
    Json.ofText_null hnodes (Json.ofText_empty _) (Json.ofText_nil _)
  have hfound := Store.workflow?_eq_some_iff.mpr ⟨_, hrow, hread⟩
  exact ⟨_, hfound, rfl, rfl, rfl, rfl, rfl, rfl⟩

/-- The run that is started is the first one, at the first node. -/
theorem started_startsPause {n : Nat} {w : Workflow}
    (hfound : (Engine.still.after (makesPause n) (.starting 0)).store.workflow? "w0"
      = .ok (some w)) (hstatus : w.status = .draft) (hlimit : w.maxRunsPerHour = 10) :
    (Engine.still.after (startsPause n) (.starting 0)).store.runRow? "r0"
        = some (.of (Engine.firstState w "r0" .null ⟨0, 0⟩)) ∧
      (Engine.still.after (startsPause n) (.starting 0)).store.workflow? "w0" = .ok (some w) ∧
      (Engine.still.after (startsPause n) (.starting 0)).world = 0 := by
  obtain ⟨hworld, hruns, hissued⟩ := state_makesPause n
  rw [startsPause, Engine.after_append]
  -- the state is a variable from here on, so that nothing computes its trail
  generalize Engine.still.after (makesPause n) (.starting 0) = s at *
  rw [show Engine.still.after [.operation (.start "w0" .null)] s
    = (Engine.still.startRun "w0" .null s).2 from rfl]
  have hid : Engine.still.ids.run s.issued.runs = "r0" := by
    rw [hissued]
    decide
  have hnow : (Engine.still.clock s).1 = ⟨0, 0⟩ := by
    show (⟨s.world, 0⟩ : Instant) = _
    rw [hworld]
    rfl
  have haccepts : w.status.acceptsRuns = true := by
    rw [hstatus]
    rfl
  have hadmits : s.store.admits "w0" w.maxRunsPerHour (Engine.still.clock s).1 = .ok true := by
    rw [hlimit, hnow]
    unfold Store.admits Store.countSince
    rw [hruns]
    rfl
  have hinsert (r : Run) : s.store.insertRun r = .ok { s.store with runs := [.of r] } := by
    unfold Store.insertRun
    rw [hruns]
    rfl
  rw [Engine.still.startRun_ok .null hfound haccepts hadmits (hinsert _), hid, hnow]
  exact ⟨rfl, hfound, hworld⟩

/-- That run can be executed, and stands at the first node. -/
theorem executable_startsPause {n : Nat} {nodes : List Node}
    (hnodes : Decoder.ofText (Decoder.list Node.decode) (Store.nodesText (pause n)) = .ok nodes) :
    ∃ r w, Engine.executable (Engine.still.after (startsPause n) (.starting 0)).store "r0"
        = .ok (r, w) ∧ w.nodes = nodes ∧ r.currentNode = w.entry ∧
      (Engine.still.after (startsPause n) (.starting 0)).world = 0 := by
  obtain ⟨w, hfound, hid, hw, hpresets, hstatus, hlimit, hintact⟩ := workflow_makesPause hnodes
  obtain ⟨hrow, hkept, hworld⟩ := started_startsPause hfound hstatus hlimit
  have hcontext : Decoder.ofText (Decoder.dict Decoder.value)
      (Store.dictText (Engine.firstState w "r0" .null ⟨0, 0⟩).context) = .ok [] := by
    show Decoder.ofText _ (Store.dictText w.presets) = _
    rw [hpresets]
    exact Json.ofText_empty _
  have hread := Store.RunRow.read_of hcontext (Json.ofText_empty _) (Json.ofText_nil _)
    Json.ofText_null
  have hrun := Store.run?_eq_some_iff.mpr ⟨_, hrow, hread⟩
  rw [← hid] at hkept
  exact ⟨_, w, Engine.executable_eq_ok_iff.mpr ⟨hrun, rfl, rfl, hkept, hintact⟩, hw, rfl, hworld⟩

/-- Whether the nodes that were read begin at one that waits so many seconds. -/
def waitsFirst (seconds : UInt64) : Except Fault (List Node) → Bool
  | .error _ => false
  | .ok nodes =>
    nodes.head?.map Node.id = some "wait" &&
      match (Graph.find? nodes "wait").map Node.behaviour with
      | some (.ok (.delay d)) => d.seconds = seconds
      | _ => false

theorem ok_of_waitsFirst {read : Except Fault (List Node)} (h : waitsFirst seconds read = true) :
    ∃ nodes n, read = .ok nodes ∧ nodes.head?.map Node.id = some "wait" ∧
      Graph.find? nodes "wait" = some n ∧ n.behaviour = .ok (.delay ⟨seconds⟩) := by
  unfold waitsFirst at h
  split at h
  next => cases h
  next nodes =>
    obtain ⟨hid, hwaits⟩ := Bool.and_eq_true_iff.mp h
    split at hwaits
    next d hd =>
      obtain ⟨n, hfind, hn⟩ := Option.map_eq_some_iff.mp hd
      obtain rfl := of_decide_eq_true hwaits
      exact ⟨nodes, n, rfl, of_decide_eq_true hid, hfind, hn⟩
    next => cases hwaits

/-- The run that is started meets its delay, if the nodes are read as they should
be. -/
theorem meetsDelay_startsPause {n : Nat} (hpos : seconds ≠ 0)
    (h : waitsFirst seconds (Decoder.list Node.decode
      (Json.written 0 [] (.array ((pause n).map Node.encode)))) = true) :
    MeetsDelay Engine.still (Engine.still.after (startsPause n) (.starting 0)) "r0" ⟨0, 0⟩
      seconds := by
  obtain ⟨nodes, node, hread, hid, hfind, hwaits⟩ := ok_of_waitsFirst h
  obtain ⟨r, w, hexecutable, hnodes, hcurrent, hworld⟩ :=
    executable_startsPause ((Json.ofText_text _ _ _).mpr hread)
  have hat : r.currentNode = "wait" := by
    rw [hcurrent, Workflow.entry, hnodes]
    exact congrArg (Option.getD · "") hid
  refine ⟨rfl, hpos, r, w, hexecutable, 0, .ofRun r, [], 0, node, by decide, ?_, ?_, hwaits, rfl⟩
  · have hne : r.currentNode ≠ "" := by
      rw [hat]
      decide
    rw [Graph.drive, hworld, Graph.State.ofRun, if_neg hne]
  · rw [hnodes, Graph.State.ofRun, hat]
    exact hfind

-- ================================================== suspended delays

/-- A suspended delay. An execution that meets it parks the run until the reading of
the clock, moved by the seconds of the delay. While the run stays waiting, letting
runs go on that are due does so with this one exactly when the time has come, to
the microsecond, if and only if the year of that time and the year of the clock's
reading stand in their order as texts. They do if both have four digits. But a
delay that ends after the year 9999 is over at once for a clock that shows no such
year, and one that ends before is never over for a clock that does. -/
theorem suspended_delay (e : Engine σ) (world : σ) (h : List (Occurrence σ)) (run : String)
    {t due : Instant} {seconds : UInt64} (hclock : ∀ w, (e.now w).1.Valid)
    (hmeets : MeetsDelay e (e.after h (.starting world)) run t seconds)
    (hend : Graph.delayEnd t seconds = some due) :
    (due.seconds = t.seconds + seconds.toNat ∧ due.nanos = t.nanos % Time.second) ∧
    (∃ report, (e.perform (.execute run) (e.after h (.starting world))).1 = .ok (.executed report) ∧
      report.status = .waiting ∧ report.resumeAt = some due) ∧
    ∀ later s', StaysWaiting e (e.after (h ++ [.operation (.execute run)]) (.starting world)) run
        later → s' = e.after (h ++ .operation (.execute run) :: later) (.starting world) →
      ((GoesOn e s' run ↔ due.truncate.le (e.clock s').1.truncate)
        ↔ YearsInOrder (e.clock s').1.date.year due.date.year) ∧
      ((0 ≤ due.date.year ∧ due.date.year ≤ 9999) →
        (0 ≤ (e.clock s').1.date.year ∧ (e.clock s').1.date.year ≤ 9999) →
        (GoesOn e s' run ↔ due.truncate.le (e.clock s').1.truncate)) ∧
      (9999 < due.date.year → (e.clock s').1.date.year ≤ 9999 →
        GoesOn e s' run ∧ ¬ due.truncate.le (e.clock s').1.truncate) ∧
      (due.date.year ≤ 9999 → 9999 < (e.clock s').1.date.year →
        ¬ GoesOn e s' run ∧ due.truncate.le (e.clock s').1.truncate) := by
  obtain ⟨hreport, -⟩ := parks_of_meetsDelay (sound_after e world h) hmeets hend
  obtain ⟨row, hrow, hwait, hat⟩ := row_of_meetsDelay hmeets hend
  have ht : t.Valid := by
    obtain ⟨r, w, -, visits, state, steps, world', n, -, -, -, -, rfl⟩ := hmeets.reached
    exact hclock _
  have hvalid := Graph.valid_delayEnd ht hmeets.positive hend
  refine ⟨Graph.delayEnd_eq ht hmeets.positive hend, hreport, ?_⟩
  intro later s' hstays hs'
  have hafter :
      s' = e.after later (e.after (h ++ [.operation (.execute run)]) (.starting world)) := by
    rw [hs', ← e.after_append, List.append_assoc, List.singleton_append]
  have hkept := row_of_staysWaiting (lived_after e world _) hrow hstays
  have hsound : s'.store.Sound := by
    rw [hs']
    exact sound_after e world _
  rw [← hafter] at hkept
  have hgoes := goesOn_iff (e := e) hsound hkept hwait hat
  have hiff := Instant.stored_le_iff_truncate_le hvalid (hclock s'.world)
  rw [hgoes]
  refine ⟨hiff, fun hfour hfour' => ?_, fun hbeyond hnot => ?_, fun hnot hbeyond => ?_⟩
  · exact hiff.mpr (Time.yearsInOrder_of_four_digits hfour' hfour)
  · obtain ⟨hlt, -, hlate⟩ := Instant.stored_lt_of_beyond hbeyond hnot
    exact ⟨String.not_lt.mp (String.lt_asymm hlt), hlate⟩
  · obtain ⟨hlt, hdue, -⟩ := Instant.stored_lt_of_beyond hbeyond hnot
    exact ⟨fun hle => String.not_lt.mpr hle hlt, hdue⟩

/-- A minute is waited for to its last second, and no longer. -/
theorem suspended_delay_minute :
    ¬ GoesOn Engine.still (Engine.still.after [.outside 59 .none] (inPause 60)) "r0" ∧
      GoesOn Engine.still (Engine.still.after [.outside 60 .none] (inPause 60)) "r0" := by
  have hmeets : MeetsDelay Engine.still (Engine.still.after (startsPause 60) (.starting 0)) "r0"
      ⟨0, 0⟩ 60 := meetsDelay_startsPause (by decide) (by decide +kernel)
  have hend : Graph.delayEnd ⟨0, 0⟩ 60 = some ⟨60, 0⟩ := by decide
  obtain ⟨-, -, hlater⟩ := suspended_delay Engine.still 0 (startsPause 60) "r0" valid_still
    hmeets hend
  obtain ⟨row, hrow, hwait, -⟩ := row_of_meetsDelay hmeets hend
  have hgoes (n : Nat) := (hlater [.outside n .none]
    (Engine.still.after [.outside n .none] (inPause 60))
    (staysWaiting_outside hrow hwait n .none)
    (by rw [inPause, ← Engine.after_append, List.append_assoc, List.singleton_append])).2.1
    (by decide)
  constructor
  · have hgoes59 := hgoes 59
    rw [clock_still] at hgoes59
    rw [hgoes59 (by decide)]
    decide
  · have hgoes60 := hgoes 60
    rw [clock_still] at hgoes60
    rw [hgoes60 (by decide)]
    decide

/-- A delay that ends in the year 11476 is over at once. -/
theorem goesOn_at_once :
    MeetsDelay Engine.still (Engine.still.after (startsPause 300000000000) (.starting 0)) "r0"
        ⟨0, 0⟩ 300000000000 ∧
      Graph.delayEnd ⟨0, 0⟩ 300000000000 = some ⟨300000000000, 0⟩ ∧
      GoesOn Engine.still (Engine.still.after [.outside 0 .none] (inPause 300000000000)) "r0" ∧
      ¬ (⟨300000000000, 0⟩ : Instant).truncate.le (⟨0, 0⟩ : Instant).truncate := by
  have hmeets : MeetsDelay Engine.still
      (Engine.still.after (startsPause 300000000000) (.starting 0)) "r0" ⟨0, 0⟩ 300000000000 :=
    meetsDelay_startsPause (by decide) (by decide +kernel)
  have hend : Graph.delayEnd ⟨0, 0⟩ 300000000000 = some ⟨300000000000, 0⟩ := by decide
  obtain ⟨row, hrow, hwait, hat⟩ := row_of_meetsDelay hmeets hend
  have hkept : (Engine.still.after [.outside 0 .none] (inPause 300000000000)).store.runRow? "r0"
      = some row := by
    rw [Engine.store_outside]
    exact hrow
  have hsound :
      (Engine.still.after [.outside 0 .none] (inPause 300000000000)).store.Sound := by
    rw [Engine.store_outside]
    unfold inPause
    exact sound_after Engine.still 0 _
  obtain ⟨hlt, -, hlate⟩ := Instant.stored_lt_of_beyond (a := ⟨300000000000, 0⟩) (b := ⟨0, 0⟩)
    (by decide) (by decide)
  refine ⟨hmeets, hend, (goesOn_iff hsound hkept hwait hat).mpr ?_, hlate⟩
  have hclock := clock_still 0 (inPause 300000000000)
  rw [hclock]
  exact String.not_lt.mp (String.lt_asymm hlt)

end DurableWorkflow
