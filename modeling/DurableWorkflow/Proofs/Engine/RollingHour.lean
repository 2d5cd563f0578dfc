/-
How many runs of a workflow are started in an hour. A run is started only if fewer
than the limit were started in the hour before; from this check at single times it
follows for the hour before any time that no more runs were started in it than the
limit ever allowed.

What carries this over a history is that the time at which a run was started stays
in its row as it was written, and that rows of runs are never taken away: an
operation leaves the times of starts as they are, or adds the one that the clock
shows (`starts_next`). So the stored times of a workflow's starts are the texts of a
list of instants each of which was admitted (`admitted_after`).

The clock may go back; only the years have to have four digits, so that stored times
stand in the order of time. That no run was counted that started later than now is
what needs a clock that does not go back.
-/
import DurableWorkflow.Proofs.Engine.Turns
import DurableWorkflow.Proofs.Store.Timestamps
import DurableWorkflow.Proofs.Time.Hour
import Mathlib.Data.List.Induction
import Mathlib.Data.List.Infix

namespace DurableWorkflow

open Time (Instant)
open Store (RunRow)

variable {σ : Type}

-- ======================================================== stored starts

namespace Store

/-- The stored times at which runs of a workflow were started. -/
def starts (s : Store) (workflow : String) : List String :=
  (s.runs.filter fun r => r.workflowId = workflow).map RunRow.startedAt

/-- How many runs of a workflow were started in the hour before an instant. -/
def startsWithin (s : Store) (workflow : String) (t : Instant) : Nat :=
  (s.starts workflow).countP fun text => decide (t.InHourBefore (readInstant text))

/-- The limit of a workflow, if there is such a workflow. -/
def limit? (s : Store) (workflow : String) : Option UInt32 :=
  match s.workflow? workflow with
  | .ok (some w) => some w.maxRunsPerHour
  | _ => none

/-- What of the row of a run stays as it was written. -/
def RunRow.origin (r : RunRow) : Option String × String × String :=
  (r.id, r.workflowId, r.startedAt)

variable {s s' : Store}

theorem countSince_eq (s : Store) (workflow : String) (since : Instant) :
    s.countSince workflow since
      = (s.starts workflow).countP fun text => decide (since.stored < text) := by
  unfold countSince starts
  rw [List.countP_map, List.countP_filter]
  exact List.countP_congr fun r _ => by simp [and_comm]

/-- The times of starts are told by what stays of the rows. -/
theorem starts_eq (s : Store) (workflow : String) :
    s.starts workflow = ((s.runs.map RunRow.origin).filter fun o => o.2.1 = workflow).map
      fun o => o.2.2 := by
  rw [List.filter_map, List.map_map]
  rfl

theorem Sound.nodup_origins (hs : s.Sound) : (s.runs.map RunRow.origin).Nodup := by
  refine List.Nodup.of_map Prod.fst ?_
  rw [List.map_map]
  exact hs.unique

/-- In a sound store what stays of a row is found with its id. -/
theorem Sound.mem_origins_iff (hs : s.Sound) {o : Option String × String × String} :
    o ∈ s.runs.map RunRow.origin ↔ ∃ id, (s.runRow? id).map RunRow.origin = some o := by
  rw [List.mem_map]
  constructor
  · rintro ⟨row, hrow, rfl⟩
    obtain ⟨id, hid⟩ := Option.ne_none_iff_exists'.mp (hs.named row hrow)
    exact ⟨id, by rw [hs.runRow?_of_mem hrow hid, Option.map_some]⟩
  · rintro ⟨id, hid⟩
    obtain ⟨row, hrow, rfl⟩ := Option.map_eq_some_iff.mp hid
    exact ⟨row, mem_of_runRow? hrow, rfl⟩

/-- Where rows keep what stays of them, the times of starts are the same. -/
theorem starts_perm (hs : s.Sound) (hs' : s'.Sound)
    (h : ∀ id, (s'.runRow? id).map RunRow.origin = (s.runRow? id).map RunRow.origin)
    (workflow : String) : (s'.starts workflow).Perm (s.starts workflow) := by
  rw [starts_eq, starts_eq]
  refine List.Perm.map _ (List.Perm.filter _ ?_)
  rw [List.perm_ext_iff_of_nodup hs'.nodup_origins hs.nodup_origins]
  intro o
  simp only [hs'.mem_origins_iff, hs.mem_origins_iff, h]

/-- A new row adds what stays of it. -/
theorem origins_perm_new (hs : s.Sound) (hs' : s'.Sound) {id : String} {row : RunRow}
    (hnew : s.runRow? id = none) (hrow : s'.runRow? id = some row)
    (hothers : ∀ i, i ≠ id → s'.runRow? i = s.runRow? i) :
    (s'.runs.map RunRow.origin).Perm (s.runs.map RunRow.origin ++ [row.origin]) := by
  have hid : row.id = some id := id_of_runRow? hrow
  have hnodup : (s.runs.map RunRow.origin ++ [row.origin]).Nodup := by
    rw [List.nodup_append]
    refine ⟨hs.nodup_origins, List.nodup_singleton _, ?_⟩
    intro o ho o' ho' heq
    rw [heq, List.mem_singleton.mp ho'] at ho
    obtain ⟨i, hi⟩ := hs.mem_origins_iff.mp ho
    obtain ⟨old, hold, horigin⟩ := Option.map_eq_some_iff.mp hi
    have hsame : old.id = row.id := congrArg Prod.fst horigin
    obtain rfl : i = id := Option.some.inj ((id_of_runRow? hold).symm.trans (hsame.trans hid))
    rw [hnew] at hold
    cases hold
  rw [List.perm_ext_iff_of_nodup hs'.nodup_origins hnodup]
  intro o
  rw [List.mem_append, List.mem_singleton, hs.mem_origins_iff, hs'.mem_origins_iff]
  constructor
  · rintro ⟨i, hi⟩
    by_cases h : i = id
    · rw [h, hrow] at hi
      exact .inr (Option.some.inj hi).symm
    · rw [hothers i h] at hi
      exact .inl ⟨i, hi⟩
  · rintro (⟨i, hi⟩ | rfl)
    · have h : i ≠ id := by
        rintro rfl
        rw [hnew] at hi
        cases hi
      exact ⟨i, by rw [hothers i h, hi]⟩
    · exact ⟨id, by rw [hrow, Option.map_some]⟩

/-- A new row adds its time. -/
theorem starts_perm_new (hs : s.Sound) (hs' : s'.Sound) {id : String} {row : RunRow}
    (hnew : s.runRow? id = none) (hrow : s'.runRow? id = some row)
    (hothers : ∀ i, i ≠ id → s'.runRow? i = s.runRow? i) (workflow : String) :
    (s'.starts workflow).Perm
      (s.starts workflow ++ if row.workflowId = workflow then [row.startedAt] else []) := by
  have hperm := origins_perm_new hs hs' hnew hrow hothers
  rw [starts_eq, starts_eq]
  refine ((hperm.filter _).map _).trans ?_
  rw [List.filter_append, List.map_append]
  by_cases h : row.workflowId = workflow
  · rw [if_pos h, List.filter_cons_of_pos (by simp [RunRow.origin, h])]
    exact List.Perm.refl _
  · rw [if_neg h, List.filter_cons_of_neg (by simp [RunRow.origin, h])]
    exact List.Perm.refl _

/-- A workflow that is found has the id that it was looked for with. -/
theorem id_of_workflow? {id : String} {w : Workflow} (h : s.workflow? id = .ok (some w)) :
    w.id = id := by
  obtain ⟨row, hrow, hread⟩ := workflow?_eq_some_iff.mp h
  have hid : row.id = some id := by
    have := List.find?_some hrow
    simpa using this
  unfold WorkflowRow.read at hread
  rw [hid] at hread
  split at hread
  next heq => cases heq
  next heq _ =>
    injection heq with heq
    injection hread with hread
    rw [← hread, ← heq]
  next => cases hread

end Store

-- ==================================================== one occurrence

/-- What becomes of a run that is not started in an operation leaves its origin. -/
theorem Turn.origin {e : Engine σ} {s : EngineState σ} {run : String} {o : Operation}
    {reply : Except Failure Reply} {row : Option RunRow} {ms : List Store.Mark}
    (h : Turn e s run o reply row ms) (ho : ∀ workflow trigger, o ≠ .start workflow trigger) :
    row.map RunRow.origin = (s.store.runRow? run).map RunRow.origin := by
  cases h with
  | rests => rfl
  | starts => exact absurd rfl (ho _ _)
  | executes hrow => rw [hrow]; rfl
  | resumes hrow => rw [hrow]; rfl
  | cancels hrow => rw [hrow]; rfl

/-- An occurrence leaves the times of a workflow's starts as they are, or it is a start
that was admitted, and adds its time. -/
theorem starts_next {e : Engine σ} {s : EngineState σ} (hs : s.store.Sound) (x : Occurrence σ)
    (workflow : String) :
    ((e.next s x).store.starts workflow).Perm (s.store.starts workflow) ∨
      ∃ trigger w, x = .operation (.start workflow trigger) ∧
        s.store.workflow? workflow = .ok (some w) ∧
        s.store.admits workflow w.maxRunsPerHour (e.clock s).1 = .ok true ∧
        ((e.next s x).store.starts workflow).Perm
          (s.store.starts workflow ++ [(e.clock s).1.stored]) := by
  have hsound := sound_next (e := e) hs x
  cases x with
  | outside world issued => exact .inl (List.Perm.refl _)
  | operation o =>
      by_cases ho : ∃ id trigger, o = .start id trigger
      · obtain ⟨id, trigger, rfl⟩ := ho
        rcases e.startRun_moved hs id trigger with
          ⟨run, w, -, hnew, hw, -, hadmits, hmoved⟩ | ⟨-, hstore⟩
        · have hperm := Store.starts_perm_new hs hsound hnew hmoved.row hmoved.otherRows workflow
          have hid : (RunRow.of (Engine.firstState w run trigger (e.clock s).1)).workflowId = id :=
            Store.id_of_workflow? hw
          rw [hid] at hperm
          by_cases h : id = workflow
          · subst h
            rw [if_pos rfl] at hperm
            exact .inr ⟨trigger, w, rfl, hw, hadmits, hperm⟩
          · rw [if_neg h, List.append_nil] at hperm
            exact .inl hperm
        · left
          rw [show (e.next s (.operation (.start id trigger))).store = s.store from hstore]
      · refine .inl (Store.starts_perm hs hsound (fun run => ?_) workflow)
        exact (perform_turn hs run o).2.origin fun id trigger h => ho ⟨id, trigger, h⟩

-- ========================================================= histories

/-- What the clock shows where a run is started. -/
def Occurrence.startTime (e : Engine σ) (s : EngineState σ) : Occurrence σ → List Instant
  | .operation (.start _ _) => [(e.clock s).1]
  | _ => []

/-- What the clock shows at the starts of runs in a history. -/
def Engine.startTimes (e : Engine σ) : List (Occurrence σ) → EngineState σ → List Instant
  | [], _ => []
  | x :: h, s => x.startTime e s ++ e.startTimes h (e.next s x)

theorem startTimes_append (e : Engine σ) (h k : List (Occurrence σ)) (s : EngineState σ) :
    e.startTimes (h ++ k) s = e.startTimes h s ++ e.startTimes k (e.after h s) := by
  induction h generalizing s with
  | nil => rfl
  | cons x h ih =>
      rw [List.cons_append, Engine.startTimes, ih, Engine.startTimes, List.append_assoc]
      rfl

/-- A reading of the clock from the years 1 to 9999. -/
structure FromOurYears (t : Instant) : Prop where
  valid : t.Valid
  years : 1 ≤ t.date.year ∧ t.date.year ≤ 9999

instance (t : Instant) : Decidable (FromOurYears t) :=
  decidable_of_iff (t.Valid ∧ 1 ≤ t.date.year ∧ t.date.year ≤ 9999)
    ⟨fun h => ⟨h.1, h.2⟩, fun h => ⟨h.valid, h.years⟩⟩

/-- The stored times of later starts are those of instants after it. -/
theorem stored_lt_iff {since t : Instant} (hsince : since.Valid) (ht : t.Valid)
    (hyear : 0 ≤ since.date.year ∧ since.date.year ≤ 9999)
    (hyear' : 0 ≤ t.date.year ∧ t.date.year ≤ 9999) :
    since.stored < t.stored ↔ ¬ t.truncate.le since := by
  rw [Store.stored_lt_iff_of_four_digits hsince ht hyear hyear', Instant.truncate_le_truncate_iff]

/-- The runs that are counted for a start are those that began in the hour before it,
as far as any began by then. -/
theorem countSince_eq_countP {s : Store} {workflow : String} {ts : List Instant}
    (hperm : (s.starts workflow).Perm (ts.map Instant.stored)) (hts : ∀ t ∈ ts, FromOurYears t)
    {now : Instant} (hnow : FromOurYears now) :
    s.countSince workflow now.backAnHour
      = ts.countP fun t => decide (¬ t.truncate.le now.backAnHour) := by
  rw [Store.countSince_eq, hperm.countP_eq, List.countP_map]
  refine List.countP_congr fun t ht => ?_
  obtain ⟨hvalid, hyears⟩ := hts t ht
  simp only [Function.comp_apply, decide_eq_true_eq]
  exact stored_lt_iff now.valid_backAnHour hvalid (Instant.year_backAnHour hnow.years)
    ⟨by omega, hyears.2⟩

/-- What the check for another run answers. -/
theorem admits_eq (s : Store) (workflow : String) (limit : UInt32) {now : Instant}
    (hnow : FromOurYears now) :
    s.admits workflow limit now
      = .ok (decide (s.countSince workflow now.backAnHour < limit.toNat)) := by
  have hback : now.addSeconds (-Store.hour) = some now.backAnHour := by
    rw [show -Store.hour = -3600 from rfl, Instant.addSeconds_back hnow.valid,
      if_pos (Instant.inRange_of_year (Instant.year_backAnHour hnow.years))]
  unfold Store.admits
  rw [hback]

/-- After a history the stored times of a workflow's starts are those of admitted
instants, which the clock showed. -/
theorem admitted_after (e : Engine σ) (world : σ) (h : List (Occurrence σ)) (workflow : String)
    (limit : Nat) (hclock : ∀ t ∈ e.startTimes h (.starting world), FromOurYears t)
    (hlimit : ∀ k, k <+: h → ∀ n ∈ (e.after k (.starting world)).store.limit? workflow,
      n.toNat ≤ limit) :
    ∃ ts, (∀ t ∈ ts, t ∈ e.startTimes h (.starting world)) ∧ Instant.Admitted limit ts ∧
      ((e.after h (.starting world)).store.starts workflow).Perm (ts.map Instant.stored) := by
  induction h using List.reverseRecOn with
  | nil => exact ⟨[], by simp, .nil, List.Perm.refl _⟩
  | append_singleton h x ih =>
      rw [startTimes_append] at hclock
      obtain ⟨ts, hmem, hadmitted, hperm⟩ := ih
        (fun t ht => hclock t (List.mem_append_left _ ht))
        (fun k hk => hlimit k (hk.trans (List.prefix_append h [x])))
      have hnext : e.after (h ++ [x]) (.starting world)
          = e.next (e.after h (.starting world)) x := e.after_append h [x] _
      rw [startTimes_append, hnext]
      rcases starts_next (sound_after e world h) x workflow with
        hsame | ⟨trigger, w, rfl, hw, hadmits, hnew⟩
      · exact ⟨ts, fun t ht => List.mem_append_left _ (hmem t ht), hadmitted, hsame.trans hperm⟩
      · have hnow := hclock (e.clock (e.after h (.starting world))).1
          (List.mem_append_right _ (List.mem_singleton_self _))
        rw [admits_eq _ _ _ hnow, countSince_eq_countP hperm
          (fun t ht => hclock t (List.mem_append_left _ (hmem t ht))) hnow] at hadmits
        have hcount := of_decide_eq_true (Except.ok.inj hadmits)
        have hmax := hlimit h (List.prefix_append h _) w.maxRunsPerHour (by
          rw [Store.limit?, hw]
          rfl)
        refine ⟨ts ++ [(e.clock (e.after h (.starting world))).1], ?_,
          hadmitted.snoc (Nat.lt_of_lt_of_le hcount hmax), ?_⟩
        · intro t ht
          rcases List.mem_append.mp ht with ht | ht
          · exact List.mem_append_left _ (hmem t ht)
          · exact List.mem_append_right _ ht
        · rw [List.map_append]
          exact hnew.trans (hperm.append_right _)

-- ================================================== the rolling hour

/-- A stored start of our years is read back, cut to the microsecond. -/
theorem readInstant_stored {t : Instant} (ht : FromOurYears t) :
    Store.readInstant t.stored = t.truncate := by
  obtain ⟨hvalid, hyears⟩ := ht
  exact Store.readInstant_of_four_digits hvalid ⟨by omega, hyears.2⟩

theorem startsWithin_eq {s : Store} {workflow : String} {ts : List Instant}
    (hperm : (s.starts workflow).Perm (ts.map Instant.stored)) (hts : ∀ t ∈ ts, FromOurYears t)
    (t : Instant) :
    s.startsWithin workflow t = ts.countP fun a => decide (t.InHourBefore a.truncate) := by
  unfold Store.startsWithin
  rw [hperm.countP_eq, List.countP_map]
  exact List.countP_congr fun a ha => by rw [Function.comp_apply, readInstant_stored (hts a ha)]

/-- A run with a new id can be added. -/
theorem insertRun_of_new {s : Store} {r : Run} (h : s.runRow? r.id = none) :
    ∃ s', s.insertRun r = .ok s' := by
  have hany : (s.runs.any fun row => row.id = some r.id) = false := by
    rw [Store.runRow?, List.find?_eq_none] at h
    simpa using h
  unfold Store.insertRun
  rw [hany]
  exact ⟨_, rfl⟩

/-- Whether a run of a workflow that accepts runs is started is told by the check, and
by whether the id that is drawn for it is new. -/
theorem startRun_of_admits {e : Engine σ} {s : EngineState σ} {workflow : String} {w : Workflow}
    {b : Bool} (trigger : Value) (hw : s.store.workflow? workflow = .ok (some w))
    (haccepts : w.status.acceptsRuns = true)
    (hadmits : s.store.admits workflow w.maxRunsPerHour (e.clock s).1 = .ok b) :
    ((e.startRun workflow trigger s).1 = .ok none ↔ b = false) ∧
      (s.store.runRow? (e.ids.run s.issued.runs) = none →
        ((e.startRun workflow trigger s).1 = .ok (some (e.ids.run s.issued.runs)) ↔ b = true)) := by
  cases b with
  | false =>
      have hrefused : (e.startRun workflow trigger s).1 = .ok none := by
        unfold Engine.startRun
        rw [hw]
        simp only [haccepts, if_true]
        rw [show (e.clock s).2.store = s.store from rfl, hadmits]
      rw [hrefused]
      simp
  | true =>
      cases hinsert : s.store.insertRun
          (Engine.firstState w (e.ids.run s.issued.runs) trigger (e.clock s).1) with
      | ok store =>
          rw [e.startRun_ok trigger hw haccepts hadmits hinsert]
          simp
      | error f =>
          have hfailed : (e.startRun workflow trigger s).1 = .error f := by
            unfold Engine.startRun
            rw [hw]
            simp only [haccepts, if_true]
            rw [show (e.clock s).2.store = s.store from rfl, hadmits]
            simp only
            rw [show (e.clock s).2.issued = s.issued from rfl, hinsert]
          rw [hfailed]
          refine ⟨by simp, fun hnew => ?_⟩
          obtain ⟨store, hstore⟩ := insertRun_of_new
            (r := Engine.firstState w (e.ids.run s.issued.runs) trigger (e.clock s).1) hnew
          rw [hinsert] at hstore
          cases hstore

/-- The rolling hour. Let the clock show times of the years 1 to 9999 where runs are
started, and let the limit of a workflow never be more than `limit` in a history. In
no hour, whatever its end, more of its runs were started than that; the end must not
outrun a start within a leap second. And a workflow that accepts runs is refused
another one exactly if as many of its runs as its limit says were started in the
hour before now; for this the clock must not have gone back. -/
theorem rolling_hour (e : Engine σ) (world : σ) (h : List (Occurrence σ)) (workflow : String)
    (limit : Nat) (hclock : ∀ t ∈ e.startTimes h (.starting world), FromOurYears t)
    (hlimit : ∀ k, k <+: h → ∀ n ∈ (e.after k (.starting world)).store.limit? workflow,
      n.toNat ≤ limit) :
    (∀ t : Instant, t.Valid →
      (∀ text ∈ (e.after h (.starting world)).store.starts workflow,
        ¬ t.Outruns (Store.readInstant text)) →
      (e.after h (.starting world)).store.startsWithin workflow t ≤ limit) ∧
    ∀ s trigger w, s = e.after h (.starting world) → FromOurYears (e.clock s).1 →
      (∀ t ∈ e.startTimes h (.starting world), t.le (e.clock s).1) →
      s.store.workflow? workflow = .ok (some w) → w.status.acceptsRuns = true →
      ((e.startRun workflow trigger s).1 = .ok none
        ↔ w.maxRunsPerHour.toNat ≤ s.store.startsWithin workflow (e.clock s).1) ∧
      (s.store.runRow? (e.ids.run s.issued.runs) = none →
        ((e.startRun workflow trigger s).1 = .ok (some (e.ids.run s.issued.runs))
          ↔ s.store.startsWithin workflow (e.clock s).1 < w.maxRunsPerHour.toNat)) := by
  obtain ⟨ts, hmem, hadmitted, hperm⟩ := admitted_after e world h workflow limit hclock hlimit
  have hts : ∀ t ∈ ts, FromOurYears t := fun t ht => hclock t (hmem t ht)
  constructor
  · intro t ht hout
    rw [startsWithin_eq hperm hts]
    refine hadmitted.count_le (fun a ha => (hts a ha).valid) ht fun a ha => ?_
    rw [← readInstant_stored (hts a ha)]
    exact hout a.stored (hperm.mem_iff.mpr (List.mem_map_of_mem ha))
  · rintro s trigger w rfl hnow hle hw haccepts
    generalize e.after h (.starting world) = s at *
    have hwithin : s.store.startsWithin workflow (e.clock s).1
        = s.store.countSince workflow (e.clock s).1.backAnHour := by
      rw [startsWithin_eq hperm hts, countSince_eq_countP hperm hts hnow]
      refine List.countP_congr fun a ha => ?_
      have hbefore : a.truncate.le (e.clock s).1 :=
        Instant.le_trans a.truncate_le (hle a (hmem a ha))
      simp only [Instant.InHourBefore, hbefore, true_and]
    have hadmits := admits_eq s.store workflow w.maxRunsPerHour hnow
    obtain ⟨hrefused, hstarted⟩ := startRun_of_admits trigger hw haccepts hadmits
    rw [hwithin]
    refine ⟨hrefused.trans ?_, fun hnew => (hstarted hnew).trans ?_⟩
    · rw [decide_eq_false_iff_not, Nat.not_lt]
    · rw [decide_eq_true_eq]

-- ================================================= one run in an hour

/-- An engine whose clock shows what the world says. -/
def Engine.showing : Engine Instant where
  registry := .empty
  now t := (t, t)
  settings := .standard
  ids := ⟨fun n => "w" ++ toString n, fun n => "r" ++ toString n, fun n => "n" ++ toString n⟩

/-- A workflow is made that may be started once in an hour; it is started at two times,
and a third time is reached. -/
def twoStarts (a b t : Instant) : List (Occurrence Instant) :=
  [.operation (.create ((Blueprint.new "once").withMaxRunsPerHour 1)),
    .outside a ⟨1, 0, 0⟩, .operation (.start "w0" .null),
    .outside b ⟨1, 1, 0⟩, .operation (.start "w0" .null),
    .outside t ⟨1, 2, 0⟩]

/-- The state after that. -/
def afterTwoStarts (a b t : Instant) : EngineState Instant :=
  Engine.showing.after (twoStarts a b t) (.starting .epoch)

/-- Whether a workflow was found that accepts runs and has a limit of one. -/
def acceptsOne : Except Failure (Option Workflow) → Bool
  | .ok (some w) => w.status.acceptsRuns && w.maxRunsPerHour = 1
  | _ => false

theorem exists_of_acceptsOne {found : Except Failure (Option Workflow)}
    (h : acceptsOne found = true) :
    ∃ w, found = .ok (some w) ∧ w.status.acceptsRuns = true ∧ w.maxRunsPerHour = 1 := by
  unfold acceptsOne at h
  split at h
  next w =>
    obtain ⟨haccepts, hlimit⟩ := Bool.and_eq_true_iff.mp h
    exact ⟨w, rfl, haccepts, of_decide_eq_true hlimit⟩
  next => cases h

/-- A limit that is kept to in all the beginnings of a history. -/
theorem limit_of_inits {e : Engine σ} {world : σ} {h : List (Occurrence σ)} {workflow : String}
    {limit : Nat}
    (hinits : (h.inits.all fun k => ((e.after k (.starting world)).store.limit? workflow).all
      fun n => decide (n.toNat ≤ limit)) = true) (k : List (Occurrence σ)) (hk : k <+: h) :
    ∀ n ∈ (e.after k (.starting world)).store.limit? workflow, n.toNat ≤ limit := by
  intro n hn
  have hall := List.all_eq_true.mp hinits k ((List.mem_inits k h).mpr hk)
  rw [show (e.after k (.starting world)).store.limit? workflow = some n from hn] at hall
  exact of_decide_eq_true hall

/-- An hour later there may be another run, and half an hour after that there may
not. -/
theorem rolling_hour_once :
    (afterTwoStarts ⟨0, 0⟩ ⟨3600, 0⟩ ⟨5400, 0⟩).store.startsWithin "w0" ⟨5400, 0⟩ ≤ 1 ∧
      (Engine.showing.startRun "w0" .null (afterTwoStarts ⟨0, 0⟩ ⟨3600, 0⟩ ⟨5400, 0⟩)).1
        = .ok none := by
  have hfound : acceptsOne ((afterTwoStarts ⟨0, 0⟩ ⟨3600, 0⟩ ⟨5400, 0⟩).store.workflow? "w0")
      = true := by decide +kernel
  obtain ⟨w, hw, haccepts, hone⟩ := exists_of_acceptsOne hfound
  obtain ⟨hwithin, hrefused⟩ := rolling_hour Engine.showing .epoch
    (twoStarts ⟨0, 0⟩ ⟨3600, 0⟩ ⟨5400, 0⟩) "w0" 1 (by decide +kernel)
    (limit_of_inits (by decide +kernel))
  refine ⟨hwithin ⟨5400, 0⟩ (by decide) (by decide +kernel), ?_⟩
  refine (hrefused _ .null w rfl (by decide +kernel) (by decide +kernel) hw haccepts).1.mpr ?_
  rw [hone]
  decide +kernel

/-- In a leap second the hour before now is not the whole of an hour before a time
soon after it: of the hour before the year 2017 it leaves out the run that was started
half a second after eleven. -/
theorem rolling_hour_leap :
    (∀ t ∈ Engine.showing.startTimes (twoStarts ⟨1483225200, 500000000⟩ ⟨1483228799, 1500000000⟩
        ⟨1483228800, 0⟩) (.starting .epoch), FromOurYears t) ∧
      (Engine.showing.startTimes (twoStarts ⟨1483225200, 500000000⟩ ⟨1483228799, 1500000000⟩
        ⟨1483228800, 0⟩) (.starting .epoch)).Pairwise Instant.le ∧
      (∀ k, k <+: twoStarts ⟨1483225200, 500000000⟩ ⟨1483228799, 1500000000⟩ ⟨1483228800, 0⟩ →
        ∀ n ∈ (Engine.showing.after k (.starting .epoch)).store.limit? "w0", n.toNat ≤ 1) ∧
      (⟨1483228800, 0⟩ : Instant).Valid ∧
      1 < (afterTwoStarts ⟨1483225200, 500000000⟩ ⟨1483228799, 1500000000⟩
        ⟨1483228800, 0⟩).store.startsWithin "w0" ⟨1483228800, 0⟩ :=
  ⟨by decide +kernel, by decide +kernel, limit_of_inits (by decide +kernel), by decide,
    by decide +kernel⟩

end DurableWorkflow
