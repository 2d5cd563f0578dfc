/-
What the statistics say, beside what listings show. The runs that are counted are those of one
workflow, or all. Counting goes from row to row and adds one to the number of the row's status,
so after any rows the number of a status is what it was before and the rows that have the status
(`number_tally`), and all numbers together have grown by the number of rows (`total_tally`). From
this come the numbers of `countByStatus`, and, because every run belongs to exactly one workflow,
that the numbers of all runs are the sums of those of each workflow (`sum_countP`).

Numbers are kept in 64 bits. A table has no more rows than 63 bits can number, so they are the
numbers of rows themselves.
-/
import Mathlib.Algebra.BigOperators.Group.Finset.Basic
import Mathlib.Algebra.GroupWithZero.Nat
import Mathlib.Data.UInt
import DurableWorkflow.Proofs.Dict
import DurableWorkflow.Proofs.Store.Listings

namespace DurableWorkflow

-- ============================================================== tallies

namespace Dict

variable {m : Dict UInt64}

/-- The sum of the numbers in a map. -/
def total (m : Dict UInt64) : UInt64 := (m.map Prod.snd).sum

/-- The number of a key, which is zero if there is none. -/
def number (m : Dict UInt64) (key : String) : UInt64 := (m.find? key).getD 0

/-- One more of a key. -/
def bump (m : Dict UInt64) (key : String) : Dict UInt64 := m.insert key (m.number key + 1)

theorem find?_eq_none_of_lt {key : String} (h : ∀ e ∈ m, key < e.1) : m.find? key = none := by
  apply find?_eq_none
  intro hkey
  obtain ⟨e, he, rfl⟩ := List.mem_map.mp hkey
  exact String.lt_irrefl e.1 (h e he)

/-- Setting a number adds it to the sum, and takes away the number that was there. -/
theorem Sorted.total_insert (h : m.Sorted) (key : String) (n : UInt64) :
    (m.insert key n).total + m.number key = m.total + n := by
  induction m with
  | nil => simp [Dict.insert, total, number, find?]
  | cons e m ih =>
      obtain ⟨k, b⟩ := e
      obtain ⟨hfirst, hrest⟩ := List.pairwise_cons.mp h
      have hih := ih hrest
      simp only [total, number] at hih
      simp only [Dict.insert, total, number, find?]
      by_cases hkey : key = k
      · rw [if_pos hkey, if_pos hkey.symm]
        simp only [List.map_cons, List.sum_cons, Option.getD_some]
        ac_rfl
      · rw [if_neg hkey, if_neg (Ne.symm hkey)]
        by_cases hlt : key < k
        · have hnone : find? m key = none :=
            find?_eq_none_of_lt fun e he => String.lt_trans hlt (hfirst e he)
          rw [if_pos hlt, hnone]
          simp only [List.map_cons, List.sum_cons, Option.getD_none, UInt64.add_zero]
          ac_rfl
        · rw [if_neg hlt]
          simp only [List.map_cons, List.sum_cons]
          rw [UInt64.add_assoc, hih, UInt64.add_assoc]

theorem Sorted.total_bump (h : m.Sorted) (key : String) : (m.bump key).total = m.total + 1 := by
  have hinsert : (m.bump key).total + m.number key = m.total + (m.number key + 1) :=
    h.total_insert key (m.number key + 1)
  apply (UInt64.add_left_inj (m.number key)).mp
  rw [hinsert]
  ac_rfl

theorem number_bump (m : Dict UInt64) (key key' : String) :
    (m.bump key).number key' = m.number key' + if key = key' then 1 else 0 := by
  unfold bump number
  rw [find?_insert]
  by_cases hkey : key = key'
  · rw [if_pos hkey, if_pos hkey, ← hkey]
    rfl
  · rw [if_neg hkey, if_neg hkey, UInt64.add_zero]

theorem has_bump (m : Dict UInt64) (key key' : String) :
    (m.bump key).has key' = (decide (key = key') || m.has key') := by
  unfold bump has
  rw [find?_insert]
  by_cases hkey : key = key' <;> simp [hkey]

end Dict

namespace Store

open Dict (total)

/-- The numbers of the statuses after some rows. -/
def tally (m : Dict UInt64) (rows : List RunRow) : Dict UInt64 :=
  rows.foldl (fun m r => m.bump r.status) m

theorem toUInt64_add (a b : Nat) : (a + b).toUInt64 = a.toUInt64 + b.toUInt64 :=
  UInt64.ofNat_add a b

theorem toUInt64_succ (n : Nat) : (n + 1).toUInt64 = n.toUInt64 + 1 := toUInt64_add n 1

/-- Rows add to the number of a status as many as have it. -/
theorem number_tally (m : Dict UInt64) (rows : List RunRow) (status : String) :
    (tally m rows).number status
      = m.number status + (rows.countP fun r => r.status = status).toUInt64 := by
  induction rows generalizing m with
  | nil => exact (UInt64.add_zero _).symm
  | cons r rows ih =>
      have hstep : tally m (r :: rows) = tally (m.bump r.status) rows := rfl
      rw [hstep, ih, Dict.number_bump, List.countP_cons]
      by_cases hstatus : r.status = status
      · simp only [hstatus, if_true, decide_true]
        rw [toUInt64_succ]
        ac_rfl
      · simp [hstatus]

/-- There is a number of each status of a row. -/
theorem has_tally (m : Dict UInt64) (rows : List RunRow) (status : String) :
    (tally m rows).has status = (m.has status || rows.any fun r => r.status = status) := by
  induction rows generalizing m with
  | nil => exact (Bool.or_false _).symm
  | cons r rows ih =>
      have hstep : tally m (r :: rows) = tally (m.bump r.status) rows := rfl
      rw [hstep, ih, Dict.has_bump, List.any_cons]
      ac_rfl

/-- All numbers together grow by the number of rows. -/
theorem total_tally {m : Dict UInt64} (h : m.Sorted) (rows : List RunRow) :
    (tally m rows).total = m.total + rows.length.toUInt64 := by
  induction rows generalizing m with
  | nil => exact (UInt64.add_zero _).symm
  | cons r rows ih =>
      have hstep : tally m (r :: rows) = tally (m.bump r.status) rows := rfl
      have hbump : (m.bump r.status).Sorted := h.insert _ _
      rw [hstep, ih hbump, h.total_bump, List.length_cons, toUInt64_succ]
      ac_rfl

-- ============================================================== groups

variable {ρ κ : Type}

/-- Where each row is of one of some groups, the rows of all groups together are all rows. -/
theorem sum_countP [DecidableEq κ] {key : ρ → κ} {keys : List κ} (hkeys : keys.Nodup)
    {rows : List ρ} (hall : ∀ row ∈ rows, key row ∈ keys) (p : ρ → Bool) :
    (keys.map fun k => rows.countP fun r => key r = k && p r).sum = rows.countP p := by
  have hcount : ∀ k, (rows.countP fun r => key r = k && p r)
      = ((rows.filter p).map key).count k := by
    intro k
    rw [List.count_eq_countP, List.countP_map, List.countP_filter]
    rfl
  have hmem : ∀ k ∈ ((rows.filter p).map key : Multiset κ), k ∈ keys.toFinset := by
    intro k hk
    obtain ⟨row, hrow, rfl⟩ := List.mem_map.mp (Multiset.mem_coe.mp hk)
    exact List.mem_toFinset.mpr (hall row (List.mem_filter.mp hrow).1)
  calc (keys.map fun k => rows.countP fun r => key r = k && p r).sum
      = (keys.map fun k => ((rows.filter p).map key).count k).sum := by simp only [hcount]
    _ = keys.toFinset.sum fun k => ((rows.filter p).map key).count k :=
        (List.sum_toFinset _ hkeys).symm
    _ = ((rows.filter p).map key).length := by
        simpa only [Multiset.coe_count, Multiset.coe_card] using Multiset.sum_count_eq_card hmem
    _ = rows.countP p := by rw [List.length_map, List.countP_eq_length_filter]

/-- The sum of numbers in 64 bits is that of the numbers. -/
theorem sum_toUInt64 (f : κ → Nat) (keys : List κ) :
    (keys.map fun k => (f k).toUInt64).sum = (keys.map f).sum.toUInt64 := by
  induction keys with
  | nil => rfl
  | cons k keys ih =>
      rw [List.map_cons, List.sum_cons, ih, List.map_cons, List.sum_cons]
      exact (toUInt64_add _ _).symm

/-- What is kept of a number in 64 bits. It is the number itself, if a table can have so many
rows. -/
structure Keeps (kept : UInt64) (n : Nat) : Prop where
  bits : kept = n.toUInt64
  exact (h : n ≤ maxRows) : kept.toNat = n

theorem keeps_toUInt64 (n : Nat) : Keeps n.toUInt64 n where
  bits := rfl
  exact h := by
    rw [Nat.toUInt64, UInt64.toNat_ofNat']
    apply Nat.mod_eq_of_lt
    unfold maxRows at h
    omega

-- ========================================================== statistics

variable {s : Store} {workflow : Option String}

/-- The rows of the runs of a workflow, or of all. -/
def runsOf (s : Store) (workflow : Option String) : List RunRow :=
  s.runs.filter fun row => row.IsOf workflow

/-- How many runs of a workflow, or of all, have a status. -/
def having (s : Store) (workflow : Option String) (status : String) : Nat :=
  (s.runsOf workflow).countP fun row => row.status = status

/-- The ids of workflows that runs belong to, each once, whether the workflow is there or not. -/
def ranWorkflows (s : Store) : List String := (s.runs.map RunRow.workflowId).dedup

theorem runsOf_eq (s : Store) (workflow : Option String) :
    (s.runs.filter fun r => meets workflow r.workflowId) = s.runsOf workflow := by
  apply List.filter_congr
  intro row _
  exact meets_eq workflow row.workflowId

theorem runsOf_none (s : Store) : s.runsOf none = s.runs :=
  List.filter_eq_self.mpr fun _ _ => by simp [RunRow.IsOf]

theorem byStatus_eq (s : Store) (workflow : Option String) :
    (s.statistics workflow).byStatus = tally [] (s.runsOf workflow) := by
  rw [← runsOf_eq]
  rfl

theorem totalRuns_eq (s : Store) (workflow : Option String) :
    (s.statistics workflow).totalRuns = (s.runsOf workflow).length.toUInt64 := by
  rw [← runsOf_eq]
  rfl

/-- The statistics have the number of runs of each status. -/
theorem number_statistics (s : Store) (workflow : Option String) (status : String) :
    (s.statistics workflow).byStatus.number status = (s.having workflow status).toUInt64 := by
  rw [byStatus_eq, number_tally]
  exact UInt64.zero_add _

/-- They have a number of each status of a run. -/
theorem has_statistics (s : Store) (workflow : Option String) (status : String) :
    (s.statistics workflow).byStatus.has status = true
      ↔ ∃ row ∈ s.runs, row.IsOf workflow ∧ row.status = status := by
  rw [byStatus_eq, has_tally]
  simp [Dict.has, Dict.find?, runsOf]

theorem total_statistics (s : Store) (workflow : Option String) :
    (s.statistics workflow).totalRuns = (s.statistics workflow).byStatus.total := by
  rw [byStatus_eq, totalRuns_eq, total_tally Dict.sorted_nil]
  exact (UInt64.zero_add _).symm

/-- Every run is one of exactly one of the workflows that runs belong to. -/
theorem sum_countP_runsOf (s : Store) (p : RunRow → Bool) :
    (s.ranWorkflows.map fun w => (s.runsOf (some w)).countP p).sum = s.runs.countP p := by
  have hof : ∀ w, (s.runsOf (some w)).countP p
      = s.runs.countP fun row => row.workflowId = w && p row := by
    intro w
    rw [runsOf, List.countP_filter]
    apply List.countP_congr
    intro row _
    simp [RunRow.IsOf, and_comm]
  simp only [hof]
  exact sum_countP (List.nodup_dedup _)
    (fun row hrow => List.mem_dedup.mpr (List.mem_map_of_mem hrow)) p

-- =========================================================== listings

variable {β : Type} {limit : Nat}

/-- An answer lists so many: if all rows of a table are whole there is an answer, and any that
there is has this length. -/
structure Lists (answer : Except Failure (List β)) (whole : Prop) (n : Nat) : Prop where
  answers (h : whole) : ∃ found, answer = .ok found
  length {found : List β} (h : answer = .ok found) : found.length = n

/-- A listing whose limit allows for all rows lists as many as are asked for. -/
theorem lists_of_leads {condition : ρ → Prop} [DecidablePred condition] {order : ρ → ρ → Prop}
    {rows shown : List ρ} {read : ρ → Except Failure β} {record : ρ → β} {whole : ρ → Prop}
    {answer : Except Failure (List β)} (hleads : Leads condition order limit rows shown)
    (hshows : Shows read record whole shown answer) (hlimit : rows.length ≤ limit) :
    Lists answer (∀ row ∈ rows, whole row) (rows.countP fun row => condition row) where
  answers hwhole := ⟨_, hshows.records fun row hrow => hwhole row (hleads.mem hrow)⟩
  length hfound := (hshows.length hfound).trans (hleads.length_of_le hlimit)

theorem listRuns_lists (s : Store) (workflow : Option String) (status : Option RunStatus)
    (hlimit : s.runs.length ≤ limit) :
    Lists (s.listRuns workflow status limit) (∀ row ∈ s.runs, row.id ≠ none)
      (s.runs.countP fun row => row.IsAsked workflow status) := by
  obtain ⟨shown, hleads, hshows⟩ := s.listRuns_leads workflow status limit
  exact lists_of_leads hleads hshows hlimit

theorem listWorkflows_lists (s : Store) (status : Option WorkflowStatus)
    (hlimit : s.workflows.length ≤ limit) :
    Lists (s.listWorkflows status none limit) (∀ row ∈ s.workflows, row.IsWhole)
      (s.workflows.countP fun row => row.IsAsked status) := by
  obtain ⟨shown, hleads, hshows⟩ := s.listWorkflows_leads status limit
  exact lists_of_leads hleads hshows hlimit

/-- The runs that are asked for are those of the workflow, and if a standing is given, those of
them that have it. -/
theorem countP_isAsked (s : Store) (workflow : Option String) (status : Option RunStatus) :
    (s.runs.countP fun row => row.IsAsked workflow status)
      = (s.runsOf workflow).countP fun row => ∀ t ∈ status, row.status = t.name := by
  rw [runsOf, List.countP_filter]
  apply List.countP_congr
  intro row _
  simp [RunRow.IsAsked, and_comm]

/-- Statistics of a workflow, or of all, that agree with what is stored and with what listings
show. There is a number of a status if a run has it, and it is the number of runs that do, as
many as are listed if it is one of the known standings. The numbers add up to the total, as many
runs as are listed whatever their standing. Workflows are all counted and all listed, and so are
those of them that are active. -/
structure Census (s : Store) (workflow : Option String) (found : Statistics) : Prop where
  present (status : String) : found.byStatus.has status = true
    ↔ ∃ row ∈ s.runs, row.IsOf workflow ∧ row.status = status
  number (status : String) : Keeps (found.byStatus.number status) (s.having workflow status)
  listed (status : RunStatus) {limit : Nat} (h : s.runs.length ≤ limit) :
    Lists (s.listRuns workflow (some status) limit) (∀ row ∈ s.runs, row.id ≠ none)
      (s.having workflow status.name)
  sum : found.totalRuns = found.byStatus.total
  total : Keeps found.totalRuns (s.runsOf workflow).length
  allListed {limit : Nat} (h : s.runs.length ≤ limit) :
    Lists (s.listRuns workflow none limit) (∀ row ∈ s.runs, row.id ≠ none)
      (s.runsOf workflow).length
  workflows : Keeps found.totalWorkflows s.workflows.length
  workflowsListed {limit : Nat} (h : s.workflows.length ≤ limit) :
    Lists (s.listWorkflows none none limit) (∀ row ∈ s.workflows, row.IsWhole) s.workflows.length
  active : Keeps found.activeWorkflows
    (s.workflows.countP fun row => row.status = WorkflowStatus.active.name)
  activeListed {limit : Nat} (h : s.workflows.length ≤ limit) :
    Lists (s.listWorkflows (some .active) none limit) (∀ row ∈ s.workflows, row.IsWhole)
      (s.workflows.countP fun row => row.status = WorkflowStatus.active.name)

theorem census_statistics (s : Store) (workflow : Option String) :
    Census s workflow (s.statistics workflow) where
  present := s.has_statistics workflow
  number status := by
    rw [number_statistics]
    exact keeps_toUInt64 _
  listed status limit h := by
    have hlists := s.listRuns_lists workflow (some status) h
    rw [countP_isAsked] at hlists
    simpa [having] using hlists
  sum := s.total_statistics workflow
  total := by
    rw [totalRuns_eq]
    exact keeps_toUInt64 _
  allListed h := by
    have hlists := s.listRuns_lists workflow none h
    rw [countP_isAsked] at hlists
    simpa using hlists
  workflows := keeps_toUInt64 s.workflows.length
  workflowsListed h := by
    have hlists := s.listWorkflows_lists none h
    simpa [WorkflowRow.IsAsked] using hlists
  active := keeps_toUInt64 _
  activeListed h := by
    have hlists := s.listWorkflows_lists (some .active) h
    simpa [WorkflowRow.IsAsked] using hlists

/-- Statistics agree with the listings, whatever is stored. Those of all runs are the sums of
those of each workflow that has runs, and what they say of workflows does not depend on the
workflow that is asked about. -/
theorem statistics_agree (s : Store) :
    (∀ workflow, Census s workflow (s.statistics workflow)) ∧
    (∀ status,
      ((s.statistics none).byStatus.has status = true
        ↔ ∃ w ∈ s.ranWorkflows, (s.statistics (some w)).byStatus.has status = true) ∧
      (s.statistics none).byStatus.number status
        = (s.ranWorkflows.map fun w => (s.statistics (some w)).byStatus.number status).sum) ∧
    (s.statistics none).totalRuns
      = (s.ranWorkflows.map fun w => (s.statistics (some w)).totalRuns).sum ∧
    ∀ workflow workflow',
      (s.statistics workflow).totalWorkflows = (s.statistics workflow').totalWorkflows ∧
      (s.statistics workflow).activeWorkflows = (s.statistics workflow').activeWorkflows := by
  refine ⟨s.census_statistics, fun status => ⟨?_, ?_⟩, ?_, fun _ _ => ⟨rfl, rfl⟩⟩
  · simp only [has_statistics]
    constructor
    · rintro ⟨row, hrow, -, hstatus⟩
      exact ⟨row.workflowId, List.mem_dedup.mpr (List.mem_map_of_mem hrow), row, hrow,
        by simp [RunRow.IsOf], hstatus⟩
    · rintro ⟨-, -, row, hrow, -, hstatus⟩
      exact ⟨row, hrow, by simp [RunRow.IsOf], hstatus⟩
  · simp only [number_statistics]
    rw [sum_toUInt64]
    congr 1
    rw [having, runsOf_none]
    exact (s.sum_countP_runsOf _).symm
  · simp only [totalRuns_eq]
    rw [sum_toUInt64, runsOf_none]
    congr 1
    have hall := s.sum_countP_runsOf fun _ => true
    simpa using hall.symm

/-- On the shelf one run of the workflow that is gone was completed, and one has a standing that
is not known. Both are counted, and the one is listed. -/
theorem statistics_agree_shelf :
    ((shelf.statistics (some "gone")).byStatus.number "lost").toNat = 1 ∧
    ((shelf.statistics none).totalRuns).toNat = 3 ∧
    ∃ found, shelf.listRuns (some "gone") (some .completed) 3 = .ok found ∧
      found.length = 1 := by
  obtain ⟨hcensus, -⟩ := statistics_agree shelf
  have hlists := (hcensus (some "gone")).listed .completed (Nat.le_refl 3)
  obtain ⟨found, hfound⟩ := hlists.answers (by decide)
  refine ⟨?_, ?_, found, hfound, ?_⟩
  · exact ((hcensus (some "gone")).number "lost").exact (by decide)
  · exact (hcensus none).total.exact (by decide)
  · exact hlists.length hfound

end Store

end DurableWorkflow
