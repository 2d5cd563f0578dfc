/-
What listings show. A listing asks for the rows of a table that meet a filter, for an order of
them, and for no more of them than a limit allows. It shows the first of these rows in that
order (`Leads`): no row of the table is shown twice, there are as many as the limit allows or as
there are, and none that is left out would stand before one that is shown.

Runs and workflows are asked for in the order of the text of a time, the latest first; which of
two with one time comes first is not asked. They stand as the listing comes to them
(`filter_newestFirst`), and to the runs of one workflow it comes backward (`listRuns_ties`).
Entries of the trail with one time are told apart by their numbers, the greater first, so their
order leaves nothing open, and a listing with a smaller limit is the beginning of one with a
greater limit.
-/
import DurableWorkflow.Proofs.Store.Legible

namespace DurableWorkflow.Store

variable {ρ : Type}

-- ============================================================== limits

/-- As many rows as a table can have: they are numbered with 63 bits. -/
def maxRows : Nat := 0x8000000000000000

/-- What a limit leaves are the first rows. There are as many of them as it says if it fits 63
bits, or if there are no more rows. -/
theorem within_eq_take (limit : Nat) (rows : List ρ) :
    ∃ n, within limit rows = rows.take n ∧
      (limit < maxRows ∨ rows.length ≤ limit → min n rows.length = min limit rows.length) := by
  unfold within maxRows
  by_cases hlimit : limit < 0x8000000000000000
  · rw [if_pos hlimit]
    exact ⟨limit, rfl, fun _ => rfl⟩
  · rw [if_neg hlimit]
    refine ⟨rows.length, List.take_length.symm, ?_⟩
    intro hrows
    omega

/-- What a smaller limit leaves is the beginning of what a greater one leaves. -/
theorem within_isPrefix {limit limit' : Nat} (h : limit ≤ limit') (rows : List ρ) :
    within limit rows <+: within limit' rows := by
  unfold within
  by_cases hsmall : limit < 0x8000000000000000
  · rw [if_pos hsmall]
    by_cases hsmall' : limit' < 0x8000000000000000
    · rw [if_pos hsmall']
      exact List.take_prefix_take_left h
    · rw [if_neg hsmall']
      exact List.take_prefix limit rows
  · have hlarge : ¬ limit' < 0x8000000000000000 := by omega
    simp only [if_neg hsmall, if_neg hlarge, List.prefix_refl]

-- ======================================================= leading rows

/-- The rows that are shown of a table: of those that meet a condition the first in an order,
as many as a limit allows. The rows of the table are those that are shown and those that are
left out, so none is shown twice. A limit that does not fit 63 bits is one that no table
exceeds (`maxRows`). -/
structure Leads (condition : ρ → Prop) [DecidablePred condition] (order : ρ → ρ → Prop)
    (limit : Nat) (rows shown : List ρ) : Prop where
  meets : ∀ row ∈ shown, condition row
  ordered : shown.Pairwise order
  rest : ∃ omitted, rows.Perm (shown ++ omitted) ∧
    ∀ row ∈ omitted, condition row → ∀ first ∈ shown, order first row
  length (h : limit < maxRows ∨ rows.length ≤ limit) :
    shown.length = min limit (rows.countP fun row => condition row)

section leads

variable {condition : ρ → Prop} [DecidablePred condition] {order : ρ → ρ → Prop} {limit : Nat}
  {rows shown : List ρ}

theorem Leads.mem (h : Leads condition order limit rows shown) {row : ρ} (hrow : row ∈ shown) :
    row ∈ rows := by
  obtain ⟨omitted, hperm, -⟩ := h.rest
  exact hperm.mem_iff.mpr (List.mem_append_left omitted hrow)

/-- Where the rows of a table have different keys, so have those that are shown. -/
theorem Leads.distinct {κ : Type} {key : ρ → Option κ} (h : Leads condition order limit rows shown)
    (hkeys : (rows.filterMap key).Nodup) : (shown.filterMap key).Nodup := by
  obtain ⟨omitted, hperm, -⟩ := h.rest
  have hall : ((shown ++ omitted).filterMap key).Nodup := (hperm.filterMap key).nodup_iff.mp hkeys
  exact hall.sublist ((List.sublist_append_left shown omitted).filterMap key)

/-- Where the limit allows for all rows, all that meet the condition are shown. -/
theorem Leads.length_of_le (h : Leads condition order limit rows shown)
    (hlimit : rows.length ≤ limit) :
    shown.length = rows.countP fun row => condition row := by
  have hcount : (rows.countP fun row => condition row) ≤ rows.length := List.countP_le_length
  rw [h.length (.inr hlimit)]
  omega

/-- In which order the rows stand in the table is all the same. -/
theorem Leads.of_perm {rows' : List ρ} (h : Leads condition order limit rows shown)
    (hperm : rows.Perm rows') : Leads condition order limit rows' shown where
  meets := h.meets
  ordered := h.ordered
  rest := by
    obtain ⟨omitted, hall, hbehind⟩ := h.rest
    exact ⟨omitted, hperm.symm.trans hall, hbehind⟩
  length hrows := by
    rw [← hperm.countP_eq]
    exact h.length (hperm.length_eq ▸ hrows)

/-- Rows that are filtered, sorted and cut are the leading ones. -/
theorem leads_within (condition : ρ → Prop) [DecidablePred condition] {order : ρ → ρ → Prop}
    {le : ρ → ρ → Bool} (hle : ∀ a b, le a b = true ↔ order a b)
    (htrans : ∀ a b c, order a b → order b c → order a c)
    (htotal : ∀ a b, order a b ∨ order b a) (limit : Nat) (rows : List ρ) :
    Leads condition order limit rows
      (within limit ((rows.filter fun row => condition row).mergeSort le)) := by
  generalize hsorted : (rows.filter fun row => condition row).mergeSort le = sorted
  have hperm : sorted.Perm (rows.filter fun row => condition row) :=
    hsorted ▸ List.mergeSort_perm _ le
  have hordered : sorted.Pairwise order := by
    have htransLe : ∀ a b c, le a b = true → le b c = true → le a c = true := by
      intro a b c hab hbc
      exact (hle a c).mpr (htrans a b c ((hle a b).mp hab) ((hle b c).mp hbc))
    have htotalLe : ∀ a b, (le a b || le b a) = true := by
      intro a b
      simpa only [Bool.or_eq_true, hle] using htotal a b
    have hpairwise := List.pairwise_mergeSort htransLe htotalLe
      (rows.filter fun row => condition row)
    rw [hsorted] at hpairwise
    exact hpairwise.imp fun {a b} hab => (hle a b).mp hab
  have hlength : sorted.length = rows.countP fun row => condition row := by
    rw [hperm.length_eq, List.countP_eq_length_filter]
  obtain ⟨n, htake, hn⟩ := within_eq_take limit sorted
  rw [htake]
  -- the sorted rows are those that are taken, and others that stand behind them
  have hparts : (sorted.take n ++ sorted.drop n).Pairwise order := by
    rwa [List.take_append_drop]
  obtain ⟨htaken, -, hbehind⟩ := List.pairwise_append.mp hparts
  refine ⟨?_, htaken, ?_, ?_⟩
  · intro row hrow
    have hmem := hperm.mem_iff.mp (List.mem_of_mem_take hrow)
    simpa using (List.mem_filter.mp hmem).2
  · refine ⟨sorted.drop n ++ rows.filter fun row => !decide (condition row), ?_, ?_⟩
    · have hall := (List.filter_append_perm (fun row => decide (condition row)) rows).symm
      rw [← List.append_assoc, List.take_append_drop]
      exact hall.trans (hperm.symm.append_right _)
    · intro row hrow hcondition first hfirst
      rcases List.mem_append.mp hrow with hrow | hrow
      · exact hbehind first hfirst row hrow
      · simp [hcondition] at hrow
  · intro hrows
    have hcount : sorted.length ≤ rows.length := by
      rw [hlength]
      exact List.countP_le_length
    rw [List.length_take, hn (by omega), hlength]

end leads

-- ============================================================== orders

/-- Whether one row may stand before another, if those with the greatest text come first. -/
def Newer (column : ρ → String) (a b : ρ) : Prop := column b ≤ column a

theorem newer_trans (column : ρ → String) (a b c : ρ) (hab : Newer column a b)
    (hbc : Newer column b c) : Newer column a c :=
  String.le_trans hbc hab

theorem newer_total (column : ρ → String) (a b : ρ) : Newer column a b ∨ Newer column b a :=
  String.le_total (column b) (column a)

theorem leads_newestFirst (condition : ρ → Prop) [DecidablePred condition] (column : ρ → String)
    (limit : Nat) (rows : List ρ) :
    Leads condition (Newer column) limit rows
      (within limit (newestFirst column (rows.filter fun row => condition row))) := by
  apply leads_within
  · intro a b
    exact decide_eq_true_iff
  · exact newer_trans column
  · exact newer_total column

/-- Rows with one text stand in the order in which the listing came to them. -/
theorem filter_newestFirst (column : ρ → String) (rows : List ρ) (text : String) :
    (newestFirst column rows).filter (fun row => column row = text)
      = rows.filter fun row => column row = text := by
  have htrans : ∀ a b c, decide (column b ≤ column a) = true → decide (column c ≤ column b) = true →
      decide (column c ≤ column a) = true := by
    intro a b c hab hbc
    rw [decide_eq_true_iff] at hab hbc ⊢
    exact newer_trans column a b c hab hbc
  have htotal : ∀ a b, (decide (column b ≤ column a) || decide (column a ≤ column b)) = true := by
    intro a b
    rw [Bool.or_eq_true, decide_eq_true_iff, decide_eq_true_iff]
    exact newer_total column a b
  have hsame : (rows.filter fun row => column row = text).Pairwise
      fun a b => decide (column b ≤ column a) = true := by
    apply List.pairwise_of_forall_mem_list
    intro a ha b hb
    have hcolumns : column b = column a := by
      rw [of_decide_eq_true (List.mem_filter.mp ha).2, of_decide_eq_true (List.mem_filter.mp hb).2]
    exact decide_eq_true (hcolumns ▸ String.le_refl _)
  have hkept : (rows.filter fun row => column row = text).Sublist (newestFirst column rows) :=
    List.sublist_mergeSort htrans htotal hsame List.filter_sublist
  -- as many rows have the text after sorting as before, so they are the same ones
  have hfiltered := hkept.filter fun row => column row = text
  rw [List.filter_filter] at hfiltered
  simp only [Bool.and_self] at hfiltered
  have hperm := (List.mergeSort_perm rows fun a b => decide (column b ≤ column a)).filter
    fun row => column row = text
  exact (hfiltered.eq_of_length hperm.length_eq.symm).symm

/-- Whether one entry of the trail may stand before another: it has a later time, or the same
time and no smaller number. -/
def EntryRow.Later (a b : EntryRow) : Prop :=
  b.createdAt < a.createdAt ∨ a.createdAt = b.createdAt ∧ b.id ≤ a.id

/-- The comparison by which entries are sorted. -/
def EntryRow.isLater (a b : EntryRow) : Bool :=
  decide (b.createdAt < a.createdAt) || (a.createdAt == b.createdAt && decide (b.id ≤ a.id))

theorem EntryRow.isLater_iff (a b : EntryRow) : a.isLater b = true ↔ a.Later b := by
  simp [isLater, Later]

theorem EntryRow.later_trans (a b c : EntryRow) (hab : a.Later b) (hbc : b.Later c) :
    a.Later c := by
  rcases hab with hab | ⟨hab, hid⟩
  · rcases hbc with hbc | ⟨hbc, -⟩
    · exact .inl (String.lt_trans hbc hab)
    · exact .inl (hbc ▸ hab)
  · rcases hbc with hbc | ⟨hbc, hid'⟩
    · exact .inl (hab ▸ hbc)
    · exact .inr ⟨hab.trans hbc, Int.le_trans hid' hid⟩

theorem EntryRow.later_total (a b : EntryRow) : a.Later b ∨ b.Later a := by
  by_cases heq : a.createdAt = b.createdAt
  · rcases Int.le_total b.id a.id with hid | hid
    · exact .inl (.inr ⟨heq, hid⟩)
    · exact .inr (.inr ⟨heq.symm, hid⟩)
  · rcases String.le_total b.createdAt a.createdAt with hle | hle
    · exact .inl (.inl (Std.lt_of_le_of_ne hle (Ne.symm heq)))
    · exact .inr (.inl (Std.lt_of_le_of_ne hle heq))

-- ============================================================= filters

theorem meets_eq (filter : Option String) (column : String) :
    meets filter column = decide (∀ s ∈ filter, column = s) := by
  cases filter with
  | none => simp [meets]
  | some s => simp [meets]

/-- Whether a run is one of the workflow, if one is given. -/
def RunRow.IsOf (workflow : Option String) (row : RunRow) : Prop :=
  ∀ w ∈ workflow, row.workflowId = w

instance (workflow : Option String) : DecidablePred (RunRow.IsOf workflow) :=
  fun row => inferInstanceAs (Decidable (∀ w ∈ workflow, row.workflowId = w))

/-- Whether a run is asked for: it is one of the workflow, and has the standing, if these are
given. -/
def RunRow.IsAsked (workflow : Option String) (status : Option RunStatus) (row : RunRow) : Prop :=
  row.IsOf workflow ∧ ∀ t ∈ status, row.status = t.name

instance (workflow : Option String) (status : Option RunStatus) :
    DecidablePred (RunRow.IsAsked workflow status) :=
  fun row => inferInstanceAs (Decidable (row.IsOf workflow ∧ ∀ t ∈ status, row.status = t.name))

theorem filter_isAsked (workflow : Option String) (status : Option RunStatus) (rows : List RunRow) :
    (rows.filter fun r => meets workflow r.workflowId && meets (status.map RunStatus.name) r.status)
      = rows.filter fun row => row.IsAsked workflow status := by
  apply List.filter_congr
  intro row _
  cases status <;> simp [meets_eq, RunRow.IsAsked, RunRow.IsOf]

/-- Whether a workflow is asked for: it has the status, if one is given. -/
def WorkflowRow.IsAsked (status : Option WorkflowStatus) (row : WorkflowRow) : Prop :=
  ∀ t ∈ status, row.status = t.name

instance (status : Option WorkflowStatus) : DecidablePred (WorkflowRow.IsAsked status) :=
  fun row => inferInstanceAs (Decidable (∀ t ∈ status, row.status = t.name))

/-- Whether an entry of the trail is asked for: it is one of the workflow, and of the run, if
these are given. -/
def EntryRow.IsAsked (workflow run : Option String) (row : EntryRow) : Prop :=
  (∀ w ∈ workflow, row.workflowId = w) ∧ ∀ id ∈ run, row.runId = some id

instance (workflow run : Option String) : DecidablePred (EntryRow.IsAsked workflow run) :=
  fun row => inferInstanceAs (Decidable ((∀ w ∈ workflow, row.workflowId = w) ∧
    ∀ id ∈ run, row.runId = some id))

-- ============================================================ listings

variable {β : Type} {s : Store}

/-- Rows that are read give as many records. -/
theorem length_of_readAll {read : ρ → Except Failure β} {rows : List ρ} {found : List β}
    (h : readAll read rows = .ok found) : found.length = rows.length := by
  induction rows generalizing found with
  | nil =>
      injection h with h
      subst h
      rfl
  | cons row rows ih =>
      rw [readAll] at h
      cases hrow : read row with
      | error f => simp [hrow, bind, Except.bind] at h
      | ok b =>
          cases hrest : readAll read rows with
          | error f => simp [hrow, hrest, bind, Except.bind] at h
          | ok bs =>
              simp only [hrow, hrest, bind, Except.bind] at h
              injection h with h
              rw [← h, List.length_cons, List.length_cons, ih hrest]

/-- What a listing answers that shows some rows: it reads them one by one, and if each of them
can be read, it gives their records. -/
structure Shows (read : ρ → Except Failure β) (record : ρ → β) (whole : ρ → Prop)
    (shown : List ρ) (answer : Except Failure (List β)) : Prop where
  reads : answer = readAll read shown
  records (h : ∀ row ∈ shown, whole row) : answer = .ok (shown.map record)

theorem shows_readAll {read : ρ → Except Failure β} {record : ρ → β} {whole : ρ → Prop}
    (hread : ∀ row, whole row → read row = .ok (record row)) (shown : List ρ) :
    Shows read record whole shown (readAll read shown) :=
  ⟨rfl, fun h => readAll_eq fun row hrow => hread row (h row hrow)⟩

/-- As many records are answered as rows are shown. -/
theorem Shows.length {read : ρ → Except Failure β} {record : ρ → β} {whole : ρ → Prop}
    {shown : List ρ} {answer : Except Failure (List β)} (h : Shows read record whole shown answer)
    {found : List β} (hfound : answer = .ok found) : found.length = shown.length :=
  length_of_readAll (h.reads.symm.trans hfound)

/-- The runs that are listed are the newest of those that are asked for. -/
theorem listRuns_leads (s : Store) (workflow : Option String) (status : Option RunStatus)
    (limit : Nat) :
    ∃ shown, Leads (RunRow.IsAsked workflow status) (Newer RunRow.startedAt) limit s.runs shown ∧
      Shows RunRow.read RunRow.record (fun row => row.id ≠ none) shown
        (s.listRuns workflow status limit) := by
  refine ⟨_, (leads_newestFirst (RunRow.IsAsked workflow status) RunRow.startedAt limit
    (lookedUp workflow s.runs)).of_perm (lookedUp_perm workflow s.runs), ?_⟩
  unfold listRuns
  rw [filter_isAsked]
  exact shows_readAll (fun row hid => RunRow.read_eq hid) _

/-- Runs with one start are listed as they were added, and those of one workflow the other way
round. -/
theorem listRuns_ties {s : Store} (hrows : ∀ row ∈ s.runs, row.id ≠ none) (workflow : Option String)
    (status : Option RunStatus) {limit : Nat} (hlimit : s.runs.length ≤ limit) (start : String) :
    ∃ shown : List RunRow, s.listRuns workflow status limit = .ok (shown.map RunRow.record) ∧
      shown.filter (fun row => row.startedAt = start)
        = (lookedUp workflow s.runs).filter fun row =>
            row.startedAt = start ∧ row.IsAsked workflow status := by
  have hperm := lookedUp_perm workflow s.runs
  generalize hasked : (lookedUp workflow s.runs).filter
    (fun row => row.IsAsked workflow status) = asked
  have hlength : (newestFirst RunRow.startedAt asked).length ≤ limit := by
    rw [length_newestFirst, ← hasked]
    exact Nat.le_trans (List.length_filter_le _ _) (hperm.length_eq ▸ hlimit)
  refine ⟨newestFirst RunRow.startedAt asked, ?_, ?_⟩
  · have hlisted : s.listRuns workflow status limit
        = readAll RunRow.read (newestFirst RunRow.startedAt asked) := by
      rw [← within_eq_self hlength, ← hasked, ← filter_isAsked]
      rfl
    rw [hlisted]
    apply readAll_eq
    intro row hrow
    rw [mem_newestFirst, ← hasked] at hrow
    exact RunRow.read_eq (hrows row (hperm.mem_iff.mp (List.mem_filter.mp hrow).1))
  · rw [filter_newestFirst, ← hasked, List.filter_filter]
    simp only [Bool.decide_and]

/-- The workflows that are listed are those that were changed last of those that are asked
for. -/
theorem listWorkflows_leads (s : Store) (status : Option WorkflowStatus) (limit : Nat) :
    ∃ shown, Leads (WorkflowRow.IsAsked status) (Newer WorkflowRow.updatedAt) limit s.workflows
        shown ∧
      Shows WorkflowRow.read WorkflowRow.record WorkflowRow.IsWhole shown
        (s.listWorkflows status none limit) := by
  have hfilter : (s.workflows.filter fun r => meets (status.map WorkflowStatus.name) r.status)
      = s.workflows.filter fun row => row.IsAsked status := by
    apply List.filter_congr
    intro row _
    cases status <;> simp [meets_eq, WorkflowRow.IsAsked]
  refine ⟨_, leads_newestFirst (WorkflowRow.IsAsked status) WorkflowRow.updatedAt limit
    s.workflows, ?_⟩
  have hlist : s.listWorkflows status none limit = readAll WorkflowRow.read (within limit
      (newestFirst WorkflowRow.updatedAt (s.workflows.filter fun row => row.IsAsked status))) := by
    unfold listWorkflows
    rw [hfilter]
    by_cases hlimit : limit = 0
    · rw [if_pos hlimit, hlimit]
      rfl
    · rw [if_neg hlimit]
      rfl
  rw [hlist]
  exact shows_readAll (fun row hwhole => WorkflowRow.read_eq hwhole) _

/-- The entries that are listed are the latest of those that are asked for. -/
theorem entries_leads (s : Store) (workflow run : Option String) (limit : Nat) :
    ∃ shown, Leads (EntryRow.IsAsked workflow run) EntryRow.Later limit s.trail shown ∧
      s.entries workflow run limit = shown.map EntryRow.read := by
  refine ⟨_, leads_within (EntryRow.IsAsked workflow run) EntryRow.isLater_iff EntryRow.later_trans
    EntryRow.later_total limit s.trail, ?_⟩
  refine congrArg (fun rows => (within limit (rows.mergeSort EntryRow.isLater)).map EntryRow.read)
    (List.filter_congr fun row _ => ?_)
  rw [meets_eq]
  cases run <;> simp [EntryRow.IsAsked]

/-- With a smaller limit the beginning of the entries is listed. -/
theorem entries_isPrefix (s : Store) (workflow run : Option String) {limit limit' : Nat}
    (h : limit ≤ limit') : s.entries workflow run limit <+: s.entries workflow run limit' :=
  (within_isPrefix h _).map EntryRow.read

/-- Whatever is stored, a listing of runs, of workflows without a tag, or of the trail shows the
leading rows of those that are asked for: rows that meet the filters, in order of their stored
time, the latest first, as many as the limit allows or as there are, and none that is left out
would stand before one of them. No row is shown twice, so the ids that are shown are different
where those in the table are. Entries with one time stand by their numbers, the greater first,
and with a smaller limit the beginning of the same entries is shown. -/
theorem listings_lead (s : Store) :
    (∀ (workflow : Option String) (status : Option RunStatus) (limit : Nat), ∃ shown,
      Leads (RunRow.IsAsked workflow status) (Newer RunRow.startedAt) limit s.runs shown ∧
      Shows RunRow.read RunRow.record (fun row => row.id ≠ none) shown
        (s.listRuns workflow status limit) ∧
      ((s.runs.filterMap RunRow.id).Nodup → (shown.filterMap RunRow.id).Nodup)) ∧
    (∀ (status : Option WorkflowStatus) (limit : Nat), ∃ shown,
      Leads (WorkflowRow.IsAsked status) (Newer WorkflowRow.updatedAt) limit s.workflows shown ∧
      Shows WorkflowRow.read WorkflowRow.record WorkflowRow.IsWhole shown
        (s.listWorkflows status none limit) ∧
      ((s.workflows.filterMap WorkflowRow.id).Nodup →
        (shown.filterMap WorkflowRow.id).Nodup)) ∧
    (∀ (workflow run : Option String) (limit : Nat), ∃ shown,
      Leads (EntryRow.IsAsked workflow run) EntryRow.Later limit s.trail shown ∧
      s.entries workflow run limit = shown.map EntryRow.read ∧
      ((s.trail.map EntryRow.id).Nodup → (shown.map EntryRow.id).Nodup)) ∧
    ∀ (workflow run : Option String) (limit limit' : Nat), limit ≤ limit' →
      s.entries workflow run limit <+: s.entries workflow run limit' := by
  refine ⟨?_, ?_, ?_, fun workflow run limit limit' h => s.entries_isPrefix workflow run h⟩
  · intro workflow status limit
    obtain ⟨shown, hleads, hshows⟩ := s.listRuns_leads workflow status limit
    exact ⟨shown, hleads, hshows, hleads.distinct⟩
  · intro status limit
    obtain ⟨shown, hleads, hshows⟩ := s.listWorkflows_leads status limit
    exact ⟨shown, hleads, hshows, hleads.distinct⟩
  · intro workflow run limit
    obtain ⟨shown, hleads, hread⟩ := s.entries_leads workflow run limit
    have hdistinct : (s.trail.filterMap fun row => some row.id).Nodup →
        (shown.filterMap fun row => some row.id).Nodup := hleads.distinct
    rw [List.filterMap_eq_map'] at hdistinct
    exact ⟨shown, hleads, hread, hdistinct⟩

-- ============================================================= a shelf

/-- A run that has done nothing yet. -/
def standing (id workflow status startedAt : String) : RunRow :=
  ⟨some id, workflow, status, "greet", "\x7b\x7d", "\x7b\x7d", "[]", "null", startedAt, none, none,
    none⟩

/-- Two runs of a workflow that is gone, one with a standing that is not known, and a run of
another one, each with the entry of its start. The second entries have one time. -/
def shelf : Store where
  workflows := []
  runs :=
    [standing "run-1" "gone" "completed" "2024-05-01T10:00:00.000000000Z",
      standing "run-2" "kept" "running" "2024-05-01T12:00:00.000000000Z",
      standing "run-3" "gone" "lost" "2024-05-01T11:00:00.000000000Z"]
  trail :=
    [⟨1, "gone", some "run-1", "run_started", none, "", "2024-05-01T10:00:00.000000000Z"⟩,
      ⟨2, "gone", some "run-3", "run_started", none, "", "2024-05-01T11:00:00.000000000Z"⟩,
      ⟨3, "kept", some "run-2", "run_started", none, "", "2024-05-01T11:00:00.000000000Z"⟩]
  lastEntry := 3
  frozen := false

/-- Of the three runs on the shelf two are listed if two are asked for, and one entry is the
beginning of two. -/
theorem listings_lead_shelf :
    (∃ shown, Leads (RunRow.IsAsked none none) (Newer RunRow.startedAt) 2 shelf.runs shown ∧
      shelf.listRuns none none 2 = .ok (shown.map RunRow.record) ∧ shown.length = 2 ∧
      (shown.filterMap RunRow.id).Nodup) ∧
    shelf.entries none none 1 <+: shelf.entries none none 2 := by
  obtain ⟨hruns, -, -, hprefix⟩ := listings_lead shelf
  obtain ⟨shown, hleads, hshows, hdistinct⟩ := hruns none none 2
  have hnamed : ∀ row ∈ shelf.runs, row.id ≠ none := by decide
  refine ⟨⟨shown, hleads, ?_, ?_, hdistinct (by decide)⟩, hprefix none none 1 2 (by decide)⟩
  · exact hshows.records fun row hrow => hnamed row (hleads.mem hrow)
  · rw [hleads.length (.inl (by decide))]
    decide

end DurableWorkflow.Store
