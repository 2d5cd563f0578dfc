/-
Reading rows whose columns hold any text. The columns with names and with JSON are read one
by one: each gives its field, or its default and a note of the text that stands there. So a
row is read as its record (`RunRow.record`, `WorkflowRow.record`), in which every field is
told by its own column, and the unreadable fields are the columns that cannot be read
(`spoilt`), in the order in which they are read.
-/
import DurableWorkflow.Store.Tables

namespace DurableWorkflow.Store

variable {ρ α : Type}

-- =========================================================== columns

/-- A column whose texts are read: its name, its text, and which texts can be read. -/
structure ReadColumn (ρ : Type) where
  name : String
  text : ρ → String
  reads : String → Bool

/-- A column of JSON. -/
def ReadColumn.json (read : Decoder α) (name : String) (text : ρ → String) : ReadColumn ρ :=
  ⟨name, text, fun raw => (Decoder.ofText read raw).isOk⟩

/-- A column of names. -/
def ReadColumn.names (read : String → Except Failure α) (name : String) (text : ρ → String) :
    ReadColumn ρ :=
  ⟨name, text, fun raw => (read raw).isOk⟩

/-- The columns of a row that cannot be read, each with its text. -/
def spoilt (columns : List (ReadColumn ρ)) (row : ρ) : List Unreadable :=
  (columns.filter fun c => !c.reads (c.text row)).map fun c => ⟨c.name, c.text row⟩

theorem spoilt_nil (row : ρ) : spoilt [] row = [] := rfl

theorem spoilt_cons (c : ReadColumn ρ) (columns : List (ReadColumn ρ)) (row : ρ) :
    spoilt (c :: columns) row
      = (if c.reads (c.text row) then [] else [⟨c.name, c.text row⟩]) ++ spoilt columns row := by
  unfold spoilt
  rw [List.filter_cons]
  cases c.reads (c.text row) <;> rfl

/-- No column is spoilt exactly if each can be read. -/
theorem spoilt_eq_nil_iff {columns : List (ReadColumn ρ)} {row : ρ} :
    spoilt columns row = [] ↔ ∀ c ∈ columns, c.reads (c.text row) = true := by
  simp [spoilt, List.filter_eq_nil_iff]

/-- Reading JSON gives what the text says or the default, and a note of a text that says
nothing. -/
theorem readJson_eq (read : Decoder α) (default : α) (field raw : String)
    (bad : List Unreadable) :
    readJson read default field raw bad = ((Decoder.ofText read raw).toOption.getD default,
      bad ++ if (Decoder.ofText read raw).isOk then [] else [⟨field, raw⟩]) := by
  unfold readJson
  cases Decoder.ofText read raw with
  | ok a => exact Prod.ext rfl (List.append_nil bad).symm
  | error f => rfl

/-- So does reading a name. -/
theorem readName_eq (read : String → Except Failure α) (default : α) (field raw : String)
    (bad : List Unreadable) :
    readName read default field raw bad = ((read raw).toOption.getD default,
      bad ++ if (read raw).isOk then [] else [⟨field, raw⟩]) := by
  unfold readName
  cases read raw with
  | ok a => exact Prod.ext rfl (List.append_nil bad).symm
  | error f => rfl

/-- What can be read is what is read, whatever the default. -/
theorem ok_of_isOk {ε : Type} {found : Except ε α} (h : found.isOk = true) (default : α) :
    found = .ok (found.toOption.getD default) := by
  cases found with
  | ok a => rfl
  | error f => cases h

-- ============================================================== runs

/-- The columns of a run that are read. -/
def RunRow.columns : List (ReadColumn RunRow) :=
  [.names RunStatus.ofText "status" RunRow.status,
    .json (Decoder.dict Decoder.value) "context" RunRow.context,
    .json (Decoder.dict Decoder.count) "loop_cursors" RunRow.loopCursors,
    .json (Decoder.list Step.decode) "steps_log" RunRow.steps,
    .json Decoder.value "trigger_data" RunRow.triggerData]

/-- The run of a row, each field from its own column. -/
def RunRow.record (row : RunRow) : Run where
  id := row.id.getD ""
  workflowId := row.workflowId
  status := (RunStatus.ofText row.status).toOption.getD .pending
  currentNode := row.currentNode
  context := (Decoder.ofText (Decoder.dict Decoder.value) row.context).toOption.getD []
  loopCursors := (Decoder.ofText (Decoder.dict Decoder.count) row.loopCursors).toOption.getD []
  steps := (Decoder.ofText (Decoder.list Step.decode) row.steps).toOption.getD []
  triggerData := (Decoder.ofText Decoder.value row.triggerData).toOption.getD .null
  startedAt := readInstant row.startedAt
  completedAt := row.completedAt.map readInstant
  resumeAt := row.resumeAt.map readInstant
  error := row.error
  unreadable := spoilt columns row

/-- A row of a run is read as its record if it has an id, whatever its texts are. -/
theorem RunRow.read_eq {row : RunRow} (hid : row.id ≠ none) : row.read = .ok row.record := by
  obtain ⟨id, hid⟩ := Option.ne_none_iff_exists'.mp hid
  unfold RunRow.read RunRow.record
  simp only [hid, readName_eq, readJson_eq, List.nil_append, List.append_assoc]
  simp only [columns, spoilt_cons, spoilt_nil, ReadColumn.names, ReadColumn.json,
    Option.getD_some, List.append_nil]

theorem RunRow.read_eq_ok_iff {row : RunRow} {r : Run} :
    row.read = .ok r ↔ row.id ≠ none ∧ r = row.record := by
  constructor
  · intro h
    have hid : row.id ≠ none := by
      intro hnone
      rw [RunRow.read, hnone] at h
      cases h
    rw [read_eq hid] at h
    exact ⟨hid, (Except.ok.inj h).symm⟩
  · rintro ⟨hid, rfl⟩
    exact read_eq hid

-- ========================================================= workflows

/-- The columns of a workflow that are read. -/
def WorkflowRow.columns : List (ReadColumn WorkflowRow) :=
  [.names Trigger.ofText "trigger_type" WorkflowRow.triggerType,
    .json Decoder.value "trigger_config" WorkflowRow.triggerConfig,
    .json (Decoder.list Node.decode) "nodes" WorkflowRow.nodes,
    .json (Decoder.dict Decoder.value) "variables" WorkflowRow.presets,
    .names WorkflowStatus.ofText "status" WorkflowRow.status,
    .json (Decoder.list Decoder.string) "tags" WorkflowRow.tags]

/-- The limit in a cell; a cell without a whole number has none. -/
def Cell.limit : Cell → UInt32
  | .int n => limitOf n
  | _ => 0

/-- The workflow of a row, each field from its own column. -/
def WorkflowRow.record (row : WorkflowRow) : Workflow where
  id := row.id.getD ""
  name := row.name
  description := row.description
  trigger := (Trigger.ofText row.triggerType).toOption.getD .manual
  triggerConfig := (Decoder.ofText Decoder.value row.triggerConfig).toOption.getD .null
  nodes := (Decoder.ofText (Decoder.list Node.decode) row.nodes).toOption.getD []
  presets := (Decoder.ofText (Decoder.dict Decoder.value) row.presets).toOption.getD []
  status := (WorkflowStatus.ofText row.status).toOption.getD .draft
  maxRunsPerHour := row.maxRunsPerHour.limit
  tags := (Decoder.ofText (Decoder.list Decoder.string) row.tags).toOption.getD []
  createdAt := readInstant row.createdAt
  updatedAt := readInstant row.updatedAt
  unreadable := spoilt columns row

/-- Whether a row of a workflow has an id and a whole number as its limit. -/
def WorkflowRow.IsWhole (row : WorkflowRow) : Prop :=
  row.id ≠ none ∧ ∃ n, row.maxRunsPerHour = .int n

/-- A row of a workflow is read as its record if it is whole, whatever its texts are. -/
theorem WorkflowRow.read_eq {row : WorkflowRow} (h : row.IsWhole) : row.read = .ok row.record := by
  obtain ⟨hid, n, hlimit⟩ := h
  obtain ⟨id, hid⟩ := Option.ne_none_iff_exists'.mp hid
  unfold WorkflowRow.read WorkflowRow.record
  simp only [hid, hlimit, readName_eq, readJson_eq, List.nil_append, List.append_assoc]
  simp only [columns, spoilt_cons, spoilt_nil, ReadColumn.names, ReadColumn.json,
    Option.getD_some, List.append_nil, Cell.limit]

theorem WorkflowRow.read_eq_ok_iff {row : WorkflowRow} {w : Workflow} :
    row.read = .ok w ↔ row.IsWhole ∧ w = row.record := by
  constructor
  · intro h
    have hwhole : row.IsWhole := by
      unfold WorkflowRow.read at h
      split at h
      next => cases h
      next id n hid hlimit => exact ⟨by rw [hid]; exact Option.some_ne_none id, n, hlimit⟩
      next => cases h
    rw [read_eq hwhole] at h
    exact ⟨hwhole, (Except.ok.inj h).symm⟩
  · rintro ⟨hwhole, rfl⟩
    exact read_eq hwhole

-- ============================================================= lists

/-- Rows that can each be read can be read all. -/
theorem readAll_eq {β : Type} {read : α → Except Failure β} {record : α → β} {rows : List α}
    (h : ∀ row ∈ rows, read row = .ok (record row)) : readAll read rows = .ok (rows.map record) := by
  induction rows with
  | nil => rfl
  | cons row rows ih =>
      have hrest := ih fun r hr => h r (List.mem_cons_of_mem row hr)
      rw [readAll, h row List.mem_cons_self, hrest]
      rfl

/-- Where no row is to be changed, the rows stay as they are. -/
theorem map_ite_eq_self {p : α → Prop} [DecidablePred p] {f : α → α} {rows : List α}
    (h : ∀ row ∈ rows, ¬ p row) : (rows.map fun row => if p row then f row else row) = rows := by
  calc rows.map (fun row => if p row then f row else row)
      = rows.map id := List.map_congr_left fun row hrow => if_neg (h row hrow)
    _ = rows := List.map_id rows

/-- What a limit leaves is among the rows. -/
theorem mem_of_mem_within {limit : Nat} {rows : List α} {row : α} (h : row ∈ within limit rows) :
    row ∈ rows := by
  unfold within at h
  split at h
  next => exact List.mem_of_mem_take h
  next => exact h

/-- A limit that is large enough leaves all rows. -/
theorem within_eq_self {limit : Nat} {rows : List α} (h : rows.length ≤ limit) :
    within limit rows = rows := by
  unfold within
  split
  next => exact List.take_of_length_le h
  next => rfl

theorem mem_newestFirst {column : α → String} {rows : List α} {row : α} :
    row ∈ newestFirst column rows ↔ row ∈ rows :=
  (List.mergeSort_perm rows _).mem_iff

theorem length_newestFirst (column : α → String) (rows : List α) :
    (newestFirst column rows).length = rows.length :=
  List.length_mergeSort rows

/-- The rows that are listed: each meets the condition, and none that does is left out if the
limit allows for all rows. -/
structure Listed (condition : α → Bool) (limit : Nat) (rows listed : List α) : Prop where
  sound {row : α} (h : row ∈ listed) : row ∈ rows ∧ condition row = true
  complete (hlimit : rows.length ≤ limit) {row : α} (h : row ∈ rows)
    (hrow : condition row = true) : row ∈ listed

/-- In which order the rows stand is all the same. -/
theorem Listed.of_perm {condition : α → Bool} {limit : Nat} {rows rows' listed : List α}
    (h : Listed condition limit rows listed) (hperm : rows.Perm rows') :
    Listed condition limit rows' listed where
  sound hrow := (h.sound hrow).imp_left hperm.mem_iff.mp
  complete hlimit _ hrow := h.complete (hperm.length_eq ▸ hlimit) (hperm.mem_iff.mpr hrow)

theorem listed_filter (condition : α → Bool) (limit : Nat) (column : α → String) (rows : List α) :
    Listed condition limit rows (within limit (newestFirst column (rows.filter condition))) where
  sound h := List.mem_filter.mp (mem_newestFirst.mp (mem_of_mem_within h))
  complete hlimit row h hrow := by
    have hlength : (newestFirst column (rows.filter condition)).length ≤ limit := by
      rw [length_newestFirst]
      exact Nat.le_trans (List.length_filter_le _ rows) hlimit
    rw [within_eq_self hlength]
    exact mem_newestFirst.mpr (List.mem_filter.mpr ⟨h, hrow⟩)

/-- A listing of runs comes to all of them. -/
theorem lookedUp_perm (workflow : Option String) (rows : List RunRow) :
    (lookedUp workflow rows).Perm rows := by
  cases workflow with
  | none => exact .rfl
  | some _ => exact List.reverse_perm rows

/-- Runs are listed with their records. -/
theorem listRuns_eq {s : Store} (hrows : ∀ row ∈ s.runs, row.id ≠ none) (workflow : Option String)
    (status : Option RunStatus) (limit : Nat) :
    ∃ listed, s.listRuns workflow status limit = .ok (listed.map RunRow.record) ∧
      Listed (fun r => meets workflow r.workflowId && meets (status.map RunStatus.name) r.status)
        limit s.runs listed := by
  have hlisted := (listed_filter
    (fun r => meets workflow r.workflowId && meets (status.map RunStatus.name) r.status) limit
    RunRow.startedAt (lookedUp workflow s.runs)).of_perm (lookedUp_perm workflow s.runs)
  exact ⟨_, readAll_eq fun row hrow => RunRow.read_eq (hrows row (hlisted.sound hrow).1), hlisted⟩

/-- Whether a row has a tag, if one is asked for. -/
def bears (tag : Option String) (row : WorkflowRow) : Bool :=
  tag.all fun t => like (tagPattern t) row.tags.toList

/-- A tag whose pattern is not too long can be looked for. -/
theorem tagged_eq {tag : Option String} (htag : ∀ t ∈ tag, Text.bytes (tagPattern t) ≤ maxPattern)
    (rows : List WorkflowRow) : tagged tag rows = .ok (rows.filter (bears tag)) := by
  cases tag with
  | none =>
      have hall : rows.filter (bears none) = rows :=
        List.filter_eq_self.mpr fun _ _ => rfl
      rw [hall]
      rfl
  | some t =>
      have hshort : ¬ maxPattern < Text.bytes (tagPattern t) := Nat.not_lt.mpr (htag t rfl)
      cases rows with
      | nil => rfl
      | cons row rows =>
          simp only [tagged, hasTag, if_neg hshort]
          rfl

/-- The rows of the workflows that are listed, unless the limit is none at all. -/
theorem listWorkflows_rows {s : Store} (hrows : ∀ row ∈ s.workflows, row.IsWhole)
    (status : Option WorkflowStatus) {tag : Option String}
    (htag : ∀ t ∈ tag, Text.bytes (tagPattern t) ≤ maxPattern) {limit : Nat} (hlimit : limit ≠ 0) :
    s.listWorkflows status tag limit = .ok ((within limit (newestFirst WorkflowRow.updatedAt
      (s.workflows.filter fun r =>
        bears tag r && meets (status.map WorkflowStatus.name) r.status))).map
          WorkflowRow.record) := by
  rw [listWorkflows, if_neg hlimit]
  simp only [tagged_eq htag, List.filter_filter]
  apply readAll_eq
  intro row hrow
  have hkept := mem_newestFirst.mp (mem_of_mem_within hrow)
  exact WorkflowRow.read_eq (hrows row (List.mem_filter.mp hkept).1)

/-- Workflows are listed with their records. -/
theorem listWorkflows_eq {s : Store} (hrows : ∀ row ∈ s.workflows, row.IsWhole)
    (status : Option WorkflowStatus) {tag : Option String}
    (htag : ∀ t ∈ tag, Text.bytes (tagPattern t) ≤ maxPattern) (limit : Nat) :
    ∃ listed, s.listWorkflows status tag limit = .ok (listed.map WorkflowRow.record) ∧
      Listed (fun r => bears tag r && meets (status.map WorkflowStatus.name) r.status) limit
        s.workflows listed := by
  by_cases hlimit : limit = 0
  · refine ⟨[], ?_, ⟨fun h => absurd h List.not_mem_nil, ?_⟩⟩
    · rw [listWorkflows, if_pos hlimit]
      rfl
    · intro hlength row h
      have hnone : s.workflows = [] := List.length_eq_zero_iff.mp (by omega)
      rw [hnone] at h
      exact absurd h List.not_mem_nil
  · have hlisted := listed_filter
      (fun r => bears tag r && meets (status.map WorkflowStatus.name) r.status) limit
      WorkflowRow.updatedAt s.workflows
    exact ⟨_, listWorkflows_rows hrows status htag hlimit, hlisted⟩

end DurableWorkflow.Store
