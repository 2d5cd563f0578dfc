/-
The steps of a drive are a walk through the graph. Each step is a visit to a node that
the graph has, and where the walk goes from there is told by the step itself: by its
node, by what it records, and, where a branch was chosen, by the context that the visit
found (`successor?`).

`successor?` reads the record and not the interpreter: it asks for the status, for the
truth value of a condition, for the iteration of a loop. A visit is written the other
way round, from the behaviour of the node to the record, and the main lemma is that the
two agree on every course that a visit can take (`Course.successor`). From there the
walk follows from the way in which legs fit together.
-/
import DurableWorkflow.Proofs.Graph.Legs

namespace DurableWorkflow.Graph

open Time (Instant)

variable {σ : Type}

-- ========================================================= successors

/-- Where a branch leads in a context: to the target of the first of its ways whose
conditions all hold, and else to the fallback. -/
def wayOut (spec : BranchSpec) (context : Context) : String :=
  ((spec.branches.find? fun b => b.conditions.all (·.holds context)).map Branch.target).getD
    spec.fallback

/-- Where a run goes after a step, told by what the step records, by its node, and by
the context that the visit found; nothing if the record does not tell. -/
def successor? (n : Node) (context : Context) (step : Step) : Option String :=
  if step.status = .error then some (n.errorTarget.getD n.id)
  else match n.type with
    | .condition =>
      match step.result with
      | some (.bool true) => some n.onTrue
      | some (.bool false) => some n.onFalse
      | _ => none
    | .branch =>
      match n.spec BranchSpec.shape with
      | .ok spec => some (wayOut spec context)
      | .error _ => none
    | .loop =>
      match step.iteration with
      | none => some n.next
      | some _ =>
        match n.spec LoopSpec.shape with
        | .ok spec => some (if spec.body = "" then n.next else spec.body)
        | .error _ => none
    | .finish => some ""
    | .action => some n.next
    | .delay => some n.next
    | .trigger => some n.next
    | .unknown => some n.next

/-- The way that is chosen is the first one that is open. -/
theorem chooseBranch_target (fallback : String) (context : Context) (branches : List Branch) :
    (chooseBranch fallback context branches).2 = wayOut ⟨branches, fallback⟩ context := by
  induction branches with
  | nil => rfl
  | cons b branches ih =>
      unfold wayOut at ih ⊢
      rw [chooseBranch, List.find?_cons]
      by_cases h : b.conditions.all (·.holds context) = true
      · rw [if_pos (show evaluateAll b.conditions context .and = true from h), h]
        rfl
      · rw [if_neg (show ¬ evaluateAll b.conditions context .and = true from h)]
        rw [Bool.not_eq_true] at h
        rw [h]
        exact ih

variable {s : Surroundings σ} {n : Node} {state state' : State} {t : Instant} {step : Step}
  {halt : Option Halt}

/-- On every course the run goes where the step tells. The state has to stand at the
node, which is where a failure leaves it that has nowhere to go. -/
theorem Course.successor (h : Course s n state t step state' halt) (hid : n.id = state.current) :
    successor? n state.context step = some state'.current := by
  cases h with
  | passes h =>
      rcases h with h | h
      · have htype : n.type = .trigger := Node.behavesAs_of_behaviour h
        simp [successor?, Step.new, htype]
      · have htype : n.type = .unknown := Node.behavesAs_of_behaviour h
        simp [successor?, Step.new, htype]
  | @decides spec onTrue onFalse passed h hpassed =>
      obtain ⟨htype, -, rfl, rfl⟩ := Node.behavesAs_of_behaviour h
      cases passed with
      | true => simp [successor?, Step.new, htype]
      | false => simp [successor?, Step.new, htype]
  | acts h _ =>
      obtain ⟨htype, -⟩ := Node.behavesAs_of_behaviour h
      simp [successor?, Step.new, htype]
  | waits h =>
      obtain ⟨htype, -⟩ := Node.behavesAs_of_behaviour h
      simp [successor?, Step.new, htype]
  | parks h =>
      obtain ⟨htype, -⟩ := Node.behavesAs_of_behaviour h
      simp [successor?, htype]
  | branches h hchosen =>
      obtain ⟨htype, hspec⟩ := Node.behavesAs_of_behaviour h
      have htarget := chooseBranch_target _ _ _ ▸ congrArg Prod.snd hchosen
      simpa [successor?, Step.new, htype, hspec] using htarget
  | enters h _ =>
      obtain ⟨htype, hspec⟩ := Node.behavesAs_of_behaviour h
      simp [successor?, Step.new, htype, hspec, loopEntry]
  | leaves h _ =>
      obtain ⟨htype, -⟩ := Node.behavesAs_of_behaviour h
      simp [successor?, Step.new, htype]
  | finishes h =>
      have htype : n.type = .finish := Node.behavesAs_of_behaviour h
      simp [successor?, Step.new, htype]
  | redirects _ htarget => simp [successor?, htarget]
  | fails _ htarget => simp [successor?, htarget, hid]

/-- A visit that the drive goes on after neither waits nor ends the run, and if it fails
there is somewhere to go then. -/
theorem Course.goesOn (h : Course s n state t step state' none) :
    step.status ≠ .waiting ∧ step.type ≠ .finish ∧
      (step.status = .error → n.errorTarget ≠ none) := by
  refine ⟨?_, ?_, ?_⟩
  · cases h <;> simp [Step.new]
  · intro htype
    rw [h.names.2] at htype
    exact nomatch h.completed_of_finish htype
  · intro herror
    cases h with
    | redirects _ htarget => simp [htarget]
    | _ => cases herror

-- ============================================================= walks

variable {nodes : List Node} {budget : Nat} {world : σ}

/-- A leg goes where its step tells. -/
theorem Leg.Made.successor {l : Leg} (h : l.Made nodes) (hn : find? nodes l.step.node = some n) :
    successor? n l.before.context l.step = some l.after.current := by
  obtain ⟨_, _, _, _, hcourse⟩ := h.course hn
  apply hcourse.successor
  rw [id_of_find? hn, h.names]

/-- After a leg of a route there is the next one where its step tells, or the route ends
there. -/
theorem Route.next {start final : State} {ls : List Leg} {i : Nat} {l : Leg}
    (h : Route nodes start ls final) (hi : ls[i]? = some l)
    (hn : find? nodes l.step.node = some n) :
    successor? n l.before.context l.step
      = some ((ls[i + 1]?.map fun l' => l'.step.node).getD final.current) := by
  obtain ⟨-, hl, hrest⟩ := h.at hi
  rw [hl.successor hn]
  cases hnext : ls[i + 1]? with
  | none =>
      rw [List.drop_eq_nil_of_le (List.getElem?_eq_none_iff.mp hnext)] at hrest
      rw [hrest.of_nil]
      rfl
  | some l' =>
      have hlink : l'.before = l.after := h.link hi hnext
      have hnode : l'.step.node = l'.before.current := (h.at hnext).2.1.names
      rw [← hlink, ← hnode]
      rfl

/-- A step is the last one of its drive if it waits or ends the run, or if it is a failure
with nowhere to go. -/
theorem last_of_stops {i : Nat} (hi : (drive s nodes budget state world).1.steps[i]? = some step)
    (hn : find? nodes step.node = some n)
    (hstops : step.status = .waiting ∨ step.type = .finish ∨
      (step.status = .error ∧ n.errorTarget = none)) :
    i + 1 = (drive s nodes budget state world).1.steps.length := by
  rw [← steps_legs, List.getElem?_map, Option.map_eq_some_iff] at hi
  obtain ⟨l, hl, rfl⟩ := hi
  obtain ⟨n', t, halt, -, hn', hcourse, hends⟩ := course_of_legs s nodes budget state world hl
  rw [hcourse.names.1, id_of_find? hn', hn'] at hn
  obtain rfl := Option.some.inj hn
  cases halt with
  | some halt => exact (hends halt rfl).1
  | none =>
      obtain ⟨hwaits, hfinishes, hredirects⟩ := hcourse.goesOn
      rcases hstops with h | h | ⟨h, hnone⟩
      · exact absurd h hwaits
      · exact absurd h hfinishes
      · exact absurd hnone (hredirects h)

/-- The steps of a drive are a walk through the graph. The first one, if there is any,
is at the node that the drive begins at. Each is at a node of the graph and has its type.
After each the run goes exactly where the step tells, in the context that its visit found:
there the next step is, or the drive ends there. Nothing follows a step that waits or ends
the run, nor a failure with nowhere to go; and a drive without steps stays where it is. -/
theorem steps_walk (s : Surroundings σ) (nodes : List Node) (budget : Nat) (state : State)
    (world : σ) :
    let o := (drive s nodes budget state world).1
    let ls := legs s nodes budget state world
    ls.map Leg.step = o.steps ∧
    (∀ step, o.steps.head? = some step → step.node = state.current) ∧
    (∀ step ∈ o.steps, ∃ n ∈ nodes, find? nodes step.node = some n ∧ n.id = step.node
      ∧ n.type = step.type) ∧
    (∀ i l n, ls[i]? = some l → find? nodes l.step.node = some n →
      successor? n l.before.context l.step
        = some ((o.steps[i + 1]?.map Step.node).getD o.state.current)) ∧
    (∀ i step n, o.steps[i]? = some step → find? nodes step.node = some n →
      step.status = .waiting ∨ step.type = .finish ∨
        (step.status = .error ∧ n.errorTarget = none) → i + 1 = o.steps.length) ∧
    (o.steps = [] → o.state = state) := by
  intro o ls
  have hsteps : ls.map Leg.step = o.steps := steps_legs s nodes budget state world
  have hroute : Route nodes state ls o.state := route_legs s nodes budget state world
  refine ⟨hsteps, ?_, ?_, ?_, ?_, ?_⟩
  · intro step hstep
    rw [← hsteps, List.head?_map, Option.map_eq_some_iff] at hstep
    obtain ⟨l, hl, rfl⟩ := hstep
    have hfirst := hroute.first hl
    rw [List.head?_eq_getElem?] at hl
    rw [(hroute.at hl).2.1.names, hfirst]
  · intro step hstep
    rw [← hsteps] at hstep
    obtain ⟨l, hl, rfl⟩ := List.mem_map.mp hstep
    obtain ⟨i, hi⟩ := List.mem_iff_getElem?.mp hl
    exact (hroute.at hi).2.1.node
  · intro i l n hi hn
    rw [hroute.next hi hn, ← hsteps, List.getElem?_map, Option.map_map]
    rfl
  · intro i step n hi hn hstops
    exact last_of_stops hi hn hstops
  · intro hnil
    rw [hnil, List.map_eq_nil_iff] at hsteps
    rw [hsteps] at hroute
    exact hroute.of_nil

end DurableWorkflow.Graph
