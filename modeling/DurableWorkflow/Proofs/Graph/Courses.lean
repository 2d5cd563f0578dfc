/-
What one visit of a drive can do. `Course` lists the courses that a visit may take:
for each type of node how it succeeds, and how a visit fails. Each course tells the
step as the drive records it, the state after it, and why the drive ends, if it does.
That a visit takes one of them is `course_advance`; nothing after this file looks
into a visit again.

A course holds what it takes to be on it, so that what follows from a step is proved
by cases: the behaviour that the configuration was read as, the handler's answer, the
item of a list. How the behaviour of a node comes about is told in turn by its type
and its configuration (`Node.BehavesAs`).
-/
import DurableWorkflow.Proofs.Graph.Budget
import DurableWorkflow.Proofs.Json.Records

namespace DurableWorkflow

open Time (Instant)

-- =========================================================== behaviours

/-- What it takes for a node to behave so: its type, and what its configuration is
read as. -/
def Node.BehavesAs (n : Node) : Behaviour → Prop
  | .trigger => n.type = .trigger
  | .condition spec onTrue onFalse => n.type = .condition ∧
      n.spec ConditionSpec.shape = .ok spec ∧ onTrue = n.onTrue ∧ onFalse = n.onFalse
  | .action spec => n.type = .action ∧ n.actionSpec = .ok spec
  | .delay spec => n.type = .delay ∧ n.spec DelaySpec.shape = .ok spec
  | .branch spec => n.type = .branch ∧ n.spec BranchSpec.shape = .ok spec
  | .loop spec => n.type = .loop ∧ n.spec LoopSpec.shape = .ok spec
  | .finish => n.type = .finish
  | .unknown => n.type = .unknown

/-- A behaviour with a specification was read from it. -/
theorem exists_spec {α : Type} {read : Except Failure α} {f : α → Behaviour} {b : Behaviour}
    (h : (do let spec ← read; Except.ok (f spec)) = .ok b) : ∃ spec, read = .ok spec ∧ b = f spec := by
  obtain ⟨spec, hspec, hb⟩ := Decoder.bind_eq_ok.mp h
  exact ⟨spec, hspec, (Except.ok.inj hb).symm⟩

/-- A node behaves as its type and its configuration say. -/
theorem Node.behavesAs_of_behaviour {n : Node} {b : Behaviour} (h : n.behaviour = .ok b) :
    n.BehavesAs b := by
  unfold behaviour at h
  split at h
  next ht =>
    rw [← Except.ok.inj h]
    exact ht
  next ht =>
    obtain ⟨spec, hspec, rfl⟩ := exists_spec h
    exact ⟨ht, hspec, rfl, rfl⟩
  next ht =>
    obtain ⟨spec, hspec, rfl⟩ := exists_spec h
    exact ⟨ht, hspec⟩
  next ht =>
    obtain ⟨spec, hspec, rfl⟩ := exists_spec h
    exact ⟨ht, hspec⟩
  next ht =>
    obtain ⟨spec, hspec, rfl⟩ := exists_spec h
    exact ⟨ht, hspec⟩
  next ht =>
    obtain ⟨spec, hspec, rfl⟩ := exists_spec h
    exact ⟨ht, hspec⟩
  next ht =>
    rw [← Except.ok.inj h]
    exact ht
  next ht =>
    rw [← Except.ok.inj h]
    exact ht

namespace Graph

variable {σ : Type}

-- ============================================================ courses

/-- Why a visit to a node fails, in a state, with what the step has noted by then: the
number of attempts of an action, or the seconds of a delay. -/
inductive Trouble (s : Surroundings σ) (n : Node) (state : State) :
    Option UInt32 → Option UInt64 → Failure → Prop
  /-- The configuration cannot be read. -/
  | unreadable {e : Failure} (h : n.behaviour = .error e) : Trouble s n state none none e
  /-- The last attempt at an action has failed. -/
  | action {spec : ActionSpec} {attempts : UInt32} {context : Context} {world after : σ}
    {e : Failure} (h : n.behaviour = .ok (.action spec))
    (hdone : s.registry.execute spec.kind spec.config state.context n.timeoutSeconds world
      = (.error e, context, after)) : Trouble s n state (some attempts) none e
  /-- A delay leads out of the range of instants. -/
  | delay {spec : DelaySpec} (h : n.behaviour = .ok (.delay spec)) :
    Trouble s n state none (some spec.seconds)
      (.nodeConfig n.id ("delay of " ++ toString spec.seconds.toNat ++ "s is out of range"))
  /-- What a loop is to go through is no list. -/
  | loop {spec : LoopSpec} {e : Failure} (h : n.behaviour = .ok (.loop spec))
    (hitem : loopItem spec n state = .error e) : Trouble s n state none none e

/-- The courses of a visit to a node, in a state, when the clock shows a time: the
step as it is recorded, the state after it, and why the drive ends, if it does. -/
inductive Course (s : Surroundings σ) (n : Node) (state : State) (t : Instant) :
    Step → State → Option Halt → Prop
  /-- A node that does nothing is passed. -/
  | passes (h : n.behaviour = .ok .trigger ∨ n.behaviour = .ok .unknown) :
    Course s n state t (.new n.id n.type t) { state with current := n.next } none
  /-- A condition decides between two successors. -/
  | decides {spec : ConditionSpec} {onTrue onFalse : String} {passed : Bool}
    (h : n.behaviour = .ok (.condition spec onTrue onFalse))
    (hpassed : evaluateAll spec.conditions state.context spec.logic = passed) :
    Course s n state t { Step.new n.id n.type t with result := some (.bool passed) }
      { state with current := if passed then onTrue else onFalse } none
  /-- A handler performs an action, and what it leaves of the context is kept. -/
  | acts {spec : ActionSpec} {v : Value} {context : Context} {attempts : UInt32} {world after : σ}
    (h : n.behaviour = .ok (.action spec))
    (hdone : s.registry.execute spec.kind spec.config state.context n.timeoutSeconds world
      = (.ok v, context, after)) :
    Course s n state t { Step.new n.id n.type t with attempts := some attempts, result := some v }
      ⟨n.next, context.insert lastResultKey v, state.cursors⟩ none
  /-- A delay is noted and gone on from. -/
  | waits {spec : DelaySpec} (h : n.behaviour = .ok (.delay spec)) :
    Course s n state t { Step.new n.id n.type t with delay := some spec.seconds }
      { state with current := n.next } none
  /-- A delay suspends the drive before its successor. -/
  | parks {spec : DelaySpec} {due : Instant} (h : n.behaviour = .ok (.delay spec)) :
    Course s n state t
      { Step.new n.id n.type t with delay := some spec.seconds, status := .waiting }
      { state with current := n.next } (some (.suspended due))
  /-- One of many ways is chosen. -/
  | branches {spec : BranchSpec} {name target : String} (h : n.behaviour = .ok (.branch spec))
    (hchosen : chooseBranch spec.fallback state.context spec.branches = (name, target)) :
    Course s n state t { Step.new n.id n.type t with branch := some name }
      { state with current := target } none
  /-- A loop goes to its body with the next item. -/
  | enters {spec : LoopSpec} {index : Nat} {v : Value} (h : n.behaviour = .ok (.loop spec))
    (hitem : loopItem spec n state = .ok (some (index, v))) :
    Course s n state t { Step.new n.id n.type t with iteration := some index }
      ⟨loopEntry spec n, Dict.insert state.context spec.itemName v,
        Dict.insert state.cursors n.id (index + 1)⟩ none
  /-- A loop is over, and forgets where it was. -/
  | leaves {spec : LoopSpec} (h : n.behaviour = .ok (.loop spec))
    (hitem : loopItem spec n state = .ok none) :
    Course s n state t (.new n.id n.type t)
      ⟨n.next, state.context, Dict.erase state.cursors n.id⟩ none
  /-- The run is over. -/
  | finishes (h : n.behaviour = .ok .finish) :
    Course s n state t
      { Step.new n.id n.type t with result := some (.string "workflow_complete") }
      { state with current := "" } (some .completed)
  /-- The visit fails, and there is somewhere to go then. -/
  | redirects {attempts : Option UInt32} {delay : Option UInt64} {e : Failure} {target : String}
    (h : Trouble s n state attempts delay e) (htarget : n.errorTarget = some target) :
    Course s n state t
      { Step.new n.id n.type t with
        attempts := attempts, delay := delay, status := .error, error := some e.message }
      { state with current := target } none
  /-- The visit fails, and the drive with it. -/
  | fails {attempts : Option UInt32} {delay : Option UInt64} {e : Failure}
    (h : Trouble s n state attempts delay e) (htarget : n.errorTarget = none) :
    Course s n state t
      { Step.new n.id n.type t with
        attempts := attempts, delay := delay, status := .error, error := some e.message }
      state (some (.failed n.id e.message))

variable {s : Surroundings σ} {n : Node} {state : State} {t : Instant}

-- ======================================================= every visit

/-- What is settled after a visit is on a course. -/
def OnCourse (s : Surroundings σ) (n : Node) (state : State) (t : Instant)
    (settled : Step × State × Option Halt) : Prop :=
  Course s n state t settled.1 settled.2.1 settled.2.2

/-- A visit that fails is on a course, whatever it has noted by then. -/
theorem Trouble.onCourse {attempts : Option UInt32} {delay : Option UInt64} {e : Failure}
    (h : Trouble s n state attempts delay e) (world : σ) :
    OnCourse s n state t (settle n state
      ⟨{ Step.new n.id n.type t with attempts := attempts, delay := delay }, .error e, world⟩) := by
  unfold settle
  cases htarget : n.errorTarget with
  | some target => exact .redirects h htarget
  | none => exact .fails h htarget

/-- However often an action is attempted, in the end a handler has answered, or the
visit has failed. The induction is on the attempts that are left; every attempt
begins with the same context. -/
theorem onCourse_perform {spec : ActionSpec} (h : n.behaviour = .ok (.action spec)) (left : Nat)
    (attempt : UInt32) (world : σ) :
    OnCourse s n state t
      (settle n state (perform s n spec state (.new n.id n.type t) left attempt world)) := by
  induction left generalizing attempt world with
  | zero =>
      unfold perform
      split
      next hdone =>
        split
        next => exact .acts h hdone
        next => exact (Trouble.action h hdone).onCourse _
  | succ left ih =>
      unfold perform
      split
      next hdone =>
        split
        next => exact .acts h hdone
        next =>
          simp only
          split
          next => exact ih _ _
          next => exact (Trouble.action h hdone).onCourse _

/-- A delay goes on at once, suspends the drive, or is refused. -/
theorem onCourse_wait {spec : DelaySpec} (h : n.behaviour = .ok (.delay spec)) (world : σ) :
    OnCourse s n state t (settle n state (wait s n spec state (.new n.id n.type t) world)) := by
  unfold wait
  simp only
  split
  next => exact .waits h
  next =>
    split
    next => exact (Trouble.delay h).onCourse _
    next =>
      split
      next => exact .parks h
      next => exact (Trouble.delay h).onCourse _

/-- A loop goes to its body, is over, or has no list to go through. -/
theorem onCourse_iterate {spec : LoopSpec} (h : n.behaviour = .ok (.loop spec)) (world : σ) :
    OnCourse s n state t (settle n state (iterate n spec state (.new n.id n.type t) world)) := by
  unfold iterate
  split
  next hitem => exact (Trouble.loop h hitem).onCourse _
  next hitem => exact .leaves h hitem
  next hitem => exact .enters h hitem

/-- Every visit takes one of the courses. -/
theorem onCourse_visit (world : σ) :
    OnCourse s n state t (settle n state (visit s n state (.new n.id n.type t) world)) := by
  unfold visit
  simp only
  split
  next h => exact (Trouble.unreadable h).onCourse _
  next h => exact .passes (.inl h)
  next h => exact .passes (.inr h)
  next h => exact .decides h rfl
  next h => exact onCourse_perform h _ _ _
  next h => exact onCourse_wait h _
  next h => exact .branches h rfl
  next h => exact onCourse_iterate h _
  next h => exact .finishes h

/-- A visit of a drive takes one of the courses. -/
theorem course_advance {world after : σ} {step : Step} {state' : State} {halt : Option Halt}
    (h : advance s n state world = ((step, state', halt), after)) :
    Course s n state (s.now world).1 step state' halt := by
  have hcourse : OnCourse s n state (s.now world).1 (settle n state
      (visit s n state (.new n.id n.type (s.now world).1) (s.now world).2)) := onCourse_visit _
  have hsettled : settle n state (visit s n state (.new n.id n.type (s.now world).1)
      (s.now world).2) = (step, state', halt) := congrArg Prod.fst h
  rw [hsettled] at hcourse
  exact hcourse

-- ================================================== all courses alike

variable {step : Step} {state' : State} {halt : Option Halt}

/-- A step names its node. -/
theorem Course.names (h : Course s n state t step state' halt) :
    step.node = n.id ∧ step.type = n.type := by
  cases h <;> exact ⟨rfl, rfl⟩

/-- At a node at which runs end nothing else can happen than that the run ends. -/
theorem Course.completed_of_finish (h : Course s n state t step state' halt)
    (htype : n.type = .finish) : halt = some .completed := by
  have hfinish : n.behaviour = .ok .finish := by
    unfold Node.behaviour
    rw [htype]
  have hfails {attempts : Option UInt32} {delay : Option UInt64} {e : Failure} :
      ¬ Trouble s n state attempts delay e := by
    intro h
    cases h with
    | unreadable h => simp [hfinish] at h
    | action h _ => simp [hfinish] at h
    | delay h => simp [hfinish] at h
    | loop h _ => simp [hfinish] at h
  cases h with
  | passes h => simp [hfinish] at h
  | decides h _ => simp [hfinish] at h
  | acts h _ => simp [hfinish] at h
  | waits h => simp [hfinish] at h
  | parks h => simp [hfinish] at h
  | branches h _ => simp [hfinish] at h
  | enters h _ => simp [hfinish] at h
  | leaves h _ => simp [hfinish] at h
  | finishes _ => rfl
  | redirects h _ => exact absurd h hfails
  | fails h _ => exact absurd h hfails

end Graph

end DurableWorkflow
