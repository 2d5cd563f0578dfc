/-
A visit that fails leaves no trace in the state of a run but where the run stands.

# In place

A handler writes into the context of the run, whatever becomes of its attempt, and it
may be called several times in one visit. `drive` gives every attempt the context that
the visit began with, and keeps what an attempt wrote only if it succeeded. An engine
that has but one context does it in another way: before each attempt it takes a copy,
the handler writes into the context itself, and after a failure the copy is put back.
`driveInPlace` is that drive, and `driveInPlace_eq` says that the two are the same. What
has to be seen for it is that whatever an attempt has written is gone before the next
one begins, so the attempts of one visit all begin alike (`performInPlace_eq`).

# Failures

That a visit failed shows in its step. From the courses of a visit it follows what the
failure leaves behind: the context and the cursors as they were, one step, and the run
either at the error target of the node or, if there is none, at the node still, where
the drive ends.
-/
import DurableWorkflow.Proofs.Graph.Legs

namespace DurableWorkflow.Graph

open Time (Instant)

variable {σ : Type}

-- =========================================================== in place

/-- A visit that changes the state in place: how it ended, its step, the state as it
has left it, and the world. -/
structure Passing (σ : Type) where
  outcome : Except Failure Move
  step : Step
  state : State
  world : σ

/-- A visit that changes the state, as far as it succeeds, all at once. -/
def Visit.inPlace (v : Visit σ) (state : State) : Passing σ :=
  match v.outcome with
  | .ok a => ⟨.ok a.move, v.step, ⟨state.current, a.context, a.cursors⟩, v.world⟩
  | .error e => ⟨.error e, v.step, state, v.world⟩

/-- Performs an action on a context that the handler writes into. A copy of it is taken
before each attempt, and put back if the attempt fails. -/
def performInPlace (s : Surroundings σ) (n : Node) (spec : ActionSpec) :
    Nat → UInt32 → State → Step → σ → Passing σ
  | left, attempt, state, step, world =>
    let copy := state.context
    let (result, written, world) :=
      s.registry.execute spec.kind spec.config state.context n.timeoutSeconds world
    let state := { state with context := written }
    let attempts := some (attempt + 1)
    match result with
    | .ok v =>
      ⟨.ok (.goto n.next), { step with attempts := attempts, result := some v },
        { state with context := state.context.insert lastResultKey v }, world⟩
    | .error e =>
      let state := { state with context := copy }
      match left with
      | 0 => ⟨.error e, { step with attempts := attempts }, state, world⟩
      | more + 1 =>
        if e.isTransient then performInPlace s n spec more (attempt + 1) state step world
        else ⟨.error e, { step with attempts := attempts }, state, world⟩

/-- Visits a node in place. Only an action changes the state before it is known whether
the visit succeeds. -/
def visitInPlace (s : Surroundings σ) (n : Node) (state : State) (step : Step) (world : σ) :
    Passing σ :=
  match n.behaviour with
  | .ok (.action spec) => performInPlace s n spec n.retryCount.toNat 0 state step world
  | _ => (visit s n state step world).inPlace state

/-- What one visit in place means for the drive. -/
def settleInPlace (n : Node) (p : Passing σ) : Step × State × Option Halt :=
  match p.outcome with
  | .ok (.goto next) => (p.step, { p.state with current := next }, none)
  | .ok .finish => (p.step, { p.state with current := "" }, some .completed)
  | .ok (.suspend next t) =>
    ({ p.step with status := .waiting }, { p.state with current := next }, some (.suspended t))
  | .error e =>
    let step := { p.step with status := .error, error := some e.message }
    match n.errorTarget with
    | some target => (step, { p.state with current := target }, none)
    | none => (step, p.state, some (.failed n.id e.message))

/-- Drives a run in place, for at most so many visits. -/
def driveInPlace (s : Surroundings σ) (nodes : List Node) : Nat → State → σ → Outcome × σ
  | 0, state, world =>
    (⟨state, [], if state.current = "" then .completed else .budgetSpent⟩, world)
  | budget + 1, state, world =>
    if state.current = "" then (⟨state, [], .completed⟩, world)
    else match find? nodes state.current with
      | none => (⟨state, [], .nodeMissing state.current⟩, world)
      | some n =>
        let (now, world) := s.now world
        let p := visitInPlace s n state (.new n.id n.type now) world
        match settleInPlace n p with
        | (step, state, some halt) => (⟨state, [step], halt⟩, p.world)
        | (step, state, none) =>
          let (o, world) := driveInPlace s nodes budget state p.world
          (o.cons step, world)

/-- All attempts in place come to what they come to without it. The induction is on the
attempts that are left: after a failure the state is again the one that the attempt
began with. -/
theorem performInPlace_eq (s : Surroundings σ) (n : Node) (spec : ActionSpec) (state : State)
    (step : Step) (left : Nat) (attempt : UInt32) (world : σ) :
    performInPlace s n spec left attempt state step world
      = (perform s n spec state step left attempt world).inPlace state := by
  induction left generalizing attempt world with
  | zero =>
      unfold performInPlace perform
      cases s.registry.execute spec.kind spec.config state.context n.timeoutSeconds world with
      | mk result rest =>
          cases result with
          | ok v => rfl
          | error e => rfl
  | succ left ih =>
      unfold performInPlace perform
      cases s.registry.execute spec.kind spec.config state.context n.timeoutSeconds world with
      | mk result rest =>
          cases result with
          | ok v => rfl
          | error e =>
              simp only
              by_cases h : e.isTransient = true
              · rw [if_pos h, if_pos h]
                exact ih (attempt + 1) rest.2
              · rw [if_neg h, if_neg h]
                rfl

/-- A visit in place comes to what it comes to without it. -/
theorem visitInPlace_eq (s : Surroundings σ) (n : Node) (state : State) (step : Step) (world : σ) :
    visitInPlace s n state step world = (visit s n state step world).inPlace state := by
  unfold visitInPlace
  split
  next spec h =>
    rw [performInPlace_eq]
    unfold visit
    rw [h]
  next => rfl

/-- It means the same for the drive. -/
theorem settleInPlace_eq (n : Node) (state : State) (v : Visit σ) :
    settleInPlace n (v.inPlace state) = settle n state v := by
  unfold settleInPlace settle Visit.inPlace
  cases v.outcome with
  | error e => rfl
  | ok a =>
      cases a with
      | mk move context cursors => cases move <;> rfl

/-- A drive in place is a drive. -/
theorem driveInPlace_eq (s : Surroundings σ) (nodes : List Node) (budget : Nat) (state : State)
    (world : σ) : driveInPlace s nodes budget state world = drive s nodes budget state world := by
  have hworld (v : Visit σ) (state : State) : (v.inPlace state).world = v.world := by
    unfold Visit.inPlace
    cases v.outcome <;> rfl
  induction budget generalizing state world with
  | zero => rfl
  | succ budget ih =>
      unfold driveInPlace drive
      by_cases hcurrent : state.current = ""
      · rw [if_pos hcurrent, if_pos hcurrent]
      rw [if_neg hcurrent, if_neg hcurrent]
      cases find? nodes state.current with
      | none => rfl
      | some n =>
          simp only [visitInPlace_eq, settleInPlace_eq, hworld]
          generalize visit s n state (.new n.id n.type (s.now world).1) (s.now world).2 = v
          obtain ⟨step, state', halt⟩ := settle n state v
          cases halt with
          | some halt => rfl
          | none => exact congrArg (fun r => (r.1.cons step, r.2)) (ih state' v.world)

-- =========================================================== failures

variable {s : Surroundings σ} {n : Node} {state state' : State} {t : Instant} {step : Step}
  {halt : Option Halt}

/-- A visit whose step is a failure leaves everything but the place of the run; and
either the run is at the error target of the node, or it is where it was and the drive
has failed. -/
theorem Course.of_error (h : Course s n state t step state' halt) (herror : step.status = .error) :
    state'.context = state.context ∧ state'.cursors = state.cursors ∧
      ∃ message, step.error = some message ∧
        ((∃ target, n.errorTarget = some target ∧ state'.current = target ∧ halt = none) ∨
          (n.errorTarget = none ∧ state' = state ∧ halt = some (.failed n.id message))) := by
  cases h with
  | redirects _ htarget => exact ⟨rfl, rfl, _, rfl, .inl ⟨_, htarget, rfl, rfl⟩⟩
  | fails _ htarget => exact ⟨rfl, rfl, _, rfl, .inr ⟨htarget, rfl, rfl⟩⟩
  | passes _ => simp [Step.new] at herror
  | decides _ _ => simp [Step.new] at herror
  | acts _ _ => simp [Step.new] at herror
  | waits _ => simp [Step.new] at herror
  | parks _ => simp at herror
  | branches _ _ => simp [Step.new] at herror
  | enters _ _ => simp [Step.new] at herror
  | leaves _ _ => simp [Step.new] at herror
  | finishes _ => simp [Step.new] at herror

/-- The error target is the text of the node for it, unless that is empty. -/
theorem errorTarget_eq_some_iff {target : String} :
    n.errorTarget = some target ↔ n.onError = some target ∧ target ≠ "" := by
  unfold Node.errorTarget
  rw [Option.filter_eq_some_iff]
  simp

/-- A failure leaves no trace. A drive that changes the state in place, and puts back a
copy after each attempt that fails, is the same as one that drops what a failed attempt
wrote; and each visit of it whose step is a failure leaves the context and the cursors of
the run as they were, and is recorded by this one step. Then the run is at the error
target of the node, if that is not empty, or else it is still at the node, and the drive
has ended there, with this failure. -/
theorem failure_leaves_no_trace (s : Surroundings σ) (nodes : List Node) (budget : Nat)
    (state : State) (world : σ) :
    driveInPlace s nodes budget state world = drive s nodes budget state world ∧
    ∀ i l, (legs s nodes budget state world)[i]? = some l → l.step.status = .error →
      l.after.context = l.before.context ∧ l.after.cursors = l.before.cursors ∧
      (drive s nodes (i + 1) state world).1.steps
        = (drive s nodes i state world).1.steps ++ [l.step] ∧
      ∃ n message, find? nodes l.before.current = some n ∧ l.step.node = n.id ∧
        l.step.error = some message ∧
        ((∃ target, n.onError = some target ∧ target ≠ "" ∧ l.after.current = target) ∨
          ((∀ target, n.onError = some target → target = "") ∧
            l.after.current = l.before.current ∧ i + 1 = (legs s nodes budget state world).length ∧
            (drive s nodes budget state world).1.halt = .failed n.id message ∧
            (drive s nodes budget state world).1.state = l.before)) := by
  refine ⟨driveInPlace_eq s nodes budget state world, ?_⟩
  intro i l hi herror
  obtain ⟨n, t, halt, -, hn, hcourse, hends⟩ := course_of_legs s nodes budget state world hi
  obtain ⟨hcontext, hcursors, message, hmessage, hgoes⟩ := hcourse.of_error herror
  refine ⟨hcontext, hcursors, steps_succ hi, n, message, hn, hcourse.names.1, hmessage, ?_⟩
  rcases hgoes with ⟨target, htarget, hcurrent, -⟩ | ⟨hnone, hstate, hhalt⟩
  · obtain ⟨hon, hne⟩ := errorTarget_eq_some_iff.mp htarget
    exact .inl ⟨target, hon, hne, hcurrent⟩
  · obtain ⟨hlast, hfailed, hfinal⟩ := hends _ hhalt
    refine .inr ⟨?_, by rw [hstate], ?_, hfailed, hfinal.trans hstate⟩
    · intro target htarget
      by_contra hne
      rw [errorTarget_eq_some_iff.mpr ⟨htarget, hne⟩] at hnone
      cases hnone
    · rw [length_legs]
      exact hlast

/-- A handler that leaves a mark in the context and then takes a minute. The world counts
its calls. -/
def Surroundings.slow : Surroundings Nat where
  registry := Registry.empty.register .log fun _ context calls =>
    (⟨.ok .null, context.insert "mark" (.int calls), 60⟩, calls + 1)
  now calls := (.epoch, calls)
  settings := .standard

/-- It is given half a minute, three times; then there is one step, and no mark. -/
example :
    let (o, calls) := driveInPlace Surroundings.slow
      [(Node.action "mark" "log" .null).withRetry 2 0] 10 ⟨"mark", [], []⟩ 0
    calls = 3 ∧ o.steps.length = 1 ∧ o.state.context.isEmpty = true := by
  decide +kernel

end DurableWorkflow.Graph
