/-
Why a drive ended shows in what it leaves: in its steps, in the state, and in how much of
its budget they took (`EndsBy`). The ends have to be told apart where they coincide. A drive
whose last visit leads nowhere has completed, though its budget may be spent as well; one
whose last visit leads to a node that is not there has spent its budget, and would miss the
node with a larger one; and without a budget a drive looks at nothing but where it stands.

A drive ends before a visit (`endsBy_of_rests`) or by one (`endsBy_of_halt`). The steps that
came before are no part of the reason, so they are put before the rest without changing it
(`EndsBy.cons`). What a step in the middle can be is told by the course of its visit.
-/
import DurableWorkflow.Proofs.Graph.Rollback
import DurableWorkflow.Proofs.Graph.Walk

namespace DurableWorkflow.Graph

open Time (Instant)

variable {σ : Type} {s : Surroundings σ} {nodes : List Node} {budget : Nat} {state : State}
  {world : σ} {n : Node} {step : Step} {state' : State} {halt : Halt} {after : σ}

-- ============================================================== ends

/-- What a drive with a budget leaves if it ends so: its steps and its last state. -/
def EndsBy (s : Surroundings σ) (nodes : List Node) (budget : Nat) (steps : List Step)
    (final : State) : Halt → Prop
  | .completed => final.current = ""
  | .budgetSpent => final.current ≠ "" ∧ steps.length = budget
  | .nodeMissing id =>
    final.current = id ∧ id ≠ "" ∧ (∀ n ∈ nodes, n.id ≠ id) ∧ steps.length < budget
  | .suspended _ =>
    s.settings.delayMode = .suspend ∧ ∃ step seconds, steps.getLast? = some step ∧
      step.type = .delay ∧ step.status = .waiting ∧ step.delay = some seconds ∧ 0 < seconds
  | .failed id message =>
    final.current = id ∧ id ≠ "" ∧ ∃ step n, steps.getLast? = some step ∧ step.node = id ∧
      step.status = .error ∧ step.error = some message ∧ find? nodes id = some n ∧
      ∀ target, n.onError = some target → target = ""

/-- A step that was made before changes nothing about the end but the budget. -/
theorem EndsBy.cons {steps : List Step} {final : State} (step : Step)
    (h : EndsBy s nodes budget steps final halt) :
    EndsBy s nodes (budget + 1) (step :: steps) final halt := by
  have hlast {last : Step} (hsome : steps.getLast? = some last) :
      (step :: steps).getLast? = some last := by
    rw [List.getLast?_cons, hsome]
    rfl
  cases halt with
  | completed => exact h
  | budgetSpent => exact ⟨h.1, congrArg (· + 1) h.2⟩
  | nodeMissing id =>
      obtain ⟨hcurrent, hne, hmissing, hless⟩ := h
      exact ⟨hcurrent, hne, hmissing, Nat.succ_lt_succ hless⟩
  | suspended due =>
      obtain ⟨hmode, last, seconds, hsome, hrest⟩ := h
      exact ⟨hmode, last, seconds, hlast hsome, hrest⟩
  | failed id message =>
      obtain ⟨hcurrent, hne, last, n, hsome, hrest⟩ := h
      exact ⟨hcurrent, hne, last, n, hlast hsome, hrest⟩

/-- There is no node with an id that is not found. -/
theorem ne_of_find?_eq_none {id : String} (h : find? nodes id = none) : ∀ n ∈ nodes, n.id ≠ id := by
  intro n hn
  have := List.find?_eq_none.mp h n (List.mem_reverse.mpr hn)
  simpa using this

/-- A drive without a visit: it stands nowhere, at a node that is not there, or it had no
budget. -/
theorem endsBy_of_rests (h : drive s nodes budget state world = (⟨state, [], halt⟩, world)) :
    EndsBy s nodes budget [] state halt := by
  have hhalt := congrArg (fun o => o.1.halt) h
  by_cases hcurrent : state.current = ""
  · rw [drive_of_empty s nodes budget world hcurrent] at hhalt
    obtain rfl : Halt.completed = halt := hhalt
    exact hcurrent
  cases budget with
  | zero =>
      rw [drive_zero s nodes world hcurrent] at hhalt
      obtain rfl : Halt.budgetSpent = halt := hhalt
      exact ⟨hcurrent, rfl⟩
  | succ budget =>
      cases hn : find? nodes state.current with
      | none =>
          rw [drive_of_missing s nodes budget world hcurrent hn] at hhalt
          obtain rfl : Halt.nodeMissing state.current = halt := hhalt
          exact ⟨rfl, hcurrent, ne_of_find?_eq_none hn, Nat.succ_pos budget⟩
      | some n =>
          -- with a node to visit there is a step
          have hsteps := congrArg (fun o => o.1.steps) h
          cases ha : advance s n state world with
          | mk settled after =>
              obtain ⟨step, state', halt'⟩ := settled
              cases halt' with
              | some halt' =>
                  rw [drive_of_halt hcurrent hn ha] at hsteps
                  cases hsteps
              | none =>
                  rw [drive_of_goesOn hcurrent hn ha] at hsteps
                  cases hsteps

/-- A delay that is not to suspend, or has no length, is gone on from. -/
theorem goesOn_of_delay {spec : DelaySpec} (hn : n.behaviour = .ok (.delay spec))
    (hgo : s.settings.delayMode = .record ∨ spec.seconds = 0) (state : State) (world : σ) :
    (advance s n state world).1.2.2 = none := by
  have hvisit (step : Step) (world : σ) : (visit s n state step world).outcome
      = .ok ⟨.goto n.next, state.context, state.cursors⟩ := by
    unfold visit
    rw [hn]
    simp only
    unfold wait
    rw [if_pos hgo]
  unfold advance settle
  simp only [hvisit]

/-- Only a delay of some length suspends a drive, and only where delays are to suspend. -/
theorem delays_of_suspended {due : Instant}
    (h : advance s n state world = ((step, state', some (.suspended due)), after)) :
    s.settings.delayMode = .suspend ∧ ∃ seconds, step.delay = some seconds ∧ 0 < seconds := by
  cases course_advance h with
  | @parks spec _ hdelay =>
      have hgo : ¬ (s.settings.delayMode = .record ∨ spec.seconds = 0) := by
        intro hgo
        have hnone := goesOn_of_delay hdelay hgo state world
        rw [h] at hnone
        cases hnone
      obtain ⟨hmode, hpos⟩ := not_or.mp hgo
      refine ⟨?_, spec.seconds, rfl, UInt64.pos_iff_ne_zero.mpr hpos⟩
      cases hdelayMode : s.settings.delayMode with
      | record => exact absurd hdelayMode hmode
      | suspend => rfl

/-- A drive that ends by a visit. -/
theorem endsBy_of_halt (hcurrent : state.current ≠ "") (hn : find? nodes state.current = some n)
    (h : advance s n state world = ((step, state', some halt), after)) :
    EndsBy s nodes (budget + 1) [step] state' halt := by
  have hcourse := course_advance h
  generalize hhalt : some halt = ended at hcourse
  cases hcourse with
  | finishes _ =>
      obtain rfl := Option.some.inj hhalt
      rfl
  | parks hdelay =>
      obtain rfl := Option.some.inj hhalt
      obtain ⟨htype, -⟩ := Node.behavesAs_of_behaviour hdelay
      obtain ⟨hmode, seconds, hseconds, hpos⟩ := delays_of_suspended h
      exact ⟨hmode, _, seconds, rfl, htype, rfl, hseconds, hpos⟩
  | fails _ hnone =>
      obtain rfl := Option.some.inj hhalt
      have hid := id_of_find? hn
      refine ⟨hid.symm, hid ▸ hcurrent, _, n, rfl, rfl, rfl, rfl, hid.symm ▸ hn, ?_⟩
      intro target htarget
      by_contra hne
      rw [errorTarget_eq_some_iff.mpr ⟨htarget, hne⟩] at hnone
      cases hnone
  | _ => cases hhalt

/-- What every drive leaves tells why it ended. -/
theorem endsBy_drive (s : Surroundings σ) (nodes : List Node) (budget : Nat) (state : State)
    (world : σ) :
    let o := (drive s nodes budget state world).1
    EndsBy s nodes budget o.steps o.state o.halt := by
  induction budget, state, world using drive_induction s nodes with
  | rests budget state world halt h =>
      rw [h]
      exact endsBy_of_rests h
  | ends budget state world n step state' halt after hcurrent hn ha =>
      rw [drive_of_halt hcurrent hn ha]
      exact endsBy_of_halt hcurrent hn ha
  | goes budget state world n step state' after hcurrent hn ha ih =>
      rw [drive_of_goesOn hcurrent hn ha]
      exact ih.cons step

-- ============================================================== steps

/-- A drive makes no more steps than its budget allows. -/
theorem length_steps_le (s : Surroundings σ) (nodes : List Node) (budget : Nat) (state : State)
    (world : σ) : (drive s nodes budget state world).1.steps.length ≤ budget := by
  rw [take_steps s nodes budget state world (Nat.le_refl budget)]
  exact List.length_take_le budget _

/-- Each step of a drive is that of a visit on one of the courses, to the node that it
names. If the visit ends the drive, it is the last step, and the drive ends as it does. -/
theorem course_of_step {i : Nat} (hi : (drive s nodes budget state world).1.steps[i]? = some step) :
    ∃ n before after t halt, find? nodes step.node = some n ∧
      Course s n before t step after halt ∧
      ∀ h, halt = some h → i + 1 = (drive s nodes budget state world).1.steps.length ∧
        (drive s nodes budget state world).1.halt = h := by
  rw [← steps_legs, List.getElem?_map, Option.map_eq_some_iff] at hi
  obtain ⟨l, hl, rfl⟩ := hi
  obtain ⟨n, t, halt, -, hn, hcourse, hends⟩ := course_of_legs s nodes budget state world hl
  refine ⟨n, l.before, l.after, t, halt, ?_, hcourse, fun h hhalt => ?_⟩
  · rw [hcourse.names.1, id_of_find? hn]
    exact hn
  · obtain ⟨hlast, hhalt, -⟩ := hends h hhalt
    exact ⟨hlast, hhalt⟩

/-- A visit whose step waits suspends the drive. -/
theorem Course.suspended_of_waiting {t : Instant} {halt : Option Halt}
    (h : Course s n state t step state' halt) (hwaits : step.status = .waiting) :
    ∃ due, halt = some (.suspended due) := by
  cases h with
  | parks _ => exact ⟨_, rfl⟩
  | _ => cases hwaits

/-- Why a drive ended can be told from what it leaves. It makes no more steps than its
budget allows. It has completed exactly if it stands nowhere in the end and was not
suspended. For each other end there are the marks of `EndsBy`: all of the budget was used,
or not all of it at a node that is not there; the last step waits, at a delay of some
length, where delays suspend; or the last step is a failure at the node where the drive
stands still, which has no error target. No step waits but the last one of a drive that was
suspended, and no step is a failure at a node without an error target but the last one of a
drive that failed. -/
theorem halt_tells (s : Surroundings σ) (nodes : List Node) (budget : Nat) (state : State)
    (world : σ) :
    let o := (drive s nodes budget state world).1
    o.steps.length ≤ budget ∧
    EndsBy s nodes budget o.steps o.state o.halt ∧
    (o.halt = .completed ↔ o.state.current = "" ∧ ∀ due, o.halt ≠ .suspended due) ∧
    (∀ i step, o.steps[i]? = some step → step.status = .waiting →
      i + 1 = o.steps.length ∧ ∃ due, o.halt = .suspended due) ∧
    (∀ i step, o.steps[i]? = some step → step.status = .error →
      (i + 1 = o.steps.length ∧ ∃ id message, o.halt = .failed id message) ∨
      ∃ n target, find? nodes step.node = some n ∧ n.onError = some target ∧ target ≠ "") := by
  intro o
  have hends : EndsBy s nodes budget o.steps o.state o.halt :=
    endsBy_drive s nodes budget state world
  refine ⟨length_steps_le s nodes budget state world, hends, ?_, ?_, ?_⟩
  · constructor
    · intro hcompleted
      rw [hcompleted] at hends ⊢
      exact ⟨hends, nofun⟩
    · rintro ⟨hcurrent, hnot⟩
      cases hhalt : o.halt with
      | completed => rfl
      | suspended due => exact absurd hhalt (hnot due)
      | budgetSpent =>
          rw [hhalt] at hends
          exact absurd hcurrent hends.1
      | nodeMissing id =>
          rw [hhalt] at hends
          exact absurd (hends.1.symm.trans hcurrent) hends.2.1
      | failed id message =>
          rw [hhalt] at hends
          exact absurd (hends.1.symm.trans hcurrent) hends.2.1
  · intro i step hi hwaits
    obtain ⟨n, before, after, t, halt, -, hcourse, hlast⟩ := course_of_step hi
    obtain ⟨due, hhalt⟩ := hcourse.suspended_of_waiting hwaits
    obtain ⟨hlength, hsuspended⟩ := hlast _ hhalt
    exact ⟨hlength, due, hsuspended⟩
  · intro i step hi herror
    obtain ⟨n, before, after, t, halt, hn, hcourse, hlast⟩ := course_of_step hi
    obtain ⟨-, -, message, -, hgoes⟩ := hcourse.of_error herror
    rcases hgoes with ⟨target, htarget, -⟩ | ⟨-, -, hhalt⟩
    · obtain ⟨hon, hne⟩ := errorTarget_eq_some_iff.mp htarget
      exact .inr ⟨n, target, hn, hon, hne⟩
    · obtain ⟨hlength, hfailed⟩ := hlast _ hhalt
      exact .inl ⟨hlength, n.id, message, hfailed⟩

end DurableWorkflow.Graph
