/-
The budget of a drive may be split anywhere: a drive with the budget `m + n` is a
drive with the budget `m` that is gone on with, with the budget `n`, if the first
one ended because its budget was spent.

What the second drive is given is the state that the first one left, and the
world, which holds what handlers and the clock keep to themselves. So node,
context and cursors are all of a run that has to be kept between two drives.

# The three ends at the cut

A drive can end without a visit: at an empty node, at a missing node, or with no
budget left. The order in which these are asked for is what makes the cut
invisible. A drive whose budget is spent at an empty node has ended there for
good (`drive_of_empty` holds of every budget), and one whose budget is spent at
a missing node leaves it to the second drive to miss the node.
-/
import DurableWorkflow.Graph.Drive

namespace DurableWorkflow.Graph

variable {σ : Type}

-- ==================================================== budgets in settings

/-- The same surroundings, with another budget in the settings. -/
def Surroundings.withBudget (s : Surroundings σ) (budget : Nat) : Surroundings σ :=
  { s with settings := { s.settings with maxSteps := budget } }

/-- A drive under settings that grant a budget: it is given all of it. -/
def driveWithin (s : Surroundings σ) (nodes : List Node) (budget : Nat) (state : State)
    (world : σ) : Outcome × σ :=
  drive (s.withBudget budget) nodes budget state world

/-- An action is performed without a look at the budget. -/
theorem perform_withBudget (s : Surroundings σ) (budget : Nat) (n : Node) (spec : ActionSpec)
    (state : State) (step : Step) (left : Nat) (attempt : UInt32) (world : σ) :
    perform (s.withBudget budget) n spec state step left attempt world
      = perform s n spec state step left attempt world := by
  induction left generalizing attempt world with
  | zero =>
      unfold perform
      rfl
  | succ left ih =>
      unfold perform
      simp only [ih]
      rfl

/-- A visit does not look at the budget: it reads the handlers, the clock and the
mode of delays. -/
theorem visit_withBudget (s : Surroundings σ) (budget : Nat) (n : Node) (state : State)
    (step : Step) (world : σ) :
    visit (s.withBudget budget) n state step world = visit s n state step world := by
  unfold visit
  simp only [perform_withBudget]
  rfl

/-- The budget of a drive is the one it is given, whatever the settings say. -/
theorem drive_withBudget (s : Surroundings σ) (nodes : List Node) (b budget : Nat)
    (state : State) (world : σ) :
    drive (s.withBudget b) nodes budget state world = drive s nodes budget state world := by
  induction budget generalizing state world with
  | zero => rfl
  | succ budget ih =>
      unfold drive
      simp only [visit_withBudget, ih]
      rfl

theorem driveWithin_eq (s : Surroundings σ) (nodes : List Node) (budget : Nat) (state : State)
    (world : σ) : driveWithin s nodes budget state world = drive s nodes budget state world :=
  drive_withBudget s nodes budget budget state world

-- ==================================================== the ends of a drive

/-- At an empty node every drive has completed, with any budget. -/
theorem drive_of_empty (s : Surroundings σ) (nodes : List Node) (budget : Nat) {state : State}
    (world : σ) (h : state.current = "") :
    drive s nodes budget state world = (⟨state, [], .completed⟩, world) := by
  cases budget with
  | zero => rw [drive, if_pos h]
  | succ budget => rw [drive, if_pos h]

/-- Without a budget a drive that has somewhere to go stays where it is. -/
theorem drive_zero (s : Surroundings σ) (nodes : List Node) {state : State} (world : σ)
    (h : state.current ≠ "") :
    drive s nodes 0 state world = (⟨state, [], .budgetSpent⟩, world) := by
  rw [drive, if_neg h]

/-- At a node that is not there a drive ends. -/
theorem drive_of_missing (s : Surroundings σ) (nodes : List Node) (budget : Nat) {state : State}
    (world : σ) (h : state.current ≠ "") (hn : find? nodes state.current = none) :
    drive s nodes (budget + 1) state world
      = (⟨state, [], .nodeMissing state.current⟩, world) := by
  rw [drive, if_neg h, hn]

-- ====================================================== one visit of a drive

/-- A visit as a drive makes it: the clock is read for the step first. What comes
back is the step as it is recorded, the state after it, why the drive ends here,
if it does, and the world. -/
def advance (s : Surroundings σ) (n : Node) (state : State) (world : σ) :
    (Step × State × Option Halt) × σ :=
  let (now, world) := s.now world
  let v := visit s n state (.new n.id n.type now) world
  (settle n state v, v.world)

/-- A drive is one visit, after which it ends or goes on with the rest of its
budget. -/
theorem drive_succ (s : Surroundings σ) (nodes : List Node) (budget : Nat) {state : State}
    (world : σ) {n : Node} (h : state.current ≠ "") (hn : find? nodes state.current = some n) :
    drive s nodes (budget + 1) state world =
      match advance s n state world with
      | ((step, state, some halt), world) => (⟨state, [step], halt⟩, world)
      | ((step, state, none), world) =>
        ((drive s nodes budget state world).1.cons step, (drive s nodes budget state world).2) := by
  rw [drive, if_neg h, hn]
  simp only [advance]
  generalize settle n state _ = settled
  obtain ⟨step, state', halt⟩ := settled
  cases halt with
  | none => rfl
  | some halt => rfl

/-- What a drive leaves when a visit ends it is never a spent budget. -/
theorem settle_halt_ne (n : Node) (state : State) (v : Visit σ) {step : Step} {state' : State}
    {halt : Halt} (h : settle n state v = (step, state', some halt)) : halt ≠ .budgetSpent := by
  unfold settle at h
  cases ho : v.outcome with
  | ok a =>
      rw [ho] at h
      cases hm : a.move with
      | goto next => simp [hm] at h
      | finish =>
          simp only [hm, Prod.mk.injEq, Option.some.injEq] at h
          rw [← h.2.2]
          simp
      | suspend next t =>
          simp only [hm, Prod.mk.injEq, Option.some.injEq] at h
          rw [← h.2.2]
          simp
  | error e =>
      rw [ho] at h
      cases ht : n.errorTarget with
      | some target => simp [ht] at h
      | none =>
          simp only [ht, Prod.mk.injEq, Option.some.injEq] at h
          rw [← h.2.2]
          simp

/-- A drive whose budget is spent has somewhere to go. -/
theorem current_ne_of_budgetSpent (s : Surroundings σ) (nodes : List Node) (budget : Nat)
    {state : State} {world : σ} (h : (drive s nodes budget state world).1.halt = .budgetSpent) :
    (drive s nodes budget state world).1.state.current ≠ "" := by
  induction budget generalizing state world with
  | zero =>
      by_cases hempty : state.current = ""
      · rw [drive_of_empty s nodes 0 world hempty] at h
        cases h
      · rw [drive_zero s nodes world hempty]
        exact hempty
  | succ budget ih =>
      by_cases hempty : state.current = ""
      · rw [drive_of_empty s nodes _ world hempty] at h
        cases h
      · cases hn : find? nodes state.current with
        | none =>
            rw [drive_of_missing s nodes _ world hempty hn] at h
            cases h
        | some node =>
            rw [drive_succ s nodes _ world hempty hn] at h ⊢
            cases ha : advance s node state world with
            | mk settled world' =>
                obtain ⟨step, state', halt⟩ := settled
                rw [ha] at h
                cases halt with
                | none => exact ih h
                | some halt =>
                    exact absurd h (settle_halt_ne node state _ (congrArg Prod.fst ha))

-- ========================================================= going on

/-- What becomes of a drive that is gone on with, with a further budget, if and
only if its own was spent: the steps of both, and the end of the second. -/
def goOn (s : Surroundings σ) (nodes : List Node) (budget : Nat) (first : Outcome × σ) :
    Outcome × σ :=
  if first.1.halt = .budgetSpent then
    let (second, world) := driveWithin s nodes budget first.1.state first.2
    (⟨second.state, first.1.steps ++ second.steps, second.halt⟩, world)
  else first

/-- A step that was made before stays before all others. -/
theorem goOn_cons (s : Surroundings σ) (nodes : List Node) (budget : Nat) (step : Step)
    (first : Outcome × σ) :
    goOn s nodes budget (first.1.cons step, first.2)
      = ((goOn s nodes budget first).1.cons step, (goOn s nodes budget first).2) := by
  unfold goOn
  by_cases h : first.1.halt = .budgetSpent
  · rw [if_pos (show (first.1.cons step).halt = .budgetSpent from h), if_pos h]
    rfl
  · rw [if_neg (show ¬ (first.1.cons step).halt = .budgetSpent from h), if_neg h]

/-- A drive may be gone on with anywhere. -/
theorem drive_add (s : Surroundings σ) (nodes : List Node) (m n : Nat) (state : State)
    (world : σ) :
    drive s nodes (m + n) state world = goOn s nodes n (drive s nodes m state world) := by
  induction m generalizing state world with
  | zero =>
      rw [Nat.zero_add]
      by_cases h : state.current = ""
      · rw [drive_of_empty s nodes n world h, drive_of_empty s nodes 0 world h, goOn]
        rfl
      · rw [drive_zero s nodes world h, goOn, if_pos rfl, driveWithin_eq]
        rfl
  | succ m ih =>
      rw [Nat.add_right_comm]
      by_cases h : state.current = ""
      · rw [drive_of_empty s nodes _ world h, drive_of_empty s nodes _ world h, goOn]
        rfl
      · cases hn : find? nodes state.current with
        | none =>
            rw [drive_of_missing s nodes _ world h hn, drive_of_missing s nodes _ world h hn, goOn]
            rfl
        | some node =>
            rw [drive_succ s nodes _ world h hn, drive_succ s nodes _ world h hn]
            cases ha : advance s node state world with
            | mk settled world' =>
                obtain ⟨step, state', halt⟩ := settled
                cases halt with
                | none =>
                    simp only [ih]
                    rw [← goOn_cons]
                | some halt =>
                    have hne : halt ≠ .budgetSpent :=
                      settle_halt_ne node state _ (congrArg Prod.fst ha)
                    rw [goOn, if_neg hne]

/-- A drive with the budget `m + n` is a drive with the budget `m`, gone on with,
with the budget `n`, if the first budget was spent: the same state, the steps of
both, the same end, and the same world. -/
theorem drive_budget_add (s : Surroundings σ) (nodes : List Node) (m n : Nat) (state : State)
    (world : σ) :
    driveWithin s nodes (m + n) state world
      = goOn s nodes n (driveWithin s nodes m state world) := by
  rw [driveWithin_eq, driveWithin_eq]
  exact drive_add s nodes m n state world

end DurableWorkflow.Graph
