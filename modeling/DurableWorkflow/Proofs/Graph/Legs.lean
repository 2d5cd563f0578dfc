/-
The legs of a drive: its visits, each with the step that it made and the state before
and after it. The state in the middle of a drive is nothing but the state that a drive
with less budget leaves, so the legs need no second interpreter (`legs`); that they fit
together follows from the budget that may be cut anywhere.

# Routes

A route is a list of legs that fit together: each begins in the state that the one
before it left, and each is a visit, to the node that its state stands at, on one of
the courses that a visit can take. The legs of a drive are a route (`route_legs`), and
so are those of drives one after another, in whatever surroundings. A route may be cut
at any of its legs (`Route.at`), which is how a statement about one visit in the middle
of a run gets at all that was before it and all that follows.
-/
import DurableWorkflow.Proofs.Graph.Courses
import Mathlib.Data.List.Induction

namespace DurableWorkflow.Graph

open Time (Instant)

variable {σ : Type}

-- =============================================================== legs

/-- One visit of a run: the state that it found, the step that it made, and the state
that it left. -/
structure Leg where
  before : State
  step : Step
  after : State

/-- The visits of a drive. After so many visits the state is the one that a drive with
that budget leaves. -/
def legs (s : Surroundings σ) (nodes : List Node) (budget : Nat) (state : State) (world : σ) :
    List Leg :=
  (drive s nodes budget state world).1.steps.mapIdx fun i step =>
    ⟨(drive s nodes i state world).1.state, step, (drive s nodes (i + 1) state world).1.state⟩

/-- The legs of a drive have its steps. -/
theorem steps_legs (s : Surroundings σ) (nodes : List Node) (budget : Nat) (state : State)
    (world : σ) :
    (legs s nodes budget state world).map Leg.step = (drive s nodes budget state world).1.steps := by
  unfold legs
  apply List.ext_getElem?
  intro i
  rw [List.getElem?_map, List.getElem?_mapIdx, Option.map_map]
  exact Option.map_id_apply

variable {s : Surroundings σ} {nodes : List Node} {budget : Nat} {state : State} {world : σ}

variable {n : Node} {step : Step} {state' : State} {after : σ}

/-- A drive that makes no steps has no legs. -/
theorem legs_of_steps_nil (h : (drive s nodes budget state world).1.steps = []) :
    legs s nodes budget state world = [] := by
  unfold legs
  rw [h, List.mapIdx_nil]

/-- A drive that ends with its first visit. -/
theorem drive_of_halt {halt : Halt} (hcurrent : state.current ≠ "")
    (hn : find? nodes state.current = some n)
    (h : advance s n state world = ((step, state', some halt), after)) (budget : Nat) :
    drive s nodes (budget + 1) state world = (⟨state', [step], halt⟩, after) := by
  rw [drive_succ s nodes budget world hcurrent hn, h]

/-- It has one leg. -/
theorem legs_of_halt {halt : Halt} (hcurrent : state.current ≠ "")
    (hn : find? nodes state.current = some n)
    (h : advance s n state world = ((step, state', some halt), after)) (budget : Nat) :
    legs s nodes (budget + 1) state world = [⟨state, step, state'⟩] := by
  unfold legs
  rw [drive_of_halt hcurrent hn h, List.mapIdx_singleton, drive_of_halt hcurrent hn h,
    drive_zero s nodes world hcurrent]

/-- A drive that goes on after its first visit. -/
theorem drive_of_goesOn (hcurrent : state.current ≠ "") (hn : find? nodes state.current = some n)
    (h : advance s n state world = ((step, state', none), after)) (budget : Nat) :
    drive s nodes (budget + 1) state world
      = ((drive s nodes budget state' after).1.cons step, (drive s nodes budget state' after).2) := by
  rw [drive_succ s nodes budget world hcurrent hn, h]

/-- It has the legs of the rest after its first one. -/
theorem legs_of_goesOn (hcurrent : state.current ≠ "") (hn : find? nodes state.current = some n)
    (h : advance s n state world = ((step, state', none), after)) (budget : Nat) :
    legs s nodes (budget + 1) state world
      = ⟨state, step, state'⟩ :: legs s nodes budget state' after := by
  have hstate (b : Nat) : (drive s nodes (b + 1) state world).1.state
      = (drive s nodes b state' after).1.state := by
    rw [drive_of_goesOn hcurrent hn h]
    rfl
  have hfirst : (drive s nodes 0 state' after).1.state = state' := rfl
  unfold legs
  rw [drive_of_goesOn hcurrent hn h]
  simp only [Outcome.cons, List.mapIdx_cons, hstate, hfirst, drive_zero s nodes world hcurrent]

/-- What holds of drives that make no visit, and of those that end with a visit, and of
those that go on after one if it holds of the rest, holds of every drive. -/
theorem drive_induction (s : Surroundings σ) (nodes : List Node) {P : Nat → State → σ → Prop}
    (rests : ∀ budget state world halt,
      drive s nodes budget state world = (⟨state, [], halt⟩, world) → P budget state world)
    (ends : ∀ budget state world n step state' halt after, state.current ≠ "" →
      find? nodes state.current = some n →
      advance s n state world = ((step, state', some halt), after) → P (budget + 1) state world)
    (goes : ∀ budget state world n step state' after, state.current ≠ "" →
      find? nodes state.current = some n →
      advance s n state world = ((step, state', none), after) → P budget state' after →
      P (budget + 1) state world)
    (budget : Nat) (state : State) (world : σ) : P budget state world := by
  induction budget generalizing state world with
  | zero => exact rests 0 state world _ rfl
  | succ budget ih =>
      by_cases hcurrent : state.current = ""
      · exact rests _ state world _ (drive_of_empty s nodes _ world hcurrent)
      cases hn : find? nodes state.current with
      | none => exact rests _ state world _ (drive_of_missing s nodes _ world hcurrent hn)
      | some n =>
          cases ha : advance s n state world with
          | mk settled after =>
              obtain ⟨step, state', halt⟩ := settled
              cases halt with
              | some halt => exact ends budget state world n step state' halt after hcurrent hn ha
              | none =>
                  exact goes budget state world n step state' after hcurrent hn ha (ih state' after)

/-- A drive with less budget makes the first of the steps. -/
theorem take_steps (s : Surroundings σ) (nodes : List Node) (budget : Nat) (state : State)
    (world : σ) {i : Nat} (hi : i ≤ budget) :
    (drive s nodes i state world).1.steps = (drive s nodes budget state world).1.steps.take i := by
  induction budget, state, world using drive_induction s nodes generalizing i with
  | rests budget state world halt h =>
      have hless : (drive s nodes i state world).1.steps = [] := by
        obtain ⟨rest, rfl⟩ := Nat.exists_eq_add_of_le hi
        rw [drive_add] at h
        unfold goOn at h
        split at h
        next =>
          have hsteps : _ ++ _ = [] := congrArg (fun o => o.1.steps) h
          exact (List.append_eq_nil_iff.mp hsteps).1
        next => exact congrArg (fun o => o.1.steps) h
      rw [hless, h, List.take_nil]
  | ends budget state world n step state' halt after hcurrent hn ha =>
      cases i with
      | zero => rfl
      | succ i => rw [drive_of_halt hcurrent hn ha, drive_of_halt hcurrent hn ha]; simp
  | goes budget state world n step state' after hcurrent hn ha ih =>
      cases i with
      | zero => rfl
      | succ i =>
          rw [drive_of_goesOn hcurrent hn ha, drive_of_goesOn hcurrent hn ha]
          simp only [Outcome.cons, List.take_succ_cons, ih (Nat.le_of_succ_le_succ hi)]

/-- There are as many legs as steps. -/
theorem length_legs (s : Surroundings σ) (nodes : List Node) (budget : Nat) (state : State)
    (world : σ) :
    (legs s nodes budget state world).length = (drive s nodes budget state world).1.steps.length := by
  unfold legs
  rw [List.length_mapIdx]

/-- One unit of budget more makes the step of one leg more. -/
theorem steps_succ {i : Nat} {l : Leg} (hi : (legs s nodes budget state world)[i]? = some l) :
    (drive s nodes (i + 1) state world).1.steps
      = (drive s nodes i state world).1.steps ++ [l.step] := by
  have hstep : (drive s nodes budget state world).1.steps[i]? = some l.step := by
    rw [← steps_legs, List.getElem?_map, hi]
    rfl
  obtain ⟨hlt, hget⟩ := List.getElem?_eq_some_iff.mp hstep
  have hbudget : i + 1 ≤ budget := by
    have hall := congrArg List.length (take_steps s nodes budget state world (Nat.le_refl budget))
    rw [List.length_take] at hall
    omega
  rw [take_steps s nodes budget state world hbudget,
    take_steps s nodes budget state world (Nat.le_of_succ_le hbudget),
    List.take_succ_eq_append_getElem hlt, hget]

/-- Each leg of a drive is a visit on one of the courses. If the visit ends the drive,
it is the last one, and the drive ends as it does, in the state that it leaves. -/
theorem course_of_legs (s : Surroundings σ) (nodes : List Node) (budget : Nat) (state : State)
    (world : σ) {i : Nat} {l : Leg} (hi : (legs s nodes budget state world)[i]? = some l) :
    ∃ n t halt, l.before.current ≠ "" ∧ find? nodes l.before.current = some n ∧
      Course s n l.before t l.step l.after halt ∧
      ∀ h, halt = some h → i + 1 = (drive s nodes budget state world).1.steps.length ∧
        (drive s nodes budget state world).1.halt = h ∧
        (drive s nodes budget state world).1.state = l.after := by
  induction budget, state, world using drive_induction s nodes generalizing i with
  | rests budget state world halt h =>
      rw [legs_of_steps_nil (by rw [h])] at hi
      simp at hi
  | ends budget state world n step state' halt after hcurrent hn ha =>
      rw [legs_of_halt hcurrent hn ha] at hi
      obtain ⟨hlt, hget⟩ := List.getElem?_eq_some_iff.mp hi
      obtain rfl : i = 0 := by simpa using hlt
      obtain rfl : _ = l := hget
      refine ⟨n, _, some halt, hcurrent, hn, course_advance ha, fun h hhalt => ?_⟩
      rw [drive_of_halt hcurrent hn ha]
      exact ⟨rfl, Option.some.inj hhalt, rfl⟩
  | goes budget state world n step state' after hcurrent hn ha ih =>
      rw [legs_of_goesOn hcurrent hn ha] at hi
      cases i with
      | zero =>
          rw [List.getElem?_cons_zero] at hi
          obtain rfl := Option.some.inj hi
          exact ⟨n, _, none, hcurrent, hn, course_advance ha, nofun⟩
      | succ i =>
          rw [List.getElem?_cons_succ] at hi
          obtain ⟨n', t, halt, hcurrent', hn', hcourse, hends⟩ := ih hi
          refine ⟨n', t, halt, hcurrent', hn', hcourse, fun h hhalt => ?_⟩
          obtain ⟨hlast, hhalt, hstate⟩ := hends h hhalt
          rw [drive_of_goesOn hcurrent hn ha]
          exact ⟨by rw [hlast]; rfl, hhalt, hstate⟩

-- ============================================================= routes

/-- A leg that is a visit: to the node that its state stands at, on one of the courses
that a visit can take. -/
inductive Leg.Made (nodes : List Node) : Leg → Prop
  | visit {σ : Type} {s : Surroundings σ} {n : Node} {state state' : State} {t : Instant}
    {step : Step} {halt : Option Halt} (hcurrent : state.current ≠ "")
    (hn : find? nodes state.current = some n) (h : Course s n state t step state' halt) :
    Made nodes ⟨state, step, state'⟩

/-- Legs that fit together and lead from one state to another. -/
inductive Route (nodes : List Node) (start : State) : List Leg → State → Prop
  | rest : Route nodes start [] start
  | go {ls : List Leg} {l : Leg} (h : Route nodes start ls l.before) (hl : l.Made nodes) :
    Route nodes start (ls ++ [l]) l.after

variable {start mid final : State} {ls ks : List Leg} {l : Leg}

theorem Route.append (h : Route nodes start ls mid) (hk : Route nodes mid ks final) :
    Route nodes start (ls ++ ks) final := by
  induction hk with
  | rest =>
      rw [List.append_nil]
      exact h
  | go _ hl ih =>
      rw [← List.append_assoc]
      exact .go ih hl

/-- A leg before a route. -/
theorem Route.cons (hl : l.Made nodes) (h : Route nodes l.after ls final) :
    Route nodes l.before (l :: ls) final :=
  Route.append (.go .rest hl) h

/-- The last leg of a route. -/
theorem Route.last (h : Route nodes start (ls ++ [l]) final) :
    Route nodes start ls l.before ∧ l.Made nodes ∧ final = l.after := by
  generalize hks : ls ++ [l] = ks at h
  cases h with
  | rest => simp at hks
  | go h hl =>
      obtain ⟨rfl, hlast⟩ := List.append_inj' hks rfl
      obtain rfl := List.singleton_inj.mp hlast
      exact ⟨h, hl, rfl⟩

/-- A route may be cut anywhere. -/
theorem Route.split (h : Route nodes start (ls ++ ks) final) :
    ∃ mid, Route nodes start ls mid ∧ Route nodes mid ks final := by
  induction ks using List.reverseRecOn generalizing final with
  | nil =>
      rw [List.append_nil] at h
      exact ⟨final, h, .rest⟩
  | append_singleton ks l ih =>
      rw [← List.append_assoc] at h
      obtain ⟨hinit, hl, rfl⟩ := h.last
      obtain ⟨mid, hleft, hright⟩ := ih hinit
      exact ⟨mid, hleft, .go hright hl⟩

/-- What is before a leg of a route, the leg itself, and what follows. -/
theorem Route.at {i : Nat} (h : Route nodes start ls final) (hi : ls[i]? = some l) :
    Route nodes start (ls.take i) l.before ∧ l.Made nodes
      ∧ Route nodes l.after (ls.drop (i + 1)) final := by
  obtain ⟨hlt, hget⟩ := List.getElem?_eq_some_iff.mp hi
  rw [← List.take_append_drop (i + 1) ls, List.take_succ_eq_append_getElem hlt, hget] at h
  obtain ⟨mid, hleft, hright⟩ := h.split
  obtain ⟨hinit, hl, rfl⟩ := hleft.last
  exact ⟨hinit, hl, hright⟩

/-- A route without legs leads nowhere. -/
theorem Route.of_nil (h : Route nodes start [] final) : final = start := by
  generalize hks : ([] : List Leg) = ks at h
  cases h with
  | rest => rfl
  | go _ _ => simp at hks

/-- A route begins where its first leg does. -/
theorem Route.first (h : Route nodes start ls final) (hl : ls.head? = some l) :
    l.before = start := by
  rw [List.head?_eq_getElem?] at hl
  have hnil := (h.at hl).1
  rw [List.take_zero] at hnil
  exact hnil.of_nil

/-- A leg begins where the one before it ended. -/
theorem Route.link {i : Nat} {l' : Leg} (h : Route nodes start ls final) (hi : ls[i]? = some l)
    (hi' : ls[i + 1]? = some l') : l'.before = l.after :=
  (h.at hi).2.2.first (by rw [List.head?_drop, hi'])

/-- A leg in the middle of a route. -/
theorem Route.around (h : Route nodes start (ls ++ l :: ks) final) :
    Route nodes start ls l.before ∧ l.Made nodes ∧ Route nodes l.after ks final := by
  obtain ⟨mid, hleft, hright⟩ := h.split
  obtain ⟨-, hl, hrest⟩ := hright.at (List.getElem?_cons_zero ..)
  obtain rfl := hright.first (List.head?_cons ..)
  exact ⟨hleft, hl, hrest⟩

/-- The legs of a drive are a route to the state that it leaves. -/
theorem route_legs (s : Surroundings σ) (nodes : List Node) (budget : Nat) (state : State)
    (world : σ) :
    Route nodes state (legs s nodes budget state world) (drive s nodes budget state world).1.state
    := by
  induction budget, state, world using drive_induction s nodes with
  | rests budget state world halt h =>
      rw [legs_of_steps_nil (by rw [h]), h]
      exact .rest
  | ends budget state world n step state' halt after hcurrent hn ha =>
      rw [legs_of_halt hcurrent hn ha, drive_of_halt hcurrent hn ha]
      exact .cons (.visit hcurrent hn (course_advance ha)) .rest
  | goes budget state world n step state' after hcurrent hn ha ih =>
      rw [legs_of_goesOn hcurrent hn ha, drive_of_goesOn hcurrent hn ha]
      exact .cons (.visit hcurrent hn (course_advance ha)) ih

-- ============================================================== nodes

/-- A node is found by its id. -/
theorem id_of_find? {id : String} (h : find? nodes id = some n) : n.id = id := by
  have := List.find?_some h
  simpa using this

/-- A leg is a visit to the node that its step names, which is the one that its state
stands at. -/
theorem Leg.Made.names (h : l.Made nodes) : l.step.node = l.before.current := by
  cases h with
  | visit _ hn hcourse => exact hcourse.names.1.trans (id_of_find? hn)

/-- There is this node, and the step has its type. -/
theorem Leg.Made.node (h : l.Made nodes) :
    ∃ n ∈ nodes, find? nodes l.step.node = some n ∧ n.id = l.step.node ∧
      n.type = l.step.type := by
  have hnode := h.names
  cases h with
  | @visit _ _ n _ _ _ _ _ _ hn hcourse =>
      obtain ⟨hid, htype⟩ := hcourse.names
      refine ⟨n, mem_of_find? hn, ?_, hid.symm, htype.symm⟩
      rw [hnode]
      exact hn

/-- The leg is a visit to it on one of the courses. -/
theorem Leg.Made.course (h : l.Made nodes) (hn : find? nodes l.step.node = some n) :
    ∃ (σ : Type) (s : Surroundings σ) (t : Instant) (halt : Option Halt),
      Course s n l.before t l.step l.after halt := by
  rw [h.names] at hn
  cases h with
  | visit _ hn' hcourse =>
      obtain rfl := Option.some.inj (hn.symm.trans hn')
      exact ⟨_, _, _, _, hcourse⟩

end DurableWorkflow.Graph
