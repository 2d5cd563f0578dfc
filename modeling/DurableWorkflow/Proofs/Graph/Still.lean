/-
Drives in surroundings in which nothing moves: the clock stands still, and no handler has
a state of its own. A drive then leaves the world as it was, so the next one finds what
the one before it found.
-/
import DurableWorkflow.Graph.Drive

namespace DurableWorkflow.Graph

variable {σ : Type}

/-- Surroundings in which nothing moves: neither reading the clock nor a handler changes
the world. -/
structure Surroundings.Still (s : Surroundings σ) : Prop where
  clock (world : σ) : (s.now world).2 = world
  handlers {kind : ActionKind} {h : Handler σ} (hk : s.registry kind = some h)
    (config : Dict Value) (context : Context) (world : σ) : (h config context world).2 = world

variable {s : Surroundings σ}

theorem Surroundings.Still.execute (hs : s.Still) (name : String) (config : Dict Value)
    (context : Context) (seconds : UInt64) (world : σ) :
    (s.registry.execute name config context seconds world).2.2 = world := by
  unfold Registry.execute
  cases ActionKind.ofText name with
  | error f => rfl
  | ok kind =>
      simp only
      cases hk : s.registry kind with
      | none => rfl
      | some h => exact hs.handlers hk config context world

/-- However often an action is tried, it leaves the world as it was. The induction is on
the attempts that are left. -/
theorem Surroundings.Still.perform (hs : s.Still) (n : Node) (spec : ActionSpec) (state : State)
    (step : Step) (left : Nat) (attempt : UInt32) (world : σ) :
    (Graph.perform s n spec state step left attempt world).world = world := by
  have hone := hs.execute spec.kind spec.config state.context n.timeoutSeconds world
  generalize hexecute : s.registry.execute spec.kind spec.config state.context n.timeoutSeconds
    world = done at hone
  obtain ⟨result, context, world'⟩ := done
  obtain rfl : world' = world := hone
  induction left generalizing attempt with
  | zero =>
      rw [Graph.perform, hexecute]
      cases result <;> rfl
  | succ left ih =>
      rw [Graph.perform, hexecute]
      cases result with
      | ok v => rfl
      | error f =>
          simp only
          split
          next => exact ih (attempt + 1)
          next => rfl

theorem Surroundings.Still.wait (hs : s.Still) (n : Node) (spec : DelaySpec) (state : State)
    (step : Step) (world : σ) : (Graph.wait s n spec state step world).world = world := by
  unfold Graph.wait
  simp only
  split
  next => rfl
  next =>
    split
    next => rfl
    next =>
      split
      next => exact hs.clock world
      next => exact hs.clock world

theorem Surroundings.Still.iterate (n : Node) (spec : LoopSpec) (state : State) (step : Step)
    (world : σ) : (Graph.iterate n spec state step world).world = world := by
  unfold Graph.iterate
  split <;> rfl

theorem Surroundings.Still.visit (hs : s.Still) (n : Node) (state : State) (step : Step)
    (world : σ) : (Graph.visit s n state step world).world = world := by
  unfold Graph.visit
  simp only
  split
  next => rfl
  next => rfl
  next => rfl
  next => rfl
  next spec _ => exact hs.perform n spec state step n.retryCount.toNat 0 world
  next spec _ => exact hs.wait n spec state step world
  next => rfl
  next spec _ => exact iterate n spec state step world
  next => rfl

/-- A drive leaves the world as it was. -/
theorem Surroundings.Still.drive (hs : s.Still) (nodes : List Node) (budget : Nat)
    (state : State) (world : σ) : (Graph.drive s nodes budget state world).2 = world := by
  induction budget generalizing state with
  | zero => rfl
  | succ budget ih =>
      rw [Graph.drive]
      split
      next => rfl
      next =>
        split
        next => rfl
        next n _ =>
          simp only [hs.clock]
          have hvisit := hs.visit n state (.new n.id n.type (s.now world).1) world
          split
          next => exact hvisit
          next state' _ =>
            rw [hvisit]
            exact ih state'

end DurableWorkflow.Graph
