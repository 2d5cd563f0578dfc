/-
What an engine is and what it works on. An engine has handlers, a clock, settings
and a supply of ids. It works on a state: the stored tables, the world that
handlers and the clock see and change, and how many ids of the supply are gone.

Every operation of an engine takes a state and gives an answer and a state. An
id counts as gone only when something with that id was stored.
-/
import DurableWorkflow.Graph.Drive
import DurableWorkflow.Store.Tables

namespace DurableWorkflow

open Time (Instant)

-- =============================================================== ids

/-- Where new ids come from. -/
structure IdSupply where
  workflow : Nat → String
  run : Nat → String
  node : Nat → String

/-- How many ids of each kind are gone. -/
structure Issued where
  workflows : Nat
  runs : Nat
  nodes : Nat
deriving DecidableEq, Repr

namespace Issued

/-- No ids are gone. -/
def none : Issued := ⟨0, 0, 0⟩

end Issued

-- ============================================================ engine

/-- Handlers, a clock, settings and a supply of ids. -/
structure Engine (σ : Type) extends Graph.Surroundings σ where
  ids : IdSupply

/-- What an engine works on. -/
structure EngineState (σ : Type) where
  store : Store
  world : σ
  issued : Issued

namespace EngineState

variable {σ : Type}

/-- A state in which nothing is stored yet. -/
def starting (world : σ) : EngineState σ := ⟨.empty, world, .none⟩

end EngineState

namespace Engine

variable {σ : Type}

/-- Reads the clock. -/
def clock (e : Engine σ) (s : EngineState σ) : Instant × EngineState σ :=
  let (now, world) := e.now s.world
  (now, { s with world := world })

/-- Adds an entry to the trail. -/
def note (e : Engine σ) (workflow : String) (run : Option String) (event : Event)
    (node : Option String) (details : String) (s : EngineState σ) : EngineState σ :=
  let (now, s) := e.clock s
  { s with store := (s.store.append workflow run event node details now).2 }

end Engine

end DurableWorkflow
