/-
Settings of the engine and of the store.
-/
import DurableWorkflow.Json.Decoder

namespace DurableWorkflow

/-- What a run does at a node that waits: go on at once, or stop until the time is
over. -/
inductive DelayMode
  | record
  | suspend
deriving DecidableEq, Repr

namespace DelayMode

def name : DelayMode → String
  | .record => "record"
  | .suspend => "suspend"

def decode : Decoder DelayMode :=
  Decoder.choice ⟨[("record", .record), ("suspend", .suspend)], none⟩

end DelayMode

/-- Settings of the engine. -/
structure EngineSettings where
  maxSteps : Nat
  delayMode : DelayMode
  defaultMaxRunsPerHour : UInt32
  maxBackoffSeconds : UInt64
  listLimit : Nat
  auditLimit : Nat
deriving DecidableEq, Repr

namespace EngineSettings

/-- The settings where nothing else is said. -/
def standard : EngineSettings := ⟨100, .record, 10, 300, 50, 100⟩

def shape : Decoder.Shape EngineSettings where
  title := "EngineConfig"
  fields := [
    .may "max_steps" Decoder.count fun a s => { s with maxSteps := a },
    .may "delay_mode" DelayMode.decode fun a s => { s with delayMode := a },
    .may "default_max_runs_per_hour" Decoder.u32
      fun a s => { s with defaultMaxRunsPerHour := a },
    .may "max_backoff_secs" Decoder.u64 fun a s => { s with maxBackoffSeconds := a },
    .may "list_limit" Decoder.count fun a s => { s with listLimit := a },
    .may "audit_limit" Decoder.count fun a s => { s with auditLimit := a }]
  blank := standard

def decode : Decoder EngineSettings := Decoder.record shape

def encode (s : EngineSettings) : Value :=
  .object [
    ("max_steps", .int s.maxSteps),
    ("delay_mode", .string s.delayMode.name),
    ("default_max_runs_per_hour", .int s.defaultMaxRunsPerHour.toNat),
    ("max_backoff_secs", .int s.maxBackoffSeconds.toNat),
    ("list_limit", .int s.listLimit),
    ("audit_limit", .int s.auditLimit)]

end EngineSettings

/-- Settings of the store. -/
structure StoreSettings where
  path : String
deriving DecidableEq, Repr

namespace StoreSettings

def shape : Decoder.Shape StoreSettings where
  title := "StoreConfig"
  fields := [.may "path" Decoder.string fun a _ => ⟨a⟩]
  blank := ⟨"weft.db"⟩

def decode : Decoder StoreSettings := Decoder.record shape

def encode (s : StoreSettings) : Value := .object [("path", .string s.path)]

end StoreSettings

/-- All settings. -/
structure Settings where
  store : StoreSettings
  engine : EngineSettings
deriving DecidableEq, Repr

namespace Settings

/-- The settings where nothing else is said. -/
def standard : Settings := ⟨StoreSettings.shape.blank, .standard⟩

def shape : Decoder.Shape Settings where
  title := "WeftConfig"
  fields := [
    .may "store" StoreSettings.decode fun a s => { s with store := a },
    .may "engine" EngineSettings.decode fun a s => { s with engine := a }]
  blank := standard

def decode : Decoder Settings := Decoder.record shape

def encode (s : Settings) : Value :=
  .object [("store", s.store.encode), ("engine", s.engine.encode)]

end Settings

end DurableWorkflow
