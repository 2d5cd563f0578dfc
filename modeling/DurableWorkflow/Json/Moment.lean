/-
Instants in documents: they are texts in the form of RFC 3339.
-/
import DurableWorkflow.Json.Decoder
import DurableWorkflow.Time.Stamp

namespace DurableWorkflow

open Time (Instant)

/-- An instant. -/
def Decoder.instant : Decoder Instant :=
  Decoder.parsed "an RFC 3339 formatted date and time string" fun s =>
    match Instant.ofText s with
    | .ok t => .ok t
    | .error e => .error e.message

/-- The value that shows an instant. -/
def Time.Instant.encode (t : Instant) : Value := .string t.text

/-- The value of an instant that may be missing. -/
def Value.ofInstant? (t : Option Instant) : Value := (t.map Instant.encode).getD .null

end DurableWorkflow
