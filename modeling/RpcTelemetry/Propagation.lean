import RpcTelemetry.Log
import RpcTelemetry.Metadata
import RpcTelemetry.Trace.Context

/-!
# Propagation

A propagator carries the active span of a context through the metadata of a call. Writing lays its
fields over the metadata; reading gives a context for the receiving side.
-/

namespace RpcTelemetry

open Text

/-- How contexts travel: the fields written for a context, in order, and the context read from
metadata, given the current context of the reader and a context to build on. -/
structure Propagator where
  fields : Context → List (String × String)
  extract : (current base : Context) → Metadata → Context

namespace Metadata

/-- Lays fields over the metadata from left to right, under keys in lower case. A field that is not
valid is left out, and its error is returned. -/
def inject (metadata : Metadata) (fields : List (String × String)) :
    Metadata × List WriteError :=
  metadata.insertAll (fields.map fun (key, value) => (key.toLower, value))

/-- The log entry about a field that was left out. -/
def WriteError.entry (error : WriteError) : Log.Entry :=
  ⟨.debug, "propagation field rejected by metadata", [("error", .shown error.message)]⟩

end Metadata

namespace Propagator

/-- Writes nothing, and reads the current context whatever the metadata. -/
def passive : Propagator where
  fields _ := []
  extract current _ _ := current

instance : Inhabited Propagator := ⟨passive⟩

/-- Writes the same fields for every context. It reads the first key that ends in `-trace`: trace
and span with a colon between them, sampled even if not valid. -/
def fixed (fields : List (String × String)) : Propagator where
  fields _ := fields
  extract _ base metadata :=
    match read? metadata with
    | some identity => .remote identity
    | none => base
where
  /-- The identity under the first key that ends in `-trace`. -/
  read? (metadata : Metadata) : Option SpanContext := do
    let (_, value) ← metadata.toList.find? fun (key, _) => key.endsWith "-trace"
    let (trace, span) ← cutFirst ':' value.toList
    return ⟨← word? 16 128 trace, ← word? 16 64 span, 1, true, .empty⟩

end Propagator

end RpcTelemetry
