import RpcTelemetry.Propagation

/-!
# Trace context headers

The header `traceparent` has a version, the trace, the span and flags in hexadecimal digits with
hyphens between them; the header `tracestate` has the trace state. A header of version 0 is written,
and one of any version below 255 is read.
-/

namespace RpcTelemetry.TraceContext

open Text

/-- The key of the header with trace and span. -/
def parentKey : String := "traceparent"

/-- The key of the header with the trace state. -/
def stateKey : String := "tracestate"

/-- Trace, span and flags as they stand in the header. -/
structure Parent where
  trace : BitVec 128
  span : BitVec 64
  flags : BitVec 8
  deriving DecidableEq

namespace Parent

/-- The header of version 0; of the flags only the sampled one is written. -/
def render (parent : Parent) : List Char :=
  ['0', '0', '-'] ++ hexPadded 32 parent.trace.toNat ++ ['-'] ++ hexPadded 16 parent.span.toNat ++
    ['-'] ++ hexPadded 2 (parent.flags &&& 1).toNat

/-- A number in hexadecimal digits without capital letters. -/
def lowercase? (width : Nat) (text : List Char) : Option (BitVec width) :=
  if text.any Char.isUpper then none else word? 16 width text

/-- Reads a header. One of version 0 has exactly four parts and flags up to 2; a later one may have
more. -/
def parse? (text : List Char) : Option Parent :=
  match terminatedParts '-' (trimSpaces text) with
  | version :: trace :: span :: flags :: rest => do
    let version ← word? 16 8 version
    let trace ← lowercase? 128 trace
    let span ← lowercase? 64 span
    let flags ← word? 16 8 flags
    let newer := version ≠ 0
    if version = 255 then none
    else if newer || (rest.isEmpty && flags.toNat ≤ 2) then some ⟨trace, span, flags⟩
    else none
  | _ => none

end Parent

/-- The identity that the headers give, if it is valid. A trace state that cannot be read counts as
empty. -/
def read? (metadata : Metadata) : Option SpanContext := do
  let parent ← Parent.parse? ((metadata.get? parentKey).getD "").toList
  let state := match metadata.get? stateKey with
    | none => .empty
    | some text => (TraceState.parse text.toList).toOption.getD .empty
  let identity : SpanContext := ⟨parent.trace, parent.span, parent.flags &&& 1, true, state⟩
  if identity.isValid then some identity else none

/-- The headers of an identity; none if it is not valid. -/
def fields (identity : SpanContext) : List (String × String) :=
  if identity.isValid then
    let parent : Parent := ⟨identity.trace, identity.span, identity.flags⟩
    [(parentKey, String.ofList parent.render), (stateKey, String.ofList identity.state.header)]
  else []

/-- The propagator of these headers. Where they cannot be read, the base is kept. -/
def propagator : Propagator where
  fields context := fields context.identity
  extract _ base metadata :=
    match read? metadata with
    | some identity => .remote identity
    | none => base

end RpcTelemetry.TraceContext
