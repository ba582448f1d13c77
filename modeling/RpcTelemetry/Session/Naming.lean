import RpcTelemetry.Session.Step

/-!
# Naming identities

A report shows traces and spans by their digits, or by labels `T1`, `S1`, … in the order in which
they first appear. Labels make reports comparable where the numbers are drawn at random.
-/

namespace RpcTelemetry.Session

/-- How identities are shown; labels remember the digits seen so far, in order. -/
inductive Naming where
  | digits
  | labels (traces spans : List String)
  deriving DecidableEq, Repr

/-- A span identity as a report shows it. -/
structure ShownIdentity where
  trace : String
  span : String
  flags : Nat
  remote : Bool
  state : String
  deriving DecidableEq, Repr

/-- A call as a report shows it. -/
structure ShownCall where
  view : CallView
  identity : ShownIdentity
  incoming : List (String × String)
  outgoing : List (String × String)

/-- An exported span as a report shows it. -/
structure ShownSpan where
  data : SpanData
  identity : ShownIdentity
  parent : String

/-- The label of a text: its position among the texts seen, from 1 on; a new text comes last. -/
def label (letter text : String) (seen : List String) : String × List String :=
  match seen.idxOf? text with
  | some index => (letter ++ toString (index + 1), seen)
  | none => (letter ++ toString (seen.length + 1), seen ++ [text])

namespace Naming

/-- Whether a text has no digit but zero. -/
def isZero (text : String) : Bool := text.toList.all (· = '0')

/-- A trace as it is shown; a zero one has no label. -/
def trace (naming : Naming) (text : String) : String × Naming :=
  match naming with
  | .digits => (text, naming)
  | .labels traces spans =>
    if isZero text then (text, naming)
    else
      let (shown, traces) := label "T" text traces
      (shown, .labels traces spans)

/-- A span as it is shown; a zero one has no label. -/
def span (naming : Naming) (text : String) : String × Naming :=
  match naming with
  | .digits => (text, naming)
  | .labels traces spans =>
    if isZero text then (text, naming)
    else
      let (shown, spans) := label "S" text spans
      (shown, .labels traces spans)

/-- An identity as it is shown. -/
def identity (naming : Naming) (context : SpanContext) : ShownIdentity × Naming :=
  let (trace, naming) := naming.trace (String.ofList context.traceText)
  let (span, naming) := naming.span (String.ofList context.spanText)
  (⟨trace, span, context.flags.toNat, context.remote, String.ofList context.state.header⟩, naming)

/-- A header as it is shown: a trace parent of four parts has its trace and span renamed. -/
def header (naming : Naming) (key value : String) : String × Naming :=
  match naming with
  | .digits => (value, naming)
  | .labels _ _ =>
    if key ≠ TraceContext.parentKey then (value, naming)
    else match Text.parts '-' value.toList with
      | [version, trace, span, flags] =>
        let (trace, naming) := naming.trace (String.ofList trace)
        let (span, naming) := naming.span (String.ofList span)
        (String.intercalate "-" [String.ofList version, trace, span, String.ofList flags], naming)
      | _ => (value, naming)

/-- Headers as they are shown. -/
def headers (naming : Naming) : List (String × String) → List (String × String) × Naming
  | [] => ([], naming)
  | (key, value) :: rest =>
    let (value, naming) := naming.header key value
    let (rest, naming) := naming.headers rest
    ((key, value) :: rest, naming)

/-- A call as it is shown: its span, then its incoming and its outgoing metadata. -/
def call (naming : Naming) (view : CallView) : ShownCall × Naming :=
  let (identity, naming) := naming.identity view.handle.context.identity
  let (incoming, naming) := naming.headers view.handle.rpc.incoming.toList
  let (outgoing, naming) := naming.headers view.handle.rpc.outgoing.toList
  (⟨view, identity, incoming, outgoing⟩, naming)

/-- An exported span as it is shown: its own identity, then its parent. -/
def exported (naming : Naming) (data : SpanData) : ShownSpan × Naming :=
  let (identity, naming) := naming.identity data.context
  let (parent, naming) := naming.span (String.ofList (Text.hexPadded 16 data.parent.toNat))
  (⟨data, identity, parent⟩, naming)

/-- Exported spans as they are shown. -/
def allExported (naming : Naming) : List SpanData → List ShownSpan × Naming
  | [] => ([], naming)
  | data :: rest =>
    let (shown, naming) := naming.exported data
    let (others, naming) := naming.allExported rest
    (shown :: others, naming)

end Naming

end RpcTelemetry.Session
