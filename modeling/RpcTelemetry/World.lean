import RpcTelemetry.Call.Deliver
import RpcTelemetry.Propagation
import RpcTelemetry.Trace.Provider

/-!
# The telemetry of a process

The providers and meters of a process, the records of its spans and calls, what it exported and
logged, the contexts that are attached, and the global defaults. Records are known by their
position; a position is never used twice.
-/

namespace RpcTelemetry

/-- What handlers fall back on: a tracer provider and a meter, if they were set, and a
propagator. -/
structure Globals where
  tracer : Option Nat
  meter : Option Nat
  propagator : Propagator

/-- Nothing was set. -/
def Globals.initial : Globals := ⟨none, none, .passive⟩

instance : Inhabited Globals := ⟨.initial⟩

/-- The record of a span, with the position of the provider that started it. -/
structure KeptSpan where
  provider : Nat
  span : Span

/-- An exported span, with the position of the provider that exported it. -/
structure ExportedSpan where
  provider : Nat
  data : SpanData

/-- The telemetry of a process. The innermost attached context comes first; `asked` is what the
global provider of meters was asked for, and `instruments` what handlers made, each with the meter
that it was made with. -/
structure World where
  providers : List Provider
  meters : List Meter
  spans : List KeptSpan
  cells : List Cell
  exported : List ExportedSpan
  logs : List Log.Record
  asked : List MeterRequest
  instruments : List (Option Nat × MeterRequest)
  attached : List Context
  globals : Globals

namespace World

/-- A process without telemetry. -/
def empty : World := ⟨[], [], [], [], [], [], [], [], [], .initial⟩

instance : Inhabited World := ⟨empty⟩

/-- The current context: the innermost attached one. -/
def current (world : World) : Context := world.attached.head?.getD .empty

/-- The record of the active span of a context; an inert one if it has none. -/
def spanOf (world : World) (context : Context) : Span :=
  ((context.record?.bind fun index => world.spans[index]?).map (·.span)).getD .inert

/-- The provider that started the active span of a context. -/
def starterOf (world : World) (context : Context) : Option Nat :=
  (context.record?.bind fun index => world.spans[index]?).map (·.provider)

/-- What a provider exported so far; no provider exported anything. -/
def exportedBy (world : World) (provider : Option Nat) : List SpanData :=
  (world.exported.filter fun span => some span.provider = provider).map (·.data)

/-- Forgets what a provider exported. -/
def forgetExported (world : World) (provider : Option Nat) : World :=
  { world with exported := world.exported.filter fun span => some span.provider ≠ provider }

/-- The cell of a call. -/
def cellOf (world : World) (index : Nat) : Cell := (world.cells[index]?).getD .fresh

/-- Replaces the record of the active span of a context, if it has one. -/
def setSpan (world : World) (context : Context) (span : Span) : World :=
  match context.record? with
  | none => world
  | some index => { world with spans := world.spans.modify index ({ · with span }) }

/-- Replaces the cell of a call. -/
def setCell (world : World) (index : Nat) (cell : Cell) : World :=
  { world with cells := world.cells.set index cell }

/-- Adds a tracer provider and tells its position. -/
def addProvider (world : World) (provider : Provider) : World × Nat :=
  ({ world with providers := world.providers ++ [provider] }, world.providers.length)

/-- Adds a meter and tells its position. -/
def addMeter (world : World) : World × Nat :=
  ({ world with meters := world.meters ++ [.fresh] }, world.meters.length)

/-- Adds a cell and tells its position. -/
def addCell (world : World) : World × Nat :=
  ({ world with cells := world.cells ++ [.fresh] }, world.cells.length)

/-- The meter at a position. -/
def meterAt (world : World) (meter : Nat) : Meter := (world.meters[meter]?).getD .fresh

/-- Adds entries to the log, written by the main thread. -/
def log (world : World) (entries : List Log.Entry) : World :=
  { world with logs := world.logs ++ entries.map (⟨·, false⟩) }

/-- A later state, with all that was logged since an earlier one marked as written by workers. -/
def markWorkers (before after : World) : World :=
  let written := after.logs.drop before.logs.length
  { after with logs := before.logs ++ written.map ({ · with worker := true }) }

/-- Takes in what a call with a context gives out. The provider of its span exports it; measurements
go to a meter, if there is one. -/
def absorb (world : World) (context : Context) (meter : Option Nat) (output : Output) : World :=
  { world.log output.logs with
    exported := match world.starterOf context with
      | none => world.exported
      | some provider => world.exported ++ output.spans.map (⟨provider, ·⟩)
    meters := match meter with
      | none => world.meters
      | some index => world.meters.modify index (·.record output.measurements) }

/-- Ends the active span of a context. -/
def finishSpan (world : World) (context : Context) : World :=
  let span := world.spanOf context
  (world.setSpan context span.finish).absorb context none ⟨span.exported, [], []⟩

/-- Starts a span under a context with the tracer of a provider. Without a provider the span is that
of the context itself, and records nothing. -/
def startSpan (world : World) (tracer : Option Nat) (scope : Scope) (parent : Context)
    (name : String) (kind : SpanKind) (attributes : List Attribute) : World × Context :=
  match tracer.bind fun index => (world.providers[index]?).map (index, ·) with
  | none => (world, ⟨some ⟨parent.identity, none⟩⟩)
  | some (index, provider) =>
    let started := provider.start scope parent name kind attributes
    let world := { world with providers := world.providers.set index started.provider }
    match started.span with
    | none => (world, ⟨some ⟨started.identity, none⟩⟩)
    | some span =>
      ({ world with spans := world.spans ++ [⟨index, span⟩] },
        ⟨some ⟨started.identity, some world.spans.length⟩⟩)

/-- Drops a tracer provider: it starts no more spans, those that it started are no longer exported,
and what it exported is forgotten. -/
def dropProvider (world : World) (index : Nat) : World :=
  { world.forgetExported (some index) with
    providers := world.providers.modify index Provider.drop
    spans := world.spans.map fun kept =>
      if kept.provider = index then { kept with span := { kept.span with exporting := false } }
      else kept }

/-- Ends the active span of a context that was let go, unless another context still holds it. -/
def release (world : World) (held : List Context) (context : Context) : World :=
  match context.record? with
  | none => world
  | some index =>
    if held.any fun other => other.record? = some index then world
    else world.finishSpan context

end World

end RpcTelemetry
