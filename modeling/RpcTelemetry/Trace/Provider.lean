import RpcTelemetry.Trace.Span

/-!
# Tracer providers

A provider starts spans: it numbers traces and spans one after another, asks a sampler whether to
record, and limits what is recorded. A provider that was dropped starts spans without identity.
-/

namespace RpcTelemetry

/-- A sampler tells which spans are recorded. It is shown the span above, if there is one, and the
trace of the new span; the name of the span, its kind and its attributes make no difference to
it. -/
structure Sampler where
  decide (above : Option SpanContext) (trace : BitVec 128) : Bool

namespace Sampler

/-- Every span is recorded. -/
def always : Sampler where
  decide _ _ := true

/-- No span is recorded. -/
def never : Sampler where
  decide _ _ := false

/-- A span is recorded as the one above it is, and as told at a root. -/
def parentBased (atRoot : Bool) : Sampler where
  decide above _ := above.elim atRoot SpanContext.isSampled

end Sampler

/-- A tracer provider: its settings, the number before its first ones, whether someone takes its
ended spans, whether it is alive, and how many numbers it has given. -/
structure Provider where
  sampler : Sampler
  limits : SpanLimits
  base : Nat
  exporting : Bool
  live : Bool
  traces : Nat
  spans : Nat

namespace Provider

/-- A provider that has started no span yet and counts from 1. -/
def ofSettings (sampler : Sampler) (limits : SpanLimits) : Provider :=
  ⟨sampler, limits, 0, true, true, 0, 0⟩

/-- A provider that records all spans. Its numbers are arbitrary: they are far from those that
others give. -/
def arbitrary : Provider := { ofSettings .always .standard with base := 0x7c3a95e1d2b40000 }

/-- A provider that records all spans under arbitrary numbers and exports none. -/
def unexported : Provider := { arbitrary with exporting := false }

instance : Inhabited Provider := ⟨ofSettings .always .standard⟩

/-- A provider that nobody holds any more. -/
def drop (provider : Provider) : Provider := { provider with live := false }

/-- What starting a span gives: the provider afterwards, the identity of the span, and its record
if it is sampled. -/
structure Started where
  provider : Provider
  identity : SpanContext
  span : Option Span

/-- Starts a span under the active span of a context, be it valid or not; without one a new trace
begins. -/
def start (provider : Provider) (scope : Scope) (parent : Context) (name : String)
    (kind : SpanKind) (attributes : List Attribute) : Started :=
  if !provider.live then ⟨provider, .invalid, none⟩
  else
    let above := parent.active.map (·.identity)
    let trace := match above with
      | some context => context.trace
      | none => BitVec.ofNat 128 (provider.base + provider.traces + 1)
    let sampled := provider.sampler.decide above trace
    let span := BitVec.ofNat 64 (provider.base + provider.spans + 1)
    let identity : SpanContext := {
      trace
      span
      flags := if sampled then parent.identity.flags ||| 1 else 0
      remote := false
      state := parent.identity.state }
    { provider := { provider with
        spans := provider.spans + 1
        traces := if above.isNone then provider.traces + 1 else provider.traces }
      identity
      span :=
        if sampled then
          some { Span.start provider.limits name kind identity parent.identity.span attributes scope
            with exporting := provider.exporting }
        else none }

end Provider

end RpcTelemetry
