import RpcTelemetry.Proofs.Propagation.Carrier

/-!
# Where the parent of a call comes from

Two taggings are compared that may be of different processes. If the channel of the role gives the
same, they start the same span, whatever else differs: the channel of a server is its incoming
metadata, that of a client is the parent that it is told.

Results:
1. `context_eq`, `span_eq`: the context and the span of a call, from the provider of its handler and
   the context above it.
2. `Alike.sameSpan`: so they are the same if these are.
3. `parent_from_own_channel`: what that says for either role.
-/

namespace RpcTelemetry

/-- Contexts that differ in no more than where the record of their active span is kept. -/
structure Context.Alike (first second : Context) : Prop where
  identity : first.active.map (·.identity) = second.active.map (·.identity)
  recorded : first.record?.isSome = second.record?.isSome

/-- A propagator that reads from the base and the metadata only, and whose fields do not depend on
where a record is kept. -/
structure Propagator.IsPure (propagator : Propagator) : Prop where
  reads : ∀ current other base metadata,
    propagator.extract current base metadata = propagator.extract other base metadata
  writes : ∀ first second : Context, first.Alike second →
    propagator.fields first = propagator.fields second

namespace Provider

/-- The identity of the next span under a context. Without a provider it is that of the context, and
a provider that was dropped gives none. -/
def nextIdentity (provider? : Option Provider) (above : Context) : SpanContext :=
  match provider? with
  | none => above.identity
  | some provider => if provider.live then provider.identityUnder above else .invalid

/-- Whether the next span under a context is recorded. -/
def recordsNext (provider? : Option Provider) (above : Context) : Bool :=
  provider?.any fun provider => provider.live && (provider.identityUnder above).isSampled

variable {first second : Context}

/-- Of the context above it a span takes the identity of the active span only. -/
theorem identityUnder_congr (provider : Provider)
    (same : first.active.map (·.identity) = second.active.map (·.identity)) :
    provider.identityUnder first = provider.identityUnder second := by
  have trace : provider.traceUnder first = provider.traceUnder second := by
    unfold traceUnder
    rw [same]
  have sampled : provider.samplesUnder first = provider.samplesUnder second := by
    rw [samplesUnder, samplesUnder, trace, same]
  simp only [identityUnder, sampled, trace, Context.identity, same]

theorem next_congr (provider? : Option Provider)
    (same : first.active.map (·.identity) = second.active.map (·.identity)) :
    nextIdentity provider? first = nextIdentity provider? second ∧
      recordsNext provider? first = recordsNext provider? second := by
  cases provider? with
  | none => exact ⟨by simp only [nextIdentity, Context.identity, same], rfl⟩
  | some provider =>
    simp only [nextIdentity, recordsNext, Option.any_some,
      provider.identityUnder_congr same, and_self]

end Provider

namespace Tagging

variable (call : Tagging)

/-- The context of a call. -/
theorem context_eq :
    call.context = ⟨some ⟨Provider.nextIdentity call.provider? call.above,
      if Provider.recordsNext call.provider? call.above then some call.world.spans.length
      else none⟩⟩ := by
  have started : call.context =
      (call.world.startCallSpan call.handler call.parent call.rpc call.info).2 :=
    call.world.context_tag call.handler call.parent call.rpc call.info
  rw [started]
  cases found : call.provider? with
  | none =>
    have missing : (call.handler.tracer.bind fun index =>
        (call.world.providers[index]?).map (index, ·)) = none := by
      refine Option.bind_eq_none_iff.2 fun tracer traced => Option.map_eq_none_iff.2 ?_
      exact Option.bind_eq_none_iff.1 found tracer traced
    simp only [World.startCallSpan, World.startSpan, missing]
    rfl
  | some provider =>
    obtain ⟨tracer, traced, there⟩ := Option.bind_eq_some_iff.1 found
    cases live : provider.live with
    | false =>
      rw [call.world.startCallSpan_of_dropped call.handler call.parent call.rpc call.info traced
        there live]
      simp [Provider.nextIdentity, Provider.recordsNext, live]
    | true =>
      rw [(call.world.startCallSpan_of_live call.handler call.parent call.rpc call.info traced
        there live).1]
      simp [Provider.nextIdentity, Provider.recordsNext, live, above]

section

variable {call}

theorem record?_of_unrecorded
    (unrecorded : Provider.recordsNext call.provider? call.above = false) :
    call.context.record? = none := by
  rw [context_eq, unrecorded]
  rfl

theorem isSampled_of_recorded {provider : Provider} (found : call.provider? = some provider)
    (recorded : Provider.recordsNext call.provider? call.above = true) :
    call.identity.isSampled = true := by
  have started := call.context_eq
  rw [found] at started recorded
  rw [identity, started]
  simp only [Provider.recordsNext, Option.any_some, Bool.and_eq_true] at recorded
  simp only [Context.identity, Provider.nextIdentity, recorded.1]
  exact recorded.2

end

/-- The provider that started the span of a call. Nobody started one that is not recorded. -/
theorem starter_eq :
    call.tagged.1.starterOf call.context =
      if Provider.recordsNext call.provider? call.above then call.handler.tracer else none := by
  split
  · next recorded =>
    cases found : call.provider? with
    | none =>
      rw [found] at recorded
      cases recorded
    | some provider =>
      obtain ⟨tracer, traced, there⟩ := Option.bind_eq_some_iff.1 found
      rw [traced]
      exact (call.world.span_tag call.handler call.parent call.rpc call.info traced there
        (isSampled_of_recorded found recorded)).1
  · next unrecorded =>
    rw [World.starterOf, record?_of_unrecorded (Bool.eq_false_iff.2 unrecorded)]
    rfl

/-- The span of a call. One that is not recorded is inert. -/
theorem span_eq :
    call.tagged.1.spanOf call.context =
      match call.provider? with
      | none => .inert
      | some provider =>
        if Provider.recordsNext call.provider? call.above then
          Given.span ⟨(Method.parse call.info.fullMethod).1, call.handler.role.spanKind,
            call.identity, call.parentSpan, Method.identity call.info.fullMethod, [], .unset,
            callScope⟩ provider.limits provider.exporting
        else .inert := by
  have inert (unrecorded : Provider.recordsNext call.provider? call.above = false) :
      call.tagged.1.spanOf call.context = .inert := by
    rw [World.spanOf, record?_of_unrecorded unrecorded]
    rfl
  cases found : call.provider? with
  | none => exact inert (by rw [found]; rfl)
  | some provider =>
    dsimp only
    split
    · next recorded =>
      obtain ⟨tracer, traced, there⟩ := Option.bind_eq_some_iff.1 found
      have sampled : call.identity.isSampled = true :=
        isSampled_of_recorded found (found ▸ recorded)
      exact (call.world.span_tag call.handler call.parent call.rpc call.info traced there sampled).2
    · next unrecorded =>
      rw [← found] at unrecorded
      exact inert (Bool.eq_false_iff.2 unrecorded)

/-- Calls whose spans are the same: identity, sampling and parent, and all that the spans were
given. -/
structure SameSpan (first second : Tagging) : Prop where
  context : first.context.Alike second.context
  parent : first.parentSpan = second.parentSpan
  content : first.tagged.1.spanOf first.context = second.tagged.1.spanOf second.context

/-- Calls that are tagged by one handler, for the same method, with the same numbers to come. -/
structure Alike (first second : Tagging) : Prop where
  handler : first.handler = second.handler
  info : first.info = second.info
  provider : first.provider? = second.provider?
  propagator : first.propagator = second.propagator

variable {call} {first second : Tagging}

theorem Alike.sameSpan (alike : first.Alike second)
    (above : first.above.active.map (·.identity) = second.above.active.map (·.identity)) :
    first.SameSpan second := by
  obtain ⟨nextIdentity, recordsNext⟩ := Provider.next_congr second.provider? above
  have context : first.context.Alike second.context := by
    rw [first.context_eq, second.context_eq, alike.provider, nextIdentity, recordsNext]
    refine ⟨rfl, ?_⟩
    cases Provider.recordsNext second.provider? second.above <;> rfl
  have identity : first.identity = second.identity := by
    simp only [Tagging.identity, Context.identity, context.identity]
  have parent : first.parentSpan = second.parentSpan := by
    simp only [parentSpan, Context.identity, above]
  refine ⟨context, parent, ?_⟩
  rw [first.span_eq, second.span_eq, alike.provider, alike.handler, alike.info, recordsNext,
    identity, parent]

/-- A call without a span above it is the root of a new trace. -/
theorem root_of_empty (empty : call.above.active = none) :
    call.parentSpan = 0 ∧ ∀ provider, call.provider? = some provider → provider.live = true →
      call.identity.trace = BitVec.ofNat 128 (provider.base + provider.traces + 1) := by
  constructor
  · rw [parentSpan, Context.identity, empty]
    rfl
  · intro provider found live
    rw [identity, context_eq, found]
    simp [Context.identity, Provider.nextIdentity, live, Provider.identityUnder,
      Provider.traceUnder, empty]

/-- Of two calls of a server with the same incoming metadata, and of two calls of a client under the
same parent, the spans are the same: what contexts are attached, what stands in the metadata of the
other direction and who the peer is make no difference. A server leaves the transport context as it
is. A client writes the same fields over the outgoing metadata, whatever these were, and changes
nothing else; without a parent it starts a new trace. -/
theorem parent_from_own_channel (alike : first.Alike second) (isPure : first.propagator.IsPure) :
    (first.IsServer → first.rpc.incoming = second.rpc.incoming →
      first.SameSpan second ∧
        first.tagged.2.rpc = first.rpc ∧ second.tagged.2.rpc = second.rpc) ∧
      (first.handler.role = .client →
        first.parent.active.map (·.identity) = second.parent.active.map (·.identity) →
        first.SameSpan second ∧ first.fields = second.fields ∧
          ∀ call ∈ [first, second],
            call.tagged.2.rpc =
                { call.rpc with outgoing := (call.rpc.outgoing.inject call.fields).1 } ∧
              (call.parent.active = none → call.parentSpan = 0 ∧
                ∀ provider, call.provider? = some provider → provider.live = true →
                  call.identity.trace =
                    BitVec.ofNat 128 (provider.base + provider.traces + 1))) := by
  constructor
  · intro isServer received
    have alsoServer : second.IsServer := by
      obtain ⟨policy, role⟩ := isServer
      exact ⟨policy, alike.handler ▸ role⟩
    have above : first.above = second.above := by
      rw [above_of_server isServer, above_of_server alsoServer, ← alike.propagator, ← received]
      exact isPure.reads _ _ _ _
    exact ⟨alike.sameSpan (by rw [above]), rpc_of_server isServer, rpc_of_server alsoServer⟩
  · intro isClient told
    have alsoClient : second.handler.role = .client := alike.handler ▸ isClient
    have above : first.above.active.map (·.identity) = second.above.active.map (·.identity) := by
      rw [above_of_client isClient, above_of_client alsoClient]
      exact told
    have same := alike.sameSpan above
    have fields : first.fields = second.fields := by
      unfold Tagging.fields
      rw [← alike.propagator]
      exact isPure.writes _ _ same.context
    refine ⟨same, fields, List.forall_mem_cons.2 ⟨⟨rpc_of_client isClient, fun empty => ?_⟩,
      List.forall_mem_singleton.2 ⟨rpc_of_client alsoClient, fun empty => ?_⟩⟩⟩
    · exact root_of_empty (above_of_client isClient ▸ empty)
    · exact root_of_empty (above_of_client alsoClient ▸ empty)

end Tagging

theorem TraceContext.isPure_propagator : propagator.IsPure where
  reads _ _ _ _ := rfl
  writes first second alike := by
    simp only [propagator, Context.identity, alike.identity]

/-- A server call within another one, and a client call with headers from elsewhere, against the
same calls without. -/
theorem Tagging.parent_from_own_channel_sample :
    let server := Hop.sample.serverAfter Hop.sample.client
    let nested : Tagging := { server with
      world := { server.world with attached := [.remote ⟨7, 7, 1, true, .empty⟩] }
      rpc := ⟨server.rpc.incoming, Hop.sample.client.rpc.outgoing, none⟩ }
    let client := Hop.sample.client
    let relayed : Tagging := { client with
      rpc := ⟨server.rpc.incoming, .empty, some ⟨"10.0.0.7:443"⟩⟩ }
    (server.SameSpan nested ∧ nested.tagged.2.rpc = nested.rpc) ∧
      client.SameSpan relayed ∧ client.fields = relayed.fields ∧ relayed.parentSpan = 0 := by
  intro server nested client relayed
  obtain ⟨sameServer, -, unchanged⟩ :=
    (@parent_from_own_channel server nested ⟨rfl, rfl, rfl, rfl⟩
      TraceContext.isPure_propagator).1 ⟨_, rfl⟩ rfl
  obtain ⟨sameClient, fields, each⟩ :=
    (@parent_from_own_channel client relayed ⟨rfl, rfl, rfl, rfl⟩
      TraceContext.isPure_propagator).2 rfl rfl
  exact ⟨⟨sameServer, unchanged⟩, sameClient, fields, ((each relayed (by simp)).2 rfl).1⟩

end RpcTelemetry
