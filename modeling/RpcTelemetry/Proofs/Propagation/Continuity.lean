import RpcTelemetry.Proofs.Propagation.Header
import RpcTelemetry.Proofs.World.Tagging

/-!
# Trace continuity

A chain of calls alternates between clients and servers: a server receives what its client sends,
and the next client is called under the context of that server. Every call of a chain has a process
and a handler of its own; only the propagator is the same throughout.

Results:
1. `client_continues`, `server_continues`: one call continues the trace of the context above it, for
   a server through the metadata of its client.
2. `chained_chain`: so does every call of a chain.
3. `trace_continues`: what that says about all spans of a chain together.
-/

namespace RpcTelemetry

/-- How a call is tagged: in which process, by which handler, and what the handler is told. -/
structure Tagging where
  world : World
  handler : Handler
  parent : Context
  rpc : CallContext
  info : CallInfo

namespace Tagging

variable (call : Tagging)

/-- The process and the handle afterwards. -/
def tagged : World × Handle := call.world.tag call.handler call.parent call.rpc call.info

/-- The context of the call. -/
def context : Context := call.tagged.2.context

/-- The identity of the span of the call. -/
def identity : SpanContext := call.context.identity

/-- The context that the span was started under. -/
def above : Context := call.world.parentOf call.handler call.parent call.rpc

/-- The number of the parent of the span; 0 for a root. -/
def parentSpan : BitVec 64 := call.above.identity.span

/-- What is recorded of the span. -/
def recorded? : Option SpanData := (call.tagged.1.spanOf call.context).data

/-- The provider of the handler. -/
def provider? : Option Provider :=
  call.handler.tracer.bind fun tracer => call.world.providers[tracer]?

/-- Whether the handler serves inbound calls. -/
def IsServer : Prop := ∃ policy, call.handler.role = .server policy

/-- Whether the provider of the handler samples a span as the one above it is, if there is one. -/
def IsParentBased : Prop :=
  ∃ provider, call.provider? = some provider ∧
    ∀ above trace, provider.sampler.decide (some above) trace = above.isSampled

/-- A handler that propagates trace context and has a live provider. The numbers that the provider
gives next are not 0, as none of a valid span is. -/
structure Ready : Prop where
  propagates : call.handler.propagatorIn call.world.globals = TraceContext.propagator
  traced : ∃ provider, call.provider? = some provider ∧ provider.live = true ∧
    (provider.identityUnder .empty).isValid = true

end Tagging

namespace ContinuityLemmas

/-- A span is valid if a root would be and the context above it is, if there is one. -/
theorem isValid_identityUnder {provider : Provider} {parent : Context}
    (valid : (provider.identityUnder .empty).isValid = true)
    (started : parent.active = none ∨ parent.identity.isValid = true) :
    (provider.identityUnder parent).isValid = true := by
  obtain ⟨active⟩ := parent
  cases active with
  | none => exact valid
  | some span =>
    rcases started with root | below
    · cases root
    · have numbered : (provider.identityUnder .empty).span ≠ 0 := by
        simp only [SpanContext.isValid, Bool.and_eq_true, decide_eq_true_eq] at valid
        exact valid.2
      have traced : span.identity.trace ≠ 0 := by
        simp only [SpanContext.isValid, Bool.and_eq_true, decide_eq_true_eq] at below
        exact below.1
      show (decide _ && decide _) = true
      rw [Bool.and_eq_true, decide_eq_true_eq, decide_eq_true_eq]
      exact ⟨traced, numbered⟩

theorem isSampled_and_one (flags : BitVec 8) :
    (flags &&& 1).getLsbD 0 = flags.getLsbD 0 := by
  simp

end ContinuityLemmas

open ContinuityLemmas

/-- A client call and the server call that receives it. -/
structure Hop where
  client : Tagging
  server : Tagging

/-- A hop whose sides have handlers of their roles. -/
structure Hop.Ready (hop : Hop) : Prop where
  client : hop.client.Ready
  server : hop.server.Ready
  isClient : hop.client.handler.role = .client
  isServer : hop.server.IsServer

namespace Hop

/-- The client call of a hop under a context. -/
def clientUnder (hop : Hop) (parent : Context) : Tagging := { hop.client with parent }

/-- The server call of a hop, which receives what its client sends. -/
def serverAfter (hop : Hop) (client : Tagging) : Tagging :=
  { hop.server with rpc := { hop.server.rpc with incoming := client.tagged.2.rpc.outgoing } }

/-- The calls along hops, the first under a given context and every other client under the context
of the server before it. -/
def chain : Context → List Hop → List Tagging
  | _, [] => []
  | parent, hop :: rest =>
    let client := hop.clientUnder parent
    let server := hop.serverAfter client
    client :: server :: chain server.context rest

end Hop

namespace Tagging

/-- A call continues the trace of a context. Where that has no active span the trace is a new
one. -/
structure Continues (call : Tagging) (above : Context) : Prop where
  active : call.context.active.isSome = true
  valid : call.identity.isValid = true
  parent : call.parentSpan = above.identity.span
  trace : above.active.isSome = true → call.identity.trace = above.identity.trace
  state : above.identity.state.IsPrintable → call.identity.state = above.identity.state
  sampled : above.active.isSome = true → call.IsParentBased →
    call.identity.isSampled = above.identity.isSampled
  recorded {data : SpanData} : call.recorded? = some data →
    data.context = call.identity ∧ data.parent = call.parentSpan
  remote : call.IsServer → call.above.identity.remote = true

variable {call : Tagging}

/-- The context of a call whose handler is ready. -/
theorem Ready.context_eq (ready : call.Ready) :
    ∃ provider, call.provider? = some provider ∧ (provider.identityUnder .empty).isValid = true ∧
      call.context = ⟨some ⟨provider.identityUnder call.above,
        if (provider.identityUnder call.above).isSampled then some call.world.spans.length
        else none⟩⟩ := by
  obtain ⟨provider, found, live, valid⟩ := ready.traced
  obtain ⟨tracer, traced, there⟩ := Option.bind_eq_some_iff.1 found
  obtain ⟨started, -⟩ := call.world.startCallSpan_of_live call.handler call.parent call.rpc
    call.info traced there live
  refine ⟨provider, found, valid, ?_⟩
  exact (call.world.context_tag call.handler call.parent call.rpc call.info).trans started

/-- The span of a call is recorded with its identity and its parent. -/
theorem Ready.recorded_eq (ready : call.Ready) {data : SpanData}
    (recorded : call.recorded? = some data) :
    data.context = call.identity ∧ data.parent = call.parentSpan := by
  cases sampled : call.identity.isSampled with
  | true =>
    obtain ⟨provider, found, -⟩ := ready.traced
    obtain ⟨tracer, traced, there⟩ := Option.bind_eq_some_iff.1 found
    obtain ⟨-, given⟩ := call.world.span_tag call.handler call.parent call.rpc call.info traced
      there sampled
    have content : call.recorded? = some _ := congrArg Span.data given
    rw [content] at recorded
    cases recorded
    exact ⟨rfl, rfl⟩
  | false =>
    obtain ⟨provider, -, -, context⟩ := ready.context_eq
    have unsampled : (provider.identityUnder call.above).isSampled = false := by
      rw [identity, context] at sampled
      exact sampled
    rw [recorded?, context, unsampled] at recorded
    cases recorded

/-- A call continues the trace of the context that its span was started under. -/
theorem Ready.continues_above (ready : call.Ready)
    (started : call.above.active = none ∨ call.above.identity.isValid = true)
    (remote : call.IsServer → call.above.identity.remote = true) : call.Continues call.above := by
  obtain ⟨provider, found, valid, context⟩ := ready.context_eq
  have identityEq : call.identity = provider.identityUnder call.above := by
    rw [identity, context]
    rfl
  refine ⟨?_, ?_, rfl, ?_, ?_, ?_, ready.recorded_eq, remote⟩
  · rw [context]
    rfl
  · rw [identityEq]
    exact isValid_identityUnder valid started
  · intro below
    rw [identityEq]
    obtain ⟨span, active⟩ := Option.isSome_iff_exists.1 below
    simp only [Provider.identityUnder, Provider.traceUnder, Context.identity, active]
    rfl
  · intro _
    rw [identityEq]
    rfl
  · intro below parentBased
    obtain ⟨other, same, sampler⟩ := parentBased
    obtain ⟨span, active⟩ := Option.isSome_iff_exists.1 below
    cases found.symm.trans same
    rw [identityEq, provider.isSampled_identityUnder, Provider.samplesUnder, active]
    exact (sampler span.identity _).trans (by rw [Context.identity, active]; rfl)

/-- What continues an identity that was read continues the identity that was sent. -/
theorem Continues.of_read {read : SpanContext} {sender : Context}
    (continues : call.Continues (.remote read)) (trace : read.trace = sender.identity.trace)
    (span : read.span = sender.identity.span) (flags : read.flags = sender.identity.flags &&& 1)
    (state : sender.identity.state.IsPrintable → read.state = sender.identity.state) :
    call.Continues sender where
  active := continues.active
  valid := continues.valid
  parent := continues.parent.trans span
  trace _ := (continues.trace rfl).trans trace
  state printable := by
    have same : read.state = sender.identity.state := state printable
    exact (continues.state (same ▸ printable)).trans same
  sampled _ parentBased := by
    -- Of the flags only this one travels.
    have sent : read.isSampled = sender.identity.isSampled := by
      rw [SpanContext.isSampled, flags, isSampled_and_one]
      rfl
    exact (continues.sampled rfl parentBased).trans sent
  recorded := continues.recorded
  remote := continues.remote

end Tagging

/-! ## One hop -/

namespace Hop

variable {hop : Hop}

/-- A client call continues the trace of the context that it is given. -/
theorem Ready.client_continues (ready : hop.Ready) {parent : Context}
    (started : parent.active = none ∨ parent.identity.isValid = true) :
    (hop.clientUnder parent).Continues parent := by
  have above : (hop.clientUnder parent).above = parent :=
    hop.client.world.parentOf_of_client parent hop.client.rpc ready.isClient
  have clientReady : (hop.clientUnder parent).Ready :=
    ⟨ready.client.propagates, ready.client.traced⟩
  -- To a client its parent need not be remote.
  have noServer : ¬(hop.clientUnder parent).IsServer := by
    rintro ⟨policy, isServer⟩
    cases ready.isClient.symm.trans isServer
  have continues := clientReady.continues_above (by rwa [above]) fun isServer =>
    absurd isServer noServer
  rwa [above] at continues

/-- What a client call sends: its identity, laid over its outgoing metadata. -/
theorem outgoing_client {client : Tagging} (ready : client.Ready)
    (isClient : client.handler.role = .client) :
    client.tagged.2.rpc.outgoing =
      (client.rpc.outgoing.inject (TraceContext.fields client.identity)).1 := by
  have sent := client.world.outgoing_tag client.handler client.parent client.rpc client.info
  rw [← World.context_tag, client.world.outgoingOf_of_client client.rpc isClient,
    ready.propagates] at sent
  exact sent

/-- A server call starts under the identity of its client, read from the metadata. -/
theorem Ready.above_server (ready : hop.Ready) {client : Tagging} (clientReady : client.Ready)
    (isClient : client.handler.role = .client) (valid : client.identity.isValid = true) :
    ∃ read, (hop.serverAfter client).above = .remote read ∧ read.trace = client.identity.trace ∧
      read.span = client.identity.span ∧ read.flags = client.identity.flags &&& 1 ∧
      read.remote = true ∧
      (client.identity.state.IsPrintable → read.state = client.identity.state) := by
  obtain ⟨policy, isServer⟩ := ready.isServer
  obtain ⟨read, found, same⟩ := TraceContext.read?_inject valid client.rpc.outgoing
  rw [← outgoing_client clientReady isClient] at found
  refine ⟨read, ?_, same⟩
  calc (hop.serverAfter client).above
      = (hop.server.handler.propagatorIn hop.server.world.globals).extract
          hop.server.world.current .empty client.tagged.2.rpc.outgoing :=
        World.parentOf_of_server _ _ _ isServer
    _ = .remote read := by
        rw [ready.server.propagates]
        exact TraceContext.extract_of_read? found _ _

/-- A server call continues the trace of its client, whatever else the metadata of the client
were. -/
theorem Ready.server_continues (ready : hop.Ready) {client : Tagging} (clientReady : client.Ready)
    (isClient : client.handler.role = .client) (valid : client.identity.isValid = true) :
    (hop.serverAfter client).Continues client.context := by
  obtain ⟨read, above, trace, span, flags, remote, state⟩ :=
    ready.above_server clientReady isClient valid
  have serverReady : (hop.serverAfter client).Ready :=
    ⟨ready.server.propagates, ready.server.traced⟩
  have stillValid : read.isValid = true := by
    rw [SpanContext.isValid, trace, span]
    exact valid
  have continues := serverReady.continues_above (above ▸ .inr stillValid) fun _ => above ▸ remote
  rw [above] at continues
  exact continues.of_read trace span flags state

end Hop

/-! ## Chains -/

/-- Calls of which each continues the trace of the one before it, the first that of a context. -/
inductive Chained : Context → List Tagging → Prop
  | nil (above : Context) : Chained above []
  | cons {above : Context} {call : Tagging} {rest : List Tagging} :
      call.Continues above → Chained call.context rest → Chained above (call :: rest)

namespace Chained

variable {above : Context} {calls : List Tagging}

theorem trace_eq (chained : Chained above calls) (below : above.active.isSome = true) :
    ∀ call ∈ calls, call.identity.trace = above.identity.trace := by
  induction chained with
  | nil => simp
  | cons continues _ ih =>
    refine List.forall_mem_cons.2 ⟨continues.trace below, fun later present => ?_⟩
    exact (ih continues.active later present).trans (continues.trace below)

theorem map_parentSpan (chained : Chained above calls) :
    calls.map (·.parentSpan) = (above.identity.span :: calls.map (·.identity.span)).dropLast := by
  induction chained with
  | nil => rfl
  | cons continues _ ih =>
    rw [List.map_cons, ih, continues.parent, List.map_cons, List.dropLast_cons_cons]
    rfl

theorem state_eq (chained : Chained above calls) (printable : above.identity.state.IsPrintable) :
    ∀ call ∈ calls, call.identity.state = above.identity.state := by
  induction chained with
  | nil => simp
  | cons continues _ ih =>
    have same := continues.state printable
    refine List.forall_mem_cons.2 ⟨same, fun later present => ?_⟩
    exact (ih (same ▸ printable) later present).trans same

theorem isSampled_eq (chained : Chained above calls) (below : above.active.isSome = true)
    (parentBased : ∀ call ∈ calls, call.IsParentBased) :
    ∀ call ∈ calls, call.identity.isSampled = above.identity.isSampled := by
  induction chained with
  | nil => simp
  | cons continues _ ih =>
    obtain ⟨first, rest⟩ := List.forall_mem_cons.1 parentBased
    have same := continues.sampled below first
    refine List.forall_mem_cons.2 ⟨same, fun later present => ?_⟩
    exact (ih continues.active rest later present).trans same

theorem continues_of_mem (chained : Chained above calls) :
    ∀ call ∈ calls, ∃ before, call.Continues before := by
  induction chained with
  | nil => simp
  | cons continues _ ih => exact List.forall_mem_cons.2 ⟨⟨_, continues⟩, ih⟩

end Chained

/-- What one trace through calls is, from a context on. -/
structure IsOneTrace (initial : Context) (calls : List Tagging) : Prop where
  /-- All spans have the trace of the context, or a common new one. -/
  trace : ∃ trace, (initial.active.isSome = true → trace = initial.identity.trace) ∧
    ∀ call ∈ calls, call.identity.trace = trace
  /-- The parent of each span is the one before it, that of the first the span of the context. -/
  parents : calls.map (·.parentSpan) =
    (initial.identity.span :: calls.map (·.identity.span)).dropLast
  /-- Without a span in the context, the first span is a root. -/
  root : initial.active = none → ∀ first ∈ calls.head?, first.parentSpan = 0
  /-- Spans are recorded with these identities and parents. -/
  recorded : ∀ call ∈ calls, ∀ data, call.recorded? = some data →
    data.context = call.identity ∧ data.parent = call.parentSpan
  /-- To a server its parent is remote. -/
  remote : ∀ call ∈ calls, call.IsServer → call.above.identity.remote = true
  /-- The trace state is that of the context, if metadata can carry it. -/
  state : initial.identity.state.IsPrintable →
    ∀ call ∈ calls, call.identity.state = initial.identity.state
  /-- All spans are sampled or none, if only the first client may decide. -/
  sampled : (∀ call ∈ calls.tail, call.IsParentBased) →
    ∃ sampled, ∀ call ∈ calls, call.identity.isSampled = sampled

theorem Chained.isOneTrace {initial : Context} {calls : List Tagging}
    (chained : Chained initial calls) : IsOneTrace initial calls where
  trace := by
    cases chained with
    | nil => exact ⟨_, fun _ => rfl, by simp⟩
    | @cons _ first rest continues later =>
      refine ⟨first.identity.trace, continues.trace, ?_⟩
      exact List.forall_mem_cons.2 ⟨rfl, later.trace_eq continues.active⟩
  parents := chained.map_parentSpan
  root none first present := by
    cases chained with
    | nil => cases present
    | cons continues _ =>
      cases present
      rw [continues.parent, Context.identity, none]
      rfl
  recorded call present data recorded := by
    obtain ⟨before, continues⟩ := chained.continues_of_mem call present
    exact continues.recorded recorded
  remote call present := by
    obtain ⟨before, continues⟩ := chained.continues_of_mem call present
    exact continues.remote
  state := chained.state_eq
  sampled parentBased := by
    cases chained with
    | nil => exact ⟨false, by simp⟩
    | @cons _ first rest continues later =>
      refine ⟨first.identity.isSampled, ?_⟩
      exact List.forall_mem_cons.2 ⟨rfl, later.isSampled_eq continues.active parentBased⟩

namespace Hop

variable {hops : List Hop} {initial : Context}

theorem chained_chain (ready : ∀ hop ∈ hops, hop.Ready)
    (started : initial.active = none ∨ initial.identity.isValid = true) :
    Chained initial (chain initial hops) := by
  induction hops generalizing initial with
  | nil => exact .nil initial
  | cons hop rest ih =>
    have first : hop.Ready := ready hop (by simp)
    have clientReady : (hop.clientUnder initial).Ready :=
      ⟨first.client.propagates, first.client.traced⟩
    have client := first.client_continues started
    have server := first.server_continues clientReady first.isClient client.valid
    exact .cons client (.cons server
      (ih (fun later present => ready later (List.mem_cons_of_mem _ present)) (.inr server.valid)))

theorem length_chain (hops : List Hop) (initial : Context) :
    (chain initial hops).length = 2 * hops.length := by
  induction hops generalizing initial with
  | nil => rfl
  | cons hop rest ih =>
    show (chain _ rest).length + 1 + 1 = 2 * (rest.length + 1)
    rw [ih]
    omega

/-- The spans of a chain, two for each hop, are one trace. What the calls are named, whether they
are filtered, their peers, and what their metadata were before make no difference. -/
theorem trace_continues (hops : List Hop) (ready : ∀ hop ∈ hops, hop.Ready)
    (started : initial.active = none ∨ initial.identity.isValid = true) :
    (chain initial hops).length = 2 * hops.length ∧ IsOneTrace initial (chain initial hops) :=
  ⟨length_chain hops initial, (chained_chain ready started).isOneTrace⟩

/-- A hop between two processes. Headers of another trace are left over with the client. -/
def sample : Hop where
  client := {
    world := Sample.world
    handler := ⟨.client, some 0, none, some TraceContext.propagator, none⟩
    parent := .empty
    rpc := ⟨.empty, (Metadata.empty.insertAll
      [("traceparent", "00-stale"), ("tracestate", "stale=1")]).1, none⟩
    info := Sample.info }
  server := {
    world := { Sample.world with providers := [.ofSettings (.parentBased false) .standard] }
    handler := ⟨.server .standard, some 0, none, some TraceContext.propagator, none⟩
    parent := .empty
    rpc := Sample.rpc
    info := Sample.info }

/-- Two hops without a parent. -/
theorem trace_continues_sample :
    (chain .empty [sample, sample]).length = 4 ∧
      IsOneTrace .empty (chain .empty [sample, sample]) := by
  have ready : sample.Ready := {
    client := ⟨rfl, _, rfl, rfl, by decide⟩
    server := ⟨rfl, _, rfl, rfl, by decide⟩
    isClient := rfl
    isServer := ⟨_, rfl⟩ }
  exact trace_continues [sample, sample]
    (List.forall_mem_cons.2 ⟨ready, List.forall_mem_singleton.2 ready⟩) (.inl rfl)

end Hop

end RpcTelemetry
