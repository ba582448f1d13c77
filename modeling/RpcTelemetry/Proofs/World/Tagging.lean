import RpcTelemetry.Proofs.Call.Account
import RpcTelemetry.Proofs.World.Delivery

/-!
# Tagging a call

What tagging does in either role, said once (`tag_eq`): a span is started under the parent of the
call, and a handle with a cell of its own refers to it. A span that is sampled starts with the
attributes of the method and nothing else (`span_tag`).

From the tagging to the end, a recorded call gives out what its account comes to
(`outputs_of_accepted`).
-/

namespace RpcTelemetry

/-- How the calls of a handler are followed. -/
def Handler.trackingOf (handler : Handler) (info : CallInfo) : Tracking :=
  if handler.records info then .recorded (Method.identity info.fullMethod)
  else .filtered (Method.identity info.fullMethod)

namespace World

/-- The context that the span of a call is started under: a server reads it from the incoming
metadata, a client is told. -/
def parentOf (world : World) (handler : Handler) (parent : Context) (rpc : CallContext) :
    Context :=
  match handler.role with
  | .server _ => (handler.propagatorIn world.globals).extract world.current .empty rpc.incoming
  | .client => parent

/-- The outgoing metadata of a call with a context: a client lays the context over them. -/
def outgoingOf (world : World) (handler : Handler) (rpc : CallContext) (context : Context) :
    Metadata :=
  match handler.role with
  | .server _ => rpc.outgoing
  | .client => (rpc.outgoing.inject ((handler.propagatorIn world.globals).fields context)).1

/-- Starts the span of a call. -/
def startCallSpan (world : World) (handler : Handler) (parent : Context) (rpc : CallContext)
    (info : CallInfo) : World × Context :=
  world.startSpan handler.tracer callScope (world.parentOf handler parent rpc)
    (Method.parse info.fullMethod).1 handler.role.spanKind (Method.identity info.fullMethod)

variable (world : World) (handler : Handler) (parent : Context) (rpc : CallContext)
  (info : CallInfo)

section

variable {handler} {policy : StatusPolicy}

theorem parentOf_of_server (role : handler.role = .server policy) :
    world.parentOf handler parent rpc =
      (handler.propagatorIn world.globals).extract world.current .empty rpc.incoming := by
  simp only [parentOf, role]

theorem parentOf_of_client (role : handler.role = .client) :
    world.parentOf handler parent rpc = parent := by
  simp only [parentOf, role]

theorem outgoingOf_of_server (role : handler.role = .server policy) (context : Context) :
    world.outgoingOf handler rpc context = rpc.outgoing := by
  simp only [outgoingOf, role]

theorem outgoingOf_of_client (role : handler.role = .client) (context : Context) :
    world.outgoingOf handler rpc context =
      (rpc.outgoing.inject ((handler.propagatorIn world.globals).fields context)).1 := by
  simp only [outgoingOf, role]

end

/-- Starting a span changes nothing but providers and spans. -/
theorem startSpan_frame (tracer : Option Nat) (scope : Scope) (name : String) (kind : SpanKind)
    (attributes : List Attribute) :
    ∃ providers spans, (world.startSpan tracer scope parent name kind attributes).1 =
      { world with providers, spans } := by
  unfold startSpan
  split
  · exact ⟨world.providers, world.spans, rfl⟩
  · dsimp only
    split
    · exact ⟨_, world.spans, rfl⟩
    · exact ⟨_, _, rfl⟩

theorem startCall_eq :
    ∃ logs, world.startCall handler parent info =
      ({ (world.startSpan handler.tracer callScope parent (Method.parse info.fullMethod).1
            handler.role.spanKind (Method.identity info.fullMethod)).1 with logs },
        (world.startSpan handler.tracer callScope parent (Method.parse info.fullMethod).1
            handler.role.spanKind (Method.identity info.fullMethod)).2,
        handler.trackingOf info) := by
  unfold startCall Handler.trackingOf
  dsimp only
  split
  · exact ⟨_, rfl⟩
  · exact ⟨_, rfl⟩

/-- Tagging starts the span of the call and adds a fresh cell; all else that changes is the log. -/
theorem tag_eq :
    let started := world.startCallSpan handler parent rpc info
    ∃ logs, world.tag handler parent rpc info =
      ({ started.1 with cells := world.cells ++ [.fresh], logs },
        ⟨world.cells.length, handler.trackingOf info,
          { rpc with outgoing := world.outgoingOf handler rpc started.2 }, started.2⟩) := by
  unfold tag
  obtain ⟨logs, started⟩ := world.startCall_eq handler (world.parentOf handler parent rpc) info
  obtain ⟨providers, spans, frame⟩ := world.startSpan_frame (world.parentOf handler parent rpc)
    handler.tracer callScope (Method.parse info.fullMethod).1 handler.role.spanKind
    (Method.identity info.fullMethod)
  split
  · next policy role =>
    refine ⟨logs, ?_⟩
    simp only [tagServer, ← world.parentOf_of_server parent rpc role, started, addHandle, addCell,
      frame, world.outgoingOf_of_server rpc role, startCallSpan]
  · next role =>
    rw [world.parentOf_of_client parent rpc role] at started frame
    let fields := (handler.propagatorIn world.globals).fields
      (world.startCallSpan handler parent rpc info).2
    let rejected := (rpc.outgoing.inject fields).2.map Metadata.WriteError.entry
    refine ⟨logs ++ rejected.map (⟨·, false⟩), ?_⟩
    simp only [tagClient, started, log, addHandle, addCell, frame,
      world.outgoingOf_of_client rpc role, startCallSpan, world.parentOf_of_client parent rpc role,
      rejected, fields]

/-! ## The handle of a tagged call -/

theorem tracking_tag :
    (world.tag handler parent rpc info).2.tracking = handler.trackingOf info := by
  obtain ⟨logs, tagged⟩ := world.tag_eq handler parent rpc info
  rw [tagged]

theorem tracking_call_tag (accepted : handler.records info = true) :
    (handler.call (world.tag handler parent rpc info).2).tracking =
      .recorded (Method.identity info.fullMethod) := by
  show (world.tag handler parent rpc info).2.tracking = _
  rw [tracking_tag, Handler.trackingOf, if_pos accepted]

theorem peer_tag : (world.tag handler parent rpc info).2.rpc.peer = rpc.peer := by
  obtain ⟨logs, tagged⟩ := world.tag_eq handler parent rpc info
  rw [tagged]

theorem context_tag :
    (world.tag handler parent rpc info).2.context =
      (world.startCallSpan handler parent rpc info).2 := by
  obtain ⟨logs, tagged⟩ := world.tag_eq handler parent rpc info
  rw [tagged]

theorem outgoing_tag :
    (world.tag handler parent rpc info).2.rpc.outgoing =
      world.outgoingOf handler rpc (world.startCallSpan handler parent rpc info).2 := by
  obtain ⟨logs, tagged⟩ := world.tag_eq handler parent rpc info
  rw [tagged]

/-! ## The world of a tagged call -/

theorem knows_tag :
    (world.tag handler parent rpc info).1.Knows (world.tag handler parent rpc info).2 := by
  obtain ⟨logs, tagged⟩ := world.tag_eq handler parent rpc info
  rw [tagged]
  show world.cells.length < (world.cells ++ [Cell.fresh]).length
  rw [List.length_append, List.length_singleton]
  exact Nat.lt_succ_self _

theorem knows_detach (context : Context) :
    (world.detach rpc context).1.Knows (world.detach rpc context).2 := by
  show world.cells.length < (world.cells ++ [Cell.fresh]).length
  rw [List.length_append, List.length_singleton]
  exact Nat.lt_succ_self _

theorem cellOf_tag :
    (world.tag handler parent rpc info).1.cellOf (world.tag handler parent rpc info).2.cell =
      .fresh := by
  obtain ⟨logs, tagged⟩ := world.tag_eq handler parent rpc info
  rw [tagged]
  show ((world.cells ++ [Cell.fresh])[world.cells.length]?).getD .fresh = .fresh
  rw [List.getElem?_concat_length]
  rfl

theorem progressOf_tag :
    (world.tag handler parent rpc info).1.progressOf (world.tag handler parent rpc info).2 =
      ⟨.fresh, (world.tag handler parent rpc info).1.spanOf
        (world.tag handler parent rpc info).2.context⟩ :=
  congrArg (Progress.mk · _) (world.cellOf_tag handler parent rpc info)

theorem cell_tag : (world.tag handler parent rpc info).2.cell = world.cells.length := by
  obtain ⟨logs, tagged⟩ := world.tag_eq handler parent rpc info
  rw [tagged]

/-- Tagging adds a cell, and may change providers, spans and the log. -/
theorem tag_frame :
    ∃ providers spans logs, (world.tag handler parent rpc info).1 =
      { world with providers, spans, cells := world.cells ++ [.fresh], logs } := by
  obtain ⟨logs, tagged⟩ := world.tag_eq handler parent rpc info
  obtain ⟨providers, spans, frame⟩ := world.startSpan_frame (world.parentOf handler parent rpc)
    handler.tracer callScope (Method.parse info.fullMethod).1 handler.role.spanKind
    (Method.identity info.fullMethod)
  refine ⟨providers, spans, logs, ?_⟩
  rw [tagged, startCallSpan, frame]

theorem spans_tag :
    (world.tag handler parent rpc info).1.spans =
      (world.startCallSpan handler parent rpc info).1.spans := by
  obtain ⟨logs, tagged⟩ := world.tag_eq handler parent rpc info
  rw [tagged]

/-- Tagging measures nothing and exports nothing. -/
theorem outputs_tag :
    (world.tag handler parent rpc info).1.meters = world.meters ∧
      (world.tag handler parent rpc info).1.exported = world.exported := by
  obtain ⟨providers, spans, logs, frame⟩ := world.tag_frame handler parent rpc info
  rw [frame]
  exact ⟨rfl, rfl⟩

end World

/-! ## Started spans -/

namespace Provider

variable (provider : Provider) (parent : Context)

/-- The trace of the next span that a provider starts under a context. -/
def traceUnder : BitVec 128 :=
  match parent.active.map (·.identity) with
  | some above => above.trace
  | none => BitVec.ofNat 128 (provider.base + provider.traces + 1)

/-- Whether the next span that a provider starts under a context is recorded. -/
def samplesUnder : Bool :=
  provider.sampler.decide (parent.active.map (·.identity)) (provider.traceUnder parent)

/-- The identity of the next span that a provider starts under a context. -/
def identityUnder : SpanContext where
  trace := provider.traceUnder parent
  span := BitVec.ofNat 64 (provider.base + provider.spans + 1)
  flags := if provider.samplesUnder parent then parent.identity.flags ||| 1 else 0
  remote := false
  state := parent.identity.state

theorem isSampled_identityUnder :
    (provider.identityUnder parent).isSampled = provider.samplesUnder parent := by
  unfold identityUnder SpanContext.isSampled
  cases provider.samplesUnder parent <;> simp

variable {provider} {scope : Scope} {name : String} {kind : SpanKind} {attributes : List Attribute}

theorem start_of_dropped (dropped : provider.live = false) :
    provider.start scope parent name kind attributes = ⟨provider, .invalid, none⟩ := by
  simp [start, dropped]

/-- Whether spans are exported does not change when one is started. -/
theorem exporting_start :
    (provider.start scope parent name kind attributes).provider.exporting = provider.exporting := by
  unfold start
  split <;> rfl

/-- A live provider starts a span, and records it if it is sampled. -/
theorem start_of_live (live : provider.live = true) :
    let started := provider.start scope parent name kind attributes
    let identity := provider.identityUnder parent
    started.identity = identity ∧
      started.span = if identity.isSampled then some (Given.span
        ⟨name, kind, identity, parent.identity.span, attributes, [], .unset, scope⟩ provider.limits
        provider.exporting) else none := by
  dsimp only
  rw [isSampled_identityUnder, start, live]
  refine ⟨rfl, ?_⟩
  simp only [Given.start_eq_span]
  rfl

end Provider

namespace World

variable (world : World) (handler : Handler) (parent : Context) (rpc : CallContext)
  (info : CallInfo) {tracer : Nat} {provider : Provider}

/-- What the span of a call is given by its tagging. -/
def givenAtStart (identity : SpanContext) : Given :=
  ⟨(Method.parse info.fullMethod).1, handler.role.spanKind, identity,
    (world.parentOf handler parent rpc).identity.span, Method.identity info.fullMethod, [], .unset,
    callScope⟩

theorem startCallSpan_of_found (traced : handler.tracer = some tracer)
    (found : world.providers[tracer]? = some provider) :
    world.startCallSpan handler parent rpc info =
      let started := provider.start callScope (world.parentOf handler parent rpc)
        (Method.parse info.fullMethod).1 handler.role.spanKind (Method.identity info.fullMethod)
      let world := { world with providers := world.providers.set tracer started.provider }
      match started.span with
      | none => (world, ⟨some ⟨started.identity, none⟩⟩)
      | some span =>
        ({ world with spans := world.spans ++ [⟨tracer, span⟩] },
          ⟨some ⟨started.identity, some world.spans.length⟩⟩) := by
  unfold startCallSpan startSpan
  split
  · next missing => simp [traced, found] at missing
  · next index other there =>
    obtain ⟨rfl, rfl⟩ : tracer = index ∧ provider = other := by simpa [traced, found] using there
    rfl

theorem startCallSpan_of_dropped (traced : handler.tracer = some tracer)
    (found : world.providers[tracer]? = some provider) (dropped : provider.live = false) :
    (world.startCallSpan handler parent rpc info).2 = ⟨some ⟨.invalid, none⟩⟩ := by
  rw [world.startCallSpan_of_found handler parent rpc info traced found,
    Provider.start_of_dropped _ dropped]

/-- With a live provider the span of a call is started. If it is sampled it has the last record of
all, and was given the attributes of the method only. -/
theorem startCallSpan_of_live (traced : handler.tracer = some tracer)
    (found : world.providers[tracer]? = some provider) (live : provider.live = true) :
    let started := world.startCallSpan handler parent rpc info
    let identity := provider.identityUnder (world.parentOf handler parent rpc)
    started.2 =
        ⟨some ⟨identity, if identity.isSampled then some world.spans.length else none⟩⟩ ∧
      started.1.spans = if identity.isSampled then world.spans ++
        [⟨tracer, (world.givenAtStart handler parent rpc info identity).span provider.limits
          provider.exporting⟩] else world.spans := by
  dsimp only
  rw [world.startCallSpan_of_found handler parent rpc info traced found]
  obtain ⟨identity, span⟩ := Provider.start_of_live (world.parentOf handler parent rpc) live
  dsimp only
  rw [identity, span]
  -- Only a sampled span gets a record.
  by_cases sampled : (provider.identityUnder (world.parentOf handler parent rpc)).isSampled = true
  · simp only [if_pos sampled]
    exact ⟨trivial, rfl⟩
  · simp only [if_neg sampled]
    exact ⟨trivial, trivial⟩

/-- If all providers export, they still do when a call is tagged. -/
theorem exporting_tag (all : ∀ provider ∈ world.providers, provider.exporting = true) :
    ∀ provider ∈ (world.tag handler parent rpc info).1.providers, provider.exporting = true := by
  obtain ⟨logs, tagged⟩ := world.tag_eq handler parent rpc info
  rw [tagged]
  show ∀ provider ∈ (world.startCallSpan handler parent rpc info).1.providers, _
  unfold startCallSpan startSpan
  split
  · exact all
  · next tracer provider there =>
    obtain ⟨index, -, there⟩ := Option.bind_eq_some_iff.1 there
    obtain ⟨former, found, numbered⟩ := Option.map_eq_some_iff.1 there
    obtain ⟨rfl, rfl⟩ := Prod.mk.inj numbered
    have replaced {next : Provider} (same : next.exporting = former.exporting) :
        ∀ other ∈ world.providers.set index next, other.exporting = true := by
      intro other inside
      rcases List.mem_or_eq_of_mem_set inside with old | rfl
      · exact all other old
      · exact same.trans (all former (List.mem_of_getElem? found))
    dsimp only
    split
    · exact replaced (Provider.exporting_start _)
    · exact replaced (Provider.exporting_start _)

/-- Either the span of a call has the last record of all, or it has none. -/
theorem startCallSpan_cases :
    let started := world.startCallSpan handler parent rpc info
    (∃ tracer provider, handler.tracer = some tracer ∧
        world.providers[tracer]? = some provider ∧
        started.2.identity.isSampled = true ∧ started.2.record? = some world.spans.length ∧
        started.1.spans = world.spans ++
          [⟨tracer, (world.givenAtStart handler parent rpc info started.2.identity).span
            provider.limits provider.exporting⟩]) ∨
      (started.2.record? = none ∧ started.1.spans = world.spans) := by
  intro started
  cases found : handler.tracer.bind fun index => (world.providers[index]?).map (index, ·) with
  | none =>
    refine .inr ?_
    simp only [started, startCallSpan, startSpan, found]
    exact ⟨rfl, trivial⟩
  | some numbered =>
    obtain ⟨tracer, traced, there⟩ := Option.bind_eq_some_iff.1 found
    obtain ⟨provider, there, -⟩ := Option.map_eq_some_iff.1 there
    cases live : provider.live with
    | false =>
      refine .inr ?_
      simp only [started, world.startCallSpan_of_found handler parent rpc info traced there,
        Provider.start_of_dropped _ live]
      exact ⟨rfl, trivial⟩
    | true =>
      obtain ⟨context, spans⟩ :=
        world.startCallSpan_of_live handler parent rpc info traced there live
      change started.2 = _ at context
      change started.1.spans = _ at spans
      rw [context, spans]
      by_cases sampled :
          (provider.identityUnder (world.parentOf handler parent rpc)).isSampled = true
      · simp only [if_pos sampled]
        exact .inl ⟨tracer, provider, traced, there, sampled, rfl, rfl⟩
      · simp only [if_neg sampled]
        exact .inr ⟨rfl, trivial⟩

/-- Tagging may add records, and the record of the call, if it has one, is among these. -/
theorem spans_tag_append :
    let tagged := world.tag handler parent rpc info
    ∃ new, tagged.1.spans = world.spans ++ new ∧
      ∀ index, tagged.2.context.record? = some index →
        world.spans.length ≤ index ∧ index < world.spans.length + new.length := by
  intro tagged
  have spans := world.spans_tag handler parent rpc info
  have context : tagged.2.context = (world.startCallSpan handler parent rpc info).2 :=
    world.context_tag handler parent rpc info
  rw [context]
  rcases world.startCallSpan_cases handler parent rpc info with
    ⟨tracer, provider, -, -, -, last, added⟩ | ⟨none, same⟩
  · refine ⟨_, spans.trans added, fun index here => ?_⟩
    obtain rfl := Option.some.inj (last.symm.trans here)
    exact ⟨Nat.le_refl _, Nat.lt_succ_self _⟩
  · refine ⟨[], (spans.trans same).trans (List.append_nil _).symm, fun index here => ?_⟩
    exact absurd (none.symm.trans here) nofun

/-- The span of a sampled call: it was started by the provider of the handler and was given the
attributes of the method. -/
theorem span_tag (traced : handler.tracer = some tracer)
    (found : world.providers[tracer]? = some provider)
    (sampled : (world.tag handler parent rpc info).2.context.identity.isSampled = true) :
    let tagged := world.tag handler parent rpc info
    tagged.1.starterOf tagged.2.context = some tracer ∧
      tagged.1.spanOf tagged.2.context =
        (world.givenAtStart handler parent rpc info tagged.2.context.identity).span provider.limits
          provider.exporting := by
  dsimp only
  rw [context_tag] at sampled ⊢
  cases live : provider.live with
  | false =>
    rw [world.startCallSpan_of_dropped handler parent rpc info traced found live] at sampled
    cases sampled
  | true =>
    obtain ⟨started, spans⟩ :=
      world.startCallSpan_of_live handler parent rpc info traced found live
    rw [started] at sampled ⊢
    have sampled : (provider.identityUnder (world.parentOf handler parent rpc)).isSampled = true :=
      sampled
    unfold starterOf spanOf
    rw [spans_tag, spans, if_pos sampled]
    simp only [Context.record?, if_pos sampled, Option.bind_some, List.getElem?_concat_length]
    exact ⟨rfl, rfl⟩

/-- A tagged call has the span that it was given at its start, or one that records nothing. -/
theorem span_tag_cases :
    let tagged := world.tag handler parent rpc info
    (∃ (tracer : Nat) (provider : Provider), tagged.1.starterOf tagged.2.context = some tracer ∧
        tagged.1.spanOf tagged.2.context =
          (world.givenAtStart handler parent rpc info tagged.2.context.identity).span
            provider.limits provider.exporting) ∨
      (tagged.1.spanOf tagged.2.context).data = none := by
  intro tagged
  rcases world.startCallSpan_cases handler parent rpc info with
    ⟨tracer, provider, traced, found, sampled, -, -⟩ | ⟨unrecorded, -⟩
  · rw [← context_tag] at sampled
    exact .inl ⟨tracer, provider, world.span_tag handler parent rpc info traced found sampled⟩
  · rw [← context_tag] at unrecorded
    refine .inr ?_
    rw [spanOf, show tagged.2.context.record? = none from unrecorded]
    rfl

/-! ## Whole calls -/

variable {before : List Delivery} {last : Delivery} {completion : Completion}

/-- What a recorded call gives out from its tagging to its end: the measurements that the account of
its events comes to, and what a span that was recording has been given. -/
theorem outputs_of_accepted (accepted : handler.records info = true)
    (clones : ∀ delivery ∈ before ++ [last],
      (world.tag handler parent rpc info).2.IsClone delivery.handle)
    (early : ∀ delivery ∈ before, delivery.event.isEnd = false)
    (ended : last.event.occurrence = .ended completion) :
    let tagged := world.tag handler parent rpc info
    let call := handler.call tagged.2
    let events := before.map (·.event)
    let outcome := handler.role.outcome completion.failure
    (tagged.1.deliverAll handler (before ++ [last])).meters =
        Meter.recordAt world.meters handler.meter (call.sizes (Event.messages events) ++
          call.summary completion (call.cellAfter (Event.messages events))) ∧
      ∀ {given : Given} {limits : SpanLimits}, given.status = .unset →
        tagged.1.spanOf tagged.2.context = given.span limits true →
          (tagged.1.deliverAll handler (before ++ [last])).exported =
            world.exported ++ ExportedSpan.ofProvider (tagged.1.starterOf tagged.2.context)
              [(((call.givenAfter given events).addAttributes
                [outcome.code.attribute]).withStatus outcome.status).within limits] := by
  intro tagged call events outcome
  have followed : call.tracking.isFiltered = false := by
    rw [world.tracking_call_tag handler parent rpc info accepted]
    rfl
  have known := world.knows_tag handler parent rpc info
  have earlyEvents : ∀ event ∈ events, event.isEnd = false := List.forall_mem_map.2 early
  obtain ⟨meters, exported⟩ := world.outputs_tag handler parent rpc info
  obtain ⟨measured, spans⟩ := Call.run_whole followed earlyEvents ended
    (tagged.1.spanOf tagged.2.context)
  constructor
  · rw [meters_deliverAll _ handler known clones, meters, progressOf_tag, List.map_append,
      List.map_singleton, measured]
  · intro given limits unset started
    rw [exported_deliverAll _ handler known clones, exported, progressOf_tag, List.map_append,
      List.map_singleton, spans unset started]
    rfl

end World

/-! ## A sample process (used by the concrete calls in other modules) -/

namespace Sample

/-- A process with one tracer provider and one meter. -/
def world : World :=
  { World.empty with providers := [.ofSettings .always .standard], meters := [.fresh] }

/-- A server handler with that provider and that meter. -/
def server : Handler := ⟨.server .standard, some 0, some 0, none, none⟩

/-- A call from a known peer. -/
def rpc : CallContext := ⟨.empty, .empty, some ⟨"10.0.0.7:443"⟩⟩

/-- A call of a method that exists. -/
def info : CallInfo := ⟨"/users.Directory/Lookup", true⟩

/-- A message of five bytes that comes in. -/
def request : Event := ⟨false, .message .inbound ⟨none, 5, 5, 10⟩⟩

/-- The end of a call that went well. -/
def success : Completion := ⟨.epoch, .epoch, .empty, none⟩

/-- The handle of a tagged call. -/
def handle : Handle := (world.tag server .empty rpc info).2

/-- The message through a clone of the handle. -/
def before : List Delivery := [⟨handle.clone, request⟩]

/-- The end through the handle itself. -/
def last : Delivery := ⟨handle, ⟨false, .ended success⟩⟩

theorem isClone_of_mem :
    ∀ delivery ∈ before ++ [last], handle.IsClone delivery.handle :=
  List.forall_mem_cons.2 ⟨.clone .self, List.forall_mem_singleton.2 .self⟩

end Sample

end RpcTelemetry
