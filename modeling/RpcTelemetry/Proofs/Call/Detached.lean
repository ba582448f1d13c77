import RpcTelemetry.Proofs.Call.Exported
import RpcTelemetry.Proofs.Call.Following

/-!
# Detached handles

Result: `detached_as_recorded`. A call that was tagged, recorded or not, is followed through a
detached handle made of the parts of its own. Its span is exported at the same event as that of the
recorded call and with the same content, up to the ordinals of messages, which are all 0; of the
measurements there is the duration only. Forgetting ordinals (`withoutOrdinals`) goes along with
all that a span is given and with the cut to its limits.
-/

namespace RpcTelemetry

/-- An attribute, with 0 for an ordinal. -/
def Attribute.withoutOrdinal (item : Attribute) : Attribute :=
  if item.key = "message.id" then ⟨item.key, .int 0⟩ else item

/-- An event of a span, with 0 for the ordinal of its message. -/
def SpanEvent.withoutOrdinal (event : SpanEvent) : SpanEvent :=
  { event with attributes := event.attributes.map Attribute.withoutOrdinal }

/-- The content of a span, with 0 for the ordinals of its messages. -/
def SpanData.withoutOrdinals (data : SpanData) : SpanData :=
  { data with events := data.events.map SpanEvent.withoutOrdinal }

/-- An exported span, with 0 for the ordinals of its messages. -/
def ExportedSpan.withoutOrdinals (span : ExportedSpan) : ExportedSpan :=
  { span with data := span.data.withoutOrdinals }

/-- All that a span was given, with 0 for the ordinals of its messages. -/
def Given.withoutOrdinals (given : Given) : Given :=
  { given with
    events := given.events.map fun (name, attributes) =>
      (name, attributes.map Attribute.withoutOrdinal) }

/-- All that the span of a detached call is given, read off its events: no message has an
ordinal. -/
def Role.uncountedSpanOf (role : Role) (fullMethod : String) (peer : Option Peer)
    (context : SpanContext) (parent : BitVec 64) (before : List Event) (completion : Completion) :
    Given :=
  { role.spanOf fullMethod peer context parent before completion with
    events := (Event.messages before).map fun (direction, message) =>
      ("message", message.eventAttributes direction 0) }

open ExportedLemmas

namespace DetachedLemmas

theorem within_withoutOrdinals (given : Given) (limits : SpanLimits) :
    given.withoutOrdinals.within limits = (given.within limits).withoutOrdinals := by
  have cut : ∀ event : String × List Attribute,
      Given.eventWithin limits.eventAttributes
          (event.1, event.2.map Attribute.withoutOrdinal) =
        (Given.eventWithin limits.eventAttributes event).withoutOrdinal := by
    intro event
    simp only [Given.eventWithin, SpanEvent.withoutOrdinal, List.map_take, List.length_map]
  simp only [Given.within, Given.withoutOrdinals, SpanData.withoutOrdinals, List.map_map,
    List.map_take, List.length_map]
  congr 2
  exact List.map_congr_left fun event _ => cut event

/-- Of the attributes of a message, only the ordinal is forgotten. -/
theorem attributes_withoutOrdinal (message : Message) (direction : Direction) (ordinal : UInt64)
    (text : String) :
    (message.attributes direction ordinal text).map Attribute.withoutOrdinal =
      message.attributes direction 0 text := by
  cases direction <;> rfl

variable {recorded detached : Call}

theorem entries_detached (uncounted : detached.tracking = .detached)
    (messages : List (Direction × Message)) :
    detached.entries messages = messages.map fun (direction, message) =>
      (Convention.messageEvent,
        message.attributes direction 0 (Payload.text message.payload).1) := by
  refine List.ext_getElem (by simp [Call.entries]) fun index _ _ => ?_
  simp only [Call.entries, List.getElem_map, List.getElem_mapIdx, Call.entry, Call.tally, uncounted]
  rfl

/-- Whatever the ordinals of the recorded call, without them they are those of the detached one. -/
theorem entries_withoutOrdinal (uncounted : detached.tracking = .detached)
    (messages : List (Direction × Message)) :
    (recorded.entries messages).map
        (fun (name, attributes) => (name, attributes.map Attribute.withoutOrdinal)) =
      detached.entries messages := by
  rw [entries_detached uncounted]
  refine List.ext_getElem (by simp [Call.entries]) fun index _ _ => ?_
  simp only [Call.entries, List.getElem_map, List.getElem_mapIdx, Call.entry,
    attributes_withoutOrdinal]

/-- What is given to the span of a detached call before its end is what the recorded call gives,
without ordinals. -/
theorem givenAfter_withoutOrdinals (uncounted : detached.tracking = .detached)
    (samePeer : detached.peer = recorded.peer) {given : Given} (eventless : given.events = [])
    (before : List Event) :
    detached.givenAfter given before = (recorded.givenAfter given before).withoutOrdinals := by
  have headers : detached.headerAttributes = recorded.headerAttributes := by
    funext event
    simp only [Call.headerAttributes, samePeer]
  simp only [Call.givenAfter, Given.withoutOrdinals, headers, eventless, List.nil_append,
    entries_withoutOrdinal uncounted]

/-- A detached call gives out the span at the same event as the recorded one, without ordinals. -/
theorem spans_run_withoutOrdinals (followed : recorded.tracking.isFiltered = false)
    (uncounted : detached.tracking = .detached) (sameRole : detached.role = recorded.role)
    (samePeer : detached.peer = recorded.peer) {given : Given} (unset : given.status = .unset)
    (eventless : given.events = []) (limits : SpanLimits) (exporting : Bool)
    (events : List Event) :
    let start : Progress := ⟨.fresh, given.span limits exporting⟩
    (detached.run events start).2.spans =
      (recorded.run events start).2.spans.map SpanData.withoutOrdinals := by
  intro start
  cases first : Event.firstEnd? events with
  | none =>
    have early := Event.early_of_firstEnd?_eq_none first
    rw [(detached.spans_run_early early start).1, (recorded.spans_run_early early start).1]
    rfl
  | some completion =>
    obtain ⟨before, last, after, rfl, early, ended⟩ := Event.split_of_firstEnd? first
    have unfiltered : detached.tracking.isFiltered = false := by rw [uncounted]; rfl
    rw [Call.run_recorded followed unset early ended,
      Call.run_recorded unfiltered unset early ended, sameRole,
      givenAfter_withoutOrdinals uncounted samePeer eventless]
    cases exporting with
    | false => rfl
    | true =>
      let outcome := recorded.role.outcome completion.failure
      exact congrArg (fun data => [data]) (within_withoutOrdinals
        (((recorded.givenAfter given before).addAttributes [outcome.code.attribute]).withStatus
          outcome.status) limits)

theorem ofProvider_withoutOrdinals (provider : Option Nat) (spans : List SpanData) :
    ExportedSpan.ofProvider provider (spans.map SpanData.withoutOrdinals) =
      (ExportedSpan.ofProvider provider spans).map ExportedSpan.withoutOrdinals := by
  cases provider with
  | none => rfl
  | some index =>
    simp only [ExportedSpan.ofProvider, List.map_map]
    rfl

/-- All that the span of a detached call is given up to its end. -/
theorem account_eq_uncountedSpanOf (uncounted : detached.tracking = .detached)
    (fullMethod : String) (context : SpanContext) (parent : BitVec 64) (before : List Event)
    (completion : Completion) :
    let outcome := detached.role.outcome completion.failure
    let given : Given := ⟨(Method.parse fullMethod).1, detached.role.spanKind, context, parent,
      Method.identity fullMethod, [], .unset, callScope⟩
    ((detached.givenAfter given before).addAttributes [outcome.code.attribute]).withStatus
        outcome.status =
      detached.role.uncountedSpanOf fullMethod detached.peer context parent before completion := by
  intro outcome given
  have entries : detached.entries (Event.messages before) =
      (Event.messages before).map fun (direction, message) =>
        ("message", message.eventAttributes direction 0) := by
    rw [entries_detached uncounted]
    refine List.map_congr_left fun (direction, message) _ => ?_
    exact congrArg (Prod.mk Convention.messageEvent)
      (attributes_ofNat message direction (show 0 < UInt64.size by decide))
  simp only [Role.uncountedSpanOf, ← entries]
  rw [Code.attribute, Role.number_outcome]
  rfl

/-! ## Measurements -/

theorem name_duration (role : Role) :
    InstrumentSpec.name .duration role.label = "rpc." ++ role.label ++ ".duration" := by
  cases role <;> rfl

/-- Of a detached call there is the duration, and nothing else. -/
theorem measurements_detached (uncounted : detached.tracking = .detached) (events : List Event)
    (span : Span) :
    (detached.run events ⟨.fresh, span⟩).2.measurements =
      match Event.firstEnd? events with
      | none => []
      | some completion =>
        [⟨"rpc." ++ detached.role.label ++ ".duration", some "ms",
          .real (Elapsed.between completion.start completion.stop).toMillis.toBits,
          [⟨"rpc.grpc.status_code", .int completion.codeNumber⟩]⟩] := by
  rw [Call.measurements_run, Call.sizes, uncounted]
  cases Event.firstEnd? events with
  | none => rfl
  | some completion =>
    simp only [Call.summary, uncounted, Call.measure, name_duration, Code.attribute,
      Role.number_outcome]
    rfl

/-- A recorded call has one duration among its measurements, the same. -/
theorem durations_recorded {identity : List Attribute}
    (counted : recorded.tracking = .recorded identity) (events : List Event) (span : Span) :
    ((recorded.run events ⟨.fresh, span⟩).2.measurements.filter
        (·.instrument = "rpc." ++ recorded.role.label ++ ".duration")).map (·.value) =
      match Event.firstEnd? events with
      | none => []
      | some completion =>
        [.real (Elapsed.between completion.start completion.stop).toMillis.toBits] := by
  have sizes : ∀ direction : Direction, direction.sizeSpec.name recorded.role.label ≠
      InstrumentSpec.name .duration recorded.role.label := fun direction same =>
    direction.suffix_sizeSpec_ne (by simp [InstrumentSpec.name_inj.1 same, InstrumentSpec.duration])
  have requests : InstrumentSpec.name .requestsPerRpc recorded.role.label ≠
      InstrumentSpec.name .duration recorded.role.label := mt InstrumentSpec.name_inj.1 (by decide)
  have responses : InstrumentSpec.name .responsesPerRpc recorded.role.label ≠
      InstrumentSpec.name .duration recorded.role.label := mt InstrumentSpec.name_inj.1 (by decide)
  rw [Call.measurements_run, Call.sizes, counted, ← name_duration, List.filter_append,
    List.filter_eq_nil_iff.2 (List.forall_mem_map.2 fun report _ inside =>
      sizes report.1 (of_decide_eq_true inside))]
  cases Event.firstEnd? events with
  | none => rfl
  | some completion =>
    simp [Call.summary, counted, Call.measure, requests, responses]

end DetachedLemmas

open DetachedLemmas FilteringLemmas

namespace World

variable {world : World} {handler : Handler} {parent : Context} {rpc : CallContext}
  {info : CallInfo}

/-- Tagging starts the same span, whatever the filter. -/
theorem span_tag_unfiltered :
    let tagged := world.tag handler parent rpc info
    let recorded := world.tag { handler with filter := none } parent rpc info
    tagged.2.context = recorded.2.context ∧ tagged.1.spans = recorded.1.spans := by
  intro tagged recorded
  constructor
  · exact (world.context_tag handler parent rpc info).trans
      (world.context_tag { handler with filter := none } parent rpc info).symm
  · exact (world.spans_tag handler parent rpc info).trans
      (world.spans_tag { handler with filter := none } parent rpc info).symm

/-- The events of a recorded call, and of one that is detached from its tagging, are runs from the
same progress. -/
theorem runs_of_detached (events : List Event) :
    let recording := { handler with filter := none }
    let recorded := world.tag recording parent rpc info
    let tagged := world.tag handler parent rpc info
    let detached := tagged.1.detach tagged.2.rpc tagged.2.context
    let afterRecorded := recorded.1.deliverEvents recording recorded.2 events
    let afterDetached := detached.1.deliverEvents handler detached.2 events
    let start : Progress := ⟨.fresh, recorded.1.spanOf recorded.2.context⟩
    let starter := recorded.1.starterOf recorded.2.context
    let identity := Method.identity info.fullMethod
    let counting := (Call.mk handler.role (.recorded identity) rpc.peer).run events start
    let uncounting := (Call.mk handler.role .detached rpc.peer).run events start
    (afterRecorded.spanOf recorded.2.context = counting.1.span ∧
        afterRecorded.exported =
          world.exported ++ ExportedSpan.ofProvider starter counting.2.spans ∧
        afterRecorded.meters =
          Meter.recordAt world.meters handler.meter counting.2.measurements) ∧
      afterDetached.spanOf detached.2.context = uncounting.1.span ∧
        afterDetached.exported =
          world.exported ++ ExportedSpan.ofProvider starter uncounting.2.spans ∧
        afterDetached.meters =
          Meter.recordAt world.meters handler.meter uncounting.2.measurements := by
  intro recording recorded tagged detached afterRecorded afterDetached start starter identity
    counting uncounting
  obtain ⟨context, spans⟩ : tagged.2.context = recorded.2.context ∧
      tagged.1.spans = recorded.1.spans := span_tag_unfiltered
  have sameSpan : tagged.1.spanOf tagged.2.context = start.span := by
    simp only [spanOf, context, spans, start]
  have sameStarter : tagged.1.starterOf tagged.2.context = starter := by
    simp only [starterOf, context, spans, starter]
  obtain ⟨recordedEnd, recordedExports, recordedMeters⟩ :=
    world.deliverEvents_follow recording parent rpc info .tagged events
  obtain ⟨detachedEnd, detachedExports, detachedMeters⟩ :=
    tagged.1.deliverEvents_follow handler parent tagged.2.rpc info (.detached tagged.2.context)
      events
  refine ⟨⟨congrArg Progress.span recordedEnd, recordedExports, recordedMeters⟩, ?_⟩
  -- A detached handle is of the context and the peer of the tagged one.
  let outcome := (Call.mk handler.role .detached tagged.2.rpc.peer).run events
    ⟨.fresh, tagged.1.spanOf tagged.2.context⟩
  have same : outcome = uncounting := by
    simp only [outcome, sameSpan, world.peer_tag handler parent rpc info, tagged]
    rfl
  change afterDetached.progressOf detached.2 = outcome.1 at detachedEnd
  change afterDetached.exported = tagged.1.exported ++
    ExportedSpan.ofProvider (tagged.1.starterOf tagged.2.context) outcome.2.spans at detachedExports
  change afterDetached.meters =
    Meter.recordAt tagged.1.meters handler.meter outcome.2.measurements at detachedMeters
  obtain ⟨meters, exported⟩ := world.outputs_tag handler parent rpc info
  rw [same] at detachedEnd
  rw [same, exported, sameStarter] at detachedExports
  rw [same, meters] at detachedMeters
  exact ⟨congrArg Progress.span detachedEnd, detachedExports, detachedMeters⟩

/-- A tagged call, recorded or not, that is followed through a detached handle made of the parts of
its own, against the same call when it is recorded, after the same events: its span is exported at
the same event with the same content, except that no message has an ordinal. Of the measurements
there is the duration with its value, and with the status code as its only attribute. In
particular the messages, the peer and the duration of a filtered call are told again. -/
theorem detached_as_recorded (events : List Event) :
    let recording := { handler with filter := none }
    let recorded := world.tag recording parent rpc info
    let tagged := world.tag handler parent rpc info
    let detached := tagged.1.detach tagged.2.rpc tagged.2.context
    let afterRecorded := recorded.1.deliverEvents recording recorded.2 events
    let afterDetached := detached.1.deliverEvents handler detached.2 events
    let duration := "rpc." ++ handler.role.label ++ ".duration"
    (∃ spans, afterRecorded.exported = world.exported ++ spans ∧
        afterDetached.exported = world.exported ++ spans.map ExportedSpan.withoutOrdinals) ∧
      (afterDetached.spanOf detached.2.context).isRecording =
        (afterRecorded.spanOf recorded.2.context).isRecording ∧
      (∃ counted measured,
        afterRecorded.meters = Meter.recordAt world.meters handler.meter counted ∧
        afterDetached.meters = Meter.recordAt world.meters handler.meter measured ∧
        match Event.firstEnd? events with
        | none => measured = []
        | some completion => ∃ value,
          (counted.filter (·.instrument = duration)).map (·.value) = [value] ∧
          measured = [⟨duration, some "ms", value,
            [⟨"rpc.grpc.status_code", .int completion.codeNumber⟩]⟩]) ∧
      ∀ tracer provider completion, handler.tracer = some tracer →
        world.providers[tracer]? = some provider →
        detached.2.context.identity.isSampled = true →
        Event.firstEnd? events = some completion →
        let content := handler.role.uncountedSpanOf info.fullMethod rpc.peer
          detached.2.context.identity (world.parentOf handler parent rpc).identity.span
          (Event.beforeEnd events) completion
        afterDetached.exported = world.exported ++
          if provider.exporting then [⟨tracer, content.within provider.limits⟩] else [] := by
  intro recording recorded tagged detached afterRecorded afterDetached duration
  let counting : Call := ⟨handler.role, .recorded (Method.identity info.fullMethod), rpc.peer⟩
  let uncounting : Call := ⟨handler.role, .detached, rpc.peer⟩
  obtain ⟨⟨recordedSpan, recordedExports, recordedMeters⟩, detachedSpan, detachedExports,
    detachedMeters⟩ := @runs_of_detached world handler parent rpc info events
  refine ⟨⟨_, recordedExports, ?_⟩, ?_, ⟨_, _, recordedMeters, detachedMeters, ?_⟩, ?_⟩
  · rw [detachedExports, ← ofProvider_withoutOrdinals]
    congr 2
    rcases world.span_tag_cases recording parent rpc info with ⟨_, provider, -, given⟩ | inert
    · rw [given]
      exact @spans_run_withoutOrdinals counting uncounting rfl rfl rfl rfl _ rfl rfl _ _ events
    · rw [Call.spans_run_of_over _ inert, Call.spans_run_of_over _ inert]
      rfl
  · rw [recordedSpan, detachedSpan, Call.isRecording_run _ rfl, Call.isRecording_run _ rfl]
  · have measured := @measurements_detached uncounting rfl events
      (recorded.1.spanOf recorded.2.context)
    have durations := @durations_recorded counting _ rfl events
      (recorded.1.spanOf recorded.2.context)
    cases first : Event.firstEnd? events with
    | none =>
      rw [first] at measured
      exact measured
    | some completion =>
      rw [first] at measured durations
      exact ⟨_, durations, measured⟩
  · intro tracer provider completion traced found sampled first content
    have context : tagged.2.context = recorded.2.context := span_tag_unfiltered.1
    change tagged.2.context.identity.isSampled = true at sampled
    rw [context] at sampled
    obtain ⟨starter, given⟩ := world.span_tag recording parent rpc info traced found sampled
    obtain ⟨before, last, after, parted, reached, early, ended⟩ := Event.parted_of_firstEnd? first
    have told : handler.role.uncountedSpanOf info.fullMethod rpc.peer recorded.2.context.identity
        (world.parentOf handler parent rpc).identity.span before completion = content := by
      rw [← context, ← reached]
      rfl
    rw [detachedExports, starter, given, parted, Call.run_recorded rfl rfl early ended,
      ofProvider_exported, ← told, ← @account_eq_uncountedSpanOf uncounting rfl]
    rfl

/-- A filtered call, detached, with headers and a request before its end. -/
theorem detached_sample_call :
    let refusing := { Sample.server with filter := some fun _ => false }
    let tagged := Sample.world.tag refusing .empty Sample.rpc Sample.info
    let detached := tagged.1.detach tagged.2.rpc tagged.2.context
    let after := detached.1.deliverEvents refusing detached.2
      [⟨false, .header .outbound .empty⟩, Sample.request, ⟨false, .ended Sample.success⟩]
    after.exported = [⟨0, {
        name := "users.Directory/Lookup"
        kind := .server
        context := ⟨1, 1, 1, false, .empty⟩
        parent := 0
        attributes := [⟨"rpc.service", .text "users.Directory"⟩, ⟨"rpc.method", .text "Lookup"⟩,
          ⟨"rpc.system", .text "grpc"⟩, ⟨"net.sock.peer.addr", .text "10.0.0.7"⟩,
          ⟨"net.sock.peer.port", .int 443⟩, ⟨"rpc.grpc.status_code", .int 0⟩]
        droppedAttributes := 0
        events := [⟨"message", [⟨"message.type", .text "RECEIVED"⟩, ⟨"message.id", .int 0⟩,
          ⟨"message.compressed_size", .int 5⟩, ⟨"message.uncompressed_size", .int 5⟩,
          ⟨"request", .text "null"⟩], 0⟩]
        droppedEvents := 0
        status := .unset
        scope := ⟨"spark-otel-rpc", "0.1.0"⟩ }⟩] ∧
      ∃ value, after.meters =
        [⟨[⟨"rpc.server.duration", some "ms", value, [⟨"rpc.grpc.status_code", .int 0⟩]⟩]⟩] := by
  have named : Method.parse "/users.Directory/Lookup" = ("users.Directory/Lookup",
      [⟨"rpc.service", .text "users.Directory"⟩, ⟨"rpc.method", .text "Lookup"⟩]) := by decide
  have peer : (Peer.mk "10.0.0.7:443").attributes.1 =
      [⟨"net.sock.peer.addr", .text "10.0.0.7"⟩, ⟨"net.sock.peer.port", .int 443⟩] := by decide
  obtain ⟨-, -, ⟨_, measured, -, meters, value, -, alone⟩, content⟩ :=
    @detached_as_recorded Sample.world { Sample.server with filter := some fun _ => false } .empty
      Sample.rpc Sample.info
      [⟨false, .header .outbound .empty⟩, Sample.request, ⟨false, .ended Sample.success⟩]
  refine ⟨(content 0 _ _ rfl rfl rfl rfl).trans ?_, value, ?_⟩
  · have before : Event.beforeEnd
        [⟨false, .header .outbound .empty⟩, Sample.request, ⟨false, .ended Sample.success⟩] =
          [⟨false, .header .outbound .empty⟩, Sample.request] := rfl
    simp only [Role.uncountedSpanOf, Role.spanOf, before, List.flatMap_cons,
      show Sample.info.fullMethod = "/users.Directory/Lookup" from rfl, named,
      show Sample.rpc.peer = some ⟨"10.0.0.7:443"⟩ from rfl, peer]
    rfl
  · rw [meters, alone]
    rfl

end World

end RpcTelemetry
