import Mathlib.Data.List.Forall2
import RpcTelemetry.Proofs.Call.Closing
import RpcTelemetry.Proofs.World.Tagging

/-!
# Filtered calls

A call that the filter refuses is compared with the same call when it is accepted. Two different
branches close their spans (`Call.run_filtered`, `Call.run_recorded`).

Results:
1. `tag_withFilter`: both are tagged alike; `World.span_tag_refused`: they start with the same span.
2. `World.refused_closing`: both close their span at the same event with the same outcome.
3. `World.refused_unmeasured`: of the refused call nothing is measured and nothing is counted.
4. `World.refused_content`: its span is given nothing after its start but its outcome.
5. `World.filtering_changes_recording_only`: all of this after any events.
-/

namespace RpcTelemetry

/-- What an exported span tells however much of its call was recorded. The status code is compared
where no limit has cut the attributes. -/
structure ExportedSpan.SameClosing (recorded filtered : ExportedSpan) : Prop where
  provider : recorded.provider = filtered.provider
  context : recorded.data.context = filtered.data.context
  parent : recorded.data.parent = filtered.data.parent
  name : recorded.data.name = filtered.data.name
  kind : recorded.data.kind = filtered.data.kind
  status : recorded.data.status = filtered.data.status
  code : recorded.data.droppedAttributes = 0 →
    recorded.data.attributes.filter (·.key = "rpc.grpc.status_code") =
      filtered.data.attributes.filter (·.key = "rpc.grpc.status_code")

/-- Delivers events one after another through one handle. -/
def World.deliverEvents (world : World) (handler : Handler) (handle : Handle)
    (events : List Event) : World :=
  world.deliverAll handler (events.map (⟨handle, ·⟩))

namespace Call

variable {call : Call} {progress : Progress}

/-- An event of a filtered call does nothing unless it is the end. -/
theorem deliver_of_filtered {identity : List Attribute}
    (filtered : call.tracking = .filtered identity) (isOpen : progress.cell.ended = false)
    (event : Event) :
    call.deliver event progress =
      match event.completion? with
      | none => (progress, .none)
      | some completion => call.close completion progress := by
  obtain ⟨client, occurrence⟩ := event
  unfold deliver deliverFiltered
  rw [filtered]
  cases occurrence with
  | ended completion => simp [isOpen, Event.completion?]
  | _ => rfl

/-- The first end is all that a filtered call takes notice of. -/
theorem run_filtered {identity : List Attribute} (filtered : call.tracking = .filtered identity)
    (isOpen : progress.cell.ended = false) (events : List Event) :
    call.run events progress =
      match Event.firstEnd? events with
      | none => (progress, .none)
      | some completion => call.close completion progress := by
  induction events with
  | nil => rfl
  | cons event rest ih =>
    rw [run_cons, deliver_of_filtered filtered isOpen, Event.firstEnd?, List.findSome?_cons]
    cases ending : event.completion? with
    | none =>
      dsimp only
      rw [ih, Output.none_append]
      rfl
    | some completion =>
      -- A closed call ignores the rest, and says nothing about it.
      have silent : rest.flatMap call.lateLog = [] := by
        refine List.flatMap_eq_nil_iff.2 fun event _ => ?_
        rw [lateLog, filtered]
      have flagged : (call.close completion progress).1.cell.ended = true := rfl
      dsimp only
      rw [run_of_ended flagged, silent]
      exact Prod.ext rfl (Output.append_none _)

/-- The first end of a recorded call gives out what the span was given before it. -/
theorem run_recorded (followed : call.tracking.isFiltered = false) {given : Given}
    {limits : SpanLimits} {exporting : Bool} (unset : given.status = .unset)
    {before after : List Event} {last : Event} {completion : Completion}
    (early : ∀ event ∈ before, event.isEnd = false)
    (ended : last.occurrence = .ended completion) :
    let outcome := call.role.outcome completion.failure
    (call.run (before ++ [last] ++ after) ⟨.fresh, given.span limits exporting⟩).2.spans =
      ((((call.givenAfter given before).addAttributes [outcome.code.attribute]).withStatus
        outcome.status).span limits exporting).exported := by
  intro outcome
  have account := ((call.accounted_fresh (given.span limits exporting)).run followed early).1
  rw [(call.spans_run_closing early ended rfl).1, account.span rfl, List.nil_append,
    Given.conclude_span (call.givenAfter given before) limits exporting unset]

end Call

/-- All that the span of a refused call is given, without an end or with its first one. -/
def Role.refusedSpanOf (role : Role) (fullMethod : String) (context : SpanContext)
    (parent : BitVec 64) (ending : Option Completion) : Given where
  name := (Method.parse fullMethod).1
  kind := role.spanKind
  context := context
  parent := parent
  attributes := (Method.parse fullMethod).2 ++ [⟨"rpc.system", .text "grpc"⟩] ++
    ending.toList.map fun completion => ⟨"rpc.grpc.status_code", .int completion.codeNumber⟩
  events := []
  status := (ending.map fun completion => (role.outcome completion.failure).status).getD .unset
  scope := ⟨"spark-otel-rpc", "0.1.0"⟩

namespace FilteringLemmas

variable {world : World} {handler : Handler} {parent : Context} {rpc : CallContext}
  {info : CallInfo} {filter : CallFilter}

/-- Tagging asks the filter for no more than how to follow the call. -/
theorem tag_withFilter (refused : filter info = false) :
    let recorded := world.tag handler parent rpc info
    let filtered := world.tag { handler with filter := some filter } parent rpc info
    filtered.2 = { recorded.2 with tracking := .filtered (Method.identity info.fullMethod) } ∧
      { filtered.1 with logs := recorded.1.logs } = recorded.1 := by
  let refusing := { handler with filter := some filter }
  have tracking : refusing.trackingOf info = .filtered (Method.identity info.fullMethod) := by
    have rejects : ¬refusing.records info = true := Bool.eq_false_iff.1 refused
    rw [Handler.trackingOf, if_neg rejects]
  obtain ⟨logs, recorded⟩ := world.tag_eq handler parent rpc info
  obtain ⟨otherLogs, filtered⟩ := world.tag_eq refusing parent rpc info
  rw [tracking] at filtered
  dsimp only
  rw [recorded]
  rw [show world.tag { handler with filter := some filter } parent rpc info = _ from filtered]
  exact ⟨rfl, rfl⟩

/-- The attributes of a call without its end tell no status code. -/
theorem filter_statusCode (call : Call) {given : Given} (before : List Event) (code : Attribute)
    (bare : ∀ item ∈ given.attributes, item.key ≠ Convention.statusCode) :
    (((call.givenAfter given before).addAttributes [code]).attributes).filter
        (·.key = Convention.statusCode) = [code].filter (·.key = Convention.statusCode) := by
  have headers : ∀ item ∈ before.flatMap call.headerAttributes,
      item.key ≠ Convention.statusCode := by
    intro item present
    obtain ⟨event, -, found⟩ := List.mem_flatMap.1 present
    unfold Call.headerAttributes at found
    split at found
    · exact Peer.key_ne_statusCode found
    · cases found
  have none (items : List Attribute) (others : ∀ item ∈ items, item.key ≠ Convention.statusCode) :
      items.filter (·.key = Convention.statusCode) = [] := by
    refine List.filter_eq_nil_iff.2 fun item present => ?_
    simpa using others item present
  show ((given.attributes ++ before.flatMap call.headerAttributes) ++ [code]).filter _ = _
  rw [List.filter_append, List.filter_append, none _ bare, none _ headers]
  rfl

theorem take_of_dropped_eq_zero {given : Given} {limits : SpanLimits}
    (fits : (given.within limits).droppedAttributes = 0) :
    (given.within limits).attributes = given.attributes :=
  List.take_of_length_le (Nat.le_of_sub_eq_zero fits)

/-- What a recorded and a refused call give out at their first end tells the same closing. -/
theorem sameClosing_of_given {call : Call} {given : Given} {before : List Event}
    {outcome : Outcome} {limits : SpanLimits} (provider : Nat)
    (bare : ∀ item ∈ given.attributes, item.key ≠ Convention.statusCode) :
    ExportedSpan.SameClosing
      ⟨provider, (((call.givenAfter given before).addAttributes
        [outcome.code.attribute]).withStatus outcome.status).within limits⟩
      ⟨provider, ((given.addAttributes [outcome.code.attribute]).withStatus
        outcome.status).within limits⟩ where
  provider := rfl
  context := rfl
  parent := rfl
  name := rfl
  kind := rfl
  status := rfl
  code fits := by
    have longer : given.attributes.length ≤ (call.givenAfter given before).attributes.length := by
      show _ ≤ (given.attributes ++ before.flatMap call.headerAttributes).length
      rw [List.length_append]
      exact Nat.le_add_right _ _
    have fewer : (((given.addAttributes [outcome.code.attribute]).withStatus
        outcome.status).within limits).droppedAttributes = 0 := by
      change ((call.givenAfter given before).attributes ++ [outcome.code.attribute]).length -
        limits.attributes = 0 at fits
      show (given.attributes ++ [outcome.code.attribute]).length - limits.attributes = 0
      rw [List.length_append] at fits ⊢
      omega
    have alone := filter_statusCode call [] outcome.code.attribute bare
    rw [call.givenAfter_nil] at alone
    dsimp only
    rw [take_of_dropped_eq_zero fits, take_of_dropped_eq_zero fewer]
    exact (filter_statusCode call before _ bare).trans alone.symm

/-- What is exported of a span that was given something and has ended. -/
theorem ofProvider_exported (given : Given) (limits : SpanLimits) (exporting : Bool)
    (provider : Nat) :
    ExportedSpan.ofProvider (some provider) (given.span limits exporting).exported =
      if exporting then [⟨provider, given.within limits⟩] else [] := by
  cases exporting <;> rfl

/-- The run of a refused call that was just tagged. -/
theorem run_refused {call : Call} {identity : List Attribute}
    (filtered : call.tracking = .filtered identity) (events : List Event) (span : Span) :
    (call.run events ⟨.fresh, span⟩).1.cell = ⟨events.any (·.isEnd), 0, 0⟩ ∧
      (call.run events ⟨.fresh, span⟩).2.measurements = [] ∧
      (call.run events ⟨.fresh, span⟩).2.spans =
        match Event.firstEnd? events with
        | none => []
        | some completion =>
          (span.conclude (call.role.outcome completion.failure)).exported := by
  rw [Call.run_filtered filtered rfl, ← Event.isSome_firstEnd?]
  cases Event.firstEnd? events with
  | none => exact ⟨rfl, rfl, rfl⟩
  | some completion => exact ⟨rfl, rfl, rfl⟩

/-- Whatever the events, a recorded call and a refused one give out spans that tell the same
closing. -/
theorem sameClosing_run {recorded filtered : Call} {identity : List Attribute}
    (followed : recorded.tracking.isFiltered = false)
    (refused : filtered.tracking = .filtered identity) (sameRole : recorded.role = filtered.role)
    {given : Given} {limits : SpanLimits} {exporting : Bool} (unset : given.status = .unset)
    (bare : ∀ item ∈ given.attributes, item.key ≠ Convention.statusCode) (provider : Nat)
    (events : List Event) :
    let start : Progress := ⟨.fresh, given.span limits exporting⟩
    List.Forall₂ ExportedSpan.SameClosing
      (ExportedSpan.ofProvider (some provider) (recorded.run events start).2.spans)
      (ExportedSpan.ofProvider (some provider) (filtered.run events start).2.spans) := by
  intro start
  rw [(run_refused refused events _).2.2]
  cases first : Event.firstEnd? events with
  | none =>
    rw [(recorded.spans_run_early (Event.early_of_firstEnd?_eq_none first) start).1]
    exact .nil
  | some completion =>
    obtain ⟨before, last, after, rfl, early, ended⟩ := Event.split_of_firstEnd? first
    dsimp only
    rw [Call.run_recorded followed unset early ended, ← sameRole,
      Given.conclude_span given limits exporting unset, ofProvider_exported, ofProvider_exported]
    cases exporting with
    | false => exact .nil
    | true => exact .cons (sameClosing_of_given provider bare) .nil

end FilteringLemmas

open FilteringLemmas DeliveryLemmas

namespace World

/-- Delivering events through one handle is one run of its call. -/
theorem deliverEvents_eq_commit (world : World) (handler : Handler) {handle : Handle}
    (known : world.Knows handle) (events : List Event) :
    world.deliverEvents handler handle events =
      world.commit handler handle
        ((handler.call handle).run events (world.progressOf handle)) := by
  have through : ∀ delivery ∈ events.map (Delivery.mk handle), handle.IsClone delivery.handle :=
    List.forall_mem_map.2 fun _ _ => .self
  have same : (events.map (Delivery.mk handle)).map (·.event) = events := by
    rw [List.map_map]
    exact List.map_id _
  rw [deliverEvents, world.deliverAll_eq_commit handler known through, same]

/-- What events come to that are delivered through one handle. -/
theorem deliverEvents_eq_run (world : World) (handler : Handler) {handle : Handle}
    (known : world.Knows handle) (events : List Event) :
    let after := world.deliverEvents handler handle events
    let outcome := (handler.call handle).run events (world.progressOf handle)
    after.progressOf handle = outcome.1 ∧
      after.exported = world.exported ++
        ExportedSpan.ofProvider (world.starterOf handle.context) outcome.2.spans ∧
      after.meters = Meter.recordAt world.meters handler.meter outcome.2.measurements := by
  intro after outcome
  have committed : after = world.commit handler handle outcome :=
    world.deliverEvents_eq_commit handler known events
  rw [committed]
  refine ⟨?_, by rw [commit_eq], by rw [commit_eq]⟩
  exact world.progressOf_commit handler known outcome fun past => Call.span_run_of_over past events

/-- What events come to that are the first ones through their handle. -/
theorem deliverEvents_of_fresh (world made : World) (handler : Handler) {handle : Handle}
    (known : made.Knows handle) (fresh : made.cellOf handle.cell = .fresh)
    (outputs : made.meters = world.meters ∧ made.exported = world.exported)
    (events : List Event) :
    let after := made.deliverEvents handler handle events
    let outcome := (handler.call handle).run events ⟨.fresh, made.spanOf handle.context⟩
    after.progressOf handle = outcome.1 ∧
      after.exported = world.exported ++
        ExportedSpan.ofProvider (made.starterOf handle.context) outcome.2.spans ∧
      after.meters = Meter.recordAt world.meters handler.meter outcome.2.measurements := by
  dsimp only
  rw [← outputs.1, ← outputs.2, ← fresh]
  exact made.deliverEvents_eq_run handler known events

variable (world : World) (handler : Handler) (parent : Context) (rpc : CallContext)
  (info : CallInfo)

/-- What the events of a tagged call come to. -/
theorem deliverEvents_tag (events : List Event) :
    let tagged := world.tag handler parent rpc info
    let after := tagged.1.deliverEvents handler tagged.2 events
    let outcome :=
      (handler.call tagged.2).run events ⟨.fresh, tagged.1.spanOf tagged.2.context⟩
    after.progressOf tagged.2 = outcome.1 ∧
      after.exported = world.exported ++
        ExportedSpan.ofProvider (tagged.1.starterOf tagged.2.context) outcome.2.spans ∧
      after.meters = Meter.recordAt world.meters handler.meter outcome.2.measurements :=
  deliverEvents_of_fresh world _ handler (world.knows_tag handler parent rpc info)
    (world.cellOf_tag handler parent rpc info) (world.outputs_tag handler parent rpc info) events

/-- The span of a tagged call that is recording does so up to the first end. -/
theorem isRecording_deliverEvents (events : List Event) :
    let tagged := world.tag handler parent rpc info
    ((tagged.1.deliverEvents handler tagged.2 events).spanOf tagged.2.context).isRecording =
      ((tagged.1.spanOf tagged.2.context).isRecording && !events.any (·.isEnd)) := by
  intro tagged
  obtain ⟨progress, -⟩ := world.deliverEvents_tag handler parent rpc info events
  have span : (tagged.1.deliverEvents handler tagged.2 events).spanOf tagged.2.context = _ :=
    congrArg Progress.span progress
  rw [span]
  exact Call.isRecording_run _ rfl events

/-! ## Refused calls -/

theorem tracking_call_refused (refused : handler.records info = false) :
    (handler.call (world.tag handler parent rpc info).2).tracking =
      .filtered (Method.identity info.fullMethod) := by
  show (world.tag handler parent rpc info).2.tracking = _
  rw [tracking_tag, Handler.trackingOf, if_neg (Bool.eq_false_iff.1 refused)]

/-- Of a refused call nothing is measured and nothing is counted. -/
theorem refused_unmeasured (refused : handler.records info = false) (events : List Event) :
    let tagged := world.tag handler parent rpc info
    let after := tagged.1.deliverEvents handler tagged.2 events
    after.meters = world.meters ∧
      after.cellOf tagged.2.cell = ⟨events.any (·.isEnd), 0, 0⟩ := by
  intro tagged after
  obtain ⟨progress, -, meters⟩ := world.deliverEvents_tag handler parent rpc info events
  obtain ⟨cell, unmeasured, -⟩ := run_refused
    (world.tracking_call_refused handler parent rpc info refused) events
    (tagged.1.spanOf tagged.2.context)
  rw [unmeasured] at meters
  exact ⟨meters.trans (recordAt_nil world.meters handler.meter),
    (congrArg Progress.cell progress).trans cell⟩

/-- The span of a refused call is given its start, and with an end its outcome. -/
theorem refusedSpanOf_eq (identity : SpanContext) (ending : Option Completion) :
    handler.role.refusedSpanOf info.fullMethod identity
        (world.parentOf handler parent rpc).identity.span ending =
      match ending with
      | none => world.givenAtStart handler parent rpc info identity
      | some completion =>
        ((world.givenAtStart handler parent rpc info identity).addAttributes
          [(handler.role.outcome completion.failure).code.attribute]).withStatus
            (handler.role.outcome completion.failure).status := by
  cases ending with
  | none => exact congrArg (fun items => Given.mk _ _ _ _ items _ _ _) (List.append_nil _)
  | some completion =>
    simp only [Code.attribute, Role.number_outcome]
    rfl

/-- The first end of a refused call exports what its span was given; without an end the span goes
on. -/
theorem refused_content (refused : handler.records info = false) {tracer : Nat}
    {provider : Provider} (traced : handler.tracer = some tracer)
    (found : world.providers[tracer]? = some provider)
    (sampled : (world.tag handler parent rpc info).2.context.identity.isSampled = true)
    (events : List Event) :
    let tagged := world.tag handler parent rpc info
    let after := tagged.1.deliverEvents handler tagged.2 events
    let content := handler.role.refusedSpanOf info.fullMethod tagged.2.context.identity
      (world.parentOf handler parent rpc).identity.span (Event.firstEnd? events)
    if events.any (·.isEnd) then
      after.exported = world.exported ++
        if provider.exporting then [⟨tracer, content.within provider.limits⟩] else []
    else
      after.exported = world.exported ∧
        after.spanOf tagged.2.context = content.span provider.limits provider.exporting := by
  intro tagged after content
  obtain ⟨progress, exported, -⟩ := world.deliverEvents_tag handler parent rpc info events
  obtain ⟨starter, given⟩ := world.span_tag handler parent rpc info traced found sampled
  have filtered := world.tracking_call_refused handler parent rpc info refused
  have told : content = _ :=
    world.refusedSpanOf_eq handler parent rpc info tagged.2.context.identity _
  obtain ⟨-, -, closing⟩ := run_refused filtered events (tagged.1.spanOf tagged.2.context)
  rw [starter, closing, given] at exported
  rw [← Event.isSome_firstEnd?]
  cases first : Event.firstEnd? events with
  | none =>
    rw [first] at exported told
    rw [Call.run_filtered filtered rfl, first, given] at progress
    rw [told]
    exact ⟨exported.trans (List.append_nil _), congrArg Progress.span progress⟩
  | some completion =>
    rw [first] at exported told
    rw [told]
    dsimp only at exported
    rwa [Given.conclude_span _ _ _ rfl, ofProvider_exported] at exported

variable {world} {handler} {parent} {rpc} {info} {filter : CallFilter}

/-- A refused call starts with the span of the accepted one. -/
theorem span_tag_refused (refused : filter info = false) :
    let recorded := world.tag handler parent rpc info
    let filtered := world.tag { handler with filter := some filter } parent rpc info
    filtered.1.spanOf filtered.2.context = recorded.1.spanOf recorded.2.context ∧
      filtered.1.starterOf filtered.2.context = recorded.1.starterOf recorded.2.context := by
  intro recorded filtered
  obtain ⟨handle, tagged⟩ :
      filtered.2 = { recorded.2 with tracking := .filtered (Method.identity info.fullMethod) } ∧
        { filtered.1 with logs := recorded.1.logs } = recorded.1 := tag_withFilter refused
  have spans : filtered.1.spans = recorded.1.spans := (congrArg World.spans tagged :)
  simp only [spanOf, starterOf, handle, spans, and_self]

/-- A refused call closes its span at the same event as the accepted one, with the same outcome. -/
theorem refused_closing (accepted : handler.records info = true) (refused : filter info = false)
    (events : List Event) :
    let refusing := { handler with filter := some filter }
    let recorded := world.tag handler parent rpc info
    let filtered := world.tag refusing parent rpc info
    ∃ recordedSpans filteredSpans,
      (recorded.1.deliverEvents handler recorded.2 events).exported =
        world.exported ++ recordedSpans ∧
      (filtered.1.deliverEvents refusing filtered.2 events).exported =
        world.exported ++ filteredSpans ∧
      List.Forall₂ ExportedSpan.SameClosing recordedSpans filteredSpans := by
  intro refusing recorded filtered
  obtain ⟨-, recordedExports, -⟩ := world.deliverEvents_tag handler parent rpc info events
  obtain ⟨-, filteredExports, -⟩ := world.deliverEvents_tag refusing parent rpc info events
  obtain ⟨sameSpan, sameStarter⟩ : filtered.1.spanOf filtered.2.context = _ ∧
      filtered.1.starterOf filtered.2.context = _ := span_tag_refused refused
  refine ⟨_, _, recordedExports, filteredExports, ?_⟩
  rw [sameSpan, sameStarter]
  have followed : (handler.call recorded.2).tracking.isFiltered = false := by
    rw [world.tracking_call_tag handler parent rpc info accepted]
    rfl
  rcases world.span_tag_cases handler parent rpc info with
    ⟨tracer, provider, starter, given⟩ | inert
  · rw [starter, given]
    exact sameClosing_run followed
      (world.tracking_call_refused refusing parent rpc info refused) rfl rfl
      (fun item => Method.key_ne_statusCode) tracer events
  · rw [Call.spans_run_of_over _ inert, Call.spans_run_of_over _ inert]
    cases recorded.1.starterOf recorded.2.context <;> exact .nil

/-- A call that a filter refuses, against the same call when it is accepted, after the same events:
tagged alike, closed at the same event, with the same outcome. Of the refused call nothing is
measured or counted, and its span has neither events nor attributes of its events. -/
theorem filtering_changes_recording_only (accepted : handler.records info = true)
    (refused : filter info = false) (events : List Event) :
    let refusing := { handler with filter := some filter }
    let recorded := world.tag handler parent rpc info
    let filtered := world.tag refusing parent rpc info
    let afterRecorded := recorded.1.deliverEvents handler recorded.2 events
    let afterFiltered := filtered.1.deliverEvents refusing filtered.2 events
    ({ filtered.2 with tracking := recorded.2.tracking } = recorded.2 ∧
        { filtered.1 with logs := recorded.1.logs } = recorded.1) ∧
      ((afterFiltered.spanOf filtered.2.context).isRecording =
          (afterRecorded.spanOf recorded.2.context).isRecording ∧
        (afterFiltered.spanOf filtered.2.context).isRecording =
          ((recorded.1.spanOf recorded.2.context).isRecording && !events.any (·.isEnd)) ∧
        ∃ recordedSpans filteredSpans,
          afterRecorded.exported = world.exported ++ recordedSpans ∧
          afterFiltered.exported = world.exported ++ filteredSpans ∧
          List.Forall₂ ExportedSpan.SameClosing recordedSpans filteredSpans) ∧
      afterFiltered.meters = world.meters ∧
      afterFiltered.cellOf filtered.2.cell = ⟨events.any (·.isEnd), 0, 0⟩ ∧
      ∀ tracer provider, handler.tracer = some tracer →
        world.providers[tracer]? = some provider →
        filtered.2.context.identity.isSampled = true →
        let content := handler.role.refusedSpanOf info.fullMethod filtered.2.context.identity
          (world.parentOf handler parent rpc).identity.span (Event.firstEnd? events)
        if events.any (·.isEnd) then
          afterFiltered.exported = world.exported ++
            if provider.exporting then [⟨tracer, content.within provider.limits⟩] else []
        else
          afterFiltered.exported = world.exported ∧
            afterFiltered.spanOf filtered.2.context =
              content.span provider.limits provider.exporting := by
  intro refusing recorded filtered afterRecorded afterFiltered
  obtain ⟨handle, tagged⟩ :
      filtered.2 = { recorded.2 with tracking := .filtered (Method.identity info.fullMethod) } ∧
        { filtered.1 with logs := recorded.1.logs } = recorded.1 := tag_withFilter refused
  have recordedRecording := world.isRecording_deliverEvents handler parent rpc info events
  have filteredRecording : (afterFiltered.spanOf filtered.2.context).isRecording =
      ((recorded.1.spanOf recorded.2.context).isRecording && !events.any (·.isEnd)) := by
    rw [← (span_tag_refused refused).1]
    exact world.isRecording_deliverEvents refusing parent rpc info events
  obtain ⟨unmeasured, uncounted⟩ := world.refused_unmeasured refusing parent rpc info refused events
  exact ⟨⟨by rw [handle], tagged⟩,
    ⟨filteredRecording.trans recordedRecording.symm, filteredRecording,
      refused_closing accepted refused events⟩, unmeasured, uncounted,
    fun tracer provider traced found sampled =>
      world.refused_content refusing parent rpc info refused traced found sampled events⟩

/-- A refused call with a request before its end and another one after it. -/
theorem filtering_of_sample_call :
    let refusing := { Sample.server with filter := some fun _ => false }
    let filtered := Sample.world.tag refusing .empty Sample.rpc Sample.info
    let after := filtered.1.deliverEvents refusing filtered.2
      [Sample.request, ⟨false, .ended Sample.success⟩, Sample.request]
    after.exported = [⟨0, {
        name := "users.Directory/Lookup"
        kind := .server
        context := ⟨1, 1, 1, false, .empty⟩
        parent := 0
        attributes := [⟨"rpc.service", .text "users.Directory"⟩, ⟨"rpc.method", .text "Lookup"⟩,
          ⟨"rpc.system", .text "grpc"⟩, ⟨"rpc.grpc.status_code", .int 0⟩]
        droppedAttributes := 0
        events := []
        droppedEvents := 0
        status := .unset
        scope := ⟨"spark-otel-rpc", "0.1.0"⟩ }⟩] ∧
      after.meters = [.fresh] ∧ after.cellOf filtered.2.cell = ⟨true, 0, 0⟩ := by
  have named : Method.parse "/users.Directory/Lookup" = ("users.Directory/Lookup",
      [⟨"rpc.service", .text "users.Directory"⟩, ⟨"rpc.method", .text "Lookup"⟩]) := by decide
  obtain ⟨-, -, meters, cell, content⟩ := @filtering_changes_recording_only Sample.world
    Sample.server .empty Sample.rpc Sample.info (fun _ => false) rfl rfl
    [Sample.request, ⟨false, .ended Sample.success⟩, Sample.request]
  have exported := content 0 _ rfl rfl rfl
  refine ⟨exported.trans ?_, meters, cell⟩
  simp only [Role.refusedSpanOf, show Sample.info.fullMethod = "/users.Directory/Lookup" from rfl,
    named]
  rfl

end World

end RpcTelemetry
