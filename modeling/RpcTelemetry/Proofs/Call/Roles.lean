import RpcTelemetry.Proofs.Call.StatusCode
import RpcTelemetry.Proofs.Propagation.Channel

/-!
# The two roles

A call of a server and a call of a client that are tagged alike are followed side by side, by the
handles of their taggings or by detached ones. Every event keeps them alike: the cells are the same,
and so are the spans up to their kind and their status.

Results:
1. `Call.deliver_mirrors`, `Call.run_mirrors`: one event, and a run, give out the same on either
   side, up to what names the side.
2. `Call.run_policies`: two policies of a server differ in the status of the exported span only.
3. `Tagging.roles_mirror`: what that says about the processes of the two calls.
-/

namespace RpcTelemetry

/-! ## What does not depend on the side -/

/-- The content of a span, with no status. -/
def SpanData.withoutStatus (data : SpanData) : SpanData := { data with status := .unset }

/-- The content of a span, with no status and the kind of neither side. -/
def SpanData.withoutSide (data : SpanData) : SpanData :=
  { data.withoutStatus with kind := .internal }

/-- An exported span, with no status. -/
def ExportedSpan.withoutStatus (span : ExportedSpan) : ExportedSpan :=
  { span with data := span.data.withoutStatus }

/-- An exported span, with no status and the kind of neither side. -/
def ExportedSpan.withoutSide (span : ExportedSpan) : ExportedSpan :=
  { span with data := span.data.withoutSide }

/-- A log entry, with nothing in the field of the role. -/
def Log.Entry.withoutRole (entry : Log.Entry) : Log.Entry :=
  { entry with
    fields := entry.fields.map fun (name, value) =>
      (name, if name = "role" then .string "" else value) }

/-- The same measurement by a server and by a client: the prefix of the instrument differs. -/
def Measurement.Mirrors (served called : Measurement) : Prop :=
  ∃ suffix, served.instrument = "rpc.server." ++ suffix ∧
    called = { served with instrument := "rpc.client." ++ suffix }

namespace Span

/-- The record of a span, with no status and the kind of neither side. -/
def withoutSide (span : Span) : Span := { span with data := span.data.map SpanData.withoutSide }

variable (span : Span)

theorem withoutSide_setAttribute (added : Attribute) :
    (span.setAttribute added).withoutSide = span.withoutSide.setAttribute added := by
  unfold withoutSide setAttribute
  rw [Option.map_map, Option.map_map]
  congr 2
  funext data
  dsimp only [Function.comp]
  exact apply_ite SpanData.withoutSide _ _ _

theorem withoutSide_setAttributes (added : List Attribute) :
    (span.setAttributes added).withoutSide = span.withoutSide.setAttributes added := by
  induction added generalizing span with
  | nil => rfl
  | cons first rest ih =>
    show ((span.setAttribute first).setAttributes rest).withoutSide =
      (span.withoutSide.setAttribute first).setAttributes rest
    rw [ih, withoutSide_setAttribute]

theorem withoutSide_addEvent (name : String) (attributes : List Attribute) :
    (span.addEvent name attributes).withoutSide = span.withoutSide.addEvent name attributes := by
  unfold withoutSide addEvent
  rw [Option.map_map, Option.map_map]
  congr 2
  funext data
  dsimp only [Function.comp]
  exact apply_ite SpanData.withoutSide _ _ _

/-- A status is nothing but the status. -/
theorem withoutStatus_setStatus (status : SpanStatus) :
    (span.setStatus status).data.map SpanData.withoutStatus =
      span.data.map SpanData.withoutStatus := by
  unfold setStatus
  rw [Option.map_map]
  congr 1
  funext data
  dsimp only [Function.comp]
  split <;> rfl

theorem withoutSide_conclude (outcome : Outcome) :
    (span.conclude outcome).withoutSide =
      span.withoutSide.setAttribute outcome.code.attribute := by
  have side (data : SpanData) :
      data.withoutSide = { data.withoutStatus with kind := .internal } := rfl
  rw [← withoutSide_setAttribute]
  have same := withoutStatus_setStatus (span.setAttribute outcome.code.attribute) outcome.status
  have kindless := congrArg (Option.map fun data : SpanData => { data with kind := .internal }) same
  rw [Option.map_map, Option.map_map] at kindless
  exact congrArg (Span.mk span.limits span.exporting) kindless

theorem map_exported (change : SpanData → SpanData) :
    span.exported.map change = if span.exporting then (span.data.map change).toList else [] := by
  unfold exported
  cases span.exporting <;> cases span.data <;> rfl

theorem exported_withoutSide :
    span.withoutSide.exported = span.exported.map SpanData.withoutSide := by
  rw [map_exported]
  rfl

/-- Outcomes with the same code are exported alike, up to the status. -/
theorem exported_conclude_withoutStatus {first second : Outcome} (code : first.code = second.code) :
    (span.conclude first).exported.map SpanData.withoutStatus =
      (span.conclude second).exported.map SpanData.withoutStatus := by
  rw [map_exported, map_exported, conclude, conclude, withoutStatus_setStatus,
    withoutStatus_setStatus, code]
  rfl

end Span

/-! ## Side by side -/

/-- A call of a server and one of a client that are followed in the same way. -/
structure Call.Mirrors (server client : Call) : Prop where
  isServer : ∃ policy, server.role = .server policy
  isClient : client.role = .client
  tracking : server.tracking = client.tracking
  peer : server.peer = client.peer

/-- The same progress on either side. -/
structure Progress.Mirrors (served called : Progress) : Prop where
  cell : served.cell = called.cell
  span : served.span.withoutSide = called.span.withoutSide

/-- The same output on either side. -/
structure Output.Mirrors (served called : Output) : Prop where
  spans : served.spans.map SpanData.withoutSide = called.spans.map SpanData.withoutSide
  measurements : List.Forall₂ Measurement.Mirrors served.measurements called.measurements
  logs : served.logs.map Log.Entry.withoutRole = called.logs.map Log.Entry.withoutRole

/-- Outputs that differ in the status of exported spans only. -/
structure Output.SameButStatus (first second : Output) : Prop where
  spans : first.spans.map SpanData.withoutStatus = second.spans.map SpanData.withoutStatus
  measurements : first.measurements = second.measurements
  logs : first.logs = second.logs

namespace Output.SameButStatus

theorem refl (output : Output) : output.SameButStatus output := ⟨rfl, rfl, rfl⟩

theorem append {first second laterFirst laterSecond : Output} (same : first.SameButStatus second)
    (later : laterFirst.SameButStatus laterSecond) :
    (first ++ laterFirst).SameButStatus (second ++ laterSecond) where
  spans := by
    simp only [Output.spans_append, List.map_append, same.spans, later.spans]
  measurements := by
    simp only [Output.measurements_append, same.measurements, later.measurements]
  logs := by
    simp only [Output.logs_append, same.logs, later.logs]

end Output.SameButStatus

namespace Output.Mirrors

theorem ofLogs {served called : List Log.Entry}
    (logs : served.map Log.Entry.withoutRole = called.map Log.Entry.withoutRole) :
    Mirrors (.ofLogs served) (.ofLogs called) := ⟨rfl, .nil, logs⟩

theorem none : Mirrors .none .none := ofLogs rfl

theorem append {served called laterServed laterCalled : Output} (first : served.Mirrors called)
    (later : laterServed.Mirrors laterCalled) :
    (served ++ laterServed).Mirrors (called ++ laterCalled) where
  spans := by
    simp only [Output.spans_append, List.map_append, first.spans, later.spans]
  measurements := List.rel_append first.measurements later.measurements
  logs := by
    simp only [Output.logs_append, List.map_append, first.logs, later.logs]

end Output.Mirrors

/-- A call is filtered, or its tracking is another one. -/
theorem Tracking.filtered_or (tracking : Tracking) :
    (∃ identity, tracking = .filtered identity) ∨ tracking.isFiltered = false := by
  cases tracking with
  | filtered identity => exact .inl ⟨identity, rfl⟩
  | recorded identity => exact .inr rfl
  | detached => exact .inr rfl

/-- The code of an outcome is the same in either role. -/
theorem Role.codeAttribute_outcome (first second : Role) (completion : Completion) :
    (first.outcome completion.failure).code.attribute =
      (second.outcome completion.failure).code.attribute := by
  unfold Code.attribute
  rw [Role.number_outcome, Role.number_outcome]

namespace Call

section

variable (first second : Call) (event : Event)

theorem withoutRole_dispatchEntry :
    (first.dispatchEntry event).withoutRole = (second.dispatchEntry event).withoutRole := by
  simp [dispatchEntry, Log.Entry.withoutRole]

theorem withoutRole_lateEntry :
    (first.lateEntry event).withoutRole = (second.lateEntry event).withoutRole := by
  simp [lateEntry, Log.Entry.withoutRole]

theorem withoutRole_uncountedEntry :
    first.uncountedEntry.withoutRole = second.uncountedEntry.withoutRole := by
  simp [uncountedEntry, Log.Entry.withoutRole]

end

variable {server client : Call} {served called : Progress}

namespace Mirrors

section

variable (mirrors : server.Mirrors client)

include mirrors

theorem label_server : server.role.label = "server" := by
  obtain ⟨policy, role⟩ := mirrors.isServer
  rw [role]
  rfl

theorem label_client : client.role.label = "client" := by
  rw [mirrors.isClient]
  rfl

theorem measure (spec : InstrumentSpec) (value : MeasuredValue) (attributes : List Attribute) :
    (server.measure spec value attributes).Mirrors (client.measure spec value attributes) := by
  have named (label : String) : spec.name label = "rpc." ++ label ++ "." ++ spec.suffix := rfl
  refine ⟨spec.suffix, ?_, ?_⟩
  · show spec.name server.role.label = _
    rw [mirrors.label_server, named]
    exact congrArg (· ++ spec.suffix) (by decide)
  · show Measurement.mk (spec.name client.role.label) _ _ _ = Measurement.mk _ _ _ _
    rw [mirrors.label_client, named]
    exact congrArg
      (fun lead => Measurement.mk (lead ++ spec.suffix) (some spec.unit) value attributes)
      (by decide)

theorem summary (completion : Completion) (cell : Cell) :
    List.Forall₂ Measurement.Mirrors (server.summary completion cell)
      (client.summary completion cell) := by
  unfold Call.summary
  rw [Role.codeAttribute_outcome server.role client.role, mirrors.tracking]
  cases client.tracking with
  | recorded identity =>
    exact .cons (mirrors.measure _ _ _)
      (.cons (mirrors.measure _ _ _) (.cons (mirrors.measure _ _ _) .nil))
  | filtered identity => exact .nil
  | detached => exact .cons (mirrors.measure _ _ _) .nil

theorem number (direction : Direction) (message : Message) (cell : Cell) :
    (server.number direction message cell).1 = (client.number direction message cell).1 ∧
      (server.number direction message cell).2.1 = (client.number direction message cell).2.1 ∧
      List.Forall₂ Measurement.Mirrors (server.number direction message cell).2.2
        (client.number direction message cell).2.2 := by
  unfold Call.number
  rw [mirrors.tracking]
  cases client.tracking with
  | recorded identity => exact ⟨rfl, rfl, .cons (mirrors.measure _ _ _) .nil⟩
  | filtered identity => exact ⟨rfl, rfl, .nil⟩
  | detached => exact ⟨rfl, rfl, .nil⟩

theorem lateLog (event : Event) :
    (server.lateLog event).map Log.Entry.withoutRole =
      (client.lateLog event).map Log.Entry.withoutRole := by
  unfold Call.lateLog
  rw [mirrors.tracking]
  split
  · rfl
  · exact congrArg (fun entry => [entry]) (withoutRole_lateEntry server client event)

end

end Mirrors

/-! ## One event -/

/-- The outcomes of the sides may have other statuses, which are exported and then forgotten. -/
theorem close_mirrors (server client : Call) (alike : served.Mirrors called)
    (completion : Completion) :
    (server.close completion served).1.Mirrors (client.close completion called).1 ∧
      (server.close completion served).2.Mirrors (client.close completion called).2 := by
  have concluded :
      (served.span.conclude (server.role.outcome completion.failure)).withoutSide =
        (called.span.conclude (client.role.outcome completion.failure)).withoutSide := by
    rw [Span.withoutSide_conclude, Span.withoutSide_conclude, alike.span,
      Role.codeAttribute_outcome server.role client.role]
  have finished := congrArg Span.finish concluded
  refine ⟨⟨?_, finished⟩, ⟨?_, .nil, rfl⟩⟩
  · show Cell.mk true _ _ = Cell.mk true _ _
    rw [alike.cell]
  · show (Span.exported _).map _ = (Span.exported _).map _
    rw [← Span.exported_withoutSide, ← Span.exported_withoutSide, concluded]

section

variable (mirrors : server.Mirrors client) (alike : served.Mirrors called)

include mirrors alike

theorem deliverMessage_mirrors (direction : Direction) (message : Message) :
    (server.deliverMessage direction message served).1.Mirrors
        (client.deliverMessage direction message called).1 ∧
      (server.deliverMessage direction message served).2.Mirrors
        (client.deliverMessage direction message called).2 := by
  obtain ⟨ordinal, cell, measured⟩ := mirrors.number direction message called.cell
  unfold deliverMessage
  rw [alike.cell]
  refine ⟨⟨cell, ?_⟩, ⟨rfl, measured, rfl⟩⟩
  show (served.span.addEvent _ _).withoutSide = (called.span.addEvent _ _).withoutSide
  rw [Span.withoutSide_addEvent, Span.withoutSide_addEvent, alike.span, ordinal]

theorem deliverHeader_mirrors :
    (server.deliverHeader served).1.Mirrors (client.deliverHeader called).1 ∧
      (server.deliverHeader served).2.Mirrors (client.deliverHeader called).2 := by
  unfold deliverHeader
  rw [mirrors.peer]
  cases client.peer with
  | none => exact ⟨alike, .none⟩
  | some peer =>
    refine ⟨⟨alike.cell, ?_⟩, .ofLogs rfl⟩
    show (served.span.setAttributes _).withoutSide = (called.span.setAttributes _).withoutSide
    rw [Span.withoutSide_setAttributes, Span.withoutSide_setAttributes, alike.span]

theorem deliverLive_mirrors (event : Event) :
    (server.deliverLive event served).1.Mirrors (client.deliverLive event called).1 ∧
      (server.deliverLive event served).2.Mirrors (client.deliverLive event called).2 := by
  obtain ⟨reporter, occurrence⟩ := event
  cases occurrence with
  | message direction message => exact deliverMessage_mirrors mirrors alike direction message
  | header direction metadata =>
    cases direction with
    | inbound => exact ⟨alike, .none⟩
    | outbound => exact deliverHeader_mirrors mirrors alike
  | ended completion =>
    obtain ⟨closed, output⟩ := close_mirrors server client alike completion
    refine ⟨closed, (Output.Mirrors.append (.append (.ofLogs ?_) output) ⟨rfl, ?_, rfl⟩)⟩
    · rw [mirrors.tracking]
      split
      · exact congrArg (fun entry => [entry]) (withoutRole_uncountedEntry server client)
      · rfl
    · rw [alike.cell]
      exact mirrors.summary completion called.cell
  | began => exact ⟨alike, .none⟩
  | trailer direction metadata => exact ⟨alike, .none⟩

theorem deliver_mirrors (event : Event) :
    (server.deliver event served).1.Mirrors (client.deliver event called).1 ∧
      (server.deliver event served).2.Mirrors (client.deliver event called).2 := by
  cases past : called.cell.ended with
  | true =>
    rw [deliver_of_ended (alike.cell ▸ past), deliver_of_ended past]
    exact ⟨alike, .ofLogs (mirrors.lateLog event)⟩
  | false =>
    have served_open : served.cell.ended = false := alike.cell ▸ past
    rcases client.tracking.filtered_or with ⟨identity, filtered⟩ | followed
    · rw [deliver_of_filtered (mirrors.tracking.trans filtered) served_open,
        deliver_of_filtered filtered past]
      split
      · exact ⟨alike, .none⟩
      · exact close_mirrors server client alike _
    · rw [deliver_of_open (mirrors.tracking ▸ followed) served_open, deliver_of_open followed past]
      obtain ⟨after, output⟩ := deliverLive_mirrors mirrors alike event
      exact ⟨after, .append (.ofLogs (congrArg (fun entry => [entry])
        (withoutRole_dispatchEntry server client event))) output⟩

end

/-! ## Runs -/

theorem run_mirrors (mirrors : server.Mirrors client) (alike : served.Mirrors called)
    (events : List Event) :
    (server.run events served).1.Mirrors (client.run events called).1 ∧
      (server.run events served).2.Mirrors (client.run events called).2 := by
  induction events generalizing served called with
  | nil => exact ⟨alike, .none⟩
  | cons event rest ih =>
    obtain ⟨next, output⟩ := deliver_mirrors mirrors alike event
    obtain ⟨last, outputs⟩ := ih next
    exact ⟨last, output.append outputs⟩

/-! ## Policies -/

section

variable (tracking : Tracking) (peer : Option Peer) (policy other : StatusPolicy)

/-- Closing a call under one policy and under another. -/
theorem close_policies (completion : Completion) (progress : Progress) :
    ((Call.mk (.server policy) tracking peer).close completion progress).1 =
        ((Call.mk (.server other) tracking peer).close completion progress).1 ∧
      ((Call.mk (.server policy) tracking peer).close completion progress).2.SameButStatus
        ((Call.mk (.server other) tracking peer).close completion progress).2 := by
  have code : (Role.outcome (.server policy) completion.failure).code =
      (Role.outcome (.server other) completion.failure).code := by
    cases completion.failure <;> rfl
  exact ⟨rfl, progress.span.exported_conclude_withoutStatus code, rfl, rfl⟩

theorem deliver_policies (event : Event) (progress : Progress) :
    ((Call.mk (.server policy) tracking peer).deliver event progress).1 =
        ((Call.mk (.server other) tracking peer).deliver event progress).1 ∧
      ((Call.mk (.server policy) tracking peer).deliver event progress).2.SameButStatus
        ((Call.mk (.server other) tracking peer).deliver event progress).2 := by
  cases ending : event.completion? with
  | none =>
    rw [deliver_policy tracking peer policy other (by simp [ending])]
    exact ⟨rfl, .refl _⟩
  | some completion =>
    obtain ⟨client, occurrence⟩ := event
    obtain rfl : occurrence = .ended completion := by
      cases occurrence with
      | ended found => exact congrArg _ (Option.some.inj ending)
      | _ => cases ending
    cases past : progress.cell.ended with
    | true =>
      rw [deliver_of_ended past, deliver_of_ended past]
      exact ⟨rfl, .refl _⟩
    | false =>
      obtain ⟨closed, output⟩ := close_policies tracking peer policy other completion progress
      rcases tracking.filtered_or with ⟨identity, rfl⟩ | followed
      · rw [deliver_of_filtered rfl past, deliver_of_filtered rfl past]
        exact ⟨closed, output⟩
      · rw [deliver_of_open followed past, deliver_of_open followed past]
        have summary : (Call.mk (.server policy) tracking peer).summary completion progress.cell =
            (Call.mk (.server other) tracking peer).summary completion progress.cell := by
          unfold Call.summary
          rw [Role.codeAttribute_outcome (.server policy) (.server other)]
          rfl
        exact ⟨closed, .append (.refl _) (.append (.append (.refl _) output) ⟨rfl, summary, rfl⟩)⟩

/-- The events of a call of a server come to the same under either policy, up to the status of what
is exported. -/
theorem run_policies (events : List Event) (progress : Progress) :
    ((Call.mk (.server policy) tracking peer).run events progress).1 =
        ((Call.mk (.server other) tracking peer).run events progress).1 ∧
      ((Call.mk (.server policy) tracking peer).run events progress).2.SameButStatus
        ((Call.mk (.server other) tracking peer).run events progress).2 := by
  induction events generalizing progress with
  | nil => exact ⟨rfl, .refl _⟩
  | cons event rest ih =>
    obtain ⟨next, output⟩ := deliver_policies tracking peer policy other event progress
    obtain ⟨last, outputs⟩ :=
      ih ((Call.mk (.server policy) tracking peer).deliver event progress).1
    rw [next] at last outputs
    refine ⟨?_, ?_⟩
    · rw [run_cons, run_cons, next]
      exact last
    · rw [run_cons, run_cons, next]
      exact output.append outputs

end

end Call

/-! ## Taggings -/

theorem ExportedSpan.map_ofProvider (provider : Option Nat) {first second : List SpanData}
    {change : SpanData → SpanData} (same : first.map change = second.map change) :
    (ofProvider provider first).map (fun span => { span with data := change span.data }) =
      (ofProvider provider second).map (fun span => { span with data := change span.data }) := by
  cases provider with
  | none => rfl
  | some index =>
    have numbered := congrArg (List.map (ExportedSpan.mk index)) same
    simp only [List.map_map] at numbered
    simp only [ofProvider, List.map_map]
    exact numbered

namespace Tagging

/-- A handle for a call that was tagged: the one of its tagging, or a detached one for a context. -/
def follow (call : Tagging) : Following → World × Handle
  | .tagged => call.tagged
  | .detached context => call.tagged.1.detach call.rpc context

/-- Two calls, of a server and of a client, that are tagged alike: by handlers that differ in their
role, under the same parent, with the same numbers to come. -/
structure Mirrors (server client : Tagging) : Prop where
  isServer : server.IsServer
  isClient : client.handler.role = .client
  info : server.info = client.info
  peer : server.rpc.peer = client.rpc.peer
  filter : server.handler.filter = client.handler.filter
  tracer : server.handler.tracer = client.handler.tracer
  provider : server.provider? = client.provider?
  above : server.above.active.map (·.identity) = client.above.active.map (·.identity)

/-- How the two calls are followed: by the handles of their taggings, by detached handles for their
contexts, or by detached handles for others whose spans are the same, up to the side. -/
inductive FollowedAlike (server client : Tagging) : Following → Following → Prop
  | tagged : FollowedAlike server client .tagged .tagged
  | own : FollowedAlike server client (.detached server.context) (.detached client.context)
  | other {first second : Context}
      (span : (server.tagged.1.spanOf first).withoutSide =
        (client.tagged.1.spanOf second).withoutSide)
      (starter : server.tagged.1.starterOf first = client.tagged.1.starterOf second) :
      FollowedAlike server client (.detached first) (.detached second)

variable {server client : Tagging} {inner outer : Following}

/-- The call as the delivery of its events sees it. -/
def callOf (call : Tagging) (following : Following) : Call :=
  ⟨call.handler.role, following.tracking call.handler call.info, call.rpc.peer⟩

theorem outputs_follow (call : Tagging) (following : Following) :
    (call.follow following).1.meters = call.world.meters ∧
      (call.follow following).1.exported = call.world.exported := by
  have outputs := call.world.outputs_tag call.handler call.parent call.rpc call.info
  cases following with
  | tagged => exact outputs
  | detached context => exact outputs

/-- What the events of a call come to. -/
theorem deliverEvents_follow (call : Tagging) (following : Following) (events : List Event) :
    let followed := call.follow following
    let after := followed.1.deliverEvents call.handler followed.2 events
    let start : Progress := ⟨.fresh, followed.1.spanOf followed.2.context⟩
    let outcome := (call.callOf following).run events start
    call.handler.call followed.2 = call.callOf following ∧
      followed.1.Knows followed.2 ∧
      followed.1.progressOf followed.2 = start ∧
      after.progressOf followed.2 = outcome.1 ∧
      after.exported = call.world.exported ++
        ExportedSpan.ofProvider (followed.1.starterOf followed.2.context) outcome.2.spans ∧
      after.meters =
        Meter.recordAt call.world.meters call.handler.meter outcome.2.measurements := by
  -- A detached handle is made in the process after the tagging.
  obtain ⟨world, same, meters, exported⟩ : ∃ world : World,
      call.follow following =
        world.follow call.handler call.parent call.rpc call.info following ∧
      world.meters = call.world.meters ∧ world.exported = call.world.exported := by
    cases following with
    | tagged => exact ⟨call.world, rfl, rfl, rfl⟩
    | detached context =>
      exact ⟨call.tagged.1, rfl,
        call.world.outputs_tag call.handler call.parent call.rpc call.info⟩
  obtain ⟨progress, exports, measured⟩ :=
    world.deliverEvents_follow call.handler call.parent call.rpc call.info following events
  dsimp only
  rw [same]
  rw [exported] at exports
  rw [meters] at measured
  exact ⟨world.call_follow _ _ _ _ _, world.knows_follow _ _ _ _ _,
    world.progressOf_follow _ _ _ _ _, progress, exports, measured⟩

/-- What one more event logs. -/
theorem logs_deliver_follow (call : Tagging) (following : Following) (events : List Event)
    (event : Event) :
    let followed := call.follow following
    let after := followed.1.deliverEvents call.handler followed.2 events
    let reached :=
      ((call.callOf following).run events ⟨.fresh, followed.1.spanOf followed.2.context⟩).1
    (after.deliver call.handler followed.2 event).logs =
      after.logs ++ ((call.callOf following).deliver event reached).2.logs.map (⟨·, false⟩) := by
  intro followed after reached
  obtain ⟨same, -, -, progress, -⟩ := call.deliverEvents_follow following events
  rw [World.deliver_eq_commit, DeliveryLemmas.commit_eq, same, progress]

namespace Mirrors

variable (mirrors : server.Mirrors client)

include mirrors

/-- The spans of the two calls are started alike. -/
theorem started :
    (server.tagged.1.spanOf server.context).withoutSide =
        (client.tagged.1.spanOf client.context).withoutSide ∧
      server.tagged.1.starterOf server.context = client.tagged.1.starterOf client.context := by
  obtain ⟨nextIdentity, recordsNext⟩ := Provider.next_congr client.provider? mirrors.above
  have identity : server.identity = client.identity := by
    simp only [Tagging.identity, Context.identity, server.context_eq, client.context_eq,
      mirrors.provider, nextIdentity]
    rfl
  have parent : server.parentSpan = client.parentSpan := by
    simp only [parentSpan, Context.identity, mirrors.above]
  constructor
  · rw [server.span_eq, client.span_eq, mirrors.provider, mirrors.info, recordsNext, identity,
      parent]
    cases client.provider? with
    | none => rfl
    | some provider =>
      dsimp only
      split <;> rfl
  · rw [server.starter_eq, client.starter_eq, mirrors.provider, mirrors.tracer, recordsNext]

theorem start (alike : FollowedAlike server client inner outer) :
    ((server.follow inner).1.spanOf (server.follow inner).2.context).withoutSide =
        ((client.follow outer).1.spanOf (client.follow outer).2.context).withoutSide ∧
      (server.follow inner).1.starterOf (server.follow inner).2.context =
        (client.follow outer).1.starterOf (client.follow outer).2.context := by
  cases alike with
  | tagged => exact mirrors.started
  | own => exact mirrors.started
  | other span starter => exact ⟨span, starter⟩

theorem callOf (alike : FollowedAlike server client inner outer) :
    (server.callOf inner).Mirrors (client.callOf outer) where
  isServer := mirrors.isServer
  isClient := mirrors.isClient
  tracking := by
    cases alike with
    | tagged =>
      have records : server.handler.records server.info = client.handler.records client.info := by
        simp only [Handler.records, mirrors.filter, mirrors.info]
      show server.handler.trackingOf server.info = client.handler.trackingOf client.info
      unfold Handler.trackingOf
      rw [records, mirrors.info]
    | own => rfl
    | other => rfl
  peer := mirrors.peer

end Mirrors

/-- The events of a call of a server under another policy. -/
theorem deliverEvents_policies {call : Tagging} {policy : StatusPolicy}
    (isServer : call.handler.role = .server policy) (following : Following) (events : List Event)
    (other : StatusPolicy) :
    let otherwise : Tagging := { call with handler := { call.handler with role := .server other } }
    let followed := call.follow following
    let after := followed.1.deliverEvents call.handler followed.2 events
    let afterOther := followed.1.deliverEvents otherwise.handler followed.2 events
    otherwise.follow following = followed ∧
      { afterOther with exported := after.exported } = after ∧
      ∃ spans others, after.exported = call.world.exported ++ spans ∧
        afterOther.exported = call.world.exported ++ others ∧
        others.map ExportedSpan.withoutStatus = spans.map ExportedSpan.withoutStatus := by
  intro otherwise followed after afterOther
  have tagged : call.world.follow otherwise.handler call.parent call.rpc call.info .tagged =
      call.world.follow call.handler call.parent call.rpc call.info .tagged :=
    World.follow_policy isServer
  have same : otherwise.follow following = followed := by
    cases following with
    | tagged => exact tagged
    | detached context => exact congrArg (fun world : World × Handle => world.1.detach _ _) tagged
  obtain ⟨-, known, -⟩ := call.deliverEvents_follow following events
  have kind : call.handler.call followed.2 =
      ⟨.server policy, followed.2.tracking, followed.2.rpc.peer⟩ := by rw [Handler.call, isServer]
  have otherKind : otherwise.handler.call followed.2 =
      ⟨.server other, followed.2.tracking, followed.2.rpc.peer⟩ := rfl
  have committed : after = _ := followed.1.deliverEvents_eq_commit call.handler known events
  have otherCommitted : afterOther = _ :=
    followed.1.deliverEvents_eq_commit otherwise.handler known events
  rw [kind, DeliveryLemmas.commit_eq] at committed
  rw [otherKind, DeliveryLemmas.commit_eq] at otherCommitted
  obtain ⟨progress, output⟩ := Call.run_policies followed.2.tracking followed.2.rpc.peer policy
    other events (followed.1.progressOf followed.2)
  rw [← progress, ← output.measurements, ← output.logs] at otherCommitted
  have exported : followed.1.exported = call.world.exported := (call.outputs_follow following).2
  refine ⟨same, ?_, _, _, ?_, ?_, ExportedSpan.map_ofProvider
    (followed.1.starterOf followed.2.context) output.spans.symm⟩
  · rw [committed, otherCommitted]
  · rw [committed, exported]
  · rw [otherCommitted, exported]

/-- A call of a server and a call of a client that are tagged alike, after the same events, however
they are followed: the measurements are the same up to the prefix of their instruments, the exported
spans up to kind and status, the cells altogether, and what is logged about any further event up to
the field of the role. Another policy of the server changes the status of exported spans and
nothing else, and the handler of a client does not even depend on it. No sampler looks at the kind
of a span, so with equal providers both spans are sampled or none. -/
theorem roles_mirror (mirrors : server.Mirrors client)
    (alike : FollowedAlike server client inner outer) (events : List Event) :
    let served := server.follow inner
    let called := client.follow outer
    let afterServed := served.1.deliverEvents server.handler served.2 events
    let afterCalled := called.1.deliverEvents client.handler called.2 events
    (∃ measured others,
        afterServed.meters = Meter.recordAt server.world.meters server.handler.meter measured ∧
        afterCalled.meters = Meter.recordAt client.world.meters client.handler.meter others ∧
        List.Forall₂ Measurement.Mirrors measured others) ∧
      (∃ spans others, afterServed.exported = server.world.exported ++ spans ∧
        afterCalled.exported = client.world.exported ++ others ∧
        spans.map ExportedSpan.withoutSide = others.map ExportedSpan.withoutSide) ∧
      afterServed.cellOf served.2.cell = afterCalled.cellOf called.2.cell ∧
      (∀ event, ∃ entries others : List Log.Entry,
        (afterServed.deliver server.handler served.2 event).logs =
          afterServed.logs ++ entries.map (⟨·, false⟩) ∧
        (afterCalled.deliver client.handler called.2 event).logs =
          afterCalled.logs ++ others.map (⟨·, false⟩) ∧
        entries.map Log.Entry.withoutRole = others.map Log.Entry.withoutRole) ∧
      (∀ other : StatusPolicy,
        let otherwise : Tagging :=
          { server with handler := { server.handler with role := .server other } }
        let after := served.1.deliverEvents otherwise.handler served.2 events
        otherwise.follow inner = served ∧
          { after with exported := afterServed.exported } = afterServed ∧
          ∃ spans others, afterServed.exported = server.world.exported ++ spans ∧
            after.exported = server.world.exported ++ others ∧
            others.map ExportedSpan.withoutStatus = spans.map ExportedSpan.withoutStatus) ∧
      ∀ (world : World) (options : HandlerOptions) (policy : StatusPolicy),
        world.buildHandler .client { options with policy } = world.buildHandler .client options ∧
        world.buildHandler .server { options with policy } =
          ((world.buildHandler .server options).1,
            { (world.buildHandler .server options).2 with role := .server policy }) := by
  intro served called afterServed afterCalled
  obtain ⟨span, starter⟩ := mirrors.start alike
  obtain ⟨-, -, -, servedEnd, servedExports, servedMeters⟩ :=
    server.deliverEvents_follow inner events
  obtain ⟨-, -, -, calledEnd, calledExports, calledMeters⟩ :=
    client.deliverEvents_follow outer events
  have start : Progress.Mirrors ⟨.fresh, served.1.spanOf served.2.context⟩
      ⟨.fresh, called.1.spanOf called.2.context⟩ := ⟨rfl, span⟩
  obtain ⟨progress, output⟩ := Call.run_mirrors (mirrors.callOf alike) start events
  refine ⟨⟨_, _, servedMeters, calledMeters, output.measurements⟩,
    ⟨_, _, servedExports, calledExports, ?_⟩, ?_, fun event => ?_, fun other => ?_,
    fun world options policy => ⟨rfl, rfl⟩⟩
  · rw [starter]
    exact ExportedSpan.map_ofProvider _ output.spans
  · exact (congrArg Progress.cell servedEnd).trans
      (progress.cell.trans (congrArg Progress.cell calledEnd).symm)
  · exact ⟨_, _, server.logs_deliver_follow inner events event,
      client.logs_deliver_follow outer events event,
      (Call.deliver_mirrors (mirrors.callOf alike) progress event).2.logs⟩
  · obtain ⟨policy, isServer⟩ := mirrors.isServer
    exact deliverEvents_policies isServer inner events other

/-- A failed call with one request, of a server and of a client without a parent, that is followed
through detached handles. -/
theorem roles_mirror_sample :
    let server : Tagging := ⟨Sample.world, Sample.server, .empty, Sample.rpc, Sample.info⟩
    let client : Tagging := { server with handler := { Sample.server with role := .client } }
    let served := server.follow (.detached server.context)
    let called := client.follow (.detached client.context)
    let failed : Completion := ⟨.epoch, .epoch, .empty, some (.status ⟨.notFound, "no user"⟩)⟩
    let events := [Sample.request, ⟨false, .ended failed⟩]
    let afterServed := served.1.deliverEvents server.handler served.2 events
    let afterCalled := called.1.deliverEvents client.handler called.2 events
    (∃ measured others, afterServed.meters = [⟨measured⟩] ∧ afterCalled.meters = [⟨others⟩] ∧
        List.Forall₂ Measurement.Mirrors measured others) ∧
      afterServed.exported.map ExportedSpan.withoutSide =
        afterCalled.exported.map ExportedSpan.withoutSide ∧
      afterServed.exported.map (·.data.status) = [.unset] ∧
      afterCalled.exported.map (·.data.status) = [.error "no user"] := by
  intro server client served called failed events afterServed afterCalled
  have mirrors : server.Mirrors client := ⟨⟨_, rfl⟩, rfl, rfl, rfl, rfl, rfl, rfl, rfl⟩
  obtain ⟨⟨measured, others, meters, otherMeters, same⟩, ⟨spans, otherSpans, exported,
    otherExported, sameSpans⟩, -⟩ := roles_mirror mirrors .own events
  refine ⟨⟨measured, others, meters, otherMeters, same⟩, ?_, by decide, by decide⟩
  show afterServed.exported.map _ = afterCalled.exported.map _
  rw [show afterServed.exported = [] ++ spans from exported,
    show afterCalled.exported = [] ++ otherSpans from otherExported]
  exact sameSpans

end Tagging

end RpcTelemetry
