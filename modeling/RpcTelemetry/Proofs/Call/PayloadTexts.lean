import RpcTelemetry.Proofs.Call.Following
import RpcTelemetry.Proofs.Payload.FirstFailure
import RpcTelemetry.Proofs.Trace.EventTexts

/-!
# Payloads matter for texts only

Two runs of a call are compared whose events differ in nothing but payloads. They come to the same
but for the texts of span events and for warnings (`Call.AlikeBut`): one event keeps this
(`Call.deliver_alike`), and so does a run (`Call.run_alike`). The warnings of a run are those about
the messages that it handles (`Call.warnings_run`).

Result: `World.payloads_change_texts_only`, together with what a payload is shown as.
-/

namespace RpcTelemetry

/-- The event with another payload, if it reports a message. -/
def Event.withPayload (payload : Option Payload) (event : Event) : Event :=
  match event.occurrence with
  | .message direction message => ⟨event.client, .message direction { message with payload }⟩
  | _ => event

/-- Events that differ in nothing but payloads, one by one. -/
def Event.SameButPayloads (events others : List Event) : Prop :=
  List.Forall₂ (fun event other => ∃ payload, other = event.withPayload payload) events others

/-- Exported spans that differ in nothing but the texts of the span events at some positions. -/
structure ExportedSpan.AlikeBut (replaced : Nat → Prop) (span other : ExportedSpan) : Prop where
  provider : other.provider = span.provider
  data : span.data.AlikeBut replaced other.data

/-- The warnings among log entries. -/
def Log.warnings (entries : List Log.Entry) : List Log.Entry := entries.filter (·.level = .warn)

/-- The log entries that are no warnings. -/
def Log.withoutWarnings (entries : List Log.Entry) : List Log.Entry :=
  entries.filter (·.level ≠ .warn)

namespace Payload

/-- What is logged about a payload is a warning. -/
theorem warnings_text (payload : Option Payload) :
    Log.warnings (text payload).2 = (text payload).2 ∧
      Log.withoutWarnings (text payload).2 = [] := by
  unfold text
  split
  · exact ⟨rfl, rfl⟩
  · split <;> exact ⟨rfl, rfl⟩
  · exact ⟨rfl, rfl⟩

end Payload

/-- A peer without attributes is no reason for a warning. -/
theorem Peer.warnings_attributes (peer : Peer) : Log.warnings peer.attributes.2 = [] := by
  unfold attributes
  split <;> rfl

/-- What two runs come to that differ in nothing but such texts, and in warnings. -/
structure Call.AlikeBut (replaced : Nat → Prop) (outcome other : Progress × Output) : Prop where
  cell : other.1.cell = outcome.1.cell
  span : outcome.1.span.AlikeBut replaced other.1.span
  spans : List.Forall₂ (SpanData.AlikeBut replaced) outcome.2.spans other.2.spans
  measurements : other.2.measurements = outcome.2.measurements
  logs : Log.withoutWarnings other.2.logs = Log.withoutWarnings outcome.2.logs

/-- The text is all that another payload changes about the attributes of a message. -/
theorem Message.withoutText_attributes (message : Message) (payload : Option Payload)
    (direction : Direction) (ordinal : UInt64) (text otherText : String) :
    (Message.attributes { message with payload } direction ordinal otherText).map
        Attribute.withoutText =
      (message.attributes direction ordinal text).map Attribute.withoutText := by
  cases direction <;> rfl

namespace Event

theorem withPayload_of_silent {event : Event} (silent : event.message? = none)
    (payload : Option Payload) : event.withPayload payload = event := by
  obtain ⟨client, occurrence⟩ := event
  cases occurrence with
  | message direction message => cases silent
  | _ => rfl

theorem withPayload_of_message {event : Event} {direction : Direction} {message : Message}
    (reported : event.message? = some (direction, message)) (payload : Option Payload) :
    (event.withPayload payload).message? = some (direction, { message with payload }) := by
  obtain ⟨client, occurrence⟩ := event
  cases occurrence with
  | message direction message =>
    cases reported
    rfl
  | _ => cases reported

theorem kind_withPayload (event : Event) (payload : Option Payload) :
    (event.withPayload payload).occurrence.kind = event.occurrence.kind ∧
      (event.withPayload payload).client = event.client := by
  obtain ⟨client, occurrence⟩ := event
  cases occurrence with
  | message direction message => cases direction <;> exact ⟨rfl, rfl⟩
  | _ => exact ⟨rfl, rfl⟩

theorem completion?_withPayload (event : Event) (payload : Option Payload) :
    (event.withPayload payload).completion? = event.completion? := by
  obtain ⟨client, occurrence⟩ := event
  cases occurrence <;> rfl

end Event

namespace Call

/-- Whether a call does more about its next event than to look for its end: it is neither filtered
nor over. -/
def isOpen (call : Call) (progress : Progress) : Bool :=
  !call.tracking.isFiltered && !progress.cell.ended

/-- The message that is handled with an event, if any. -/
def handled? (call : Call) (event : Event) (progress : Progress) : Option (Direction × Message) :=
  if call.isOpen progress then event.message? else none

/-- The messages that are handled with events: those of an open call before its end. -/
def handled (call : Call) (events : List Event) (progress : Progress) :
    List (Direction × Message) :=
  if call.isOpen progress then Event.messages (Event.beforeEnd events) else []

variable {call : Call} {replaced : Nat → Prop} {event : Event} {progress other : Progress}

theorem isOpen_deliver (call : Call) (event : Event) (progress : Progress) :
    call.isOpen (call.deliver event progress).1 = (call.isOpen progress && !event.isEnd) := by
  unfold isOpen
  rw [call.ended_deliver, Bool.not_or, Bool.and_assoc]

theorem deliver_of_isOpen (active : call.isOpen progress = true) (event : Event) :
    call.deliver event progress =
      ((call.deliverLive event progress).1,
        .ofLogs [call.dispatchEntry event] ++ (call.deliverLive event progress).2) := by
  obtain ⟨followed, isOpen⟩ : call.tracking.isFiltered = false ∧ progress.cell.ended = false := by
    simpa [Call.isOpen] using active
  exact deliver_of_open followed isOpen

/-- A call that is filtered or over does no more with an event than to close its span, and warns of
nothing. -/
theorem deliver_of_closed (closed : call.isOpen progress = false) (event : Event) :
    (∃ logs, Log.warnings logs = [] ∧ call.deliver event progress = (progress, .ofLogs logs)) ∨
      ∃ completion, call.deliver event progress = call.close completion progress := by
  cases past : progress.cell.ended with
  | true =>
    refine .inl ⟨call.lateLog event, ?_, deliver_of_ended past event⟩
    unfold lateLog
    split <;> rfl
  | false =>
    have filtered : call.tracking.isFiltered = true := by simpa [isOpen, past] using closed
    obtain ⟨identity, tracking⟩ := Tracking.exists_of_isFiltered filtered
    rw [deliver_of_filtered tracking past]
    cases event.completion? with
    | none => exact .inl ⟨[], rfl, rfl⟩
    | some completion => exact .inr ⟨completion, rfl⟩

theorem handled_cons (call : Call) (event : Event) (rest : List Event) (progress : Progress) :
    call.handled (event :: rest) progress =
      (call.handled? event progress).toList ++
        call.handled rest (call.deliver event progress).1 := by
  unfold handled handled?
  rw [call.isOpen_deliver]
  cases call.isOpen progress with
  | false => rfl
  | true =>
    cases ending : event.isEnd with
    | true =>
      obtain ⟨client, occurrence⟩ := event
      cases occurrence with
      | ended completion => rfl
      | _ => cases ending
    | false =>
      have kept : Event.beforeEnd (event :: rest) = event :: Event.beforeEnd rest :=
        List.takeWhile_cons_of_pos (by rw [ending]; rfl)
      simp only [if_true, Bool.not_false, Bool.and_self]
      rw [kept, Event.messages, List.filterMap_cons]
      cases event.message? <;> rfl

namespace AlikeBut

/-- Two steps in a row. -/
theorem append {outcome second nextOutcome nextSecond : Progress × Output}
    (first : AlikeBut replaced outcome second)
    (later : AlikeBut replaced nextOutcome nextSecond) :
    AlikeBut replaced (nextOutcome.1, outcome.2 ++ nextOutcome.2)
      (nextSecond.1, second.2 ++ nextSecond.2) where
  cell := later.cell
  span := later.span
  spans := List.rel_append first.spans later.spans
  measurements := by
    rw [Output.measurements_append, Output.measurements_append, first.measurements,
      later.measurements]
  logs := by
    simp only [Output.logs_append, Log.withoutWarnings, List.filter_append]
    exact congrArg₂ _ first.logs later.logs

/-- What is alike stays alike when the same is given out before it. -/
theorem after_logs {outcome second : Progress × Output} (alike : AlikeBut replaced outcome second)
    (entries : List Log.Entry) :
    AlikeBut replaced (outcome.1, .ofLogs entries ++ outcome.2)
      (second.1, .ofLogs entries ++ second.2) where
  cell := alike.cell
  span := alike.span
  spans := alike.spans
  measurements := alike.measurements
  logs := by
    simp only [Output.logs_append, Log.withoutWarnings, List.filter_append]
    exact congrArg _ alike.logs

end AlikeBut

/-- Progress that is alike, with nothing given out. -/
theorem alike_of_silent (sameCell : other.cell = progress.cell)
    (alike : progress.span.AlikeBut replaced other.span) (output : Output)
    (quiet : output.spans = []) : AlikeBut replaced (progress, output) (other, output) where
  cell := sameCell
  span := alike
  spans := by
    rw [quiet]
    exact .nil
  measurements := rfl
  logs := rfl

/-- A message with another payload gets the same ordinal and the same measurement. -/
theorem deliverMessage_alike (sameCell : other.cell = progress.cell)
    (alike : progress.span.AlikeBut replaced other.span) (direction : Direction)
    (message : Message) (payload : Option Payload)
    (covered : progress.span.HasRoom → message.payload ≠ payload →
      replaced progress.span.eventCount) :
    AlikeBut replaced (call.deliverMessage direction message progress)
      (call.deliverMessage direction { message with payload } other) := by
  have numbered : call.number direction { message with payload } other.cell =
      call.number direction message progress.cell := by
    rw [sameCell]
    rfl
  unfold deliverMessage
  rw [numbered]
  refine ⟨rfl, ?_, .nil, rfl, ?_⟩
  · refine alike.addEvent _ (message.withoutText_attributes _ _ _ _ _) fun room kept => ?_
    by_cases same : message.payload = payload
    · subst same
      rfl
    · exact absurd (covered room same) kept
  · exact (Payload.warnings_text _).2.trans (Payload.warnings_text _).2.symm

theorem close_alike (sameCell : other.cell = progress.cell)
    (alike : progress.span.AlikeBut replaced other.span) (completion : Completion) :
    AlikeBut replaced (call.close completion progress) (call.close completion other) where
  cell := by
    show { other.cell with ended := true } = { progress.cell with ended := true }
    rw [sameCell]
  span := (alike.conclude _).finish
  spans := (alike.conclude _).exported
  measurements := rfl
  logs := rfl

/-- An event of an open call keeps what is alike. -/
theorem deliverLive_alike (sameCell : other.cell = progress.cell)
    (alike : progress.span.AlikeBut replaced other.span) (payload : Option Payload)
    (covered : progress.span.HasRoom → event.message? ≠ (event.withPayload payload).message? →
      replaced progress.span.eventCount) :
    AlikeBut replaced (call.deliverLive event progress)
      (call.deliverLive (event.withPayload payload) other) := by
  obtain ⟨client, occurrence⟩ := event
  cases occurrence with
  | message direction message =>
    refine deliverMessage_alike sameCell alike direction message payload fun room differs => ?_
    refine covered room fun same => differs ?_
    exact congrArg (fun report => report.2.payload) (Option.some.inj same)
  | ended completion =>
    have closed : AlikeBut replaced (call.close completion progress)
        (call.close completion other) := close_alike sameCell alike completion
    have summed : call.summary completion other.cell = call.summary completion progress.cell := by
      rw [sameCell]
    refine ⟨closed.cell, closed.span, ?_, ?_, rfl⟩
    · show List.Forall₂ _ (_ ++ _ ++ []) (_ ++ _ ++ [])
      rw [List.append_nil, List.append_nil]
      exact closed.spans
    · show _ ++ call.summary completion other.cell = _ ++ call.summary completion progress.cell
      rw [summed]
      rfl
  | header direction metadata =>
    cases direction with
    | inbound => exact alike_of_silent sameCell alike _ rfl
    | outbound =>
      show AlikeBut replaced (call.deliverHeader progress) (call.deliverHeader other)
      unfold deliverHeader
      cases call.peer with
      | none => exact alike_of_silent sameCell alike _ rfl
      | some peer =>
        refine alike_of_silent ?_ (alike.setAttributes _) _ rfl
        exact sameCell
  | _ => exact alike_of_silent sameCell alike _ rfl

/-- An event keeps what is alike. -/
theorem deliver_alike (sameCell : other.cell = progress.cell)
    (alike : progress.span.AlikeBut replaced other.span) (payload : Option Payload)
    (covered : progress.span.HasRoom →
      call.handled? event progress ≠ call.handled? (event.withPayload payload) other →
        replaced progress.span.eventCount) :
    AlikeBut replaced (call.deliver event progress)
      (call.deliver (event.withPayload payload) other) := by
  obtain ⟨kind, client⟩ := event.kind_withPayload payload
  cases past : progress.cell.ended with
  | true =>
    have late : call.lateLog (event.withPayload payload) = call.lateLog event := by
      unfold lateLog lateEntry
      rw [kind]
    rw [deliver_of_ended past, deliver_of_ended (sameCell ▸ past), late]
    exact alike_of_silent sameCell alike _ rfl
  | false =>
    have otherPast : other.cell.ended = false := sameCell ▸ past
    cases filtered : call.tracking.isFiltered with
    | true =>
      obtain ⟨identity, tracking⟩ := Tracking.exists_of_isFiltered filtered
      rw [deliver_of_filtered tracking past, deliver_of_filtered tracking otherPast,
        event.completion?_withPayload]
      cases event.completion? with
      | none => exact alike_of_silent sameCell alike _ rfl
      | some completion => exact close_alike sameCell alike completion
    | false =>
      have dispatched : call.dispatchEntry (event.withPayload payload) =
          call.dispatchEntry event := by
        unfold dispatchEntry
        rw [kind, client]
      simp only [handled?, isOpen, filtered, past, otherPast] at covered
      rw [deliver_of_open filtered past, deliver_of_open filtered otherPast, dispatched]
      exact (deliverLive_alike sameCell alike payload covered).after_logs _

/-- A span has no room after its end. -/
theorem not_hasRoom_close (call : Call) (completion : Completion) (progress : Progress) :
    ¬(call.close completion progress).1.span.HasRoom :=
  fun room => Bool.false_ne_true room.1

/-- Where an event leaves room, there was room before, and only a handled message took a place. -/
theorem room_deliver (room : (call.deliver event progress).1.span.HasRoom) :
    progress.span.HasRoom ∧ (call.deliver event progress).1.span.eventCount =
      progress.span.eventCount + (call.handled? event progress).toList.length := by
  unfold handled?
  cases active : call.isOpen progress with
  | false =>
    rcases deliver_of_closed active event with ⟨logs, -, kept⟩ | ⟨completion, closed⟩
    · rw [kept] at room ⊢
      exact ⟨room, rfl⟩
    · rw [closed] at room
      exact absurd room (call.not_hasRoom_close completion progress)
  | true =>
    rw [deliver_of_isOpen active] at room ⊢
    cases reported : event.message? with
    | some report =>
      rw [(call.deliverLive_of_message progress reported).1] at room ⊢
      exact room.of_addEvent
    | none =>
      cases ending : event.completion? with
      | some completion =>
        have ended := Event.occurrence_of_completion? ending
        have closed : call.deliverLive event progress = call.deliverEnd completion progress := by
          rw [deliverLive, ended]
        rw [closed] at room
        exact absurd room (call.not_hasRoom_close completion progress)
      | none =>
        obtain ⟨logs, silent⟩ := call.deliverLive_of_silent progress reported
          (Event.completion?_eq_none_iff.1 ending)
        rw [silent] at room ⊢
        obtain ⟨count, same⟩ := progress.span.room_setAttributes (call.headerAttributes event)
        exact ⟨same.1 room, count⟩

/-- With another payload the same messages are handled. -/
theorem handled?_withPayload (sameCell : other.cell = progress.cell) (payload : Option Payload) :
    call.handled? (event.withPayload payload) other =
      (call.handled? event progress).map fun (direction, message) =>
        (direction, { message with payload }) := by
  unfold handled? isOpen
  rw [sameCell]
  split
  · cases reported : event.message? with
    | none => rw [Event.withPayload_of_silent reported, reported]; rfl
    | some report => exact Event.withPayload_of_message reported payload
  · rfl

/-- A run keeps what is alike, as long as the positions of the messages that get another payload are
among those given up. -/
theorem run_alike {events others : List Event} (payloads : Event.SameButPayloads events others)
    (sameCell : other.cell = progress.cell) (alike : progress.span.AlikeBut replaced other.span)
    (covered : progress.span.HasRoom → ∀ index,
      (call.handled events progress)[index]? ≠ (call.handled others other)[index]? →
        replaced (progress.span.eventCount + index)) :
    AlikeBut replaced (call.run events progress) (call.run others other) := by
  -- A handled message takes one position, so the later ones are counted from the next progress on;
  -- a span without room takes no more of them, and then nothing has to be given up.
  induction payloads generalizing progress other with
  | nil => exact alike_of_silent sameCell alike _ rfl
  | @cons event _ rest otherRest replacement _ ih =>
    obtain ⟨payload, rfl⟩ := replacement
    have paired : call.handled? (event.withPayload payload) other =
        (call.handled? event progress).map fun (direction, message) =>
          (direction, { message with payload }) := handled?_withPayload sameCell payload
    simp only [handled_cons, paired] at covered
    have first : AlikeBut replaced (call.deliver event progress)
        (call.deliver (event.withPayload payload) other) := by
      refine deliver_alike sameCell alike payload fun room differs => ?_
      have here := covered room 0
      rw [paired] at differs
      cases reported : call.handled? event progress with
      | none =>
        rw [reported] at differs
        exact absurd rfl differs
      | some report =>
        rw [reported] at differs here
        exact here differs
    have later := ih first.cell first.span fun room index differs => by
      obtain ⟨before, count⟩ := room_deliver room
      have there := covered before ((call.handled? event progress).toList.length + index)
      rw [count, Nat.add_assoc]
      refine there fun same => differs ?_
      have sameLength : ((call.handled? event progress).map fun (direction, message) =>
          (direction, { message with payload })).toList.length =
            (call.handled? event progress).toList.length := by
        cases call.handled? event progress <;> rfl
      rw [List.getElem?_append_right (Nat.le_add_right _ _), Nat.add_sub_cancel_left] at same
      rw [List.getElem?_append_right (by rw [sameLength]; exact Nat.le_add_right _ _), sameLength,
        Nat.add_sub_cancel_left] at same
      exact same
    rw [run_cons, run_cons]
    exact first.append later

/-- Only messages are warned about. -/
theorem warnings_deliver (call : Call) (event : Event) (progress : Progress) :
    Log.warnings (call.deliver event progress).2.logs =
      (call.handled? event progress).toList.flatMap fun (_, message) =>
        (Payload.text message.payload).2 := by
  unfold handled?
  cases active : call.isOpen progress with
  | false =>
    rcases deliver_of_closed active event with ⟨logs, quiet, kept⟩ | ⟨completion, closed⟩
    · rw [kept]
      exact quiet
    · rw [closed]
      rfl
  | true =>
    rw [deliver_of_isOpen active]
    show Log.warnings (call.deliverLive event progress).2.logs = _
    obtain ⟨client, occurrence⟩ := event
    cases occurrence with
    | message direction message =>
      exact (Payload.warnings_text message.payload).1.trans (List.append_nil _).symm
    | ended completion =>
      show Log.warnings ((if _ then _ else _) ++ [] ++ []) = []
      split <;> rfl
    | header direction metadata =>
      cases direction with
      | inbound => rfl
      | outbound =>
        show Log.warnings (call.deliverHeader progress).2.logs = []
        unfold deliverHeader
        cases call.peer with
        | none => rfl
        | some peer => exact peer.warnings_attributes
    | _ => rfl

/-- The warnings of a run are those about the messages that it handles. -/
theorem warnings_run (call : Call) (events : List Event) (progress : Progress) :
    Log.warnings (call.run events progress).2.logs =
      (call.handled events progress).flatMap fun (_, message) =>
        (Payload.text message.payload).2 := by
  induction events generalizing progress with
  | nil =>
    unfold handled
    split <;> rfl
  | cons event rest ih =>
    rw [run_cons, handled_cons, List.flatMap_append, ← warnings_deliver, ← ih]
    exact List.filter_append ..

end Call

/-- Spans that are alike are exported alike. -/
theorem ExportedSpan.AlikeBut.ofProvider {replaced : Nat → Prop} {spans others : List SpanData}
    (alike : List.Forall₂ (SpanData.AlikeBut replaced) spans others) (provider : Option Nat) :
    List.Forall₂ (ExportedSpan.AlikeBut replaced) (ExportedSpan.ofProvider provider spans)
      (ExportedSpan.ofProvider provider others) := by
  cases provider with
  | none => exact .nil
  | some index =>
    refine List.forall₂_map_left_iff.2 (List.forall₂_map_right_iff.2 ?_)
    exact alike.imp fun _ _ same => ⟨rfl, same⟩

namespace World

open DeliveryLemmas Payload

/-- A structured message is shown by its whole document, or by the fault of its first node that has
one, which is the only thing that is warned about. Whatever payloads the messages of a call have,
nothing but their texts and these warnings depends on it: not the rest of its span, not what is
exported, counted or measured, and nothing else in the process. -/
theorem payloads_change_texts_only :
    (∀ message : Value Empty,
      ((∀ node ∈ message.nodes, node.fault? = none) →
        text (some (.structured message)) = (message.tree.pretty, [])) ∧
      ∀ before node after error, message.nodes = before ++ node :: after →
        (∀ earlier ∈ before, earlier.fault? = none) → node.fault? = some error →
          text (some (.structured message)) = ("Error marshaling to JSON: " ++ error.message,
            [⟨.warn, "payload serialization failed", [("error", .shown error.message)]⟩])) ∧
    ∀ {world : World} {handler : Handler} {handle : Handle} {events others : List Event},
      world.Knows handle → Event.SameButPayloads events others →
        let call := handler.call handle
        let messages := call.handled events (world.progressOf handle)
        let otherMessages := call.handled others (world.progressOf handle)
        let replaced (position : Nat) : Prop := ∃ index,
          position = (world.spanOf handle.context).eventCount + index ∧
            messages[index]? ≠ otherMessages[index]?
        let after := world.deliverEvents handler handle events
        let other := world.deliverEvents handler handle others
        other = { after with
          spans := other.spans, exported := other.exported, logs := other.logs } ∧
        (other.spans = KeptSpan.replaceAt after.spans handle.context.record?
            (other.spanOf handle.context) ∧
          (after.spanOf handle.context).AlikeBut replaced (other.spanOf handle.context)) ∧
        (∃ exports otherExports,
          after.exported = world.exported ++ exports ∧
          other.exported = world.exported ++ otherExports ∧
          List.Forall₂ (ExportedSpan.AlikeBut replaced) exports otherExports) ∧
        ∃ entries otherEntries,
          after.logs = world.logs ++ entries.map (⟨·, false⟩) ∧
          other.logs = world.logs ++ otherEntries.map (⟨·, false⟩) ∧
          Log.withoutWarnings otherEntries = Log.withoutWarnings entries ∧
          Log.warnings entries = messages.flatMap (fun (_, message) => (text message.payload).2) ∧
          Log.warnings otherEntries =
            otherMessages.flatMap fun (_, message) => (text message.payload).2 := by
  refine ⟨text_structured, ?_⟩
  intro world handler handle events others known payloads call messages otherMessages replaced after
    other
  let outcome := call.run events (world.progressOf handle)
  let otherOutcome := call.run others (world.progressOf handle)
  have alike : Call.AlikeBut replaced outcome otherOutcome :=
    Call.run_alike payloads rfl (.refl _ _) fun _ index differs => ⟨index, rfl, differs⟩
  have committed : after = world.commit handler handle outcome :=
    world.deliverEvents_eq_commit handler known events
  have otherCommitted : other = world.commit handler handle otherOutcome :=
    world.deliverEvents_eq_commit handler known others
  have span : after.spanOf handle.context = outcome.1.span :=
    congrArg Progress.span (world.deliverEvents_eq_run handler known events).1
  have otherSpan : other.spanOf handle.context = otherOutcome.1.span :=
    congrArg Progress.span (world.deliverEvents_eq_run handler known others).1
  rw [commit_eq] at committed otherCommitted
  refine ⟨?_, ⟨?_, ?_⟩, ⟨_, _, by rw [committed], by rw [otherCommitted], ?_⟩,
    ⟨outcome.2.logs, otherOutcome.2.logs, by rw [committed], by rw [otherCommitted], alike.logs,
      call.warnings_run events _, call.warnings_run others _⟩⟩
  · rw [committed, otherCommitted, alike.cell, alike.measurements]
  · rw [otherSpan, otherCommitted, committed]
    exact (replaceAt_replaceAt world.spans handle.context.record? _ _).symm
  · rw [span, otherSpan]
    exact alike.span
  · exact ExportedSpan.AlikeBut.ofProvider alike.spans _

/-- The request of a call, without a payload and with one that cannot be serialised. -/
theorem payloads_of_sample_call :
    let tagged := Sample.world.tag Sample.server .empty Sample.rpc Sample.info
    let broken : Payload := .structured (.failing "no")
    let events : List Event := [Sample.request, ⟨false, .ended Sample.success⟩]
    let others : List Event :=
      [Sample.request.withPayload (some broken), ⟨false, .ended Sample.success⟩]
    let after := tagged.1.deliverEvents Sample.server tagged.2 events
    let other := tagged.1.deliverEvents Sample.server tagged.2 others
    text (some broken) = ("Error marshaling to JSON: no",
        [⟨.warn, "payload serialization failed", [("error", .shown "no")]⟩]) ∧
      other.meters = after.meters ∧
      ∃ entries otherEntries,
        after.logs = tagged.1.logs ++ entries.map (⟨·, false⟩) ∧
        other.logs = tagged.1.logs ++ otherEntries.map (⟨·, false⟩) ∧
        Log.withoutWarnings otherEntries = Log.withoutWarnings entries ∧
        Log.warnings entries = [] ∧
        Log.warnings otherEntries =
          [⟨.warn, "payload serialization failed", [("error", .shown "no")]⟩] := by
  intro tagged broken events others after other
  have alone : Event.SameButPayloads events others :=
    .cons ⟨some broken, rfl⟩ (.cons ⟨none, rfl⟩ .nil)
  have known : tagged.1.Knows tagged.2 :=
    Sample.world.knows_tag Sample.server .empty Sample.rpc Sample.info
  have isOpen : (Sample.server.call tagged.2).isOpen (tagged.1.progressOf tagged.2) = true := by
    unfold Call.isOpen
    rw [Sample.world.tracking_call_tag Sample.server .empty Sample.rpc Sample.info rfl,
      Sample.world.progressOf_tag]
    rfl
  obtain ⟨shown, unchanged⟩ := payloads_change_texts_only
  have broke : text (some broken) = ("Error marshaling to JSON: no",
      [⟨.warn, "payload serialization failed", [("error", .shown "no")]⟩]) := by
    have plain : (SerialError.custom "no").message = "no" := by decide
    have found := (shown (.failing "no")).2 [] (.value (.failing "no")) [] (.custom "no") rfl
      (List.forall_mem_nil _) rfl
    rw [plain] at found
    exact found
  obtain ⟨frame, -, -, entries, otherEntries, logs, otherLogs, kept, warned, otherWarned⟩ :=
    @unchanged tagged.1 Sample.server tagged.2 events others known alone
  simp only [Call.handled, isOpen, if_true] at warned otherWarned
  have meters := congrArg World.meters frame
  dsimp only at meters
  refine ⟨broke, meters, entries, otherEntries, logs, otherLogs, kept, ?_, ?_⟩
  · exact warned
  · refine otherWarned.trans ?_
    show (text (some broken)).2 ++ [] = _
    rw [broke]
    rfl

end World

end RpcTelemetry
