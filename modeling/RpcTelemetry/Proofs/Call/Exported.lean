import RpcTelemetry.Proofs.World.Tagging

/-!
# The exported span of a whole call

Result: `exported_of_whole_call`. A recorded and sampled call, from its tagging to its end, exports
one span. Its content is what `Role.spanOf` reads off the events of the call, cut to the limits of
the provider: the first attributes and the first messages, and the numbers of the others. A message
beyond the limit has its ordinal all the same.
-/

namespace RpcTelemetry

/-- The attributes of the event of a message, by its ordinal in its direction. Numbers end at the
largest signed number of 64 bits. -/
def Message.eventAttributes (message : Message) (direction : Direction) (ordinal : Nat) :
    List Attribute :=
  let bounded (number : Nat) : AttributeValue := .int (min (number : Int) 9223372036854775807)
  let (type, key) := match direction with
    | .inbound => ("RECEIVED", "request")
    | .outbound => ("SENT", "response")
  [⟨"message.type", .text type⟩, ⟨"message.id", bounded ordinal⟩,
    ⟨"message.compressed_size", bounded message.compressed.toNat⟩,
    ⟨"message.uncompressed_size", bounded message.length.toNat⟩,
    ⟨key, .text (Payload.text message.payload).1⟩]

/-- The events of messages, in order. The ordinal of a message is the number of messages of its
direction up to it. -/
def messageEvents (messages : List (Direction × Message)) : List (String × List Attribute) :=
  messages.mapIdx fun index (direction, message) =>
    ("message", message.eventAttributes direction
      ((messages.take (index + 1)).countP (·.1 = direction)))

/-- All that the span of a whole call is given, read off its events. -/
def Role.spanOf (role : Role) (fullMethod : String) (peer : Option Peer) (context : SpanContext)
    (parent : BitVec 64) (before : List Event) (completion : Completion) : Given where
  name := (Method.parse fullMethod).1
  kind := role.spanKind
  context := context
  parent := parent
  attributes := (Method.parse fullMethod).2 ++ [⟨"rpc.system", .text "grpc"⟩] ++
    (before.flatMap fun event => match event.occurrence, peer with
      | .header .outbound _, some peer => peer.attributes.1
      | _, _ => []) ++
    [⟨"rpc.grpc.status_code", .int completion.codeNumber⟩]
  events := messageEvents (Event.messages before)
  status := (role.outcome completion.failure).status
  scope := ⟨"spark-otel-rpc", "0.1.0"⟩

namespace ExportedLemmas

theorem take_mapIdx_congr {α β : Type} {first second : Nat → α → β} {list : List α} {limit : Nat}
    (same : ∀ index element, index < limit → first index element = second index element) :
    (list.mapIdx first).take limit = (list.mapIdx second).take limit := by
  refine List.ext_getElem (by simp only [List.length_take, List.length_mapIdx]) ?_
  intro index inside _
  have early : index < limit := by
    rw [List.length_take] at inside
    omega
  simp only [List.getElem_take, List.getElem_mapIdx, same _ _ early]

/-- An ordinal that fits into 64 bits is shown as it is, up to the largest signed number. -/
theorem attributes_ofNat (message : Message) (direction : Direction) {ordinal : Nat}
    (fits : ordinal < UInt64.size) :
    message.attributes direction (.ofNat ordinal) (Payload.text message.payload).1 =
      message.eventAttributes direction ordinal := by
  have shown : Attribute.saturated (.ofNat ordinal) = min (ordinal : Int) 9223372036854775807 := by
    rw [Attribute.saturated, UInt64.toNat_ofNat_of_lt' fits]
    rfl
  unfold Message.attributes
  rw [shown]
  cases direction <;> rfl

variable {call : Call} {fullMethod : String}

/-- The events that fit within a limit have the ordinals of their messages. -/
theorem take_entries {identity : List Attribute} (recorded : call.tracking = .recorded identity)
    (messages : List (Direction × Message)) {limit : Nat} (narrow : limit < UInt64.size) :
    (call.entries messages).take limit = (messageEvents messages).take limit := by
  refine take_mapIdx_congr fun index (direction, message) early => ?_
  have counted : call.tally (messages.take (index + 1)) direction =
      (messages.take (index + 1)).countP (·.1 = direction) := by
    rw [Call.tally, recorded]
  have few : (messages.take (index + 1)).countP (·.1 = direction) < UInt64.size :=
    calc (messages.take (index + 1)).countP (·.1 = direction)
        ≤ (messages.take (index + 1)).length := List.countP_le_length
      _ ≤ index + 1 := List.length_take_le _ _
      _ < UInt64.size := by omega
  show (_, _) = (_, _)
  rw [counted, attributes_ofNat message direction few]
  rfl

/-- Limits see no more of the events than their number and the first ones. -/
theorem within_congr (given : Given) {events : List (String × List Attribute)}
    {limits : SpanLimits} (counted : events.length = given.events.length)
    (same : events.take limits.events = given.events.take limits.events) :
    { given with events }.within limits = given.within limits := by
  unfold Given.within
  simp only [← List.map_take, counted, same]

/-- Within limits, the account of a recorded call is what the events tell. -/
theorem within_account (recorded : call.tracking = .recorded (Method.identity fullMethod))
    (context : SpanContext) (parent : BitVec 64) (before : List Event) (completion : Completion)
    {limits : SpanLimits} (narrow : limits.events < UInt64.size) :
    let outcome := call.role.outcome completion.failure
    let given : Given := ⟨(Method.parse fullMethod).1, call.role.spanKind, context, parent,
      Method.identity fullMethod, [], .unset, callScope⟩
    (((call.givenAfter given before).addAttributes [outcome.code.attribute]).withStatus
        outcome.status).within limits =
      (call.role.spanOf fullMethod call.peer context parent before completion).within limits := by
  intro outcome given
  let told := call.role.spanOf fullMethod call.peer context parent before completion
  have attributes : Method.identity fullMethod ++ before.flatMap call.headerAttributes ++
      [outcome.code.attribute] = told.attributes := by
    rw [Code.attribute, Role.number_outcome]
    rfl
  calc (((call.givenAfter given before).addAttributes [outcome.code.attribute]).withStatus
        outcome.status).within limits
      = { told with events := call.entries (Event.messages before) }.within limits := by
        congr 1
        show Given.mk .. = Given.mk ..
        congr 1
    _ = told.within limits := by
      refine within_congr told ?_ (take_entries recorded _ narrow)
      show (call.entries _).length = (messageEvents _).length
      rw [Call.entries, messageEvents, List.length_mapIdx, List.length_mapIdx]

end ExportedLemmas

open ExportedLemmas

namespace World

variable {world : World} {handler : Handler} {parent : Context} {rpc : CallContext}
  {info : CallInfo} {before : List Delivery} {last : Delivery} {completion : Completion}
  {tracer : Nat} {provider : Provider}

/-- A recorded and sampled call, from its tagging to its end, through any clones of its handle,
exports what its events tell, cut to the limits of its provider. The limit on events is itself a
number of fewer than 64 bits, so no ordinal has started again from 0 where it is shown. -/
theorem exported_of_whole_call (accepted : handler.records info = true)
    (traced : handler.tracer = some tracer) (found : world.providers[tracer]? = some provider)
    (exporting : provider.exporting = true) (narrow : provider.limits.events < UInt64.size)
    (sampled : (world.tag handler parent rpc info).2.context.identity.isSampled = true)
    (clones : ∀ delivery ∈ before ++ [last],
      (world.tag handler parent rpc info).2.IsClone delivery.handle)
    (early : ∀ delivery ∈ before, delivery.event.isEnd = false)
    (ended : last.event.occurrence = .ended completion) :
    ((world.tag handler parent rpc info).1.deliverAll handler (before ++ [last])).exported =
      world.exported ++
        [⟨tracer,
          (handler.role.spanOf info.fullMethod rpc.peer
            (world.tag handler parent rpc info).2.context.identity
            (world.parentOf handler parent rpc).identity.span (before.map (·.event))
            completion).within provider.limits⟩] := by
  have recorded := world.tracking_call_tag handler parent rpc info accepted
  obtain ⟨starter, started⟩ := world.span_tag handler parent rpc info traced found sampled
  rw [exporting] at started
  obtain ⟨-, exported⟩ := world.outputs_of_accepted handler parent rpc info accepted clones early
    ended
  have told := within_account recorded (world.tag handler parent rpc info).2.context.identity
    (world.parentOf handler parent rpc).identity.span (before.map (·.event)) completion narrow
  rw [exported rfl started, starter, ← world.peer_tag handler parent rpc info]
  exact congrArg (fun data => world.exported ++ [ExportedSpan.mk tracer data]) told

/-- A call with one request and no response, the request through a clone. -/
theorem exported_of_sample_call :
    ((Sample.world.tag Sample.server .empty Sample.rpc Sample.info).1.deliverAll Sample.server
        (Sample.before ++ [Sample.last])).exported =
      [⟨0, {
        name := "users.Directory/Lookup"
        kind := .server
        context := ⟨1, 1, 1, false, .empty⟩
        parent := 0
        attributes := [⟨"rpc.service", .text "users.Directory"⟩, ⟨"rpc.method", .text "Lookup"⟩,
          ⟨"rpc.system", .text "grpc"⟩, ⟨"rpc.grpc.status_code", .int 0⟩]
        droppedAttributes := 0
        events := [⟨"message", [⟨"message.type", .text "RECEIVED"⟩, ⟨"message.id", .int 1⟩,
          ⟨"message.compressed_size", .int 5⟩, ⟨"message.uncompressed_size", .int 5⟩,
          ⟨"request", .text "null"⟩], 0⟩]
        droppedEvents := 0
        status := .unset
        scope := ⟨"spark-otel-rpc", "0.1.0"⟩ }⟩] := by
  have named : Method.parse "/users.Directory/Lookup" = ("users.Directory/Lookup",
      [⟨"rpc.service", .text "users.Directory"⟩, ⟨"rpc.method", .text "Lookup"⟩]) := by decide
  have narrow : SpanLimits.standard.events < UInt64.size := by decide
  calc ((Sample.world.tag Sample.server .empty Sample.rpc Sample.info).1.deliverAll Sample.server
        (Sample.before ++ [Sample.last])).exported
      = [] ++ [⟨0, (Sample.server.role.spanOf "/users.Directory/Lookup" Sample.rpc.peer
          Sample.handle.context.identity 0 [Sample.request] Sample.success).within .standard⟩] :=
        exported_of_whole_call rfl rfl rfl rfl narrow rfl
          Sample.isClone_of_mem (List.forall_mem_singleton.2 rfl) rfl
    _ = _ := by
      simp only [Role.spanOf, named]
      rfl

end World

end RpcTelemetry
