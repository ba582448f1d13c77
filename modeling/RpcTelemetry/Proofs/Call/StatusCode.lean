import RpcTelemetry.Proofs.Call.Following

/-!
# One status code

Result: `status_code_agrees`. Why a call failed is a chain of errors. The first status on it, or
else an unknown one with the text of the outermost error, gives the code that is told everywhere: on
the span, with every measurement of the call as a whole, and in the report of the end. A policy has
a say in the status of the span only, and is not even asked if nothing failed (`run_policy`).
-/

namespace RpcTelemetry

namespace Attribute

/-- The status codes among attributes. -/
def statusCodes (attributes : List Attribute) : List AttributeValue :=
  (attributes.filter (·.key = "rpc.grpc.status_code")).map (·.value)

end Attribute

/-- The instruments that measure a call as a whole. -/
def Role.wholeInstruments (role : Role) : List String :=
  ["duration", "requests_per_rpc", "responses_per_rpc"].map ("rpc." ++ role.label ++ "." ++ ·)

/-- Those of them that measure a call that is followed in some way: all if it is recorded, none if
it is filtered, and only the first one if it is detached. -/
def Following.wholeInstruments (handler : Handler) (info : CallInfo) : Following → List String
  | .tagged => if handler.records info then handler.role.wholeInstruments else []
  | .detached _ => handler.role.wholeInstruments.take 1

namespace Failure

variable (root : Option Status)

/-- A chain of errors tells the status that it ends in, and shows its outermost error. -/
theorem exists_ofChain_cons (message : String) (inner : List String) :
    ∃ failure, ofChain root (message :: inner) = some failure ∧ failure.status? = root ∧
      failure.display = message := by
  induction inner generalizing message with
  | nil =>
    cases root with
    | none => exact ⟨.plain message, rfl, rfl, rfl⟩
    | some status => exact ⟨.caused message (.status status), rfl, rfl, rfl⟩
  | cons next inner ih =>
    obtain ⟨cause, chain, found, -⟩ := ih next
    exact ⟨.caused message cause, by rw [ofChain, chain], found, rfl⟩

/-- The status of a chain of errors: the one that it ends in or, if it ends in none, an unknown one
with the text of the outermost error. -/
theorem toStatus_ofChain (messages : List String) :
    (ofChain root messages).map toStatus = root.or (messages.head?.map (⟨.unknown, ·⟩)) := by
  cases messages with
  | nil => cases root <;> rfl
  | cons message inner =>
    obtain ⟨failure, chain, found, shown⟩ := exists_ofChain_cons root message inner
    rw [chain, Option.map_some, toStatus, found, shown]
    cases root <;> rfl

/-- Every failure is a chain of errors. -/
theorem exists_chain (failure : Failure) :
    ∃ root messages, ofChain root messages = some failure := by
  induction failure with
  | status found => exact ⟨some found, [], rfl⟩
  | plain message => exact ⟨none, [message], rfl⟩
  | caused message cause ih =>
    obtain ⟨root, messages, inner⟩ := ih
    exact ⟨root, message :: messages, by rw [ofChain, inner]⟩

end Failure

namespace StatusCodeLemmas

variable {items : List Attribute}

theorem statusCodes_of_others (others : ∀ item ∈ items, item.key ≠ Convention.statusCode) :
    Attribute.statusCodes items = [] :=
  List.map_eq_nil_iff.2 (List.filter_eq_nil_iff.2 fun item present same =>
    others item present (of_decide_eq_true same))

theorem statusCodes_append_code (others : ∀ item ∈ items, item.key ≠ Convention.statusCode)
    (code : Code) : Attribute.statusCodes (items ++ [code.attribute]) = [.int code.number] := by
  have none := statusCodes_of_others others
  unfold Attribute.statusCodes at none ⊢
  rw [List.filter_append, List.map_append, none]
  rfl

end StatusCodeLemmas

open StatusCodeLemmas

namespace Span

variable {span : Span}

/-- An outcome on a span without a status: the code goes where attributes have room, and the status
is that of the outcome. -/
theorem conclude_of_unset {data : SpanData} (there : span.data = some data)
    (unset : data.status = .unset) (outcome : Outcome) :
    (span.conclude outcome).data = some
      (if data.attributes.length < span.limits.attributes then
        { data with
          attributes := data.attributes ++ [outcome.code.attribute]
          status := outcome.status }
      else
        { data with
          droppedAttributes := data.droppedAttributes + 1
          status := outcome.status }) := by
  obtain ⟨status, code⟩ := outcome
  rw [conclude, setStatus, setAttribute, there]
  simp only [Option.map_some, Option.some.injEq]
  -- Only the unset status leaves the old one, which is the same.
  split <;> cases status <;> simp [SpanStatus.replaces, unset]

/-- What a span tells that had no outcome and has got one: the status and the code. Only a limit on
attributes takes the code away. -/
theorem Unconcluded.told (unconcluded : span.Unconcluded) (outcome : Outcome) :
    ∀ data ∈ (span.conclude outcome).exported, data.status = outcome.status ∧
      (Attribute.statusCodes data.attributes = [.int outcome.code.number] ∨
        data.droppedAttributes ≠ 0 ∧ Attribute.statusCodes data.attributes = []) := by
  intro data told
  obtain ⟨exporting, present⟩ : (span.conclude outcome).exporting = true ∧
      (span.conclude outcome).data = some data := by
    simpa [exported] using told
  cases there : span.data with
  | none =>
    rw [conclude_of_over there, there] at present
    cases present
  | some former =>
    obtain ⟨unset, others⟩ := unconcluded former there
    rw [conclude_of_unset there unset] at present
    obtain rfl := Option.some.inj present
    split
    · exact ⟨rfl, .inl (statusCodes_append_code others outcome.code)⟩
    · exact ⟨rfl, .inr ⟨Nat.succ_ne_zero _, statusCodes_of_others others⟩⟩

/-- As many spans are given out as if the span had ended before. -/
theorem Kept.length_exported {later : Span} (kept : span.Kept later) (outcome : Outcome) :
    (later.conclude outcome).exported.length = span.exported.length := by
  have present := congrArg Option.isSome
    ((identity_conclude later outcome).trans kept.identity)
  rw [Option.isSome_map, Option.isSome_map] at present
  have exporting : (later.conclude outcome).exporting = span.exporting := kept.exporting
  unfold exported
  rw [exporting, apply_ite List.length, apply_ite List.length, Option.length_toList,
    Option.length_toList, present]

end Span

namespace StatusCodeLemmas

/-- The code of the outcome in either role is that of the status. -/
theorem number_of_status (completion : Completion) :
    completion.codeNumber = ((completion.status?.map Status.code).getD .ok).number := by
  unfold Completion.codeNumber
  cases completion.status? <;> rfl

theorem status_outcome (role : Role) (completion : Completion) :
    (role.outcome completion.failure).status = match role, completion.status? with
      | _, none => .unset
      | .client, some status => .error status.message
      | .server policy, some status => policy status := by
  unfold Completion.status?
  cases completion.failure <;> cases role <;> rfl

theorem data_mem_of_ofProvider {provider : Option Nat} {spans : List SpanData}
    {span : ExportedSpan} (present : span ∈ ExportedSpan.ofProvider provider spans) :
    span.data ∈ spans := by
  cases provider with
  | none => cases present
  | some index =>
    obtain ⟨data, inside, rfl⟩ := List.mem_map.1 present
    exact inside

theorem length_ofProvider_congr (provider : Option Nat) {first second : List SpanData}
    (same : first.length = second.length) :
    (ExportedSpan.ofProvider provider first).length =
      (ExportedSpan.ofProvider provider second).length := by
  cases provider with
  | none => rfl
  | some index => simp only [ExportedSpan.ofProvider, List.length_map, same]

/-- The sizes of messages are not measurements of a call as a whole. -/
theorem size_ne_whole (role : Role) (direction : Direction) :
    direction.sizeSpec.name role.label ∉ role.wholeInstruments := by
  intro inside
  obtain ⟨suffix, present, same⟩ := List.mem_map.1 inside
  obtain rfl : suffix = direction.sizeSpec.suffix := (String.append_right_inj _).1 same
  exact direction.suffix_sizeSpec_ne present

theorem filter_sizes (call : Call) (messages : List (Direction × Message)) :
    (call.sizes messages).filter (·.instrument ∈ call.role.wholeInstruments) = [] := by
  unfold Call.sizes
  cases call.tracking with
  | recorded identity =>
    refine List.filter_eq_nil_iff.2 (List.forall_mem_map.2 fun report _ inside => ?_)
    exact size_ne_whole call.role report.1 (of_decide_eq_true inside)
  | _ => rfl

/-- The measurements of a call as a whole all have its code. -/
theorem codes_of_summary (handler : Handler) (info : CallInfo) (peer : Option Peer)
    (following : Following) (completion : Completion) (cell : Cell) :
    let call : Call := ⟨handler.role, following.tracking handler info, peer⟩
    ((call.summary completion cell).filter (·.instrument ∈ handler.role.wholeInstruments)).map
        (fun item => (item.instrument, Attribute.statusCodes item.attributes)) =
      (following.wholeInstruments handler info).map (·, [.int completion.codeNumber]) := by
  intro call
  have whole : ∀ item ∈ call.summary completion cell,
      item.instrument ∈ handler.role.wholeInstruments := by
    unfold Call.summary Role.wholeInstruments
    cases call.tracking <;> simp [Call.measure, InstrumentSpec.name, call, InstrumentSpec.duration,
      InstrumentSpec.requestsPerRpc, InstrumentSpec.responsesPerRpc]
  have identity := @statusCodes_append_code (Method.identity info.fullMethod)
    fun item => Method.key_ne_statusCode
  have bare := @statusCodes_append_code [] nofun
  rw [List.filter_eq_self.2 fun item present => by simpa using whole item present,
    ← Role.number_outcome handler.role]
  unfold Call.summary
  cases following with
  | detached context =>
    simp only [call, Following.tracking, List.map_cons, List.map_nil, Call.measure]
    rw [← bare]
    rfl
  | tagged =>
    by_cases accepted : handler.records info = true
    · simp only [call, Following.tracking, Handler.trackingOf, if_pos accepted, List.map_cons,
        List.map_nil, Call.measure, identity, Following.wholeInstruments]
      rfl
    · simp only [call, Following.tracking, Handler.trackingOf, if_neg accepted, List.map_nil,
        Following.wholeInstruments]

end StatusCodeLemmas

namespace Call

/-- A run with an end gives out the span as the events before it have left it, with the outcome. -/
theorem closing_run (call : Call) {events : List Event} {completion : Completion}
    (first : Event.firstEnd? events = some completion) (span : Span) :
    ∃ reached, (call.run events ⟨.fresh, span⟩).2.spans =
        (reached.conclude (call.role.outcome completion.failure)).exported ∧
      span.Kept reached := by
  obtain ⟨before, last, after, rfl, early, ended⟩ := Event.split_of_firstEnd? first
  exact ⟨_, (call.spans_run_closing early ended rfl).1,
    (call.spans_run_early early ⟨.fresh, span⟩).2⟩

variable (tracking : Tracking) (peer : Option Peer) (policy other : StatusPolicy)

theorem deliver_policy {event : Event}
    (well : ∀ completion, event.completion? = some completion → completion.failure = none)
    (progress : Progress) :
    (Call.mk (.server policy) tracking peer).deliver event progress =
      (Call.mk (.server other) tracking peer).deliver event progress := by
  obtain ⟨client, occurrence⟩ := event
  cases occurrence with
  | ended completion =>
    obtain ⟨start, stop, trailer, failure⟩ := completion
    obtain rfl : failure = none := well _ rfl
    cases tracking <;> rfl
  | header direction metadata => cases direction <;> cases tracking <;> rfl
  | _ => cases tracking <;> rfl

/-- A server whose call ends well does not ask its policy. -/
theorem run_policy {events : List Event} {completion : Completion}
    (first : Event.firstEnd? events = some completion) (well : completion.failure = none)
    (progress : Progress) :
    (Call.mk (.server policy) tracking peer).run events progress =
      (Call.mk (.server other) tracking peer).run events progress := by
  induction events generalizing progress with
  | nil => rfl
  | cons event rest ih =>
    rw [Event.firstEnd?, List.findSome?_cons] at first
    cases ending : event.completion? with
    | none =>
      rw [ending] at first
      rw [run_cons, run_cons, deliver_policy tracking peer policy other (by simp [ending]),
        ih first]
    | some found =>
      rw [ending] at first
      obtain rfl := Option.some.inj first
      have wellEnded : ∀ completion, event.completion? = some completion →
          completion.failure = none :=
        fun completion here => Option.some.inj (ending.symm.trans here) ▸ well
      have same := deliver_policy tracking peer policy other wellEnded progress
      have past : ((Call.mk (.server policy) tracking peer).deliver event progress).1.cell.ended =
          true := by
        rw [ended_deliver, Event.isEnd_eq_isSome, ending]
        exact Bool.or_true _
      -- What comes after the end is logged the same way under both policies.
      rw [run_cons, run_cons, run_of_ended past, ← same, run_of_ended past]
      rfl

end Call

open StatusCodeLemmas FilteringLemmas

namespace World

variable {world : World} {handler : Handler} {parent : Context} {rpc : CallContext}
  {info : CallInfo} {events : List Event} {completion : Completion} {root : Option Status}
  {messages : List String} {following : Following}

/-- Tagging and detaching do not ask the policy of a server. -/
theorem follow_policy {policy other : StatusPolicy} (isServer : handler.role = .server policy) :
    world.follow { handler with role := .server other } parent rpc info following =
      world.follow handler parent rpc info following := by
  obtain ⟨role, tracer, meter, propagator, filter⟩ := handler
  obtain rfl : role = .server policy := isServer
  cases following <;> rfl

/-- The events of a call come to the same under either policy, if the call ends well. -/
theorem deliverEvents_policy {policy other : StatusPolicy} {handle : Handle}
    (isServer : handler.role = .server policy) (known : world.Knows handle)
    (first : Event.firstEnd? events = some completion) (well : completion.failure = none) :
    world.deliverEvents { handler with role := .server other } handle events =
      world.deliverEvents handler handle events := by
  rw [world.deliverEvents_eq_commit _ known, world.deliverEvents_eq_commit _ known]
  simp only [Handler.call, isServer]
  rw [Call.run_policy _ _ policy other first well]
  rfl

/-- A tagged call has no outcome yet. -/
theorem unconcluded_tag :
    let tagged := world.tag handler parent rpc info
    (tagged.1.spanOf tagged.2.context).Unconcluded := by
  intro tagged
  rcases world.span_tag_cases handler parent rpc info with ⟨tracer, provider, -, given⟩ | inert
  · rw [given]
    intro data started
    obtain rfl := Option.some.inj started
    exact ⟨rfl, fun item present => Method.key_ne_statusCode (List.mem_of_mem_take present)⟩
  · exact Span.unconcluded_of_over inert

/-- The status of a failed call is the one on its chain of errors, or an unknown one with the text
of the outermost error. Its code, or `ok` if the call did not fail, is on the span, in every
measurement of the call as a whole and in the report of the end, however the call is followed and
whatever a policy says. A policy makes the status of the span of a failed call; a client always
takes the message for that of an error. The code is missing on the span only if a limit has cut its
attributes. The span of a detached handle may be any one that was not given an outcome before. That
the failure is a chain of errors is no restriction (`Failure.exists_chain`). -/
theorem status_code_agrees (chain : completion.failure = Failure.ofChain root messages)
    (first : Event.firstEnd? events = some completion)
    (untold : ∀ context, following = .detached context → (world.spanOf context).Unconcluded) :
    let followed := world.follow handler parent rpc info following
    let after := followed.1.deliverEvents handler followed.2 events
    let status? : Option Status := root.or (messages.head?.map (⟨.unknown, ·⟩))
    let code : Code := (status?.map Status.code).getD .ok
    completion.status? = status? ∧
      (∃ measurements, after.meters = Meter.recordAt world.meters handler.meter measurements ∧
        (measurements.filter (·.instrument ∈ handler.role.wholeInstruments)).map
            (fun item => (item.instrument, Attribute.statusCodes item.attributes)) =
          (following.wholeInstruments handler info).map (·, [.int code.number])) ∧
      (∃ spans, after.exported = world.exported ++ spans ∧
        spans.length = (ExportedSpan.ofProvider (followed.1.starterOf followed.2.context)
          (followed.1.spanOf followed.2.context).exported).length ∧
        ∀ span ∈ spans, span.data.status = (match handler.role, status? with
            | _, none => .unset
            | .client, some status => .error status.message
            | .server policy, some status => policy status) ∧
          (Attribute.statusCodes span.data.attributes = [.int code.number] ∨
            span.data.droppedAttributes ≠ 0 ∧
              Attribute.statusCodes span.data.attributes = [])) ∧
      ∀ policy other, handler.role = .server policy → status? = none →
        let otherwise := { handler with role := .server other }
        let followed := world.follow otherwise parent rpc info following
        followed.1.deliverEvents otherwise followed.2 events = after := by
  intro followed after status? code
  have status : completion.status? = status? := by
    rw [Completion.status?, chain]
    exact Failure.toStatus_ofChain root messages
  have number : completion.codeNumber = code.number := by
    rw [number_of_status, status]
  obtain ⟨-, exported, meters⟩ :=
    world.deliverEvents_follow handler parent rpc info following events
  refine ⟨status, ⟨_, meters, ?_⟩, ⟨_, exported, ?_⟩, ?_⟩
  · rw [Call.measurements_run, first, List.filter_append,
      filter_sizes ⟨handler.role, following.tracking handler info, rpc.peer⟩, List.nil_append,
      ← number]
    exact codes_of_summary handler info rpc.peer following completion _
  · have unconcluded : (followed.1.spanOf followed.2.context).Unconcluded := by
      cases following with
      | tagged => exact unconcluded_tag
      | detached context => exact untold context rfl
    obtain ⟨reached, closed, kept⟩ := Call.closing_run
      ⟨handler.role, following.tracking handler info, rpc.peer⟩ first
      (followed.1.spanOf followed.2.context)
    rw [closed]
    refine ⟨?_, fun span present => ?_⟩
    · exact length_ofProvider_congr _ (kept.length_exported _)
    · have told := (kept.unconcluded unconcluded).told (handler.role.outcome completion.failure)
        span.data (data_mem_of_ofProvider present)
      rw [status_outcome, status, Role.number_outcome, number] at told
      exact told
  · intro policy other isServer unfailed
    have well : completion.failure = none := by
      rw [← status] at unfailed
      exact Option.map_eq_none_iff.1 unfailed
    dsimp only
    rw [follow_policy isServer]
    exact deliverEvents_policy isServer (world.knows_follow handler parent rpc info following) first
      well

/-- A call that is followed through a detached handle and fails by a status two errors deep. -/
theorem status_code_of_sample_call :
    let tagged := Sample.world.tag Sample.server .empty Sample.rpc Sample.info
    let detached := tagged.1.detach Sample.rpc tagged.2.context
    let failed : Completion :=
      ⟨.epoch, .epoch, .empty, Failure.ofChain (some ⟨.internal, "disk full"⟩) ["find", "read"]⟩
    let after := detached.1.deliverEvents Sample.server detached.2
      [Sample.request, ⟨false, .ended failed⟩]
    failed.status? = some ⟨.internal, "disk full"⟩ ∧
      (∃ measurements, after.meters = [⟨measurements⟩] ∧
        (measurements.filter (·.instrument ∈ Sample.server.role.wholeInstruments)).map
            (fun item => (item.instrument, Attribute.statusCodes item.attributes)) =
          [("rpc.server.duration", [.int 13])]) ∧
      ∃ spans, after.exported = spans ∧ spans.length = 1 ∧ ∀ span ∈ spans,
        span.data.status = .error "disk full" ∧
          (Attribute.statusCodes span.data.attributes = [.int 13] ∨
            span.data.droppedAttributes ≠ 0 ∧
              Attribute.statusCodes span.data.attributes = []) := by
  intro tagged detached failed after
  obtain ⟨status, ⟨measurements, meters, codes⟩, ⟨spans, exported, one, told⟩, -⟩ :=
    @status_code_agrees tagged.1 Sample.server .empty Sample.rpc Sample.info
      [Sample.request, ⟨false, .ended failed⟩] failed (some ⟨.internal, "disk full"⟩)
      ["find", "read"] (.detached tagged.2.context) rfl rfl
      fun context same => Following.detached.inj same ▸ unconcluded_tag
  exact ⟨status, ⟨measurements, meters, codes⟩, spans, exported, one, told⟩

end World

end RpcTelemetry
