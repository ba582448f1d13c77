import RpcTelemetry.Proofs.Address.PeerGrammar
import RpcTelemetry.Proofs.Call.AfterEnd
import RpcTelemetry.Proofs.Call.Filtering
import RpcTelemetry.Proofs.Payload.FirstFailure

/-!
# What a call logs

The log calls are spread over the handling of events, of payloads and of peers. Here the lines of an
event are read off the event and whether the call had an end before it, and nothing else
(`Call.linesOf`): what is wrong with a payload is told by its nodes, and what is wrong with a peer
by the grammar of its text.

Results:
1. `Call.logs_deliver`: one event logs its lines, on every kind of handle.
2. `Call.openings_run`: the lines at level TRACE open the handling of the events up to the first end
   and of no others.
3. `World.log_accounts_for_events`: the log of a process grows by the lines of each event that is
   delivered.
-/

namespace RpcTelemetry

/-! ## Lines about payloads and peers -/

namespace Payload

/-- Why a payload cannot be serialised, if it cannot: the fault of the first node of a structured
message that has one. -/
def fault? : Option Payload → Option SerialError
  | some (.structured message) => firstFault? message.nodes
  | _ => none

/-- The line about a payload that cannot be serialised. -/
def lines (payload : Option Payload) : List Log.Entry :=
  (fault? payload).toList.map fun error =>
    ⟨.warn, "payload serialization failed", [("error", .shown error.message)]⟩

theorem logs_text (payload : Option Payload) : (text payload).2 = lines payload := by
  unfold lines
  match payload with
  | none => rfl
  | some (.opaqueValue value) => rfl
  | some (.structured message) =>
    rw [text, fault?, Value.document_eq]
    cases firstFault? message.nodes <;> rfl

end Payload

open Text

namespace Peer

/-- Whether a peer is a host in a form and something as its port. -/
def IsParted (peer : Peer) : Prop :=
  ∃ form host port, Writes form host port peer.address.toList ∧ form.EndsIn port

/-- Whether a peer is a host in a form and a number of 64 bits as its port. -/
def IsParsable (peer : Peer) : Prop :=
  ∃ form host port number, Writes form host port peer.address.toList ∧ IsPort port number

theorem isParted_iff {peer : Peer} :
    peer.IsParted ↔ (split? peer.address.toList).isSome = true := by
  rw [Option.isSome_iff_exists]
  constructor
  · rintro ⟨form, host, port, written⟩
    exact ⟨(host, port), split?_eq_some_iff.2 ⟨form, written⟩⟩
  · rintro ⟨⟨host, port⟩, taken⟩
    obtain ⟨form, written⟩ := split?_eq_some_iff.1 taken
    exact ⟨form, host, port, written⟩

theorem isParsable_iff {peer : Peer} :
    peer.IsParsable ↔ ((split? peer.address.toList).bind (int64? ·.2)).isSome = true := by
  rw [Option.isSome_iff_exists]
  constructor
  · rintro ⟨form, host, port, number, written, numeric⟩
    have taken : split? peer.address.toList = some (host, port) :=
      split?_eq_some_iff.2 ⟨form, written, form.endsIn_of_isInteger numeric.1⟩
    exact ⟨number, Option.bind_eq_some_iff.2 ⟨_, taken, int64?_eq_some_iff.2 numeric⟩⟩
  · rintro ⟨number, read⟩
    obtain ⟨⟨host, port⟩, taken, numeric⟩ := Option.bind_eq_some_iff.1 read
    obtain ⟨form, written, -⟩ := split?_eq_some_iff.1 taken
    exact ⟨form, host, port, number, written, int64?_eq_some_iff.1 numeric⟩

instance (peer : Peer) : Decidable peer.IsParted := decidable_of_iff' _ isParted_iff

instance (peer : Peer) : Decidable peer.IsParsable := decidable_of_iff' _ isParsable_iff

/-- The line about a peer that is not parsable: it tells whether it is for the port alone. -/
def lines (peer : Peer) : List Log.Entry :=
  if peer.IsParsable then []
  else
    [⟨.debug, if peer.IsParted then "peer port not numeric" else "peer address not parsable",
      [("peer", .string peer.address)]⟩]

theorem logs_attributes (peer : Peer) : peer.attributes.2 = peer.lines := by
  unfold attributes attributes? lines
  simp only [isParted_iff, isParsable_iff]
  cases split? peer.address.toList with
  | none => rfl
  | some parts =>
    cases numeric : int64? parts.2 <;> simp [numeric, Fault.entry]

end Peer

namespace Event

/-- The events up to the first end and with it, or all if there is none. -/
def throughEnd (events : List Event) : List Event := events.take (events.findIdx (·.isEnd) + 1)

theorem throughEnd_cons (event : Event) (rest : List Event) :
    throughEnd (event :: rest) = event :: if event.isEnd then [] else throughEnd rest := by
  unfold throughEnd
  rw [List.findIdx_cons]
  cases event.isEnd <;> rfl

end Event

namespace Call

variable (call : Call)

/-! ## The lines of an event -/

/-- The line that opens the handling of an event. -/
def opening (event : Event) : Log.Entry :=
  ⟨.trace, "dispatch rpc stats",
    [("role", .string call.role.label), ("kind", .string event.occurrence.kind),
      ("client", .flag event.client)]⟩

/-- The line about an event that is dropped. -/
def dropping (event : Event) : Log.Entry :=
  ⟨.debug, "rpc stats after end dropped",
    [("role", .string call.role.label), ("kind", .string event.occurrence.kind)]⟩

/-- The lines about what is amiss with an event that is handled. -/
def remarks (event : Event) : List Log.Entry :=
  match event.occurrence with
  | .message _ message => Payload.lines message.payload
  | .header .outbound _ => call.peer.toList.flatMap Peer.lines
  | .ended _ =>
    if call.tracking = .detached then
      [⟨.debug, "rpc ended without call state, message metrics skipped",
        [("role", .string call.role.label)]⟩]
    else []
  | _ => []

/-- The lines of an event, before or after the end of its call. A filtered call has none. -/
def linesOf (ended : Bool) (event : Event) : List Log.Entry :=
  if call.tracking.isFiltered then []
  else if ended then [call.dropping event]
  else call.opening event :: call.remarks event

theorem logs_deliverLive (event : Event) (progress : Progress) :
    (call.deliverLive event progress).2.logs = call.remarks event := by
  obtain ⟨client, occurrence⟩ := event
  cases occurrence with
  | message direction message => exact Payload.logs_text message.payload
  | ended completion =>
    show (if _ then _ else _) ++ [] ++ [] = _
    rw [List.append_nil, List.append_nil]
    rfl
  | header direction metadata =>
    cases direction with
    | inbound => rfl
    | outbound =>
      show (call.deliverHeader progress).2.logs = call.peer.toList.flatMap Peer.lines
      unfold deliverHeader
      cases call.peer with
      | none => rfl
      | some peer => exact peer.logs_attributes.trans (List.append_nil _).symm
  | began => rfl
  | trailer direction metadata => rfl

/-- An event logs its lines. -/
theorem logs_deliver (event : Event) (progress : Progress) :
    (call.deliver event progress).2.logs = call.linesOf progress.cell.ended event := by
  unfold linesOf
  cases past : progress.cell.ended with
  | true =>
    rw [deliver_of_ended past]
    unfold lateLog
    cases call.tracking <;> rfl
  | false =>
    cases followed : call.tracking.isFiltered with
    | true =>
      obtain ⟨identity, filtered⟩ := Tracking.exists_of_isFiltered followed
      rw [deliver_of_filtered filtered past]
      cases event.completion? <;> rfl
    | false =>
      rw [deliver_of_open followed past, Output.logs_append, logs_deliverLive]
      rfl

/-! ## Levels -/

variable {call}

/-- Remarks are never at level TRACE, and a warning is the worst of them. -/
theorem level_of_mem_remarks {event : Event} {entry : Log.Entry}
    (inside : entry ∈ call.remarks event) : entry.level = .debug ∨ entry.level = .warn := by
  obtain ⟨client, occurrence⟩ := event
  cases occurrence with
  | message direction message =>
    obtain ⟨error, -, rfl⟩ := List.mem_map.1 inside
    exact .inr rfl
  | header direction metadata =>
    cases direction with
    | inbound => cases inside
    | outbound =>
      obtain ⟨peer, -, inside⟩ := List.mem_flatMap.1 inside
      unfold Peer.lines at inside
      split at inside
      · cases inside
      · obtain rfl := List.mem_singleton.1 inside
        exact .inl rfl
  | ended completion =>
    simp only [remarks] at inside
    split at inside
    · obtain rfl := List.mem_singleton.1 inside
      exact .inl rfl
    · cases inside
  | began => cases inside
  | trailer direction metadata => cases inside

/-- No line of an event is worse than a warning. -/
theorem severity_of_mem_linesOf {ended : Bool} {event : Event} {entry : Log.Entry}
    (inside : entry ∈ call.linesOf ended event) :
    entry.level.severity ≤ Log.Level.warn.severity := by
  unfold linesOf at inside
  split at inside
  · cases inside
  split at inside
  · obtain rfl := List.mem_singleton.1 inside
    show Log.Level.debug.severity ≤ Log.Level.warn.severity
    decide
  · rcases List.mem_cons.1 inside with rfl | remark
    · show Log.Level.trace.severity ≤ Log.Level.warn.severity
      decide
    · rcases level_of_mem_remarks remark with level | level <;> simp [level, Log.Level.severity]

/-- The first line of an event that is handled is the only one at level TRACE. -/
theorem openings_linesOf (followed : call.tracking.isFiltered = false) (ended : Bool)
    (event : Event) :
    (call.linesOf ended event).filter (·.level = .trace) =
      if ended then [] else [call.opening event] := by
  have remarks : (call.remarks event).filter (·.level = .trace) = [] := by
    refine List.filter_eq_nil_iff.2 fun entry inside => ?_
    rcases level_of_mem_remarks inside with level | level <;> simp [level]
  unfold linesOf
  rw [followed]
  cases ended with
  | true => rfl
  | false =>
    show (call.opening event :: call.remarks event).filter _ = [call.opening event]
    rw [List.filter_cons_of_pos rfl, remarks]

/-! ## Runs -/

theorem logs_run_of_filtered (filtered : call.tracking.isFiltered = true) (events : List Event)
    (progress : Progress) : (call.run events progress).2.logs = [] := by
  induction events generalizing progress with
  | nil => rfl
  | cons event rest ih =>
    rw [run_cons, Output.logs_append, ih, logs_deliver, linesOf, filtered]
    rfl

/-- No line of a run is worse than a warning. -/
theorem severity_run (events : List Event) (progress : Progress) :
    ∀ entry ∈ (call.run events progress).2.logs,
      entry.level.severity ≤ Log.Level.warn.severity := by
  induction events generalizing progress with
  | nil => exact fun entry inside => absurd inside List.not_mem_nil
  | cons event rest ih =>
    intro entry inside
    rw [run_cons, Output.logs_append, logs_deliver] at inside
    rcases List.mem_append.1 inside with first | later
    · exact severity_of_mem_linesOf first
    · exact ih _ entry later

/-- The lines of a run at level TRACE open the handling of its events up to the first end. -/
theorem openings_run (followed : call.tracking.isFiltered = false) (events : List Event)
    (progress : Progress) :
    (call.run events progress).2.logs.filter (·.level = .trace) =
      if progress.cell.ended then [] else (Event.throughEnd events).map call.opening := by
  induction events generalizing progress with
  | nil => cases progress.cell.ended <;> rfl
  | cons event rest ih =>
    rw [run_cons, Output.logs_append, List.filter_append, logs_deliver, openings_linesOf followed,
      ih, call.ended_deliver, Event.throughEnd_cons]
    cases progress.cell.ended with
    | true => rfl
    | false => cases event.isEnd <;> rfl

end Call

namespace World

open DeliveryLemmas

variable {world : World} {handler : Handler} {handle : Handle}

theorem logs_deliverAll {deliveries : List Delivery} (known : world.Knows handle)
    (clones : ∀ delivery ∈ deliveries, handle.IsClone delivery.handle) :
    (world.deliverAll handler deliveries).logs =
      world.logs ++ ((handler.call handle).run (deliveries.map (·.event))
        (world.progressOf handle)).2.logs.map (⟨·, false⟩) := by
  rw [world.deliverAll_eq_commit handler known clones, commit_eq]

/-- The log of a process grows with every event by the lines of that event. For a filtered call
these are none, before its end and after it. Any other call has as many lines at level TRACE as
there are events up to its first end and with it, and none is worse than a warning. -/
theorem log_accounts_for_events {deliveries : List Delivery} (known : world.Knows handle)
    (clones : ∀ delivery ∈ deliveries, handle.IsClone delivery.handle) :
    let call := handler.call handle
    (∀ before delivery rest, deliveries = before ++ delivery :: rest →
        (world.deliverAll handler (before ++ [delivery])).logs =
          (world.deliverAll handler before).logs ++
            (call.linesOf (world.isEnded handle || before.any (·.event.isEnd)) delivery.event).map
              (⟨·, false⟩)) ∧
      ∃ entries : List Log.Entry,
        (world.deliverAll handler deliveries).logs = world.logs ++ entries.map (⟨·, false⟩) ∧
          (call.tracking.isFiltered = true → entries = []) ∧
          (call.tracking.isFiltered = false → entries.countP (·.level = .trace) =
            if world.isEnded handle then 0
            else (Event.throughEnd (deliveries.map (·.event))).length) ∧
          ∀ entry ∈ entries, entry.level.severity ≤ Log.Level.warn.severity := by
  intro call
  refine ⟨fun before delivery rest split => ?_, _, logs_deliverAll known clones,
    fun filtered => Call.logs_run_of_filtered filtered _ _, fun followed => ?_,
    Call.severity_run _ _⟩
  · subst split
    have clonesBefore : ∀ delivery ∈ before, handle.IsClone delivery.handle :=
      fun delivery present => clones delivery (List.mem_append_left _ present)
    have clonesOne : ∀ other ∈ [delivery], handle.IsClone other.handle :=
      List.forall_mem_singleton.2 (clones delivery (by simp))
    have flag : ((world.deliverAll handler before).progressOf handle).cell.ended =
        (world.isEnded handle || before.any (·.event.isEnd)) :=
      isEnded_deliverAll known clonesBefore
    -- The event is a run of its own, from where the ones before it have taken the call.
    rw [deliverAll_append, logs_deliverAll (world.knows_deliverAll handler known clonesBefore)
      clonesOne, List.map_singleton, Call.run_singleton, Call.logs_deliver, flag]
  · rw [List.countP_eq_length_filter, Call.openings_run followed]
    show (if world.isEnded handle then [] else _).length = _
    split
    · rfl
    · exact List.length_map _

end World

namespace Sample

/-- A message that cannot be serialised. -/
def unwritable : Event := ⟨false, .message .inbound ⟨some (.structured (.failing "no")), 5, 5, 10⟩⟩

/-- That message, headers and the end. -/
def unlucky (handle : Handle) : List Delivery :=
  [⟨handle.clone, unwritable⟩, ⟨handle, ⟨false, .header .outbound .empty⟩⟩,
    ⟨handle, ⟨false, .ended success⟩⟩]

end Sample

namespace World

/-- A detached call of a peer without a port. Something is amiss with each of its events, and then
there is one more after the end. -/
theorem log_of_detached_sample :
    let detached := Sample.world.detach ⟨.empty, .empty, some ⟨"localhost"⟩⟩ .empty
    let handle := detached.2
    let late : Delivery := ⟨handle.clone, Sample.request⟩
    let after := detached.1.deliverAll Sample.server (Sample.unlucky handle ++ [late])
    after.logs = [
        ⟨⟨.trace, "dispatch rpc stats", [("role", .string "server"),
          ("kind", .string "in_payload"), ("client", .flag false)]⟩, false⟩,
        ⟨⟨.warn, "payload serialization failed", [("error", .shown "no")]⟩, false⟩,
        ⟨⟨.trace, "dispatch rpc stats", [("role", .string "server"),
          ("kind", .string "out_header"), ("client", .flag false)]⟩, false⟩,
        ⟨⟨.debug, "peer address not parsable", [("peer", .string "localhost")]⟩, false⟩,
        ⟨⟨.trace, "dispatch rpc stats", [("role", .string "server"), ("kind", .string "end"),
          ("client", .flag false)]⟩, false⟩,
        ⟨⟨.debug, "rpc ended without call state, message metrics skipped",
          [("role", .string "server")]⟩, false⟩,
        ⟨⟨.debug, "rpc stats after end dropped", [("role", .string "server"),
          ("kind", .string "in_payload")]⟩, false⟩] ∧
      after.logs.countP (·.entry.level = .trace) = 3 := by
  intro detached handle late after
  have known : detached.1.Knows handle := Sample.world.knows_detach _ _
  have clones : ∀ delivery ∈ Sample.unlucky handle ++ [late],
      handle.IsClone delivery.handle := by
    simp only [Sample.unlucky, List.cons_append, List.nil_append, List.forall_mem_cons]
    exact ⟨.clone .self, .self, .self, .clone .self, List.forall_mem_nil _⟩
  obtain ⟨grows, entries, logged, -, openings, -⟩ :=
    @log_accounts_for_events detached.1 Sample.server handle _ known clones
  -- The log is taken apart from its end, one event at a time; the lines of an event then compute.
  have logs :=
    calc after.logs
        = (detached.1.deliverAll Sample.server (Sample.unlucky handle)).logs ++ _ :=
          grows _ late [] rfl
      _ = _ := congrArg (· ++ _) (grows [_, _] _ [late] rfl)
      _ = _ := congrArg (· ++ _ ++ _) (grows [_] _ _ rfl)
      _ = _ := congrArg (· ++ _ ++ _ ++ _) (grows [] _ _ rfl)
  refine ⟨logs, ?_⟩
  rw [logged, List.countP_append, List.countP_map]
  exact (Nat.zero_add _).trans (openings rfl)

end World

end RpcTelemetry
