import RpcTelemetry.Proofs.World.Tagging

/-!
# The measurements of a whole call

Result: `measurements_of_whole_call`. A recorded call, from its tagging to its end, is measured as
`Role.measurementsOf` reads off its events: the size of each message under the identity of the
call, then its duration and the numbers of its messages under the identity and the status code. No
sampler, limit, propagator or clone makes a difference.
-/

namespace RpcTelemetry

/-- The measurements of a whole call, read off its events. The numbers of messages are kept as
numbers of 64 bits. -/
def Role.measurementsOf (role : Role) (fullMethod : String) (before : List Event)
    (completion : Completion) : List Measurement :=
  let name (suffix : String) : String := "rpc." ++ role.label ++ "." ++ suffix
  let identity := (Method.parse fullMethod).2 ++ [⟨"rpc.system", .text "grpc"⟩]
  let final := identity ++ [⟨"rpc.grpc.status_code", .int completion.codeNumber⟩]
  let size : Direction × Message → Measurement
    | (.inbound, message) => ⟨name "request.size", some "By", .count message.length, identity⟩
    | (.outbound, message) => ⟨name "response.size", some "By", .count message.length, identity⟩
  let number (direction : Direction) : MeasuredValue :=
    .count (.ofNat ((Event.messages before).countP (·.1 = direction)))
  let elapsed := (Elapsed.between completion.start completion.stop).toMillis
  (Event.messages before).map size ++
    [⟨name "duration", some "ms", .real elapsed.toBits, final⟩,
      ⟨name "requests_per_rpc", some "\x7bcount\x7d", number .inbound, final⟩,
      ⟨name "responses_per_rpc", some "\x7bcount\x7d", number .outbound, final⟩]

namespace MeasurementsLemmas

/-- The account of a recorded call is what the events tell. -/
theorem account_eq_measurementsOf {call : Call} {fullMethod : String}
    (recorded : call.tracking = .recorded (Method.identity fullMethod)) (before : List Event)
    (completion : Completion) :
    call.sizes (Event.messages before) ++
        call.summary completion (call.cellAfter (Event.messages before)) =
      call.role.measurementsOf fullMethod before completion := by
  unfold Call.sizes Call.summary Call.cellAfter Call.tally Role.measurementsOf
  rw [recorded]
  congr 1
  · refine List.map_congr_left fun report _ => ?_
    obtain ⟨direction, message⟩ := report
    cases direction <;> rfl
  · simp only [Code.attribute, Role.number_outcome]
    rfl

end MeasurementsLemmas

open MeasurementsLemmas

namespace World

variable {world : World} {handler : Handler} {parent : Context} {rpc : CallContext}
  {info : CallInfo} {before : List Delivery} {last : Delivery} {completion : Completion}

/-- The measurements of a recorded call from its tagging to its end, through any clones of its
handle, are those that its events tell, in their order. -/
theorem measurements_of_whole_call (accepted : handler.records info = true)
    (clones : ∀ delivery ∈ before ++ [last],
      (world.tag handler parent rpc info).2.IsClone delivery.handle)
    (early : ∀ delivery ∈ before, delivery.event.isEnd = false)
    (ended : last.event.occurrence = .ended completion) :
    ((world.tag handler parent rpc info).1.deliverAll handler (before ++ [last])).meters =
      Meter.recordAt world.meters handler.meter
        (handler.role.measurementsOf info.fullMethod (before.map (·.event)) completion) := by
  have recorded := world.tracking_call_tag handler parent rpc info accepted
  obtain ⟨measured, -⟩ := world.outputs_of_accepted handler parent rpc info accepted clones early
    ended
  rw [measured, account_eq_measurementsOf recorded]
  rfl

/-- A call with one request and no response, the request through a clone. -/
theorem measurements_of_sample_call :
    let identity : List Attribute :=
      [⟨"rpc.service", .text "users.Directory"⟩, ⟨"rpc.method", .text "Lookup"⟩,
        ⟨"rpc.system", .text "grpc"⟩]
    let final := identity ++ [⟨"rpc.grpc.status_code", .int 0⟩]
    ((Sample.world.tag Sample.server .empty Sample.rpc Sample.info).1.deliverAll Sample.server
        (Sample.before ++ [Sample.last])).meters =
      [⟨[⟨"rpc.server.request.size", some "By", .count 5, identity⟩,
        ⟨"rpc.server.duration", some "ms", .real (Elapsed.between .epoch .epoch).toMillis.toBits,
          final⟩,
        ⟨"rpc.server.requests_per_rpc", some "\x7bcount\x7d", .count 1, final⟩,
        ⟨"rpc.server.responses_per_rpc", some "\x7bcount\x7d", .count 0, final⟩]⟩] := by
  intro identity final
  have named : (Method.parse "/users.Directory/Lookup").2 ++ [⟨"rpc.system", .text "grpc"⟩] =
      identity := by decide
  calc ((Sample.world.tag Sample.server .empty Sample.rpc Sample.info).1.deliverAll Sample.server
        (Sample.before ++ [Sample.last])).meters
      = Meter.recordAt [.fresh] (some 0)
          (Sample.server.role.measurementsOf "/users.Directory/Lookup" [Sample.request]
            Sample.success) :=
        measurements_of_whole_call rfl
          Sample.isClone_of_mem (List.forall_mem_singleton.2 rfl) rfl
    _ = _ := by
      simp only [Role.measurementsOf, named]
      rfl

end World

end RpcTelemetry
