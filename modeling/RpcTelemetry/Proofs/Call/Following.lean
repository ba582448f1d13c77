import Mathlib.Data.List.TakeWhile
import RpcTelemetry.Proofs.Call.Filtering

/-!
# Following a call

A call is followed through the handle of its tagging, which records or filters it, or through a
detached handle for any context. In each case the events are one run from a fresh cell and the span
of the context (`deliverEvents_follow`), and what it measures is said for all handles at once
(`Call.measurements_run`).
-/

namespace RpcTelemetry

open FilteringLemmas

/-- The handle that a call is followed through: the one of its tagging, or a detached one for a
context. -/
inductive Following where
  | tagged
  | detached (context : Context)

/-- How a handle follows the calls of a handler. -/
def Following.tracking (handler : Handler) (info : CallInfo) : Following → Tracking
  | .tagged => handler.trackingOf info
  | .detached _ => .detached

namespace Event

/-- The events before the first end. -/
def beforeEnd (events : List Event) : List Event := events.takeWhile (!·.isEnd)

theorem beforeEnd_of_early {events : List Event} (early : ∀ event ∈ events, event.isEnd = false) :
    beforeEnd events = events :=
  List.takeWhile_eq_self_iff.2 fun event present => by simp [early event present]

/-- With an end, the events are those before it, the end itself, and later ones. -/
theorem parted_of_firstEnd? {events : List Event} {completion : Completion}
    (first : firstEnd? events = some completion) :
    ∃ before last after, events = before ++ [last] ++ after ∧ beforeEnd events = before ∧
      (∀ event ∈ before, event.isEnd = false) ∧ last.occurrence = .ended completion := by
  obtain ⟨before, last, after, parted, early, ended⟩ := split_of_firstEnd? first
  refine ⟨before, last, after, parted, ?_, early, ended⟩
  have stop : last.isEnd = true := by rw [isEnd, ended]
  rw [parted, beforeEnd, List.append_assoc, List.takeWhile_append_of_pos fun event present => by
    simp [early event present]]
  simp [stop]

end Event

namespace World

/-- A handle to follow a call. A detached one has no need of tagging. -/
def follow (world : World) (handler : Handler) (parent : Context) (rpc : CallContext)
    (info : CallInfo) : Following → World × Handle
  | .tagged => world.tag handler parent rpc info
  | .detached context => world.detach rpc context

variable (world : World) (handler : Handler) (parent : Context) (rpc : CallContext)
  (info : CallInfo) (following : Following)

theorem call_follow :
    handler.call (world.follow handler parent rpc info following).2 =
      ⟨handler.role, following.tracking handler info, rpc.peer⟩ := by
  cases following with
  | tagged =>
    show Call.mk _ (world.tag handler parent rpc info).2.tracking
      (world.tag handler parent rpc info).2.rpc.peer = _
    rw [world.tracking_tag, world.peer_tag]
    rfl
  | detached context => rfl

theorem knows_follow :
    (world.follow handler parent rpc info following).1.Knows
      (world.follow handler parent rpc info following).2 := by
  cases following with
  | tagged => exact world.knows_tag handler parent rpc info
  | detached context => exact world.knows_detach rpc context

/-- No event has reached the call yet. -/
theorem progressOf_follow :
    let followed := world.follow handler parent rpc info following
    followed.1.progressOf followed.2 = ⟨.fresh, followed.1.spanOf followed.2.context⟩ := by
  cases following with
  | tagged => exact world.progressOf_tag handler parent rpc info
  | detached context =>
    refine congrArg (Progress.mk · _) ?_
    show ((world.cells ++ [Cell.fresh])[world.cells.length]?).getD .fresh = .fresh
    rw [List.getElem?_concat_length]
    rfl

theorem outputs_follow :
    (world.follow handler parent rpc info following).1.meters = world.meters ∧
      (world.follow handler parent rpc info following).1.exported = world.exported := by
  cases following with
  | tagged => exact world.outputs_tag handler parent rpc info
  | detached context => exact ⟨rfl, rfl⟩

/-- What the events of a call come to, whatever handle it is followed through. -/
theorem deliverEvents_follow (events : List Event) :
    let followed := world.follow handler parent rpc info following
    let after := followed.1.deliverEvents handler followed.2 events
    let call : Call := ⟨handler.role, following.tracking handler info, rpc.peer⟩
    let outcome := call.run events ⟨.fresh, followed.1.spanOf followed.2.context⟩
    after.progressOf followed.2 = outcome.1 ∧
      after.exported = world.exported ++
        ExportedSpan.ofProvider (followed.1.starterOf followed.2.context) outcome.2.spans ∧
      after.meters = Meter.recordAt world.meters handler.meter outcome.2.measurements := by
  have fresh := congrArg Progress.cell (world.progressOf_follow handler parent rpc info following)
  have delivered := deliverEvents_of_fresh world _ handler
    (world.knows_follow handler parent rpc info following) fresh
    (world.outputs_follow handler parent rpc info following) events
  rwa [world.call_follow] at delivered

end World

/-- Instruments of a role are told apart by their suffixes. -/
theorem InstrumentSpec.name_inj {first second : InstrumentSpec} {role : String} :
    first.name role = second.name role ↔ first.suffix = second.suffix :=
  String.append_right_inj _

/-- The size of a message is no measurement of a whole call. -/
theorem Direction.suffix_sizeSpec_ne (direction : Direction) :
    direction.sizeSpec.suffix ∉ ["duration", "requests_per_rpc", "responses_per_rpc"] := by
  cases direction <;> decide

namespace Call

variable (call : Call)

/-- What is measured of a call, whatever handle it is followed through: what the account of the
events before its end comes to. -/
theorem measurements_run (events : List Event) (span : Span) :
    let messages := Event.messages (Event.beforeEnd events)
    (call.run events ⟨.fresh, span⟩).2.measurements =
      call.sizes messages ++ match Event.firstEnd? events with
        | none => []
        | some completion => call.summary completion (call.cellAfter messages) := by
  intro messages
  cases tracking : call.tracking with
  | filtered identity =>
    -- A filtered call has no account, and nothing is measured.
    rw [(run_refused tracking events span).2.1, sizes, tracking]
    cases Event.firstEnd? events with
    | none => rfl
    | some completion => simp only [summary, tracking, List.append_nil]
  | _ =>
    have followed : call.tracking.isFiltered = false := by rw [tracking]; rfl
    cases first : Event.firstEnd? events with
    | none =>
      have early := Event.early_of_firstEnd?_eq_none first
      rw [((call.accounted_fresh span).run followed early).2.2, List.append_nil,
        ← Event.beforeEnd_of_early early]
    | some completion =>
      obtain ⟨before, last, after, parted, reached, early, ended⟩ :=
        Event.parted_of_firstEnd? first
      have past : (call.run (before ++ [last]) ⟨.fresh, span⟩).1.cell.ended = true := by
        rw [call.ended_run, List.any_append, List.any_cons, Event.isEnd, ended]
        simp
      simp only [messages, reached]
      rw [parted, run_append, Output.measurements_append, run_of_ended past]
      exact (List.append_nil _).trans (call.run_whole followed early ended span).1

end Call

end RpcTelemetry
