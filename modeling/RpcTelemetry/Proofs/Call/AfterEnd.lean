import RpcTelemetry.Proofs.World.Tagging

/-!
# After the end of a call

Results:
1. `isEnded_deliverAll`: the end flag of a handle tells whether an end was among its events.
2. `deliverAll_after_end`: once an end was, further events leave nothing but log entries. This holds
   of every kind of handle; a filtered one does not even log.

The flag is looked at in two places: a filtered call looks at it only when an end comes, any other
call before all else. `Call.deliver_of_ended` covers both.
-/

namespace RpcTelemetry

/-- What is logged about events that come after the end of a call. -/
def Handler.lateRecords (handler : Handler) (tracking : Tracking) (events : List Event) :
    List Log.Record :=
  match tracking with
  | .filtered _ => []
  | .recorded _ | .detached => events.map fun event =>
    ⟨⟨.debug, "rpc stats after end dropped",
      [("role", .string handler.role.label), ("kind", .string event.occurrence.kind)]⟩, false⟩

namespace AfterEndLemmas

theorem lateRecords_eq (handler : Handler) (handle : Handle) (events : List Event) :
    (events.flatMap (handler.call handle).lateLog).map (⟨·, false⟩) =
      handler.lateRecords handle.tracking events := by
  have sameTracking : (handler.call handle).tracking = handle.tracking := rfl
  unfold Call.lateLog Handler.lateRecords
  rw [sameTracking]
  cases handle.tracking with
  | filtered identity =>
    have unlogged : (events.flatMap fun _ => ([] : List Log.Entry)) = [] :=
      List.flatMap_eq_nil_iff.2 fun _ _ => rfl
    exact congrArg (List.map _) unlogged
  | recorded identity =>
    show (events.flatMap fun event => [(handler.call handle).lateEntry event]).map _ = _
    rw [← List.map_eq_flatMap, List.map_map]
    rfl
  | detached =>
    show (events.flatMap fun event => [(handler.call handle).lateEntry event]).map _ = _
    rw [← List.map_eq_flatMap, List.map_map]
    rfl

theorem any_event (deliveries : List Delivery) :
    (deliveries.map (·.event)).any (·.isEnd) = deliveries.any (·.event.isEnd) :=
  List.any_map

end AfterEndLemmas

open AfterEndLemmas

namespace World

variable {world : World} {handler : Handler} {handle : Handle}

/-- The end flag is set by the first end and stays set. -/
theorem isEnded_deliverAll {deliveries : List Delivery} (known : world.Knows handle)
    (clones : ∀ delivery ∈ deliveries, handle.IsClone delivery.handle) :
    (world.deliverAll handler deliveries).isEnded handle =
      (world.isEnded handle || deliveries.any (·.event.isEnd)) := by
  unfold isEnded
  rw [world.cellOf_deliverAll handler known clones, Call.ended_run, any_event]
  rfl

/-- Events after an end, through any clones of a handle of any kind, leave nothing but log entries.
From the first end on, every clone is over. -/
theorem deliverAll_after_end {first later : List Delivery} (known : world.Knows handle)
    (clones : ∀ delivery ∈ first ++ later, handle.IsClone delivery.handle)
    (ending : first.any (·.event.isEnd) = true) :
    world.deliverAll handler (first ++ later) =
        { world.deliverAll handler first with
          logs := (world.deliverAll handler first).logs ++
            handler.lateRecords handle.tracking (later.map (·.event)) } ∧
      ∀ clone, handle.IsClone clone → ∀ through, through <+: first ++ later →
        through.any (·.event.isEnd) = true →
          (world.deliverAll handler through).isEnded clone = true := by
  have firstClones : ∀ delivery ∈ first, handle.IsClone delivery.handle :=
    fun delivery present => clones delivery (List.mem_append_left later present)
  have laterClones : ∀ delivery ∈ later, handle.IsClone delivery.handle :=
    fun delivery present => clones delivery (List.mem_append_right first present)
  constructor
  -- All later events are one run that starts where the first ones have ended the call.
  · let reached := world.deliverAll handler first
    have reachedKnown : reached.Knows handle := world.knows_deliverAll handler known firstClones
    have ended : reached.isEnded handle = true := by
      rw [isEnded_deliverAll known firstClones, ending, Bool.or_true]
    have ignored : (handler.call handle).run (later.map (·.event)) (reached.progressOf handle) =
        (reached.progressOf handle,
          .ofLogs ((later.map (·.event)).flatMap (handler.call handle).lateLog)) :=
      Call.run_of_ended ended _
    rw [deliverAll_append, reached.deliverAll_eq_commit handler reachedKnown laterClones, ignored,
      commit_progressOf, log, lateRecords_eq]
  · intro clone cloned through early ended
    have throughClones : ∀ delivery ∈ through, handle.IsClone delivery.handle :=
      fun delivery present => clones delivery (early.subset present)
    rw [cloned.eq, isEnded_deliverAll known throughClones, ended, Bool.or_true]

/-- A message that comes again after the end of a recorded call. -/
theorem sample_call_after_end :
    let world := (Sample.world.tag Sample.server .empty Sample.rpc Sample.info).1
    let reached := world.deliverAll Sample.server (Sample.before ++ [Sample.last])
    world.deliverAll Sample.server (Sample.before ++ [Sample.last] ++ Sample.before) =
        { reached with
          logs := reached.logs ++ [⟨⟨.debug, "rpc stats after end dropped",
            [("role", .string "server"), ("kind", .string "in_payload")]⟩, false⟩] } ∧
      reached.isEnded Sample.handle.clone = true := by
  intro world reached
  have clones : ∀ delivery ∈ Sample.before ++ [Sample.last] ++ Sample.before,
      Sample.handle.IsClone delivery.handle := by
    intro delivery present
    rcases List.mem_append.1 present with early | late
    · exact Sample.isClone_of_mem delivery early
    · exact Sample.isClone_of_mem delivery (List.mem_append_left [Sample.last] late)
  obtain ⟨unchanged, ended⟩ := deliverAll_after_end
    (Sample.world.knows_tag Sample.server .empty Sample.rpc Sample.info) clones rfl
  exact ⟨unchanged, ended _ (.clone .self) _ (List.prefix_append _ _) rfl⟩

end World

end RpcTelemetry
