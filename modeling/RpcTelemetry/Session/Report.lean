import RpcTelemetry.Session.Naming

/-!
# Reports of sessions

A report tells for every step what came of it and what was exported, measured and logged since the
step before.
-/

namespace RpcTelemetry.Session

/-- What was exported, measured and logged in some stretch of a session. -/
structure Yield where
  spans : List ShownSpan
  measurements : List Measurement
  logs : List Log.Entry

/-- What came of a step, with the call that it is about as a report shows it. -/
structure StepReport where
  answer : Answer
  call : Option ShownCall
  yield : Yield

/-- What a whole session came to: its steps, and what its end brought. -/
structure Report where
  steps : List StepReport
  final : Yield

/-- How a session is set up and reported. -/
structure Settings where
  sampler : Sampler
  limits : SpanLimits
  preset : Bool
  labels : Bool
  sortEvents : Bool

/-- The place of a message event among sorted ones: its direction, then its ordinal. -/
def eventRank (event : SpanEvent) : String × Int :=
  let direction := match Attribute.find? Convention.messageType event.attributes with
    | some (.text direction) => direction
    | _ => ""
  let ordinal := match Attribute.find? Convention.messageId event.attributes with
    | some (.int ordinal) => ordinal
    | _ => 0
  (direction, ordinal)

/-- The events of a span in the order of direction and ordinal. -/
def sortedEvents (data : SpanData) : SpanData :=
  { data with events := data.events.mergeSort fun a b =>
      let (directionA, ordinalA) := eventRank a
      let (directionB, ordinalB) := eventRank b
      directionA < directionB || (directionA = directionB && ordinalA ≤ ordinalB) }

/-- What one state has beyond an earlier one. What was emptied in between is counted anew, and of
the log only the entries of the main thread count. -/
def yieldBetween (settings : Settings) (naming : Naming) (before after : State) :
    Yield × Naming :=
  let exported :=
    (after.world.exportedBy after.reported).drop (before.world.exportedBy before.reported).length
  let exported := if settings.sortEvents then exported.map sortedEvents else exported
  let (spans, naming) := naming.allExported exported
  let recorded (state : State) := (state.world.meterAt state.meter).measurements
  let written := after.world.logs.drop before.world.logs.length
  (⟨spans, (recorded after).drop (recorded before).length,
    (written.filter (!·.worker)).map (·.entry)⟩, naming)

/-- The call that an answer is about, if it shows one with its identity. -/
def Answer.shown? : Answer → Option CallView
  | .tagged view _ _ _ => some view
  | .viewed view => some view
  | _ => none

/-- Runs one step and reports it. -/
def reportStep (settings : Settings) (naming : Naming) (state : State) (step : Step) :
    StepReport × State × Naming :=
  let (after, answer) := state.step step
  let (call, naming) := match answer.shown? with
    | none => (none, naming)
    | some view =>
      let (shown, naming) := naming.call view
      (some shown, naming)
  let (yield, naming) := yieldBetween settings naming state after
  (⟨answer, call, yield⟩, after, naming)

/-- Runs steps one after another and reports them. -/
def reportSteps (settings : Settings) : Naming → State → List Step →
    List StepReport × State × Naming
  | naming, state, [] => ([], state, naming)
  | naming, state, step :: rest =>
    let (report, state, naming) := reportStep settings naming state step
    let (reports, state, naming) := reportSteps settings naming state rest
    (report :: reports, state, naming)

/-- Runs a script from a state to the end of the session. -/
def runFrom (settings : Settings) (state : State) (script : List Step) : Report × State :=
  let naming := if settings.labels then .labels [] [] else .digits
  let (steps, state, naming) := reportSteps settings naming state script
  let ended := state.finish
  let (final, _) := yieldBetween settings naming state ended
  (⟨steps, final⟩, ended)

/-- The provider that settings ask for; preset options bring one of their own. -/
def Settings.provider (settings : Settings) : Provider :=
  if settings.preset then .arbitrary else .ofSettings settings.sampler settings.limits

/-- The start of a session with a provider and a meter of its own. Under preset options it counts
the spans exported by some `other` provider. -/
def State.initial (settings : Settings) (world : World) (other : Option Nat) : State :=
  let (world, provider) := world.addProvider settings.provider
  let (world, meter) := world.addMeter
  let state : State := ⟨world, .empty, .empty, some provider, some provider, meter, .own⟩
  if settings.preset then { state with exporter := other, backing := .preset } else state

/-- Runs a script in a process of its own. -/
def run (settings : Settings) (script : List Step) : Report :=
  (runFrom settings (.initial settings .empty none) script).1

end RpcTelemetry.Session
