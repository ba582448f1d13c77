import RpcTelemetry.Method
import RpcTelemetry.Proofs.Call.Run

/-!
# How the span of a call closes

Recorded, filtered and detached handles close a span by different branches of `Call.deliver`. What
they have in common is said here once: an event ends the span if it is an end and its handle has
seen none (`Call.spans_deliver`, `Call.span_deliver_closing`), and before that neither the status
nor the status code of the span is touched (`Call.kept_deliver`). So a run is decided by its
first end (`Call.spans_run_closing`).
-/

namespace RpcTelemetry

namespace Event

/-- How the call ended, if an event reports that. -/
def completion? (event : Event) : Option Completion :=
  match event.occurrence with
  | .ended completion => some completion
  | _ => none

/-- The first end among events. -/
def firstEnd? (events : List Event) : Option Completion := events.findSome? completion?

theorem isEnd_eq_isSome (event : Event) : event.isEnd = event.completion?.isSome := by
  obtain ⟨client, occurrence⟩ := event
  cases occurrence <;> rfl

theorem completion?_eq_none_iff {event : Event} :
    event.completion? = none ↔ event.isEnd = false := by
  rw [isEnd_eq_isSome, Option.isSome_eq_false_iff, Option.isNone_iff_eq_none]

theorem occurrence_of_completion? {event : Event} {completion : Completion}
    (ending : event.completion? = some completion) : event.occurrence = .ended completion := by
  obtain ⟨client, occurrence⟩ := event
  cases occurrence with
  | ended found => exact congrArg Occurrence.ended (Option.some.inj ending)
  | _ => cases ending

theorem isSome_firstEnd? (events : List Event) :
    (firstEnd? events).isSome = events.any (·.isEnd) := by
  unfold firstEnd?
  rw [List.isSome_findSome?]
  congr 1
  funext event
  exact (isEnd_eq_isSome event).symm

/-- Events without an end are all early. -/
theorem early_of_firstEnd?_eq_none {events : List Event} (none : firstEnd? events = none) :
    ∀ event ∈ events, event.isEnd = false := fun event present =>
  completion?_eq_none_iff.1 (List.findSome?_eq_none_iff.1 none event present)

/-- The first end parts the events before it from all later ones. -/
theorem split_of_firstEnd? {events : List Event} {completion : Completion}
    (first : firstEnd? events = some completion) :
    ∃ before last after, events = before ++ [last] ++ after ∧
      (∀ event ∈ before, event.isEnd = false) ∧ last.occurrence = .ended completion := by
  obtain ⟨before, last, after, parted, ending, early⟩ := List.findSome?_eq_some_iff.1 first
  refine ⟨before, last, after, ?_, ?_, occurrence_of_completion? ending⟩
  · rw [parted, List.append_assoc, List.singleton_append]
  · intro event present
    exact completion?_eq_none_iff.1 (early event present)

end Event

namespace Span

variable (span : Span)

/-- Nothing of the outcome of a call is on a span: it has no status and no status code. -/
def Unconcluded : Prop :=
  ∀ data, span.data = some data →
    data.status = .unset ∧ ∀ item ∈ data.attributes, item.key ≠ Convention.statusCode

variable {span}

theorem Unconcluded.setAttribute (unconcluded : span.Unconcluded) {added : Attribute}
    (other : added.key ≠ Convention.statusCode) : (span.setAttribute added).Unconcluded := by
  intro data found
  obtain ⟨former, present, rfl⟩ := Option.map_eq_some_iff.1 found
  obtain ⟨status, keys⟩ := unconcluded former present
  split
  · refine ⟨status, fun item inside => ?_⟩
    rcases List.mem_append.1 inside with old | new
    · exact keys item old
    · exact List.mem_singleton.1 new ▸ other
  · exact ⟨status, keys⟩

theorem Unconcluded.addEvent (unconcluded : span.Unconcluded) (name : String)
    (attributes : List Attribute) : (span.addEvent name attributes).Unconcluded := by
  intro data found
  obtain ⟨former, present, rfl⟩ := Option.map_eq_some_iff.1 found
  have kept := unconcluded former present
  split
  · exact kept
  · exact kept

theorem unconcluded_of_over (past : span.data = none) : span.Unconcluded := by
  intro data found
  rw [past] at found
  cases found

/-- What becomes of a span without an end: it is as open as before, under the same identity, and has
no outcome if it had none. -/
structure Kept (former later : Span) : Prop where
  exporting : later.exporting = former.exporting
  identity : later.data.map (·.context) = former.data.map (·.context)
  unconcluded : former.Unconcluded → later.Unconcluded

namespace Kept

variable {middle later : Span}

theorem refl (span : Span) : span.Kept span := ⟨rfl, rfl, id⟩

theorem trans (first : span.Kept middle) (second : middle.Kept later) : span.Kept later where
  exporting := second.exporting.trans first.exporting
  identity := second.identity.trans first.identity
  unconcluded := second.unconcluded ∘ first.unconcluded

theorem isRecording (kept : span.Kept later) : later.isRecording = span.isRecording := by
  have same := congrArg Option.isSome kept.identity
  rwa [Option.isSome_map, Option.isSome_map] at same

theorem setAttribute {added : Attribute} (other : added.key ≠ Convention.statusCode) :
    span.Kept (span.setAttribute added) := by
  refine ⟨rfl, ?_, fun unconcluded => unconcluded.setAttribute other⟩
  rw [Span.setAttribute, Option.map_map]
  congr 1
  funext data
  dsimp only [Function.comp_apply]
  split <;> rfl

theorem setAttributes {added : List Attribute}
    (others : ∀ item ∈ added, item.key ≠ Convention.statusCode) :
    span.Kept (span.setAttributes added) := by
  induction added generalizing span with
  | nil => exact .refl span
  | cons first rest ih =>
    exact (setAttribute (others first (by simp))).trans
      (ih fun item inside => others item (List.mem_cons_of_mem _ inside))

theorem addEvent (name : String) (attributes : List Attribute) :
    span.Kept (span.addEvent name attributes) := by
  refine ⟨rfl, ?_, fun unconcluded => unconcluded.addEvent name attributes⟩
  rw [Span.addEvent, Option.map_map]
  congr 1
  funext data
  dsimp only [Function.comp_apply]
  split <;> rfl

end Kept

/-- An outcome does not change whose span it is. -/
theorem identity_conclude (span : Span) (outcome : Outcome) :
    (span.conclude outcome).data.map (·.context) = span.data.map (·.context) := by
  obtain ⟨limits, exporting, data⟩ := span
  cases data with
  | none => rfl
  | some data =>
    unfold conclude setStatus setAttribute
    simp only [Option.map_some, Option.some.injEq]
    split <;> split <;> rfl

end Span

/-! ## No attribute of a method or a peer is a status code -/

namespace ClosingLemmas

theorem key_ne_of_mem_partAttribute {key : String} {name : List Char} {item : Attribute}
    (other : key ≠ Convention.statusCode) (present : item ∈ Method.partAttribute key name) :
    item.key ≠ Convention.statusCode := by
  unfold Method.partAttribute at present
  split at present
  · cases present
  · exact List.mem_singleton.1 present ▸ other

theorem key_ne_of_mem_hostAttributes {host : List Char} {port : Int} {item : Attribute}
    (present : item ∈ Peer.hostAttributes host port) : item.key ≠ Convention.statusCode := by
  have hostKeys : Convention.socketPeerAddress ≠ Convention.statusCode ∧
      Convention.peerName ≠ Convention.statusCode := by decide
  have portKeys : Convention.socketPeerPort ≠ Convention.statusCode ∧
      Convention.peerPort ≠ Convention.statusCode := by decide
  unfold Peer.hostAttributes at present
  generalize (if host.isEmpty then Peer.loopback else host) = shown at present
  dsimp only at present
  split at present
  · rcases List.mem_cons.1 present with rfl | second
    · exact hostKeys.1
    · exact List.mem_singleton.1 second ▸ portKeys.1
  · rcases List.mem_cons.1 present with rfl | second
    · exact hostKeys.2
    · exact List.mem_singleton.1 second ▸ portKeys.2

end ClosingLemmas

open ClosingLemmas

theorem Method.key_ne_statusCode {fullName : String} {item : Attribute}
    (present : item ∈ Method.identity fullName) : item.key ≠ Convention.statusCode := by
  rcases List.mem_append.1 present with named | system
  · unfold Method.parse at named
    split at named
    · split at named
      · cases named
      · rcases List.mem_append.1 named with service | method
        · exact key_ne_of_mem_partAttribute (by decide) service
        · exact key_ne_of_mem_partAttribute (by decide) method
    · cases named
  · obtain rfl := List.mem_singleton.1 system
    show Convention.rpcSystem ≠ Convention.statusCode
    decide

theorem Peer.key_ne_statusCode {peer : Peer} {item : Attribute}
    (present : item ∈ peer.attributes.1) : item.key ≠ Convention.statusCode := by
  unfold Peer.attributes Peer.attributes? at present
  split at present
  · next parsed =>
    split at parsed
    · cases parsed
    · split at parsed
      · cases parsed
      · obtain rfl := Except.ok.inj parsed
        exact key_ne_of_mem_hostAttributes present
  · cases present

namespace Call

variable (call : Call) {event : Event} {progress : Progress}

/-! ## One event -/

/-- Only an end gives a span out, and of a handle only its first one. -/
theorem spans_deliver (event : Event) (progress : Progress) :
    (call.deliver event progress).2.spans =
      match event.completion? with
      | none => []
      | some completion =>
        if progress.cell.ended then []
        else (progress.span.conclude (call.role.outcome completion.failure)).exported := by
  cases past : progress.cell.ended with
  | true =>
    rw [deliver_of_ended past]
    cases event.completion? <;> rfl
  | false =>
    obtain ⟨client, occurrence⟩ := event
    unfold deliver deliverFiltered deliverLive deliverHeader
    rw [past]
    cases call.tracking <;> cases occurrence with
      | header direction metadata => cases direction <;> cases call.peer <;> rfl
      | ended completion => simp [Event.completion?, deliverEnd, close, Output.ofLogs]
      | _ => rfl

/-- The first end that a handle sees ends the span. -/
theorem span_deliver_closing {completion : Completion} (isOpen : progress.cell.ended = false)
    (ending : event.completion? = some completion) :
    (call.deliver event progress).1.span =
      (progress.span.conclude (call.role.outcome completion.failure)).finish := by
  have last := Event.occurrence_of_completion? ending
  unfold deliver deliverFiltered deliverLive
  simp only [last, isOpen]
  cases call.tracking <;> rfl

/-- An event that is no end leaves the span open, and without an outcome. -/
theorem kept_deliver (early : event.isEnd = false) :
    progress.span.Kept (call.deliver event progress).1.span := by
  obtain ⟨client, occurrence⟩ := event
  unfold deliver
  split
  · unfold deliverFiltered
    cases occurrence with
    | ended completion => cases early
    | _ => exact .refl _
  · split
    · exact .refl _
    · cases occurrence with
      | ended completion => cases early
      | message direction message => exact .addEvent _ _
      | header direction metadata =>
        cases direction with
        | inbound => exact .refl _
        | outbound =>
          show progress.span.Kept (call.deliverHeader progress).1.span
          unfold deliverHeader
          split
          · exact .refl _
          · exact .setAttributes fun item => Peer.key_ne_statusCode
      | began => exact .refl _
      | trailer direction metadata => exact .refl _

/-! ## Runs -/

/-- An end that comes several times closes the span that it finds. -/
theorem run_replicate_closing {completion : Completion}
    (ending : event.completion? = some completion)
    (past : progress.cell.ended = true → progress.span.data = none) (times : Nat) :
    (call.run (List.replicate (times + 1) event) progress).2.spans =
        (progress.span.conclude (call.role.outcome completion.failure)).exported ∧
      (call.run (List.replicate (times + 1) event) progress).1.span.data = none := by
  have flagged : (call.deliver event progress).1.cell.ended = true := by
    rw [call.ended_deliver, Event.isEnd_eq_isSome, ending]
    exact Bool.or_true _
  rw [List.replicate_succ, run_cons, run_of_ended flagged, Output.spans_append, spans_deliver,
    ending]
  refine ⟨(List.append_nil _).trans ?_, ?_⟩
  · dsimp only
    split
    · next ended => rw [Span.conclude_of_over (past ended), Span.exported, past ended]; simp
    · rfl
  · cases ended : progress.cell.ended with
    | true => rw [deliver_of_ended ended]; exact past ended
    | false => rw [call.span_deliver_closing ended ending]; rfl

theorem spans_run_early {events : List Event} (early : ∀ event ∈ events, event.isEnd = false)
    (progress : Progress) :
    (call.run events progress).2.spans = [] ∧
      progress.span.Kept (call.run events progress).1.span := by
  induction events generalizing progress with
  | nil => exact ⟨rfl, .refl _⟩
  | cons event rest ih =>
    have first : event.isEnd = false := early event (by simp)
    obtain ⟨spans, kept⟩ :=
      ih (fun later present => early later (List.mem_cons_of_mem _ present))
        (call.deliver event progress).1
    rw [run_cons]
    constructor
    · rw [Output.spans_append, spans, spans_deliver, Event.completion?_eq_none_iff.2 first]
      rfl
    · exact (call.kept_deliver first).trans kept

/-- A run gives out the span as the events before the first end have left it. -/
theorem spans_run_closing {before after : List Event} {last : Event} {completion : Completion}
    (early : ∀ event ∈ before, event.isEnd = false)
    (ended : last.occurrence = .ended completion) (isOpen : progress.cell.ended = false) :
    let outcome := call.role.outcome completion.failure
    let reached := (call.run before progress).1.span
    (call.run (before ++ [last] ++ after) progress).2.spans = (reached.conclude outcome).exported ∧
      (call.run (before ++ [last] ++ after) progress).1.span =
        (reached.conclude outcome).finish := by
  intro outcome reached
  have ending : last.completion? = some completion := by
    rw [Event.completion?, ended]
  have stillOpen : (call.run before progress).1.cell.ended = false := by
    rw [call.ended_run, isOpen, Bool.false_or, List.any_eq_false]
    exact fun event present => Bool.eq_false_iff.1 (early event present)
  have flagged : (call.deliver last (call.run before progress).1).1.cell.ended = true := by
    rw [call.ended_deliver, Event.isEnd_eq_isSome, ending]
    exact Bool.or_true _
  rw [run_append, run_append, run_singleton, run_of_ended flagged]
  constructor
  · rw [Output.spans_append, Output.spans_append, (call.spans_run_early early progress).1,
      spans_deliver, ending, stillOpen, List.nil_append]
    exact List.append_nil _
  · exact call.span_deliver_closing stillOpen ending

/-- A span is recording until the first end, if it was at all. -/
theorem isRecording_run (isOpen : progress.cell.ended = false) (events : List Event) :
    (call.run events progress).1.span.isRecording =
      (progress.span.isRecording && !events.any (·.isEnd)) := by
  rw [← Event.isSome_firstEnd?]
  cases first : Event.firstEnd? events with
  | none =>
    have kept := (call.spans_run_early (Event.early_of_firstEnd?_eq_none first) progress).2
    exact kept.isRecording.trans (Bool.and_true _).symm
  | some completion =>
    obtain ⟨before, last, after, rfl, early, ended⟩ := Event.split_of_firstEnd? first
    rw [(call.spans_run_closing early ended isOpen).2]
    exact (Bool.and_false _).symm

theorem spans_run_of_over (past : progress.span.data = none) (events : List Event) :
    (call.run events progress).2.spans = [] := by
  induction events generalizing progress with
  | nil => rfl
  | cons event rest ih =>
    have kept : (call.deliver event progress).1.span = progress.span :=
      span_deliver_of_over past event
    have nothing : (call.deliver event progress).2.spans = [] := by
      rw [spans_deliver]
      split
      · rfl
      · rw [Span.conclude_of_over past, Span.exported, past]
        simp
    rw [run_cons, Output.spans_append, nothing, ih (kept ▸ past)]
    rfl

end Call

end RpcTelemetry
