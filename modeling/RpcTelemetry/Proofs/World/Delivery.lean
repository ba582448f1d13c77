import RpcTelemetry.Handler
import RpcTelemetry.Proofs.Call.Run

/-!
# Delivery through clones

A handle and its clones refer to one cell and one span, so events that are delivered through any of
them are one run of one call. `deliverAll_eq_commit` says so: a world after deliveries is the world
before with the outcome of `Call.run` written back once.
-/

namespace RpcTelemetry

/-- A handle made from another one by cloning, any number of times. -/
inductive Handle.IsClone (original : Handle) : Handle → Prop
  | self : IsClone original original
  | clone {handle : Handle} : IsClone original handle → IsClone original handle.clone

theorem Handle.IsClone.eq {original handle : Handle} (cloned : original.IsClone handle) :
    handle = original := by
  induction cloned with
  | self => rfl
  | clone _ ih => exact ih

/-- An event on its way through a handle. -/
structure Delivery where
  handle : Handle
  event : Event

namespace World

/-- Delivers events one after another, each through its own handle. -/
def deliverAll (world : World) (handler : Handler) (deliveries : List Delivery) : World :=
  deliveries.foldl (fun world delivery => world.deliver handler delivery.handle delivery.event)
    world

/-- Whether a world has the cell that a handle refers to. -/
def Knows (world : World) (handle : Handle) : Prop := handle.cell < world.cells.length

/-- Whether the end of the call of a handle was handled. -/
def isEnded (world : World) (handle : Handle) : Bool := (world.cellOf handle.cell).ended

/-- Writes the outcome of events back: cell, span, and what was given out. -/
def commit (world : World) (handler : Handler) (handle : Handle) (outcome : Progress × Output) :
    World :=
  ((world.setCell handle.cell outcome.1.cell).setSpan handle.context outcome.1.span).absorb
    handle.context handler.meter outcome.2

theorem deliver_eq_commit (world : World) (handler : Handler) (handle : Handle) (event : Event) :
    world.deliver handler handle event =
      world.commit handler handle
        ((handler.call handle).deliver event (world.progressOf handle)) := rfl

end World

/-- The records of spans with the one at a position replaced; no position replaces none. -/
def KeptSpan.replaceAt (kept : List KeptSpan) (position : Option Nat) (span : Span) :
    List KeptSpan :=
  match position with
  | none => kept
  | some index => kept.modify index ({ · with span })

/-- The meters with further measurements in the one at a position; no position takes none. -/
def Meter.recordAt (meters : List Meter) (position : Option Nat)
    (measurements : List Measurement) : List Meter :=
  match position with
  | none => meters
  | some index => meters.modify index (·.record measurements)

/-- Ended spans as their provider exports them; without a provider nobody does. -/
def ExportedSpan.ofProvider (provider : Option Nat) (spans : List SpanData) : List ExportedSpan :=
  match provider with
  | none => []
  | some index => spans.map (⟨index, ·⟩)

namespace DeliveryLemmas

theorem replaceAt_replaceAt (kept : List KeptSpan) (position : Option Nat) (first second : Span) :
    KeptSpan.replaceAt (KeptSpan.replaceAt kept position first) position second =
      KeptSpan.replaceAt kept position second := by
  cases position with
  | none => rfl
  | some index => exact List.modify_modify_eq _ _ index kept

/-- Replacing the record at a position changes the content there, and no provider. -/
theorem getElem?_replaceAt (kept : List KeptSpan) (position : Option Nat) (span : Span)
    (index : Nat) :
    (KeptSpan.replaceAt kept position span)[index]? =
      if position = some index then kept[index]?.map ({ · with span }) else kept[index]? := by
  cases position with
  | none => rfl
  | some here =>
    show (kept.modify here _)[index]? = _
    rw [List.getElem?_modify]
    by_cases same : here = index
    · subst same
      rw [if_pos rfl]
      cases kept[here]? <;> simp
    · rw [if_neg fun equal => same (Option.some.inj equal)]
      cases kept[index]? <;> simp [same]

theorem length_replaceAt (kept : List KeptSpan) (position : Option Nat) (span : Span) :
    (KeptSpan.replaceAt kept position span).length = kept.length := by
  cases position with
  | none => rfl
  | some here => exact List.length_modify _ _ _

theorem mem_replaceAt {kept : List KeptSpan} {position : Option Nat} {span : Span}
    {item : KeptSpan} (present : item ∈ KeptSpan.replaceAt kept position span) :
    item ∈ kept ∨ ∃ index former, position = some index ∧ kept[index]? = some former ∧
      item = { former with span } := by
  obtain ⟨index, found⟩ := List.mem_iff_getElem?.1 present
  rw [getElem?_replaceAt] at found
  split at found
  · next here =>
    obtain ⟨former, there, rfl⟩ := Option.map_eq_some_iff.1 found
    exact .inr ⟨index, former, here, there, rfl⟩
  · exact .inl (List.mem_of_getElem? found)

theorem recordAt_recordAt (meters : List Meter) (position : Option Nat)
    (first second : List Measurement) :
    Meter.recordAt (Meter.recordAt meters position first) position second =
      Meter.recordAt meters position (first ++ second) := by
  cases position with
  | none => rfl
  | some index =>
    refine (List.modify_modify_eq _ _ index meters).trans ?_
    show meters.modify index _ = meters.modify index _
    congr 1
    funext former
    simp [Meter.record]

theorem recordAt_nil (meters : List Meter) (position : Option Nat) :
    Meter.recordAt meters position [] = meters := by
  cases position with
  | none => rfl
  | some index =>
    have unchanged : (fun former : Meter => former.record []) = id := by
      funext former
      simp [Meter.record]
    show meters.modify index (fun former => former.record []) = meters
    rw [unchanged]
    exact List.modify_id index meters

theorem ofProvider_append (provider : Option Nat) (first second : List SpanData) :
    ExportedSpan.ofProvider provider (first ++ second) =
      ExportedSpan.ofProvider provider first ++ ExportedSpan.ofProvider provider second := by
  cases provider with
  | none => rfl
  | some index => exact List.map_append

variable (world : World) (handler : Handler) (handle : Handle) (context : Context)

theorem setSpan_eq (span : Span) :
    world.setSpan context span =
      { world with spans := KeptSpan.replaceAt world.spans context.record? span } := by
  unfold World.setSpan
  cases context.record? <;> rfl

/-- A replaced record is of the same provider. -/
theorem starterOf_setSpan (span : Span) :
    (world.setSpan context span).starterOf context = world.starterOf context := by
  rw [setSpan_eq]
  unfold World.starterOf
  cases context.record? with
  | none => rfl
  | some index =>
    simp only [KeptSpan.replaceAt, Option.bind_some, List.getElem?_modify_eq]
    cases world.spans[index]? <;> rfl

theorem commit_eq (outcome : Progress × Output) :
    world.commit handler handle outcome =
      { world with
        cells := world.cells.set handle.cell outcome.1.cell
        spans := KeptSpan.replaceAt world.spans handle.context.record? outcome.1.span
        exported := world.exported ++
          ExportedSpan.ofProvider (world.starterOf handle.context) outcome.2.spans
        meters := Meter.recordAt world.meters handler.meter outcome.2.measurements
        logs := world.logs ++ outcome.2.logs.map (⟨·, false⟩) } := by
  have starter := starterOf_setSpan (world.setCell handle.cell outcome.1.cell) handle.context
    outcome.1.span
  unfold World.commit World.absorb
  rw [starter, setSpan_eq]
  show World.mk .. = World.mk ..
  congr 1
  show (match world.starterOf handle.context with | none => _ | some _ => _) = _
  cases world.starterOf handle.context with
  | none => exact (List.append_nil _).symm
  | some provider => rfl

theorem replaceAt_spanOf :
    KeptSpan.replaceAt world.spans context.record? (world.spanOf context) = world.spans := by
  unfold World.spanOf
  cases context.record? with
  | none => rfl
  | some index =>
    refine List.ext_getElem? fun other => ?_
    simp only [KeptSpan.replaceAt, Option.bind_some, List.getElem?_modify]
    cases found : world.spans[other]? with
    | none => rfl
    | some kept =>
      by_cases here : index = other
      · simp [here, found]
      · simp [here]

theorem set_cellOf (index : Nat) :
    world.cells.set index (world.cellOf index) = world.cells := by
  unfold World.cellOf
  rcases Nat.lt_or_ge index world.cells.length with inside | outside
  · rw [List.getElem?_eq_getElem inside, Option.getD_some, List.set_getElem_self]
  · exact List.set_eq_of_length_le outside

/-- A written span is found again. Where there is no record, there is nothing but an inert span. -/
theorem spanOf_replaceAt {span : Span}
    (kept : (world.spanOf context).data = none → span = world.spanOf context) :
    World.spanOf { world with spans := KeptSpan.replaceAt world.spans context.record? span }
      context = span := by
  unfold World.spanOf at kept ⊢
  cases place : context.record? with
  | none =>
    rw [place] at kept
    exact (kept rfl).symm
  | some index =>
    rw [place] at kept
    simp only [KeptSpan.replaceAt, Option.bind_some, List.getElem?_modify_eq] at kept ⊢
    cases found : world.spans[index]? with
    | none =>
      rw [found] at kept
      exact (kept rfl).symm
    | some former => rfl

theorem starterOf_commit (outcome : Progress × Output) :
    (world.commit handler handle outcome).starterOf handle.context =
      world.starterOf handle.context :=
  starterOf_setSpan (world.setCell handle.cell outcome.1.cell) handle.context outcome.1.span

end DeliveryLemmas

open DeliveryLemmas

namespace World

variable (world : World) (handler : Handler) {handle : Handle}

/-- Writing back in two steps is writing back the last progress with all that was given out. -/
theorem commit_commit (first second : Progress × Output) :
    (world.commit handler handle first).commit handler handle second =
      world.commit handler handle (second.1, first.2 ++ second.2) := by
  rw [commit_eq (world.commit handler handle first), starterOf_commit, commit_eq, commit_eq]
  congr 1
  · exact recordAt_recordAt world.meters handler.meter _ _
  · exact replaceAt_replaceAt world.spans handle.context.record? _ _
  · exact List.set_set _
  · rw [Output.spans_append, ofProvider_append, List.append_assoc]
  · rw [Output.logs_append, List.map_append, List.append_assoc]

/-- Writing the present progress back with log entries adds these to the log. -/
theorem commit_progressOf (logs : List Log.Entry) :
    world.commit handler handle (world.progressOf handle, .ofLogs logs) = world.log logs := by
  rw [commit_eq]
  show World.mk .. = World.mk ..
  congr 1
  · exact recordAt_nil world.meters handler.meter
  · exact replaceAt_spanOf world handle.context
  · exact set_cellOf world handle.cell
  · cases world.starterOf handle.context with
    | none => exact List.append_nil _
    | some provider => exact List.append_nil _

/-- Writing the present progress back changes nothing. -/
theorem commit_unchanged :
    world.commit handler handle (world.progressOf handle, .none) = world := by
  refine (world.commit_progressOf handler []).trans ?_
  unfold log
  rw [List.map_nil, List.append_nil]

theorem cellOf_commit (known : world.Knows handle) (outcome : Progress × Output) :
    (world.commit handler handle outcome).cellOf handle.cell = outcome.1.cell := by
  rw [commit_eq]
  show ((world.cells.set handle.cell outcome.1.cell)[handle.cell]?).getD .fresh = _
  rw [List.getElem?_set_self known]
  rfl

/-- Written progress is found again. A span that is over must have been left as it was. -/
theorem progressOf_commit (known : world.Knows handle) (outcome : Progress × Output)
    (kept : (world.spanOf handle.context).data = none →
      outcome.1.span = world.spanOf handle.context) :
    (world.commit handler handle outcome).progressOf handle = outcome.1 := by
  unfold progressOf
  rw [world.cellOf_commit handler known, commit_eq]
  congr 1
  exact spanOf_replaceAt world handle.context kept

theorem knows_commit (outcome : Progress × Output) (known : world.Knows handle) :
    (world.commit handler handle outcome).Knows handle := by
  rw [commit_eq]
  show handle.cell < (world.cells.set handle.cell outcome.1.cell).length
  rwa [List.length_set]

/-- Delivering events through clones of a handle is one run of its call. -/
theorem deliverAll_eq_commit {deliveries : List Delivery} (known : world.Knows handle)
    (clones : ∀ delivery ∈ deliveries, handle.IsClone delivery.handle) :
    world.deliverAll handler deliveries =
      world.commit handler handle
        ((handler.call handle).run (deliveries.map (·.event)) (world.progressOf handle)) := by
  induction deliveries generalizing world with
  | nil => exact (world.commit_unchanged handler).symm
  | cons delivery rest ih =>
    have same : delivery.handle = handle := (clones delivery (by simp)).eq
    -- What is written back after one event is what the next one finds: the span is kept where it
    -- was over, and replaced where it has a record.
    let first := (handler.call handle).deliver delivery.event (world.progressOf handle)
    have next : (world.commit handler handle first).progressOf handle = first.1 :=
      world.progressOf_commit handler known first fun past => Call.span_deliver_of_over past _
    calc world.deliverAll handler (delivery :: rest)
        = (world.commit handler handle first).deliverAll handler rest := by
          rw [deliverAll, List.foldl_cons, same, deliver_eq_commit]
          rfl
      _ = (world.commit handler handle first).commit handler handle
            ((handler.call handle).run (rest.map (·.event)) first.1) := by
          rw [ih _ (world.knows_commit handler first known)
            fun later present => clones later (List.mem_cons_of_mem _ present), next]
      _ = _ := by
          rw [commit_commit]
          rfl

theorem knows_deliverAll {deliveries : List Delivery} (known : world.Knows handle)
    (clones : ∀ delivery ∈ deliveries, handle.IsClone delivery.handle) :
    (world.deliverAll handler deliveries).Knows handle := by
  rw [world.deliverAll_eq_commit handler known clones]
  exact world.knows_commit handler _ known

theorem cellOf_deliverAll {deliveries : List Delivery} (known : world.Knows handle)
    (clones : ∀ delivery ∈ deliveries, handle.IsClone delivery.handle) :
    (world.deliverAll handler deliveries).cellOf handle.cell =
      ((handler.call handle).run (deliveries.map (·.event)) (world.progressOf handle)).1.cell := by
  rw [world.deliverAll_eq_commit handler known clones]
  exact world.cellOf_commit handler known _

/-- The measurements of deliveries go to the meter of the handler. -/
theorem meters_deliverAll {deliveries : List Delivery} (known : world.Knows handle)
    (clones : ∀ delivery ∈ deliveries, handle.IsClone delivery.handle) :
    (world.deliverAll handler deliveries).meters =
      Meter.recordAt world.meters handler.meter
        ((handler.call handle).run (deliveries.map (·.event))
          (world.progressOf handle)).2.measurements := by
  rw [world.deliverAll_eq_commit handler known clones, commit_eq]

/-- The span that deliveries end is exported by the provider that started it. -/
theorem exported_deliverAll {deliveries : List Delivery} (known : world.Knows handle)
    (clones : ∀ delivery ∈ deliveries, handle.IsClone delivery.handle) :
    (world.deliverAll handler deliveries).exported =
      world.exported ++ ExportedSpan.ofProvider (world.starterOf handle.context)
        ((handler.call handle).run (deliveries.map (·.event))
          (world.progressOf handle)).2.spans := by
  rw [world.deliverAll_eq_commit handler known clones, commit_eq]

theorem deliverAll_append (first second : List Delivery) :
    world.deliverAll handler (first ++ second) =
      (world.deliverAll handler first).deliverAll handler second :=
  List.foldl_append

end World

end RpcTelemetry
