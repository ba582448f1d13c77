import RpcTelemetry.Proofs.Propagation.Carrier

/-!
# Laying fields over metadata

A client writes the fields of its propagator into its outgoing metadata from left to right, under
names in lower case. The fields are whatever the propagator makes of the context: names may repeat,
differ in case only, or be no keys at all, and values may be anything. A field that cannot be
written is left out, and that is logged.

Results:
1. `Metadata.inject_eq`: writing all fields is one step for each of them, and the errors are those
   of the fields that cannot be written, in order.
2. `Metadata.get?_foldl_overlay`: a key has the value of the last field that could be written to it,
   and without any such field the value that it had.
3. `Tagging.fields_laid_over`: so it is with a client that tags a call. All else that the tagging
   gives is the same as if there were no fields.
-/

namespace RpcTelemetry

namespace Metadata

/-- Why a field cannot be written, if it cannot: of two faults the one of the name is told. -/
def fault? (field : String × String) : Option WriteError :=
  if isKey field.1.toLower then
    if isValue field.2 then none else some (.invalidValue field.1.toLower)
  else some (.invalidKey field.1.toLower)

/-- Metadata with one field laid over them. -/
def overlay (metadata : Metadata) (field : String × String) : Metadata :=
  match metadata.insert field.1.toLower field.2 with
  | .ok written => written
  | .error _ => metadata

/-- A field that can be written sets its key and no other one. -/
theorem overlay_of_valid (metadata : Metadata) {field : String × String}
    (valid : fault? field = none) :
    metadata.insert field.1.toLower field.2 = .ok (metadata.overlay field) ∧
      ∀ key, (metadata.overlay field).get? key =
        if key = field.1.toLower then some field.2 else metadata.get? key := by
  unfold fault? at valid
  split at valid
  · next validKey =>
    split at valid
    · next validValue =>
      obtain ⟨written, inserted, found⟩ := metadata.insert_of_valid validKey validValue
      rw [overlay, inserted]
      exact ⟨rfl, found⟩
    · cases valid
  · cases valid

/-- A field that cannot be written leaves the metadata as they are. -/
theorem overlay_of_fault (metadata : Metadata) {field : String × String} {error : WriteError}
    (fault : fault? field = some error) :
    metadata.insert field.1.toLower field.2 = .error error ∧ metadata.overlay field = metadata := by
  have refused : metadata.insert field.1.toLower field.2 = .error error := by
    unfold fault? at fault
    unfold insert
    split at fault
    · next validKey =>
      split at fault
      · cases fault
      · next badValue =>
        rw [dif_pos validKey, dif_neg badValue, Option.some.inj fault]
    · next badKey => rw [dif_neg badKey, Option.some.inj fault]
  rw [overlay, refused]
  exact ⟨rfl, rfl⟩

/-- All fields are written one after another, and the errors are those of the fields. -/
theorem inject_eq (metadata : Metadata) (fields : List (String × String)) :
    metadata.inject fields = (fields.foldl overlay metadata, fields.filterMap fault?) := by
  induction fields generalizing metadata with
  | nil => rfl
  | cons field rest ih =>
    have unfolded : metadata.inject (field :: rest) =
        match metadata.insert field.1.toLower field.2 with
        | .ok written => written.inject rest
        | .error error => ((metadata.inject rest).1, error :: (metadata.inject rest).2) := rfl
    rw [unfolded, List.foldl_cons]
    cases fault : fault? field with
    | none =>
      rw [(metadata.overlay_of_valid fault).1, List.filterMap_cons_none fault]
      exact ih _
    | some error =>
      obtain ⟨refused, same⟩ := metadata.overlay_of_fault fault
      rw [refused, List.filterMap_cons_some fault, same, ih]

/-- The fields that can be written to a key, in order. -/
def writtenTo (key : String) (fields : List (String × String)) : List (String × String) :=
  fields.filter fun field => field.1.toLower = key ∧ fault? field = none

/-- The last field that can be written to a key gives its value. Without any the value is kept. -/
theorem get?_foldl_overlay (metadata : Metadata) (fields : List (String × String))
    (key : String) :
    (fields.foldl overlay metadata).get? key =
      match (writtenTo key fields).getLast? with
      | some field => some field.2
      | none => metadata.get? key := by
  induction fields generalizing metadata with
  | nil => rfl
  | cons field rest ih =>
    rw [List.foldl_cons, ih]
    by_cases reaches : field.1.toLower = key ∧ fault? field = none
    · have counted : writtenTo key (field :: rest) = field :: writtenTo key rest :=
        List.filter_cons_of_pos (decide_eq_true reaches)
      rw [counted, List.getLast?_cons]
      cases (writtenTo key rest).getLast? with
      | some last => rfl
      | none => exact ((metadata.overlay_of_valid reaches.2).2 key).trans (if_pos reaches.1.symm)
    · have passed : writtenTo key (field :: rest) = writtenTo key rest :=
        List.filter_cons_of_neg fun found => reaches (of_decide_eq_true found)
      -- The field is refused or sets another key, so this one has kept its value.
      have kept : (metadata.overlay field).get? key = metadata.get? key := by
        cases fault : fault? field with
        | some error => rw [(metadata.overlay_of_fault fault).2]
        | none =>
          exact ((metadata.overlay_of_valid fault).2 key).trans
            (if_neg fun same => reaches ⟨same.symm, fault⟩)
      rw [passed, kept]

theorem class_of_isKey {key : String} (valid : isKey key = true) :
    key.toList ≠ [] ∧
      ∀ c ∈ key.toList, c.isLower = true ∨ c.isDigit = true ∨ c ∈ ['-', '_', '.'] := by
  simp only [isKey, Bool.and_eq_true, decide_eq_true_eq, List.all_eq_true] at valid
  refine ⟨valid.1, fun c inside => ?_⟩
  have ofKey := valid.2 c inside
  simp only [isKeyChar, Bool.or_eq_true, Bool.and_eq_true, decide_eq_true_eq, beq_iff_eq] at ofKey
  rcases ofKey with (((⟨above, below⟩ | ⟨above, below⟩) | rfl) | rfl) | rfl
  · exact .inl (Bool.and_eq_true_iff.2 ⟨decide_eq_true above, decide_eq_true below⟩)
  · exact .inr (.inl (Bool.and_eq_true_iff.2 ⟨decide_eq_true above, decide_eq_true below⟩))
  · exact .inr (.inr (by decide))
  · exact .inr (.inr (by decide))
  · exact .inr (.inr (by decide))

theorem printable_of_isValue {value : String} (valid : isValue value = true) :
    ∀ c ∈ value.toList, 0x20 ≤ c.toNat ∧ c.toNat ≤ 0x7e := by
  intro c inside
  have printable := List.all_eq_true.1 valid c inside
  simp only [isValueChar, Bool.and_eq_true, decide_eq_true_eq] at printable
  exact ⟨printable.1, printable.2⟩

end Metadata

/-- A client that tags a call starts it, lays the fields of its propagator over the outgoing
metadata, and logs those that it has left out. -/
theorem World.tag_of_client (world : World) (handler : Handler) (parent : Context)
    (rpc : CallContext) (info : CallInfo) (isClient : handler.role = .client) :
    let started := world.startCall handler parent info
    let fields := (handler.propagatorIn world.globals).fields started.2.1
    world.tag handler parent rpc info =
      (started.1.log ((fields.filterMap Metadata.fault?).map Metadata.WriteError.entry)).addHandle
        started.2.2 { rpc with outgoing := fields.foldl Metadata.overlay rpc.outgoing }
        started.2.1 := by
  intro started fields
  have globals : started.1.globals = world.globals := by
    obtain ⟨logs, same⟩ := world.startCall_eq handler parent info
    obtain ⟨providers, spans, frame⟩ := world.startSpan_frame parent handler.tracer callScope
      (Method.parse info.fullMethod).1 handler.role.spanKind (Method.identity info.fullMethod)
    simp only [started, same, frame]
  rw [tag, isClient]
  show world.tagClient handler parent rpc info = _
  unfold tagClient
  dsimp only
  rw [Metadata.inject_eq, show (world.startCall handler parent info).1.globals = _ from globals]

namespace Tagging

variable (call : Tagging)

/-- The same call by a handler whose propagator writes no fields. -/
def withoutFields : Tagging :=
  { call with handler := { call.handler with propagator := some .passive } }

variable {call}

/-- What the fields of a client come to. Each one that can be written sets its key, from left to
right; each other one is logged once and leaves the metadata as they are. The metadata are valid
throughout, and the tagging gives the same span and the same state of the call as without any
fields. -/
theorem fields_laid_over (isClient : call.handler.role = .client) :
    let outgoing := call.tagged.2.rpc.outgoing
    let quiet := call.withoutFields.tagged
    (outgoing = call.fields.foldl Metadata.overlay call.rpc.outgoing ∧
        ∀ key, outgoing.get? key =
          match (Metadata.writtenTo key call.fields).getLast? with
          | some field => some field.2
          | none => call.rpc.outgoing.get? key) ∧
      call.tagged.1.logs = quiet.1.logs ++ (call.fields.filterMap Metadata.fault?).map
        (fun error => ⟨⟨.debug, "propagation field rejected by metadata", [("error", .shown
          (match error with
          | .invalidKey key => "invalid metadata key `" ++ key ++ "`"
          | .invalidValue key => "invalid metadata value for key `" ++ key ++ "`"))]⟩, false⟩) ∧
      (∀ entry ∈ outgoing.toList,
        (entry.1.toList ≠ [] ∧
          ∀ c ∈ entry.1.toList, c.isLower = true ∨ c.isDigit = true ∨ c ∈ ['-', '_', '.']) ∧
        ∀ c ∈ entry.2.toList, 0x20 ≤ c.toNat ∧ c.toNat ≤ 0x7e) ∧
      call.tagged.2 = { quiet.2 with rpc := { call.rpc with outgoing } } ∧
      { call.tagged.1 with logs := quiet.1.logs } = quiet.1 ∧
      call.tagged.2.tracking = call.handler.trackingOf call.info ∧
      call.tagged.1.cellOf call.tagged.2.cell = .fresh := by
  intro outgoing quiet
  let started := call.world.startCall call.handler call.parent call.info
  let rejected := (call.fields.filterMap Metadata.fault?).map Metadata.WriteError.entry
  have tagged : call.tagged = (started.1.log rejected).addHandle started.2.2
      { call.rpc with outgoing := call.fields.foldl Metadata.overlay call.rpc.outgoing }
      started.2.1 := by
    have tagged := call.world.tag_of_client call.handler call.parent call.rpc call.info isClient
    have context : started.2.1 = call.context := by
      rw [Tagging.context, Tagging.tagged, tagged]
      rfl
    rw [Tagging.tagged, tagged]
    simp only [rejected, Tagging.fields, ← context]
    rfl
  have silent : quiet = started.1.addHandle started.2.2 call.rpc started.2.1 := by
    have tagged := call.world.tag_of_client call.withoutFields.handler call.parent call.rpc
      call.info isClient
    refine tagged.trans ?_
    show World.addHandle { started.1 with logs := started.1.logs ++ [] } _ _ _ = _
    rw [List.append_nil]
    rfl
  have laid : outgoing = call.fields.foldl Metadata.overlay call.rpc.outgoing := by
    simp only [outgoing, tagged]
    rfl
  refine ⟨⟨laid, fun key => ?_⟩, ?_, fun entry present => ?_, ?_, ?_, ?_, ?_⟩
  · rw [laid]
    exact call.rpc.outgoing.get?_foldl_overlay call.fields key
  · rw [tagged, silent]
    show started.1.logs ++ rejected.map (⟨·, false⟩) = started.1.logs ++ _
    rw [List.map_map]
    refine congrArg (started.1.logs ++ ·) (List.map_congr_left fun error _ => ?_)
    cases error <;> rfl
  · obtain ⟨validKey, validValue⟩ := outgoing.valid entry present
    exact ⟨Metadata.class_of_isKey validKey, Metadata.printable_of_isValue validValue⟩
  · rw [laid, tagged, silent]
    rfl
  · rw [tagged, silent]
    rfl
  · exact call.world.tracking_tag call.handler call.parent call.rpc call.info
  · exact call.world.cellOf_tag call.handler call.parent call.rpc call.info

end Tagging

namespace Sample

/-- A client whose propagator writes one good field, a bad value to the same key, and a name that is
no key. The outgoing metadata have two fields already. -/
def overlaidClient : Tagging where
  world := world
  handler := ⟨.client, some 0, none,
    some (.fixed [("X-Trace", "1:2"), ("x-trace", "\n"), ("", "a")]), none⟩
  parent := .empty
  rpc := { rpc with
    outgoing := (Metadata.empty.insertAll [("x-tenant", "blue"), ("x-trace", "7:8")]).1 }
  info := info

end Sample

/-- The good field replaces the former value, and both bad ones are logged. -/
theorem Tagging.sample_fields_laid_over :
    Sample.overlaidClient.tagged.2.rpc.outgoing.get? "x-trace" = some "1:2" ∧
      Sample.overlaidClient.tagged.2.rpc.outgoing.get? "x-tenant" = some "blue" ∧
      Sample.overlaidClient.tagged.1.logs =
        [⟨⟨.debug, "propagation field rejected by metadata",
            [("error", .shown "invalid metadata value for key `x-trace`")]⟩, false⟩,
          ⟨⟨.debug, "propagation field rejected by metadata",
            [("error", .shown "invalid metadata key ``")]⟩, false⟩] := by
  have trace := Sample.toLower_trace
  have lower : "x-trace".toLower = "x-trace" := Metadata.toLower_of_isKey (by decide)
  have empty : "".toLower = "" := String.toList_inj.1 (String.toList_map.trans rfl)
  have fields : Sample.overlaidClient.fields = [("X-Trace", "1:2"), ("x-trace", "\n"), ("", "a")] :=
    rfl
  have faults : Metadata.fault? ("X-Trace", "1:2") = none ∧
      Metadata.fault? ("x-trace", "\n") = some (.invalidValue "x-trace") ∧
      Metadata.fault? ("", "a") = some (.invalidKey "") := by
    simp only [Metadata.fault?, trace, lower, empty]
    decide
  have written :
      Metadata.writtenTo "x-trace" Sample.overlaidClient.fields = [("X-Trace", "1:2")] ∧
        Metadata.writtenTo "x-tenant" Sample.overlaidClient.fields = [] := by
    simp [Metadata.writtenTo, fields, List.filter, trace, lower, empty, faults]
  have kept : Sample.overlaidClient.rpc.outgoing.get? "x-tenant" = some "blue" := by decide
  obtain ⟨⟨-, found⟩, logged, -⟩ := @Tagging.fields_laid_over Sample.overlaidClient rfl
  refine ⟨(found "x-trace").trans ?_, (found "x-tenant").trans ?_, logged.trans ?_⟩
  · rw [written.1]
    rfl
  · rw [written.2]
    exact kept
  · rw [fields, List.filterMap_cons_none faults.1, List.filterMap_cons_some faults.2.1,
      List.filterMap_cons_some faults.2.2]
    rfl

end RpcTelemetry
