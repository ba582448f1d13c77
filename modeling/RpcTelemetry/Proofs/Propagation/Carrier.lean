import RpcTelemetry.Proofs.Propagation.Continuity

/-!
# Fields in metadata

A client lays the fields of its propagator over its outgoing metadata, and a server gives its
incoming metadata to a propagator that looks fields up. A field is written under its name in lower
case, but it is looked up under its name as it is.

Results:
1. `get?_inject_of_mem`: of fields whose names differ in lower case, each is found under its name in
   lower case.
2. `get?_eq_none_of_capital`: nothing is ever found under a name with capitals.
3. `fields_read_back`: what a server finds of the fields of a client are those whose names are in
   lower case, whatever else the metadata of the client were. `capital_name_lost` shows another one.
-/

namespace RpcTelemetry

namespace Tagging

variable (call : Tagging)

/-- The propagator of the handler. -/
def propagator : Propagator := call.handler.propagatorIn call.world.globals

/-- The fields that the propagator writes for the context of the call. -/
def fields : List (String × String) := call.propagator.fields call.context

variable {call}

/-- The context of a client is the one that it is told. -/
theorem above_of_client (isClient : call.handler.role = .client) : call.above = call.parent :=
  call.world.parentOf_of_client call.parent call.rpc isClient

theorem above_of_server (isServer : call.IsServer) :
    call.above = call.propagator.extract call.world.current .empty call.rpc.incoming := by
  obtain ⟨policy, role⟩ := isServer
  exact call.world.parentOf_of_server call.parent call.rpc role

theorem rpc_tagged : call.tagged.2.rpc =
    { call.rpc with outgoing := call.world.outgoingOf call.handler call.rpc call.context } := by
  obtain ⟨logs, tagged⟩ := call.world.tag_eq call.handler call.parent call.rpc call.info
  rw [context, Tagging.tagged, tagged]

/-- A server leaves the transport context of a call as it is. -/
theorem rpc_of_server (isServer : call.IsServer) : call.tagged.2.rpc = call.rpc := by
  obtain ⟨policy, role⟩ := isServer
  rw [rpc_tagged, World.outgoingOf_of_server _ _ role]

/-- A client changes no more of the transport context than the outgoing metadata. -/
theorem rpc_of_client (isClient : call.handler.role = .client) : call.tagged.2.rpc =
    { call.rpc with outgoing := (call.rpc.outgoing.inject call.fields).1 } := by
  rw [rpc_tagged, World.outgoingOf_of_client _ _ isClient]
  rfl

end Tagging

namespace Metadata

/-! ## Keys have no capitals -/

theorem toLower_of_isKeyChar {c : Char} (ofKey : isKeyChar c = true) : c.toLower = c := by
  have noCapital : ¬(c.val ≥ 'A'.val ∧ c.val ≤ 'Z'.val) := by
    rintro ⟨above, below⟩
    simp only [isKeyChar, Bool.or_eq_true, Bool.and_eq_true, decide_eq_true_eq, beq_iff_eq] at ofKey
    -- Capitals stand after digits, hyphen and dot, and before small letters and the underscore.
    rcases ofKey with (((⟨letter, -⟩ | ⟨-, digit⟩) | rfl) | rfl) | rfl
    · exact absurd (UInt32.le_trans letter below) (by decide)
    · exact absurd (UInt32.le_trans above digit) (by decide)
    · exact absurd above (by decide)
    · exact absurd below (by decide)
    · exact absurd above (by decide)
  exact dif_neg noCapital

theorem toLower_of_isKey {key : String} (valid : isKey key = true) : key.toLower = key := by
  simp only [isKey, Bool.and_eq_true, List.all_eq_true] at valid
  rw [← String.toList_inj]
  calc key.toLower.toList
      = key.toList.map Char.toLower := String.toList_map
    _ = key.toList.map id :=
        List.map_congr_left fun c inside => toLower_of_isKeyChar (valid.2 c inside)
    _ = key.toList := List.map_id _

variable (metadata : Metadata)

theorem isKey_of_get? {key value : String} (found : metadata.get? key = some value) :
    isKey key = true :=
  (metadata.valid (key, value) ((Keyed.get?_eq_some_iff metadata.fields key value).1 found)).1

/-- Nothing is found under a name with capitals. -/
theorem get?_eq_none_of_capital {name : String} (capital : name.toLower ≠ name) :
    metadata.get? name = none := by
  cases found : metadata.get? name with
  | none => rfl
  | some value => exact absurd (toLower_of_isKey (metadata.isKey_of_get? found)) capital

/-! ## Several writes -/

/-- A write that is not refused leaves the rest to be written to what it gives. -/
theorem insertAll_cons_of_accepted {key value : String} {rest : List (String × String)}
    (accepted : (metadata.insertAll ((key, value) :: rest)).2 = []) :
    ∃ written : Metadata, metadata.insertAll ((key, value) :: rest) = written.insertAll rest ∧
      ∀ other, written.get? other = if other = key then some value else metadata.get? other := by
  by_cases valid : isKey key = true ∧ isValue value = true
  · obtain ⟨written, inserted, found⟩ := metadata.insert_of_valid valid.1 valid.2
    refine ⟨written, ?_, found⟩
    rw [insertAll, inserted]
  · have refused : ∃ error, metadata.insert key value = .error error := by
      unfold insert
      by_cases validKey : isKey key = true
      · rw [dif_pos validKey, dif_neg fun validValue => valid ⟨validKey, validValue⟩]
        exact ⟨_, rfl⟩
      · rw [dif_neg validKey]
        exact ⟨_, rfl⟩
    obtain ⟨error, refused⟩ := refused
    rw [insertAll, refused] at accepted
    cases accepted

theorem accepted_of_valid {written : List (String × String)}
    (valid : ∀ field ∈ written, isKey field.1 = true ∧ isValue field.2 = true) :
    (metadata.insertAll written).2 = [] := by
  induction written generalizing metadata with
  | nil => rfl
  | cons field rest ih =>
    obtain ⟨⟨validKey, validValue⟩, validRest⟩ := List.forall_mem_cons.1 valid
    obtain ⟨next, inserted, -⟩ := metadata.insert_of_valid validKey validValue
    rw [insertAll, inserted]
    exact ih next validRest

theorem get?_insertAll_of_absent {key : String} {written : List (String × String)}
    (accepted : (metadata.insertAll written).2 = []) (absent : key ∉ written.map (·.1)) :
    (metadata.insertAll written).1.get? key = metadata.get? key := by
  induction written generalizing metadata with
  | nil => rfl
  | cons field rest ih =>
    rw [List.map_cons, List.mem_cons, not_or] at absent
    obtain ⟨next, same, found⟩ := metadata.insertAll_cons_of_accepted accepted
    rw [same] at accepted ⊢
    rw [ih next accepted absent.2, found, if_neg absent.1]

/-- Of fields with different keys, each is found under its key. -/
theorem get?_insertAll_of_mem {written : List (String × String)}
    (accepted : (metadata.insertAll written).2 = []) (distinct : (written.map (·.1)).Nodup) :
    ∀ field ∈ written, (metadata.insertAll written).1.get? field.1 = some field.2 := by
  induction written generalizing metadata with
  | nil => simp
  | cons first rest ih =>
    obtain ⟨absent, distinctRest⟩ := List.nodup_cons.1 (List.map_cons ▸ distinct)
    obtain ⟨next, same, found⟩ := metadata.insertAll_cons_of_accepted accepted
    rw [same] at accepted ⊢
    refine List.forall_mem_cons.2 ⟨?_, ih next accepted distinctRest⟩
    rw [next.get?_insertAll_of_absent accepted absent, found, if_pos rfl]

variable {metadata} {fields : List (String × String)}

/-- Of fields whose names differ in lower case, each is found under its name in lower case. -/
theorem get?_inject_of_mem (accepted : (metadata.inject fields).2 = [])
    (distinct : (fields.map (·.1.toLower)).Nodup) {field : String × String}
    (present : field ∈ fields) :
    (metadata.inject fields).1.get? field.1.toLower = some field.2 := by
  refine metadata.get?_insertAll_of_mem accepted ?_ (field.1.toLower, field.2)
    (List.mem_map_of_mem present)
  rwa [List.map_map]

/-- What is found under the name of a field itself. -/
theorem get?_name_inject (accepted : (metadata.inject fields).2 = [])
    (distinct : (fields.map (·.1.toLower)).Nodup) {field : String × String}
    (present : field ∈ fields) :
    (metadata.inject fields).1.get? field.1 =
      if field.1.toLower = field.1 then some field.2 else none := by
  split
  · next lower =>
    have found := get?_inject_of_mem accepted distinct present
    rwa [lower] at found
  · next capital => exact get?_eq_none_of_capital _ capital

end Metadata

namespace Tagging

variable {client server : Tagging} {decode : Context → List (Option String) → Context}

/-- A field that metadata accept is found under its name in lower case, and under its name as it is
only if that is in lower case. So of the fields that a client lays over its metadata, a server whose
propagator looks up the same names finds those in lower case, and no others. -/
theorem fields_read_back (isClient : client.handler.role = .client) (isServer : server.IsServer)
    (received : server.rpc.incoming = client.tagged.2.rpc.outgoing)
    (reads : ∀ current base metadata, server.propagator.extract current base metadata =
      decode base ((client.fields.map (·.1)).map metadata.get?))
    (accepted : (client.rpc.outgoing.inject client.fields).2 = [])
    (distinct : (client.fields.map (·.1.toLower)).Nodup) :
    (∀ (metadata : Metadata) (name value : String), (metadata.inject [(name, value)]).2 = [] →
        (metadata.inject [(name, value)]).1.get? name.toLower = some value ∧
        ((metadata.inject [(name, value)]).1.get? name = some value ↔ name.toLower = name)) ∧
      server.above = decode .empty (client.fields.map fun field =>
        if field.1.toLower = field.1 then some field.2 else none) := by
  constructor
  · intro metadata name value accepted
    have alone : ([(name, value)].map (·.1.toLower)).Nodup := by simp
    refine ⟨Metadata.get?_inject_of_mem accepted alone (List.mem_singleton_self _), ?_⟩
    rw [Metadata.get?_name_inject accepted alone (List.mem_singleton_self (name, value))]
    simp
  · calc server.above
        = server.propagator.extract server.world.current .empty server.rpc.incoming :=
          above_of_server isServer
      _ = decode .empty ((client.fields.map (·.1)).map
            (client.rpc.outgoing.inject client.fields).1.get?) := by
          rw [reads, received, rpc_of_client isClient]
      _ = _ := by
          rw [List.map_map]
          congr 1
          exact List.map_congr_left fun field present =>
            Metadata.get?_name_inject accepted distinct present

end Tagging

namespace Sample

/-- Reads a span if both fields are found. -/
def readBoth (base : Context) : List (Option String) → Context
  | [some _, some _] => .remote ⟨1, 2, 1, true, .empty⟩
  | _ => base

/-- A propagator that writes and reads two fields, one of them under a name with capitals. -/
def mixed : Propagator where
  fields _ := [("x-tenant", "blue"), ("X-Trace", "1:2")]
  extract _ base metadata := readBoth base [metadata.get? "x-tenant", metadata.get? "X-Trace"]

/-- A client call with this propagator. -/
def mixedClient : Tagging := ⟨world, ⟨.client, some 0, none, some mixed, none⟩, .empty, rpc, info⟩

/-- The server call that receives what the client sends. -/
def mixedServer : Tagging where
  world := world
  handler := ⟨.server .standard, some 0, none, some mixed, none⟩
  parent := .empty
  rpc := { rpc with incoming := mixedClient.tagged.2.rpc.outgoing }
  info := info

theorem toLower_trace : "X-Trace".toLower = "x-trace" :=
  String.toList_inj.1 (String.toList_map.trans (by decide))

end Sample

/-- The server finds the field in lower case only, and so no span. -/
theorem Tagging.mixed_fields_read_back :
    Sample.mixedServer.above = Sample.readBoth .empty [some "blue", none] := by
  have written : Sample.mixedClient.fields = [("x-tenant", "blue"), ("X-Trace", "1:2")] := rfl
  have tenant : "x-tenant".toLower = "x-tenant" := Metadata.toLower_of_isKey (by decide)
  have trace := Sample.toLower_trace
  have accepted : (Sample.mixedClient.rpc.outgoing.inject Sample.mixedClient.fields).2 = [] := by
    refine Metadata.accepted_of_valid _ ?_
    simp only [written, List.map_cons, List.map_nil, tenant, trace, List.forall_mem_cons]
    exact ⟨by decide, by decide, List.forall_mem_nil _⟩
  have distinct : (Sample.mixedClient.fields.map (·.1.toLower)).Nodup := by
    simp [written, tenant, trace]
  obtain ⟨-, above⟩ := @Tagging.fields_read_back Sample.mixedClient Sample.mixedServer
    Sample.readBoth rfl ⟨_, rfl⟩ rfl (fun _ _ _ => rfl) accepted distinct
  simpa [written, tenant, trace] using above

/-- A field whose name has capitals is accepted, but nothing is found under its name. -/
theorem Metadata.capital_name_lost :
    (Metadata.empty.inject [("X-Trace", "1:2")]).2 = [] ∧
      (Metadata.empty.inject [("X-Trace", "1:2")]).1.get? "X-Trace" = none := by
  have capital : "X-Trace".toLower ≠ "X-Trace" := by
    rw [Sample.toLower_trace]
    decide
  refine ⟨Metadata.accepted_of_valid _ ?_, Metadata.get?_eq_none_of_capital _ capital⟩
  simp only [List.map_cons, List.map_nil, Sample.toLower_trace, List.forall_mem_singleton]
  decide

end RpcTelemetry
