import RpcTelemetry.Proofs.Call.Following

/-!
# Repeated outbound headers

Every outbound header of a call adds the attributes of the peer to its span once more. What a span
has gathered since the events began (`Span.Gathered`) is followed through one event and through a
run; the rest is about lists that repeat the two attributes of a peer before the status code.

Result: `headers_repeat_peer`. A call is compared with the same call without all its outbound
headers but the first. The two spans have the same attributes only if there is nothing to repeat or
no room for it; otherwise keys are repeated, and enough headers leave no room for the status code.
-/

namespace RpcTelemetry

/-- A recording span that is exported at its end and has gathered attributes since it held `first`,
as many as its limit allows. -/
structure Span.Gathered (limit : Nat) (first added : List Attribute) (span : Span) : Prop where
  limits : span.limits.attributes = limit
  exporting : span.exporting = true
  attributes : span.data.map (·.attributes) = some (first ++ added.take (limit - first.length))

/-- What the events of a call tell: the attributes of the peer some number of times, and then the
code. -/
def Attribute.told (peer : List Attribute) (times : Nat) (code : Attribute) : List Attribute :=
  (List.replicate times peer).flatten ++ [code]

namespace Event

/-- Whether an event reports outbound headers. -/
def isOutHeader (event : Event) : Bool :=
  match event.occurrence with
  | .header .outbound _ => true
  | _ => false

/-- The events without all outbound headers but the first. -/
def firstHeaderOnly : List Event → List Event
  | [] => []
  | event :: rest =>
    event :: if event.isOutHeader then rest.filter (!·.isOutHeader) else firstHeaderOnly rest

theorem firstHeaderOnly_sublist (events : List Event) :
    List.Sublist (firstHeaderOnly events) events := by
  induction events with
  | nil => exact .slnil
  | cons event rest ih =>
    unfold firstHeaderOnly
    split
    · exact .cons_cons event List.filter_sublist
    · exact .cons_cons event ih

theorem countP_firstHeaderOnly {events : List Event} (header : events.any (·.isOutHeader)) :
    (firstHeaderOnly events).countP (·.isOutHeader) = 1 := by
  induction events with
  | nil => cases header
  | cons event rest ih =>
    unfold firstHeaderOnly
    cases here : event.isOutHeader with
    | true =>
      have none : (rest.filter (!·.isOutHeader)).countP (·.isOutHeader) = 0 := by
        refine List.countP_eq_zero.2 fun later present => ?_
        simpa using (List.mem_filter.1 present).2
      rw [if_pos rfl, List.countP_cons_of_pos here, none]
    | false =>
      rw [List.any_cons, here, Bool.false_or] at header
      rw [if_neg nofun, List.countP_cons_of_neg (by simp [here]), ih header]

end Event

namespace Span.Gathered

open GivenLemmas

variable {limit : Nat} {first added : List Attribute} {span : Span}

theorem setAttribute (gathered : span.Gathered limit first added) (item : Attribute) :
    (span.setAttribute item).Gathered limit first (added ++ [item]) where
  limits := gathered.limits
  exporting := gathered.exporting
  attributes := by
    obtain ⟨data, recording, held⟩ := Option.map_eq_some_iff.1 gathered.attributes
    have count : data.attributes.length =
        first.length + min (limit - first.length) added.length := by
      rw [held, List.length_append, List.length_take]
    unfold Span.setAttribute
    rw [recording, gathered.limits]
    show some (if data.attributes.length < limit then _ else _ : SpanData).attributes = _
    split
    · next room =>
      rw [take_concat_of_lt (by omega), ← List.append_assoc, ← held]
    · next full =>
      rw [take_concat_of_le (by omega), ← held]

theorem setAttributes (gathered : span.Gathered limit first added) (items : List Attribute) :
    (span.setAttributes items).Gathered limit first (added ++ items) := by
  induction items generalizing span added with
  | nil => rwa [List.append_nil]
  | cons item rest ih =>
    rw [← List.singleton_append, ← List.append_assoc]
    exact ih (gathered.setAttribute item)

theorem addEvent (gathered : span.Gathered limit first added) (name : String)
    (attributes : List Attribute) :
    (span.addEvent name attributes).Gathered limit first added where
  limits := gathered.limits
  exporting := gathered.exporting
  attributes := by
    refine Eq.trans ?_ gathered.attributes
    unfold Span.addEvent
    rw [Option.map_map]
    congr 1
    funext data
    show (if _ then _ else _ : SpanData).attributes = data.attributes
    split <;> rfl

/-- At its end a span gives out what it has gathered, with the code last. -/
theorem exported_conclude (gathered : span.Gathered limit first added) (outcome : Outcome) :
    ∃ data, (span.conclude outcome).exported = [data] ∧
      data.attributes =
        first ++ (added ++ [outcome.code.attribute]).take (limit - first.length) := by
  have coded := gathered.setAttribute outcome.code.attribute
  obtain ⟨data, recording, held⟩ := Option.map_eq_some_iff.1 coded.attributes
  refine ⟨if outcome.status.replaces data.status then { data with status := outcome.status }
    else data, ?_, ?_⟩
  · unfold Span.exported Span.conclude Span.setStatus
    rw [recording]
    exact if_pos gathered.exporting
  · rw [← held]
    split <;> rfl

end Span.Gathered

namespace Call

/-- The attributes that outbound headers add to the span of a call. -/
def peerAttributes (call : Call) : List Attribute :=
  (call.peer.map fun peer => peer.attributes.1).getD []

theorem headerAttributes_eq (call : Call) (event : Event) :
    call.headerAttributes event = if event.isOutHeader then call.peerAttributes else [] := by
  obtain ⟨client, occurrence⟩ := event
  cases occurrence with
  | header direction metadata =>
    cases direction with
    | inbound => rfl
    | outbound =>
      unfold headerAttributes peerAttributes
      cases call.peer <;> rfl
  | _ => rfl

/-- Events add the attributes of the peer as often as there are outbound headers. -/
theorem flatMap_headerAttributes (call : Call) (events : List Event) :
    events.flatMap call.headerAttributes =
      (List.replicate (events.countP (·.isOutHeader)) call.peerAttributes).flatten := by
  induction events with
  | nil => rfl
  | cons event rest ih =>
    rw [List.flatMap_cons, headerAttributes_eq, ih]
    cases here : event.isOutHeader with
    | true => rw [if_pos rfl, List.countP_cons_of_pos here, List.replicate_succ, List.flatten_cons]
    | false => rw [if_neg nofun, List.countP_cons_of_neg (by simp [here]), List.nil_append]

variable {call : Call} {progress : Progress} {limit : Nat} {first added : List Attribute}

/-- An event before the end adds its attributes. -/
theorem gathered_deliver (followed : call.tracking.isFiltered = false)
    (isOpen : progress.cell.ended = false) {event : Event} (early : event.isEnd = false)
    (gathered : progress.span.Gathered limit first added) :
    (call.deliver event progress).1.span.Gathered limit first
      (added ++ call.headerAttributes event) := by
  rw [deliver_of_open followed isOpen]
  cases reported : event.message? with
  | some report =>
    obtain ⟨delivered, bare⟩ := call.deliverLive_of_message progress reported
    rw [delivered, bare, List.append_nil]
    exact gathered.addEvent _ _
  | none =>
    obtain ⟨logs, silent⟩ := call.deliverLive_of_silent progress reported early
    rw [silent]
    exact gathered.setAttributes _

/-- So do events before the end. -/
theorem gathered_run (followed : call.tracking.isFiltered = false) {events : List Event}
    (isOpen : progress.cell.ended = false) (early : ∀ event ∈ events, event.isEnd = false)
    (gathered : progress.span.Gathered limit first added) :
    (call.run events progress).1.span.Gathered limit first
      (added ++ events.flatMap call.headerAttributes) := by
  induction events generalizing progress added with
  | nil =>
    rw [List.flatMap_nil, List.append_nil]
    exact gathered
  | cons event rest ih =>
    obtain ⟨here, later⟩ := List.forall_mem_cons.1 early
    have stillOpen : (call.deliver event progress).1.cell.ended = false := by
      rw [call.ended_deliver, isOpen, here]
      rfl
    rw [run_cons, List.flatMap_cons, ← List.append_assoc]
    exact ih stillOpen later (gathered_deliver followed isOpen here gathered)

/-- What a call gives out at its end has the attributes of the peer once for each outbound header,
and the status code after them. -/
theorem spans_run_headers (followed : call.tracking.isFiltered = false) {before : List Event}
    {last : Event} {completion : Completion} (isOpen : progress.cell.ended = false)
    (early : ∀ event ∈ before, event.isEnd = false) (ended : last.occurrence = .ended completion)
    (gathered : progress.span.Gathered limit first []) :
    ∃ data : SpanData, (call.run (before ++ [last]) progress).2.spans = [data] ∧
      data.attributes = first ++
        (Attribute.told call.peerAttributes (before.countP (·.isOutHeader))
          ⟨Convention.statusCode, .int completion.codeNumber⟩).take (limit - first.length) := by
  have held := gathered_run followed isOpen early gathered
  rw [List.nil_append, call.flatMap_headerAttributes] at held
  have stillOpen : (call.run before progress).1.cell.ended = false := by
    rw [call.ended_run, isOpen, Bool.false_or, List.any_eq_false]
    intro event present
    simp [early event present]
  obtain ⟨data, given, attributes⟩ :=
    held.exported_conclude (call.role.outcome completion.failure)
  refine ⟨data, ?_, ?_⟩
  · rw [run_append, run_singleton, Output.spans_append, (call.spans_run_early early progress).1,
      (deliver_ended followed stillOpen ended).1, given]
    rfl
  · rw [attributes, Code.attribute, Role.number_outcome]
    rfl

end Call

/-! ## Attributes of a peer, several times -/

/-- The keys of the attributes of a method are among three, in their order. -/
theorem Method.keys_identity (fullName : String) :
    List.Sublist ((Method.identity fullName).map (·.key))
      [Convention.rpcService, Convention.rpcMethod, Convention.rpcSystem] := by
  have part (key : String) (name : List Char) :
      List.Sublist ((Method.partAttribute key name).map (·.key)) [key] := by
    unfold Method.partAttribute
    split
    · exact List.nil_sublist _
    · exact .refl _
  unfold Method.identity
  rw [List.map_append]
  show List.Sublist _ ([Convention.rpcService, Convention.rpcMethod] ++ [Convention.rpcSystem])
  refine List.Sublist.append_right ?_ _
  unfold Method.parse
  split
  · split
    · exact List.nil_sublist _
    · rw [List.map_append]
      exact (part _ _).append (part _ _)
  · exact List.nil_sublist _

/-- The attributes of a peer, if it has any, are two under the keys of a socket or of a name. -/
theorem Peer.attributes_cases (peer : Peer) :
    peer.attributes.1 = [] ∨ ∃ host port : Attribute, peer.attributes.1 = [host, port] ∧
      (host.key = Convention.socketPeerAddress ∧ port.key = Convention.socketPeerPort ∨
        host.key = Convention.peerName ∧ port.key = Convention.peerPort) := by
  unfold Peer.attributes
  cases parsed : peer.attributes? with
  | error fault => exact .inl rfl
  | ok attributes =>
    refine .inr ?_
    unfold Peer.attributes? at parsed
    split at parsed
    · cases parsed
    · split at parsed
      · cases parsed
      · obtain rfl := Except.ok.inj parsed
        unfold Peer.hostAttributes
        generalize (if List.isEmpty _ then Peer.loopback else _) = shown
        dsimp only
        split
        · exact ⟨_, _, rfl, .inl ⟨rfl, rfl⟩⟩
        · exact ⟨_, _, rfl, .inr ⟨rfl, rfl⟩⟩

namespace Attribute

theorem find?_append (key : String) (first second : List Attribute) :
    find? key (first ++ second) = (find? key first).or (find? key second) := by
  unfold find?
  rw [List.find?_append, Option.map_or]

/-- No attributes at all, or two under other keys than the one of the code. -/
def IsPeer (peer : List Attribute) (code : Attribute) : Prop :=
  peer = [] ∨
    ∃ host port : Attribute, peer = [host, port] ∧ host.key ≠ code.key ∧ port.key ≠ code.key

variable {peer : List Attribute} {host port code : Attribute} {times room : Nat}

theorem IsPeer.key_ne (isPeer : IsPeer peer code) {item : Attribute} (present : item ∈ peer) :
    item.key ≠ code.key := by
  rcases isPeer with rfl | ⟨host, port, rfl, hostKey, portKey⟩
  · cases present
  · rcases List.mem_cons.1 present with rfl | second
    · exact hostKey
    · exact List.mem_singleton.1 second ▸ portKey

theorem told_one (peer : List Attribute) (code : Attribute) :
    told peer 1 code = peer ++ [code] := by
  simp [told]

theorem told_succ (peer : List Attribute) (times : Nat) (code : Attribute) :
    told peer (times + 1) code = peer ++ told peer times code := by
  simp [told, List.replicate_succ]

theorem told_nil (times : Nat) (code : Attribute) : told [] times code = [code] := by
  simp [told]

theorem mem_of_repeated {item : Attribute} (present : item ∈ (List.replicate times peer).flatten) :
    item ∈ peer := by
  obtain ⟨copy, among, here⟩ := List.mem_flatten.1 present
  exact List.eq_of_mem_replicate among ▸ here

theorem mem_told {item : Attribute} (present : item ∈ told peer times code) :
    item ∈ peer ∨ item = code :=
  (List.mem_append.1 present).imp mem_of_repeated List.mem_singleton.1

/-- With room for two attributes nothing is seen of a repetition. -/
theorem take_told_of_short (positive : 0 < times) (short : room ≤ 2) :
    (told [host, port] times code).take room = (told [host, port] 1 code).take room := by
  obtain ⟨times, rfl⟩ := Nat.exists_eq_succ_of_ne_zero positive.ne'
  rw [told_succ, told_succ, List.take_append_of_le_length short,
    List.take_append_of_le_length short]

/-- With more room the third attribute told is the first one again. -/
theorem take_told_of_long (several : 2 ≤ times) (long : 3 ≤ room) :
    ∃ rest, (told [host, port] times code).take room = host :: port :: host :: rest := by
  obtain ⟨times, rfl⟩ := Nat.exists_eq_add_of_le several
  obtain ⟨room, rfl⟩ := Nat.exists_eq_add_of_le long
  refine ⟨(port :: told [host, port] times code).take room, ?_⟩
  rw [show 2 + times = times + 1 + 1 by omega, told_succ, told_succ,
    show 3 + room = room + 3 by omega]
  rfl

/-- Unless there is room to tell it twice, the same is told at any length. -/
theorem take_told_eq_iff (positive : 0 < times) (isPeer : IsPeer peer code) :
    (told peer times code).take room = (told peer 1 code).take room ↔
      times = 1 ∨ peer = [] ∨ room ≤ 2 := by
  rcases isPeer with rfl | ⟨host, port, rfl, hostKey, -⟩
  · rw [told_nil, told_nil]
    exact iff_of_true rfl (.inr (.inl rfl))
  · constructor
    · intro same
      by_contra several
      obtain ⟨rest, long⟩ : ∃ rest, (told [host, port] times code).take room =
          host :: port :: host :: rest := take_told_of_long (by omega) (by omega)
      have once : (told [host, port] 1 code).take room = [host, port, code] := by
        rw [told_one, List.take_of_length_le (show 3 ≤ room by omega)]
        rfl
      rw [long, once] at same
      have third : some host = some code := congrArg (·[2]?) same
      exact hostKey (congrArg key (Option.some.inj third))
    · rintro (rfl | none | short)
      · rfl
      · cases none
      · exact take_told_of_short positive short

/-- Where the attributes of a peer have room, a key is found among them or nowhere, however often
they are told. -/
theorem find?_take_told (positive : 0 < times) (long : peer.length ≤ room) {key : String}
    (other : key ≠ code.key) : find? key ((told peer times code).take room) = find? key peer := by
  obtain ⟨times, rfl⟩ := Nat.exists_eq_succ_of_ne_zero positive.ne'
  rw [told_succ, List.take_append, List.take_of_length_le long, find?_append]
  cases here : find? key peer with
  | some value => rfl
  | none =>
    have absent : ∀ item ∈ peer, item.key ≠ key := by
      simpa [find?] using here
    show find? key _ = none
    unfold find?
    refine Option.map_eq_none_iff.2 (List.find?_eq_none.2 fun item present => ?_)
    rcases mem_told (List.mem_of_mem_take present) with again | rfl
    · simpa using absent item again
    · simpa using other.symm

/-- Under any key but that of the code the same is found, however often a peer is told. -/
theorem find?_take_told_eq (positive : 0 < times) (isPeer : IsPeer peer code) {key : String}
    (other : key ≠ code.key) :
    find? key ((told peer times code).take room) = find? key ((told peer 1 code).take room) := by
  rcases Nat.lt_or_ge 2 room with long | short
  · have fits : peer.length ≤ room := by
      rcases isPeer with rfl | ⟨host, port, rfl, -⟩
      · exact Nat.zero_le _
      · exact long.le
    rw [find?_take_told positive fits other, find?_take_told Nat.one_pos fits other]
  · rw [(take_told_eq_iff positive isPeer).2 (.inr (.inr short))]

/-- The code is told unless the attributes before it take all the room. -/
theorem mem_take_told_iff (isPeer : IsPeer peer code) :
    (∃ item ∈ (told peer times code).take room, item.key = code.key) ↔
      times * peer.length < room := by
  have count : ((List.replicate times peer).flatten).length = times * peer.length := by simp
  constructor
  · rintro ⟨item, present, same⟩
    by_contra full
    rw [told, List.take_append_of_le_length (by omega)] at present
    exact isPeer.key_ne (mem_of_repeated (List.mem_of_mem_take present)) same
  · intro fits
    refine ⟨code, ?_, rfl⟩
    rw [told, List.take_of_length_le (by rw [List.length_append, count]; exact fits)]
    exact List.mem_append_right _ (List.mem_singleton.2 rfl)

/-- After attributes of other keys, a key is repeated as soon as there is room to tell a peer
twice. -/
theorem nodup_take_told_iff {first : List Attribute} (positive : 0 < times)
    (isPeer : IsPeer peer code) (distinct : ((first ++ peer ++ [code]).map (·.key)).Nodup) :
    ((first ++ (told peer times code).take room).map (·.key)).Nodup ↔
      times = 1 ∨ peer = [] ∨ room ≤ 2 := by
  constructor
  · intro nodup
    rcases isPeer with rfl | ⟨host, port, rfl, -⟩
    · exact .inr (.inl rfl)
    · by_contra several
      obtain ⟨rest, long⟩ : ∃ rest, (told [host, port] times code).take room =
          host :: port :: host :: rest := take_told_of_long (by omega) (by simp at several; omega)
      rw [long] at nodup
      have repeated := (List.nodup_append.1 (List.map_append ▸ nodup)).2.1
      simp at repeated
  · intro alone
    rw [(take_told_eq_iff positive isPeer).2 alone, told_one]
    refine distinct.sublist (List.Sublist.map _ ?_)
    rw [List.append_assoc]
    exact List.Sublist.append_left (List.take_sublist _ _) first

end Attribute

namespace RepeatedHeadersLemmas

/-- A context with a recording span has one that some provider started. -/
theorem exists_starterOf {world : World} {context : Context} {data : SpanData}
    (recording : (world.spanOf context).data = some data) :
    ∃ provider, world.starterOf context = some provider := by
  unfold World.spanOf at recording
  unfold World.starterOf
  cases found : context.record?.bind fun index => world.spans[index]? with
  | none =>
    rw [found] at recording
    cases recording
  | some kept => exact ⟨kept.provider, rfl⟩

variable {world : World} {handler : Handler} {parent : Context} {rpc : CallContext}
  {info : CallInfo} {following : Following} {start : SpanData} {before : List Event} {last : Event}
  {completion : Completion}

/-- The exported span of a call that is followed: after what it held at the start it tells the peer
once for each outbound header, and then the status code. -/
theorem exported_follow (unfiltered : (following.tracking handler info).isFiltered = false)
    (recording : let followed := world.follow handler parent rpc info following
      (followed.1.spanOf followed.2.context).data = some start)
    (exporting : let followed := world.follow handler parent rpc info following
      (followed.1.spanOf followed.2.context).exporting = true)
    (early : ∀ event ∈ before, event.isEnd = false) (ended : last.occurrence = .ended completion) :
    let followed := world.follow handler parent rpc info following
    let limit := (followed.1.spanOf followed.2.context).limits.attributes
    let peer := (rpc.peer.map fun peer => peer.attributes.1).getD []
    ∃ data : SpanData,
      (followed.1.deliverEvents handler followed.2 (before ++ [last])).exported =
        world.exported ++
          ExportedSpan.ofProvider (followed.1.starterOf followed.2.context) [data] ∧
      data.attributes = start.attributes ++
        (Attribute.told peer (before.countP (·.isOutHeader))
          ⟨Convention.statusCode, .int completion.codeNumber⟩).take
            (limit - start.attributes.length) := by
  intro followed limit peer
  obtain ⟨-, exported, -⟩ :=
    world.deliverEvents_follow handler parent rpc info following (before ++ [last])
  let fresh : Progress := ⟨.fresh, followed.1.spanOf followed.2.context⟩
  have gathered : fresh.span.Gathered limit start.attributes [] := by
    refine ⟨rfl, exporting, ?_⟩
    rw [show fresh.span.data = some start from recording, List.take_nil, List.append_nil]
    rfl
  let call : Call := ⟨handler.role, following.tracking handler info, rpc.peer⟩
  obtain ⟨data, spans, attributes⟩ := call.spans_run_headers unfiltered rfl early ended gathered
  refine ⟨data, ?_, attributes⟩
  rw [exported, spans]

/-- The span of a tagged call starts with attributes of its method. -/
theorem sublist_of_tag (recording : let tagged := world.tag handler parent rpc info
    (tagged.1.spanOf tagged.2.context).data = some start) :
    List.Sublist start.attributes (Method.identity info.fullMethod) := by
  dsimp only at recording
  rcases world.span_tag_cases handler parent rpc info with
    ⟨tracer, provider, -, given⟩ | inert
  · rw [given] at recording
    obtain rfl := Option.some.inj recording
    exact List.take_sublist _ _
  · rw [inert] at recording
    cases recording

/-- The keys of a method, of a peer and of the status code are all different. -/
theorem nodup_keys {first : List Attribute} {fullMethod : String} {code : Attribute}
    (named : List.Sublist first (Method.identity fullMethod)) (peer : Option Peer)
    (coded : code.key = Convention.statusCode) :
    ((first ++ (peer.map fun peer => peer.attributes.1).getD [] ++ [code]).map (·.key)).Nodup := by
  have method := (named.map (·.key)).trans (Method.keys_identity fullMethod)
  rw [List.map_append, List.map_append, List.map_singleton, coded]
  have among (keys : List String) (distinct : ([Convention.rpcService, Convention.rpcMethod,
      Convention.rpcSystem] ++ keys ++ [Convention.statusCode]).Nodup) :
      (first.map (·.key) ++ keys ++ [Convention.statusCode]).Nodup :=
    distinct.sublist ((method.append_right keys).append_right _)
  cases peer with
  | none => exact among [] (by decide)
  | some peer =>
    show (_ ++ peer.attributes.1.map (·.key) ++ _).Nodup
    rcases peer.attributes_cases with none | ⟨host, port, pair, keys⟩
    · rw [none]
      exact among [] (by decide)
    · rw [pair, List.map_cons, List.map_singleton]
      rcases keys with ⟨hostKey, portKey⟩ | ⟨hostKey, portKey⟩ <;> rw [hostKey, portKey]
      · exact among [Convention.socketPeerAddress, Convention.socketPeerPort] (by decide)
      · exact among [Convention.peerName, Convention.peerPort] (by decide)

theorem isPeer_attributes (peer : Option Peer) {code : Attribute}
    (coded : code.key = Convention.statusCode) :
    Attribute.IsPeer ((peer.map fun peer => peer.attributes.1).getD []) code := by
  cases peer with
  | none => exact .inl rfl
  | some peer =>
    rcases peer.attributes_cases with none | ⟨host, port, pair, -⟩
    · exact .inl none
    · have bare : ∀ item ∈ peer.attributes.1, item.key ≠ code.key :=
        fun _ present => coded ▸ Peer.key_ne_statusCode present
      rw [pair] at bare
      exact .inr ⟨host, port, pair, bare host (by simp), bare port (by simp)⟩

/-- The span of the sample call as it starts. -/
theorem exists_sample_start :
    let tagged := Sample.world.follow Sample.server .empty Sample.rpc Sample.info .tagged
    let span := tagged.1.spanOf tagged.2.context
    ∃ start, span.data = some start ∧ span.exporting = true ∧ span.limits.attributes = 128 ∧
      start.attributes = [⟨"rpc.service", .text "users.Directory"⟩,
        ⟨"rpc.method", .text "Lookup"⟩, ⟨"rpc.system", .text "grpc"⟩] := by
  intro tagged span
  obtain ⟨-, given⟩ :=
    @World.span_tag Sample.world Sample.server .empty Sample.rpc Sample.info 0 _ rfl rfl rfl
  have started : span = _ := given
  refine ⟨_, congrArg Span.data started, congrArg Span.exporting started,
    congrArg (fun span => span.limits.attributes) started, ?_⟩
  show (Method.identity "/users.Directory/Lookup").take 128 = _
  decide

/-- The attributes of the peer of the sample call. -/
theorem sample_peer :
    (Sample.rpc.peer.map fun peer => peer.attributes.1).getD [] =
      [⟨"net.sock.peer.addr", .text "10.0.0.7"⟩, ⟨"net.sock.peer.port", .int 443⟩] := by
  decide

end RepeatedHeadersLemmas

open RepeatedHeadersLemmas Attribute

namespace World

variable {world : World} {handler : Handler} {parent : Context} {rpc : CallContext}
  {info : CallInfo} {following : Following} {start : SpanData} {before : List Event} {last : Event}
  {completion : Completion}

/-- A call with outbound headers, against the same call without all of these but the first. The span
tells the peer once for each of them before the status code, up to its limit, and is the same only
if there is one, no attribute of a peer, or room for two attributes. First values are the same under
every key but that of the status code; keys are repeated unless the spans are the same, and the
status code is left out once the attributes before it reach the limit. -/
theorem headers_repeat_peer (unfiltered : (following.tracking handler info).isFiltered = false)
    (recording : let followed := world.follow handler parent rpc info following
      (followed.1.spanOf followed.2.context).data = some start)
    (exporting : let followed := world.follow handler parent rpc info following
      (followed.1.spanOf followed.2.context).exporting = true)
    (early : ∀ event ∈ before, event.isEnd = false) (header : before.any (·.isOutHeader))
    (ended : last.occurrence = .ended completion) :
    let followed := world.follow handler parent rpc info following
    let limit := (followed.1.spanOf followed.2.context).limits.attributes
    let room := limit - start.attributes.length
    let headers := before.countP (·.isOutHeader)
    let peer := (rpc.peer.map fun peer => peer.attributes.1).getD []
    let code : Attribute := ⟨"rpc.grpc.status_code", .int completion.codeNumber⟩
    ∃ (provider : Nat) (data once : SpanData),
      (followed.1.deliverEvents handler followed.2 (before ++ [last])).exported =
        world.exported ++ [⟨provider, data⟩] ∧
      (followed.1.deliverEvents handler followed.2
          (Event.firstHeaderOnly before ++ [last])).exported =
        world.exported ++ [⟨provider, once⟩] ∧
      (data.attributes =
          start.attributes ++ ((List.replicate headers peer).flatten ++ [code]).take room ∧
        once.attributes = start.attributes ++ (peer ++ [code]).take room ∧
        (data.attributes = once.attributes ↔ headers = 1 ∨ peer = [] ∨ room ≤ 2) ∧
        ∀ key, key ≠ "rpc.grpc.status_code" →
          Attribute.find? key data.attributes = Attribute.find? key once.attributes) ∧
      (((start.attributes ++ peer ++ [code]).map (·.key)).Nodup →
        ((data.attributes.map (·.key)).Nodup ↔ headers = 1 ∨ peer = [] ∨ room ≤ 2) ∧
        ((∃ item ∈ data.attributes, item.key = "rpc.grpc.status_code") ↔
          start.attributes.length + headers * peer.length < limit)) ∧
      (following = .tagged → limit = 128 →
        ((data.attributes.map (·.key)).Nodup ↔ headers = 1 ∨ peer = []) ∧
        ((∃ item ∈ data.attributes, item.key = "rpc.grpc.status_code") ↔
          start.attributes.length + headers * peer.length < 128)) := by
  intro followed limit room headers peer code
  have positive : 0 < headers := List.countP_pos_iff.2 (List.any_eq_true.1 header)
  obtain ⟨provider, starter⟩ := exists_starterOf recording
  obtain ⟨data, exported, attributes⟩ :=
    exported_follow unfiltered recording exporting early ended
  have earlyOnce : ∀ event ∈ Event.firstHeaderOnly before, event.isEnd = false :=
    fun event present => early event ((Event.firstHeaderOnly_sublist before).subset present)
  obtain ⟨once, exportedOnce, attributesOnce⟩ :=
    exported_follow unfiltered recording exporting earlyOnce ended
  rw [Event.countP_firstHeaderOnly header] at attributesOnce
  rw [starter] at exported exportedOnce
  change data.attributes = start.attributes ++ (told peer headers code).take room at attributes
  change once.attributes = start.attributes ++ (told peer 1 code).take room at attributesOnce
  have isPeer : IsPeer peer code := isPeer_attributes rpc.peer rfl
  have distinctIff (distinct : ((start.attributes ++ peer ++ [code]).map (·.key)).Nodup) :
      ((data.attributes.map (·.key)).Nodup ↔ headers = 1 ∨ peer = [] ∨ room ≤ 2) ∧
        ((∃ item ∈ data.attributes, item.key = "rpc.grpc.status_code") ↔
          start.attributes.length + headers * peer.length < limit) := by
    have bare : ∀ item ∈ start.attributes, item.key ≠ code.key := by
      intro item present same
      rw [List.append_assoc, List.map_append] at distinct
      refine (List.nodup_append.1 distinct).2.2 _ (List.mem_map_of_mem present) code.key ?_ same
      exact List.mem_map_of_mem (List.mem_append_right _ (List.mem_singleton.2 rfl))
    rw [attributes]
    refine ⟨nodup_take_told_iff positive isPeer distinct, ?_⟩
    calc (∃ item ∈ start.attributes ++ (told peer headers code).take room, item.key = code.key)
        ↔ ∃ item ∈ (told peer headers code).take room, item.key = code.key := by
          simp only [List.mem_append, or_and_right, exists_or]
          exact or_iff_right fun ⟨item, present, same⟩ => bare item present same
      _ ↔ headers * peer.length < room := mem_take_told_iff isPeer
      _ ↔ start.attributes.length + headers * peer.length < limit := by omega
  refine ⟨provider, data, once, exported, exportedOnce, ⟨attributes, ?_, ?_, ?_⟩, distinctIff, ?_⟩
  · rw [attributesOnce, told_one]
  · rw [attributes, attributesOnce, List.append_cancel_left_eq]
    exact take_told_eq_iff positive isPeer
  · intro key other
    rw [attributes, attributesOnce, find?_append, find?_append,
      find?_take_told_eq positive isPeer other]
  · rintro rfl standard
    have named := sublist_of_tag recording
    have few : start.attributes.length ≤ 3 := by
      have short := (Method.keys_identity info.fullMethod).length_le
      rw [List.length_map] at short
      exact named.length_le.trans short
    obtain ⟨nodup, coded⟩ := distinctIff (nodup_keys named rpc.peer rfl)
    refine ⟨nodup.trans ?_, standard ▸ coded⟩
    have long : ¬room ≤ 2 := by omega
    simp only [long, or_false]

/-- A call with two outbound headers, and the same call with one. -/
theorem headers_of_sample_call :
    let tagged := Sample.world.follow Sample.server .empty Sample.rpc Sample.info .tagged
    let header : Event := ⟨false, .header .outbound .empty⟩
    let last : Event := ⟨false, .ended Sample.success⟩
    ∃ (provider : Nat) (data once : SpanData),
      (tagged.1.deliverEvents Sample.server tagged.2 [header, header, last]).exported =
        [⟨provider, data⟩] ∧
      (tagged.1.deliverEvents Sample.server tagged.2 [header, last]).exported =
        [⟨provider, once⟩] ∧
      data.attributes = [⟨"rpc.service", .text "users.Directory"⟩,
        ⟨"rpc.method", .text "Lookup"⟩, ⟨"rpc.system", .text "grpc"⟩,
        ⟨"net.sock.peer.addr", .text "10.0.0.7"⟩, ⟨"net.sock.peer.port", .int 443⟩,
        ⟨"net.sock.peer.addr", .text "10.0.0.7"⟩, ⟨"net.sock.peer.port", .int 443⟩,
        ⟨"rpc.grpc.status_code", .int 0⟩] ∧
      (∀ key, key ≠ "rpc.grpc.status_code" →
        Attribute.find? key data.attributes = Attribute.find? key once.attributes) ∧
      ∃ item ∈ data.attributes, item.key = "rpc.grpc.status_code" := by
  intro tagged header last
  obtain ⟨start, recording, exporting, limit, held⟩ := exists_sample_start
  have early : ∀ event ∈ [header, header], event.isEnd = false :=
    List.forall_mem_cons.2 ⟨rfl, List.forall_mem_singleton.2 rfl⟩
  obtain ⟨provider, data, once, exported, exportedOnce, ⟨attributes, -, -, found⟩, -, standard⟩ :=
    @headers_repeat_peer Sample.world Sample.server .empty Sample.rpc Sample.info .tagged start
      [header, header] last Sample.success rfl recording exporting early rfl rfl
  obtain ⟨-, coded⟩ := standard rfl limit
  rw [limit, held, sample_peer] at attributes
  refine ⟨provider, data, once, exported, exportedOnce, attributes, found, coded.2 ?_⟩
  rw [held, sample_peer]
  decide

/-- Two outbound headers tell the peer twice, and more of them leave no room for the status code. -/
theorem headers_repeat_in_sample_call :
    let tagged := Sample.world.follow Sample.server .empty Sample.rpc Sample.info .tagged
    let header : Event := ⟨false, .header .outbound .empty⟩
    let last : Event := ⟨false, .ended Sample.success⟩
    let exports (events : List Event) : List ExportedSpan :=
      (tagged.1.deliverEvents Sample.server tagged.2 events).exported
    ∃ (provider : Nat) (once twice many : SpanData),
      exports [header, last] = [⟨provider, once⟩] ∧
      exports [header, header, last] = [⟨provider, twice⟩] ∧
      exports (List.replicate 63 header ++ [last]) = [⟨provider, many⟩] ∧
      twice.attributes ≠ once.attributes ∧
      ¬(twice.attributes.map (·.key)).Nodup ∧
      ∀ item ∈ many.attributes, item.key ≠ "rpc.grpc.status_code" := by
  intro tagged header last exports
  obtain ⟨start, recording, exporting, limit, held⟩ := exists_sample_start
  obtain ⟨provider, starter⟩ := exists_starterOf recording
  let peer : List Attribute :=
    [⟨"net.sock.peer.addr", .text "10.0.0.7"⟩, ⟨"net.sock.peer.port", .int 443⟩]
  let code : Attribute := ⟨Convention.statusCode, .int 0⟩
  have gathered (headers : Nat) : ∃ data : SpanData,
      exports (List.replicate headers header ++ [last]) = [⟨provider, data⟩] ∧
        data.attributes = start.attributes ++ (told peer headers code).take 125 := by
    have early : ∀ event ∈ List.replicate headers header, event.isEnd = false :=
      fun event present => List.eq_of_mem_replicate present ▸ rfl
    have count : (List.replicate headers header).countP (·.isOutHeader) = headers := by
      rw [List.countP_replicate]
      rfl
    obtain ⟨data, exported, attributes⟩ :=
      @exported_follow Sample.world Sample.server .empty Sample.rpc Sample.info .tagged start
        (List.replicate headers header) last Sample.success rfl recording exporting early rfl
    rw [starter] at exported
    rw [count, limit, held, sample_peer] at attributes
    exact ⟨data, exported, held ▸ attributes⟩
  obtain ⟨once, exportedOnce, attributesOnce⟩ := gathered 1
  obtain ⟨twice, exportedTwice, attributesTwice⟩ := gathered 2
  obtain ⟨many, exportedMany, attributesMany⟩ := gathered 63
  rw [held] at attributesOnce attributesTwice attributesMany
  refine ⟨provider, once, twice, many, exportedOnce, exportedTwice, exportedMany, ?_, ?_, ?_⟩
  · rw [attributesTwice, attributesOnce]
    decide
  · rw [attributesTwice]
    decide
  · intro item present coded
    have isPeer : IsPeer peer code := by
      show IsPeer [_, _] code
      rw [← sample_peer]
      exact isPeer_attributes Sample.rpc.peer rfl
    rw [attributesMany] at present
    rcases List.mem_append.1 present with method | later
    · have named : ∀ item ∈ [(⟨"rpc.service", .text "users.Directory"⟩ : Attribute),
          ⟨"rpc.method", .text "Lookup"⟩, ⟨"rpc.system", .text "grpc"⟩],
          item.key ≠ "rpc.grpc.status_code" := by decide
      exact named item method coded
    · -- The attributes of the peer alone are more than there is room for.
      have fits : 63 * peer.length < 125 := (mem_take_told_iff isPeer).1 ⟨item, later, coded⟩
      exact absurd fits (by decide)

end World

end RpcTelemetry
