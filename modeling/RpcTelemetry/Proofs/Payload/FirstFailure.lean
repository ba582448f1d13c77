import RpcTelemetry.Payload

/-!
# The first failure of a value

A value is serialised from left to right, and the first node that cannot be written decides what is
told instead. Here the nodes of a value are listed in that order, whatever becomes of them, and the
tree of a value is its document as it would be without failures.

Results:
1. `Value.document_eq`: serialising gives the whole tree, or the fault of the first node that has
   one.
2. `text_structured`: so does the text of a structured message, and a fault is all that is logged.
-/

namespace RpcTelemetry.Payload

/-- A place that serialising visits: a value, or the key of an entry of a map. -/
inductive Node where
  | value (content : Value Empty)
  | key (content : Value Empty)

namespace Value

/-! ## Keys -/

/-- Why a value is no key, if it is none. Texts, enumerators, integers, flags and finite numbers are
keys; what is optional or a newtype is what is inside. -/
def keyFault? : Value Empty → Option SerialError
  | .string _ | .char _ | .unitVariant _ _ | .int _ | .bool _ => Option.none
  | .double bits =>
    if (Decimal.Binary.ofBits .double bits.toNat).isFinite then Option.none else
      Option.some .keyNotFinite
  | .single bits =>
    if (Decimal.Binary.ofBits .single bits.toNat).isFinite then Option.none else
      Option.some .keyNotFinite
  | .some value | .newtype _ value => value.keyFault?
  | .failing message => Option.some (.custom message)
  | _ => Option.some .keyNotString

/-- The text of a key. -/
def keyText : Value Empty → List Char
  | .string value => value.toList
  | .char value => [value]
  | .unitVariant _ variant => variant.toList
  | .int value => (toString value).toList
  | .bool value => if value then ['t', 'r', 'u', 'e'] else ['f', 'a', 'l', 's', 'e']
  | .double bits => (doubleText? bits).getD []
  | .single bits => (singleText? bits).getD []
  | .some value | .newtype _ value => value.keyText
  | _ => []

/-! ## The tree and the nodes -/

mutual

/-- The document of a value, with nothing in place of what cannot be written. -/
def tree : Value Empty → Json
  | .unit | .none | .unitStruct _ | .failing _ => .null
  | .some value | .newtype _ value => value.tree
  | .bool value => .bool value
  | .int value => .number (toString value).toList
  | .double bits => numberDocument (doubleText? bits)
  | .single bits => numberDocument (singleText? bits)
  | .char value => .string [value]
  | .string value => .string value.toList
  | .bytes values => .array (values.map fun byte => .number (Nat.toDigits 10 byte.toNat))
  | .list items | .tuple items | .tupleStruct _ items => .array (trees items)
  | .map entries => .object (entryTrees entries)
  | .struct _ fields => .object (fieldTrees fields)
  | .unitVariant _ variant => .string variant.toList
  | .newtypeVariant _ variant value => .object [(variant.toList, value.tree)]
  | .tupleVariant _ variant items => .object [(variant.toList, .array (trees items))]
  | .structVariant _ variant fields => .object [(variant.toList, .object (fieldTrees fields))]

/-- The documents of items. -/
def trees : List (Value Empty) → List Json
  | [] => []
  | item :: rest => item.tree :: trees rest

/-- The members for the entries of a map. -/
def entryTrees : List (Value Empty × Value Empty) → List (List Char × Json)
  | [] => []
  | (key, value) :: rest => (key.keyText, value.tree) :: entryTrees rest

/-- The members for the fields of a struct. -/
def fieldTrees : List (String × Value Empty) → List (List Char × Json)
  | [] => []
  | (name, value) :: rest => (name.toList, value.tree) :: fieldTrees rest

end

mutual

/-- The nodes below a value, in the order in which they are visited. -/
def innerNodes : Value Empty → List Node
  | .some value | .newtype _ value | .newtypeVariant _ _ value => .value value :: value.innerNodes
  | .list items | .tuple items | .tupleStruct _ items | .tupleVariant _ _ items => itemNodes items
  | .map entries => entryNodes entries
  | .struct _ fields | .structVariant _ _ fields => fieldNodes fields
  | _ => []

/-- The nodes of items. -/
def itemNodes : List (Value Empty) → List Node
  | [] => []
  | item :: rest => .value item :: (item.innerNodes ++ itemNodes rest)

/-- The nodes of the entries of a map, each key before its value. -/
def entryNodes : List (Value Empty × Value Empty) → List Node
  | [] => []
  | (key, value) :: rest => .key key :: .value value :: (value.innerNodes ++ entryNodes rest)

/-- The nodes of the fields of a struct. -/
def fieldNodes : List (String × Value Empty) → List Node
  | [] => []
  | (_, value) :: rest => .value value :: (value.innerNodes ++ fieldNodes rest)

end

/-- All nodes of a value, in the order in which they are visited. -/
def nodes (value : Value Empty) : List Node := .value value :: value.innerNodes

end Value

/-- Why a node cannot be written, if it cannot. -/
def Node.fault? : Node → Option SerialError
  | .value (.failing message) => some (.custom message)
  | .value _ => none
  | .key content => content.keyFault?

/-- The fault of the first node that has one. -/
def firstFault? (nodes : List Node) : Option SerialError := nodes.findSome? Node.fault?

/-- A result, unless there is a fault. -/
def unlessFault {α : Type} (fault? : Option SerialError) (result : α) : Except SerialError α :=
  match fault? with
  | none => .ok result
  | some error => .error error

namespace FirstFailureLemmas

theorem firstFault?_cons (node : Node) (rest : List Node) :
    firstFault? (node :: rest) = node.fault?.or (firstFault? rest) := by
  unfold firstFault?
  rw [List.findSome?_cons]
  cases node.fault? <;> rfl

theorem firstFault?_append (first second : List Node) :
    firstFault? (first ++ second) = (firstFault? first).or (firstFault? second) :=
  List.findSome?_append

/-- What is made of a result is made of it if there is no fault. -/
theorem unlessFault_map {α β : Type} (fault? : Option SerialError) (result : α) (make : α → β) :
    (unlessFault fault? result >>= fun made => pure (make made)) =
      unlessFault fault? (make result) := by
  cases fault? <;> rfl

/-- Of two steps in a row the first fault counts. -/
theorem unlessFault_bind {α β : Type} {first second : Option SerialError} {result : α} {final : β}
    {next : α → Except SerialError β} (continued : next result = unlessFault second final) :
    (unlessFault first result >>= next) = unlessFault (first.or second) final := by
  cases first with
  | none => exact continued
  | some error => rfl

end FirstFailureLemmas

open FirstFailureLemmas

namespace Value

/-- A value is a key unless it has the fault of a key. -/
theorem key_eq : ∀ value : Value Empty, value.key = unlessFault value.keyFault? value.keyText
  | .some value | .newtype _ value => key_eq value
  | .double bits => by
    simp only [key, keyFault?, keyText, doubleText?]
    split <;> rfl
  | .single bits => by
    simp only [key, keyFault?, keyText, singleText?]
    split <;> rfl
  | .string _ | .char _ | .unitVariant _ _ | .int _ | .bool _ | .failing _ => rfl
  | .unit | .none | .bytes _ | .unitStruct _ | .list _ | .tuple _ | .tupleStruct _ _ | .map _
  | .struct _ _ | .newtypeVariant _ _ _ | .tupleVariant _ _ _ | .structVariant _ _ _ => rfl

/-- A value is visited before what is below it. -/
theorem firstFault?_nodes (value : Value Empty) :
    firstFault? value.nodes = (Node.value value).fault?.or (firstFault? value.innerNodes) :=
  firstFault?_cons _ _

mutual

/-- Serialising a value gives its tree, or the fault of its first node that has one. -/
theorem document_eq : ∀ value : Value Empty,
    value.document = unlessFault (firstFault? value.nodes) value.tree
  | .some value | .newtype _ value => by
    rw [firstFault?_nodes]
    exact document_eq value
  | .list items | .tuple items | .tupleStruct _ items => by
    rw [firstFault?_nodes, document, documents_eq items]
    exact unlessFault_map _ _ Json.array
  | .map entries => by
    rw [firstFault?_nodes, document, entryDocuments_eq entries]
    exact unlessFault_map _ _ Json.object
  | .struct _ fields => by
    rw [firstFault?_nodes, document, fieldDocuments_eq fields]
    exact unlessFault_map _ _ Json.object
  | .newtypeVariant _ variant value => by
    rw [firstFault?_nodes, document, document_eq value]
    exact unlessFault_map _ _ fun made => Json.object [(variant.toList, made)]
  | .tupleVariant _ variant items => by
    rw [firstFault?_nodes, document, documents_eq items]
    exact unlessFault_map _ _ fun made => Json.object [(variant.toList, .array made)]
  | .structVariant _ variant fields => by
    rw [firstFault?_nodes, document, fieldDocuments_eq fields]
    exact unlessFault_map _ _ fun made => Json.object [(variant.toList, .object made)]
  | .unit | .none | .bool _ | .int _ | .double _ | .single _ | .char _ | .string _ | .bytes _
  | .unitStruct _ | .unitVariant _ _ | .failing _ => rfl

/-- So does serialising items one after the other. -/
theorem documents_eq : ∀ items : List (Value Empty),
    documents items = unlessFault (firstFault? (itemNodes items)) (trees items)
  | [] => rfl
  | item :: rest => by
    have split : itemNodes (item :: rest) = item.nodes ++ itemNodes rest := rfl
    rw [split, firstFault?_append, documents, document_eq item]
    refine unlessFault_bind ?_
    rw [documents_eq rest]
    exact unlessFault_map _ _ (item.tree :: ·)

/-- So does serialising the entries of a map. -/
theorem entryDocuments_eq : ∀ entries : List (Value Empty × Value Empty),
    entryDocuments entries = unlessFault (firstFault? (entryNodes entries)) (entryTrees entries)
  | [] => rfl
  | (key, value) :: rest => by
    have split :
        entryNodes ((key, value) :: rest) = .key key :: (value.nodes ++ entryNodes rest) := rfl
    rw [split, firstFault?_cons, firstFault?_append, entryDocuments, key_eq key]
    refine unlessFault_bind ?_
    rw [document_eq value]
    refine unlessFault_bind ?_
    rw [entryDocuments_eq rest]
    exact unlessFault_map _ _ ((key.keyText, value.tree) :: ·)

/-- So does serialising the fields of a struct. -/
theorem fieldDocuments_eq : ∀ fields : List (String × Value Empty),
    fieldDocuments fields = unlessFault (firstFault? (fieldNodes fields)) (fieldTrees fields)
  | [] => rfl
  | (name, value) :: rest => by
    have split : fieldNodes ((name, value) :: rest) = value.nodes ++ fieldNodes rest := rfl
    rw [split, firstFault?_append, fieldDocuments, document_eq value]
    refine unlessFault_bind ?_
    rw [fieldDocuments_eq rest]
    exact unlessFault_map _ _ ((name.toList, value.tree) :: ·)

end

end Value

/-- A structured message of nodes without faults is shown by its whole tree, and nothing is logged.
Otherwise the first node with a fault is all that the text and the one warning tell of. -/
theorem text_structured (message : Value Empty) :
    ((∀ node ∈ message.nodes, node.fault? = none) →
        text (some (.structured message)) = (message.tree.pretty, [])) ∧
      ∀ before node after error, message.nodes = before ++ node :: after →
        (∀ earlier ∈ before, earlier.fault? = none) → node.fault? = some error →
          text (some (.structured message)) =
            ("Error marshaling to JSON: " ++ error.message, [failureEntry error]) := by
  simp only [text, Value.document_eq]
  constructor
  · intro faultless
    rw [firstFault?, List.findSome?_eq_none_iff.2 faultless]
    rfl
  · intro before node after error split earlier fault
    rw [firstFault?, List.findSome?_eq_some_iff.2 ⟨before, node, after, split, fault, earlier⟩]
    rfl

end RpcTelemetry.Payload
