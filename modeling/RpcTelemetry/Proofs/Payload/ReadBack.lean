import RpcTelemetry.Proofs.Payload.FirstFailure
import RpcTelemetry.Proofs.Payload.Spelling

/-!
# Structured messages read back

The text of a structured message is one document, and what is read from it is the tree of the
message: all fields in their order, all entries with their repeated keys, and every text character
by character. Nothing of a message is lost or mixed up by the layout, by the escapes or by empty
parts.

Results:
1. `Value.wellSpelled_tree`: the numbers in the tree of a message are spelled as numbers.
2. `structured_text_reads_back`: its text reads back, unless some node cannot be written.
-/

namespace RpcTelemetry.Payload

namespace Value

theorem wellSpelled_bytes : ∀ values : List UInt8,
    Json.WellSpelledItems (values.map fun byte => .number (Nat.toDigits 10 byte.toNat))
  | [] => trivial
  | byte :: rest =>
    ⟨isNumber_of_isUnsigned (isUnsigned_toDigits byte.toNat), wellSpelled_bytes rest⟩

mutual

/-- All numbers in the tree of a value are spelled as numbers. -/
theorem wellSpelled_tree : ∀ value : Value Empty, value.tree.WellSpelled
  | .some value | .newtype _ value => wellSpelled_tree value
  | .int value => isNumber_int value
  | .double bits => wellSpelled_double bits
  | .single bits => wellSpelled_single bits
  | .bytes values => wellSpelled_bytes values
  | .list items | .tuple items | .tupleStruct _ items => wellSpelled_trees items
  | .map entries => wellSpelled_entryTrees entries
  | .struct _ fields => wellSpelled_fieldTrees fields
  | .newtypeVariant _ _ value => ⟨wellSpelled_tree value, trivial⟩
  | .tupleVariant _ _ items => ⟨wellSpelled_trees items, trivial⟩
  | .structVariant _ _ fields => ⟨wellSpelled_fieldTrees fields, trivial⟩
  | .unit | .none | .bool _ | .char _ | .string _ | .unitStruct _ | .unitVariant _ _
  | .failing _ => trivial

/-- So are those in the trees of items. -/
theorem wellSpelled_trees : ∀ items : List (Value Empty), Json.WellSpelledItems (trees items)
  | [] => trivial
  | item :: rest => ⟨wellSpelled_tree item, wellSpelled_trees rest⟩

/-- So are those in the members for the entries of a map. -/
theorem wellSpelled_entryTrees : ∀ entries : List (Value Empty × Value Empty),
    Json.WellSpelledMembers (entryTrees entries)
  | [] => trivial
  | (_, value) :: rest => ⟨wellSpelled_tree value, wellSpelled_entryTrees rest⟩

/-- So are those in the members for the fields of a struct. -/
theorem wellSpelled_fieldTrees : ∀ fields : List (String × Value Empty),
    Json.WellSpelledMembers (fieldTrees fields)
  | [] => trivial
  | (_, value) :: rest => ⟨wellSpelled_tree value, wellSpelled_fieldTrees rest⟩

end

end Value

/-- The text of a structured message of nodes without faults is read as exactly the tree of the
message, and nothing is logged. -/
theorem structured_text_reads_back (message : Value Empty)
    (faultless : ∀ node ∈ message.nodes, node.fault? = none) :
    Json.read? (text (some (.structured message))).1 = some message.tree ∧
      (text (some (.structured message))).2 = [] := by
  have written : text (some (.structured message)) = (message.tree.pretty, []) := by
    simp only [text, Value.document_eq]
    rw [firstFault?, List.findSome?_eq_none_iff.2 faultless]
    rfl
  rw [written]
  exact ⟨Json.read?_pretty message.wellSpelled_tree, rfl⟩

/-- A struct with an absent field, a map with a repeated key, an enum variant around an empty list,
and a text with a quote, a backslash, a control character and letters of more than one byte. -/
def sampleMessage : Value Empty :=
  .struct "Sample" [
    ("absent", .none),
    ("counts", .map [
      (.int (-1), .bool true),
      (.int (-1), .single 0x3fc00000),
      (.char '"', .map [])]),
    ("choice", .newtypeVariant "Choice" "Several" (.list [])),
    ("text", .string "\"\\\x01é😀")]

theorem sample_text_reads_back :
    Json.read? (text (some (.structured sampleMessage))).1 =
      some (.object [
        ("absent".toList, .null),
        ("counts".toList, .object [
          ("-1".toList, .bool true),
          ("-1".toList, .number ['1', '.', '5']),
          (['"'], .object [])]),
        ("choice".toList, .object [("Several".toList, .array [])]),
        ("text".toList, .string "\"\\\x01é😀".toList)]) := by
  have single : singleText? 0x3fc00000 = some ['1', '.', '5'] := by decide +kernel
  have members : sampleMessage.tree = .object [
      ("absent".toList, .null),
      ("counts".toList, .object [
        ("-1".toList, .bool true),
        ("-1".toList, numberDocument (singleText? 0x3fc00000)),
        (['"'], .object [])]),
      ("choice".toList, .object [("Several".toList, .array [])]),
      ("text".toList, .string "\"\\\x01é😀".toList)] := rfl
  have read := (structured_text_reads_back sampleMessage (by decide)).1
  rw [members, single] at read
  exact read

end RpcTelemetry.Payload
