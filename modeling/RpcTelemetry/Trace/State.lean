import RpcTelemetry.Text.Split

/-!
# Trace state

Vendors add members to a trace, each a key with a value. They travel in one header, in order:
`TraceState.header` writes it and `TraceState.parse` reads it.
-/

namespace RpcTelemetry

open Text

namespace TraceState

/-- A lower-case letter or a digit. -/
def isAlphanumeric (c : Char) : Bool := ('a' ≤ c && c ≤ 'z') || ('0' ≤ c && c ≤ '9')

/-- A character of a key. -/
def isKeyChar (c : Char) : Bool :=
  isAlphanumeric c || c == '_' || c == '-' || c == '*' || c == '/' || c == '@'

/-- A key has at most 256 characters and starts with a letter or digit, if it is not empty. At most
one at-sign parts a tenant from a system, which has at most 13 characters and starts likewise. -/
def isKey (key : List Char) : Bool :=
  key.length ≤ 256 && key.all isKeyChar && key.head?.all isAlphanumeric &&
    match cutFirst '@' key with
    | none => true
    | some (_, system) =>
      !system.contains '@' && system.length ≤ 13 && system.head?.all isAlphanumeric

/-- A value has at most 256 bytes and neither comma nor equals sign. -/
def isValue (value : List Char) : Bool :=
  (String.ofList value).utf8ByteSize ≤ 256 && !value.contains ',' && !value.contains '='

/-- Why members are refused. -/
inductive MemberError where
  | invalidKey (key : String)
  | invalidValue (value : String)
  | invalidMember (text : String)
  deriving DecidableEq, Repr

end TraceState

/-- The members of a trace, in order; a key may occur more than once. -/
structure TraceState where
  members : List (List Char × List Char)
  valid : ∀ member ∈ members, TraceState.isKey member.1 ∧ TraceState.isValue member.2
  deriving DecidableEq

namespace TraceState

/-- No members. -/
def empty : TraceState := ⟨[], by simp⟩

instance : Inhabited TraceState := ⟨empty⟩

/-- The state with the given members, or the first fault in one. -/
def ofMembers : List (List Char × List Char) → Except MemberError TraceState
  | [] => .ok empty
  | (key, value) :: rest =>
    if validKey : isKey key then
      if validValue : isValue value then do
        let state ← ofMembers rest
        return ⟨(key, value) :: state.members, by
          intro member present
          rcases List.mem_cons.1 present with rfl | present
          · exact ⟨validKey, validValue⟩
          · exact state.valid member present⟩
      else .error (.invalidValue (String.ofList value))
    else .error (.invalidKey (String.ofList key))

/-- The header of the members. -/
def header (state : TraceState) : List Char :=
  List.intercalate [','] (state.members.map fun (key, value) => key ++ ['='] ++ value)

/-- A member before it is checked: the key ends at the first equals sign, and further ones right
after it do not count. -/
def member (text : List Char) : Except MemberError (List Char × List Char) :=
  match cutFirst '=' text with
  | none => .error (.invalidMember (String.ofList text))
  | some (key, value) => .ok (key, value.dropWhile (· = '='))

/-- Reads a header; one bad member spoils it all. -/
def parse (text : List Char) : Except MemberError TraceState := do
  ofMembers (← (terminatedParts ',' text).mapM member)

end TraceState

end RpcTelemetry
