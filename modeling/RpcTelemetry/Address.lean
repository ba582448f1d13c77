import RpcTelemetry.Text.Split
import RpcTelemetry.Text.Numeral

/-!
# Internet addresses

Addresses of version 4 and 6 and socket addresses, with a reader and a printer for each. Readers
accept every standard spelling; printers write the canonical one.
-/

namespace RpcTelemetry

open Text

/-- An address of four bytes. -/
structure V4 where
  first : BitVec 8
  second : BitVec 8
  third : BitVec 8
  fourth : BitVec 8
  deriving DecidableEq, Repr

namespace V4

/-- A byte in decimal, without leading zeros. -/
def octet? (text : List Char) : Option (BitVec 8) :=
  if text.length ≤ 3 ∧ (text.head? = some '0' → text.length = 1) then
    ((natural? 10 text).filter (· < 256)).map (BitVec.ofNat 8)
  else none

/-- Reads four bytes with dots between them. -/
def parse? (text : List Char) : Option V4 :=
  match parts '.' text with
  | [first, second, third, fourth] => do
    return ⟨← octet? first, ← octet? second, ← octet? third, ← octet? fourth⟩
  | _ => none

/-- The bytes with dots between them. -/
def render (address : V4) : List Char :=
  let octet (byte : BitVec 8) := digits 10 byte.toNat
  octet address.first ++ ['.'] ++ octet address.second ++ ['.'] ++ octet address.third ++ ['.'] ++
    octet address.fourth

/-- The bytes as two groups of an address of version 6. -/
def groups (address : V4) : List (BitVec 16) :=
  [address.first ++ address.second, address.third ++ address.fourth]

end V4

/-- An address of eight groups of sixteen bits. -/
structure V6 where
  groups : List (BitVec 16)
  length_groups : groups.length = 8
  deriving DecidableEq

namespace V6

/-- A group: at most four hexadecimal digits. -/
def group? (text : List Char) : Option (BitVec 16) :=
  if text.length ≤ 4 then (natural? 16 text).map (BitVec.ofNat 16) else none

/-- Groups with colons between them; the last part may be an address of version 4 if `dotted`. -/
def groupParts? (dotted : Bool) : List (List Char) → Option (List (BitVec 16))
  | [] => some []
  | [last] =>
    match group? last with
    | some group => some [group]
    | none => if dotted then (V4.parse? last).map V4.groups else none
  | part :: rest => do
    return (← group? part) :: (← groupParts? dotted rest)

/-- Reads a run of groups, which may be empty. -/
def groups? (dotted : Bool) (text : List Char) : Option (List (BitVec 16)) :=
  if text.isEmpty then some [] else groupParts? dotted (parts ':' text)

/-- The text before and after the first double colon. -/
def cutGap : List Char → Option (List Char × List Char)
  | ':' :: ':' :: rest => some ([], rest)
  | [] => none
  | c :: rest => (cutGap rest).map fun (before, after) => (c :: before, after)

/-- Reads eight groups, of which one or more zero groups in a row may be written as a double
colon. -/
def parse? (text : List Char) : Option V6 :=
  match cutGap text with
  | none => do
    let groups ← groups? true text
    if complete : groups.length = 8 then some ⟨groups, complete⟩ else none
  | some (before, after) => do
    let front ← groups? false before
    let back ← groups? true after
    if room : front.length + back.length < 8 then
      some ⟨front ++ List.replicate (8 - front.length - back.length) 0 ++ back, by grind⟩
    else none

/-- The number of zero groups in a row from an index on. -/
def zerosFrom (address : V6) (start : Nat) : Nat :=
  ((address.groups.drop start).takeWhile (· = 0)).length

/-- The first longest run of zero groups: where it starts and how long it is. -/
def longestZeros (address : V6) : Nat × Nat :=
  (List.range 8).foldl
    (fun best start =>
      let length := address.zerosFrom start
      if best.2 < length then (start, length) else best)
    (0, 0)

/-- Groups in the fewest lower-case hexadecimal digits, with colons between them. -/
def renderGroups (groups : List (BitVec 16)) : List Char :=
  List.intercalate [':'] (groups.map fun group => digits 16 group.toNat)

/-- The address of version 4 that the address stands for, if it is a mapped one. -/
def mapped? (address : V6) : Option V4 :=
  match address.groups with
  | [0, 0, 0, 0, 0, 0xffff, high, low] =>
    some ⟨high.extractLsb' 8 8, high.extractLsb' 0 8, low.extractLsb' 8 8, low.extractLsb' 0 8⟩
  | _ => none

/-- The canonical text: the first longest run of at least two zero groups is a double colon, and a
mapped address ends in dotted form. -/
def render (address : V6) : List Char :=
  match address.mapped? with
  | some inner => [':', ':', 'f', 'f', 'f', 'f', ':'] ++ inner.render
  | none =>
    let (start, length) := address.longestZeros
    if 1 < length then
      renderGroups (address.groups.take start) ++ [':', ':'] ++
        renderGroups (address.groups.drop (start + length))
    else renderGroups address.groups

end V6

/-- Whether a text is an address of either version. -/
def isAddress (text : List Char) : Bool := (V4.parse? text).isSome || (V6.parse? text).isSome

/-- An address with a port. One of version 6 also has a flow label, which its text does not show,
and the number of the link it belongs to, or 0. -/
inductive SocketAddress where
  | v4 (address : V4) (port : BitVec 16)
  | v6 (address : V6) (port : BitVec 16) (flow scope : BitVec 32)
  deriving DecidableEq

namespace SocketAddress

/-- A decimal number of at most `width` bits, with any number of leading zeros. -/
def decimal? (width : Nat) (text : List Char) : Option (BitVec width) :=
  ((natural? 10 text).filter (· < 1 <<< width)).map (BitVec.ofNat width)

/-- Reads an address of version 6 with an optional link. -/
def scoped? (text : List Char) : Option (V6 × BitVec 32) :=
  match cutFirst '%' text with
  | none => do return (← V6.parse? text, 0)
  | some (address, scope) => do return (← V6.parse? address, ← decimal? 32 scope)

/-- Reads a socket address; one of version 6 stands in brackets. -/
def parse? : List Char → Option SocketAddress
  | '[' :: rest => do
    let (inside, tail) ← cutFirst ']' rest
    let (address, scope) ← scoped? inside
    let port ← dropLead? [':'] tail
    return .v6 address (← decimal? 16 port) 0 scope
  | text => do
    let (address, port) ← cutLast ':' text
    return .v4 (← V4.parse? address) (← decimal? 16 port)

/-- The canonical text of a socket address. -/
def render : SocketAddress → List Char
  | .v4 address port => address.render ++ [':'] ++ digits 10 port.toNat
  | .v6 address port _ scope =>
    let link := if scope = 0 then [] else '%' :: digits 10 scope.toNat
    ['['] ++ address.render ++ link ++ [']', ':'] ++ digits 10 port.toNat

end SocketAddress

end RpcTelemetry
