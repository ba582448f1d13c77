import RpcTelemetry.Address
import RpcTelemetry.Attribute
import RpcTelemetry.Convention
import RpcTelemetry.Log

/-!
# The peer of a call

A transport names the other end of a call by a text. If the text is a host and a port, it gives two
attributes: those of a socket if the host is an address, and those of a named peer otherwise.
-/

namespace RpcTelemetry

open Text

/-- The other end of a call, as the transport names it. -/
structure Peer where
  address : String
  deriving DecidableEq, Repr, Inhabited

namespace Peer

/-- The peer at a socket address. -/
def ofSocketAddress (address : SocketAddress) : Peer := ⟨String.ofList address.render⟩

/-- A peer in a debugging text. -/
def debug (peer : Peer) : String :=
  "Peer \x7b addr: " ++ Text.quoted peer.address ++ " \x7d"

/-- Splits a text into host and port. A host in brackets may be anything without a closing bracket;
another one has neither colon nor bracket. -/
def split? : List Char → Option (List Char × List Char)
  | '[' :: rest => do
    let (host, tail) ← cutFirst ']' rest
    let port ← dropLead? [':'] tail
    return (host, port)
  | text => do
    let (host, port) ← cutLast ':' text
    if host.any (fun c => c = ':' ∨ c = '[' ∨ c = ']') then none else return (host, port)

/-- The host that stands for an empty one. -/
def loopback : List Char := ['1', '2', '7', '.', '0', '.', '0', '.', '1']

/-- Why a peer has no attributes. -/
inductive Fault where
  | notParsable
  | portNotNumeric
  deriving DecidableEq, Repr

/-- The log entry about a peer without attributes. -/
def Fault.entry (fault : Fault) (peer : Peer) : Log.Entry :=
  let message := match fault with
    | .notParsable => "peer address not parsable"
    | .portNotNumeric => "peer port not numeric"
  ⟨.debug, message, [("peer", .string peer.address)]⟩

/-- The attributes of a host and a port. -/
def hostAttributes (host : List Char) (port : Int) : List Attribute :=
  let host := if host.isEmpty then loopback else host
  if isAddress host then
    [.ofText Convention.socketPeerAddress (String.ofList host),
      .ofInt Convention.socketPeerPort port]
  else
    [.ofText Convention.peerName (String.ofList host), .ofInt Convention.peerPort port]

/-- The two attributes of a peer, or why there are none. -/
def attributes? (peer : Peer) : Except Fault (List Attribute) :=
  match split? peer.address.toList with
  | none => .error .notParsable
  | some (host, port) =>
    match int64? port with
    | none => .error .portNotNumeric
    | some port => .ok (hostAttributes host port)

/-- The attributes of a peer and what is logged about it. -/
def attributes (peer : Peer) : List Attribute × List Log.Entry :=
  match peer.attributes? with
  | .ok attributes => (attributes, [])
  | .error fault => ([], [fault.entry peer])

end Peer

end RpcTelemetry
