import RpcTelemetry.Peer
import RpcTelemetry.Proofs.Address.ReadBack

/-!
# Peers at socket addresses

A peer at a socket address is named by the canonical text of that address, and its attributes are
made from the text. So the printer of addresses and the reader of peers must agree: on the brackets,
on the colon before the port, and on what an address is.

Results:
1. `Peer.split?_ofSocketAddress`: the reader takes the text apart into the host and the port that
   the printer has put together, whatever the address is.
2. `Peer.attributes_ofSocketAddress`: a socket address that belongs to no link gives socket
   attributes, and the address is read back from them. One that belongs to a link is reported as
   the name of a peer, because the reader knows no address with a link
   (`Peer.attributes_link_local` has one).
-/

namespace RpcTelemetry

open Text

namespace SocketAddress

/-- The address without its port. -/
def address : SocketAddress → IpAddress
  | .v4 address _ => .v4 address
  | .v6 address _ _ _ => .v6 address

/-- The port. -/
def port : SocketAddress → BitVec 16
  | .v4 _ port => port
  | .v6 _ port _ _ => port

/-- The number of the link that the address belongs to, or 0. -/
def link : SocketAddress → BitVec 32
  | .v4 _ _ => 0
  | .v6 _ _ _ scope => scope

/-- The text of the address and its link. -/
def host (socket : SocketAddress) : List Char :=
  socket.address.render ++ if socket.link = 0 then [] else '%' :: digits 10 socket.link.toNat

theorem host_of_no_link {socket : SocketAddress} (free : socket.link = 0) :
    socket.host = socket.address.render := by
  rw [host, if_pos free, List.append_nil]

theorem host_of_link {socket : SocketAddress} (linked : socket.link ≠ 0) :
    socket.host = socket.address.render ++ '%' :: digits 10 socket.link.toNat := by
  rw [host, if_neg linked]

theorem render_v4 (address : V4) (port : BitVec 16) :
    (v4 address port).render = (v4 address port).host ++ ':' :: digits 10 port.toNat := by
  simp [render, host, link, SocketAddress.address, IpAddress.render]

theorem render_v6 (address : V6) (port : BitVec 16) (flow scope : BitVec 32) :
    (v6 address port flow scope).render =
      '[' :: ((v6 address port flow scope).host ++ ']' :: ':' :: digits 10 port.toNat) := by
  simp only [render, host, link, SocketAddress.address, IpAddress.render, List.append_assoc,
    List.cons_append, List.nil_append]
  rfl

theorem not_mem_host {c : Char} (noDigit : digitValue? 16 c = none) (noColon : c ≠ ':')
    (noDot : c ≠ '.') (noPercent : c ≠ '%') (socket : SocketAddress) : c ∉ socket.host := by
  have free := IpAddress.not_mem_render noDigit noColon noDot socket.address
  by_cases linked : socket.link = 0
  · rwa [host_of_no_link linked]
  · rw [host_of_link linked, List.mem_append, List.mem_cons]
    exact not_or.2 ⟨free, not_or.2 ⟨noPercent,
      not_mem_digits (by decide) _ (by decide) noDigit⟩⟩

theorem host_ne_nil (socket : SocketAddress) : socket.host ≠ [] :=
  List.append_ne_nil_of_left_ne_nil (IpAddress.render_ne_nil _) _

/-- Without a link the host reads back as the address. -/
theorem parse?_host {socket : SocketAddress} (free : socket.link = 0) :
    IpAddress.parse? socket.host = some socket.address := by
  rw [host_of_no_link free, IpAddress.parse?_render]

/-- With a link the host is no address, in either version. -/
theorem parse?_host_of_link {socket : SocketAddress} (linked : socket.link ≠ 0) :
    IpAddress.parse? socket.host = none := by
  have percent : '%' ∈ socket.host := by
    rw [host_of_link linked]
    exact List.mem_append_right _ List.mem_cons_self
  exact IpAddress.parse?_eq_none_of_mem percent (by decide) (by decide) (by decide) (by decide)

theorem isAddress_host (socket : SocketAddress) :
    isAddress socket.host = decide (socket.link = 0) := by
  rw [← IpAddress.isSome_parse?]
  by_cases linked : socket.link = 0
  · rw [parse?_host linked, decide_eq_true linked]
    rfl
  · rw [parse?_host_of_link linked, decide_eq_false linked]
    rfl

end SocketAddress

namespace Peer

/-- Host and port are split where the printer has joined them. The link of an address is part of the
host. -/
theorem split?_ofSocketAddress (socket : SocketAddress) :
    split? (ofSocketAddress socket).address.toList =
      some (socket.host, digits 10 socket.port.toNat) := by
  have bare {c : Char} (noDigit : digitValue? 16 c = none) : c ∉ digits 10 socket.port.toNat :=
    not_mem_digits (by decide) _ (by decide) noDigit
  have noClosing : ']' ∉ socket.host :=
    socket.not_mem_host (by decide) (by decide) (by decide) (by decide)
  have noOpening : '[' ∉ socket.host :=
    socket.not_mem_host (by decide) (by decide) (by decide) (by decide)
  rw [ofSocketAddress, String.toList_ofList]
  cases socket with
  | v4 address port =>
    have noColon : ':' ∉ (SocketAddress.v4 address port).host := by
      rw [SocketAddress.host_of_no_link rfl]
      exact V4.not_mem_render (by decide) (by decide) address
    have unbracketed : ∀ rest, (SocketAddress.v4 address port).render ≠ '[' :: rest := by
      intro rest bracketed
      obtain ⟨first, more, shown⟩ :=
        List.exists_cons_of_ne_nil (SocketAddress.v4 address port).host_ne_nil
      rw [SocketAddress.render_v4, shown, List.cons_append] at bracketed
      rw [shown, (List.cons.inj bracketed).1] at noOpening
      exact noOpening List.mem_cons_self
    have plain : (SocketAddress.v4 address port).host.any
        (fun c => c = ':' ∨ c = '[' ∨ c = ']') = false := by
      refine List.any_eq_false.2 fun c present => ?_
      rw [decide_eq_true_eq]
      rintro (rfl | rfl | rfl)
      · exact noColon present
      · exact noOpening present
      · exact noClosing present
    have joined : cutLast ':' (SocketAddress.v4 address port).render =
        some ((SocketAddress.v4 address port).host, digits 10 port.toNat) := by
      rw [SocketAddress.render_v4]
      exact cutLast_append (bare (by decide)) _
    rw [split?, joined]
    · simp only [Option.bind_eq_bind, Option.bind_some, plain]
      rfl
    · exact unbracketed
  | v6 address port flow scope =>
    rw [SocketAddress.render_v6, split?, cutFirst_append noClosing]
    rfl

/-- What a socket address is reported as. Without a link it gives socket attributes, from which the
address reads back; with one it gives the name of a peer, which is the text of the address and the
link and reads back as no address. Nothing is logged and the port is that of the socket either
way. -/
theorem attributes_ofSocketAddress (socket : SocketAddress) :
    (ofSocketAddress socket).attributes =
      (if socket.link = 0 then
        [.ofText Convention.socketPeerAddress (String.ofList socket.host),
          .ofInt Convention.socketPeerPort socket.port.toNat]
      else
        [.ofText Convention.peerName (String.ofList socket.host),
          .ofInt Convention.peerPort socket.port.toNat], []) ∧
    IpAddress.parse? socket.host = if socket.link = 0 then some socket.address else none := by
  have fits : (socket.port.toNat : Int) ≤ Int64.maxValue.toInt := by
    have narrow := socket.port.isLt
    have wide : Int64.maxValue.toInt = 9223372036854775807 := by decide
    omega
  have filled : socket.host.isEmpty = false := List.isEmpty_eq_false_iff.2 socket.host_ne_nil
  have taken : (ofSocketAddress socket).attributes =
      (hostAttributes socket.host socket.port.toNat, []) := by
    rw [attributes, attributes?, split?_ofSocketAddress]
    dsimp only
    rw [int64?_digits fits]
  rw [taken, hostAttributes, filled, if_neg Bool.false_ne_true, SocketAddress.isAddress_host]
  by_cases linked : socket.link = 0
  · rw [decide_eq_true linked, if_pos rfl, if_pos linked, if_pos linked]
    exact ⟨rfl, SocketAddress.parse?_host linked⟩
  · rw [decide_eq_false linked, if_neg Bool.false_ne_true, if_neg linked, if_neg linked]
    exact ⟨rfl, SocketAddress.parse?_host_of_link linked⟩

/-- A link-local address and its link, reported as the name of a peer. -/
theorem attributes_link_local :
    (ofSocketAddress (.v6 ⟨[0xfe80, 0, 0, 0, 0, 0, 0, 1], rfl⟩ 443 0 3)).attributes =
      ([.ofText Convention.peerName "fe80::1%3", .ofInt Convention.peerPort 443], []) := by
  decide

/-- The same address without the link. -/
example :
    (ofSocketAddress (.v6 ⟨[0xfe80, 0, 0, 0, 0, 0, 0, 1], rfl⟩ 443 0 0)).attributes =
      ([.ofText Convention.socketPeerAddress "fe80::1", .ofInt Convention.socketPeerPort 443],
        []) := by
  decide

end Peer

end RpcTelemetry
