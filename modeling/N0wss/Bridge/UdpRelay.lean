/-
The server's end of one UDP exchange (`proxy_bridge/udp_relay.rs`): a datagram goes to its target from a socket bound for
it, and one packet that comes back on that socket is mapped to the association.

Name resolution, the socket and what arrives on it are inputs.

- `relayInboundDatagram_of_peer`: a reply from the resolved peer comes back under the association, the client address and
  the target that went out.
-/
import N0wss.Core.Stages
import N0wss.Datagram.Contract

namespace N0wss.Bridge

open Datagram Net

/-! ## Outbound -/

structure UdpRelayRecord where
  associationId : DatagramAssociationId
  relayLocalAddr : SocketAddr
  relayClientAddr : SocketAddr
  remotePeer : SocketAddr
  outboundTarget : DatagramTarget
  lastSentPayloadLen : ℕ
deriving DecidableEq, Repr

inductive UdpRelayError where
  | resolveFailed (detail : String)
  | bindFailed (detail : String)
  | sendFailed (detail : String)
  | receiveFailed (detail : String)
  | unexpectedSource (expected actual : SocketAddr)
deriving DecidableEq, Repr

/-- `UdpRelayError`'s `Display` -/
def UdpRelayError.text (v6 : Ipv6Text) : UdpRelayError → String
  | .resolveFailed detail => "udp relay target resolution failed: " ++ detail
  | .bindFailed detail => "udp relay bind failed: " ++ detail
  | .sendFailed detail => "udp relay send failed: " ++ detail
  | .receiveFailed detail => "udp relay receive failed: " ++ detail
  | .unexpectedSource expected actual =>
    "unexpected inbound source: expected " ++ String.ofList (displaySocketAddr v6 expected) ++ ", got " ++
      String.ofList (displaySocketAddr v6 actual)

/-- how the operating system answers -/
structure UdpRelayEnv where
  lookupHost : String → UInt16 → Except String (List SocketAddr)
  /-- the local address of the socket bound for the exchange -/
  bind : Except String SocketAddr
  send : Except String Unit

def resolveTarget (env : UdpRelayEnv) : DatagramTarget → Except UdpRelayError SocketAddr
  | .ip addr => .ok addr
  | .domain domain port =>
    match env.lookupHost domain port with
    | .error detail => .error (.resolveFailed detail)
    | .ok [] => .error (.resolveFailed "no resolved UDP target")
    | .ok (addr :: _) => .ok addr

def relayOutboundDatagram (env : UdpRelayEnv) (envelope : DatagramEnvelope) : Except UdpRelayError UdpRelayRecord := do
  let remotePeer ← resolveTarget env envelope.target
  let relayLocalAddr ← env.bind.mapError .bindFailed
  env.send.mapError .sendFailed
  .ok { associationId := envelope.associationId
        relayLocalAddr
        relayClientAddr := envelope.relayClientAddr
        remotePeer
        outboundTarget := envelope.target
        lastSentPayloadLen := envelope.payload.length }

/-! ## Inbound -/

def relayInboundDatagram (relay : UdpRelayRecord) (received : Except String Received) :
    Except UdpRelayError DatagramEnvelope :=
  match received with
  | .error detail => .error (.receiveFailed detail)
  | .ok packet =>
    if packet.source ≠ relay.remotePeer then .error (.unexpectedSource relay.remotePeer packet.source)
    else .ok ⟨relay.associationId, relay.relayClientAddr, relay.outboundTarget, packet.bytes⟩

/-- what an exchange keeps of the datagram that went out -/
theorem relayOutboundDatagram_eq_ok {env : UdpRelayEnv} {envelope : DatagramEnvelope} {relay : UdpRelayRecord}
    (h : relayOutboundDatagram env envelope = .ok relay) :
    relay.associationId = envelope.associationId ∧ relay.relayClientAddr = envelope.relayClientAddr ∧
      relay.outboundTarget = envelope.target ∧ resolveTarget env envelope.target = .ok relay.remotePeer := by
  obtain ⟨remotePeer, hpeer, h⟩ := Stages.bind_eq_ok_iff.1 h
  obtain ⟨relayLocalAddr, -, h⟩ := Stages.bind_eq_ok_iff.1 h
  obtain ⟨-, -, h⟩ := Stages.bind_eq_ok_iff.1 h
  cases h
  exact ⟨rfl, rfl, rfl, hpeer⟩

/-- **A reply from the peer** comes back as the datagram that went out, with the reply as payload. -/
theorem relayInboundDatagram_of_peer {env : UdpRelayEnv} {envelope : DatagramEnvelope} {relay : UdpRelayRecord}
    (h : relayOutboundDatagram env envelope = .ok relay) {packet : Received} (hpeer : packet.source = relay.remotePeer) :
    relayInboundDatagram relay (.ok packet) = .ok { envelope with payload := packet.bytes } := by
  obtain ⟨hid, hclient, htarget, -⟩ := relayOutboundDatagram_eq_ok h
  rw [relayInboundDatagram, if_neg (not_not.2 hpeer), hid, hclient, htarget]

/-- what comes back is one packet of the peer, under what went out -/
theorem relayInboundDatagram_eq_ok {env : UdpRelayEnv} {envelope inbound : DatagramEnvelope} {relay : UdpRelayRecord}
    {received : Except String Received} (h : relayOutboundDatagram env envelope = .ok relay)
    (hinbound : relayInboundDatagram relay received = .ok inbound) :
    ∃ packet, received = .ok packet ∧ packet.source = relay.remotePeer ∧
      inbound = { envelope with payload := packet.bytes } := by
  obtain ⟨hid, hclient, htarget, -⟩ := relayOutboundDatagram_eq_ok h
  cases received with
  | error detail => cases hinbound
  | ok packet =>
    simp only [relayInboundDatagram] at hinbound
    split_ifs at hinbound with hsource
    cases hinbound
    exact ⟨packet, rfl, not_not.1 hsource, by rw [hid, hclient, htarget]⟩

end N0wss.Bridge
