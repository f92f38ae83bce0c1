/-
SOCKS5 UDP ASSOCIATE, the parts without a task of their own (`socks5/udp_associate.rs`): the registry of relay sockets, and
the relay packet. A packet is two reserved bytes, a fragment number, the target and the payload.

- `parseUdpDatagram_eq_ok`: what an accepted packet tells. It comes from the expected source, it is a header followed by
  the payload, the envelope is valid, and the header is what encoding writes for that target.
- `encodeUdpDatagram_of_address`: what encoding writes.
-/
import N0wss.Core.Stages
import Mathlib.Data.List.AList
import N0wss.Datagram.Contract

namespace N0wss.Socks5

open Bytes Datagram Net Stages

inductive UdpAssociateError where
  | io (detail : String)
  | invalidReservedField
  | unsupportedFragmentation (fragment : UInt8)
  | unsupportedAddressType (atyp : UInt8)
  | invalidTargetAddress
  | foreignSource (expected actual : SocketAddr)
  | datagramContract (err : DatagramError)
deriving DecidableEq, Repr

/-- `UdpAssociateError`'s `Display` -/
def UdpAssociateError.text (v6 : Ipv6Text) : UdpAssociateError → String
  | .io detail => "udp associate IO failed: " ++ detail
  | .invalidReservedField => "invalid reserved field in UDP relay packet"
  | .unsupportedFragmentation fragment => "unsupported UDP fragmentation value: " ++ toString fragment
  | .unsupportedAddressType atyp => "unsupported UDP address type: " ++ toString atyp
  | .invalidTargetAddress => "invalid UDP target address"
  | .foreignSource expected actual =>
    "foreign UDP source: expected " ++ String.ofList (displaySocketAddr v6 expected) ++ ", got " ++
      String.ofList (displaySocketAddr v6 actual)
  | .datagramContract err => "datagram contract violation: " ++ err.text

/-! ## Relay sockets -/

/-- open relay sockets under the addresses they are bound to -/
abbrev UdpRelaySocketRegistry (Socket : Type) := AList fun _ : SocketAddr => Socket

namespace UdpRelaySocketRegistry

variable {Socket : Type}

def register (sockets : UdpRelaySocketRegistry Socket) (relayAddr : SocketAddr) (socket : Socket) :
    UdpRelaySocketRegistry Socket := sockets.insert relayAddr socket

def socketFor (sockets : UdpRelaySocketRegistry Socket) (relayAddr : SocketAddr) : Option Socket :=
  sockets.lookup relayAddr

def remove (sockets : UdpRelaySocketRegistry Socket) (relayAddr : SocketAddr) : UdpRelaySocketRegistry Socket :=
  sockets.erase relayAddr

end UdpRelaySocketRegistry

/-! ## Packets -/

/-- the envelope, if it is valid -/
def checkEnvelope (envelope : DatagramEnvelope) : Except UdpAssociateError DatagramEnvelope :=
  match envelope.validate with
  | .ok () => .ok envelope
  | .error err => .error (.datagramContract err)

def parseUdpDatagram (source expectedSource : SocketAddr) (packet : List UInt8)
    (associationId : DatagramAssociationId) : Except UdpAssociateError DatagramEnvelope :=
  if source ≠ expectedSource then .error (.foreignSource expectedSource source)
  else
    match packet with
    | rsv0 :: rsv1 :: frag :: atyp :: body =>
      if rsv0 ≠ 0x00 ∨ rsv1 ≠ 0x00 then .error .invalidReservedField
      else if frag ≠ 0x00 then .error (.unsupportedFragmentation frag)
      else do
        let (target, payload) ← DatagramTarget.read .unsupportedAddressType .invalidTargetAddress atyp body
        checkEnvelope ⟨associationId, source, target, payload⟩
    | _ => .error .invalidReservedField

def encodeUdpDatagram (envelope : DatagramEnvelope) : Except UdpAssociateError (List UInt8) := do
  let target ← envelope.target.write (.unsupportedAddressType 0x04) .invalidTargetAddress
  .ok ([0x00, 0x00, 0x00] ++ target ++ envelope.payload)

theorem checkEnvelope_eq_ok {envelope e : DatagramEnvelope} (h : checkEnvelope envelope = .ok e) :
    e = envelope ∧ envelope.validate = .ok () := by
  unfold checkEnvelope at h
  split at h
  · rename_i hvalid
    cases h
    exact ⟨rfl, hvalid⟩
  · cases h

/-- what an accepted packet tells -/
structure AcceptedPacket (source expectedSource : SocketAddr) (packet : List UInt8) (associationId : DatagramAssociationId)
    (envelope : DatagramEnvelope) (address : List UInt8) : Prop where
  owned : source = expectedSource
  split : packet = [0x00, 0x00, 0x00] ++ address ++ envelope.payload
  address : AddressBytes envelope.target address
  valid : envelope.validate = .ok ()
  source : envelope.relayClientAddr = source
  id : envelope.associationId = associationId

theorem parseUdpDatagram_eq_ok {source expectedSource : SocketAddr} {packet : List UInt8}
    {associationId : DatagramAssociationId} {envelope : DatagramEnvelope}
    (h : parseUdpDatagram source expectedSource packet associationId = .ok envelope) :
    ∃ address, AcceptedPacket source expectedSource packet associationId envelope address := by
  unfold parseUdpDatagram at h
  split_ifs at h with howned
  split at h
  · rename_i rsv0 rsv1 frag atyp body
    split_ifs at h with hrsv hfrag
    obtain ⟨⟨target, payload⟩, hread, h⟩ := bind_eq_ok_iff.1 h
    obtain ⟨rfl, hvalid⟩ := checkEnvelope_eq_ok h
    obtain ⟨hrsv0, hrsv1⟩ := not_or.1 hrsv
    obtain rfl := not_not.1 hrsv0
    obtain rfl := not_not.1 hrsv1
    obtain rfl := not_not.1 hfrag
    obtain ⟨bytes, hsplit, haddress⟩ := write_of_read hread
    exact ⟨atyp :: bytes, ⟨not_not.1 howned, by rw [hsplit]; rfl, haddress, hvalid, rfl, rfl⟩⟩
  · cases h

theorem encodeUdpDatagram_of_address {envelope : DatagramEnvelope} {address : List UInt8}
    (h : AddressBytes envelope.target address) :
    encodeUdpDatagram envelope = .ok ([0x00, 0x00, 0x00] ++ address ++ envelope.payload) := by
  rw [encodeUdpDatagram, bind_of_ok (h _ _ _)]

end N0wss.Socks5
