/-
The datagram frame in both directions (`encode_datagram`, `decode_datagram`), for lawful IPv6 text.

- `encodeDatagram_error_iff`: encoding fails for exactly the targets without an address form.
- `decodeDatagram_eq_ok`: what an accepted frame tells about its envelope.
- `datagram_frame_round_trip`: envelopes that can be framed come back unchanged, the others are refused, and whatever is
  decoded can be framed again.
-/
import N0wss.Core.Stages
import N0wss.Datagram.Frame
import N0wss.Net.Ipv6

namespace N0wss.Datagram

open Bytes Net Stages

/-- the targets that have an address form: an IPv4 address, or a domain of at most 255 bytes -/
def DatagramTarget.Framable : DatagramTarget → Prop
  | .ip (.v4 _ _) => True
  | .ip (.v6 _ _ _ _) => False
  | .domain name _ => (Utf8.encode name.toList).length ≤ 255

/-- the client addresses that an address text and a port give back -/
def PlainClient : SocketAddr → Prop
  | .v4 _ _ => True
  | .v6 _ _ flowinfo scopeId => flowinfo = 0 ∧ scopeId = 0

/-- no field of the frame is longer than its length prefix can say -/
def FieldsFit (v6 : Ipv6Text) (envelope : DatagramEnvelope) : Prop :=
  (∀ domain port, envelope.target = .domain domain port → (Utf8.encode domain.toList).length < 2 ^ 8) ∧
    (Utf8.encode (displayIp v6 envelope.relayClientAddr.ip)).length < 2 ^ 16 ∧ envelope.payload.length < 2 ^ 32

theorem plainClient_new (ip : IpAddr) (port : UInt16) : PlainClient (.new ip port) := by
  cases ip with
  | v4 ip => exact trivial
  | v6 ip => exact ⟨rfl, rfl⟩

theorem new_of_plainClient {addr : SocketAddr} (h : PlainClient addr) : SocketAddr.new addr.ip addr.port = addr := by
  cases addr with
  | v4 ip port => rfl
  | v6 ip port flowinfo scopeId =>
    obtain ⟨rfl, rfl⟩ := h
    rfl

/-! ## Encoding -/

/-- a framable target has an address form -/
theorem addressBytes_of_framable {target : DatagramTarget} (h : target.Framable) :
    ∃ address, AddressBytes target address := by
  cases target with
  | ip addr =>
    cases addr with
    | v4 ip port => exact ⟨_, fun _ _ _ => rfl⟩
    | v6 ip port flowinfo scopeId => exact absurd h id
  | domain name port => exact ⟨_, fun _ _ _ => if_neg (not_lt.2 h)⟩

/-- and no other has one -/
theorem framable_of_write {ε : Type} {unsupported tooLong : ε} {target : DatagramTarget} {address : List UInt8}
    (h : target.write unsupported tooLong = .ok address) : target.Framable := by
  cases target with
  | ip addr =>
    cases addr with
    | v4 ip port => exact trivial
    | v6 ip port flowinfo scopeId => cases h
  | domain name port =>
    simp only [DatagramTarget.write] at h
    split_ifs at h with hlong
    exact not_lt.1 hlong

theorem encodeTarget_of_framable {target : DatagramTarget} (h : target.Framable) :
    ∃ bytes, encodeTarget target = .ok bytes := by
  obtain ⟨address, haddress⟩ := addressBytes_of_framable h
  exact ⟨address, haddress _ _ _⟩

theorem encodeTarget_of_not_framable {target : DatagramTarget} (h : ¬target.Framable) :
    ∃ e, encodeTarget target = .error e := by
  cases hencode : encodeTarget target with
  | error e => exact ⟨e, rfl⟩
  | ok bytes => exact absurd (framable_of_write hencode) h

section
variable {v6 : Ipv6Text} (hv6 : v6.Lawful)
include hv6

/-- the text of a client address takes at most 180 bytes -/
theorem length_clientText_le (ip : IpAddr) : (Utf8.encode (displayIp v6 ip)).length ≤ 180 := by
  have hbytes := Utf8.length_encode_le (displayIp v6 ip)
  have hchars := length_displayIp_le hv6 ip
  omega

theorem encodeDatagram_of_framable {envelope : DatagramEnvelope} (h : envelope.target.Framable) :
    ∃ frame, encodeDatagram v6 envelope = .ok frame := by
  obtain ⟨target, htarget⟩ := encodeTarget_of_framable h
  have hlen := length_clientText_le hv6 envelope.relayClientAddr.ip
  have hshort : ¬65535 < (Utf8.encode (displayIp v6 envelope.relayClientAddr.ip)).length := by omega
  exact ⟨_, by rw [encodeDatagram, bind_of_ok htarget]; exact if_neg hshort⟩

/-- encoding fails for exactly the targets without an address form -/
theorem encodeDatagram_error_iff (envelope : DatagramEnvelope) :
    (∃ e, encodeDatagram v6 envelope = .error e) ↔ ¬envelope.target.Framable := by
  constructor
  · rintro ⟨e, he⟩ hframable
    obtain ⟨frame, hframe⟩ := encodeDatagram_of_framable hv6 hframable
    rw [hframe] at he
    cases he
  · intro hnot
    obtain ⟨e, he⟩ := encodeTarget_of_not_framable hnot
    exact ⟨e, by rw [encodeDatagram, he]; rfl⟩

end

/-! ## Decoding -/

/-- the client and the payload that a frame's tail holds: the payload is as long as the tail declares -/
theorem decodeTail_eq_ok {v6 : Ipv6Text} {bytes : List UInt8} {addr : SocketAddr} {payload : List UInt8}
    (h : decodeTail v6 bytes = .ok (addr, payload)) : PlainClient addr ∧
      payload.length = (u32OfBe ((bytes.drop (2 + (u16OfBe (bytes.take 2)).toNat + 2)).take 4)).toNat := by
  unfold decodeTail at h
  split_ifs at h with hshort
  simp only at h
  split_ifs at h with hlen hpayload
  · split at h
    · cases h
    · cases h
  · split at h
    · cases h
    · cases h
      refine ⟨plainClient_new _ _, ?_⟩
      rw [List.length_take_of_le (not_lt.1 hpayload), List.drop_drop, List.drop_drop, Nat.add_assoc 2]

/-- the two reads of an accepted frame: its target, then its tail -/
theorem decodeDatagram_reads {v6 : Ipv6Text} {frame : List UInt8} {envelope : DatagramEnvelope}
    (h : decodeDatagram v6 frame = .ok envelope) :
    ∃ bytes, decodeTarget (frame.getD 9 0) (frame.drop 10) = .ok (envelope.target, bytes) ∧
      decodeTail v6 bytes = .ok (envelope.relayClientAddr, envelope.payload) := by
  unfold decodeDatagram at h
  split_ifs at h with hshort hversion
  obtain ⟨⟨target, bytes⟩, htarget, h⟩ := bind_eq_ok_iff.1 h
  obtain ⟨⟨addr, payload⟩, htail, h⟩ := bind_eq_ok_iff.1 h
  cases h
  exact ⟨bytes, htarget, htail⟩

/-- what an accepted frame tells about its envelope -/
theorem decodeDatagram_eq_ok {v6 : Ipv6Text} {frame : List UInt8} {envelope : DatagramEnvelope}
    (h : decodeDatagram v6 frame = .ok envelope) :
    envelope.target.Framable ∧ PlainClient envelope.relayClientAddr ∧ envelope.payload.length < 2 ^ 32 := by
  obtain ⟨bytes, htarget, htail⟩ := decodeDatagram_reads h
  obtain ⟨body, -, hbytes⟩ := write_of_read htarget
  obtain ⟨hclient, hpayload⟩ := decodeTail_eq_ok htail
  exact ⟨framable_of_write (hbytes WssDatagramError .invalidFrame .invalidFrame), hclient, hpayload ▸ UInt32.toNat_lt _⟩

/-! ## Both directions -/

theorem fieldsFit {v6 : Ipv6Text} (hv6 : v6.Lawful) {envelope : DatagramEnvelope} (htarget : envelope.target.Framable)
    (hpayload : envelope.payload.length < 2 ^ 32) : FieldsFit v6 envelope := by
  refine ⟨fun domain port hdomain => ?_, ?_, hpayload⟩
  · rw [hdomain] at htarget
    exact Nat.lt_succ_of_le htarget
  · exact lt_of_le_of_lt (length_clientText_le hv6 _) (by decide)

theorem decode_of_encode {v6 : Ipv6Text} (hv6 : v6.Lawful) {envelope : DatagramEnvelope} {frame : List UInt8}
    (hclient : PlainClient envelope.relayClientAddr) (hpayload : envelope.payload.length < 2 ^ 32)
    (h : encodeDatagram v6 envelope = .ok frame) : decodeDatagram v6 frame = .ok envelope :=
  decode_encode v6 (parseIp_displayIp hv6 _) (new_of_plainClient hclient) hpayload h

/-- **Datagram frames round-trip.** A valid envelope with a framable target and a plain client is encoded and comes back
unchanged. Encoding fails for exactly the other targets. Whatever is decoded is encoded again, into a frame whose fields
fit their length prefixes, and that frame decodes to the same envelope. -/
theorem datagram_frame_round_trip (v6 : Ipv6Text) (hv6 : v6.Lawful) :
    (∀ e : DatagramEnvelope, e.validate = .ok () → e.target.Framable → PlainClient e.relayClientAddr →
      ∃ frame, encodeDatagram v6 e = .ok frame ∧ decodeDatagram v6 frame = .ok e) ∧
    (∀ e : DatagramEnvelope, (∃ err, encodeDatagram v6 e = .error err) ↔ ¬e.target.Framable) ∧
    ∀ (f : List UInt8) (e : DatagramEnvelope), decodeDatagram v6 f = .ok e →
      ∃ g, encodeDatagram v6 e = .ok g ∧ FieldsFit v6 e ∧ decodeDatagram v6 g = .ok e := by
  refine ⟨fun e hvalid htarget hclient => ?_, encodeDatagram_error_iff hv6, fun f e h => ?_⟩
  · obtain ⟨frame, hframe⟩ := encodeDatagram_of_framable hv6 htarget
    have hpayload : e.payload.length < 2 ^ 32 :=
      lt_of_le_of_lt (length_payload_of_validate hvalid) (by decide)
    exact ⟨frame, hframe, decode_of_encode hv6 hclient hpayload hframe⟩
  · obtain ⟨htarget, hclient, hpayload⟩ := decodeDatagram_eq_ok h
    obtain ⟨g, hg⟩ := encodeDatagram_of_framable hv6 htarget
    exact ⟨g, hg, fieldsFit hv6 htarget hpayload, decode_of_encode hv6 hclient hpayload hg⟩

/-- the text of the standard library is lawful: an envelope of an IPv6 client comes back -/
theorem ipv6_client_round_trip :
    Ipv6.std.Lawful ∧ ∃ frame,
      encodeDatagram Ipv6.std ⟨7, .v6 ⟨#v[0x2001, 0xdb8, 0, 0, 0, 0, 0, 1]⟩ 5353 0 0, .domain "a.example" 53, [1, 2]⟩ =
        .ok frame ∧
      decodeDatagram Ipv6.std frame =
        .ok ⟨7, .v6 ⟨#v[0x2001, 0xdb8, 0, 0, 0, 0, 0, 1]⟩ 5353 0 0, .domain "a.example" 53, [1, 2]⟩ :=
  ⟨Ipv6.std_lawful, (datagram_frame_round_trip Ipv6.std Ipv6.std_lawful).1 _ rfl
    (show (Utf8.encode "a.example".toList).length ≤ 255 by decide) ⟨rfl, rfl⟩⟩

end N0wss.Datagram
