/-
The UDP relay packet in both directions (`parse_udp_datagram`, `encode_udp_datagram`), and the parser as it is written,
with the indexing and slicing that may panic.

- `udp_packet_codec`: an accepted packet is the encoding of its envelope, a valid envelope whose target has an address form
  is encoded and parses back, and no other target is encoded.
- `parseUdpDatagram_agrees`: the parser by positions does what the reader of a list of bytes does.
- `datagram_parsers_never_panic`: neither parser of datagrams, of frames or of packets, panics on any input.
-/
import N0wss.Core.Stages
import N0wss.Datagram.Cursor
import N0wss.Socks5.UdpAssociate

namespace N0wss.Socks5

open Bytes Checked Datagram Net Stages

/-! ## Both directions -/

theorem encodeUdpDatagram_error {envelope : DatagramEnvelope} (h : ¬envelope.target.Framable) :
    ∃ err, encodeUdpDatagram envelope = .error err := by
  cases hencode : encodeUdpDatagram envelope with
  | error err => exact ⟨err, rfl⟩
  | ok packet =>
    obtain ⟨address, haddress, -⟩ := bind_eq_ok_iff.1 hencode
    exact absurd (framable_of_write haddress) h

/-- an encoded packet parses back, from the envelope's client -/
theorem parseUdpDatagram_of_address {envelope : DatagramEnvelope} {address : List UInt8}
    (haddress : AddressBytes envelope.target address) (hvalid : envelope.validate = .ok ()) :
    parseUdpDatagram envelope.relayClientAddr envelope.relayClientAddr
      ([0x00, 0x00, 0x00] ++ address ++ envelope.payload) envelope.associationId = .ok envelope := by
  obtain ⟨kind, body, rfl, hread⟩ : ∃ kind body, address = kind :: body ∧
      DatagramTarget.read UdpAssociateError.unsupportedAddressType .invalidTargetAddress kind (body ++ envelope.payload) =
        .ok (envelope.target, envelope.payload) :=
    read_of_write (haddress UdpAssociateError .invalidTargetAddress .invalidTargetAddress) envelope.payload
  have hcheck : checkEnvelope envelope = .ok envelope := by rw [checkEnvelope, hvalid]
  have hpacket : [0x00, 0x00, 0x00] ++ kind :: body ++ envelope.payload =
      0x00 :: 0x00 :: 0x00 :: kind :: (body ++ envelope.payload) := by simp
  rw [hpacket]
  simp only [parseUdpDatagram, ne_eq, not_true_eq_false, if_false, or_self]
  rw [bind_of_ok hread]
  exact hcheck

/-- **The packet codec is a bijection on valid packets.** An accepted packet is the encoding of what it was parsed to; a
valid envelope with an address form is encoded and parses back to itself; on every other target encoding fails. -/
theorem udp_packet_codec :
    (∀ (source : SocketAddr) (packet : List UInt8) (id : DatagramAssociationId) (envelope : DatagramEnvelope),
      parseUdpDatagram source source packet id = .ok envelope → encodeUdpDatagram envelope = .ok packet) ∧
    (∀ envelope : DatagramEnvelope, envelope.validate = .ok () → envelope.target.Framable →
      ∃ packet, encodeUdpDatagram envelope = .ok packet ∧
        parseUdpDatagram envelope.relayClientAddr envelope.relayClientAddr packet envelope.associationId = .ok envelope) ∧
    ∀ envelope : DatagramEnvelope, ¬envelope.target.Framable → ∃ err, encodeUdpDatagram envelope = .error err := by
  refine ⟨fun source packet id envelope h => ?_, fun envelope hvalid hframable => ?_, fun _ => encodeUdpDatagram_error⟩
  · obtain ⟨address, haccepted⟩ := parseUdpDatagram_eq_ok h
    rw [encodeUdpDatagram_of_address haccepted.address, haccepted.split]
  · obtain ⟨address, haddress⟩ := addressBytes_of_framable hframable
    exact ⟨_, encodeUdpDatagram_of_address haddress, parseUdpDatagram_of_address haddress hvalid⟩

/-! ## The parser by positions -/

namespace Cursor

/-- the target, and where the payload starts -/
def parseTarget (packet : List UInt8) : MayPanic UdpAssociateError (DatagramTarget × ℕ) := do
  let atyp ← index packet 3
  if atyp = 0x01 then
    if packet.length < 10 then fail .invalidTargetAddress
    else
      let a ← index packet 4
      let b ← index packet 5
      let c ← index packet 6
      let d ← index packet 7
      let p ← index packet 8
      let q ← index packet 9
      .ok (.ip (.new (.v4 ⟨a, b, c, d⟩) (u16OfBe [p, q])), 10)
  else if atyp = 0x03 then
    if packet.length < 5 then fail .invalidTargetAddress
    else
      let domainLen ← index packet 4
      let domainEnd ← sum 5 [domainLen.toNat]
      let needed ← sum domainEnd [2]
      if packet.length < needed then fail .invalidTargetAddress
      else
        let bytes ← slice packet 5 domainEnd
        match Utf8.fromUtf8 bytes with
        | none => fail .invalidTargetAddress
        | some domain =>
          let p ← index packet domainEnd
          let q ← index packet (← sum domainEnd [1])
          let payloadOffset ← sum domainEnd [2]
          .ok (.domain (String.ofList domain) (u16OfBe [p, q]), payloadOffset)
  else fail (.unsupportedAddressType atyp)

/-- a reserved byte is not zero; the second one is read only if the first is zero -/
def reservedSet (packet : List UInt8) : MayPanic UdpAssociateError Bool := do
  let rsv0 ← index packet 0
  if rsv0 ≠ 0x00 then .ok true
  else
    let rsv1 ← index packet 1
    .ok (decide (rsv1 ≠ 0x00))

def parseUdpDatagram (source expectedSource : SocketAddr) (packet : List UInt8)
    (associationId : DatagramAssociationId) : MayPanic UdpAssociateError DatagramEnvelope := do
  if source ≠ expectedSource then fail (.foreignSource expectedSource source)
  else if packet.length < 4 then fail .invalidReservedField
  else
    let reserved ← reservedSet packet
    if reserved then fail .invalidReservedField
    else
      let frag ← index packet 2
      if frag ≠ 0x00 then fail (.unsupportedFragmentation (← index packet 2))
      else
        let (target, payloadOffset) ← parseTarget packet
        let payload ← sliceFrom packet payloadOffset
        lift (checkEnvelope ⟨associationId, source, target, payload⟩)

end Cursor

/-- the positions are those of the datagram frame's address, with the cursor at the fourth byte -/
theorem parseTarget_eq (packet : List UInt8) :
    Cursor.parseTarget packet = Datagram.Cursor.addressAt .unsupportedAddressType .invalidTargetAddress packet 3 := by
  have hneeded : (sum 3 [1, 4, 2] : MayPanic UdpAssociateError ℕ) = .ok 10 := rfl
  have hsum : ∀ n, n ≤ 7 → (sum 3 [n] : MayPanic UdpAssociateError ℕ) = .ok (3 + n) := fun n hn => sum_one (by omega)
  conv_rhs =>
    unfold Datagram.Cursor.addressAt
    simp (disch := omega) only [hneeded, hsum, ok_bind]
  rfl

theorem reservedSet_cons (rsv0 rsv1 : UInt8) (rest : List UInt8) :
    Cursor.reservedSet (rsv0 :: rsv1 :: rest) = .ok (decide (rsv0 ≠ 0x00 ∨ rsv1 ≠ 0x00)) := by
  have h0 : (index (rsv0 :: rsv1 :: rest) 0 : MayPanic UdpAssociateError UInt8) = .ok rsv0 := rfl
  have h1 : (index (rsv0 :: rsv1 :: rest) 1 : MayPanic UdpAssociateError UInt8) = .ok rsv1 := rfl
  unfold Cursor.reservedSet
  rw [h0, ok_bind, h1, ok_bind]
  split_ifs with hrsv0
  · simp [hrsv0]
  · simp [not_not.1 hrsv0]

theorem parseUdpDatagram_agrees (source expectedSource : SocketAddr) {packet : List UInt8}
    (associationId : DatagramAssociationId) (hfits : packet.length < 2 ^ 63) :
    Cursor.parseUdpDatagram source expectedSource packet associationId =
      lift (parseUdpDatagram source expectedSource packet associationId) := by
  unfold Cursor.parseUdpDatagram parseUdpDatagram
  by_cases hforeign : source ≠ expectedSource
  · rw [if_pos hforeign, if_pos hforeign, lift_error]
  · rw [if_neg hforeign, if_neg hforeign]
    match packet with
    | [] | [_] | [_, _] | [_, _, _] => rfl
    | rsv0 :: rsv1 :: frag :: atyp :: body =>
      have htarget : Agrees (rsv0 :: rsv1 :: frag :: atyp :: body)
          (Cursor.parseTarget (rsv0 :: rsv1 :: frag :: atyp :: body))
          (DatagramTarget.read .unsupportedAddressType .invalidTargetAddress atyp body) := by
        rw [parseTarget_eq]
        exact addressAt_agrees _ _ (by simp) hfits
      have hfrag : (index (rsv0 :: rsv1 :: frag :: atyp :: body) 2 : MayPanic UdpAssociateError UInt8) = .ok frag := rfl
      simp only
      rw [if_neg (by simp), reservedSet_cons, ok_bind, hfrag, ok_bind, ok_bind]
      by_cases hrsv : rsv0 ≠ 0x00 ∨ rsv1 ≠ 0x00
      · rw [if_pos (decide_eq_true hrsv), if_pos hrsv, lift_error]
      · rw [if_neg (by simpa using hrsv), if_neg hrsv]
        by_cases hfragment : frag ≠ 0x00
        · rw [if_pos hfragment, if_pos hfragment, lift_error]
        · rw [if_neg hfragment, if_neg hfragment]
          cases hread : DatagramTarget.read UdpAssociateError.unsupportedAddressType .invalidTargetAddress atyp body with
          | error err =>
            rw [hread] at htarget
            rw [show Cursor.parseTarget _ = fail err from htarget]
            rfl
          | ok read =>
            obtain ⟨target, payload⟩ := read
            rw [hread] at htarget
            obtain ⟨payloadOffset, hmoved, hoffset, rfl⟩ := htarget
            rw [hmoved, ok_bind, bind_of_ok rfl]
            simp only
            rw [sliceFrom_of_le hoffset, ok_bind]

/-! ## No panics -/

/-- the errors that parsing a packet declares -/
def PacketError (source expectedSource : SocketAddr) (packet : List UInt8) : UdpAssociateError → Prop
  | .foreignSource expected actual => expected = expectedSource ∧ actual = source ∧ source ≠ expectedSource
  | .unsupportedFragmentation fragment => fragment = packet.getD 2 0 ∧ fragment ≠ 0x00
  | .unsupportedAddressType atyp => atyp = packet.getD 3 0 ∧ atyp ≠ 0x01 ∧ atyp ≠ 0x03
  | .invalidReservedField | .invalidTargetAddress | .datagramContract _ => True
  | .io _ => False

theorem checkEnvelope_error {envelope : DatagramEnvelope} {err : UdpAssociateError}
    (h : checkEnvelope envelope = .error err) : ∃ violation, err = .datagramContract violation := by
  unfold checkEnvelope at h
  split at h
  · cases h
  · cases h
    exact ⟨_, rfl⟩

theorem parseUdpDatagram_error {source expectedSource : SocketAddr} {packet : List UInt8}
    {associationId : DatagramAssociationId} {err : UdpAssociateError}
    (h : parseUdpDatagram source expectedSource packet associationId = .error err) :
    PacketError source expectedSource packet err := by
  unfold parseUdpDatagram at h
  split_ifs at h with howned
  · cases h
    exact ⟨rfl, rfl, howned⟩
  · split at h
    · rename_i rsv0 rsv1 frag atyp body
      split_ifs at h with hrsv hfrag
      · cases h
        exact trivial
      · cases h
        exact ⟨rfl, hfrag⟩
      · cases hread : DatagramTarget.read UdpAssociateError.unsupportedAddressType .invalidTargetAddress atyp body with
        | error err' =>
          rw [hread] at h
          cases h
          obtain rfl | ⟨rfl, hv4, hdomain⟩ := read_error hread
          · exact trivial
          · exact ⟨rfl, hv4, hdomain⟩
        | ok read =>
          rw [bind_of_ok hread] at h
          obtain ⟨violation, rfl⟩ := checkEnvelope_error h
          exact trivial
    · cases h
      exact trivial

/-- **Neither parser panics.** On input shorter than `2 ^ 63` bytes, decoding a frame gives an envelope whose payload has
the declared length, or a declared error; parsing a packet gives an envelope or a declared error. -/
theorem datagram_parsers_never_panic (v6 : Ipv6Text) (bytes : List UInt8) (hfits : bytes.length < 2 ^ 63) :
    ((∃ envelope, Datagram.Cursor.decodeDatagram v6 bytes = .ok envelope ∧
        envelope.payload.length = declaredPayloadLen bytes) ∨
      ∃ err, Datagram.Cursor.decodeDatagram v6 bytes = fail err ∧ DecodeError bytes err) ∧
    ∀ source expectedSource associationId,
      (∃ envelope, Cursor.parseUdpDatagram source expectedSource bytes associationId = .ok envelope) ∨
        ∃ err, Cursor.parseUdpDatagram source expectedSource bytes associationId = fail err ∧
          PacketError source expectedSource bytes err := by
  refine ⟨decodeDatagram_never_panics v6 hfits, fun source expectedSource associationId => ?_⟩
  rw [parseUdpDatagram_agrees source expectedSource associationId hfits]
  cases h : parseUdpDatagram source expectedSource bytes associationId with
  | ok envelope => exact Or.inl ⟨envelope, rfl⟩
  | error err => exact Or.inr ⟨err, rfl, parseUdpDatagram_error h⟩

/-- a frame cut off after a domain length of 255 -/
theorem datagram_parsers_truncated :
    Datagram.Cursor.decodeDatagram Ipv6.std [1, 0, 0, 0, 0, 0, 0, 0, 7, 3, 255] ≠ .error .panic := by
  intro hpanic
  obtain ⟨envelope, hok, -⟩ | ⟨err, hfail, -⟩ :=
    (datagram_parsers_never_panic Ipv6.std [1, 0, 0, 0, 0, 0, 0, 0, 7, 3, 255] (by decide)).1
  · rw [hpanic] at hok
    cases hok
  · rw [hpanic] at hfail
    cases hfail

end N0wss.Socks5
