/-
The datagram frame (`wss_gateway/datagram.rs`): one datagram inside one binary websocket message. A version byte, the
association id, the target, the client's address as text with a length, its port, and the payload with a length.

- `decode_encode`: whatever is encoded decodes to the same envelope, for a client address that its text gives back and a
  payload whose length fits its 32-bit field.
- `encodeDatagram_of_target`: an envelope with an IPv4 client is encoded as soon as its target can be written.
-/
import N0wss.Core.Stages
import N0wss.Datagram.Contract

namespace N0wss.Datagram

open Bytes Net Stages

inductive WssDatagramError where
  | invalidVersion (version : UInt8)
  | unsupportedTargetKind (kind : UInt8)
  | invalidFrame
  | nonBinaryFrame
  | sendFailed (detail : String)
deriving DecidableEq, Repr

def datagramFrameVersion : UInt8 := 1

/-! ## Encoding -/

def encodeTarget (target : DatagramTarget) : Except WssDatagramError (List UInt8) :=
  target.write (.unsupportedTargetKind 4) .invalidFrame

/-- the client's address and the payload, after the target -/
def encodeTail (relayIp : List UInt8) (relayPort : UInt16) (payload : List UInt8) : List UInt8 :=
  u16ToBe (UInt16.ofNat relayIp.length) ++ (relayIp ++ (u16ToBe relayPort ++
    (u32ToBe (UInt32.ofNat payload.length) ++ payload)))

def encodeDatagram (v6 : Ipv6Text) (envelope : DatagramEnvelope) : Except WssDatagramError (List UInt8) := do
  let target ← encodeTarget envelope.target
  let relayIp := Utf8.encode (displayIp v6 envelope.relayClientAddr.ip)
  if 65535 < relayIp.length then .error .invalidFrame
  else
    .ok (datagramFrameVersion :: (u64ToBe envelope.associationId ++ (target ++
      encodeTail relayIp envelope.relayClientAddr.port envelope.payload)))

/-! ## Decoding -/

def decodeTarget (kind : UInt8) (bytes : List UInt8) : Except WssDatagramError (DatagramTarget × List UInt8) :=
  DatagramTarget.read .unsupportedTargetKind .invalidFrame kind bytes

/-- the client's address and the payload; bytes past the payload are ignored -/
def decodeTail (v6 : Ipv6Text) (bytes : List UInt8) : Except WssDatagramError (SocketAddr × List UInt8) :=
  if bytes.length < 2 then .error .invalidFrame
  else
    let relayIpLen := (u16OfBe (bytes.take 2)).toNat
    let bytes := bytes.drop 2
    if bytes.length < relayIpLen + 2 + 4 then .error .invalidFrame
    else
      match (Utf8.fromUtf8 (bytes.take relayIpLen)).bind (parseIp v6) with
      | none => .error .invalidFrame
      | some relayIp =>
        let bytes := bytes.drop relayIpLen
        let relayPort := u16OfBe (bytes.take 2)
        let bytes := bytes.drop 2
        let payloadLen := (u32OfBe (bytes.take 4)).toNat
        let bytes := bytes.drop 4
        if bytes.length < payloadLen then .error .invalidFrame
        else .ok (.new relayIp relayPort, bytes.take payloadLen)

def decodeDatagram (v6 : Ipv6Text) (frame : List UInt8) : Except WssDatagramError DatagramEnvelope :=
  if frame.length < 1 + 8 + 1 then .error .invalidFrame
  else if frame.headD 0 ≠ datagramFrameVersion then .error (.invalidVersion (frame.headD 0))
  else do
    let (target, bytes) ← decodeTarget (frame.getD 9 0) (frame.drop 10)
    let (relayClientAddr, payload) ← decodeTail v6 bytes
    .ok ⟨u64OfBe ((frame.drop 1).take 8), relayClientAddr, target, payload⟩

/-! ## Round trip -/

theorem decodeTail_encodeTail (v6 : Ipv6Text) {ip : IpAddr} (hip : parseIp v6 (displayIp v6 ip) = some ip)
    (hlen : (Utf8.encode (displayIp v6 ip)).length ≤ 65535) (port : UInt16) {payload : List UInt8}
    (hpayload : payload.length < 2 ^ 32) :
    decodeTail v6 (encodeTail (Utf8.encode (displayIp v6 ip)) port payload) = .ok (.new ip port, payload) := by
  set relayIp := Utf8.encode (displayIp v6 ip)
  have hiplen : (UInt16.ofNat relayIp.length).toNat = relayIp.length := by
    rw [UInt16.toNat_ofNat']; exact Nat.mod_eq_of_lt (Nat.lt_succ_of_le hlen)
  have hpaylen : (UInt32.ofNat payload.length).toNat = payload.length := by
    rw [UInt32.toNat_ofNat']; exact Nat.mod_eq_of_lt hpayload
  have hparse : (Utf8.fromUtf8 relayIp).bind (parseIp v6) = some ip := by
    rw [Utf8.fromUtf8_encode, Option.bind_some, hip]
  -- what is left of the bytes after each field
  have htake2 : ∀ (n : UInt16) (rest : List UInt8), (u16ToBe n ++ rest).take 2 = u16ToBe n := fun n rest =>
    List.take_left' (length_u16ToBe n)
  have hdrop2 : ∀ (n : UInt16) (rest : List UInt8), (u16ToBe n ++ rest).drop 2 = rest := fun n rest =>
    List.drop_left' (length_u16ToBe n)
  have htake4 : ∀ (n : UInt32) (rest : List UInt8), (u32ToBe n ++ rest).take 4 = u32ToBe n := fun n rest =>
    List.take_left' (length_u32ToBe n)
  have hdrop4 : ∀ (n : UInt32) (rest : List UInt8), (u32ToBe n ++ rest).drop 4 = rest := fun n rest =>
    List.drop_left' (length_u32ToBe n)
  have hlong2 : ¬(encodeTail relayIp port payload).length < 2 := by
    simp only [encodeTail, List.length_append, length_u16ToBe]; omega
  have hlong6 : ¬(relayIp ++ (u16ToBe port ++ (u32ToBe (UInt32.ofNat payload.length) ++ payload))).length <
      relayIp.length + 2 + 4 := by
    simp only [List.length_append, length_u16ToBe, length_u32ToBe]; omega
  rw [decodeTail, if_neg hlong2]
  simp only [encodeTail, htake2, hdrop2, u16OfBe_u16ToBe, hiplen, if_neg hlong6, List.take_left, List.drop_left, hparse,
    htake4, hdrop4, u32OfBe_u32ToBe, hpaylen, lt_irrefl, if_false, List.take_length]

/-- **Round trip.** A frame carries its envelope unchanged. -/
theorem decode_encode (v6 : Ipv6Text) {envelope : DatagramEnvelope} {frame : List UInt8}
    (hip : parseIp v6 (displayIp v6 envelope.relayClientAddr.ip) = some envelope.relayClientAddr.ip)
    (haddr : SocketAddr.new envelope.relayClientAddr.ip envelope.relayClientAddr.port = envelope.relayClientAddr)
    (hpayload : envelope.payload.length < 2 ^ 32) (h : encodeDatagram v6 envelope = .ok frame) :
    decodeDatagram v6 frame = .ok envelope := by
  obtain ⟨head, htarget, h⟩ := bind_eq_ok_iff.1 h
  simp only at h
  split_ifs at h with hlen
  cases h
  set tail := encodeTail (Utf8.encode (displayIp v6 envelope.relayClientAddr.ip)) envelope.relayClientAddr.port
    envelope.payload
  obtain ⟨kind, body, rfl, hread⟩ : ∃ kind body, head = kind :: body ∧
      decodeTarget kind (body ++ tail) = .ok (envelope.target, tail) := read_of_write htarget tail
  have htail : decodeTail v6 tail = .ok (envelope.relayClientAddr, envelope.payload) := by
    rw [decodeTail_encodeTail v6 hip (not_lt.1 hlen) _ hpayload, haddr]
  have hid : (u64ToBe envelope.associationId ++ (kind :: body ++ tail)).take 8 = u64ToBe envelope.associationId :=
    List.take_left' (length_u64ToBe _)
  have hkind : (datagramFrameVersion :: (u64ToBe envelope.associationId ++ (kind :: body ++ tail))).getD 9 0 = kind := by
    simp [List.getD_eq_getElem?_getD]
  have hrest : (datagramFrameVersion :: (u64ToBe envelope.associationId ++ (kind :: body ++ tail))).drop 10 =
      body ++ tail := by
    simp [List.drop_append]
  have hlong : ¬(datagramFrameVersion :: (u64ToBe envelope.associationId ++ (kind :: body ++ tail))).length < 1 + 8 + 1 := by
    simp only [List.length_cons, List.length_append, length_u64ToBe]; omega
  rw [decodeDatagram, if_neg hlong, List.headD_cons, if_neg (not_not.2 rfl), hkind, hrest,
    bind_of_ok hread]
  simp only
  rw [bind_of_ok htail]
  simp only [List.drop_one, List.tail_cons, hid, u64OfBe_u64ToBe]

/-- an envelope with an IPv4 client is encoded as soon as its target can be written -/
theorem encodeDatagram_of_target (v6 : Ipv6Text) {envelope : DatagramEnvelope} {target : List UInt8} {ip : Ipv4Addr}
    {port : UInt16} (hclient : envelope.relayClientAddr = .v4 ip port) (h : encodeTarget envelope.target = .ok target) :
    ∃ frame, encodeDatagram v6 envelope = .ok frame := by
  have hlen : ¬65535 < (Utf8.encode (displayIp v6 envelope.relayClientAddr.ip)).length := by
    rw [hclient, SocketAddr.ip, displayIp]
    have hbytes := Utf8.length_encode_le (displayV4 ip)
    have hchars := length_displayV4_le ip
    omega
  exact ⟨_, by rw [encodeDatagram, bind_of_ok h]; exact if_neg hlen⟩

end N0wss.Datagram
