/-
`decode_datagram` as it is written: a frame, a cursor that moves through it, indexing and slicing at sums of the cursor
and lengths taken from the frame. Any of these panics outside its bounds.

- `addressAt_agrees`, `decodeTail_agrees`, `decodeDatagram_agrees`: each part of the decoder, and the whole, does what
  the reader of a list of bytes does.
- `decodeDatagram_never_panics`: whatever the frame, the decoder gives an envelope or a declared error; the payload of the
  envelope has the length the frame declares.
-/
import N0wss.Core.Stages
import N0wss.Core.Checked
import N0wss.Datagram.RoundTrip

namespace N0wss.Datagram

open Bytes Checked Net Stages

/-! ## The address form by positions -/

section
variable {ε : Type} {kindError : UInt8 → ε} {short : ε}

theorem read_v4 (bytes : List UInt8) :
    DatagramTarget.read kindError short 0x01 bytes =
      if bytes.length < 6 then .error short
      else .ok (.ip (.new (.v4 ⟨bytes.getD 0 0, bytes.getD 1 0, bytes.getD 2 0, bytes.getD 3 0⟩)
        (u16OfBe [bytes.getD 4 0, bytes.getD 5 0])), bytes.drop 6) := by
  match bytes with
  | [] | [_] | [_, _] | [_, _, _] | [_, _, _, _] | [_, _, _, _, _] => rfl
  | a :: b :: c :: d :: p :: q :: rest => simp [DatagramTarget.read]

theorem read_domain_cons (len : UInt8) (tail : List UInt8) :
    DatagramTarget.read kindError short 0x03 (len :: tail) =
      match tail.drop len.toNat with
      | p :: q :: rest =>
        match Utf8.fromUtf8 (tail.take len.toNat) with
        | some name => .ok (.domain (String.ofList name) (u16OfBe [p, q]), rest)
        | none => .error short
      | _ => .error short := rfl

theorem read_domain (bytes : List UInt8) :
    DatagramTarget.read kindError short 0x03 bytes =
      if bytes.length < 1 then .error short
      else if bytes.length < 1 + (bytes.getD 0 0).toNat + 2 then .error short
      else
        match Utf8.fromUtf8 ((bytes.drop 1).take (bytes.getD 0 0).toNat) with
        | some name =>
          .ok (.domain (String.ofList name)
            (u16OfBe [bytes.getD (1 + (bytes.getD 0 0).toNat) 0, bytes.getD (1 + (bytes.getD 0 0).toNat + 1) 0]),
            bytes.drop (1 + (bytes.getD 0 0).toNat + 2))
        | none => .error short := by
  cases bytes with
  | nil => rfl
  | cons len tail =>
    have hport : ∀ k, (len :: tail).getD (1 + len.toNat + k) 0 = (tail.drop len.toNat).getD k 0 := by
      intro k
      simp [List.getD_eq_getElem?_getD, List.getElem?_drop, show 1 + len.toNat + k = len.toNat + k + 1 by omega]
    have hrest : (len :: tail).drop (1 + len.toNat + 2) = (tail.drop len.toNat).drop 2 := by
      rw [List.drop_drop, show 1 + len.toNat + 2 = len.toNat + 2 + 1 by omega, List.drop_succ_cons]
    have hlen : (tail.drop len.toNat).length = tail.length - len.toNat := List.length_drop
    have hshort : (len :: tail).length < 1 + len.toNat + 2 ↔ (tail.drop len.toNat).length < 2 := by
      rw [hlen, List.length_cons]; omega
    have hport0 := hport 0
    rw [Nat.add_zero] at hport0
    rw [read_domain_cons, if_neg (by simp), List.getD_cons_zero, hport0, hport, hrest, List.drop_one, List.tail_cons]
    simp only [hshort]
    rcases tail.drop len.toNat with _ | ⟨p, _ | ⟨q, rest⟩⟩
    · rfl
    · rfl
    · simp

/-- an address is refused for its kind, or with the error for everything else -/
theorem read_error {kind : UInt8} {bytes : List UInt8} {err : ε}
    (h : DatagramTarget.read kindError short kind bytes = .error err) :
    err = short ∨ err = kindError kind ∧ kind ≠ 0x01 ∧ kind ≠ 0x03 := by
  by_cases hv4 : kind = 0x01
  · rw [hv4, read_v4] at h
    split_ifs at h
    cases h
    exact Or.inl rfl
  · by_cases hdomain : kind = 0x03
    · rw [hdomain, read_domain] at h
      split_ifs at h
      · cases h
        exact Or.inl rfl
      · cases h
        exact Or.inl rfl
      · split at h
        · cases h
        · cases h
          exact Or.inl rfl
    · simp only [DatagramTarget.read, if_neg hv4, if_neg hdomain] at h
      cases h
      exact Or.inr ⟨rfl, hv4, hdomain⟩

end

/-! ## The decoder -/

namespace Cursor

/-- the target at the cursor, and the cursor after it; the errors are as for `DatagramTarget.read` -/
def addressAt {ε : Type} (kindError : UInt8 → ε) (short : ε) (frame : List UInt8) (cursor : ℕ) :
    MayPanic ε (DatagramTarget × ℕ) := do
  let kind ← index frame cursor
  if kind = 0x01 then
    let needed ← sum cursor [1, 4, 2]
    if frame.length < needed then fail short
    else
      let a ← index frame (← sum cursor [1])
      let b ← index frame (← sum cursor [2])
      let c ← index frame (← sum cursor [3])
      let d ← index frame (← sum cursor [4])
      let p ← index frame (← sum cursor [5])
      let q ← index frame (← sum cursor [6])
      let cursor ← sum cursor [7]
      .ok (.ip (.new (.v4 ⟨a, b, c, d⟩) (u16OfBe [p, q])), cursor)
  else if kind = 0x03 then
    let needed ← sum cursor [2]
    if frame.length < needed then fail short
    else
      let domainLen ← index frame (← sum cursor [1])
      let domainStart ← sum cursor [2]
      let domainEnd ← sum domainStart [domainLen.toNat]
      let needed ← sum domainEnd [2]
      if frame.length < needed then fail short
      else
        let bytes ← slice frame domainStart domainEnd
        match Utf8.fromUtf8 bytes with
        | none => fail short
        | some domain =>
          let p ← index frame domainEnd
          let q ← index frame (← sum domainEnd [1])
          let cursor ← sum domainEnd [2]
          .ok (.domain (String.ofList domain) (u16OfBe [p, q]), cursor)
  else fail (kindError kind)

def decodeTarget (frame : List UInt8) (cursor : ℕ) : MayPanic WssDatagramError (DatagramTarget × ℕ) :=
  addressAt .unsupportedTargetKind .invalidFrame frame cursor

/-- the client's address and the payload, from the cursor on -/
def decodeTail (v6 : Ipv6Text) (frame : List UInt8) (cursor : ℕ) : MayPanic WssDatagramError (SocketAddr × List UInt8) := do
  let needed ← sum cursor [2]
  if frame.length < needed then fail .invalidFrame
  else
    let hi ← index frame cursor
    let lo ← index frame (← sum cursor [1])
    let relayIpLen := (u16OfBe [hi, lo]).toNat
    let cursor ← sum cursor [2]
    let needed ← sum cursor [relayIpLen, 2, 4]
    if frame.length < needed then fail .invalidFrame
    else
      let relayIpText ← slice frame cursor (← sum cursor [relayIpLen])
      match (Utf8.fromUtf8 relayIpText).bind (parseIp v6) with
      | none => fail .invalidFrame
      | some relayIp =>
        let cursor ← sum cursor [relayIpLen]
        let p ← index frame cursor
        let q ← index frame (← sum cursor [1])
        let cursor ← sum cursor [2]
        let lenBytes ← toArray 4 .invalidFrame (← slice frame cursor (← sum cursor [4]))
        let payloadLen := (u32OfBe lenBytes).toNat
        let cursor ← sum cursor [4]
        let needed ← sum cursor [payloadLen]
        if frame.length < needed then fail .invalidFrame
        else
          let payload ← slice frame cursor (← sum cursor [payloadLen])
          .ok (.new relayIp (u16OfBe [p, q]), payload)

def decodeDatagram (v6 : Ipv6Text) (frame : List UInt8) : MayPanic WssDatagramError DatagramEnvelope := do
  if frame.length < 1 + 8 + 1 then fail .invalidFrame
  else
    let version ← index frame 0
    if version ≠ datagramFrameVersion then
      let version ← index frame 0
      fail (.invalidVersion version)
    else
      let idBytes ← toArray 8 .invalidFrame (← slice frame 1 9)
      let (target, cursor) ← decodeTarget frame 9
      let (relayClientAddr, payload) ← decodeTail v6 frame cursor
      .ok ⟨u64OfBe idBytes, relayClientAddr, target, payload⟩

end Cursor

/-! ## Agreement -/

theorem getD_drop (bytes : List UInt8) (start k : ℕ) : (bytes.drop start).getD k 0 = bytes.getD (start + k) 0 := by
  simp [List.getD_eq_getElem?_getD, List.getElem?_drop]

theorem index_byte {bytes : List UInt8} {i : ℕ} (h : i < bytes.length) {ε : Type} :
    (index bytes i : MayPanic ε UInt8) = .ok (bytes.getD i 0) := index_of_lt h 0

theorem addressAt_agrees {ε : Type} (kindError : UInt8 → ε) (short : ε) {frame : List UInt8} {cursor : ℕ}
    (hcursor : cursor < frame.length) (hfits : frame.length < 2 ^ 63) :
    Agrees frame (Cursor.addressAt kindError short frame cursor)
      (DatagramTarget.read kindError short (frame.getD cursor 0) (frame.drop (cursor + 1))) := by
  have hlen : (frame.drop (cursor + 1)).length = frame.length - (cursor + 1) := List.length_drop
  unfold Cursor.addressAt
  rw [index_byte hcursor, ok_bind]
  by_cases hv4 : frame.getD cursor 0 = 0x01
  · rw [if_pos hv4, hv4, read_v4, sum_three (by omega), ok_bind, hlen]
    by_cases hshort : frame.length < cursor + 1 + 4 + 2
    · rw [if_pos hshort, if_pos (by omega)]
      exact rfl
    · rw [if_neg hshort, if_neg (by omega)]
      simp (disch := omega) only [sum_one, ok_bind, index_byte, getD_drop]
      refine ⟨cursor + 7, rfl, by omega, ?_⟩
      rw [List.drop_drop]
  · rw [if_neg hv4]
    by_cases hdomain : frame.getD cursor 0 = 0x03
    · rw [if_pos hdomain, hdomain, read_domain, sum_one (by omega), ok_bind, hlen]
      by_cases hshort : frame.length < cursor + 2
      · rw [if_pos hshort, if_pos (by omega)]
        exact rfl
      · rw [if_neg hshort, if_neg (by omega), sum_one (by omega), ok_bind, index_byte (by omega), ok_bind, ok_bind,
          getD_drop, Nat.add_zero]
        have hbyte := (frame.getD (cursor + 1) 0).toNat_lt
        set n := (frame.getD (cursor + 1) 0).toNat
        rw [sum_one (by omega), ok_bind, sum_one (by omega), ok_bind]
        by_cases hend : frame.length < cursor + 2 + n + 2
        · rw [if_pos hend, if_pos (by omega)]
          exact rfl
        · have hname : (frame.drop (cursor + 2)).take (cursor + 2 + n - (cursor + 2)) =
              ((frame.drop (cursor + 1)).drop 1).take n := by
            rw [List.drop_drop, Nat.add_sub_cancel_left]
          rw [if_neg hend, if_neg (by omega), slice_of_le (by omega) (by omega), ok_bind, hname]
          cases Utf8.fromUtf8 (((frame.drop (cursor + 1)).drop 1).take n) with
          | none => exact rfl
          | some name =>
            simp (disch := omega) only [sum_one, ok_bind, index_byte, getD_drop]
            refine ⟨cursor + 2 + n + 2, ?_, by omega, ?_⟩
            · rw [show cursor + 1 + (1 + n) = cursor + 2 + n by omega,
                show cursor + 1 + (1 + n + 1) = cursor + 2 + n + 1 by omega]
            · rw [List.drop_drop, show cursor + 1 + (1 + n + 2) = cursor + 2 + n + 2 by omega]
    · rw [if_neg hdomain]
      simp only [DatagramTarget.read, if_neg hv4, if_neg hdomain]
      exact rfl

theorem take_two_drop {bytes : List UInt8} {start : ℕ} (h : start + 2 ≤ bytes.length) :
    (bytes.drop start).take 2 = [bytes.getD start 0, bytes.getD (start + 1) 0] := by
  have hcons : ∀ rest : List UInt8, 2 ≤ rest.length → rest.take 2 = [rest.getD 0 0, rest.getD 1 0] := by
    intro rest hrest
    match rest, hrest with
    | a :: b :: rest, _ => rfl
  rw [hcons _ (by rw [List.length_drop]; omega), getD_drop, getD_drop, Nat.add_zero]

theorem decodeTail_agrees (v6 : Ipv6Text) {frame : List UInt8} {cursor : ℕ} (hcursor : cursor ≤ frame.length)
    (hfits : frame.length < 2 ^ 63) :
    Cursor.decodeTail v6 frame cursor = lift (decodeTail v6 (frame.drop cursor)) := by
  have hlen : ∀ k, (frame.drop k).length = frame.length - k := fun k => List.length_drop
  unfold Cursor.decodeTail decodeTail
  rw [sum_one (by omega), ok_bind]
  by_cases hshort : frame.length < cursor + 2
  · rw [if_pos hshort, if_pos (by rw [hlen]; omega), lift_error]
  · rw [if_neg hshort, if_neg (by rw [hlen]; omega), index_byte (by omega), ok_bind, sum_one (by omega), ok_bind,
      index_byte (by omega), ok_bind, ok_bind, take_two_drop (by omega), List.drop_drop]
    have hword := (u16OfBe [frame.getD cursor 0, frame.getD (cursor + 1) 0]).toNat_lt
    set n := (u16OfBe [frame.getD cursor 0, frame.getD (cursor + 1) 0]).toNat
    simp only
    rw [sum_three (by omega), ok_bind]
    by_cases hip : frame.length < cursor + 2 + n + 2 + 4
    · rw [if_pos hip, if_pos (by rw [hlen]; omega), lift_error]
    · rw [if_neg hip, if_neg (by rw [hlen]; omega), sum_one (by omega), ok_bind, slice_of_le (by omega) (by omega), ok_bind,
        Nat.add_sub_cancel_left]
      cases (Utf8.fromUtf8 ((frame.drop (cursor + 2)).take n)).bind (parseIp v6) with
      | none => rfl
      | some relayIp =>
        simp only [List.drop_drop]
        rw [ok_bind, index_byte (by omega), ok_bind, sum_one (by omega), ok_bind, index_byte (by omega), ok_bind,
          sum_one (by omega), ok_bind, sum_one (by omega), ok_bind, slice_of_le (by omega) (by omega), ok_bind,
          Nat.add_sub_cancel_left, toArray_of_length (by rw [List.length_take, hlen]; omega), ok_bind, ok_bind,
          take_two_drop (by omega)]
        have hlong := (u32OfBe ((frame.drop (cursor + 2 + n + 2)).take 4)).toNat_lt
        set m := (u32OfBe ((frame.drop (cursor + 2 + n + 2)).take 4)).toNat
        rw [sum_one (by omega), ok_bind]
        by_cases hpayload : frame.length < cursor + 2 + n + 2 + 4 + m
        · rw [if_pos hpayload, if_pos (by rw [hlen]; omega), lift_error]
        · rw [if_neg hpayload, if_neg (by rw [hlen]; omega), ok_bind, slice_of_le (by omega) (by omega), ok_bind,
            Nat.add_sub_cancel_left, lift_ok]

/-! ## The whole decoder -/

theorem decodeDatagram_agrees (v6 : Ipv6Text) {frame : List UInt8} (hfits : frame.length < 2 ^ 63) :
    Cursor.decodeDatagram v6 frame = lift (decodeDatagram v6 frame) := by
  unfold Cursor.decodeDatagram decodeDatagram
  by_cases hshort : frame.length < 1 + 8 + 1
  · rw [if_pos hshort, if_pos hshort, lift_error]
  · have hhead : frame.getD 0 0 = frame.headD 0 := by cases frame <;> rfl
    rw [if_neg hshort, if_neg hshort, index_byte (by omega), ok_bind, hhead]
    by_cases hversion : frame.headD 0 ≠ datagramFrameVersion
    · rw [if_pos hversion, if_pos hversion, ok_bind, lift_error]
    · have htarget : Agrees frame (Cursor.decodeTarget frame 9) (decodeTarget (frame.getD 9 0) (frame.drop 10)) :=
        addressAt_agrees _ _ (by omega) hfits
      rw [if_neg hversion, if_neg hversion, slice_of_le (by omega) (by omega), ok_bind,
        toArray_of_length (by rw [List.length_take, List.length_drop]; omega), ok_bind]
      cases hread : decodeTarget (frame.getD 9 0) (frame.drop 10) with
      | error err =>
        rw [hread] at htarget
        rw [show Cursor.decodeTarget frame 9 = fail err from htarget]
        rfl
      | ok read =>
        obtain ⟨target, rest⟩ := read
        rw [hread] at htarget
        obtain ⟨cursor, hmoved, hcursor, rfl⟩ := htarget
        rw [hmoved, ok_bind, bind_of_ok rfl]
        simp only
        rw [decodeTail_agrees v6 hcursor hfits]
        cases decodeTail v6 (frame.drop cursor) with
        | error err => rfl
        | ok tail => rfl

/-! ## What a frame declares -/

/-- where the part after the target starts -/
def tailCursor (frame : List UInt8) : ℕ :=
  if frame.getD 9 0 = 0x01 then 16 else 10 + (1 + (frame.getD 10 0).toNat + 2)

/-- where the length of the payload stands: after the client's address, which has its own length before it, and port -/
def payloadLenCursor (frame : List UInt8) : ℕ :=
  tailCursor frame + 2 + (u16OfBe ((frame.drop (tailCursor frame)).take 2)).toNat + 2

/-- the length of the payload, as the frame says -/
def declaredPayloadLen (frame : List UInt8) : ℕ :=
  (u32OfBe ((frame.drop (payloadLenCursor frame)).take 4)).toNat

/-- the errors that decoding a frame declares -/
def DecodeError (frame : List UInt8) : WssDatagramError → Prop
  | .invalidVersion version => version = frame.getD 0 0 ∧ version ≠ datagramFrameVersion
  | .unsupportedTargetKind kind => kind = frame.getD 9 0 ∧ kind ≠ 0x01 ∧ kind ≠ 0x03
  | .invalidFrame => True
  | .nonBinaryFrame | .sendFailed _ => False

/-- what is left after the target starts at `tailCursor` -/
theorem rest_of_decodeTarget {frame rest : List UInt8} {target : DatagramTarget}
    (h : decodeTarget (frame.getD 9 0) (frame.drop 10) = .ok (target, rest)) : rest = frame.drop (tailCursor frame) := by
  unfold decodeTarget at h
  unfold tailCursor
  by_cases hv4 : frame.getD 9 0 = 0x01
  · rw [hv4, read_v4] at h
    split_ifs at h
    cases h
    rw [List.drop_drop, if_pos hv4]
  · rw [if_neg hv4]
    by_cases hdomain : frame.getD 9 0 = 0x03
    · rw [hdomain, read_domain, getD_drop] at h
      split_ifs at h
      split at h
      · cases h
        rw [List.drop_drop]
      · cases h
    · simp only [DatagramTarget.read, if_neg hv4, if_neg hdomain] at h
      cases h

theorem decodeDatagram_length {v6 : Ipv6Text} {frame : List UInt8} {envelope : DatagramEnvelope}
    (h : decodeDatagram v6 frame = .ok envelope) : envelope.payload.length = declaredPayloadLen frame := by
  obtain ⟨bytes, htarget, htail⟩ := decodeDatagram_reads h
  rw [rest_of_decodeTarget htarget] at htail
  rw [(decodeTail_eq_ok htail).2, List.drop_drop, declaredPayloadLen, payloadLenCursor, Nat.add_assoc, Nat.add_assoc,
    Nat.add_assoc]

theorem decodeTail_error {v6 : Ipv6Text} {bytes : List UInt8} {err : WssDatagramError}
    (h : decodeTail v6 bytes = .error err) : err = .invalidFrame := by
  unfold decodeTail at h
  split_ifs at h with hshort
  · cases h; rfl
  · simp only at h
    split_ifs at h with hlen hpayload
    · cases h; rfl
    · split at h <;> cases h <;> rfl
    · split at h <;> cases h
      rfl

theorem decodeDatagram_error {v6 : Ipv6Text} {frame : List UInt8} {err : WssDatagramError}
    (h : decodeDatagram v6 frame = .error err) : DecodeError frame err := by
  unfold decodeDatagram at h
  split_ifs at h with hshort hversion
  · cases h
    exact trivial
  · cases h
    have hhead : frame.getD 0 0 = frame.headD 0 := by cases frame <;> rfl
    exact ⟨hhead.symm, hversion⟩
  · cases htarget : decodeTarget (frame.getD 9 0) (frame.drop 10) with
    | error err' =>
      rw [htarget] at h
      cases h
      obtain rfl | ⟨rfl, hv4, hdomain⟩ := read_error htarget
      · exact trivial
      · exact ⟨rfl, hv4, hdomain⟩
    | ok read =>
      rw [bind_of_ok htarget] at h
      cases htail : decodeTail v6 read.2 with
      | error err' =>
        simp only [htail] at h
        cases h
        rw [decodeTail_error htail]
        exact trivial
      | ok tail => simp only [bind_of_ok htail] at h; cases h

/-- **Decoding never panics.** Every frame gives an envelope, with a payload as long as the frame declares, or an error
that decoding declares. -/
theorem decodeDatagram_never_panics (v6 : Ipv6Text) {frame : List UInt8} (hfits : frame.length < 2 ^ 63) :
    (∃ envelope, Cursor.decodeDatagram v6 frame = .ok envelope ∧ envelope.payload.length = declaredPayloadLen frame) ∨
      ∃ err, Cursor.decodeDatagram v6 frame = fail err ∧ DecodeError frame err := by
  rw [decodeDatagram_agrees v6 hfits]
  cases h : decodeDatagram v6 frame with
  | ok envelope => exact Or.inl ⟨envelope, rfl, decodeDatagram_length h⟩
  | error err => exact Or.inr ⟨err, rfl, decodeDatagram_error h⟩

end N0wss.Datagram
