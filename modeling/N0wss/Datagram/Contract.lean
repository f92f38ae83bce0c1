/-
The datagram contract (`transport/datagram_contract.rs`), and the address form that the SOCKS5 UDP packet and the datagram
frame share: a kind byte, an IPv4 address or a length-prefixed domain, and a port.

- `read_of_write`: an address that was written reads back, whatever follows it.
- `write_of_read`: an address that was read is written as the same bytes. The two together make the form canonical.
-/
import N0wss.Core.Bytes
import N0wss.Core.Utf8
import N0wss.Net.Addr

namespace N0wss.Datagram

open Bytes Net

/-! ## The contract -/

def maxDatagramPayloadBytes : ℕ := 65507

abbrev DatagramAssociationId := UInt64

inductive DatagramTarget where
  | ip (addr : SocketAddr)
  | domain (domain : String) (port : UInt16)
deriving DecidableEq, Repr

structure DatagramEnvelope where
  associationId : DatagramAssociationId
  relayClientAddr : SocketAddr
  target : DatagramTarget
  payload : List UInt8
deriving DecidableEq, Repr

inductive DatagramError where
  | payloadTooLarge
  | emptyDomainTarget
deriving DecidableEq, Repr

/-- `DatagramError`'s `Display` -/
def DatagramError.text : DatagramError → String
  | .payloadTooLarge => "datagram payload exceeds the maximum supported size"
  | .emptyDomainTarget => "domain targets must not be empty"

def DatagramEnvelope.validate (envelope : DatagramEnvelope) : Except DatagramError Unit :=
  if maxDatagramPayloadBytes < envelope.payload.length then .error .payloadTooLarge
  else
    match envelope.target with
    | .domain domain _ => if domain.toList = [] then .error .emptyDomainTarget else .ok ()
    | .ip _ => .ok ()

/-- validation looks at the target and the payload only -/
theorem validate_congr {e e' : DatagramEnvelope} (htarget : e'.target = e.target) (hpayload : e'.payload = e.payload) :
    e'.validate = e.validate := by
  simp only [DatagramEnvelope.validate, htarget, hpayload]

/-- what a valid envelope is -/
theorem validate_eq_ok_iff {e : DatagramEnvelope} : e.validate = .ok () ↔
    (∀ name port, e.target = .domain name port → name.toList ≠ []) ∧ e.payload.length ≤ maxDatagramPayloadBytes := by
  unfold DatagramEnvelope.validate
  split_ifs with hlarge
  · simp [Nat.not_le.2 hlarge]
  · cases htarget : e.target with
    | ip addr => simp [not_lt.1 hlarge]
    | domain name port =>
      simp only
      split_ifs with hempty
      · simp only [false_iff]
        rintro ⟨hname, -⟩
        exact hname name port rfl hempty
      · simp only [true_iff]
        refine ⟨?_, not_lt.1 hlarge⟩
        rintro _ _ ⟨⟩
        exact hempty

theorem length_payload_of_validate {e : DatagramEnvelope} (h : e.validate = .ok ()) :
    e.payload.length ≤ maxDatagramPayloadBytes :=
  (validate_eq_ok_iff.1 h).2

/-- what one `recv_from` into a buffer of 65535 bytes returns -/
structure Received where
  bytes : List UInt8
  source : SocketAddr
  fits : bytes.length ≤ 65535
deriving DecidableEq

/-! ## The address form -/

/-- kind, address and port; `unsupported` is the error for an IPv6 address, `tooLong` for a long domain -/
def DatagramTarget.write {ε : Type} (unsupported tooLong : ε) : DatagramTarget → Except ε (List UInt8)
  | .ip (.v4 v4 port) => .ok (0x01 :: (v4.octets ++ u16ToBe port))
  | .ip (.v6 _ _ _ _) => .error unsupported
  | .domain name port =>
    let bytes := Utf8.encode name.toList
    if 255 < bytes.length then .error tooLong
    else .ok (0x03 :: UInt8.ofNat bytes.length :: (bytes ++ u16ToBe port))

/-- the address and what follows it; `kindError` is the error for a kind that is neither, `short` for everything else -/
def DatagramTarget.read {ε : Type} (kindError : UInt8 → ε) (short : ε) (kind : UInt8) (bytes : List UInt8) :
    Except ε (DatagramTarget × List UInt8) :=
  if kind = 0x01 then
    match bytes with
    | a :: b :: c :: d :: p :: q :: rest => .ok (.ip (.new (.v4 ⟨a, b, c, d⟩) (u16OfBe [p, q])), rest)
    | _ => .error short
  else if kind = 0x03 then
    match bytes with
    | [] => .error short
    | len :: bytes =>
      match bytes.drop len.toNat with
      | p :: q :: rest =>
        match Utf8.fromUtf8 (bytes.take len.toNat) with
        | some name => .ok (.domain (String.ofList name) (u16OfBe [p, q]), rest)
        | none => .error short
      | _ => .error short
  else .error (kindError kind)

/-- the address bytes of a target, whichever errors the writer would report -/
def AddressBytes (target : DatagramTarget) (bytes : List UInt8) : Prop :=
  ∀ (ε : Type) (unsupported tooLong : ε), target.write unsupported tooLong = .ok bytes

section
variable {ε ε' : Type} {unsupported tooLong : ε} {kindError : UInt8 → ε'} {short : ε'}

theorem u16ToBe_eq (port : UInt16) : ∃ p q, u16ToBe port = [p, q] := ⟨_, _, rfl⟩

/-- **An address that was written reads back.** -/
theorem read_of_write {target : DatagramTarget} {head : List UInt8} (h : target.write unsupported tooLong = .ok head)
    (rest : List UInt8) :
    ∃ kind body, head = kind :: body ∧ DatagramTarget.read kindError short kind (body ++ rest) = .ok (target, rest) := by
  cases target with
  | ip addr =>
    cases addr with
    | v6 ip port flowinfo scopeId => cases h
    | v4 ip port =>
      cases h
      obtain ⟨p, q, hport⟩ := u16ToBe_eq port
      have hround : u16OfBe [p, q] = port := by rw [← hport, u16OfBe_u16ToBe]
      refine ⟨0x01, _, rfl, ?_⟩
      rw [hport]
      simp only [DatagramTarget.read, if_true, Ipv4Addr.octets, List.cons_append, List.nil_append, hround, SocketAddr.new]
  | domain domain port =>
    simp only [DatagramTarget.write] at h
    split_ifs at h with hlong
    cases h
    set bytes := Utf8.encode domain.toList
    have hutf8 : Utf8.fromUtf8 bytes = some domain.toList := Utf8.fromUtf8_encode _
    obtain ⟨p, q, hport⟩ := u16ToBe_eq port
    have hround : u16OfBe [p, q] = port := by rw [← hport, u16OfBe_u16ToBe]
    have hlen : (UInt8.ofNat bytes.length).toNat = bytes.length := Utf8.toNat_ofNat_of_lt (by omega)
    have htake : (bytes ++ [p, q] ++ rest).take bytes.length = bytes := by
      rw [List.append_assoc, List.take_left]
    have hdrop : (bytes ++ [p, q] ++ rest).drop bytes.length = p :: q :: rest := by
      rw [List.append_assoc, List.drop_left]; rfl
    refine ⟨0x03, _, rfl, ?_⟩
    rw [hport]
    simp only [DatagramTarget.read, if_neg (show ¬(0x03 : UInt8) = 0x01 by decide), if_true, List.cons_append, hlen,
      hdrop, htake, hutf8, hround, String.ofList_toList]

/-- **An address that was read is written as the same bytes.** -/
theorem write_of_read {kind : UInt8} {bytes rest : List UInt8} {target : DatagramTarget}
    (h : DatagramTarget.read kindError short kind bytes = .ok (target, rest)) :
    ∃ body, bytes = body ++ rest ∧ AddressBytes target (kind :: body) := by
  unfold DatagramTarget.read at h
  split_ifs at h with hip hdomain
  · subst hip
    split at h
    · rename_i a b c d p q tail
      cases h
      refine ⟨[a, b, c, d, p, q], rfl, fun _ _ _ => ?_⟩
      have hport : u16ToBe (u16OfBe [p, q]) = [p, q] := u16ToBe_u16OfBe rfl
      simp only [SocketAddr.new, DatagramTarget.write, hport]
      rfl
    · cases h
  · subst hdomain
    split at h
    · cases h
    · rename_i len tail
      split at h
      · rename_i p q after hdrop
        split at h
        · rename_i domain hutf8
          cases h
          have hbytes : tail.take len.toNat = Utf8.encode domain := Utf8.fromUtf8_eq_some_iff.1 hutf8
          have hport : u16ToBe (u16OfBe [p, q]) = [p, q] := u16ToBe_u16OfBe rfl
          have hle : len.toNat ≤ tail.length := by
            by_contra hgt
            rw [List.drop_eq_nil_of_le (le_of_not_ge hgt)] at hdrop
            cases hdrop
          have hlen : (Utf8.encode domain).length = len.toNat := by rw [← hbytes, List.length_take_of_le hle]
          have hshort : ¬255 < len.toNat := not_lt.2 (Nat.le_of_lt_succ len.toNat_lt)
          have hsplit : tail = Utf8.encode domain ++ [p, q] ++ rest := by
            calc tail = tail.take len.toNat ++ tail.drop len.toNat := (List.take_append_drop _ _).symm
              _ = Utf8.encode domain ++ ([p, q] ++ rest) := by rw [hbytes, hdrop]; rfl
              _ = Utf8.encode domain ++ [p, q] ++ rest := (List.append_assoc _ _ _).symm
          refine ⟨len :: (Utf8.encode domain ++ [p, q]), by rw [hsplit]; rfl, fun _ _ _ => ?_⟩
          simp only [DatagramTarget.write, String.toList_ofList, hlen, if_neg hshort, hport, UInt8.ofNat_toNat]
        · cases h
      · cases h

end

end N0wss.Datagram
