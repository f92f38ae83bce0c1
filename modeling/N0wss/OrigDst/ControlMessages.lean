/-
The original destination of an intercepted datagram (`udp_origdst/linux.rs`): the walk over the control messages that
`recvmsg` left, on a little-endian target with 64-bit pointers. Memory is any function from addresses to bytes; pointers and
lengths wrap.

- `Memory.read_add`, `Memory.read_part`: reads split, and contain their parts.
- `u16FromBe_u16OfLe`, `u32FromBe_u32OfLe`, `ipv4OfU32_u32OfBe`: addresses and ports are read in network byte order.
- `cmsgAlign_toNat`: what the alignment computes.
- `parseFrom_found`: a message of the right level and type ends the walk.
- `parseFrom_next`, `parseFrom_stuck`: another one is stepped over, if the step leads on and stays inside.
-/
import N0wss.Core.Bytes
import N0wss.Net.Addr

namespace N0wss.OrigDst

open Bytes Net

inductive UdpOrigDstError where
  | recoveryFailed (detail : String)
  | governedHandoffFailed (detail : String)
  | invalidRecoveredTuple (detail : String)
  | payloadLengthMismatch (expected actual : ℕ)
  | payloadTooLarge
  | receiveWouldBlock
deriving DecidableEq, Repr

/-- `UdpOrigDstError`'s `Display` -/
def UdpOrigDstError.text : UdpOrigDstError → String
  | .recoveryFailed detail => "original-destination tuple recovery failed: " ++ detail
  | .governedHandoffFailed detail => "governed handoff failed: " ++ detail
  | .invalidRecoveredTuple detail => "invalid recovered tuple: " ++ detail
  | .payloadLengthMismatch expected actual =>
    "recovered payload length mismatch: expected " ++ toString expected ++ ", got " ++ toString actual
  | .payloadTooLarge => "recovered payload exceeds maximum supported size"
  | .receiveWouldBlock => "no recovered datagram is ready yet on the helper listener"

/-! ## Memory -/

abbrev Memory := UInt64 → UInt8

/-- `len` bytes from an address on -/
def Memory.read (mem : Memory) (addr : UInt64) (len : ℕ) : List UInt8 :=
  (List.range len).map fun i => mem (addr + UInt64.ofNat i)

namespace Memory

variable (mem : Memory) (addr : UInt64)

@[simp] theorem length_read (len : ℕ) : (mem.read addr len).length = len := by simp [read]

theorem read_add (m n : ℕ) : mem.read addr (m + n) = mem.read addr m ++ mem.read (addr + UInt64.ofNat m) n := by
  simp only [read, List.range_add, List.map_append, List.map_map, Function.comp_def, UInt64.ofNat_add, UInt64.add_assoc]

/-- a part of what is read -/
theorem read_part {i k n : ℕ} (h : i + k ≤ n) : mem.read (addr + UInt64.ofNat i) k = ((mem.read addr n).drop i).take k := by
  obtain ⟨rest, rfl⟩ := Nat.exists_eq_add_of_le h
  rw [Nat.add_assoc, read_add, List.drop_left' (mem.length_read addr i), read_add,
    List.take_left' (mem.length_read _ k)]

variable {mem addr}

/-- what is read in one piece is read in two -/
theorem read_append {n : ℕ} {front back : List UInt8} (h : mem.read addr n = front ++ back) :
    mem.read addr front.length = front ∧ mem.read (addr + UInt64.ofNat front.length) back.length = back := by
  have hn : n = front.length + back.length := by simpa using congrArg List.length h
  rw [hn, read_add] at h
  exact List.append_inj h (mem.length_read addr front.length)

end Memory

/-- a `u16` as it stands in memory -/
def u16OfLe (bs : List UInt8) : UInt16 := UInt16.ofNat (ofBe bs.reverse)

/-- a `u32` as it stands in memory -/
def u32OfLe (bs : List UInt8) : UInt32 := UInt32.ofNat (ofBe bs.reverse)

/-- a `u64` as it stands in memory -/
def u64OfLe (bs : List UInt8) : UInt64 := UInt64.ofNat (ofBe bs.reverse)

/-- `u16::from_be` -/
def u16FromBe (n : UInt16) : UInt16 := u16OfBe (u16ToBe n).reverse

/-- `u32::from_be` -/
def u32FromBe (n : UInt32) : UInt32 := u32OfBe (u32ToBe n).reverse

/-- `Ipv4Addr::from(u32)` -/
def ipv4OfU32 (n : UInt32) : Ipv4Addr :=
  ⟨(n >>> 24).toUInt8, (n >>> 16).toUInt8, (n >>> 8).toUInt8, n.toUInt8⟩

/-- `from_be` undoes the order in memory -/
theorem u16FromBe_u16OfLe {bs : List UInt8} (h : bs.length = 2) : u16FromBe (u16OfLe bs) = u16OfBe bs := by
  have hle : u16OfLe bs = u16OfBe bs.reverse := rfl
  rw [u16FromBe, hle, u16ToBe_u16OfBe (by rw [List.length_reverse, h]), List.reverse_reverse]

theorem u32FromBe_u32OfLe {bs : List UInt8} (h : bs.length = 4) : u32FromBe (u32OfLe bs) = u32OfBe bs := by
  have hle : u32OfLe bs = u32OfBe bs.reverse := rfl
  rw [u32FromBe, hle, u32ToBe_u32OfBe (by rw [List.length_reverse, h]), List.reverse_reverse]

/-- the four bytes of an address in network order are its octets -/
theorem ipv4OfU32_u32OfBe (a b c d : UInt8) : ipv4OfU32 (u32OfBe [a, b, c, d]) = ⟨a, b, c, d⟩ := by
  have ha := a.toNat_lt
  have hb := b.toNat_lt
  have hc := c.toNat_lt
  have hd := d.toNat_lt
  have hval : (u32OfBe [a, b, c, d]).toNat = a.toNat * 2 ^ 24 + b.toNat * 2 ^ 16 + c.toNat * 2 ^ 8 + d.toNat := by
    rw [u32OfBe, UInt32.toNat_ofNat']
    simp only [ofBe, List.length_cons, List.length_nil]
    omega
  have hshift : ∀ k : UInt32, k.toNat < 32 →
      (u32OfBe [a, b, c, d] >>> k).toNat = (u32OfBe [a, b, c, d]).toNat / 2 ^ k.toNat := by
    intro k hk
    rw [UInt32.toNat_shiftRight, Nat.mod_eq_of_lt hk, Nat.shiftRight_eq_div_pow]
  have hbyte : ∀ (x : UInt32) (y : UInt8), x.toNat % 2 ^ 8 = y.toNat → x.toUInt8 = y := by
    intro x y h
    exact UInt8.toNat_inj.1 ((UInt32.toNat_toUInt8 x).trans h)
  rw [ipv4OfU32, Ipv4Addr.mk.injEq]
  refine ⟨hbyte _ _ ?_, hbyte _ _ ?_, hbyte _ _ ?_, hbyte _ _ ?_⟩
  · rw [hshift 24 (by decide), hval, show (24 : UInt32).toNat = 24 from rfl]
    omega
  · rw [hshift 16 (by decide), hval, show (16 : UInt32).toNat = 16 from rfl]
    omega
  · rw [hshift 8 (by decide), hval, show (8 : UInt32).toNat = 8 from rfl]
    omega
  · rw [hval]
    omega

/-! ## The walk -/

structure Cmsghdr where
  cmsgLen : UInt64
  cmsgLevel : UInt32
  cmsgType : UInt32
deriving DecidableEq, Repr

structure SockaddrIn where
  sinFamily : UInt16
  sinPort : UInt16
  sAddr : UInt32
deriving DecidableEq, Repr

def sizeOfCmsghdr : UInt64 := 16

def sizeOfSockaddrIn : UInt64 := 16

def ipprotoIp : UInt32 := 0

def ipRecvOrigDstAddr : UInt32 := 20

def readCmsghdr (mem : Memory) (addr : UInt64) : Cmsghdr :=
  ⟨u64OfLe (mem.read addr 8), u32OfLe (mem.read (addr + 8) 4), u32OfLe (mem.read (addr + 12) 4)⟩

def readSockaddrIn (mem : Memory) (addr : UInt64) : SockaddrIn :=
  ⟨u16OfLe (mem.read addr 2), u16OfLe (mem.read (addr + 2) 2), u32OfLe (mem.read (addr + 4) 4)⟩

def socketAddrFromSockaddrIn (sockaddr : SockaddrIn) : SocketAddr :=
  .new (.v4 (ipv4OfU32 (u32FromBe sockaddr.sAddr))) (u16FromBe sockaddr.sinPort)

def cmsgAlign (length : UInt64) : UInt64 := (length + 8 - 1) &&& ~~~(8 - 1)

/-- rounded up to a multiple of 8, unless that wraps -/
theorem cmsgAlign_toNat (length : UInt64) : (cmsgAlign length).toNat = (length.toNat + 7) % 2 ^ 64 / 8 * 8 := by
  have hsum : (length + 8 - 1).toNat = (length.toNat + 7) % 2 ^ 64 := by
    have h8 : (8 : UInt64).toNat = 8 := rfl
    have h1 : (1 : UInt64).toNat = 1 := rfl
    rw [UInt64.toNat_sub, UInt64.toNat_add, h8, h1]
    omega
  rw [cmsgAlign, UInt64.toNat_and, hsum]
  exact and_two_pow_sub_two_pow (Nat.mod_lt _ (by decide)) (show 3 ≤ 64 by decide)

/-- `usize::saturating_sub` -/
def saturatingSub (a b : UInt64) : UInt64 := if b ≤ a then a - b else 0

def tooShort : UdpOrigDstError := .recoveryFailed "linux original-destination control message too short"

def missing : UdpOrigDstError := .recoveryFailed "linux original-destination control message missing"

/-- a header is read where there is room for one -/
def HasHeader (controlEnd current : UInt64) : Prop := current ≠ 0 ∧ current + sizeOfCmsghdr ≤ controlEnd

instance (controlEnd current : UInt64) : Decidable (HasHeader controlEnd current) := inferInstanceAs (Decidable (_ ∧ _))

def isOriginalDst (header : Cmsghdr) : Bool := header.cmsgLevel == ipprotoIp && header.cmsgType == ipRecvOrigDstAddr

/-- the address of the message whose header is at `current` -/
def originalDstAt (mem : Memory) (current : UInt64) (header : Cmsghdr) : Except UdpOrigDstError SocketAddr :=
  if saturatingSub header.cmsgLen sizeOfCmsghdr < sizeOfSockaddrIn then .error tooShort
  else .ok (socketAddrFromSockaddrIn (readSockaddrIn mem (current + cmsgAlign sizeOfCmsghdr)))

/-- where the walk goes from a header -/
def nextHeader (current : UInt64) (header : Cmsghdr) : UInt64 := current + cmsgAlign header.cmsgLen

/-- the loop of `parse_original_dst_from_msghdr`; it ends because it goes on only to a higher address within the area -/
def parseFrom (mem : Memory) (controlEnd current : UInt64) : Except UdpOrigDstError SocketAddr :=
  if HasHeader controlEnd current then
    if isOriginalDst (readCmsghdr mem current) then originalDstAt mem current (readCmsghdr mem current)
    else if _h : nextHeader current (readCmsghdr mem current) ≤ current ∨
        controlEnd < nextHeader current (readCmsghdr mem current) then .error missing
    else parseFrom mem controlEnd (nextHeader current (readCmsghdr mem current))
  else .error missing
termination_by controlEnd.toNat - current.toNat
decreasing_by
  obtain ⟨hup, hin⟩ := not_or.1 _h
  have hlt : current.toNat < (nextHeader current (readCmsghdr mem current)).toNat :=
    Nat.lt_of_not_le fun hle => hup (UInt64.le_iff_toNat_le.2 hle)
  have hle : (nextHeader current (readCmsghdr mem current)).toNat ≤ controlEnd.toNat :=
    Nat.le_of_not_lt fun hgt => hin (UInt64.lt_iff_toNat_lt.2 hgt)
  omega

/-- the control area that `recvmsg` left -/
structure Msghdr where
  msgControl : UInt64
  msgControllen : UInt64
deriving DecidableEq, Repr

def parseOriginalDstFromMsghdr (mem : Memory) (message : Msghdr) : Except UdpOrigDstError SocketAddr :=
  parseFrom mem (message.msgControl + message.msgControllen) message.msgControl

/-! ## One turn of the loop -/

variable {mem : Memory} {controlEnd current : UInt64}

theorem parseFrom_end (h : ¬HasHeader controlEnd current) : parseFrom mem controlEnd current = .error missing := by
  rw [parseFrom, if_neg h]

theorem parseFrom_found (h : HasHeader controlEnd current) (hfound : isOriginalDst (readCmsghdr mem current) = true) :
    parseFrom mem controlEnd current = originalDstAt mem current (readCmsghdr mem current) := by
  rw [parseFrom, if_pos h]
  simp only [hfound, if_true]

theorem parseFrom_stuck (h : HasHeader controlEnd current) (hfound : isOriginalDst (readCmsghdr mem current) = false)
    (hnext : nextHeader current (readCmsghdr mem current) ≤ current ∨
      controlEnd < nextHeader current (readCmsghdr mem current)) :
    parseFrom mem controlEnd current = .error missing := by
  rw [parseFrom, if_pos h]
  simp only [hfound, Bool.false_eq_true, if_false, dif_pos hnext]

theorem parseFrom_next (h : HasHeader controlEnd current) (hfound : isOriginalDst (readCmsghdr mem current) = false)
    (hup : current < nextHeader current (readCmsghdr mem current))
    (hin : nextHeader current (readCmsghdr mem current) ≤ controlEnd) :
    parseFrom mem controlEnd current = parseFrom mem controlEnd (nextHeader current (readCmsghdr mem current)) := by
  have hnext : ¬(nextHeader current (readCmsghdr mem current) ≤ current ∨
      controlEnd < nextHeader current (readCmsghdr mem current)) :=
    not_or.2 ⟨UInt64.not_le.2 hup, UInt64.not_lt.2 hin⟩
  rw [parseFrom, if_pos h]
  simp only [hfound, Bool.false_eq_true, if_false, dif_neg hnext]

end N0wss.OrigDst
