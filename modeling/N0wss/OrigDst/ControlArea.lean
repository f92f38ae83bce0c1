/-
Control areas that are concatenations of control messages, each padded to 8 bytes, and what the walk finds there. The last
message may go without its padding, or with a part of it.

- `missing_iff`: there is nothing to be found in an area exactly when no message has the level and the type.
- `Cmsg.standsAt`: how one message lies in memory.
- `walk_of_area`: in an area of messages, the first one of the right level and type is found, and nothing outside is read.
- `control_walk_correct`: the walk, over an area of messages and over any other.
-/
import N0wss.OrigDst.ControlWalk

namespace N0wss.OrigDst

open Bytes Net

/-! ## Messages -/

/-- a `u32` in the order of memory -/
def u32ToLe (n : UInt32) : List UInt8 := (u32ToBe n).reverse

/-- a `u64` in the order of memory -/
def u64ToLe (n : UInt64) : List UInt8 := (u64ToBe n).reverse

@[simp] theorem length_u32ToLe (n : UInt32) : (u32ToLe n).length = 4 := by rw [u32ToLe, List.length_reverse, length_u32ToBe]

@[simp] theorem length_u64ToLe (n : UInt64) : (u64ToLe n).length = 8 := by rw [u64ToLe, List.length_reverse, length_u64ToBe]

theorem u32OfLe_u32ToLe (n : UInt32) : u32OfLe (u32ToLe n) = n := by
  have hle : u32OfLe (u32ToLe n) = u32OfBe (u32ToLe n).reverse := rfl
  rw [hle, u32ToLe, List.reverse_reverse, u32OfBe_u32ToBe]

theorem u64OfLe_u64ToLe (n : UInt64) : u64OfLe (u64ToLe n) = n := by
  have hle : u64OfLe (u64ToLe n) = u64OfBe (u64ToLe n).reverse := rfl
  rw [hle, u64ToLe, List.reverse_reverse, u64OfBe_u64ToBe]

/-- a control message; its header says how long it is -/
structure Cmsg where
  level : UInt32
  type : UInt32
  data : List UInt8
deriving DecidableEq, Repr

namespace Cmsg

/-- `cmsg_len`: the header and the data -/
def len (m : Cmsg) : ℕ := 16 + m.data.length

/-- the length, padded to 8 bytes -/
def paddedLen (m : Cmsg) : ℕ := (m.len + 7) / 8 * 8

def header (m : Cmsg) : Cmsghdr := ⟨UInt64.ofNat m.len, m.level, m.type⟩

def bytes (m : Cmsg) : List UInt8 := u64ToLe (UInt64.ofNat m.len) ++ (u32ToLe m.level ++ (u32ToLe m.type ++ m.data))

/-- level `IPPROTO_IP` and type `IP_RECVORIGDSTADDR` -/
def IsOriginalDst (m : Cmsg) : Prop := m.level = ipprotoIp ∧ m.type = ipRecvOrigDstAddr

instance (m : Cmsg) : Decidable m.IsOriginalDst := inferInstanceAs (Decidable (_ ∧ _))

/-- the data as a `sockaddr_in`: the family, the port and the address, the last two in network byte order -/
def originalDst (m : Cmsg) : Except UdpOrigDstError SocketAddr :=
  if m.data.length < 16 then .error tooShort
  else .ok (.v4 ⟨m.data.getD 4 0, m.data.getD 5 0, m.data.getD 6 0, m.data.getD 7 0⟩
    (u16OfBe [m.data.getD 2 0, m.data.getD 3 0]))

@[simp] theorem length_bytes (m : Cmsg) : m.bytes.length = m.len := by
  simp only [bytes, len, List.length_append, length_u64ToLe, length_u32ToLe]
  omega

end Cmsg

/-- what is to be found in an area of messages -/
def firstOriginalDst (messages : List Cmsg) : Except UdpOrigDstError SocketAddr :=
  match messages.find? (·.IsOriginalDst) with
  | some m => m.originalDst
  | none => .error missing

/-- bytes that are a concatenation of messages, each padded to 8 bytes, the last one perhaps not -/
inductive ControlArea : List UInt8 → List Cmsg → Prop
  | nil : ControlArea [] []
  | last (m : Cmsg) (pad : List UInt8) (hpad : m.len + pad.length < m.paddedLen) : ControlArea (m.bytes ++ pad) [m]
  | cons (m : Cmsg) (pad : List UInt8) {rest : List UInt8} {messages : List Cmsg}
      (hpad : m.len + pad.length = m.paddedLen) (hrest : ControlArea rest messages) :
      ControlArea (m.bytes ++ (pad ++ rest)) (m :: messages)

theorem firstOriginalDst_of_first {m : Cmsg} (hfound : m.IsOriginalDst) (messages : List Cmsg) :
    firstOriginalDst (m :: messages) = m.originalDst := by
  rw [firstOriginalDst, List.find?_cons_of_pos (by simpa using hfound)]

theorem firstOriginalDst_of_other {m : Cmsg} (hother : ¬m.IsOriginalDst) (messages : List Cmsg) :
    firstOriginalDst (m :: messages) = firstOriginalDst messages := by
  rw [firstOriginalDst, List.find?_cons_of_neg (by simpa using hother), firstOriginalDst]

theorem missing_iff (messages : List Cmsg) :
    firstOriginalDst messages = .error missing ↔ ∀ m ∈ messages, ¬m.IsOriginalDst := by
  unfold firstOriginalDst
  cases hfound : messages.find? (·.IsOriginalDst) with
  | none => simpa using hfound
  | some m =>
    have hmatch : m.IsOriginalDst := by simpa using List.find?_some hfound
    refine iff_of_false ?_ fun hnone => hnone m (List.mem_of_find?_eq_some hfound) hmatch
    show m.originalDst ≠ .error missing
    unfold Cmsg.originalDst
    split_ifs
    · decide
    · nofun

/-! ## A message in memory -/

variable {mem : Memory} {controlEnd current : UInt64} {m : Cmsg}

/-- a part of a list, element by element -/
theorem take_drop_eq_map {l : List UInt8} {i k : ℕ} (h : i + k ≤ l.length) :
    (l.drop i).take k = (List.range k).map fun j => l.getD (i + j) 0 := by
  refine List.ext_getElem ?_ fun j hj hj' => ?_
  · simp only [List.length_take, List.length_drop, List.length_map, List.length_range]
    omega
  · rw [List.getElem_take, List.getElem_drop, List.getElem_map, List.getElem_range]
    exact List.getElem_eq_getD 0

/-- what the loop finds where a message lies -/
structure Cmsg.StandsAt (m : Cmsg) (mem : Memory) (controlEnd current : UInt64) : Prop where
  header : readCmsghdr mem current = m.header
  data : mem.read (current + 16) m.data.length = m.data
  notNull : current ≠ 0
  inside : current.toNat + m.len ≤ controlEnd.toNat
  top : controlEnd.toNat + 16 < 2 ^ 64

/-- bytes that begin with a message -/
theorem Cmsg.standsAt {n : ℕ} {more : List UInt8} (hread : mem.read current n = m.bytes ++ more) (hnull : current ≠ 0)
    (hend : current.toNat + n ≤ controlEnd.toNat) (htop : controlEnd.toNat + 16 < 2 ^ 64) :
    m.StandsAt mem controlEnd current := by
  have hn : n = m.len + more.length := by simpa using congrArg List.length hread
  rw [Cmsg.bytes, List.append_assoc, List.append_assoc, List.append_assoc] at hread
  obtain ⟨hlen, hread⟩ := Memory.read_append hread
  obtain ⟨hlevel, hread⟩ := Memory.read_append hread
  obtain ⟨htype, hread⟩ := Memory.read_append hread
  obtain ⟨hdata, -⟩ := Memory.read_append hread
  simp only [length_u64ToLe, length_u32ToLe, UInt64.add_assoc] at hlen hlevel htype hdata
  refine ⟨?_, hdata, hnull, by omega, htop⟩
  have hlevel' : mem.read (current + 8) 4 = u32ToLe m.level := hlevel
  have htype' : mem.read (current + 12) 4 = u32ToLe m.type := htype
  rw [readCmsghdr, hlen, hlevel', htype', u64OfLe_u64ToLe, u32OfLe_u32ToLe, u32OfLe_u32ToLe]
  rfl

namespace Cmsg.StandsAt

theorem len_toNat (h : m.StandsAt mem controlEnd current) : (readCmsghdr mem current).cmsgLen.toNat = m.len := by
  have hinside := h.inside
  have htop := h.top
  rw [h.header, Cmsg.header, UInt64.toNat_ofNat', Nat.mod_eq_of_lt (by omega)]

theorem hasHeader (h : m.StandsAt mem controlEnd current) : HasHeader controlEnd current := by
  have hinside := h.inside
  have hlen : m.len = 16 + m.data.length := rfl
  exact (hasHeader_iff h.top (by omega)).2 ⟨h.notNull, by omega⟩

theorem isOriginalDst (h : m.StandsAt mem controlEnd current) :
    isOriginalDst (readCmsghdr mem current) = decide m.IsOriginalDst := by
  rw [h.header, Bool.eq_iff_iff, decide_eq_true_iff]
  simp [OrigDst.isOriginalDst, Cmsg.header, Cmsg.IsOriginalDst]

theorem isOriginalDst_false (h : m.StandsAt mem controlEnd current) (hother : ¬m.IsOriginalDst) :
    OrigDst.isOriginalDst (readCmsghdr mem current) = false := h.isOriginalDst.trans (decide_eq_false hother)

/-- the data that are read as an address -/
theorem readSockaddrIn (h : m.StandsAt mem controlEnd current) (hlong : 16 ≤ m.data.length) :
    socketAddrFromSockaddrIn (readSockaddrIn mem (current + 16)) =
      .v4 ⟨m.data.getD 4 0, m.data.getD 5 0, m.data.getD 6 0, m.data.getD 7 0⟩
        (u16OfBe [m.data.getD 2 0, m.data.getD 3 0]) := by
  have hpart : ∀ i k, i + k ≤ m.data.length →
      mem.read (current + 16 + UInt64.ofNat i) k = (List.range k).map fun j => m.data.getD (i + j) 0 := by
    intro i k hle
    rw [Memory.read_part mem _ hle, h.data, take_drop_eq_map hle]
  have hport : mem.read (current + 16 + 2) 2 = [m.data.getD 2 0, m.data.getD 3 0] := hpart 2 2 (by omega)
  have haddr : mem.read (current + 16 + 4) 4 = [m.data.getD 4 0, m.data.getD 5 0, m.data.getD 6 0, m.data.getD 7 0] :=
    hpart 4 4 (by omega)
  rw [socketAddrFromSockaddrIn, OrigDst.readSockaddrIn, hport, haddr, u16FromBe_u16OfLe rfl, u32FromBe_u32OfLe rfl,
    ipv4OfU32_u32OfBe, SocketAddr.new]

theorem originalDstAt (h : m.StandsAt mem controlEnd current) :
    originalDstAt mem current (readCmsghdr mem current) = m.originalDst := by
  have hlen : m.len = 16 + m.data.length := rfl
  have hheader : sizeOfCmsghdr ≤ (readCmsghdr mem current).cmsgLen := by
    rw [UInt64.le_iff_toNat_le, h.len_toNat, hlen]
    exact Nat.le_add_right 16 _
  have hdata : (saturatingSub (readCmsghdr mem current).cmsgLen sizeOfCmsghdr).toNat = m.data.length := by
    rw [saturatingSub, if_pos hheader, UInt64.toNat_sub_of_le _ _ hheader, h.len_toNat, hlen]
    exact Nat.add_sub_cancel_left 16 _
  have hshort : saturatingSub (readCmsghdr mem current).cmsgLen sizeOfCmsghdr < sizeOfSockaddrIn ↔ m.data.length < 16 := by
    rw [UInt64.lt_iff_toNat_lt, hdata]
    rfl
  unfold OrigDst.originalDstAt Cmsg.originalDst
  by_cases hlt : m.data.length < 16
  · rw [if_pos (hshort.2 hlt), if_pos hlt]
  · have halign : cmsgAlign sizeOfCmsghdr = 16 := by decide
    rw [if_neg (mt hshort.1 hlt), if_neg hlt, halign, h.readSockaddrIn (Nat.not_lt.1 hlt)]

/-- the step over a message does not wrap -/
theorem nextHeader_toNat (h : m.StandsAt mem controlEnd current) :
    (nextHeader current (readCmsghdr mem current)).toNat = current.toNat + m.paddedLen := by
  have hinside := h.inside
  have htop := h.top
  have hstep := cmsgAlign_toNat (readCmsghdr mem current).cmsgLen
  rw [h.len_toNat, Nat.mod_eq_of_lt (by omega)] at hstep
  rw [nextHeader, UInt64.toNat_add, hstep, Cmsg.paddedLen, Nat.mod_eq_of_lt (by omega)]

end Cmsg.StandsAt

/-! ## The walk over an area of messages -/

/-- the message at a header ends within the area -/
def FitsAt (mem : Memory) (controlEnd current : UInt64) : Prop :=
  current.toNat + (readCmsghdr mem current).cmsgLen.toNat ≤ controlEnd.toNat

/-- from an address on, the walk finds what there is in these messages, and reads headers of messages that fit -/
structure FindsIn (mem : Memory) (controlEnd current : UInt64) (messages : List Cmsg) : Prop where
  result : parseFrom mem controlEnd current = firstOriginalDst messages
  fits : ∀ c ∈ (controlWalk mem controlEnd).visited (headerAt controlEnd current), FitsAt mem controlEnd c

variable {messages : List Cmsg}

theorem findsIn_nil (hend : current = controlEnd) (htop : controlEnd.toNat + 16 < 2 ^ 64) :
    FindsIn mem controlEnd current [] := by
  have hnone : ¬HasHeader controlEnd current := by
    rw [hasHeader_iff htop (by rw [hend]), hend]
    omega
  constructor
  · exact parseFrom_end hnone
  · rw [headerAt, if_neg hnone, Walk.visited_none]
    exact List.forall_mem_nil _

namespace Cmsg.StandsAt

/-- the headers from this one on fit, if those after it do -/
theorem fits (h : m.StandsAt mem controlEnd current)
    (hafter : ∀ c ∈ (controlWalk mem controlEnd).visited (headerAfter mem controlEnd current), FitsAt mem controlEnd c) :
    ∀ c ∈ (controlWalk mem controlEnd).visited (headerAt controlEnd current), FitsAt mem controlEnd c := by
  intro c hc
  rw [headerAt, if_pos h.hasHeader, Walk.visited_some] at hc
  rcases List.mem_cons.1 hc with rfl | hc
  · rw [FitsAt, h.len_toNat]
    exact h.inside
  · exact hafter c hc

theorem findsIn_found (h : m.StandsAt mem controlEnd current) (hfound : m.IsOriginalDst) :
    FindsIn mem controlEnd current (m :: messages) := by
  have hmatch : OrigDst.isOriginalDst (readCmsghdr mem current) = true := h.isOriginalDst.trans (decide_eq_true hfound)
  constructor
  · rw [parseFrom_found h.hasHeader hmatch, h.originalDstAt, firstOriginalDst_of_first hfound]
  · refine h.fits ?_
    rw [headerAfter, if_pos hmatch, Walk.visited_none]
    exact List.forall_mem_nil _

/-- the padding of the last message may be cut off: the step leads out of the area, and the loop ends -/
theorem findsIn_last (h : m.StandsAt mem controlEnd current) (hother : ¬m.IsOriginalDst)
    (hout : controlEnd.toNat < current.toNat + m.paddedLen) : FindsIn mem controlEnd current [m] := by
  have hmatch := h.isOriginalDst_false hother
  have hstuck : nextHeader current (readCmsghdr mem current) ≤ current ∨
      controlEnd < nextHeader current (readCmsghdr mem current) := by
    right
    rwa [UInt64.lt_iff_toNat_lt, h.nextHeader_toNat]
  constructor
  · rw [parseFrom_stuck h.hasHeader hmatch hstuck, firstOriginalDst_of_other hother]
    rfl
  · refine h.fits ?_
    rw [headerAfter, if_neg (by rw [hmatch]; decide), if_pos hstuck, Walk.visited_none]
    exact List.forall_mem_nil _

theorem findsIn_cons (h : m.StandsAt mem controlEnd current) (hother : ¬m.IsOriginalDst)
    (hin : current.toNat + m.paddedLen ≤ controlEnd.toNat)
    (hrest : FindsIn mem controlEnd (nextHeader current (readCmsghdr mem current)) messages) :
    FindsIn mem controlEnd current (m :: messages) := by
  have hmatch := h.isOriginalDst_false hother
  have hup : current < nextHeader current (readCmsghdr mem current) := by
    have hlen : m.len = 16 + m.data.length := rfl
    have hpadded : m.paddedLen = (m.len + 7) / 8 * 8 := rfl
    rw [UInt64.lt_iff_toNat_lt, h.nextHeader_toNat]
    omega
  have hle : nextHeader current (readCmsghdr mem current) ≤ controlEnd := by
    rwa [UInt64.le_iff_toNat_le, h.nextHeader_toNat]
  constructor
  · rw [parseFrom_next h.hasHeader hmatch hup hle, hrest.result, firstOriginalDst_of_other hother]
  · refine h.fits ?_
    rw [headerAfter, if_neg (by rw [hmatch]; decide),
      if_neg (not_or.2 ⟨UInt64.not_le.2 hup, UInt64.not_lt.2 hle⟩)]
    exact hrest.fits

end Cmsg.StandsAt

/-- **An area of messages:** the first one of the right level and type is found, wherever the area lies. -/
theorem walk_of_area {bytes : List UInt8} (harea : ControlArea bytes messages) (hread : mem.read current bytes.length = bytes)
    (hnull : current ≠ 0) (hend : current.toNat + bytes.length = controlEnd.toNat)
    (htop : controlEnd.toNat + 16 < 2 ^ 64) : FindsIn mem controlEnd current messages := by
  induction harea generalizing current with
  | nil => exact findsIn_nil (UInt64.toNat_inj.1 hend) htop
  | last m pad hpad =>
    have h := Cmsg.standsAt hread hnull hend.le htop
    by_cases hfound : m.IsOriginalDst
    · exact h.findsIn_found hfound
    · refine h.findsIn_last hfound ?_
      rw [List.length_append, Cmsg.length_bytes] at hend
      omega
  | cons m pad hpad hrest ih =>
    have h := Cmsg.standsAt hread hnull hend.le htop
    by_cases hfound : m.IsOriginalDst
    · exact h.findsIn_found hfound
    have hpast : (m.bytes ++ pad).length = m.paddedLen := by rw [List.length_append, Cmsg.length_bytes, hpad]
    have hlen : m.len = 16 + m.data.length := rfl
    rw [← List.append_assoc] at hread hend
    rw [List.length_append, hpast] at hend
    -- what is left begins where the step leads
    obtain ⟨-, hrestRead⟩ := Memory.read_append hread
    have hnext : current + UInt64.ofNat (m.bytes ++ pad).length = nextHeader current (readCmsghdr mem current) := by
      rw [hpast, ← UInt64.toNat_inj, h.nextHeader_toNat, UInt64.toNat_add, UInt64.toNat_ofNat']
      omega
    rw [hnext] at hrestRead
    have hnextNat := h.nextHeader_toNat
    refine h.findsIn_cons hfound (by omega) (ih hrestRead ?_ (by omega))
    intro hzero
    rw [hzero, UInt64.toNat_zero] at hnextNat
    omega

/-! ## The walk over any area -/

variable {message : Msghdr}

/-- the address is read inside too, where the message that holds it fits -/
theorem inside_of_fits (h : Placed message) (hfits : ∀ c ∈ headers mem message, FitsAt mem message.areaEnd c) :
    ∀ r ∈ reads mem message, r.Inside message := by
  intro r hr
  obtain ⟨c, hc, hr⟩ := List.mem_flatMap.1 hr
  have hheader := (walk_bounded h mem).2 c hc
  rcases List.mem_cons.1 hr with rfl | hr
  · exact hheader
  split_ifs at hr with hreads
  · obtain rfl := List.mem_singleton.1 hr
    have hlong := hreads.le_cmsgLen
    have hfit : c.toNat + (readCmsghdr mem c).cmsgLen.toNat ≤ message.areaEnd.toNat := hfits c hc
    have htop := h.areaEnd_lt
    have hdata : (c + cmsgAlign sizeOfCmsghdr).toNat = c.toNat + 16 := by
      have halign : (cmsgAlign sizeOfCmsghdr).toNat = 16 := by decide
      rw [UInt64.toNat_add, halign, Nat.mod_eq_of_lt (by omega)]
    rw [h.areaEnd_toNat] at hfit
    constructor
    · show message.msgControl.toNat ≤ (c + cmsgAlign sizeOfCmsghdr).toNat
      rw [hdata]
      exact hheader.1.trans (Nat.le_add_right _ _)
    · show (c + cmsgAlign sizeOfCmsghdr).toNat + 16 ≤ message.msgControl.toNat + message.msgControllen.toNat
      omega
  · cases hr

/-- **The walk is right and ends:** in an area of messages it finds the first one of the right level and type and reads
nothing outside; in any area it reads its headers inside, no more of them than words. -/
theorem control_walk_correct (mem : Memory) (message : Msghdr) (h : Placed message) :
    (∀ messages, ControlArea (mem.read message.msgControl message.msgControllen.toNat) messages →
      parseOriginalDstFromMsghdr mem message = firstOriginalDst messages ∧
      (parseOriginalDstFromMsghdr mem message = .error missing ↔ ∀ m ∈ messages, ¬m.IsOriginalDst) ∧
      ∀ r ∈ reads mem message, r.Inside message) ∧
    (headers mem message).length ≤ message.msgControllen.toNat / 8 ∧
    (∀ current ∈ headers mem message, Read.Inside ⟨current, 16⟩ message) ∧
    ∀ mem', SameReads mem mem' message → headers mem' message = headers mem message ∧
      parseOriginalDstFromMsghdr mem' message = parseOriginalDstFromMsghdr mem message := by
  obtain ⟨hmany, hinside⟩ := walk_bounded h mem
  refine ⟨fun messages harea => ?_, hmany, hinside, fun mem' hsame => parse_congr hsame⟩
  have hlen := mem.length_read message.msgControl message.msgControllen.toNat
  have hfinds : FindsIn mem message.areaEnd message.msgControl messages :=
    walk_of_area harea (by rw [hlen]) h.notNull (by rw [hlen, h.areaEnd_toNat]) h.areaEnd_lt
  have hresult : parseOriginalDstFromMsghdr mem message = firstOriginalDst messages := hfinds.result
  exact ⟨hresult, hresult ▸ missing_iff messages, inside_of_fits h hfinds.fits⟩

/-- a message of another level -/
def exampleOther : Cmsg := ⟨1, 2, [1, 2, 3]⟩

/-- 192.0.2.7:8080 -/
def exampleOriginalDst : Cmsg := ⟨0, 20, [2, 0, 0x1f, 0x90, 192, 0, 2, 7, 0, 0, 0, 0, 0, 0, 0, 0]⟩

/-- the time to live of the packet -/
def exampleTtl : Cmsg := ⟨0, 2, [64, 0, 0, 0]⟩

/-- the last message is not padded -/
def exampleArea : List UInt8 :=
  exampleOther.bytes ++ ([0, 0, 0, 0, 0] ++ (exampleOriginalDst.bytes ++ ([] ++ (exampleTtl.bytes ++ []))))

def exampleMemory : Memory := fun addr => exampleArea.getD (addr.toNat - 4096) 0

theorem control_walk_correct_example :
    parseOriginalDstFromMsghdr exampleMemory ⟨4096, 76⟩ = .ok (.v4 ⟨192, 0, 2, 7⟩ 8080) := by
  have harea : ControlArea exampleArea [exampleOther, exampleOriginalDst, exampleTtl] :=
    .cons _ [0, 0, 0, 0, 0] (by decide) (.cons _ [] (by decide) (.last _ [] (by decide)))
  have hread : exampleMemory.read 4096 76 = exampleArea := by decide +kernel
  have hwalk := control_walk_correct exampleMemory ⟨4096, 76⟩
    (placed_of_buffer (by decide) (by decide) (by decide))
  exact (hwalk.1 _ (hread ▸ harea)).1

end N0wss.OrigDst
