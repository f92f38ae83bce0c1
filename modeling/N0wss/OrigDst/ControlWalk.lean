/-
The walk over the control messages (`parse_original_dst_from_msghdr` in `udp_origdst/linux.rs`): what it finds, what it
reads, and when it ends. Pointers and lengths have 64 bits and wrap; the lengths are whatever the memory says.

The premise of the last result is where the area lies (`Placed`). It is not at the null address, and it ends more than a
header below the top of the address space: the caller's buffer is an allocation of a process, and the kernel keeps the
upper half to itself.

- `parseFrom_eq_find`: the result is that of the first header visited that has the right level and type.
- `parse_congr`: nothing but `reads` is read.
- `placed_of_buffer`: the caller's buffer lies so.
- `walk_bounded`: in any area, few headers are visited, all of them inside.
-/
import N0wss.Core.Walk
import N0wss.OrigDst.ControlMessages

namespace N0wss.OrigDst

open Bytes Net

/-! ## Headers and reads -/

def headerAt (controlEnd current : UInt64) : Option UInt64 := if HasHeader controlEnd current then some current else none

/-- the next header that the loop reads, if it does not end at this one or after it -/
def headerAfter (mem : Memory) (controlEnd current : UInt64) : Option UInt64 :=
  if isOriginalDst (readCmsghdr mem current) then none
  else if nextHeader current (readCmsghdr mem current) ≤ current ∨
      controlEnd < nextHeader current (readCmsghdr mem current) then none
  else headerAt controlEnd (nextHeader current (readCmsghdr mem current))

variable {mem mem' : Memory} {controlEnd current next : UInt64} {message : Msghdr}

theorem headerAt_eq_some : headerAt controlEnd current = some next ↔ HasHeader controlEnd current ∧ current = next := by
  unfold headerAt
  split_ifs with h
  · simp [h]
  · simp [h]

/-- the loop goes on to a higher address within the area, where there is room for a header -/
theorem headerAfter_eq_some : headerAfter mem controlEnd current = some next ↔
    isOriginalDst (readCmsghdr mem current) = false ∧ nextHeader current (readCmsghdr mem current) = next ∧
      current < next ∧ next ≤ controlEnd ∧ HasHeader controlEnd next := by
  unfold headerAfter
  cases hfound : isOriginalDst (readCmsghdr mem current) with
  | true => simp
  | false =>
    simp only [Bool.false_eq_true, if_false, true_and]
    split_ifs with hstuck
    · refine iff_of_false nofun ?_
      rintro ⟨rfl, hup, hin, -⟩
      exact hstuck.elim (UInt64.not_le.2 hup) (UInt64.not_lt.2 hin)
    · obtain ⟨hup, hin⟩ := not_or.1 hstuck
      rw [headerAt_eq_some]
      constructor
      · rintro ⟨hheader, rfl⟩
        exact ⟨rfl, UInt64.not_le.1 hup, UInt64.not_lt.1 hin, hheader⟩
      · rintro ⟨rfl, -, -, hheader⟩
        exact ⟨hheader, rfl⟩

/-- the loop, from one header that it reads to the next -/
def controlWalk (mem : Memory) (controlEnd : UInt64) : Walk UInt64 where
  next := headerAfter mem controlEnd
  rank current := controlEnd.toNat - current.toNat
  falls h := by
    obtain ⟨-, -, hup, hin, -⟩ := headerAfter_eq_some.1 h
    have hlt := UInt64.lt_iff_toNat_lt.1 hup
    have hle := UInt64.le_iff_toNat_le.1 hin
    omega

/-- the end of the area -/
def Msghdr.areaEnd (message : Msghdr) : UInt64 := message.msgControl + message.msgControllen

/-- the addresses of the headers that the loop reads, one in each turn -/
def headers (mem : Memory) (message : Msghdr) : List UInt64 :=
  (controlWalk mem message.areaEnd).visited (headerAt message.areaEnd message.msgControl)

/-- below the top, the test for a header does not wrap -/
theorem hasHeader_iff (htop : controlEnd.toNat + 16 < 2 ^ 64) (hle : current.toNat ≤ controlEnd.toNat) :
    HasHeader controlEnd current ↔ current ≠ 0 ∧ current.toNat + 16 ≤ controlEnd.toNat := by
  have hsize : sizeOfCmsghdr.toNat = 16 := rfl
  rw [HasHeader, UInt64.le_iff_toNat_le, UInt64.toNat_add, hsize, Nat.mod_eq_of_lt (by omega)]

structure Read where
  addr : UInt64
  len : ℕ
deriving DecidableEq, Repr

/-- the data of this message are read as an address -/
def ReadsSockaddr (header : Cmsghdr) : Prop :=
  isOriginalDst header = true ∧ ¬saturatingSub header.cmsgLen sizeOfCmsghdr < sizeOfSockaddrIn

instance (header : Cmsghdr) : Decidable (ReadsSockaddr header) := inferInstanceAs (Decidable (_ ∧ _))

theorem ReadsSockaddr.le_cmsgLen {header : Cmsghdr} (h : ReadsSockaddr header) : 32 ≤ header.cmsgLen.toNat := by
  have hdata : 16 ≤ (saturatingSub header.cmsgLen sizeOfCmsghdr).toNat := UInt64.le_iff_toNat_le.1 (UInt64.not_lt.1 h.2)
  by_cases hheader : sizeOfCmsghdr ≤ header.cmsgLen
  · have hsize : sizeOfCmsghdr.toNat = 16 := rfl
    rw [saturatingSub, if_pos hheader, UInt64.toNat_sub_of_le _ _ hheader, hsize] at hdata
    omega
  · rw [saturatingSub, if_neg hheader, UInt64.toNat_zero] at hdata
    omega

/-- what one turn of the loop reads: the header, and the address if it is the one -/
def readsAt (mem : Memory) (current : UInt64) : List Read :=
  ⟨current, 16⟩ ::
    if ReadsSockaddr (readCmsghdr mem current) then [⟨current + cmsgAlign sizeOfCmsghdr, 16⟩] else []

def reads (mem : Memory) (message : Msghdr) : List Read := (headers mem message).flatMap (readsAt mem)

/-! ## One turn -/

/-- how a turn of the loop ends -/
inductive TurnOutcome (mem : Memory) (controlEnd current : UInt64) : Prop
  | found (hfound : isOriginalDst (readCmsghdr mem current) = true)
      (hresult : parseFrom mem controlEnd current = originalDstAt mem current (readCmsghdr mem current))
      (hafter : headerAfter mem controlEnd current = none)
  | ended (hother : isOriginalDst (readCmsghdr mem current) = false)
      (hresult : parseFrom mem controlEnd current = .error missing) (hafter : headerAfter mem controlEnd current = none)
  | goesOn (next : UInt64) (hother : isOriginalDst (readCmsghdr mem current) = false)
      (hresult : parseFrom mem controlEnd current = parseFrom mem controlEnd next)
      (hafter : headerAfter mem controlEnd current = some next)

theorem turn_outcome (h : HasHeader controlEnd current) : TurnOutcome mem controlEnd current := by
  cases hfound : isOriginalDst (readCmsghdr mem current) with
  | true => exact .found hfound (parseFrom_found h hfound) (by rw [headerAfter, hfound, if_pos rfl])
  | false =>
    cases hafter : headerAfter mem controlEnd current with
    | some next =>
      obtain ⟨-, rfl, hup, hin, -⟩ := headerAfter_eq_some.1 hafter
      exact .goesOn _ hfound (parseFrom_next h hfound hup hin) hafter
    | none =>
      refine .ended hfound ?_ hafter
      by_cases hstuck : nextHeader current (readCmsghdr mem current) ≤ current ∨
          controlEnd < nextHeader current (readCmsghdr mem current)
      · exact parseFrom_stuck h hfound hstuck
      obtain ⟨hup, hin⟩ := not_or.1 hstuck
      have hup := UInt64.not_le.1 hup
      have hin := UInt64.not_lt.1 hin
      rw [parseFrom_next h hfound hup hin]
      apply parseFrom_end
      intro hheader
      rw [headerAfter_eq_some.2 ⟨hfound, rfl, hup, hin, hheader⟩] at hafter
      cases hafter

/-- what the loop makes of the header where it ends -/
def resultOf (mem : Memory) : Option UInt64 → Except UdpOrigDstError SocketAddr
  | some found => originalDstAt mem found (readCmsghdr mem found)
  | none => .error missing

def isOriginalDstAt (mem : Memory) (current : UInt64) : Bool := isOriginalDst (readCmsghdr mem current)

/-- **The result is that of the first header** with the right level and type, among those that are visited. -/
theorem parseFrom_eq_find (mem : Memory) (controlEnd current : UInt64) : parseFrom mem controlEnd current =
    resultOf mem (((controlWalk mem controlEnd).visited (headerAt controlEnd current)).find? (isOriginalDstAt mem)) := by
  have hfrom : ∀ current, HasHeader controlEnd current → parseFrom mem controlEnd current =
      resultOf mem (((controlWalk mem controlEnd).visited (some current)).find? (isOriginalDstAt mem)) := by
    intro current
    induction current using (controlWalk mem controlEnd).induction with
    | h current ih =>
      intro hheader
      rw [Walk.visited_some]
      cases turn_outcome hheader with
      | found hfound hresult hafter =>
        rw [List.find?_cons_of_pos (show isOriginalDstAt mem current = true from hfound)]
        exact hresult
      | ended hother hresult hafter =>
        have hnext : (controlWalk mem controlEnd).next current = none := hafter
        rw [hnext, List.find?_cons_of_neg (by rw [isOriginalDstAt, hother]; decide)]
        exact hresult
      | goesOn next hother hresult hafter =>
        have hnext : (controlWalk mem controlEnd).next current = some next := hafter
        obtain ⟨-, -, -, -, hheader'⟩ := headerAfter_eq_some.1 hafter
        rw [hnext, List.find?_cons_of_neg (by rw [isOriginalDstAt, hother]; decide), hresult]
        exact ih next hnext hheader'
  by_cases hheader : HasHeader controlEnd current
  · rw [headerAt_eq_some.2 ⟨hheader, rfl⟩]
    exact hfrom current hheader
  · rw [headerAt, if_neg hheader, parseFrom_end hheader]
    rfl

/-! ## Nothing else is read -/

/-- equal reads have equal parts -/
theorem read_part_congr {n : ℕ} (h : mem'.read current n = mem.read current n) (i k : ℕ) (hle : i + k ≤ n) :
    mem'.read (current + UInt64.ofNat i) k = mem.read (current + UInt64.ofNat i) k := by
  rw [Memory.read_part mem' current hle, Memory.read_part mem current hle, h]

theorem readCmsghdr_congr (h : mem'.read current 16 = mem.read current 16) :
    readCmsghdr mem' current = readCmsghdr mem current := by
  have hlen : mem'.read current 8 = mem.read current 8 := by simpa using read_part_congr h 0 8 (by decide)
  have hlevel : mem'.read (current + 8) 4 = mem.read (current + 8) 4 := read_part_congr h 8 4 (by decide)
  have htype : mem'.read (current + 12) 4 = mem.read (current + 12) 4 := read_part_congr h 12 4 (by decide)
  rw [readCmsghdr, readCmsghdr, hlen, hlevel, htype]

theorem readSockaddrIn_congr (h : mem'.read current 16 = mem.read current 16) :
    readSockaddrIn mem' current = readSockaddrIn mem current := by
  have hfamily : mem'.read current 2 = mem.read current 2 := by simpa using read_part_congr h 0 2 (by decide)
  have hport : mem'.read (current + 2) 2 = mem.read (current + 2) 2 := read_part_congr h 2 2 (by decide)
  have haddr : mem'.read (current + 4) 4 = mem.read (current + 4) 4 := read_part_congr h 4 4 (by decide)
  rw [readSockaddrIn, readSockaddrIn, hfamily, hport, haddr]

/-- two memories hold the same bytes where the walk reads -/
def SameReads (mem mem' : Memory) (message : Msghdr) : Prop :=
  ∀ r ∈ reads mem message, mem'.read r.addr r.len = mem.read r.addr r.len

theorem readCmsghdr_of_sameReads (h : SameReads mem mem' message) (hmem : current ∈ headers mem message) :
    readCmsghdr mem' current = readCmsghdr mem current :=
  readCmsghdr_congr (h ⟨current, 16⟩ (List.mem_flatMap.2 ⟨current, hmem, List.mem_cons_self⟩))

theorem headers_congr (h : SameReads mem mem' message) : headers mem' message = headers mem message := by
  refine Walk.visited_congr fun current hmem => ?_
  show headerAfter mem' message.areaEnd current = headerAfter mem message.areaEnd current
  rw [headerAfter, headerAfter, readCmsghdr_of_sameReads h hmem]

theorem originalDstAt_of_sameReads (h : SameReads mem mem' message) (hmem : current ∈ headers mem message)
    (hfound : isOriginalDst (readCmsghdr mem current) = true) :
    originalDstAt mem' current (readCmsghdr mem' current) = originalDstAt mem current (readCmsghdr mem current) := by
  rw [readCmsghdr_of_sameReads h hmem]
  unfold originalDstAt
  split_ifs with hshort
  · rfl
  · have hread : ⟨current + cmsgAlign sizeOfCmsghdr, 16⟩ ∈ reads mem message := by
      refine List.mem_flatMap.2 ⟨current, hmem, List.mem_cons_of_mem _ ?_⟩
      rw [if_pos (show ReadsSockaddr (readCmsghdr mem current) from ⟨hfound, hshort⟩)]
      exact List.mem_singleton_self _
    rw [readSockaddrIn_congr (h _ hread)]

/-- **Nothing else is read:** a memory with the same bytes there gives the same headers and the same result. -/
theorem parse_congr (h : SameReads mem mem' message) : headers mem' message = headers mem message ∧
    parseOriginalDstFromMsghdr mem' message = parseOriginalDstFromMsghdr mem message := by
  have hheaders := headers_congr h
  refine ⟨hheaders, ?_⟩
  have hsame : ∀ current ∈ headers mem message, isOriginalDstAt mem' current = isOriginalDstAt mem current :=
    fun current hmem => congrArg isOriginalDst (readCmsghdr_of_sameReads h hmem)
  have hfind : (headers mem' message).find? (isOriginalDstAt mem') = (headers mem message).find? (isOriginalDstAt mem) := by
    rw [hheaders]
    exact List.find?_congr hsame
  calc parseOriginalDstFromMsghdr mem' message
      = resultOf mem' ((headers mem' message).find? (isOriginalDstAt mem')) := parseFrom_eq_find mem' _ _
    _ = resultOf mem' ((headers mem message).find? (isOriginalDstAt mem)) := by rw [hfind]
    _ = resultOf mem ((headers mem message).find? (isOriginalDstAt mem)) := by
        cases hfound : (headers mem message).find? (isOriginalDstAt mem) with
        | none => rfl
        | some current =>
          have hmatch : isOriginalDstAt mem current = true := List.find?_some hfound
          exact originalDstAt_of_sameReads h (List.mem_of_find?_eq_some hfound) hmatch
    _ = parseOriginalDstFromMsghdr mem message := (parseFrom_eq_find mem _ _).symm

/-! ## Any area -/

/-- where the area of a process lies: not at the null address, and more than a header below the top of the address space;
nearer to it `current + 16` would wrap to a small address, and that is below any end -/
structure Placed (message : Msghdr) : Prop where
  notNull : message.msgControl ≠ 0
  belowTop : message.msgControl.toNat + message.msgControllen.toNat + 16 < 2 ^ 64

def defaultOrigdstControlLen : UInt64 := 128

/-- the caller's buffer is an allocation in the lower half of the addresses, and `recvmsg` leaves no more than it holds -/
theorem placed_of_buffer (hbuffer : message.msgControl ≠ 0)
    (huser : message.msgControl.toNat + defaultOrigdstControlLen.toNat ≤ 2 ^ 63)
    (hleft : message.msgControllen ≤ defaultOrigdstControlLen) : Placed message := by
  have hlen := UInt64.le_iff_toNat_le.1 hleft
  exact ⟨hbuffer, by omega⟩

def Read.Inside (r : Read) (message : Msghdr) : Prop :=
  message.msgControl.toNat ≤ r.addr.toNat ∧
    r.addr.toNat + r.len ≤ message.msgControl.toNat + message.msgControllen.toNat

theorem Placed.areaEnd_toNat (h : Placed message) :
    message.areaEnd.toNat = message.msgControl.toNat + message.msgControllen.toNat := by
  have hroom := h.belowTop
  rw [Msghdr.areaEnd, UInt64.toNat_add, Nat.mod_eq_of_lt (by omega)]

theorem Placed.areaEnd_lt (h : Placed message) : message.areaEnd.toNat + 16 < 2 ^ 64 := h.areaEnd_toNat ▸ h.belowTop

/-- a step is a multiple of 8 bytes, whatever the length says and however it wraps -/
theorem nextHeader_wide {header : Cmsghdr} (hup : current < nextHeader current header) :
    current.toNat + 8 ≤ (nextHeader current header).toNat := by
  have hlt := UInt64.lt_iff_toNat_lt.1 hup
  have hstep := cmsgAlign_toNat header.cmsgLen
  have hcurrent := current.toNat_lt
  rw [nextHeader, UInt64.toNat_add] at hlt ⊢
  omega

/-- what the walk keeps: there is a header's room at every address visited -/
def RoomAt (message : Msghdr) (current : UInt64) : Prop :=
  message.msgControl.toNat ≤ current.toNat ∧ current.toNat + 16 ≤ message.areaEnd.toNat

theorem roomAt_start (h : Placed message) (hstart : headerAt message.areaEnd message.msgControl = some current) :
    RoomAt message current := by
  obtain ⟨hheader, rfl⟩ := headerAt_eq_some.1 hstart
  have hend := h.areaEnd_toNat
  exact ⟨le_rfl, ((hasHeader_iff h.areaEnd_lt (by omega)).1 hheader).2⟩

theorem roomAt_step (h : Placed message) (hroom : RoomAt message current)
    (hnext : headerAfter mem message.areaEnd current = some next) :
    RoomAt message next ∧ current.toNat + 8 ≤ next.toNat := by
  obtain ⟨-, rfl, hup, hin, hheader⟩ := headerAfter_eq_some.1 hnext
  have hwide := nextHeader_wide hup
  have hbase := hroom.1
  exact ⟨⟨by omega, ((hasHeader_iff h.areaEnd_lt (UInt64.le_iff_toNat_le.1 hin)).1 hheader).2⟩, hwide⟩

theorem roomAt_of_mem (h : Placed message) (hmem : current ∈ headers mem message) : RoomAt message current :=
  Walk.forall_mem_visited (fun _ _ hroom hnext => (roomAt_step h hroom hnext).1)
    (fun _ hstart => roomAt_start h hstart) current hmem

/-- **Any area:** every header is read inside, and there are no more of them than words. -/
theorem walk_bounded (h : Placed message) (mem : Memory) :
    (headers mem message).length ≤ message.msgControllen.toNat / 8 ∧
      ∀ current ∈ headers mem message, Read.Inside ⟨current, 16⟩ message := by
  have hend := h.areaEnd_toNat
  constructor
  · cases hstart : headerAt message.areaEnd message.msgControl with
    | none =>
      rw [headers, hstart, Walk.visited_none]
      exact Nat.zero_le _
    | some first =>
      have hfirst := roomAt_start h hstart
      have hmany : first.toNat + (headers mem message).length * 8 ≤ message.areaEnd.toNat := by
        rw [headers, hstart]
        refine Walk.length_visited_mul_le (fun _ _ hroom hnext => (roomAt_step h hroom hnext).1) ?_
          (fun _ _ hroom hnext => (roomAt_step h hroom hnext).2) hfirst
        intro current hroom
        exact (Nat.add_le_add_left (by decide) _).trans hroom.2
      have hbase := hfirst.1
      omega
  · intro current hmem
    obtain ⟨hbase, hroom⟩ := roomAt_of_mem h hmem
    exact ⟨hbase, hend ▸ hroom⟩

end N0wss.OrigDst
