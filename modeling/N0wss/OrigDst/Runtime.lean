/-
Intercepted datagrams (`udp_origdst`): `recv_recovered_ipv4_datagram` on one packet, and `forward_recovered_datagram` with
what it recovered.

The kernel is an input: for a buffer of some length, what `recvmsg` leaves behind. `ReceivesDatagram` says what it leaves of
a datagram. The handoff is an input too. The buffer is allocated anew for every packet, with the length the configuration
asks for; a length past `isize::MAX` panics.

- `recv_eq_ok`: what is recovered, and when.
- `handed_whole_iff`: a datagram that is longer than the buffer is handed off cut off, and nothing says so.
- `truncated_datagram_handed_off`: two bytes arrive with a capacity of one.
-/
import N0wss.Config.Load
import N0wss.Core.Checked
import N0wss.Core.Stages
import N0wss.Datagram.Contract
import N0wss.OrigDst.ControlMessages

namespace N0wss.OrigDst

open Bytes Checked Config Datagram Net Stages

/-! ## Receiving -/

inductive ErrorKind where
  | wouldBlock
  | timedOut
  | other
deriving DecidableEq, Repr

def msgCtrunc : UInt32 := 0x08

def msgTrunc : UInt32 := 0x20

def afInet : UInt16 := 2

/-- what a successful `recvmsg` leaves: its result, the payload's buffer, its flags, the source's address, the control
area -/
structure Received where
  received : ℕ
  buffer : List UInt8
  msgFlags : UInt32
  msgName : List UInt8
  msgNamelen : UInt32
  control : Msghdr
  memory : Memory

/-- `recvmsg`, for a buffer of this length -/
abbrev Recvmsg := UInt64 → Except (ErrorKind × String) Received

structure RecoveredUdpTuple where
  clientSourceAddr : SocketAddr
  helperListenerAddr : SocketAddr
  originalTarget : DatagramTarget
  payloadLen : ℕ
deriving DecidableEq, Repr

structure LinuxRecoveredDatagram where
  tuple : RecoveredUdpTuple
  payload : List UInt8
deriving DecidableEq, Repr

/-- a `sockaddr_in` at the start of some bytes -/
def sockaddrInOf (bs : List UInt8) : SockaddrIn :=
  ⟨u16OfLe (bs.take 2), u16OfLe ((bs.drop 2).take 2), u32OfLe ((bs.drop 4).take 4)⟩

def socketAddrFromStorage (storage : List UInt8) (nameLen : UInt32) : Except UdpOrigDstError SocketAddr :=
  if 16 ≤ nameLen ∧ u16OfLe (storage.take 2) = afInet then .ok (socketAddrFromSockaddrIn (sockaddrInOf storage))
  else .error (.recoveryFailed "unsupported Linux UDP source address family")

def receiveError : ErrorKind × String → UdpOrigDstError
  | (.wouldBlock, _) | (.timedOut, _) => .receiveWouldBlock
  | (.other, detail) => .recoveryFailed detail

/-- what is made of what `recvmsg` left -/
def recoverDatagram (helperListenerAddr : SocketAddr) (message : Received) :
    Except UdpOrigDstError LinuxRecoveredDatagram :=
  if message.msgFlags &&& msgCtrunc ≠ 0 then
    .error (.recoveryFailed "linux original-destination control buffer truncated")
  else do
    let payloadLen := message.received
    let payload := message.buffer.take payloadLen
    let clientSourceAddr ← socketAddrFromStorage message.msgName message.msgNamelen
    let originalTarget ← parseOriginalDstFromMsghdr message.memory message.control
    .ok ⟨⟨clientSourceAddr, helperListenerAddr, .ip originalTarget, payloadLen⟩, payload⟩

def recvRecoveredIpv4Datagram (recvmsg : Recvmsg) (helperListenerAddr : SocketAddr) (payloadCapacity : UInt64) :
    MayPanic UdpOrigDstError LinuxRecoveredDatagram := do
  zeroed payloadCapacity.toNat
  let message ← lift ((recvmsg payloadCapacity).mapError receiveError)
  lift (recoverDatagram helperListenerAddr message)

/-! ## Forwarding -/

/-- `UdpOrigDstGovernedHandoff::forward_recovered_tuple` -/
abbrev Handoff := RecoveredUdpTuple → List UInt8 → Except UdpOrigDstError Unit

/-- what happens to a recovered datagram: what the handoff is called with, if it is, and the result -/
structure Forwarding where
  handedOff : Option (RecoveredUdpTuple × List UInt8)
  result : Except UdpOrigDstError Unit

def forwardRecoveredDatagram (handoff : Handoff) (tuple : RecoveredUdpTuple) (payload : List UInt8) : Forwarding :=
  if tuple.payloadLen ≠ payload.length then ⟨none, .error (.payloadLengthMismatch tuple.payloadLen payload.length)⟩
  else if maxDatagramPayloadBytes < payload.length then ⟨none, .error .payloadTooLarge⟩
  else ⟨some (tuple, payload), handoff tuple payload⟩

/-- one packet, from the socket to the handoff: `recv_recovered_ipv4_datagram`, then `forward_recovered_datagram` with what
it recovered -/
def receiveAndForward (recvmsg : Recvmsg) (handoff : Handoff) (helperListenerAddr : SocketAddr)
    (payloadCapacity : UInt64) : MayPanic UdpOrigDstError Forwarding := do
  let recovered ← recvRecoveredIpv4Datagram recvmsg helperListenerAddr payloadCapacity
  .ok (forwardRecoveredDatagram handoff recovered.tuple recovered.payload)

/-! ## A datagram -/

/-- what `recvmsg` leaves of a datagram: as much of it as fits, and whether it did -/
structure ReceivesDatagram (recvmsg : Recvmsg) (datagram : List UInt8) : Prop where
  length : ∀ capacity message, recvmsg capacity = .ok message → message.received = min datagram.length capacity.toNat
  bytes : ∀ capacity message, recvmsg capacity = .ok message →
    message.buffer.take message.received = datagram.take capacity.toNat
  truncated : ∀ capacity message, recvmsg capacity = .ok message →
    (message.msgFlags &&& msgTrunc ≠ 0 ↔ capacity.toNat < datagram.length)

/-- the whole datagram is handed off, with its length, or an error is returned -/
def HandedWhole (datagram : List UInt8) : MayPanic UdpOrigDstError Forwarding → Prop
  | .error .panic => False
  | .error (.error _) => True
  | .ok forwarding => (∃ err, forwarding.result = .error err) ∨
      ∃ tuple, forwarding.handedOff = some (tuple, datagram) ∧ tuple.payloadLen = datagram.length

/-- the packet's source and original destination, where they can be recovered -/
def recoveredAddrs (message : Received) : Option (SocketAddr × SocketAddr) :=
  if message.msgFlags &&& msgCtrunc ≠ 0 then none
  else
    match socketAddrFromStorage message.msgName message.msgNamelen,
        parseOriginalDstFromMsghdr message.memory message.control with
    | .ok source, .ok target => some (source, target)
    | _, _ => none

variable {recvmsg : Recvmsg} {handoff : Handoff} {helperListenerAddr : SocketAddr} {payloadCapacity : UInt64}
  {datagram : List UInt8}

theorem recoveredAddrs_eq_some {message : Received} {source target : SocketAddr} :
    recoveredAddrs message = some (source, target) ↔ message.msgFlags &&& msgCtrunc = 0 ∧
      socketAddrFromStorage message.msgName message.msgNamelen = .ok source ∧
      parseOriginalDstFromMsghdr message.memory message.control = .ok target := by
  unfold recoveredAddrs
  by_cases hctrunc : message.msgFlags &&& msgCtrunc = 0
  · rw [if_neg (not_not.2 hctrunc)]
    cases hsource : socketAddrFromStorage message.msgName message.msgNamelen with
    | error err => simp
    | ok source' =>
      cases htarget : parseOriginalDstFromMsghdr message.memory message.control with
      | error err => simp
      | ok target' => simp [hctrunc]
  · rw [if_pos hctrunc]
    simp [hctrunc]

theorem recoverDatagram_eq_ok {message : Received} {recovered : LinuxRecoveredDatagram} :
    recoverDatagram helperListenerAddr message = .ok recovered ↔
      ∃ source target, recoveredAddrs message = some (source, target) ∧
        recovered = ⟨⟨source, helperListenerAddr, .ip target, message.received⟩,
          message.buffer.take message.received⟩ := by
  unfold recoverDatagram
  constructor
  · intro h
    by_cases hctrunc : message.msgFlags &&& msgCtrunc = 0
    · rw [if_neg (not_not.2 hctrunc)] at h
      obtain ⟨source, hsource, h⟩ := bind_eq_ok_iff.1 h
      obtain ⟨target, htarget, hrecovered⟩ := bind_eq_ok_iff.1 h
      exact ⟨source, target, recoveredAddrs_eq_some.2 ⟨hctrunc, hsource, htarget⟩, (Except.ok.inj hrecovered).symm⟩
    · rw [if_pos hctrunc] at h
      cases h
  · rintro ⟨source, target, haddrs, rfl⟩
    obtain ⟨hctrunc, hsource, htarget⟩ := recoveredAddrs_eq_some.1 haddrs
    rw [if_neg (not_not.2 hctrunc), bind_of_ok hsource, bind_of_ok htarget]

/-- **What is recovered:** the packet's addresses, the number that `recvmsg` returned, and that much of the buffer. -/
theorem recv_eq_ok {recovered : LinuxRecoveredDatagram} :
    recvRecoveredIpv4Datagram recvmsg helperListenerAddr payloadCapacity = .ok recovered ↔
      payloadCapacity.toNat ≤ isizeMax ∧ ∃ message source target, recvmsg payloadCapacity = .ok message ∧
        recoveredAddrs message = some (source, target) ∧
        recovered = ⟨⟨source, helperListenerAddr, .ip target, message.received⟩,
          message.buffer.take message.received⟩ := by
  unfold recvRecoveredIpv4Datagram zeroed
  simp only [bind_eq_ok_iff, ensure_eq_ok_iff, lift_eq_ok_iff, mapError_eq_ok_iff, recoverDatagram_eq_ok]
  tauto

/-- nothing but the allocation panics -/
theorem recv_eq_panic_iff :
    recvRecoveredIpv4Datagram recvmsg helperListenerAddr payloadCapacity = .error .panic ↔
      isizeMax < payloadCapacity.toNat := by
  have hrest : (recvRecoveredIpv4Datagram recvmsg helperListenerAddr payloadCapacity ≠ .error .panic) ↔
      payloadCapacity.toNat ≤ isizeMax := by
    unfold recvRecoveredIpv4Datagram zeroed
    rw [ensure_bind_ne_panic_iff, lift_bind_ne_panic_iff]
    exact and_iff_left fun message _ => lift_ne_panic _
  rw [← not_le, ← hrest, not_not]

/-- as much of the datagram as fits, with its length -/
theorem received_of_datagram (h : ReceivesDatagram recvmsg datagram) {message : Received}
    (hmessage : recvmsg payloadCapacity = .ok message) :
    message.buffer.take message.received = datagram.take payloadCapacity.toNat ∧
      message.received = (datagram.take payloadCapacity.toNat).length := by
  refine ⟨h.bytes _ _ hmessage, ?_⟩
  rw [h.length _ _ hmessage, List.length_take, Nat.min_comm]

theorem forwardRecoveredDatagram_of_length {tuple : RecoveredUdpTuple} {payload : List UInt8}
    (hlength : tuple.payloadLen = payload.length) : forwardRecoveredDatagram handoff tuple payload =
      if maxDatagramPayloadBytes < payload.length then ⟨none, .error .payloadTooLarge⟩
      else ⟨some (tuple, payload), handoff tuple payload⟩ := by
  rw [forwardRecoveredDatagram, if_neg (not_not.2 hlength)]

/-- what fits of a recovered datagram is handed off as if it were the whole, unless it is too large -/
theorem receiveAndForward_of_recovered (h : ReceivesDatagram recvmsg datagram)
    (halloc : payloadCapacity.toNat ≤ isizeMax) {message : Received} {source target : SocketAddr}
    (hmessage : recvmsg payloadCapacity = .ok message) (haddrs : recoveredAddrs message = some (source, target)) :
    receiveAndForward recvmsg handoff helperListenerAddr payloadCapacity =
      let payload := datagram.take payloadCapacity.toNat
      let tuple : RecoveredUdpTuple := ⟨source, helperListenerAddr, .ip target, payload.length⟩
      .ok (if maxDatagramPayloadBytes < payload.length then ⟨none, .error .payloadTooLarge⟩
        else ⟨some (tuple, payload), handoff tuple payload⟩) := by
  obtain ⟨hbytes, hlength⟩ := received_of_datagram h hmessage
  have hrecv : recvRecoveredIpv4Datagram recvmsg helperListenerAddr payloadCapacity =
      .ok ⟨⟨source, helperListenerAddr, .ip target, message.received⟩, message.buffer.take message.received⟩ :=
    recv_eq_ok.2 ⟨halloc, message, source, target, hmessage, haddrs, rfl⟩
  rw [receiveAndForward, bind_of_ok hrecv, hbytes, hlength]
  exact congrArg Except.ok (forwardRecoveredDatagram_of_length rfl)

/-- the datagram fits, or the capacity is past the largest payload, or the packet's addresses are not recovered, or the
handoff refuses what was cut off -/
def FitsOrFails (recvmsg : Recvmsg) (handoff : Handoff) (helperListenerAddr : SocketAddr) (payloadCapacity : UInt64)
    (datagram : List UInt8) : Prop :=
  datagram.length ≤ payloadCapacity.toNat ∨ maxDatagramPayloadBytes < payloadCapacity.toNat ∨
    ∀ message source target, recvmsg payloadCapacity = .ok message → recoveredAddrs message = some (source, target) →
      ∃ err, handoff ⟨source, helperListenerAddr, .ip target, payloadCapacity.toNat⟩
        (datagram.take payloadCapacity.toNat) = .error err

/-- **Handed off whole, or an error:** exactly where the buffer can be allocated, and the datagram fits or something else
goes wrong. -/
theorem handed_whole_iff (h : ReceivesDatagram recvmsg datagram) :
    HandedWhole datagram (receiveAndForward recvmsg handoff helperListenerAddr payloadCapacity) ↔
      payloadCapacity.toNat ≤ isizeMax ∧
        FitsOrFails recvmsg handoff helperListenerAddr payloadCapacity datagram := by
  cases hrecv : recvRecoveredIpv4Datagram recvmsg helperListenerAddr payloadCapacity with
  | error fault =>
    have hforward : receiveAndForward recvmsg handoff helperListenerAddr payloadCapacity = .error fault := by
      rw [receiveAndForward, hrecv]
      rfl
    rw [hforward]
    cases fault with
    | panic =>
      have hlarge := recv_eq_panic_iff.1 hrecv
      exact iff_of_false id fun hfits => absurd hfits.1 (not_le.2 hlarge)
    | error err =>
      have halloc : payloadCapacity.toNat ≤ isizeMax := by
        by_contra hlarge
        rw [recv_eq_panic_iff.2 (not_le.1 hlarge)] at hrecv
        cases hrecv
      refine iff_of_true trivial ⟨halloc, Or.inr (Or.inr fun message source target hmessage haddrs => ?_)⟩
      rw [recv_eq_ok.2 ⟨halloc, message, source, target, hmessage, haddrs, rfl⟩] at hrecv
      cases hrecv
  | ok recovered =>
    obtain ⟨halloc, message, source, target, hmessage, haddrs, rfl⟩ := recv_eq_ok.1 hrecv
    rw [receiveAndForward_of_recovered h halloc hmessage haddrs, and_iff_right halloc]
    rcases le_or_gt datagram.length payloadCapacity.toNat with hfits | hlong
    · -- everything was received
      rw [List.take_of_length_le hfits]
      refine iff_of_true ?_ (Or.inl hfits)
      simp only
      split_ifs
      · exact Or.inl ⟨_, rfl⟩
      · exact Or.inr ⟨_, rfl, rfl⟩
    · have hcut : (datagram.take payloadCapacity.toNat).length = payloadCapacity.toNat := by
        rw [List.length_take, Nat.min_eq_left hlong.le]
      simp only [hcut]
      split_ifs with hlarge
      · exact iff_of_true (Or.inl ⟨_, rfl⟩) (Or.inr (Or.inl hlarge))
      constructor
      · rintro (⟨err, herr⟩ | ⟨tuple, hoff, -⟩)
        · refine Or.inr (Or.inr fun message' source' target' hmessage' haddrs' => ?_)
          obtain rfl : message = message' := Except.ok.inj (hmessage.symm.trans hmessage')
          obtain ⟨rfl, rfl⟩ := Prod.mk.inj (Option.some.inj (haddrs.symm.trans haddrs'))
          exact ⟨err, herr⟩
        · -- what was handed off is shorter than the datagram
          have hsame := congrArg List.length (Prod.mk.inj (Option.some.inj hoff)).2
          omega
      · rintro (hfits | hlarge' | hrefused)
        · omega
        · exact absurd hlarge' hlarge
        · exact Or.inl (hrefused message source target hmessage haddrs)

/-! ## A datagram that is cut off -/

/-- a control area at the address 4096: one message, with the original destination 8.8.8.8:53 -/
def origDstArea : List UInt8 :=
  [32, 0, 0, 0, 0, 0, 0, 0, 0, 0, 0, 0, 20, 0, 0, 0, 2, 0, 0, 53, 8, 8, 8, 8, 0, 0, 0, 0, 0, 0, 0, 0]

def origDstMemory : Memory := fun addr => origDstArea.getD (addr - 4096).toNat 0

/-- the address of the client, 10.0.0.2:6000 -/
def clientName : List UInt8 := [2, 0, 0x17, 0x70, 10, 0, 0, 2, 0, 0, 0, 0, 0, 0, 0, 0]

/-- a kernel with this datagram at hand -/
def kernelWith (datagram : List UInt8) : Recvmsg := fun capacity =>
  .ok { received := min datagram.length capacity.toNat
        buffer := datagram.take capacity.toNat ++ List.replicate (capacity.toNat - datagram.length) 0
        msgFlags := if capacity.toNat < datagram.length then msgTrunc else 0
        msgName := clientName
        msgNamelen := 16
        control := ⟨4096, 32⟩
        memory := origDstMemory }

theorem receivesDatagram_kernelWith (datagram : List UInt8) : ReceivesDatagram (kernelWith datagram) datagram where
  length capacity message h := by cases h; rfl
  bytes capacity message h := by
    cases h
    exact List.take_left' (by rw [List.length_take, Nat.min_comm])
  truncated capacity message h := by
    cases h
    by_cases hlong : capacity.toNat < datagram.length
    · simp only [hlong, if_true, iff_true]
      decide
    · simp only [hlong, if_false, iff_false]
      decide

theorem parse_origDstArea : parseOriginalDstFromMsghdr origDstMemory ⟨4096, 32⟩ = .ok (.v4 ⟨8, 8, 8, 8⟩ 53) := by
  have hheader : HasHeader (4096 + 32) 4096 := by decide
  have hfound : isOriginalDst (readCmsghdr origDstMemory 4096) = true := by decide
  exact (parseFrom_found hheader hfound).trans (by decide)

/-- a handoff that takes every payload -/
def accepts : Handoff := fun _ _ => .ok ()

/-- a datagram that fits is handed off whole -/
theorem fitting_datagram_handed_whole :
    HandedWhole [0xCA, 0xFE] (receiveAndForward (kernelWith [0xCA, 0xFE]) accepts (.v4 ⟨127, 0, 0, 1⟩ 10073) 2) :=
  (handed_whole_iff (receivesDatagram_kernelWith _)).2 ⟨by decide, Or.inl (by decide)⟩

/-- the arguments of a live listener with every default, but for its capacity -/
def liveArgs (payloadCapacityBytes : UInt64) : CliArgs :=
  { clientArgs 256 1000 with
    mode := .origdstLive (.v4 ⟨127, 0, 0, 1⟩ 10073) payloadCapacityBytes 1000 (.v4 ⟨127, 0, 0, 1⟩ 1080) .disabled }

def liveConfig (payloadCapacityBytes : UInt64) : OrigDstLiveConfig :=
  ⟨.v4 ⟨127, 0, 0, 1⟩ 10073, payloadCapacityBytes, 1000, .v4 ⟨127, 0, 0, 1⟩ 1080, .disabled⟩

theorem load_liveArgs {payloadCapacityBytes : UInt64} (hcapacity : payloadCapacityBytes.toNat ≠ 0) (args : List String) :
    loadConfigFrom (fun _ => .ok (liveArgs payloadCapacityBytes)) args =
      .ok (assemble (liveArgs payloadCapacityBytes) (.origDstLive (liveConfig payloadCapacityBytes))) := by
  have hdefaults : (clientArgs 256 1000).Valid := clientArgs_valid (by decide) (by decide)
  have hvalid : (liveArgs payloadCapacityBytes).Valid := ⟨hdefaults.token, hdefaults.positive, hdefaults.ordering⟩
  have hmode : runtimeModeFrom (liveArgs payloadCapacityBytes).mode = .ok (.origDstLive (liveConfig payloadCapacityBytes)) :=
    bind_eq_ok_iff.2 ⟨(), validatePositive_eq_ok.2 hcapacity, bind_eq_ok_iff.2 ⟨(), rfl, rfl⟩⟩
  exact loadConfigFrom_eq_ok.2 ⟨_, rfl, tryFrom_eq_ok.2 ⟨hvalid, _, hmode, rfl⟩⟩

/-- **A datagram is handed off cut off,** and nothing says so: two bytes arrive with a capacity of one. -/
theorem truncated_datagram_handed_off : ¬ ∀ (tryParseFrom : List String → Except String CliArgs) (args : List String)
    (config : AppConfig) (live : OrigDstLiveConfig) (recvmsg : Recvmsg) (handoff : Handoff) (datagram : List UInt8),
    loadConfigFrom tryParseFrom args = .ok config → config.runtimeMode = .origDstLive live →
    ReceivesDatagram recvmsg datagram →
    HandedWhole datagram (receiveAndForward recvmsg handoff live.listenerAddr live.payloadCapacityBytes) := by
  intro h
  have hwhole := h _ _ _ (liveConfig 1) (kernelWith [0xCA, 0xFE]) accepts [0xCA, 0xFE] (load_liveArgs (by decide) []) rfl
    (receivesDatagram_kernelWith _)
  have hrecv : recvRecoveredIpv4Datagram (kernelWith [0xCA, 0xFE]) (liveConfig 1).listenerAddr 1 =
      .ok ⟨⟨.v4 ⟨10, 0, 0, 2⟩ 6000, (liveConfig 1).listenerAddr, .ip (.v4 ⟨8, 8, 8, 8⟩ 53), 1⟩, [0xCA]⟩ :=
    recv_eq_ok.2 ⟨by decide, _, _, _, rfl, recoveredAddrs_eq_some.2 ⟨by decide, by decide, parse_origDstArea⟩, rfl⟩
  have hforward : receiveAndForward (kernelWith [0xCA, 0xFE]) accepts (liveConfig 1).listenerAddr 1 =
      .ok ⟨some (⟨.v4 ⟨10, 0, 0, 2⟩ 6000, (liveConfig 1).listenerAddr, .ip (.v4 ⟨8, 8, 8, 8⟩ 53), 1⟩, [0xCA]), .ok ()⟩ := by
    rw [receiveAndForward, bind_of_ok hrecv]
    rfl
  have hcapacity : (liveConfig 1).payloadCapacityBytes = 1 := rfl
  rw [hcapacity, hforward] at hwhole
  rcases hwhole with ⟨err, herr⟩ | ⟨tuple, hoff, -⟩
  · cases herr
  · cases hoff

end N0wss.OrigDst
