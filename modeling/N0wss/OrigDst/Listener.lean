/-
The live listener for intercepted datagrams: `run_linux_ipv4_listener_until_cancelled` (`udp_origdst/mod.rs`), from its
socket options to its last packet, under `run_origdst_live_until_cancelled` (`cli/mod.rs`).

Every call that can fail comes back as an operation says, and the token is cancelled at any point. The loop looks at it
only between two packets. A packet is received in a blocking task; one that panics comes back as an error of its handle.

- `listenerInv_step`: what one step keeps.
- `listener_hands_in_order`: what is handed off is what the kernel gave, in order and without a repeat, after every
  required socket option is set; a listener stops by itself only at an error, and takes one more packet at most once it is
  cancelled.
- `failed_step_iff`: a step ends the listener with an error exactly where a call of it fails.
- `listener_survives_iff`: so one packet that is not recovered, is too large or is refused ends it for all packets.
-/
import N0wss.Core.Machine
import N0wss.Core.Stages
import N0wss.OrigDst.Runtime

namespace N0wss.OrigDst.Live

open Checked Datagram Machine Net Stages

/-! ## State -/

inductive SocketOption where
  | transparent
  | recvOriginalDst
  | readTimeout
deriving DecidableEq, Repr

/-- the options that the listener sets, in order -/
def socketOptions (transparentSocketRequired : Bool) : List SocketOption :=
  (if transparentSocketRequired then [.transparent] else []) ++ [.recvOriginalDst, .readTimeout]

/-- where the listener stands -/
inductive Pc where
  /-- these options are still to be set, and then `local_addr` is next -/
  | enabling (rest : List SocketOption)
  /-- at the condition of the loop -/
  | checking
  | cloning
  | receiving
  | forwarding (recovered : LinuxRecoveredDatagram)
  | returned (result : Except UdpOrigDstError Unit)

structure Listener where
  pc : Pc
  cancelled : Bool
  enabled : List SocketOption
  /-- what was recovered, and what the handoff was called with -/
  recovered : List LinuxRecoveredDatagram
  handedOff : List (RecoveredUdpTuple × List UInt8)

inductive Op where
  /-- the next socket option, or `local_addr`, or `try_clone` comes back -/
  | call (result : Except String Unit)
  | check
  /-- the blocking task comes back: with what it made of what the kernel left, if it ran; `joinError` is what its handle
  says where it did not, or has panicked -/
  | receive (recvmsg : Option Recvmsg) (joinError : String)
  | forward (handoff : Handoff)
  | cancel

def start (transparentSocketRequired : Bool) : Listener :=
  ⟨.enabling (socketOptions transparentSocketRequired), false, [], [], []⟩

/-! ## Steps -/

def fail (s : Listener) (error : UdpOrigDstError) : Listener := { s with pc := .returned (.error error) }

def stepCall (s : Listener) : Except String Unit → Listener
  | .ok () =>
    match s.pc with
    | .enabling [] => { s with pc := .checking }
    | .enabling (option :: rest) => { s with pc := .enabling rest, enabled := s.enabled ++ [option] }
    | .cloning => { s with pc := .receiving }
    | _ => s
  | .error error =>
    match s.pc with
    | .enabling _ | .cloning => fail s (.recoveryFailed error)
    | _ => s

def stepCheck (s : Listener) : Listener :=
  match s.pc with
  | .checking => { s with pc := if s.cancelled then .returned (.ok ()) else .cloning }
  | _ => s

def stepReceived (s : Listener) : Except UdpOrigDstError LinuxRecoveredDatagram → Listener
  | .ok recovered => { s with pc := .forwarding recovered, recovered := s.recovered ++ [recovered] }
  | .error .receiveWouldBlock => { s with pc := .checking }
  | .error error => fail s error

/-- the result of a blocking task that is awaited -/
def joined {α : Type} (joinError : String) : Option (MayPanic UdpOrigDstError α) → Except UdpOrigDstError α
  | some (.ok a) => .ok a
  | some (.error (.error error)) => .error error
  | some (.error .panic) | none => .error (.recoveryFailed joinError)

def stepReceive (helperListenerAddr : SocketAddr) (payloadCapacity : UInt64) (s : Listener) (recvmsg : Option Recvmsg)
    (joinError : String) : Listener :=
  match s.pc with
  | .receiving =>
    stepReceived s (joined joinError
      (recvmsg.map fun recvmsg => recvRecoveredIpv4Datagram recvmsg helperListenerAddr payloadCapacity))
  | _ => s

def stepForwarded (s : Listener) (forwarding : Forwarding) : Listener :=
  { s with
    pc := match forwarding.result with
      | .ok () => .checking
      | .error error => .returned (.error error)
    handedOff := s.handedOff ++ forwarding.handedOff.toList }

def stepForward (s : Listener) (handoff : Handoff) : Listener :=
  match s.pc with
  | .forwarding recovered => stepForwarded s (forwardRecoveredDatagram handoff recovered.tuple recovered.payload)
  | _ => s

def step (helperListenerAddr : SocketAddr) (payloadCapacity : UInt64) (s : Listener) : Op → Listener
  | .call result => stepCall s result
  | .check => stepCheck s
  | .receive recvmsg joinError => stepReceive helperListenerAddr payloadCapacity s recvmsg joinError
  | .forward handoff => stepForward s handoff
  | .cancel => { s with cancelled := true }

/-- what the kernel gave with this operation, if it was a packet that can be recovered -/
def Op.recovers (helperListenerAddr : SocketAddr) (payloadCapacity : UInt64) : Op → Option LinuxRecoveredDatagram
  | .receive (some recvmsg) _ => (recvRecoveredIpv4Datagram recvmsg helperListenerAddr payloadCapacity).toOption
  | _ => none

/-! ## What a step can come to -/

/-- what a step of the listener can come to -/
inductive StepOutcome (helperListenerAddr : SocketAddr) (payloadCapacity : UInt64) (o : Op) (s : Listener) :
    Listener → Prop where
  | idle : StepOutcome helperListenerAddr payloadCapacity o s s
  /-- one more option is set -/
  | enables (option : SocketOption) (rest : List SocketOption) (hpc : s.pc = .enabling (option :: rest)) :
    StepOutcome helperListenerAddr payloadCapacity o s { s with pc := .enabling rest, enabled := s.enabled ++ [option] }
  /-- on to the next call, with no packet in hand -/
  | moves (pc : Pc)
    (hpc : s.pc = .enabling [] ∧ pc = .checking ∨ s.pc = .checking ∧ s.cancelled = false ∧ pc = .cloning ∨
      s.pc = .cloning ∧ pc = .receiving ∨ s.pc = .receiving ∧ pc = .checking) :
    StepOutcome helperListenerAddr payloadCapacity o s { s with pc := pc }
  | stops (hpc : s.pc = .checking) (hcancelled : s.cancelled = true) :
    StepOutcome helperListenerAddr payloadCapacity o s { s with pc := .returned (.ok ()) }
  | fails (error : UdpOrigDstError)
    (hpc : (∃ rest, s.pc = .enabling rest) ∨ s.pc = .cloning ∨ s.pc = .receiving) :
    StepOutcome helperListenerAddr payloadCapacity o s (fail s error)
  | recovers (recovered : LinuxRecoveredDatagram) (hpc : s.pc = .receiving)
    (ho : o.recovers helperListenerAddr payloadCapacity = some recovered) :
    StepOutcome helperListenerAddr payloadCapacity o s
      { s with pc := .forwarding recovered, recovered := s.recovered ++ [recovered] }
  | forwards (recovered : LinuxRecoveredDatagram) (handoff : Handoff)
    (hpc : s.pc = .forwarding recovered) :
    StepOutcome helperListenerAddr payloadCapacity o s
      (stepForwarded s (forwardRecoveredDatagram handoff recovered.tuple recovered.payload))
  | cancel : StepOutcome helperListenerAddr payloadCapacity o s { s with cancelled := true }

variable {helperListenerAddr : SocketAddr} {payloadCapacity : UInt64}

theorem stepCall_outcome (s : Listener) (result : Except String Unit) :
    StepOutcome helperListenerAddr payloadCapacity (.call result) s (stepCall s result) := by
  cases result with
  | ok =>
    unfold stepCall
    cases hpc : s.pc with
    | enabling rest =>
      cases rest with
      | nil => exact .moves _ (Or.inl ⟨hpc, rfl⟩)
      | cons option rest => exact .enables option rest hpc
    | cloning => exact .moves _ (by simp [hpc])
    | _ => exact .idle
  | error error =>
    unfold stepCall
    cases hpc : s.pc with
    | enabling rest => exact .fails _ (Or.inl ⟨rest, hpc⟩)
    | cloning => exact .fails _ (Or.inr (Or.inl hpc))
    | _ => exact .idle

theorem stepReceived_outcome {s : Listener} {o : Op} (hpc : s.pc = .receiving)
    {result : Except UdpOrigDstError LinuxRecoveredDatagram}
    (ho : ∀ recovered, result = .ok recovered → o.recovers helperListenerAddr payloadCapacity = some recovered) :
    StepOutcome helperListenerAddr payloadCapacity o s (stepReceived s result) := by
  cases result with
  | ok recovered => exact .recovers recovered hpc (ho recovered rfl)
  | error error =>
    cases error with
    | receiveWouldBlock => exact .moves _ (by simp [hpc])
    | _ => exact .fails _ (by simp [hpc])

theorem stepReceive_outcome (s : Listener) (recvmsg : Option Recvmsg) (joinError : String) :
    StepOutcome helperListenerAddr payloadCapacity (.receive recvmsg joinError) s
      (stepReceive helperListenerAddr payloadCapacity s recvmsg joinError) := by
  unfold stepReceive
  cases hpc : s.pc with
  | receiving =>
    apply stepReceived_outcome hpc
    intro recovered hjoined
    cases recvmsg with
    | none => cases hjoined
    | some recvmsg =>
      simp only [Op.recovers]
      simp only [Option.map_some] at hjoined
      generalize recvRecoveredIpv4Datagram recvmsg helperListenerAddr payloadCapacity = received at hjoined ⊢
      rcases received with (_ | error) | datagram
      · cases hjoined
      · cases hjoined
      · cases hjoined
        rfl
  | _ => exact .idle

theorem step_outcome (helperListenerAddr : SocketAddr) (payloadCapacity : UInt64) (s : Listener) (o : Op) :
    StepOutcome helperListenerAddr payloadCapacity o s (step helperListenerAddr payloadCapacity s o) := by
  cases o with
  | call result => exact stepCall_outcome s result
  | receive recvmsg joinError => exact stepReceive_outcome s recvmsg joinError
  | cancel => exact .cancel
  | check =>
    simp only [step, stepCheck]
    cases hpc : s.pc with
    | checking =>
      simp only
      split
      · rename_i hcancelled
        exact .stops hpc hcancelled
      · rename_i hlive
        exact .moves _ (Or.inr (Or.inl ⟨hpc, Bool.eq_false_iff.2 hlive, rfl⟩))
    | _ => exact .idle
  | forward handoff =>
    simp only [step, stepForward]
    cases hpc : s.pc with
    | forwarding recovered => exact .forwards recovered handoff hpc
    | _ => exact .idle

/-! ## Order -/

/-- what the handoff is called with for a packet -/
def handed (recovered : LinuxRecoveredDatagram) : RecoveredUdpTuple × List UInt8 := (recovered.tuple, recovered.payload)

/-- which options are set, by where the listener stands -/
def Pc.Enabled (transparentSocketRequired : Bool) (s : Listener) : Pc → Prop
  | .enabling rest => s.enabled ++ rest = socketOptions transparentSocketRequired ∧ s.recovered = []
  | .returned _ => s.recovered = [] ∨ s.enabled = socketOptions transparentSocketRequired
  | .checking | .cloning | .receiving | .forwarding _ => s.enabled = socketOptions transparentSocketRequired

/-- what was recovered and not handed off, by where the listener stands -/
def Pc.Handed (s : Listener) : Pc → Prop
  | .forwarding recovered => s.recovered.map handed = s.handedOff ++ [handed recovered]
  | .returned _ => ∃ refused, refused.length ≤ 1 ∧ s.recovered.map handed = s.handedOff ++ refused
  | .enabling _ | .checking | .cloning | .receiving => s.recovered.map handed = s.handedOff

structure ListenerInv (transparentSocketRequired : Bool) (s : Listener) : Prop where
  enabled : s.pc.Enabled transparentSocketRequired s
  handed : s.pc.Handed s
  stopped : s.pc = .returned (.ok ()) → s.cancelled = true

variable {transparentSocketRequired : Bool}

theorem listenerInv_start : ListenerInv transparentSocketRequired (start transparentSocketRequired) where
  enabled := ⟨rfl, rfl⟩
  handed := rfl
  stopped := by rintro ⟨⟩

/-- a datagram is handed off as it was recovered, or not at all, and not at all only with an error -/
theorem forward_cases (handoff : Handoff) (recovered : LinuxRecoveredDatagram) :
    (forwardRecoveredDatagram handoff recovered.tuple recovered.payload).handedOff = some (handed recovered) ∨
      (forwardRecoveredDatagram handoff recovered.tuple recovered.payload).handedOff = none ∧
        (forwardRecoveredDatagram handoff recovered.tuple recovered.payload).result ≠ .ok () := by
  unfold forwardRecoveredDatagram
  split_ifs
  · exact Or.inr ⟨rfl, by rintro ⟨⟩⟩
  · exact Or.inr ⟨rfl, by rintro ⟨⟩⟩
  · exact Or.inl rfl

theorem listenerInv_forwarded {s : Listener} (h : ListenerInv transparentSocketRequired s)
    {recovered : LinuxRecoveredDatagram} (hpc : s.pc = .forwarding recovered) (handoff : Handoff) :
    ListenerInv transparentSocketRequired
      (stepForwarded s (forwardRecoveredDatagram handoff recovered.tuple recovered.payload)) := by
  obtain ⟨henabled, hhanded, -⟩ := h
  rw [hpc] at henabled hhanded
  have hwhole : s.recovered.map handed = s.handedOff ++ [handed recovered] := hhanded
  have hoff := forward_cases handoff recovered
  unfold stepForwarded
  generalize forwardRecoveredDatagram handoff recovered.tuple recovered.payload = forwarding at hoff ⊢
  obtain ⟨off, result⟩ := forwarding
  cases result with
  | ok =>
    refine ⟨henabled, ?_, by rintro ⟨⟩⟩
    rcases hoff with rfl | ⟨-, hno⟩
    · exact hhanded
    · exact absurd rfl hno
  | error error =>
    refine ⟨Or.inr henabled, ?_, by rintro ⟨⟩⟩
    rcases hoff with rfl | ⟨rfl, -⟩
    · exact ⟨[], by simp, by simpa using hwhole⟩
    · exact ⟨[handed recovered], by simp, by simpa using hwhole⟩

/-- where everything was handed off, nothing was refused -/
theorem handed_all {s : Listener} (h : s.recovered.map handed = s.handedOff) : ∃ refused : List _, refused.length ≤ 1 ∧
    s.recovered.map handed = s.handedOff ++ refused := ⟨[], by simp, by simpa using h⟩

/-- wherever the listener stands, one packet at most was recovered and not handed off -/
theorem handed_rest {s : Listener} (h : s.pc.Handed s) : ∃ rest : List _, rest.length ≤ 1 ∧
    s.recovered.map handed = s.handedOff ++ rest := by
  cases hpc : s.pc with
  | forwarding recovered =>
    rw [hpc] at h
    exact ⟨[handed recovered], by simp, h⟩
  | returned result =>
    rw [hpc] at h
    exact h
  | _ =>
    rw [hpc] at h
    exact handed_all h

/-- **One step** hands off what was recovered last, or nothing. -/
theorem listenerInv_step {s : Listener} (h : ListenerInv transparentSocketRequired s) (o : Op) :
    ListenerInv transparentSocketRequired (step helperListenerAddr payloadCapacity s o) := by
  have hout := step_outcome helperListenerAddr payloadCapacity s o
  generalize step helperListenerAddr payloadCapacity s o = s' at hout ⊢
  have henabled := h.enabled
  have hhanded := h.handed
  cases hout with
  | idle => exact h
  | enables option rest hpc =>
    rw [hpc] at henabled hhanded
    obtain ⟨hrest, hnone⟩ := henabled
    exact ⟨⟨by rw [← hrest, List.append_assoc, List.singleton_append], hnone⟩, hhanded, by rintro ⟨⟩⟩
  | moves pc hpc =>
    rcases hpc with ⟨hpc, rfl⟩ | ⟨hpc, -, rfl⟩ | ⟨hpc, rfl⟩ | ⟨hpc, rfl⟩ <;> rw [hpc] at henabled hhanded
    · have hall : s.enabled = socketOptions transparentSocketRequired := by simpa using henabled.1
      exact ⟨hall, hhanded, by rintro ⟨⟩⟩
    all_goals exact ⟨henabled, hhanded, by rintro ⟨⟩⟩
  | stops hpc hcancelled =>
    rw [hpc] at henabled hhanded
    exact ⟨Or.inr henabled, handed_all hhanded, fun _ => hcancelled⟩
  | fails error hpc =>
    rcases hpc with ⟨rest, hpc⟩ | hpc | hpc <;> rw [hpc] at henabled hhanded
    · exact ⟨Or.inl henabled.2, handed_all (s := s) hhanded, by rintro ⟨⟩⟩
    all_goals exact ⟨Or.inr henabled, handed_all (s := s) hhanded, by rintro ⟨⟩⟩
  | recovers recovered hpc =>
    rw [hpc] at henabled hhanded
    have hbefore : s.recovered.map handed = s.handedOff := hhanded
    exact ⟨henabled, by simp only [Pc.Handed, List.map_append, hbefore, List.map_cons, List.map_nil], by rintro ⟨⟩⟩
  | forwards recovered handoff hpc => exact listenerInv_forwarded h hpc handoff
  | cancel => exact ⟨by cases hpc : s.pc <;> rw [hpc] at henabled <;> exact henabled, hhanded, fun _ => rfl⟩

/-- a step recovers what the kernel gave with it, or nothing -/
theorem recovered_step (helperListenerAddr : SocketAddr) (payloadCapacity : UInt64) (s : Listener) (o : Op) :
    (step helperListenerAddr payloadCapacity s o).recovered = s.recovered ∨
      ∃ recovered, o.recovers helperListenerAddr payloadCapacity = some recovered ∧
        (step helperListenerAddr payloadCapacity s o).recovered = s.recovered ++ [recovered] := by
  have hout := step_outcome helperListenerAddr payloadCapacity s o
  generalize step helperListenerAddr payloadCapacity s o = s' at hout ⊢
  cases hout with
  | recovers recovered _ ho => exact Or.inr ⟨recovered, ho, rfl⟩
  | _ => exact Or.inl rfl

/-- a run recovers, in order and each once, what the kernel gave -/
theorem recovered_run (helperListenerAddr : SocketAddr) (payloadCapacity : UInt64) (s : Listener)
    (ops : List Op) :
    ∃ more, (run (step helperListenerAddr payloadCapacity) s ops).recovered = s.recovered ++ more ∧
      more.Sublist (ops.filterMap (Op.recovers helperListenerAddr payloadCapacity)) := by
  induction ops generalizing s with
  | nil => exact ⟨[], by simp, List.Sublist.refl _⟩
  | cons o ops ih =>
    obtain ⟨more, hmore, hsub⟩ := ih (step helperListenerAddr payloadCapacity s o)
    rw [run_cons, hmore]
    rcases recovered_step helperListenerAddr payloadCapacity s o with
      hsame | ⟨recovered, ho, hnew⟩
    · refine ⟨more, by rw [hsame], ?_⟩
      cases ho : o.recovers helperListenerAddr payloadCapacity with
      | none => rwa [List.filterMap_cons_none ho]
      | some recovered =>
        rw [List.filterMap_cons_some ho]
        exact hsub.cons _
    · refine ⟨recovered :: more, by rw [hnew, List.append_assoc, List.singleton_append], ?_⟩
      rw [List.filterMap_cons_some ho]
      exact hsub.cons_cons _

/-- how many packets are still taken under a cancelled token -/
def Pc.pending : Pc → ℕ
  | .cloning | .receiving => 1
  | .enabling _ | .checking | .forwarding _ | .returned _ => 0

theorem pending_le_one (pc : Pc) : pc.pending ≤ 1 := by cases pc <;> simp [Pc.pending]

theorem pending_step (helperListenerAddr : SocketAddr) (payloadCapacity : UInt64) {s : Listener}
    (hcancelled : s.cancelled = true) (o : Op) :
    (step helperListenerAddr payloadCapacity s o).cancelled = true ∧
      (step helperListenerAddr payloadCapacity s o).recovered.length +
        (step helperListenerAddr payloadCapacity s o).pc.pending ≤ s.recovered.length + s.pc.pending := by
  have hout := step_outcome helperListenerAddr payloadCapacity s o
  generalize step helperListenerAddr payloadCapacity s o = s' at hout ⊢
  cases hout with
  | idle => exact ⟨hcancelled, le_rfl⟩
  | enables | stops | fails => exact ⟨hcancelled, Nat.add_le_add_left (Nat.zero_le _) _⟩
  | moves pc hpc =>
    refine ⟨hcancelled, Nat.add_le_add_left ?_ _⟩
    rcases hpc with ⟨hpc, rfl⟩ | ⟨-, hlive, -⟩ | ⟨hpc, rfl⟩ | ⟨hpc, rfl⟩
    · simp [Pc.pending]
    · rw [hcancelled] at hlive
      cases hlive
    · simp [hpc, Pc.pending]
    · simp [Pc.pending]
  | recovers recovered hpc => exact ⟨hcancelled, by simp [hpc, Pc.pending]⟩
  | forwards recovered handoff hpc =>
    refine ⟨hcancelled, Nat.add_le_add_left ?_ _⟩
    unfold stepForwarded
    generalize (forwardRecoveredDatagram handoff recovered.tuple recovered.payload).result = result
    cases result <;> simp [Pc.pending]
  | cancel => exact ⟨rfl, le_rfl⟩

/-- a cancelled listener takes one more packet at most -/
theorem recovered_run_cancelled {s : Listener} (hcancelled : s.cancelled = true) (more : List Op) :
    (run (step helperListenerAddr payloadCapacity) s more).recovered.length ≤ s.recovered.length + 1 := by
  have hstep : ∀ (s' : Listener) (o : Op),
      (s'.cancelled = true ∧ s'.recovered.length + s'.pc.pending ≤ s.recovered.length + s.pc.pending) →
        (step helperListenerAddr payloadCapacity s' o).cancelled = true ∧
          (step helperListenerAddr payloadCapacity s' o).recovered.length +
            (step helperListenerAddr payloadCapacity s' o).pc.pending ≤ s.recovered.length + s.pc.pending := by
    rintro s' o ⟨hc, hle⟩
    obtain ⟨hc', hle'⟩ := pending_step helperListenerAddr payloadCapacity hc o
    exact ⟨hc', hle'.trans hle⟩
  have hlast := (run_inv hstep more ⟨hcancelled, le_rfl⟩).2
  have hone := pending_le_one s.pc
  omega

/-- the order of a listener after these operations -/
structure HandsInOrder (helperListenerAddr : SocketAddr) (payloadCapacity : UInt64) (transparentSocketRequired : Bool)
    (ops : List Op) (s : Listener) : Prop where
  /-- what is handed off is what was recovered, as it was recovered, but for the last packet -/
  handed : ∃ rest, rest.length ≤ 1 ∧ s.recovered.map handed = s.handedOff ++ rest
  /-- what was recovered is what the kernel gave -/
  recovered : s.recovered.Sublist (ops.filterMap (Op.recovers helperListenerAddr payloadCapacity))
  enabled : s.recovered ≠ [] → s.enabled = socketOptions transparentSocketRequired
  stopped : s.pc = .returned (.ok ()) → s.cancelled = true
  cancelled : s.cancelled = true → ∀ more,
    (run (step helperListenerAddr payloadCapacity) s more).recovered.length ≤ s.recovered.length + 1

/-- **The live listener hands packets off in order.** After every run, whatever the calls come back with and whenever the
token is cancelled: the handoff was called with the packets that were recovered, each once, unaltered and in order, but for
the last one at most; these are packets that the kernel gave, in its order; none is taken before the original-destination
option, the timeout and, where it is required, the transparent option are set; the listener returns without an error only
when it is cancelled, and then takes one more packet at most. -/
theorem listener_hands_in_order (helperListenerAddr : SocketAddr) (payloadCapacity : UInt64)
    (transparentSocketRequired : Bool) (ops : List Op) :
    HandsInOrder helperListenerAddr payloadCapacity transparentSocketRequired ops
      (run (step helperListenerAddr payloadCapacity) (start transparentSocketRequired) ops) := by
  have hstep : ∀ (s : Listener) (o : Op), ListenerInv transparentSocketRequired s →
      ListenerInv transparentSocketRequired (step helperListenerAddr payloadCapacity s o) := fun _ o h => listenerInv_step h o
  have hinv := run_inv hstep ops listenerInv_start
  obtain ⟨more, hmore, hsub⟩ := recovered_run helperListenerAddr payloadCapacity (start transparentSocketRequired) ops
  generalize run (step helperListenerAddr payloadCapacity) (start transparentSocketRequired) ops = s at hinv hmore ⊢
  obtain ⟨henabled, hhanded, hstopped⟩ := hinv
  refine ⟨handed_rest hhanded, ?_, ?_, hstopped, fun hcancelled more => recovered_run_cancelled hcancelled more⟩
  · rw [hmore]
    exact hsub
  · intro hsome
    cases hpc : s.pc with
    | enabling rest =>
      rw [hpc] at henabled
      exact absurd henabled.2 hsome
    | returned result =>
      rw [hpc] at henabled
      exact henabled.resolve_left hsome
    | _ =>
      rw [hpc] at henabled
      exact henabled

/-! ## What ends it -/

/-- a call that `step` waits for with `call` -/
def Pc.isCalling : Pc → Bool
  | .enabling _ | .cloning => true
  | .checking | .receiving | .forwarding _ | .returned _ => false

/-- the buffer can be allocated; what the kernel left in it is no error but that nothing came in time, and its addresses can
be recovered -/
def Recoverable (payloadCapacity : UInt64) (recvmsg : Recvmsg) : Prop :=
  payloadCapacity.toNat ≤ isizeMax ∧
    match recvmsg payloadCapacity with
    | .ok message => recoveredAddrs message ≠ none
    | .error (kind, _) => kind ≠ .other

/-- the payload is as long as its tuple says and no larger than a datagram, and the handoff takes it -/
def Takes (handoff : Handoff) (recovered : LinuxRecoveredDatagram) : Prop :=
  recovered.tuple.payloadLen = recovered.payload.length ∧ recovered.payload.length ≤ maxDatagramPayloadBytes ∧
    handoff recovered.tuple recovered.payload = .ok ()

/-- a call of the step fails -/
def Fails (payloadCapacity : UInt64) (s : Listener) : Op → Prop
  | .call result => s.pc.isCalling = true ∧ ∃ error, result = .error error
  | .receive result _ =>
    s.pc = .receiving ∧ ∀ recvmsg, result = some recvmsg → ¬Recoverable payloadCapacity recvmsg
  | .forward handoff => ∃ recovered, s.pc = .forwarding recovered ∧ ¬Takes handoff recovered
  | .check | .cancel => False

def Failed (s : Listener) : Prop := ∃ error, s.pc = .returned (.error error)

theorem parseFrom_ne_wouldBlock (mem : Memory) (controlEnd current : UInt64) :
    parseFrom mem controlEnd current ≠ .error .receiveWouldBlock := by
  induction current using parseFrom.induct mem controlEnd with
  | case1 current hheader hfound =>
    rw [parseFrom, if_pos hheader, if_pos hfound]
    unfold originalDstAt
    split_ifs <;> rintro ⟨⟩
  | case2 current hheader hother hend =>
    rw [parseFrom, if_pos hheader, if_neg hother, dif_pos hend]
    rintro ⟨⟩
  | case3 current hheader hother hnext ih =>
    rw [parseFrom, if_pos hheader, if_neg hother, dif_neg hnext]
    exact ih
  | case4 current hnone =>
    rw [parseFrom, if_neg hnone]
    rintro ⟨⟩

/-- what the kernel left with a packet is recovered, or it is an error that ends the listener -/
theorem recover_of_message (helperListenerAddr : SocketAddr) (message : Received) :
    recoverDatagram helperListenerAddr message ≠ .error .receiveWouldBlock := by
  unfold recoverDatagram
  split_ifs
  · rintro ⟨⟩
  · intro herror
    cases hsource : socketAddrFromStorage message.msgName message.msgNamelen with
    | error err =>
      rw [hsource] at herror
      unfold socketAddrFromStorage at hsource
      split_ifs at hsource
      cases hsource
      cases herror
    | ok source =>
      rw [bind_of_ok hsource] at herror
      cases htarget : parseOriginalDstFromMsghdr message.memory message.control with
      | error err =>
        rw [htarget] at herror
        obtain rfl : err = .receiveWouldBlock := Except.error.inj herror
        exact parseFrom_ne_wouldBlock _ _ _ htarget
      | ok target =>
        rw [bind_of_ok htarget] at herror
        cases herror

/-- an error that is no `ReceiveWouldBlock`, exactly where the packet is not recoverable -/
theorem recv_fails_iff (helperListenerAddr : SocketAddr) (payloadCapacity : UInt64) (recvmsg : Recvmsg)
    (joinError : String) :
    (∃ error, error ≠ .receiveWouldBlock ∧
      joined joinError (some (recvRecoveredIpv4Datagram recvmsg helperListenerAddr payloadCapacity)) = .error error) ↔
      ¬Recoverable payloadCapacity recvmsg := by
  unfold Recoverable recvRecoveredIpv4Datagram zeroed
  by_cases halloc : payloadCapacity.toNat ≤ isizeMax
  · rw [ensure_of halloc, ok_bind, and_iff_right halloc]
    cases hrecvmsg : recvmsg payloadCapacity with
    | error failure =>
      obtain ⟨kind, detail⟩ := failure
      cases kind <;> simp [Except.mapError, receiveError, lift, joined, bind, Except.bind]
    | ok message =>
      have hrecover := recover_of_message helperListenerAddr message
      simp only [Except.mapError, lift_ok, ok_bind]
      cases hresult : recoverDatagram helperListenerAddr message with
      | error error =>
        rw [hresult] at hrecover
        refine iff_of_true ⟨error, fun h => hrecover (by rw [h]), rfl⟩ (not_not.2 ?_)
        by_contra hsome
        obtain ⟨⟨source, target⟩, haddrs⟩ := Option.ne_none_iff_exists'.1 hsome
        rw [recoverDatagram_eq_ok.2 ⟨source, target, haddrs, rfl⟩] at hresult
        cases hresult
      | ok recovered =>
        obtain ⟨source, target, haddrs, -⟩ := recoverDatagram_eq_ok.1 hresult
        refine iff_of_false (by simp [joined]) (not_not.2 ?_)
        rw [haddrs]
        simp
  · rw [ensure_of_not halloc]
    exact iff_of_true ⟨.recoveryFailed joinError, by rintro ⟨⟩, rfl⟩ fun h => halloc h.1

theorem forward_eq_ok {handoff : Handoff} {recovered : LinuxRecoveredDatagram} :
    (forwardRecoveredDatagram handoff recovered.tuple recovered.payload).result = .ok () ↔ Takes handoff recovered := by
  unfold forwardRecoveredDatagram Takes
  split_ifs with hlength hlarge
  · simp [hlength]
  · simp [hlarge]
  · simp only [not_not.1 hlength, le_of_not_gt hlarge, true_and]

/-- **What ends a listener:** a step leads to an error exactly where a call of it fails. -/
theorem failed_step_iff {s : Listener} (hs : ¬Failed s) (o : Op) :
    Failed (step helperListenerAddr payloadCapacity s o) ↔ Fails payloadCapacity s o := by
  obtain ⟨pc, cancelled, enabled, recovered, handedOff⟩ := s
  unfold Failed at hs ⊢
  cases o with
  | call result =>
    cases result with
    | ok =>
      refine iff_of_false ?_ (by rintro ⟨-, error, ⟨⟩⟩)
      cases pc with
      | enabling rest => cases rest <;> rintro ⟨_, ⟨⟩⟩
      | cloning => rintro ⟨_, ⟨⟩⟩
      | _ => exact hs
    | error error =>
      cases pc with
      | enabling rest => exact iff_of_true ⟨_, rfl⟩ ⟨rfl, error, rfl⟩
      | cloning => exact iff_of_true ⟨_, rfl⟩ ⟨rfl, error, rfl⟩
      | _ => exact iff_of_false hs (by rintro ⟨⟨⟩, -⟩)
  | cancel => exact iff_of_false hs id
  | check =>
    refine iff_of_false ?_ id
    cases pc with
    | checking => cases cancelled <;> rintro ⟨_, ⟨⟩⟩
    | _ => exact hs
  | receive result joinError =>
    cases pc with
    | receiving =>
      cases result with
      | none => exact iff_of_true ⟨_, rfl⟩ ⟨rfl, by rintro _ ⟨⟩⟩
      | some recvmsg =>
        have hfails := recv_fails_iff helperListenerAddr payloadCapacity recvmsg joinError
        have hgoal : Fails payloadCapacity ⟨.receiving, cancelled, enabled, recovered, handedOff⟩
            (.receive (some recvmsg) joinError) ↔ ¬Recoverable payloadCapacity recvmsg :=
          ⟨fun h => h.2 recvmsg rfl, fun h => ⟨rfl, by rintro _ ⟨⟩; exact h⟩⟩
        rw [hgoal, ← hfails]
        simp only [step, stepReceive, Option.map_some]
        generalize joined joinError (some (recvRecoveredIpv4Datagram recvmsg helperListenerAddr payloadCapacity)) = result
        rcases result with error | datagram
        · cases error <;> simp [stepReceived, fail]
        · simp [stepReceived]
    | _ => exact iff_of_false hs (by rintro ⟨⟨⟩, -⟩)
  | forward handoff =>
    cases pc with
    | forwarding packet =>
      have hgoal : Fails payloadCapacity ⟨.forwarding packet, cancelled, enabled, recovered, handedOff⟩
          (.forward handoff) ↔ ¬Takes handoff packet :=
        ⟨by rintro ⟨_, ⟨⟩, hrefused⟩; exact hrefused, fun h => ⟨packet, rfl, h⟩⟩
      rw [hgoal, ← forward_eq_ok]
      simp only [step, stepForward, stepForwarded]
      generalize (forwardRecoveredDatagram handoff packet.tuple packet.payload).result = result
      cases result <;> simp
    | _ => exact iff_of_false hs (by rintro ⟨_, ⟨⟩, -⟩)

/-- **One bad packet ends the listener.** For every run: no error ends it exactly where no call of it ever fails, where every
packet the kernel gives can be recovered and every recovered packet is as long as it says, not too large, and taken by the
handoff. Nothing is skipped. -/
theorem listener_survives_iff (helperListenerAddr : SocketAddr) (payloadCapacity : UInt64)
    (transparentSocketRequired : Bool) (ops : List Op) :
    AllStates (step helperListenerAddr payloadCapacity) (fun s => ¬Failed s) (start transparentSocketRequired) ops ↔
      AllSteps (step helperListenerAddr payloadCapacity) (fun s o => ¬Fails payloadCapacity s o)
        (start transparentSocketRequired) ops := by
  have hstart : ¬Failed (start transparentSocketRequired) := by rintro ⟨error, ⟨⟩⟩
  have hstep : ∀ (s : Listener) (o : Op), ¬Failed s →
      (¬Failed (step helperListenerAddr payloadCapacity s o) ↔ ¬Fails payloadCapacity s o) :=
    fun s o hs => not_congr (failed_step_iff hs o)
  rw [allStates_iff_allSteps, allSteps_iff_of_step (fun s o hs => (hstep s o hs).2) hstep hstart]
  exact and_iff_right hstart

end N0wss.OrigDst.Live
