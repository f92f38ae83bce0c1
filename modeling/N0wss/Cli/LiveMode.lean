/-
The live helper from its socket to its exit code (`run_origdst_live_until_cancelled` and the end of
`run_until_shutdown_from` in `cli/mod.rs`): the socket is bound, the listener of `OrigDst/Listener` runs under the token of
the process, and what it hands off is logged.

Every call that can fail comes back as an operation says. The address that `local_addr` gives is an input.

- `liveInv_turn`: why the mode stands where it stands, and what was logged.
- `live_mode_sound`: an exit without an error was asked for and has logged every packet that was recovered; an exit with one
  says what failed.
- `liveLeft_waits`: once the mode is told to end, what it waits for leaves it less to do.
- `live_mode_ends_iff`: over fair runs, it ends if and only if it is told to or a call of it fails.
-/
import N0wss.Cli.Startup
import N0wss.Core.Fair
import N0wss.OrigDst.Listener

namespace N0wss.Cli

open Config Datagram Machine Net OrigDst
open OrigDst.Live (Listener ListenerInv socketOptions)

/-! ## The mode -/

/-- `LoggingOrigDstLiveHandoff` -/
def loggingOrigDstLiveHandoff : Handoff := fun _ _ => .ok ()

structure OrigDstLiveLaunchResult where
  listenerAddr : SocketAddr
  payloadCapacityBytes : UInt64
deriving DecidableEq, Repr

inductive LivePc where
  /-- before `UdpSocket::bind` -/
  | binding
  /-- before `local_addr` -/
  | locating
  /-- in the listener -/
  | listening
  /-- before `coordinate_shutdown` -/
  | coordinating (launched : OrigDstLiveLaunchResult)
  | ended (result : Except CliRuntimeError Unit)

structure LiveMode where
  pc : LivePc
  /-- its token is the token of the process -/
  listener : Listener
  shutdown : ShutdownCoordinator

inductive LiveOp where
  /-- `bind`, `local_addr` or a call of the listener comes back -/
  | call (result : Except String Unit)
  | check
  | receive (recvmsg : Option Recvmsg) (joinError : String)
  | forward
  /-- the mode takes the result of the listener -/
  | finish
  | coordinate
  | cancel

/-- the step of the listener that this is -/
def LiveOp.listens : LiveOp → Option Live.Op
  | .call result => some (.call result)
  | .check => some .check
  | .receive recvmsg joinError => some (.receive recvmsg joinError)
  | .forward => some (.forward loggingOrigDstLiveHandoff)
  | .finish | .coordinate | .cancel => none

def transparentSocketRequired (config : OrigDstLiveConfig) : Bool := config.transparentSocketMode = .required

def LiveMode.start (config : OrigDstLiveConfig) (shutdown : ShutdownCoordinator) : LiveMode :=
  ⟨.binding, Live.start (transparentSocketRequired config), shutdown⟩

def launchTurn (s : LiveMode) (next : LivePc) : Except String Unit → LiveMode
  | .ok () => { s with pc := next }
  | .error detail => { s with pc := .ended (.error (.origDstLiveRuntime detail)) }

def listenTurn (config : OrigDstLiveConfig) (listenerAddr : SocketAddr) (s : LiveMode) (o : Live.Op) : LiveMode :=
  match s.pc with
  | .listening => { s with listener := Live.step listenerAddr config.payloadCapacityBytes s.listener o }
  | _ => s

/-- what the mode makes of the result of the listener -/
def liveResult (config : OrigDstLiveConfig) (listenerAddr : SocketAddr) : Except UdpOrigDstError Unit → LivePc
  | .ok () => .coordinating ⟨listenerAddr, config.payloadCapacityBytes⟩
  | .error err => .ended (.error (.origDstLiveRuntime err.text))

def liveTurn (config : OrigDstLiveConfig) (listenerAddr : SocketAddr) (s : LiveMode) : LiveOp → LiveMode
  | .call result =>
    match s.pc with
    | .binding => launchTurn s .locating result
    | .locating => launchTurn s .listening result
    | _ => listenTurn config listenerAddr s (.call result)
  | .check => listenTurn config listenerAddr s .check
  | .receive recvmsg joinError => listenTurn config listenerAddr s (.receive recvmsg joinError)
  | .forward => listenTurn config listenerAddr s (.forward loggingOrigDstLiveHandoff)
  | .finish =>
    match s.pc, s.listener.pc with
    | .listening, .returned result => { s with pc := liveResult config listenerAddr result }
    | _, _ => s
  | .coordinate =>
    match s.pc with
    | .coordinating _ => { s with pc := .ended (.ok ()), shutdown := coordinateShutdown s.shutdown }
    | _ => s
  | .cancel => { s with listener := { s.listener with cancelled := true } }

/-- what a turn of the mode can come to -/
inductive LiveOutcome (config : OrigDstLiveConfig) (listenerAddr : SocketAddr) (o : LiveOp) (s : LiveMode) :
    LiveMode → Prop where
  | idle : LiveOutcome config listenerAddr o s s
  | launches (next : LivePc) (result : Except String Unit) (ho : o = .call result)
    (hpc : s.pc = .binding ∧ next = .locating ∨ s.pc = .locating ∧ next = .listening) :
    LiveOutcome config listenerAddr o s (launchTurn s next result)
  | listens (o' : Live.Op) (ho : o.listens = some o') (hpc : s.pc = .listening) :
    LiveOutcome config listenerAddr o s
      { s with listener := Live.step listenerAddr config.payloadCapacityBytes s.listener o' }
  | finishes (result : Except UdpOrigDstError Unit) (ho : o = .finish) (hpc : s.pc = .listening)
    (hresult : s.listener.pc = .returned result) :
    LiveOutcome config listenerAddr o s { s with pc := liveResult config listenerAddr result }
  | coordinates (launched : OrigDstLiveLaunchResult) (ho : o = .coordinate) (hpc : s.pc = .coordinating launched) :
    LiveOutcome config listenerAddr o s { s with pc := .ended (.ok ()), shutdown := coordinateShutdown s.shutdown }
  | cancel (ho : o = .cancel) :
    LiveOutcome config listenerAddr o s { s with listener := { s.listener with cancelled := true } }

variable {config : OrigDstLiveConfig} {listenerAddr : SocketAddr} {shutdown : ShutdownCoordinator}

theorem listenTurn_outcome (s : LiveMode) {o : LiveOp} {o' : Live.Op} (ho : o.listens = some o') :
    LiveOutcome config listenerAddr o s (listenTurn config listenerAddr s o') := by
  unfold listenTurn
  split
  · rename_i hpc
    exact .listens o' ho hpc
  · exact .idle

theorem liveTurn_outcome (config : OrigDstLiveConfig) (listenerAddr : SocketAddr) (s : LiveMode) (o : LiveOp) :
    LiveOutcome config listenerAddr o s (liveTurn config listenerAddr s o) := by
  cases o with
  | call result =>
    simp only [liveTurn]
    split
    · rename_i hpc
      exact .launches .locating result rfl (Or.inl ⟨hpc, rfl⟩)
    · rename_i hpc
      exact .launches .listening result rfl (Or.inr ⟨hpc, rfl⟩)
    · exact listenTurn_outcome s rfl
  | check | receive | forward => exact listenTurn_outcome s rfl
  | cancel => exact .cancel rfl
  | finish =>
    simp only [liveTurn]
    split
    · rename_i result hpc hresult
      exact .finishes result rfl hpc hresult
    · exact .idle
  | coordinate =>
    simp only [liveTurn]
    split
    · rename_i launched hpc
      exact .coordinates launched rfl hpc
    · exact .idle

/-! ## What was logged -/

/-- the packet names the listener, and the length that it says is its own -/
def LoggedWhole (listenerAddr : SocketAddr) (packet : RecoveredUdpTuple × List UInt8) : Prop :=
  packet.1.helperListenerAddr = listenerAddr ∧ packet.1.payloadLen = packet.2.length ∧
    packet.2.length ≤ maxDatagramPayloadBytes

/-- what the listener keeps in the mode -/
structure Logs (required : Bool) (listenerAddr : SocketAddr) (s : Listener) : Prop extends ListenerInv required s where
  named : ∀ recovered ∈ s.recovered, recovered.tuple.helperListenerAddr = listenerAddr
  inHand : ∀ recovered, s.pc = .forwarding recovered → recovered ∈ s.recovered
  logged : ∀ packet ∈ s.handedOff, LoggedWhole listenerAddr packet
  complete : s.pc = .returned (.ok ()) → s.recovered.map Live.handed = s.handedOff

variable {required : Bool} {payloadCapacity : UInt64}

theorem logs_start (required : Bool) (listenerAddr : SocketAddr) : Logs required listenerAddr (Live.start required) where
  toListenerInv := Live.listenerInv_start
  named := by intro recovered hmem; cases hmem
  inHand := by intro recovered hpc; cases hpc
  logged := by intro packet hmem; cases hmem
  complete := by intro hpc; cases hpc

/-- a recovered packet names the listener -/
theorem named_of_recovers {o : Live.Op} {recovered : LinuxRecoveredDatagram}
    (h : o.recovers listenerAddr payloadCapacity = some recovered) : recovered.tuple.helperListenerAddr = listenerAddr := by
  cases o with
  | receive recvmsg joinError =>
    cases recvmsg with
    | none => cases h
    | some recvmsg =>
      simp only [Live.Op.recovers] at h
      cases hrecv : recvRecoveredIpv4Datagram recvmsg listenerAddr payloadCapacity with
      | error fault =>
        rw [hrecv] at h
        cases h
      | ok datagram =>
        rw [hrecv] at h
        obtain rfl : datagram = recovered := Option.some.inj h
        obtain ⟨-, message, source, target, -, -, rfl⟩ := recv_eq_ok.1 hrecv
        rfl
  | _ => cases h

/-- what is handed off passed the checks of `forward_recovered_datagram` -/
theorem loggedWhole_of_handedOff {handoff : Handoff} {recovered : LinuxRecoveredDatagram}
    (hnamed : recovered.tuple.helperListenerAddr = listenerAddr) {packet : RecoveredUdpTuple × List UInt8}
    (h : (forwardRecoveredDatagram handoff recovered.tuple recovered.payload).handedOff = some packet) :
    LoggedWhole listenerAddr packet := by
  unfold forwardRecoveredDatagram at h
  split_ifs at h with hlength hlarge
  obtain rfl := Option.some.inj h
  exact ⟨hnamed, not_not.1 hlength, not_lt.1 hlarge⟩

theorem logs_forwarded {s : Listener} (h : Logs required listenerAddr s) {recovered : LinuxRecoveredDatagram}
    (hpc : s.pc = .forwarding recovered) (handoff : Handoff) :
    Logs required listenerAddr
      (Live.stepForwarded s (forwardRecoveredDatagram handoff recovered.tuple recovered.payload)) := by
  have hinv := Live.listenerInv_forwarded h.toListenerInv hpc handoff
  have hwhole : ∀ packet, (forwardRecoveredDatagram handoff recovered.tuple recovered.payload).handedOff = some packet →
      LoggedWhole listenerAddr packet :=
    fun packet hoff => loggedWhole_of_handedOff (h.named recovered (h.inHand recovered hpc)) hoff
  generalize forwardRecoveredDatagram handoff recovered.tuple recovered.payload = forwarding at hinv hwhole ⊢
  obtain ⟨off, result⟩ := forwarding
  refine ⟨hinv, h.named, ?_, ?_, ?_⟩
  · intro recovered' hnot
    cases result <;> cases hnot
  · intro packet hmem
    rcases List.mem_append.1 hmem with hmem | hmem
    · exact h.logged packet hmem
    · exact hwhole packet (Option.mem_toList.1 hmem)
  · intro hnot
    cases result <;> cases hnot

/-- **One step of the listener** logs a packet whole, or nothing. -/
theorem logs_step {s : Listener} (h : Logs required listenerAddr s) (o : Live.Op) :
    Logs required listenerAddr (Live.step listenerAddr payloadCapacity s o) := by
  have hinv : ListenerInv required (Live.step listenerAddr payloadCapacity s o) :=
    Live.listenerInv_step h.toListenerInv o
  have hout := Live.step_outcome listenerAddr payloadCapacity s o
  generalize Live.step listenerAddr payloadCapacity s o = s' at hinv hout ⊢
  cases hout with
  | idle => exact h
  | enables option rest hpc =>
    exact ⟨hinv, h.named, (by intro _ hnot; cases hnot), h.logged, (by intro hnot; cases hnot)⟩
  | moves pc hpc =>
    rcases hpc with ⟨-, rfl⟩ | ⟨-, -, rfl⟩ | ⟨-, rfl⟩ | ⟨-, rfl⟩ <;>
      exact ⟨hinv, h.named, (by intro _ hnot; cases hnot), h.logged, (by intro hnot; cases hnot)⟩
  | stops hpc hcancelled =>
    have hhanded := h.handed
    rw [hpc] at hhanded
    exact ⟨hinv, h.named, (by intro _ hnot; cases hnot), h.logged, fun _ => hhanded⟩
  | fails error hpc =>
    exact ⟨hinv, h.named, (by intro _ hnot; cases hnot), h.logged, (by intro hnot; cases hnot)⟩
  | recovers recovered hpc ho =>
    refine ⟨hinv, ?_, ?_, h.logged, (by intro hnot; cases hnot)⟩
    · intro recovered' hmem
      rcases List.mem_append.1 hmem with hmem | hmem
      · exact h.named recovered' hmem
      · obtain rfl := List.mem_singleton.1 hmem
        exact named_of_recovers ho
    · intro recovered' hin
      cases hin
      exact List.mem_append_right _ (List.mem_singleton_self recovered)
  | forwards recovered handoff hpc => exact logs_forwarded h hpc handoff
  | cancel => exact ⟨hinv, h.named, h.inHand, h.logged, h.complete⟩

/-! ## Why the mode stands where it stands -/

/-- what has led to where the mode stands -/
def LivePc.Accords (config : OrigDstLiveConfig) (listenerAddr : SocketAddr) (shutdown : ShutdownCoordinator)
    (s : LiveMode) : LivePc → Prop
  | .binding | .locating =>
    s.shutdown = shutdown ∧ s.listener.pc = (Live.start (transparentSocketRequired config)).pc
  | .listening => s.shutdown = shutdown
  | .coordinating launched =>
    s.shutdown = shutdown ∧ s.listener.pc = .returned (.ok ()) ∧ launched = ⟨listenerAddr, config.payloadCapacityBytes⟩
  | .ended (.ok ()) => s.shutdown = coordinateShutdown shutdown ∧ s.listener.pc = .returned (.ok ())
  | .ended (.error err) =>
    s.shutdown = shutdown ∧ ∃ detail, err = .origDstLiveRuntime detail ∧
      (s.listener.pc = (Live.start (transparentSocketRequired config)).pc ∨
        ∃ cause, s.listener.pc = .returned (.error cause) ∧ detail = cause.text)

structure LiveInv (config : OrigDstLiveConfig) (listenerAddr : SocketAddr) (shutdown : ShutdownCoordinator)
    (s : LiveMode) : Prop where
  listener : Logs (transparentSocketRequired config) listenerAddr s.listener
  accords : s.pc.Accords config listenerAddr shutdown s

theorem liveInv_start (config : OrigDstLiveConfig) (listenerAddr : SocketAddr) (shutdown : ShutdownCoordinator) :
    LiveInv config listenerAddr shutdown (LiveMode.start config shutdown) :=
  ⟨logs_start (transparentSocketRequired config) listenerAddr, rfl, rfl⟩

/-- **One turn of the mode.** -/
theorem liveInv_turn {s : LiveMode} (h : LiveInv config listenerAddr shutdown s) (o : LiveOp) :
    LiveInv config listenerAddr shutdown (liveTurn config listenerAddr s o) := by
  have hout := liveTurn_outcome config listenerAddr s o
  generalize liveTurn config listenerAddr s o = s' at hout ⊢
  obtain ⟨hlistener, haccords⟩ := h
  cases hout with
  | idle => exact ⟨hlistener, haccords⟩
  | launches next result ho hpc =>
    have hbefore : s.shutdown = shutdown ∧ s.listener.pc = (Live.start (transparentSocketRequired config)).pc := by
      rcases hpc with ⟨hpc, -⟩ | ⟨hpc, -⟩ <;> rw [hpc] at haccords <;> exact haccords
    cases result with
    | error detail => exact ⟨hlistener, hbefore.1, detail, rfl, Or.inl hbefore.2⟩
    | ok =>
      rcases hpc with ⟨-, rfl⟩ | ⟨-, rfl⟩
      · exact ⟨hlistener, hbefore⟩
      · exact ⟨hlistener, hbefore.1⟩
  | listens o' ho hpc =>
    refine ⟨logs_step hlistener o', ?_⟩
    rw [hpc] at haccords ⊢
    exact haccords
  | finishes result ho hpc hresult =>
    rw [hpc] at haccords
    cases result with
    | ok => exact ⟨hlistener, haccords, hresult, rfl⟩
    | error err => exact ⟨hlistener, haccords, err.text, rfl, Or.inr ⟨err, hresult, rfl⟩⟩
  | coordinates launched ho hpc =>
    rw [hpc] at haccords
    obtain ⟨hshutdown, hreturned, -⟩ := haccords
    exact ⟨hlistener, by rw [hshutdown], hreturned⟩
  | cancel ho =>
    have hcancelled : Logs (transparentSocketRequired config) listenerAddr
        (Live.step listenerAddr config.payloadCapacityBytes s.listener .cancel) := logs_step hlistener .cancel
    refine ⟨hcancelled, ?_⟩
    cases hpc : s.pc with
    | ended result =>
      rw [hpc] at haccords
      cases result <;> exact haccords
    | _ =>
      rw [hpc] at haccords
      exact haccords

/-- the mode leaves the coordinator that `run_until_shutdown_from` returns -/
theorem LiveInv.exit {started : ApplicationRunResult} {s : LiveMode}
    (h : LiveInv config listenerAddr started.shutdown s) {result : Except CliRuntimeError Unit}
    (hpc : s.pc = .ended result) :
    (runUntilShutdownFrom (.ok started) fun _ => result).map (·.shutdown) = result.map fun _ => s.shutdown := by
  have haccords := h.accords
  rw [hpc] at haccords
  cases result with
  | ok =>
    rw [Except.map, haccords.1]
    rfl
  | error err => rfl

/-- what the live helper keeps -/
structure LiveSound (config : OrigDstLiveConfig) (listenerAddr : SocketAddr) (shutdown : ShutdownCoordinator)
    (s : LiveMode) : Prop where
  /-- the listener gives a result only when it is cancelled -/
  launched : ∀ launched, s.pc = .coordinating launched → s.listener.cancelled = true ∧
    launched = ⟨listenerAddr, config.payloadCapacityBytes⟩
  /-- an exit without an error was asked for, has logged every packet it took, and only it coordinates the shutdown -/
  succeeded : s.pc = .ended (.ok ()) → s.listener.cancelled = true ∧
    s.listener.recovered.map Live.handed = s.listener.handedOff ∧ s.shutdown = coordinateShutdown shutdown
  untouched : s.pc ≠ .ended (.ok ()) → s.shutdown = shutdown
  /-- an exit with one says what the listener ended with, unless there is no listener yet, and then nothing was taken -/
  failed : ∀ err, s.pc = .ended (.error err) → ∃ detail, err = .origDstLiveRuntime detail ∧
    (s.listener.recovered = [] ∨ ∃ cause, s.listener.pc = .returned (.error cause) ∧ detail = cause.text)
  /-- what was logged is what was recovered, in order, but for the last packet -/
  inOrder : ∃ rest, rest.length ≤ 1 ∧ s.listener.recovered.map Live.handed = s.listener.handedOff ++ rest
  logged : ∀ packet ∈ s.listener.handedOff, LoggedWhole listenerAddr packet

/-- **A live helper from its socket to its exit code.** After every run, whatever its calls come back with, whatever packets
come, and whenever the process is told to stop: an exit without an error was asked for, has logged every packet that was
recovered, and only it has coordinated the shutdown; an exit with one says what the listener ended with, or came before
anything was taken; what was logged is what was recovered, in order, each packet with the listener's address and its own
length, but for the last packet at most. -/
theorem live_mode_sound (config : OrigDstLiveConfig) (listenerAddr : SocketAddr) (shutdown : ShutdownCoordinator)
    (ops : List LiveOp) :
    LiveSound config listenerAddr shutdown
      (run (liveTurn config listenerAddr) (LiveMode.start config shutdown) ops) := by
  have hstep : ∀ (s : LiveMode) (o : LiveOp), LiveInv config listenerAddr shutdown s →
      LiveInv config listenerAddr shutdown (liveTurn config listenerAddr s o) := fun _ o h => liveInv_turn h o
  have hinv := run_inv hstep ops (liveInv_start config listenerAddr shutdown)
  generalize run (liveTurn config listenerAddr) (LiveMode.start config shutdown) ops = s at hinv ⊢
  obtain ⟨hlistener, haccords⟩ := hinv
  constructor
  · intro launched hpc
    rw [hpc] at haccords
    obtain ⟨-, hreturned, hlaunched⟩ := haccords
    exact ⟨hlistener.stopped hreturned, hlaunched⟩
  · intro hpc
    rw [hpc] at haccords
    obtain ⟨hshutdown, hreturned⟩ := haccords
    exact ⟨hlistener.stopped hreturned, hlistener.complete hreturned, hshutdown⟩
  · intro hpc
    cases hs : s.pc with
    | ended result =>
      rw [hs] at haccords
      cases result with
      | ok => exact absurd hs hpc
      | error err => exact haccords.1
    | listening =>
      rw [hs] at haccords
      exact haccords
    | _ =>
      rw [hs] at haccords
      exact haccords.1
  · intro err hpc
    rw [hpc] at haccords
    obtain ⟨-, detail, herr, hcause⟩ := haccords
    refine ⟨detail, herr, hcause.imp_left fun hunstarted => ?_⟩
    have henabled := hlistener.enabled
    rw [hunstarted] at henabled
    exact henabled.2
  · exact Live.handed_rest hlistener.handed
  · exact hlistener.logged

/-! ## The end of the mode -/

/-- the operation is the one that the listener waits for -/
def ListenerWaits (s : Listener) : Live.Op → Prop
  | .call _ => s.pc.isCalling = true
  | .check => s.pc = .checking
  | .receive _ _ => s.pc = .receiving
  | .forward _ => ∃ recovered, s.pc = .forwarding recovered
  | .cancel => False

/-- the operation is the one that the mode waits for -/
def Waits (s : LiveMode) (o : LiveOp) : Prop :=
  match s.pc with
  | .binding | .locating => ∃ result, o = .call result
  | .listening =>
    (∃ o', o.listens = some o' ∧ ListenerWaits s.listener o') ∨ o = .finish ∧ ∃ result, s.listener.pc = .returned result
  | .coordinating _ => o = .coordinate
  | .ended _ => False

/-- what the mode waits for can come about; a blocking receive only because it has a timeout -/
def LiveReady (s : LiveMode) : Prop :=
  match s.pc with
  | .listening => s.listener.pc = .receiving → Live.SocketOption.readTimeout ∈ s.listener.enabled
  | .ended _ => False
  | .binding | .locating | .coordinating _ => True

/-- a call of the turn fails -/
def LiveFails (config : OrigDstLiveConfig) (s : LiveMode) (o : LiveOp) : Prop :=
  match s.pc with
  | .binding | .locating => ∃ detail, o = .call (.error detail)
  | .listening => ∃ o', o.listens = some o' ∧ Live.Fails config.payloadCapacityBytes s.listener o'
  | .coordinating _ | .ended _ => False

/-- what a listener has left to do under a cancelled token -/
def listenerLeft : Live.Pc → ℕ
  | .enabling rest => rest.length + 2
  | .cloning => 4
  | .receiving => 3
  | .forwarding _ => 2
  | .checking => 1
  | .returned _ => 0

/-- what the mode has left to do once it is told to end -/
def liveLeft (s : LiveMode) : ℕ :=
  match s.pc with
  | .binding => listenerLeft s.listener.pc + 4
  | .locating => listenerLeft s.listener.pc + 3
  | .listening => listenerLeft s.listener.pc + 2
  | .coordinating _ => 1
  | .ended _ => 0

/-- it is told to stop, or there is an error that ends it, or it is over -/
def Told (s : LiveMode) : Prop :=
  s.listener.cancelled = true ∨ Live.Failed s.listener ∨ ∃ result, s.pc = .ended result

theorem step_pc_of_not_waits {s : Listener} {o : Live.Op} (h : ¬ListenerWaits s o) :
    (Live.step listenerAddr payloadCapacity s o).pc = s.pc := by
  obtain ⟨pc, cancelled, enabled, recovered, handedOff⟩ := s
  cases o with
  | call result =>
    cases pc with
    | enabling | cloning => exact absurd rfl h
    | _ => cases result <;> rfl
  | check =>
    cases pc with
    | checking => exact absurd rfl h
    | _ => rfl
  | receive recvmsg joinError =>
    cases pc with
    | receiving => exact absurd rfl h
    | _ => rfl
  | forward handoff =>
    cases pc with
    | forwarding packet => exact absurd ⟨packet, rfl⟩ h
    | _ => rfl
  | cancel => rfl

theorem listenerLeft_waits {s : Listener} (hcancelled : s.cancelled = true) {o : Live.Op} (h : ListenerWaits s o) :
    listenerLeft (Live.step listenerAddr payloadCapacity s o).pc < listenerLeft s.pc := by
  obtain ⟨pc, cancelled, enabled, recovered, handedOff⟩ := s
  obtain rfl : cancelled = true := hcancelled
  cases o with
  | call result =>
    cases pc with
    | enabling rest => cases result <;> cases rest <;> simp [Live.step, Live.stepCall, Live.fail, listenerLeft]
    | cloning => cases result <;> simp [Live.step, Live.stepCall, Live.fail, listenerLeft]
    | _ => cases h
  | check =>
    obtain rfl : pc = .checking := h
    exact Nat.zero_lt_one
  | receive recvmsg joinError =>
    obtain rfl : pc = .receiving := h
    simp only [Live.step, Live.stepReceive]
    generalize Live.joined joinError _ = result
    cases result with
    | ok datagram => exact Nat.lt_succ_self 2
    | error error => cases error <;> simp [Live.stepReceived, Live.fail, listenerLeft]
  | forward handoff =>
    obtain ⟨packet, rfl⟩ : ∃ packet, pc = .forwarding packet := h
    simp only [Live.step, Live.stepForward, Live.stepForwarded]
    cases (forwardRecoveredDatagram handoff packet.tuple packet.payload).result <;> simp [listenerLeft]
  | cancel => cases h

/-- a listener that has returned waits for nothing -/
theorem not_listenerWaits_of_returned {s : Listener} {result : Except UdpOrigDstError Unit}
    (hpc : s.pc = .returned result) (o : Live.Op) : ¬ListenerWaits s o := by
  intro h
  cases o with
  | call =>
    simp only [ListenerWaits, hpc] at h
    cases h
  | forward =>
    obtain ⟨packet, hforwarding⟩ := h
    rw [hpc] at hforwarding
    cases hforwarding
  | cancel => cases h
  | _ =>
    simp only [ListenerWaits, hpc] at h
    cases h

theorem liveTurn_listens {s : LiveMode} (hpc : s.pc = .listening) {o : LiveOp} {o' : Live.Op}
    (ho : o.listens = some o') : liveTurn config listenerAddr s o =
      { s with listener := Live.step listenerAddr config.payloadCapacityBytes s.listener o' } := by
  cases o with
  | finish | coordinate | cancel => cases ho
  | _ =>
    obtain rfl := Option.some.inj ho
    simp only [liveTurn, listenTurn, hpc]

/-- what the mode does not wait for moves neither it nor its listener -/
theorem liveTurn_of_not_waits (config : OrigDstLiveConfig) (listenerAddr : SocketAddr) {s : LiveMode} {o : LiveOp}
    (h : ¬Waits s o) :
    (liveTurn config listenerAddr s o).pc = s.pc ∧ (liveTurn config listenerAddr s o).listener.pc = s.listener.pc := by
  have hout := liveTurn_outcome config listenerAddr s o
  generalize liveTurn config listenerAddr s o = s' at hout ⊢
  unfold Waits at h
  cases hout with
  | idle | cancel => exact ⟨rfl, rfl⟩
  | launches next result ho hpc => rcases hpc with ⟨hpc, -⟩ | ⟨hpc, -⟩ <;> rw [hpc] at h <;> exact absurd ⟨result, ho⟩ h
  | listens o' ho hpc =>
    rw [hpc] at h
    exact ⟨rfl, step_pc_of_not_waits fun hwaits => h (Or.inl ⟨o', ho, hwaits⟩)⟩
  | finishes result ho hpc hresult =>
    rw [hpc] at h
    exact absurd (Or.inr ⟨ho, result, hresult⟩) h
  | coordinates launched ho hpc =>
    rw [hpc] at h
    exact absurd ho h

theorem liveLeft_of_not_waits {s : LiveMode} {o : LiveOp} (h : ¬Waits s o) :
    liveLeft (liveTurn config listenerAddr s o) = liveLeft s := by
  obtain ⟨hpc, hlistener⟩ := liveTurn_of_not_waits config listenerAddr h
  rw [liveLeft, liveLeft, hpc, hlistener]

/-- **Once the mode is told to end,** what it waits for leaves it less to do. -/
theorem liveLeft_waits {s : LiveMode} (htold : Told s) {o : LiveOp} (h : Waits s o) :
    liveLeft (liveTurn config listenerAddr s o) < liveLeft s := by
  unfold Waits at h
  cases hpc : s.pc with
  | binding | locating =>
    rw [hpc] at h
    obtain ⟨result, rfl⟩ := h
    cases result <;> simp [liveTurn, launchTurn, liveLeft, hpc]
  | listening =>
    rw [hpc] at h
    rcases h with ⟨o', ho, hwaits⟩ | ⟨rfl, result, hresult⟩
    · have hcancelled : s.listener.cancelled = true := by
        rcases htold with hcancelled | ⟨error, hfailed⟩ | ⟨result, hended⟩
        · exact hcancelled
        · exact absurd hwaits (not_listenerWaits_of_returned hfailed o')
        · rw [hpc] at hended
          cases hended
      have hless : listenerLeft (Live.step listenerAddr config.payloadCapacityBytes s.listener o').pc <
          listenerLeft s.listener.pc := listenerLeft_waits hcancelled hwaits
      rw [liveTurn_listens hpc ho]
      simp only [liveLeft, hpc]
      omega
    · cases result <;> simp [liveTurn, liveResult, liveLeft, hpc, hresult]
  | coordinating launched =>
    rw [hpc] at h
    obtain rfl : o = .coordinate := h
    simp [liveTurn, liveLeft, hpc]
  | ended result =>
    rw [hpc] at h
    exact h.elim

theorem failed_step {s : Listener} (h : Live.Failed s) (o : Live.Op) :
    Live.Failed (Live.step listenerAddr payloadCapacity s o) := by
  obtain ⟨error, hpc⟩ := h
  exact ⟨error, by rw [step_pc_of_not_waits (not_listenerWaits_of_returned hpc o), hpc]⟩

/-- it stays told -/
theorem told_turn {s : LiveMode} (h : Told s) (o : LiveOp) : Told (liveTurn config listenerAddr s o) := by
  have hout := liveTurn_outcome config listenerAddr s o
  generalize liveTurn config listenerAddr s o = s' at hout ⊢
  unfold Told at h ⊢
  cases hout with
  | idle => exact h
  | cancel => exact Or.inl rfl
  | listens o' ho hpc =>
    rcases h with hcancelled | hfailed | ⟨result, hended⟩
    · exact Or.inl (Live.pending_step listenerAddr config.payloadCapacityBytes hcancelled o').1
    · exact Or.inr (Or.inl (failed_step hfailed o'))
    · rw [hpc] at hended
      cases hended
  | launches next result ho hpc =>
    rcases h with hcancelled | hfailed | ⟨result, hended⟩
    · left
      cases result <;> exact hcancelled
    · right; left
      cases result <;> exact hfailed
    · rcases hpc with ⟨hpc, -⟩ | ⟨hpc, -⟩ <;> rw [hpc] at hended <;> cases hended
  | finishes result ho hpc hresult =>
    rcases h with hcancelled | hfailed | ⟨result, hended⟩
    · exact Or.inl hcancelled
    · exact Or.inr (Or.inl hfailed)
    · rw [hpc] at hended
      cases hended
  | coordinates launched ho hpc => exact Or.inr (Or.inr ⟨_, rfl⟩)

theorem told_of_fails {s : LiveMode} {o : LiveOp} (h : LiveFails config s o) :
    Told (liveTurn config listenerAddr s o) := by
  unfold LiveFails at h
  cases hpc : s.pc with
  | binding | locating =>
    rw [hpc] at h
    obtain ⟨detail, rfl⟩ := h
    simp only [liveTurn, hpc, launchTurn]
    exact Or.inr (Or.inr ⟨_, rfl⟩)
  | listening =>
    rw [hpc] at h
    obtain ⟨o', ho, hfails⟩ := h
    rw [liveTurn_listens hpc ho]
    right; left
    by_cases hfailed : Live.Failed s.listener
    · exact failed_step hfailed o'
    · exact (Live.failed_step_iff hfailed o').2 hfails
  | coordinating | ended =>
    rw [hpc] at h
    exact h.elim

/-- no error has ended the listener or the mode -/
def Unfailed (s : LiveMode) : Prop := ¬Live.Failed s.listener ∧ ∀ err, s.pc ≠ .ended (.error err)

theorem unfailed_turn {s : LiveMode} (h : Unfailed s) {o : LiveOp} (hfine : ¬LiveFails config s o) :
    Unfailed (liveTurn config listenerAddr s o) := by
  have hout := liveTurn_outcome config listenerAddr s o
  generalize liveTurn config listenerAddr s o = s' at hout ⊢
  unfold LiveFails at hfine
  obtain ⟨hlistener, hpcs⟩ := h
  cases hout with
  | idle => exact ⟨hlistener, hpcs⟩
  | cancel => exact ⟨hlistener, hpcs⟩
  | launches next result ho hpc =>
    rcases hpc with ⟨hpc, rfl⟩ | ⟨hpc, rfl⟩ <;> rw [hpc] at hfine <;> cases result with
    | ok => exact ⟨hlistener, by intro err hnot; cases hnot⟩
    | error detail => exact absurd ⟨detail, ho⟩ hfine
  | listens o' ho hpc =>
    rw [hpc] at hfine
    refine ⟨fun hfailed => hfine ⟨o', ho, (Live.failed_step_iff hlistener o').1 hfailed⟩, ?_⟩
    intro err hnot
    rw [hpc] at hnot
    cases hnot
  | finishes result ho hpc hresult =>
    cases result with
    | ok => exact ⟨hlistener, by intro err hnot; cases hnot⟩
    | error error => exact absurd ⟨error, hresult⟩ hlistener
  | coordinates launched ho hpc => exact ⟨hlistener, by intro err hnot; cases hnot⟩

theorem ended_turn {s : LiveMode} {result : Except CliRuntimeError Unit} (hpc : s.pc = .ended result) (o : LiveOp) :
    (liveTurn config listenerAddr s o).pc = .ended result := by
  have hnot : ¬Waits s o := by
    unfold Waits
    rw [hpc]
    exact id
  rw [(liveTurn_of_not_waits config listenerAddr hnot).1, hpc]

theorem ended_of_left {s : LiveMode} (h : liveLeft s = 0) : ∃ result, s.pc = .ended result := by
  unfold liveLeft at h
  cases hpc : s.pc with
  | ended result => exact ⟨result, rfl⟩
  | _ =>
    rw [hpc] at h
    simp at h

/-- a mode that is not over can go on: where the listener receives, its timeout is set -/
theorem liveReady_of_inv {s : LiveMode} (h : LiveInv config listenerAddr shutdown s) (hleft : liveLeft s ≠ 0) :
    LiveReady s := by
  unfold LiveReady
  cases hpc : s.pc with
  | listening =>
    intro hreceiving
    have henabled := h.listener.enabled
    rw [hreceiving] at henabled
    have hall : s.listener.enabled = socketOptions (transparentSocketRequired config) := henabled
    rw [hall]
    exact List.mem_append_right _ (by simp)
  | ended result => exact absurd (by rw [liveLeft, hpc]) hleft
  | _ => trivial

section Fairness

variable {r : LongRun (liveTurn config listenerAddr)}

/-- **A live helper ends when it is told to.** In every run in which what the mode waits for comes about some time, the
blocking receive once its timeout is set, whatever packets come or do not come: the mode ends, with one result for good, if
and only if the process is told to stop or a call of the mode or of its listener fails. -/
theorem live_mode_ends_iff (hstart : r.start = LiveMode.start config shutdown) (hfair : r.WeakFair LiveReady Waits) :
    (∃ n result, ∀ m, n ≤ m → (r.state m).pc = .ended result) ↔
      ∃ n, (r.state n).listener.cancelled = true ∨ LiveFails config (r.state n) (r.ops n) := by
  have hinv : ∀ n, LiveInv config listenerAddr shutdown (r.state n) := by
    intro n
    have hbegin : LiveInv config listenerAddr shutdown r.start := by
      rw [hstart]
      exact liveInv_start config listenerAddr shutdown
    exact r.stays (P := LiveInv config listenerAddr shutdown) (fun s o h => liveInv_turn h o) (n := 0) hbegin
      (Nat.zero_le n)
  constructor
  · rintro ⟨n, result, hended⟩
    by_contra hnever
    have hquiet : ∀ m, (r.state m).listener.cancelled ≠ true ∧ ¬LiveFails config (r.state m) (r.ops m) :=
      fun m => not_or.1 fun h => hnever ⟨m, h⟩
    have hbegin : Unfailed r.start := by
      rw [hstart]
      exact ⟨by rintro ⟨error, ⟨⟩⟩, by rintro err ⟨⟩⟩
    have hunfailed : Unfailed (r.state n) :=
      r.state_inv (C := fun s o => ¬LiveFails config s o) (fun s o h hfine => unfailed_turn h hfine) hbegin
        (fun m => (hquiet m).2) n
    have hpc := hended n le_rfl
    have haccords := (hinv n).accords
    rw [hpc] at haccords
    cases result with
    | ok => exact (hquiet n).1 ((hinv n).listener.stopped haccords.2)
    | error err => exact hunfailed.2 err hpc
  · rintro ⟨n, h⟩
    obtain ⟨k, htold⟩ : ∃ k, Told (r.state k) := by
      rcases h with hcancelled | hfails
      · exact ⟨n, Or.inl hcancelled⟩
      · exact ⟨n + 1, told_of_fails hfails⟩
    have hstays : ∀ m, k ≤ m → Told (r.state m) :=
      fun m hm => r.stays (P := Told) (fun s o h => told_turn h o) htold hm
    have hdown : ∀ m, k ≤ m → liveLeft (r.state (m + 1)) ≤ liveLeft (r.state m) := by
      intro m hm
      by_cases hwaits : Waits (r.state m) (r.ops m)
      · exact (liveLeft_waits (hstays m hm) hwaits).le
      · exact (liveLeft_of_not_waits hwaits).le
    obtain ⟨j, -, hzero⟩ := hfair.exists_zero hdown (fun m hm hleft => liveReady_of_inv (hinv m) hleft)
      (fun m hm hwaits _ => liveLeft_waits (hstays m hm) hwaits)
    obtain ⟨result, hpc⟩ := ended_of_left hzero
    exact ⟨j, result, fun m hm =>
      r.stays (P := fun s => s.pc = .ended result) (fun s o h => ended_turn h o) hpc hm⟩

end Fairness

/-- nothing comes in time, and the process is told to stop -/
def quietNetwork : List LiveOp :=
  [.call (.ok ()), .call (.ok ()), .call (.ok ()), .call (.ok ()), .call (.ok ()), .check, .call (.ok ()),
    .receive (some fun _ => .error (.timedOut, "timed out")) "", .cancel, .check, .finish, .coordinate]

/-- after which nothing happens -/
def quietRun : LongRun (liveTurn (liveConfig 2048) (.v4 ⟨127, 0, 0, 1⟩ 10073)) :=
  LongRun.scripted (liveTurn (liveConfig 2048) (.v4 ⟨127, 0, 0, 1⟩ 10073))
    (LiveMode.start (liveConfig 2048) (.new 60000000000 90000000000)) quietNetwork .cancel

/-- a helper that no packet reaches ends all the same, without an error -/
theorem quiet_network_does_not_hold :
    (∃ n result, ∀ m, n ≤ m → (quietRun.state m).pc = .ended result) ∧ (quietRun.state 12).pc = .ended (.ok ()) := by
  have hsettles : LongRun.Settles quietRun 12 .cancel := LongRun.settles_scripted (by decide) rfl
  have hpc : (quietRun.state 12).pc = .ended (.ok ()) := rfl
  refine ⟨(live_mode_ends_iff rfl ?_).2 ⟨9, Or.inl rfl⟩, hpc⟩
  apply LongRun.weakFair_of_settled hsettles
  intro hready
  rw [LiveReady, hpc] at hready
  exact hready.elim

end N0wss.Cli
