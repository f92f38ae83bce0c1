/-
One UDP ASSOCIATE session from the registration of its relay socket on (`handle_connection` and the UdpAssociate arm of
`handle_connection_inner` in `socks5/mod.rs`): the handler reads the control stream until it ends, cancels the relay task,
waits for it and takes the relay socket out of the registry. The total timeout drops the handler where it stands: the task
it spawned goes on, and its cancellation token is not cancelled by being dropped.

The handler, the relay task, the timeout and other sessions take turns in any order. The handler is suspended in two
places: reading the control stream, and waiting for the task.

- `inv_step`: while the handler is suspended the socket is registered, and once it waits the token is cancelled.
- `udp_associate_cleans_up_iff`: the socket is gone and the task ended or cancelled in every state after the handler, if
  and only if no timeout drops a suspended handler and no handler waits for a task that panicked.
- `total_timeout_leaves_socket`: a timeout leaves the socket registered and the task running.
-/
import N0wss.Core.Machine
import N0wss.Socks5.RelayLoop
import N0wss.Socks5.Request

namespace N0wss.Socks5

open Machine Net

/-! ## The handler and its task -/

inductive Handler where
  | reading
  | joining (control : Except Socks5Error Unit)
  | returned (result : Except Socks5Error Unit)
deriving DecidableEq

def Handler.isReturned : Handler → Bool
  | .returned _ => true
  | _ => false

inductive RelayTask where
  | loop (status : LoopStatus)
  | panicked (detail : String)
deriving DecidableEq

def RelayTask.isEnded : RelayTask → Bool
  | .loop status => !status.isRunning
  | .panicked _ => true

structure UdpSession where
  relayAddr : SocketAddr
  handler : Handler
  /-- the spawned relay loop, if a runtime target is configured -/
  task : Option RelayTask
  /-- the state of the task's token -/
  cancelled : Bool
deriving DecidableEq

def UdpSession.taskEnded (s : UdpSession) : Bool := s.task.all RelayTask.isEnded

inductive SessionOp where
  /-- a read of the control stream: how many bytes, or an error -/
  | controlRead (read : Except String ℕ)
  /-- a turn of the relay loop, and what its hand-over returns -/
  | relay (input : LoopInput) (handOff : Except UdpAssociateError Unit)
  | panic (detail : String)
  /-- the task the handler waits for has ended -/
  | join
  | totalTimeout
deriving DecidableEq

/-- a session right after its socket was registered -/
def UdpSession.start (relayAddr : SocketAddr) (clientHint : TargetAddr) (hasRuntime : Bool) : UdpSession :=
  ⟨relayAddr, .reading, if hasRuntime then some (.loop (relayLoop clientHint)) else none, false⟩

/-- from the end of the control loop to the next suspension, and whether the socket is taken out on the way -/
def UdpSession.endControl (s : UdpSession) (control : Except Socks5Error Unit) : UdpSession × Bool :=
  match s.task with
  | some _ => ({ s with handler := .joining control, cancelled := true }, false)
  | none => ({ s with handler := .returned control }, true)

/-- from the end of the relay task to the end of the handler -/
def UdpSession.endJoin (v6 : Ipv6Text) (s : UdpSession) (control : Except Socks5Error Unit) : RelayTask → UdpSession × Bool
  -- the error of the join is returned before the socket is taken out
  | .panicked detail => ({ s with handler := .returned (.error (.io detail)) }, false)
  | .loop (.running _) => (s, false)
  | .loop (.ended (.error err)) => ({ s with handler := .returned (.error (.io (err.text v6))) }, true)
  | .loop (.ended (.ok ())) => ({ s with handler := .returned control }, true)

/-- one turn of the relay task -/
def UdpSession.relay (s : UdpSession) (input : LoopInput) (handOff : Except UdpAssociateError Unit) : UdpSession :=
  match s.task with
  | some (.loop status) =>
    -- only a cancelled token makes the loop see its cancellation
    if input = .cancelled ∧ s.cancelled = false then s
    else { s with task := some (.loop (relayTurn s.relayAddr handOff status input).1) }
  | _ => s

/-- one step of a session, and whether it takes the socket out of the registry -/
def UdpSession.step (v6 : Ipv6Text) (s : UdpSession) : SessionOp → UdpSession × Bool
  | .controlRead read =>
    match s.handler, read with
    | .reading, .ok 0 => s.endControl (.ok ())
    | .reading, .error detail => s.endControl (.error (.io detail))
    | _, _ => (s, false)
  | .relay input handOff => (s.relay input handOff, false)
  | .panic detail =>
    match s.task with
    | some (.loop (.running _)) => ({ s with task := some (.panicked detail) }, false)
    | _ => (s, false)
  | .join =>
    match s.handler, s.task with
    | .joining control, some task => s.endJoin v6 control task
    | _, _ => (s, false)
  | .totalTimeout =>
    match s.handler with
    | .returned _ => (s, false)
    | _ => ({ s with handler := .returned (.error (.io "socks5 total timeout exceeded")) }, false)

/-! ## The session among others -/

structure SessionSt (Socket : Type) where
  session : UdpSession
  sockets : UdpRelaySocketRegistry Socket

inductive SystemOp (Socket : Type) where
  | own (op : SessionOp)
  /-- another session registers its socket; two open sockets have two addresses -/
  | otherRegister (relayAddr : SocketAddr) (socket : Socket)
  | otherRemove (relayAddr : SocketAddr)

variable {Socket : Type} (v6 : Ipv6Text)

/-- the session as it is now, with its socket taken out if it says so -/
def SessionSt.become (s : SessionSt Socket) (next : UdpSession × Bool) : SessionSt Socket :=
  ⟨next.1, if next.2 then s.sockets.remove s.session.relayAddr else s.sockets⟩

def stepSession (s : SessionSt Socket) : SystemOp Socket → SessionSt Socket
  | .own op => s.become (s.session.step v6 op)
  | .otherRegister relayAddr socket =>
    if relayAddr = s.session.relayAddr then s else { s with sockets := s.sockets.register relayAddr socket }
  | .otherRemove relayAddr =>
    if relayAddr = s.session.relayAddr then s else { s with sockets := s.sockets.remove relayAddr }

/-- the socket was registered and, with a runtime target, the relay task spawned -/
def startSession (relayAddr : SocketAddr) (clientHint : TargetAddr) (hasRuntime : Bool) (socket : Socket)
    (sockets : UdpRelaySocketRegistry Socket) : SessionSt Socket :=
  ⟨.start relayAddr clientHint hasRuntime, sockets.register relayAddr socket⟩

/-- the relay socket of the session is registered -/
def SessionSt.registered (s : SessionSt Socket) : Bool := (s.sockets.socketFor s.session.relayAddr).isSome

/-- once the handler has ended, the socket is gone and the relay task has ended or is cancelled -/
def CleanedUp (s : SessionSt Socket) : Prop :=
  s.session.handler.isReturned = true →
    s.registered = false ∧ (s.session.taskEnded = true ∨ s.session.cancelled = true)

instance (s : SessionSt Socket) : Decidable (CleanedUp s) := inferInstanceAs (Decidable (_ → _))

/-- the timeout drops no suspended handler, and no handler is waiting for a task that panicked -/
def CleanExit (s : SessionSt Socket) : SystemOp Socket → Prop
  | .own .totalTimeout => s.session.handler.isReturned = true
  | .own .join => ∀ control detail, s.session.handler = .joining control → s.session.task ≠ some (.panicked detail)
  | _ => True

/-! ## The invariant -/

structure SessionInv (s : SessionSt Socket) : Prop where
  /-- as long as the handler has not ended, the socket is registered -/
  suspended : s.session.handler.isReturned = false → s.registered = true
  /-- a handler that waits has cancelled the token -/
  joining : ∀ control, s.session.handler = .joining control → s.session.cancelled = true
  cleanedUp : CleanedUp s

@[simp] theorem relayAddr_relay (s : UdpSession) (input : LoopInput) (handOff : Except UdpAssociateError Unit) :
    (s.relay input handOff).relayAddr = s.relayAddr := by
  unfold UdpSession.relay
  repeat' split
  all_goals rfl

@[simp] theorem handler_relay (s : UdpSession) (input : LoopInput) (handOff : Except UdpAssociateError Unit) :
    (s.relay input handOff).handler = s.handler := by
  unfold UdpSession.relay
  repeat' split
  all_goals rfl

@[simp] theorem cancelled_relay (s : UdpSession) (input : LoopInput) (handOff : Except UdpAssociateError Unit) :
    (s.relay input handOff).cancelled = s.cancelled := by
  unfold UdpSession.relay
  repeat' split
  all_goals rfl

/-- an ended task stays ended -/
theorem taskEnded_relay {s : UdpSession} (h : s.taskEnded = true) (input : LoopInput)
    (handOff : Except UdpAssociateError Unit) : (s.relay input handOff).taskEnded = true := by
  unfold UdpSession.relay
  split
  · rename_i status htask
    split
    · exact h
    · cases status with
      | running expectedSource => rw [UdpSession.taskEnded, htask] at h; cases h
      | ended result => rfl
  · exact h

@[simp] theorem registered_mk (session : UdpSession) (sockets : UdpRelaySocketRegistry Socket) :
    SessionSt.registered ⟨session, sockets⟩ = (sockets.socketFor session.relayAddr).isSome := rfl

theorem socketFor_remove_self (sockets : UdpRelaySocketRegistry Socket) (relayAddr : SocketAddr) :
    (sockets.remove relayAddr).socketFor relayAddr = none := AList.lookup_erase _ _

theorem socketFor_remove_of_ne {sockets : UdpRelaySocketRegistry Socket} {relayAddr other : SocketAddr}
    (h : other ≠ relayAddr) : (sockets.remove other).socketFor relayAddr = sockets.socketFor relayAddr :=
  AList.lookup_erase_ne h.symm

theorem socketFor_register_self (sockets : UdpRelaySocketRegistry Socket) (relayAddr : SocketAddr) (socket : Socket) :
    (sockets.register relayAddr socket).socketFor relayAddr = some socket := AList.lookup_insert _

theorem socketFor_register_of_ne {sockets : UdpRelaySocketRegistry Socket} {relayAddr other : SocketAddr}
    (h : other ≠ relayAddr) (socket : Socket) :
    (sockets.register other socket).socketFor relayAddr = sockets.socketFor relayAddr := AList.lookup_insert_ne h.symm

theorem inv_start (relayAddr : SocketAddr) (clientHint : TargetAddr) (hasRuntime : Bool) (socket : Socket)
    (sockets : UdpRelaySocketRegistry Socket) :
    SessionInv (startSession relayAddr clientHint hasRuntime socket sockets) where
  suspended _ := by
    simp only [startSession, UdpSession.start, registered_mk, socketFor_register_self, Option.isSome_some]
  joining _ h := by cases h
  cleanedUp h := by cases h

/-- a step that is not the handler's own: the registration, the token and the handler are as before -/
theorem SessionInv.of_same {s s' : SessionSt Socket} (h : SessionInv s) (hhandler : s'.session.handler = s.session.handler)
    (hcancelled : s'.session.cancelled = s.session.cancelled) (hregistered : s'.registered = s.registered)
    (htask : s.session.taskEnded = true → s'.session.taskEnded = true) : SessionInv s' where
  suspended hr := by rw [hregistered]; exact h.suspended (hhandler ▸ hr)
  joining control hj := by rw [hcancelled]; exact h.joining control (hhandler ▸ hj)
  cleanedUp hr := by
    obtain ⟨hgone, htok⟩ := h.cleanedUp (hhandler ▸ hr)
    exact ⟨hregistered.trans hgone, htok.imp htask fun hc => hcancelled.trans hc⟩

/-- the handler ended and took the socket out, with the task ended or cancelled -/
theorem SessionInv.of_returned {s' : SessionSt Socket} {result : Except Socks5Error Unit}
    (hhandler : s'.session.handler = .returned result) (hgone : s'.registered = false)
    (htask : s'.session.taskEnded = true ∨ s'.session.cancelled = true) : SessionInv s' where
  suspended hr := by rw [hhandler] at hr; cases hr
  joining control hj := by rw [hhandler] at hj; cases hj
  cleanedUp _ := ⟨hgone, htask⟩

theorem inv_endControl {s : SessionSt Socket} (h : SessionInv s) (hreading : s.session.handler = .reading)
    (control : Except Socks5Error Unit) :
    SessionInv (s.become (s.session.endControl control)) := by
  have hregistered : s.registered = true := h.suspended (by rw [hreading]; rfl)
  unfold UdpSession.endControl
  cases htask : s.session.task with
  | some task =>
    exact ⟨fun _ => hregistered, fun _ _ => rfl, fun hr => by cases hr⟩
  | none =>
    refine SessionInv.of_returned rfl ?_ (Or.inl ?_)
    · simp only [SessionSt.become, registered_mk, if_true, socketFor_remove_self, Option.isSome_none]
    · simp only [SessionSt.become, UdpSession.taskEnded, Option.all_none]

theorem inv_endJoin {s : SessionSt Socket} (h : SessionInv s) {control : Except Socks5Error Unit} {task : RelayTask}
    (hjoining : s.session.handler = .joining control) (htask : s.session.task = some task)
    (hpanic : ∀ detail, task ≠ .panicked detail) :
    SessionInv (s.become (s.session.endJoin v6 control task)) := by
  have hcancelled : s.session.cancelled = true := h.joining control hjoining
  cases task with
  | panicked detail => exact absurd rfl (hpanic detail)
  | loop status =>
    cases status with
    | running expectedSource => exact h
    | ended result =>
      -- whatever the loop returned, the socket is taken out first
      have hgone : ((s.sockets.remove s.session.relayAddr).socketFor s.session.relayAddr).isSome = false := by
        rw [socketFor_remove_self]; rfl
      cases result with
      | error err => exact SessionInv.of_returned rfl hgone (Or.inr hcancelled)
      | ok u => exact SessionInv.of_returned rfl hgone (Or.inr hcancelled)

/-- what a step that exits cleanly preserves -/
theorem inv_step {s : SessionSt Socket} (h : SessionInv s) {o : SystemOp Socket} (ho : CleanExit s o) :
    SessionInv (stepSession v6 s o) := by
  cases o with
  | own op =>
    cases op with
    | controlRead read =>
      simp only [stepSession, UdpSession.step]
      split
      · rename_i hreading
        exact inv_endControl h hreading _
      · rename_i hreading
        exact inv_endControl h hreading _
      · exact h
    | relay input handOff =>
      refine h.of_same (handler_relay ..) (cancelled_relay ..) ?_ fun hended => taskEnded_relay hended input handOff
      simp only [stepSession, SessionSt.become, UdpSession.step, relayAddr_relay, SessionSt.registered,
        Bool.false_eq_true, if_false]
    | panic detail =>
      simp only [stepSession, UdpSession.step]
      split
      · exact h.of_same rfl rfl rfl fun _ => rfl
      · exact h
    | join =>
      simp only [stepSession, UdpSession.step]
      split
      · rename_i control task hjoining htask
        exact inv_endJoin v6 h hjoining htask fun detail hpanic => ho control detail hjoining (by rw [htask, hpanic])
      · exact h
    | totalTimeout =>
      simp only [stepSession, UdpSession.step]
      split
      · exact h
      · rename_i hnot
        cases hhandler : s.session.handler with
        | returned result => exact absurd hhandler (hnot result)
        | reading => simp only [CleanExit, hhandler] at ho; cases ho
        | joining control => simp only [CleanExit, hhandler] at ho; cases ho
  | otherRegister relayAddr socket =>
    simp only [stepSession]
    split_ifs with hsame
    · exact h
    · refine h.of_same rfl rfl ?_ id
      simp only [SessionSt.registered, socketFor_register_of_ne hsame]
  | otherRemove relayAddr =>
    simp only [stepSession]
    split_ifs with hsame
    · exact h
    · refine h.of_same rfl rfl ?_ id
      simp only [SessionSt.registered, socketFor_remove_of_ne hsame]

/-- a step that ends the handler without taking the socket out leaves it behind -/
theorem not_cleanedUp {s s' : SessionSt Socket} (h : SessionInv s) (hsuspended : s.session.handler.isReturned = false)
    (hreturned : s'.session.handler.isReturned = true) (hsame : s'.registered = s.registered) : ¬CleanedUp s' := by
  intro hclean
  have hgone := (hclean hreturned).1
  rw [hsame, h.suspended hsuspended] at hgone
  cases hgone

theorem cleanExit_of_cleanedUp {s : SessionSt Socket} (h : SessionInv s) {o : SystemOp Socket}
    (hclean : CleanedUp (stepSession v6 s o)) : CleanExit s o := by
  cases o with
  | own op =>
    cases op with
    | totalTimeout =>
      cases hhandler : s.session.handler with
      | returned result => simp only [CleanExit, hhandler, Handler.isReturned]
      | reading =>
        have hsuspended : s.session.handler.isReturned = false := by rw [hhandler]; rfl
        simp only [stepSession, UdpSession.step, hhandler] at hclean
        exact absurd hclean (not_cleanedUp h hsuspended rfl rfl)
      | joining control =>
        have hsuspended : s.session.handler.isReturned = false := by rw [hhandler]; rfl
        simp only [stepSession, UdpSession.step, hhandler] at hclean
        exact absurd hclean (not_cleanedUp h hsuspended rfl rfl)
    | join =>
      intro control detail hhandler htask
      have hsuspended : s.session.handler.isReturned = false := by rw [hhandler]; rfl
      simp only [stepSession, UdpSession.step, hhandler, htask] at hclean
      exact absurd hclean (not_cleanedUp h hsuspended rfl rfl)
    | _ => trivial
  | _ => trivial

/-! ## Main result -/

/-- **Every exit cleans up.** In every interleaving of one session with its relay task, its timeout and other sessions:
whenever its handler has ended, its relay socket is out of the registry and the task has ended or is cancelled, if and
only if the timeout never drops the handler where it is suspended and the handler never waits for a task that panicked. -/
theorem udp_associate_cleans_up_iff (relayAddr : SocketAddr) (clientHint : TargetAddr) (hasRuntime : Bool)
    (socket : Socket) (sockets : UdpRelaySocketRegistry Socket) (ops : List (SystemOp Socket)) :
    AllStates (stepSession v6) CleanedUp (startSession relayAddr clientHint hasRuntime socket sockets) ops ↔
      AllSteps (stepSession v6) CleanExit (startSession relayAddr clientHint hasRuntime socket sockets) ops := by
  have hinit := inv_start relayAddr clientHint hasRuntime socket sockets
  have hstep : ∀ (s : SessionSt Socket) o, SessionInv s → CleanExit s o → SessionInv (stepSession v6 s o) := fun _ _ hs ho =>
    inv_step v6 hs ho
  have hread : ∀ (s : SessionSt Socket) o, SessionInv s → (CleanedUp (stepSession v6 s o) ↔ CleanExit s o) := fun _ _ hs =>
    ⟨cleanExit_of_cleanedUp v6 hs, fun ho => (inv_step v6 hs ho).cleanedUp⟩
  rw [allStates_iff_allSteps, allSteps_iff_of_step hstep hread hinit]
  exact and_iff_right hinit.cleanedUp

/-- **An idle control connection.** The timeout drops the handler: the relay socket stays registered, the relay task
runs on, and nothing cancels it. -/
theorem total_timeout_leaves_socket :
    let s := run (stepSession ⟨fun _ => [], fun _ => none⟩)
      (startSession (.v4 ⟨127, 0, 0, 1⟩ 1081) (.ip (.v4 ⟨0, 0, 0, 0⟩ 0)) true 3 ∅) [.own .totalTimeout]
    s.session.handler.isReturned = true ∧ s.registered = true ∧ s.session.taskEnded = false ∧
      s.session.cancelled = false ∧
      ¬AllStates (stepSession ⟨fun _ => [], fun _ => none⟩) CleanedUp
        (startSession (.v4 ⟨127, 0, 0, 1⟩ 1081) (.ip (.v4 ⟨0, 0, 0, 0⟩ 0)) true 3 ∅) [.own .totalTimeout] := by
  have hregistered : (run (stepSession ⟨fun _ => [], fun _ => none⟩)
      (startSession (.v4 ⟨127, 0, 0, 1⟩ 1081) (.ip (.v4 ⟨0, 0, 0, 0⟩ 0)) true 3 ∅)
      [.own .totalTimeout]).registered = true := by decide
  refine ⟨by decide, hregistered, by decide, by decide, fun hall => ?_⟩
  have hgone := (hall.last (by decide)).1
  rw [hregistered] at hgone
  cases hgone

end N0wss.Socks5
