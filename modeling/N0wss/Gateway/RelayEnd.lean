/-
The end of a proxied stream: what is still in flight when one side closes.

A sending loop sends its closing frame only when its source is at its end and drained, so a closing frame has all the
bytes of its direction before it, and nothing after it. It also ends the other direction: a websocket that has received it
replies with its own closing frame and sends no more, and what the other side has not sent by then is lost.

- `Closes.send`, `Closes.recv`: one direction of the websocket, whichever of its two loops takes a turn.
- `endInv_step`: what holds of the pipes, the wires and the loops as long as no error comes before the closing frames.
- `relay_completes`: where the pump ended at the transport's end, the client was written all that the target sent; where
  it ended at the client's end, the target is written all that the client sent, if the server's closing frame was not
  received before all of it was on the wire.
- `early_close_truncates`: the target closes first, and the client's last byte is dropped.
-/
import N0wss.Gateway.Relay

namespace N0wss.Gateway

open Bridge Machine Session

/-! ## Runs without errors -/

/-- an error of the pump or of a bridge task -/
def Op.isClientError : Op → Bool
  | .pump .fail | .writeBridge .fail => true
  | .readBridge .streamEnds | .readBridge .nextFails | .readBridge .writeFails => true
  | _ => false

/-- an error of `server_proxy_loop` -/
def Op.isServerError : Op → Bool
  | .targetToWebsocket .fail => true
  | .websocketToTarget .streamEnds | .websocketToTarget .nextFails | .websocketToTarget .writeFails => true
  | _ => false

/-- nothing is cancelled, and an error strikes an end of the websocket only once that end has received the peer's closing
frame -/
def NoErrorBeforeClose (s : Relay) (o : Op) : Prop :=
  o ≠ .cancel ∧ (o.isClientError = true → s.readBridge.sawClose = true) ∧
    (o.isServerError = true → s.websocketToTarget.sawClose = true)

/-- the step receives the server's closing frame -/
def receivesClose (s : Relay) : Op → Bool
  | .readBridge (.next _) => s.readBridge = .reading ∧ s.downWire.queued.head? = some .close
  | _ => false

/-- where the step receives the server's closing frame, everything the client sends was sent on the websocket -/
def ClosesAfterSending (s : Relay) (o : Op) : Prop :=
  receivesClose s o = true → afterOpening s.upWire.log = s.client.log

instance (s : Relay) (o : Op) : Decidable (NoErrorBeforeClose s o) :=
  inferInstanceAs (Decidable (o ≠ .cancel ∧ (o.isClientError = true → s.readBridge.sawClose = true) ∧
    (o.isServerError = true → s.websocketToTarget.sawClose = true)))

instance (s : Relay) (o : Op) : Decidable (ClosesAfterSending s o) :=
  inferInstanceAs (Decidable (receivesClose s o = true → afterOpening s.upWire.log = s.client.log))

/-- the pump ended at the client's end, and the loops that carry its bytes on have ended: all of them arrived -/
def CompleteUp (fromClient : List UInt8) (s : Relay) : Prop :=
  s.pump.reason = some .clientEof → s.writeBridge.isOver = true → s.websocketToTarget.isOver = true →
    s.targetOut.log = fromClient

/-- the pump ended at the transport's end: all the target's bytes arrived -/
def CompleteDown (fromTarget : List UInt8) (s : Relay) : Prop :=
  s.pump.reason = some .transportEof → s.clientOut.log = fromTarget

/-! ## Closing frames -/

/-- nothing is relayed after a closing frame -/
def Sealed (messages : List Message) : Prop :=
  ∀ pre post, messages = pre ++ .close :: post → payloads post = []

theorem sealed_of_notMem {messages : List Message} (h : .close ∉ messages) : Sealed messages := by
  rintro pre post rfl
  exact absurd (List.mem_append_right pre List.mem_cons_self) h

theorem Sealed.put {messages : List Message} (h : Sealed messages) {m : Message} (hm : m.payload = []) :
    Sealed (messages ++ [m]) := by
  intro pre post heq
  rcases List.eq_nil_or_concat post with rfl | ⟨post, last, rfl⟩
  · rfl
  · rw [List.concat_eq_append, ← List.cons_append, ← List.append_assoc] at heq
    obtain ⟨hinit, hlast⟩ := List.append_inj' heq rfl
    obtain rfl : m = last := by simpa using hlast
    rw [List.concat_eq_append, payloads_append, h pre post hinit, payloads_singleton, hm, List.append_nil]

theorem afterOpening_append_of_empty {a b : List Message} (hb : payloads b = []) :
    afterOpening (a ++ b) = afterOpening a := by
  have hdrop : payloads (b.drop (2 - a.length)) = [] := by
    have hall : payloads (b.take (2 - a.length)) ++ payloads (b.drop (2 - a.length)) = [] := by
      rw [← payloads_append, List.take_append_drop, hb]
    exact (List.append_eq_nil_iff.1 hall).2
  rw [afterOpening, afterOpening, List.drop_append, payloads_append, hdrop, List.append_nil]

/-- whoever has read up to a closing frame has all that was relayed -/
theorem Sealed.afterOpening_past {wire : Fifo Message} (h : Sealed wire.log) {pre : List Message}
    (hlast : wire.past = pre ++ [.close]) : afterOpening wire.log = afterOpening wire.past := by
  have hrest : payloads wire.queued = [] := by
    apply h pre wire.queued
    rw [Fifo.log, hlast, List.append_assoc]
    rfl
  exact afterOpening_append_of_empty hrest

/-! ## One direction of the websocket -/

/-- a wire with the loops that send on it and receive from it; `beside` receives the other direction, at the sender's end -/
structure Closes (wire : Fifo Message) (sender : SendLoop) (receiver beside : RecvLoop) : Prop where
  sealed : Sealed wire.log
  /-- a closing frame is the last thing an end sends -/
  close : .close ∈ wire.log → sender = .ended ∨ beside = .closed
  last : receiver = .closed → ∃ pre, wire.past = pre ++ [.close]
  /-- the sender fails only once a closing frame was received beside it -/
  failed : sender = .failed → beside = .closed

namespace Closes

variable {wire : Fifo Message} {sender : SendLoop} {receiver beside : RecvLoop}

theorem empty : Closes .empty .reading .reading .reading where
  sealed := sealed_of_notMem (by simp [Fifo.log, Fifo.empty])
  close := by simp [Fifo.log, Fifo.empty]
  last := by simp
  failed := by simp

theorem notMem (h : Closes wire sender receiver beside) (hsender : sender ≠ .ended) (hbeside : beside ≠ .closed) :
    .close ∉ wire.log := by
  intro hmem
  rcases h.close hmem with hended | hclosed
  · exact hsender hended
  · exact hbeside hclosed

theorem mem (h : Closes wire sender receiver beside) (hclosed : receiver = .closed) : .close ∈ wire.log := by
  obtain ⟨pre, hpast⟩ := h.last hclosed
  apply wire.past_isPrefix_log.subset
  rw [hpast]
  exact List.mem_append_right pre (List.mem_singleton_self _)

/-- a receiver that has read the closing frame has all that was relayed -/
theorem afterOpening_past (h : Closes wire sender receiver beside) (hclosed : receiver = .closed) :
    afterOpening wire.log = afterOpening wire.past := by
  obtain ⟨pre, hpast⟩ := h.last hclosed
  exact h.sealed.afterOpening_past hpast

/-- the sender takes a turn -/
theorem send (h : Closes wire sender receiver beside) {sourceEnded : Bool} {source : Fifo UInt8} {o : SendOp}
    {r : SendTurn} (hr : SendOutcome sourceEnded (!beside.sawClose) source o sender r)
    (herr : o = .fail → beside = .closed) : Closes (wire.put r.messages) r.loop receiver beside := by
  cases hr with
  | idle => simpa using h
  | read | eof =>
    exact { h with
      sealed := by simpa using h.sealed
      close := by simpa using h.close
      failed := by simp }
  | sent bytes hcan =>
    have hnot : .close ∉ wire.log := by
      apply h.notMem (by simp)
      exact sawClose_eq_false_iff.1 (by simpa using hcan)
    exact { h with
      sealed := sealed_of_notMem (by simpa using hnot)
      close := fun hmem => absurd hmem (by simpa using hnot)
      failed := by simp }
  | close =>
    exact { h with
      sealed := by simpa using h.sealed.put rfl
      close := fun _ => Or.inl rfl
      failed := by simp }
  | unclosed =>
    exact { h with
      sealed := by simpa using h.sealed
      close := fun _ => Or.inl rfl
      failed := by simp }
  | unread hfail =>
    exact { h with
      sealed := by simpa using h.sealed
      close := fun _ => Or.inr (herr hfail)
      failed := fun _ => herr hfail }
  | unsent bytes hwhy =>
    have hclosed : beside = .closed := by
      rcases hwhy with hfail | hcannot
      · exact herr hfail
      · exact sawClose_iff.1 (by simpa using hcannot)
    exact { h with
      sealed := by simpa using h.sealed
      close := fun _ => Or.inr hclosed
      failed := fun _ => hclosed }

/-- the receiver takes a turn -/
theorem recv (h : Closes wire sender receiver beside) {onError : RecvLoop}
    (honError : onError = .ended ∨ onError = .failed) {sinkOpen : Bool} {o : RecvOp} {r : RecvTurn}
    (hr : RecvOutcome onError sinkOpen wire o receiver r) : Closes (wire.take r.took) sender r.loop beside where
  sealed := by simpa using h.sealed
  close := by simpa using h.close
  last := by
    intro hclosed
    cases hr with
    | idle => simpa using h.last hclosed
    | close content hnext queued hqueued => exact ⟨wire.past, by simp [hqueued]⟩
    | received | wrote => exact absurd hclosed (writeAll_ne_closed _)
    | nextFails => rcases honError with rfl | rfl <;> cases hclosed
    | streamEnds | unwritten => cases hclosed
  failed := h.failed

/-- the loop beside the sender takes a turn -/
theorem turnBeside (h : Closes wire sender receiver beside) {beside' : RecvLoop}
    (hkeep : beside = .closed → beside' = .closed) : Closes wire sender receiver beside' where
  sealed := h.sealed
  close := fun hmem => (h.close hmem).imp_right hkeep
  last := h.last
  failed := fun hfailed => hkeep (h.failed hfailed)

/-- messages of the handshake go out -/
theorem more (h : Closes wire sender receiver beside) {messages : List Message}
    (hmore : .close ∉ (wire.put messages).log) : Closes (wire.put messages) sender receiver beside where
  sealed := sealed_of_notMem hmore
  close := fun hmem => absurd hmem hmore
  last := by simpa using h.last
  failed := h.failed

/-- messages of the handshake are taken -/
theorem take (h : Closes wire sender receiver beside) (hreceiver : receiver ≠ .closed) (n : ℕ) :
    Closes (wire.take n) sender receiver beside where
  sealed := by simpa using h.sealed
  close := by simpa using h.close
  last := fun hclosed => absurd hclosed hreceiver
  failed := h.failed

/-- a frame that carries nothing goes out; a closing frame only where one was received -/
theorem putEmpty (h : Closes wire sender receiver beside) {m : Message} (hm : m.payload = [])
    (hclose : m = .close → beside = .closed) : Closes (wire.put [m]) sender receiver beside where
  sealed := by simpa using h.sealed.put hm
  close := by
    intro hmem
    rw [Fifo.log_put, List.mem_append, List.mem_singleton] at hmem
    rcases hmem with hmem | rfl
    · exact h.close hmem
    · exact Or.inr (hclose rfl)
  last := by simpa using h.last
  failed := h.failed

end Closes

/-- a sender at its end has found its source at its end, and drained -/
def DrainedAtEnd (sourceEnded : Bool) (source : Fifo UInt8) (sender : SendLoop) : Prop :=
  sender = .closing ∨ sender = .ended → sourceEnded = true ∧ source.queued = []

theorem DrainedAtEnd.send {sourceEnded canSend : Bool} {source : Fifo UInt8} {sender : SendLoop} {o : SendOp}
    {r : SendTurn} (h : DrainedAtEnd sourceEnded source sender)
    (hr : SendOutcome sourceEnded canSend source o sender r) :
    DrainedAtEnd sourceEnded (source.take r.read) r.loop := by
  intro hend
  cases hr with
  | idle => simpa using h hend
  | eof hempty hended => simpa using ⟨hended, hempty⟩
  | close | unclosed => simpa using h (Or.inl rfl)
  | read | sent | unread | unsent => rcases hend with hclosing | hended <;> contradiction

/-! ## What holds until the closing frames -/

structure EndInv (tunnel : Tunnel) (fromClient fromTarget : List UInt8) (s : Relay) : Prop where
  chain : ChainInv tunnel s
  client : s.client.log = fromClient
  target : s.target.log = fromTarget
  calm : s.cancelled = false
  up : Closes s.upWire s.writeBridge s.websocketToTarget s.readBridge
  down : Closes s.downWire s.targetToWebsocket s.readBridge s.websocketToTarget
  upSource : DrainedAtEnd s.upClosed s.upPipe s.writeBridge
  downSource : DrainedAtEnd true s.target s.targetToWebsocket
  /-- the receiving loops end only at a closing frame -/
  receiver : s.websocketToTarget.isOver = true → s.websocketToTarget = .closed
  bridgeReader : s.readBridge ≠ .ended
  clientEof : s.pump.reason = some .clientEof → s.client.queued = []
  /-- the pipe stays open until the pump ends or a closing frame was received -/
  pipes : s.pump.reason = none → s.readBridge ≠ .closed → s.upClosed = false ∧ s.downClosed = false
  delivered : s.pump.reason = none → s.readBridge = .closed → afterOpening s.downWire.past = fromTarget
  done : s.pump.reason = some .transportEof → s.clientOut.log = fromTarget
  /-- the loops start with the relay -/
  bridgeIdle : s.opening ≠ .relaying → s.writeBridge = .reading ∧ s.readBridge = .reading
  serverIdle : s.accepting ≠ .relaying → s.targetToWebsocket = .reading ∧ s.websocketToTarget = .reading

theorem endInv_start (tunnel : Tunnel) (fromClient fromTarget : List UInt8) :
    EndInv tunnel fromClient fromTarget (start fromClient fromTarget) where
  chain := chainInv_start tunnel fromClient fromTarget
  client := Fifo.log_source fromClient
  target := Fifo.log_source fromTarget
  calm := rfl
  up := Closes.empty
  down := Closes.empty
  upSource := by rintro (h | h) <;> cases h
  downSource := by rintro (h | h) <;> cases h
  receiver := by simp [start, RecvLoop.isOver]
  bridgeReader := by simp [start]
  clientEof := by simp [start, Pump.reason]
  pipes := by simp [start]
  delivered := by simp [start]
  done := by simp [start, Pump.reason]
  bridgeIdle := fun _ => ⟨rfl, rfl⟩
  serverIdle := fun _ => ⟨rfl, rfl⟩

/-! ## One step -/

variable {tunnel : Tunnel} {fromClient fromTarget : List UInt8} {s : Relay}

namespace EndInv

/-- while the pump runs, the write bridge ends only once a closing frame was received -/
theorem bridge_over (h : EndInv tunnel fromClient fromTarget s) (hrun : s.pump.reason = none)
    (hw : s.writeBridge.isOver = true) : s.readBridge = .closed := by
  by_contra hread
  cases hb : s.writeBridge with
  | ended =>
    have hup := (h.upSource (Or.inr hb)).1
    rw [(h.pipes hrun hread).1] at hup
    cases hup
  | failed => exact hread (h.up.failed hb)
  | reading | sending bytes | closing =>
    rw [hb] at hw
    cases hw

/-- while the pump runs and the client's websocket has received no closing frame, the server's has not either -/
theorem server_open (h : EndInv tunnel fromClient fromTarget s) (hrun : s.pump.reason = none)
    (hread : s.readBridge ≠ .closed) : s.websocketToTarget ≠ .closed := by
  intro hclosed
  apply hread
  rcases h.up.close (h.up.mem hclosed) with hended | hcl
  · exact h.bridge_over hrun (by rw [hended]; rfl)
  · exact hcl

/-- a closing frame that the server sends at the target's end has all the target's bytes before it -/
theorem all_sent (h : EndInv tunnel fromClient fromTarget s) (hended : s.targetToWebsocket = .ended) :
    afterOpening s.downWire.log = fromTarget := by
  have hpasses := h.chain.targetToWebsocket
  rw [hended] at hpasses
  calc afterOpening s.downWire.log
    _ = s.target.past := hpasses.given_eq
    _ = s.target.log := Fifo.past_eq_log (h.downSource (Or.inr hended)).2
    _ = fromTarget := h.target

/-- what the pump was passed when its pipe ended is all that the target sent -/
theorem all_received (h : EndInv tunnel fromClient fromTarget s) (hp : s.pump = .selecting)
    (hempty : s.downPipe.queued = []) (hclosed : s.downClosed = true) : s.clientOut.log = fromTarget := by
  have hrun : s.pump.reason = none := by rw [hp]; rfl
  have hread : s.readBridge = .closed := by
    by_contra hread
    rw [(h.pipes hrun hread).2] at hclosed
    cases hclosed
  have hpump := h.chain.pumpDown
  have hbridge := h.chain.readBridge
  rw [hp] at hpump
  rw [hread] at hbridge
  calc s.clientOut.log
    _ = s.downPipe.past := hpump.given_eq
    _ = s.downPipe.log := Fifo.past_eq_log hempty
    _ = afterOpening s.downWire.past := hbridge.given_eq
    _ = fromTarget := h.delivered hrun hread

end EndInv

theorem endInv_stepWriteBridge (h : EndInv tunnel fromClient fromTarget s) (hopen : s.opening = .relaying) (o : SendOp)
    (herr : o = .fail → s.readBridge = .closed) : EndInv tunnel fromClient fromTarget (stepWriteBridge s o) := by
  have hout := sendTurn_outcome s.upClosed (!s.readBridge.sawClose) s.upPipe s.writeBridge o
  exact { h with
    chain := chainInv_stepWriteBridge h.chain hopen o
    up := h.up.send hout herr
    upSource := h.upSource.send hout
    bridgeIdle := fun hnot => absurd hopen hnot }

@[simp] theorem within_eq_streamEnds {o : RecvOp} {room : ℕ} : o.within room = .streamEnds ↔ o = .streamEnds := by
  cases o <;> simp [RecvOp.within]

@[simp] theorem within_eq_nextFails {o : RecvOp} {room : ℕ} : o.within room = .nextFails ↔ o = .nextFails := by
  cases o <;> simp [RecvOp.within]

@[simp] theorem within_eq_writeFails {o : RecvOp} {room : ℕ} : o.within room = .writeFails ↔ o = .writeFails := by
  cases o <;> simp [RecvOp.within]

theorem shuts_eq_false {loop : RecvLoop} (hended : loop ≠ .ended) (hclosed : loop ≠ .closed) : loop.shuts = false := by
  cases loop with
  | ended => exact absurd rfl hended
  | closed => exact absurd rfl hclosed
  | _ => rfl

theorem endInv_stepReadBridge (h : EndInv tunnel fromClient fromTarget s) (hopen : s.opening = .relaying) (o : RecvOp)
    (herr : o = .streamEnds ∨ o = .nextFails ∨ o = .writeFails → s.readBridge = .closed) :
    EndInv tunnel fromClient fromTarget (stepReadBridge s o) := by
  have hout := recvTurn_outcome .ended (!s.downClosed) s.downWire s.readBridge
    (o.within (pipeBytes - s.downPipe.queued.length))
  have hdown := h.down.recv (Or.inl rfl) hout
  have hkeep : s.readBridge = .closed → (stepReadBridge s o).readBridge = .closed := fun hcl => (hout.closed hcl).1
  have hnever : (stepReadBridge s o).readBridge ≠ .ended := by
    intro hended
    rcases hout.over (by simpa using herr) (congrArg RecvLoop.isOver hended) with hclosed | hsame | ⟨hfailed, -⟩
    · cases hclosed.symm.trans hended
    · exact h.bridgeReader (hsame.symm.trans hended)
    · cases hfailed.symm.trans hended
  have hdelivered : s.pump.reason = none → (stepReadBridge s o).readBridge = .closed →
      afterOpening (stepReadBridge s o).downWire.past = fromTarget := by
    intro hrun hclosed
    by_cases hbefore : s.readBridge = .closed
    · rw [stepReadBridge, (hout.closed hbefore).2, Fifo.take_zero]
      exact h.delivered hrun hbefore
    · -- the server has sent it at the target's end, not in reply
      have hmem : .close ∈ s.downWire.log := by simpa using hdown.mem hclosed
      have hended := (h.down.close hmem).resolve_right (h.server_open hrun hbefore)
      calc afterOpening (stepReadBridge s o).downWire.past
        _ = afterOpening (stepReadBridge s o).downWire.log := (hdown.afterOpening_past hclosed).symm
        _ = afterOpening s.downWire.log := by rw [stepReadBridge, Fifo.log_take]
        _ = fromTarget := h.all_sent hended
  exact { h with
    chain := chainInv_stepReadBridge h.chain hopen o
    up := h.up.turnBeside hkeep
    down := hdown
    bridgeReader := hnever
    pipes := by
      intro hrun hread
      obtain ⟨hup, hdown⟩ := h.pipes hrun fun hclosed => hread (hkeep hclosed)
      have hshuts : (s.downClosed || (stepReadBridge s o).readBridge.shuts) = false := by
        rw [hdown, shuts_eq_false hnever hread, Bool.or_false]
      exact ⟨hup, hshuts⟩
    delivered := hdelivered
    bridgeIdle := fun hnot => absurd hopen hnot }

theorem endInv_stepWebsocketToTarget (h : EndInv tunnel fromClient fromTarget s) (haccepted : s.accepting = .relaying)
    (o : RecvOp) (herr : o = .streamEnds ∨ o = .nextFails ∨ o = .writeFails → s.websocketToTarget = .closed) :
    EndInv tunnel fromClient fromTarget (stepWebsocketToTarget s o) := by
  have hout := recvTurn_outcome .failed true s.upWire s.websocketToTarget o
  have hover : (stepWebsocketToTarget s o).websocketToTarget.isOver = true →
      (stepWebsocketToTarget s o).websocketToTarget = .closed := by
    intro hover
    rcases hout.over herr hover with hclosed | hsame | ⟨-, hsink⟩
    · exact hclosed
    · exact hsame.trans (h.receiver (by rw [← hsame]; exact hover))
    · cases hsink
  have hnever : (stepWebsocketToTarget s o).websocketToTarget ≠ .failed := by
    intro hfailed
    cases hfailed.symm.trans (hover (by rw [hfailed]; rfl))
  -- nothing is dropped
  have hbeside : (stepWebsocketToTarget s o).targetToWebsocket = s.targetToWebsocket := if_neg hnever
  exact { h with
    chain := chainInv_stepWebsocketToTarget h.chain haccepted o
    up := h.up.recv (Or.inr rfl) hout
    down := by
      rw [hbeside]
      exact h.down.turnBeside fun hclosed => (hout.closed hclosed).1
    downSource := by
      rw [hbeside]
      exact h.downSource
    receiver := hover
    serverIdle := fun hnot => absurd haccepted hnot }

theorem endInv_stepTargetToWebsocket (h : EndInv tunnel fromClient fromTarget s) (haccepted : s.accepting = .relaying)
    (o : SendOp) (herr : o = .fail → s.websocketToTarget = .closed) :
    EndInv tunnel fromClient fromTarget (stepTargetToWebsocket s o) := by
  have hout := sendTurn_outcome true (!s.websocketToTarget.sawClose) s.target s.targetToWebsocket o
  have hdown := h.down.send hout herr
  -- a loop that fails has had its peer's closing frame, and `try_join!` finds the other half at its end
  have hbeside : (stepTargetToWebsocket s o).websocketToTarget = s.websocketToTarget := by
    simp only [stepTargetToWebsocket]
    split
    · rename_i hfailed
      rw [hdown.failed hfailed]
      rfl
    · rfl
  exact { h with
    chain := chainInv_stepTargetToWebsocket h.chain haccepted o
    target := by
      rw [stepTargetToWebsocket, Fifo.log_take]
      exact h.target
    up := by
      rw [hbeside]
      exact h.up
    down := by
      rw [hbeside]
      exact hdown
    downSource := h.downSource.send hout
    receiver := by
      rw [hbeside]
      exact h.receiver
    serverIdle := fun hnot => absurd haccepted hnot }

theorem endInv_stepPump (h : EndInv tunnel fromClient fromTarget s) (o : PumpOp) :
    EndInv tunnel fromClient fromTarget (stepPump tunnel s o) := by
  have hout := pumpTurn_outcome s.cancelled s.upClosed s.downClosed s.client s.downPipe s.pump (pumpOpIn s o)
  exact { h with
    chain := chainInv_stepPump h.chain o
    client := by
      rw [stepPump, Fifo.log_take]
      exact h.client
    upSource := by
      intro hw
      obtain ⟨hup, hqueued⟩ := h.upSource hw
      have hnone := hout.toTransport_of_closed hup
      constructor
      · rw [stepPump, hup, Bool.true_or]
      · rw [stepPump, hnone, Fifo.put_nil]
        exact hqueued
    clientEof := by
      intro hreason
      have hempty : s.client.queued = [] := (hout.clientEof_or hreason).elim h.clientEof id
      simp [stepPump, hempty]
    pipes := by
      intro hrun hread
      have hstill := Pump.transportShut_of_running hrun
      rw [stepPump] at hstill ⊢
      simpa only [hstill, Bool.or_false] using h.pipes (hout.running hrun) hread
    delivered := fun hrun => h.delivered (hout.running hrun)
    done := by
      intro hreason
      obtain ⟨hnone, hwhy⟩ := hout.transportEof_or hreason
      rw [stepPump, hnone, Fifo.put_nil]
      rcases hwhy with hbefore | ⟨hp, hempty, hclosed⟩
      · exact h.done hbefore
      · exact h.all_received hp hempty hclosed }

/-- the handshake has no closing frame -/
theorem openingTurn_noClose (tunnel : Tunnel) (wire : Fifo Message) (o : Opening) :
    .close ∉ (openingTurn tunnel wire o).2.2 := by
  cases o with
  | authSent | connectSent => cases hq : wire.queued <;> simp [openingTurn, hq]
  | _ => simp [openingTurn]

theorem acceptingTurn_noClose (tunnel : Tunnel) (connected : Bool) (wire : Fifo Message) (o : Accepting) :
    .close ∉ (acceptingTurn tunnel connected wire o).2.2 := by
  cases o with
  | authenticating | requesting => cases hq : wire.queued <;> simp [acceptingTurn, hq]
  | connecting => cases connected <;> simp [acceptingTurn]
  | _ => simp [acceptingTurn]

theorem endInv_stepOpening (h : EndInv tunnel fromClient fromTarget s) :
    EndInv tunnel fromClient fromTarget (stepOpening tunnel s) := by
  by_cases ho : s.opening = .relaying
  · rwa [stepOpening_of_relaying ho]
  · obtain ⟨hw, hr⟩ := h.bridgeIdle ho
    have hmore : .close ∉ (stepOpening tunnel s).upWire.log := by
      rw [stepOpening, Fifo.log_put, List.mem_append]
      rintro (hmem | hmem)
      · exact h.up.notMem (by simp [hw]) (by simp [hr]) hmem
      · exact openingTurn_noClose tunnel s.downWire s.opening hmem
    exact { h with
      chain := chainInv_stepOpening h.chain
      up := h.up.more hmore
      down := h.down.take (by simp [hr]) _
      delivered := by simp [stepOpening, hr]
      bridgeIdle := fun _ => ⟨hw, hr⟩ }

theorem endInv_stepAccepting (h : EndInv tunnel fromClient fromTarget s) (connected : Bool) :
    EndInv tunnel fromClient fromTarget (stepAccepting tunnel connected s) := by
  by_cases ho : s.accepting = .relaying
  · rwa [stepAccepting_of_relaying ho]
  · obtain ⟨hw, hr⟩ := h.serverIdle ho
    have hmore : .close ∉ (stepAccepting tunnel connected s).downWire.log := by
      rw [stepAccepting, Fifo.log_put, List.mem_append]
      rintro (hmem | hmem)
      · exact h.down.notMem (by simp [hw]) (by simp [hr]) hmem
      · exact acceptingTurn_noClose tunnel connected s.upWire s.accepting hmem
    exact { h with
      chain := chainInv_stepAccepting h.chain connected
      up := h.up.take (by simp [hr]) _
      down := h.down.more hmore
      delivered := by simpa [stepAccepting] using h.delivered
      serverIdle := fun _ => ⟨hw, hr⟩ }

/-- **One step.** Without errors before the closing frames, what closes is drained. -/
theorem endInv_step (o : Op) (h : EndInv tunnel fromClient fromTarget s) (herr : NoErrorBeforeClose s o) :
    EndInv tunnel fromClient fromTarget (step tunnel s o) := by
  have hout := step_outcome tunnel s o
  have hchain := chainInv_step o h.chain
  generalize step tunnel s o = s' at hout hchain ⊢
  cases hout with
  | idle => exact h
  | opening => exact endInv_stepOpening h
  | openingFails hnot => exact { h with chain := hchain, bridgeIdle := fun _ => h.bridgeIdle hnot }
  | accepting connected => exact endInv_stepAccepting h connected
  | acceptingFails hnot => exact { h with chain := hchain, serverIdle := fun _ => h.serverIdle hnot }
  | pump o => exact endInv_stepPump h o
  | writeBridge o hopen =>
    apply endInv_stepWriteBridge h hopen o
    rintro rfl
    exact sawClose_iff.1 (herr.2.1 rfl)
  | readBridge o hopen =>
    apply endInv_stepReadBridge h hopen o
    rintro (rfl | rfl | rfl)
    all_goals exact sawClose_iff.1 (herr.2.1 rfl)
  | websocketToTarget o haccepted =>
    apply endInv_stepWebsocketToTarget h haccepted o
    rintro (rfl | rfl | rfl)
    all_goals exact sawClose_iff.1 (herr.2.2 rfl)
  | targetToWebsocket o haccepted =>
    apply endInv_stepTargetToWebsocket h haccepted o
    rintro rfl
    exact sawClose_iff.1 (herr.2.2 rfl)
  | cancel => exact absurd rfl herr.1
  | cancelWriteBridge hcancelled =>
    rw [h.calm] at hcancelled
    cases hcancelled
  | cancelReadBridge hcancelled =>
    rw [h.calm] at hcancelled
    cases hcancelled
  | dropLocal hnotified =>
    exact { h with
      chain := hchain
      upSource := fun hw => ⟨rfl, (h.upSource hw).2⟩
      pipes := fun hrun => absurd hrun (Pump.reason_of_notified hnotified) }
  | dropBridge hwrite =>
    exact { h with
      chain := hchain
      upSource := fun hw => ⟨rfl, (h.upSource hw).2⟩
      pipes := fun hrun hread => absurd (h.bridge_over hrun hwrite) hread }
  | putUp o m hopen hm hclose => exact { h with chain := hchain, up := h.up.putEmpty hm hclose }
  | putDown o m haccepted hm hclose => exact { h with chain := hchain, down := h.down.putEmpty hm hclose }

/-! ## Everything sent before the server closes -/

/-- the server's closing frame found everything that the client sends on the wire -/
def SentBeforeClose (fromClient : List UInt8) (s : Relay) : Prop :=
  s.readBridge = .closed → afterOpening s.upWire.log = fromClient

theorem sent_stepReadBridge (h : EndInv tunnel fromClient fromTarget s) (hsent : SentBeforeClose fromClient s)
    (o : RecvOp) (hcloses : ClosesAfterSending s (.readBridge o)) :
    SentBeforeClose fromClient (stepReadBridge s o) := by
  have hout := recvTurn_outcome .ended (!s.downClosed) s.downWire s.readBridge
    (o.within (pipeBytes - s.downPipe.queued.length))
  unfold stepReadBridge
  generalize recvTurn .ended (!s.downClosed) s.downWire s.readBridge _ = r at hout ⊢
  generalize hl : s.readBridge = loop at hout
  cases hout with
  | idle =>
    subst hl
    exact hsent
  | close content hnext queued hqueued =>
    intro _
    cases o with
    | next content =>
      change afterOpening s.upWire.log = fromClient
      rw [hcloses (by simp [receivesClose, hl, hqueued]), h.client]
    | _ => cases hnext
  | received | wrote => exact fun hc => absurd hc (writeAll_ne_closed _)
  | streamEnds | nextFails | unwritten =>
    intro hc
    cases hc

theorem sent_stepWriteBridge (hsent : SentBeforeClose fromClient s) (o : SendOp) :
    SentBeforeClose fromClient (stepWriteBridge s o) := by
  intro hclosed
  have hread : s.readBridge = .closed := hclosed
  have hout := sendTurn_outcome s.upClosed (!s.readBridge.sawClose) s.upPipe s.writeBridge o
  -- a websocket that has received a closing frame sends no more
  have hcannot : (!s.readBridge.sawClose) = false := by simp [hread, RecvLoop.sawClose]
  rw [hcannot] at hout
  rw [stepWriteBridge, hcannot, hout.silent, Fifo.put_nil]
  exact hsent hread

theorem sent_step (o : Op) (h : EndInv tunnel fromClient fromTarget s) (hsent : SentBeforeClose fromClient s)
    (hcloses : ClosesAfterSending s o) : SentBeforeClose fromClient (step tunnel s o) := by
  have hout := step_outcome tunnel s o
  generalize step tunnel s o = s' at hout ⊢
  cases hout with
  | opening =>
    intro hclosed
    have hread : s.readBridge = .closed := hclosed
    have ho : s.opening = .relaying := by
      by_contra ho
      rw [(h.bridgeIdle ho).2] at hread
      cases hread
    rw [stepOpening_of_relaying ho]
    exact hsent hread
  | accepting connected =>
    intro hclosed
    rw [stepAccepting, Fifo.log_take]
    exact hsent hclosed
  | writeBridge o => exact sent_stepWriteBridge hsent o
  | readBridge o => exact sent_stepReadBridge h hsent o hcloses
  | websocketToTarget o =>
    intro hclosed
    rw [stepWebsocketToTarget, Fifo.log_take]
    exact hsent hclosed
  | cancelReadBridge =>
    intro hclosed
    cases hclosed
  | putUp o m _ hm =>
    intro hclosed
    rw [Fifo.log_put, afterOpening_append_of_empty (by rw [payloads_singleton, hm])]
    exact hsent hclosed
  | idle | openingFails | acceptingFails | pump | targetToWebsocket | cancel | cancelWriteBridge | dropLocal
  | dropBridge | putDown =>
    exact hsent

/-- all that the client sent went onto the wire, and from there to the target -/
theorem completeUp_of_inv (h : EndInv tunnel fromClient fromTarget s) (hsent : SentBeforeClose fromClient s) :
    CompleteUp fromClient s := by
  intro hreason hwriter hreceiver
  have hclosed := h.receiver hreceiver
  obtain ⟨pre, hpast⟩ := h.up.last hclosed
  have htarget := h.chain.websocketToTarget
  rw [hclosed] at htarget
  have hwire : afterOpening s.upWire.log = fromClient := by
    cases hw : s.writeBridge with
    | ended =>
      have hbridge := h.chain.writeBridge
      have hpump := h.chain.pumpUp
      have hheld : s.pump.heldUp = some [] := by
        cases hp : s.pump with
        | leaving reason next =>
          rw [hp] at hreason
          obtain rfl : reason = .clientEof := by simpa [Pump.reason] using hreason
          rfl
        | _ => simp [hp, Pump.reason] at hreason
      rw [hw] at hbridge
      rw [hheld] at hpump
      calc afterOpening s.upWire.log
        _ = s.upPipe.past := hbridge.given_eq
        _ = s.upPipe.log := Fifo.past_eq_log (h.upSource (Or.inr hw)).2
        _ = s.client.past := hpump.given_eq
        _ = s.client.log := Fifo.past_eq_log (h.clientEof hreason)
        _ = fromClient := h.client
    | failed => exact hsent (h.up.failed hw)
    | reading | sending bytes | closing =>
      rw [hw] at hwriter
      cases hwriter
  calc s.targetOut.log
    _ = afterOpening s.upWire.past := htarget.given_eq
    _ = afterOpening s.upWire.log := (h.up.sealed.afterOpening_past hpast).symm
    _ = fromClient := hwire

/-! ## Main result -/

/-- **What arrives before the end.** For every two streams of bytes, over every run in which nothing is cancelled and no
error comes before the closing frames. Where the pump ended at the transport's end, the client was written all that the
target sent. Where it ended at the client's end and the loops behind it have ended, the target was written all that the
client sent, if the server's closing frame, wherever the run receives it, found all of it sent on the websocket. -/
theorem relay_completes (tunnel : Tunnel) (fromClient fromTarget : List UInt8) (ops : List Op) :
    (AllSteps (step tunnel) NoErrorBeforeClose (start fromClient fromTarget) ops →
      AllStates (step tunnel) (CompleteDown fromTarget) (start fromClient fromTarget) ops) ∧
    (AllSteps (step tunnel) (fun s o => NoErrorBeforeClose s o ∧ ClosesAfterSending s o) (start fromClient fromTarget)
        ops →
      AllStates (step tunnel) (CompleteUp fromClient) (start fromClient fromTarget) ops) := by
  have hstart := endInv_start tunnel fromClient fromTarget
  constructor
  · exact allStates_of_inv (fun _ o h herr => endInv_step o h herr) (fun _ h => h.done) hstart
  · have hkeep : ∀ s o, EndInv tunnel fromClient fromTarget s ∧ SentBeforeClose fromClient s →
        NoErrorBeforeClose s o ∧ ClosesAfterSending s o →
        EndInv tunnel fromClient fromTarget (step tunnel s o) ∧ SentBeforeClose fromClient (step tunnel s o) :=
      fun _ o h hstep => ⟨endInv_step o h.1 hstep.1, sent_step o h.1 h.2 hstep.2⟩
    exact allStates_of_inv hkeep (fun _ h => completeUp_of_inv h.1 h.2) ⟨hstart, fun h => absurd h (by simp [start])⟩

/-! ## Two runs -/

/-- a client with the token of three bytes, and a server that expects it -/
def shortTunnel : Tunnel := ⟨[116, 111, 107], ⟨"tok", by decide⟩, "peer", ⟨"request-1", "example.com", 443⟩, 1⟩

def handshake : List Op :=
  [.opening, .accepting true, .accepting true, .opening, .opening, .accepting true, .accepting true, .opening]

/-- the client sends one byte and closes -/
def clientCloses : List Op :=
  handshake ++ [.pump (.readClient 1), .pump (.write 1), .pump .clientEof, .pump .leave, .writeBridge (.read 1),
    .writeBridge .send, .writeBridge .eof, .writeBridge .close, .websocketToTarget (.next none),
    .websocketToTarget (.write 1), .websocketToTarget (.next none)]

/-- the target sends one byte and closes -/
def targetCloses : List Op :=
  handshake ++ [.targetToWebsocket (.read 1), .targetToWebsocket .send, .targetToWebsocket .eof,
    .targetToWebsocket .close, .readBridge (.next none), .readBridge (.write 1), .readBridge (.next none),
    .pump (.readTransport 1), .pump (.write 1), .pump .transportEof]

/-- the byte arrives, either way -/
theorem closed_streams_complete :
    (run (step shortTunnel) (start [] [120]) targetCloses).clientOut.log = [120] ∧
      (run (step shortTunnel) (start [120] []) clientCloses).targetOut.log = [120] := by
  have hdown := ((relay_completes shortTunnel [] [120] targetCloses).1 (by decide)).last
  have hup := ((relay_completes shortTunnel [120] [] clientCloses).2 (by decide)).last
  exact ⟨hdown (by decide), hup (by decide) (by decide) (by decide)⟩

/-- the client sends two bytes and closes, and the target closes while the first is on its way: the flush of its message
carries the reply to the closing frame, after which the second byte's message is refused -/
def bothClose : List Op :=
  handshake ++ [.pump (.readClient 1), .pump (.write 1), .writeBridge (.read 1), .writeBridge .send, .targetToWebsocket .eof,
    .targetToWebsocket .close, .pump (.readClient 1), .pump (.write 1), .pump .clientEof, .readBridge (.next none),
    .replyClose true, .writeBridge (.read 1), .writeBridge .send, .websocketToTarget (.next none),
    .websocketToTarget (.write 1), .websocketToTarget (.next none)]

/-- **A closing frame overtakes the last byte.** Nothing fails before the closing frames, the pump ends at the client's end,
both loops behind it end, and the target is written the first of the client's two bytes only. -/
theorem early_close_truncates :
    AllSteps (step shortTunnel) NoErrorBeforeClose (start [120, 121] []) bothClose ∧
      ¬AllStates (step shortTunnel) (CompleteUp [120, 121]) (start [120, 121] []) bothClose ∧
      (run (step shortTunnel) (start [120, 121] []) bothClose).targetOut.log = [120] := by
  have hfirst : (run (step shortTunnel) (start [120, 121] []) bothClose).targetOut.log = [120] := by decide +kernel
  refine ⟨by decide +kernel, fun hall => ?_, hfirst⟩
  have harrived := hall.last (by decide +kernel) (by decide +kernel) (by decide +kernel)
  rw [hfirst] at harrived
  cases harrived

end N0wss.Gateway
