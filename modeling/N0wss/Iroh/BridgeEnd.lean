/-
How a bridge ends (`iroh_adapter/mod.rs`).

The sending task finishes the QUIC stream when the local side is at its end, and also when it sees its token cancelled; the
receiving task shuts the pipe down in the same two ways, at an error, and at a first byte that is no marker. Only what
ends by itself ends complete. The receiving task does not look at the token while it waits for the marker.

- `endInv_step`: what holds as long as no task leaves its loop by the `cancelled` branch or by an error.
- `bridge_ends_complete`: then a finished QUIC stream has all that was written locally, and a local side at the end of the
  pipe has read all that the peer sent.
- `sendRank_falls`, `recvRank_falls`: a task of a dropped stream that moves gets nearer to its end.
- `dropped_bridge_ends_iff`: a cancelled bridge whose stream is dropped ends exactly when the peer has said something and
  does not leave a write in the middle.
- `silent_peer_leaves_task`: a peer that says nothing keeps the receiving task for ever.
- `sendReady_step`, `send_ends`: a peer that makes room does not keep the sending task.
-/
import N0wss.Core.Fair
import N0wss.Iroh.Bridge

namespace N0wss.Iroh

open Machine

variable {b : Bridge}

/-! ## Ends by themselves -/

/-- no task leaves its loop by its `cancelled` branch or by an error, and the local side is not dropped -/
def BridgeOp.isOrderly : BridgeOp → Bool
  | .send .cancelled | .send .readFails | .send .writeFails => false
  | .recv .cancelled | .recv .zero | .recv .readFails => false
  | .dropLocal => false
  | _ => true

/-- the peer began with something else -/
def Unmarked (sent : List UInt8) : Prop := ∃ marker ∈ sent.head?, marker ≠ irohAlpnMarker

/-- a finished stream has all that was written locally; at the end of the pipe all that the peer sent was read, and the
peer has finished too, unless it began with something else -/
def Bridge.EndsComplete (b : Bridge) : Prop :=
  (b.sendTask = .finished → b.upClosed = true ∧ b.quicOut = irohAlpnMarker :: b.upPipe.log) ∧
    (b.downClosed = true → b.downPipe.queued = [] →
      b.downPipe.past = afterMarker b.quicIn.log ∧ (b.peerFinished = true ∨ Unmarked b.quicIn.past))

structure EndInv (b : Bridge) : Prop extends BridgeInv b where
  sent : b.sendTask = .finished → b.upClosed = true ∧ b.upPipe.queued = []
  sends : b.sendTask ≠ .broken
  receives : b.recvTask ≠ .broken
  shuts : b.downClosed = true → b.recvTask = .shut
  received : b.recvTask = .shut → (b.quicIn.queued = [] ∧ b.peerFinished = true) ∨ Unmarked b.quicIn.past

theorem endInv_start (cancelled : Bool) : EndInv (.start cancelled) where
  toBridgeInv := bridgeInv_start cancelled
  sent := by rintro ⟨⟩
  sends := by rintro ⟨⟩
  receives := by rintro ⟨⟩
  shuts := by rintro ⟨⟩
  received := by rintro ⟨⟩

theorem unmarked_append {sent : List UInt8} (h : Unmarked sent) (more : List UInt8) : Unmarked (sent ++ more) := by
  obtain ⟨marker, hmem, hne⟩ := h
  cases sent with
  | nil => cases hmem
  | cons first rest => exact ⟨marker, hmem, hne⟩

theorem afterMarker_of_unmarked {sent : List UInt8} (h : Unmarked sent) : afterMarker sent = [] := by
  obtain ⟨marker, hmem, hne⟩ := h
  cases sent with
  | nil => cases hmem
  | cons first rest =>
    obtain rfl : first = marker := by simpa using hmem
    simp [afterMarker, hne]

theorem SendTask.writeAll_ne_broken (rest : List UInt8) : writeAll rest ≠ .broken := fun h => by
  have hover := isOver_writeAll rest
  rw [h] at hover
  cases hover

theorem RecvTask.writeAll_ne_broken (rest : List UInt8) : writeAll rest ≠ .broken := fun h => by
  have hover := isOver_writeAll rest
  rw [h] at hover
  cases hover

theorem endInv_stepSend (h : EndInv b) {o : SendOp} (ho : (BridgeOp.send o).isOrderly = true) : EndInv (b.stepSend o) := by
  have hinv := bridgeInv_stepSend h.toBridgeInv o
  have hturn := sendTurn_outcome b.token b.upClosed b.quicRoom b.upPipe b.sendTask o
  unfold Bridge.stepSend at hinv ⊢
  generalize sendTurn b.token b.upClosed b.quicRoom b.upPipe b.sendTask o = turn at hturn hinv ⊢
  obtain ⟨hsent, hsends⟩ : (turn.task = .finished → b.upClosed = true ∧ (b.upPipe.take turn.took).queued = []) ∧
      turn.task ≠ .broken := by
    have hold := h.sent
    have hsends := h.sends
    generalize b.sendTask = task at hturn hold hsends
    cases hturn with
    | idle => exact ⟨by simpa using hold, hsends⟩
    | read n => exact ⟨fun hf => absurd hf (SendTask.writeAll_ne_finished _), SendTask.writeAll_ne_broken _⟩
    | write rest n => exact ⟨fun hf => absurd hf (SendTask.writeAll_ne_finished _), SendTask.writeAll_ne_broken _⟩
    | eof hempty hclosed => exact ⟨fun _ => ⟨hclosed, by simpa using hempty⟩, by rintro ⟨⟩⟩
    | cancelled ho' | readFails ho' | writeFails ho' =>
      subst ho'
      cases ho
  exact ⟨hinv, hsent, hsends, h.receives, h.shuts, h.received⟩

theorem endInv_stepRecv (h : EndInv b) {o : RecvOp} (ho : (BridgeOp.recv o).isOrderly = true) : EndInv (b.stepRecv o) := by
  have hinv := bridgeInv_stepRecv h.toBridgeInv o
  have hturn := recvTurn_outcome b.token b.peerFinished b.downClosed b.room b.quicIn b.recvTask o
  unfold Bridge.stepRecv at hinv ⊢
  generalize recvTurn b.token b.peerFinished b.downClosed b.room b.quicIn b.recvTask o = turn at hturn hinv ⊢
  have hstays : b.recvTask = .shut → turn.task = .shut := fun hshut => by
    rw [hshut] at hturn
    cases hturn with
    | idle => rfl
    | eof | readFails => rfl
  obtain ⟨hreceives, hreceived⟩ : turn.task ≠ .broken ∧ (turn.task = .shut →
      ((b.quicIn.take turn.took).queued = [] ∧ b.peerFinished = true) ∨ Unmarked (b.quicIn.take turn.took).past) := by
    have hopen : b.downClosed = true → b.recvTask = .shut := h.shuts
    have hreceives := h.receives
    have hreceived := h.received
    have hmarked := h.marked
    generalize b.recvTask = task at hturn hopen hreceives hreceived hmarked
    cases hturn with
    | idle => exact ⟨hreceives, by simpa using hreceived⟩
    | marked queued hqueued => exact ⟨by rintro ⟨⟩, by rintro ⟨⟩⟩
    | unmarked marker queued hqueued hno =>
      have hpast : b.quicIn.past = [] := hmarked
      exact ⟨by rintro ⟨⟩, fun _ => Or.inr ⟨marker, by simp [hpast, hqueued], hno⟩⟩
    | read n => exact ⟨RecvTask.writeAll_ne_broken _, fun hf => absurd hf (RecvTask.writeAll_ne_shut _)⟩
    | write rest n => exact ⟨RecvTask.writeAll_ne_broken _, fun hf => absurd hf (RecvTask.writeAll_ne_shut _)⟩
    | eof _ _ hempty hfinished => exact ⟨by rintro ⟨⟩, fun _ => Or.inl ⟨by simpa using hempty, hfinished⟩⟩
    | cancelled ho' | zero ho' =>
      subst ho'
      cases ho
    | readFails _ _ ho' =>
      subst ho'
      cases ho
    | writeFails rest hclosed => cases hopen hclosed
  refine ⟨hinv, h.sent, h.sends, hreceives, fun hclosed => ?_, hreceived⟩
  rcases Bool.or_eq_true_iff.1 hclosed with hold | hnew
  · exact hstays (h.shuts hold)
  · exact of_decide_eq_true hnew

/-- **One step** that no task leaves by its `cancelled` branch or by an error. -/
theorem endInv_step (h : EndInv b) {o : BridgeOp} (ho : o.isOrderly = true) : EndInv (b.step o) := by
  have hinv := bridgeInv_step h.toBridgeInv o
  cases o with
  | send o => exact endInv_stepSend h ho
  | recv o => exact endInv_stepRecv h ho
  | cancel | peerMakesRoom => exact ⟨hinv, h.sent, h.sends, h.receives, h.shuts, h.received⟩
  | localWrite bytes =>
    simp only [Bridge.step] at hinv ⊢
    split at hinv
    · rename_i hclosed
      rw [if_pos hclosed]
      exact h
    · rename_i hopen
      rw [if_neg hopen]
      exact ⟨hinv, fun hf => absurd (h.sent hf).1 hopen, h.sends, h.receives, h.shuts, h.received⟩
  | localRead n => exact ⟨hinv, h.sent, h.sends, h.receives, h.shuts, h.received⟩
  | localShutdown => exact ⟨hinv, fun hf => ⟨rfl, (h.sent hf).2⟩, h.sends, h.receives, h.shuts, h.received⟩
  | dropLocal => cases ho
  | dropBridge =>
    simp only [Bridge.step] at hinv ⊢
    split at hinv
    · rename_i hover
      rw [if_pos hover]
      have hrecv : b.recvTask = .shut := by
        have hreceives := h.receives
        rw [Bool.and_eq_true] at hover
        cases hr : b.recvTask <;> simp_all [RecvTask.isOver]
      exact ⟨hinv, fun hf => ⟨rfl, (h.sent hf).2⟩, h.sends, h.receives, fun _ => hrecv, h.received⟩
    · rename_i hrunning
      rw [if_neg hrunning]
      exact h
  | peerSends bytes =>
    simp only [Bridge.step] at hinv ⊢
    split at hinv
    · rename_i hfinished
      rw [if_pos hfinished]
      exact h
    · rename_i hnot
      rw [if_neg hnot]
      refine ⟨hinv, h.sent, h.sends, h.receives, h.shuts, fun hshut => ?_⟩
      rcases h.received hshut with ⟨-, hfinished⟩ | hunmarked
      · exact absurd hfinished hnot
      · exact Or.inr hunmarked
  | peerFinishes =>
    refine ⟨hinv, h.sent, h.sends, h.receives, h.shuts, fun hshut => ?_⟩
    rcases h.received hshut with ⟨hempty, -⟩ | hunmarked
    · exact Or.inl ⟨hempty, rfl⟩
    · exact Or.inr hunmarked

theorem EndInv.endsComplete (h : EndInv b) : b.EndsComplete := by
  constructor
  · intro hfinished
    obtain ⟨hclosed, hempty⟩ := h.sent hfinished
    have hup := h.up
    rw [hfinished] at hup
    exact ⟨hclosed, by rw [hup.given_eq, Fifo.past_eq_log hempty]⟩
  · intro hclosed hread
    have hshut := h.shuts hclosed
    have hdown := h.down
    rw [hshut] at hdown
    have hgiven : b.downPipe.past = afterMarker b.quicIn.past := by rw [Fifo.past_eq_log hread, hdown.given_eq]
    rcases h.received hshut with ⟨hempty, hfinished⟩ | hunmarked
    · exact ⟨by rw [hgiven, Fifo.past_eq_log hempty], Or.inl hfinished⟩
    · refine ⟨?_, Or.inr hunmarked⟩
      rw [hgiven, afterMarker_of_unmarked hunmarked, Fifo.log, afterMarker_of_unmarked (unmarked_append hunmarked _)]

/-- **What ends by itself ends complete.** In every run in which no task leaves its loop by its `cancelled` branch or by an
error and the local side is not dropped, whatever is cancelled meanwhile: once the sending task has finished the QUIC
stream, all that was ever written locally is on it; once the local side is at the end of the pipe, it has read all that
the peer ever sent after the marker, and the peer has finished as well, unless its first byte was not the marker. -/
theorem bridge_ends_complete (cancelled : Bool) (ops : List BridgeOp) (h : ∀ o ∈ ops, o.isOrderly = true) :
    AllStates Bridge.step Bridge.EndsComplete (.start cancelled) ops := by
  suffices hrun : ∀ (b : Bridge) (ops : List BridgeOp), EndInv b → (∀ o ∈ ops, o.isOrderly = true) →
      AllStates Bridge.step Bridge.EndsComplete b ops from hrun _ ops (endInv_start cancelled) h
  intro b ops hb hops
  induction ops generalizing b with
  | nil => exact hb.endsComplete
  | cons o ops ih =>
    have ho := hops o List.mem_cons_self
    exact ⟨hb.endsComplete, ih _ (endInv_step hb ho) fun o' ho' => hops o' (List.mem_cons_of_mem o ho')⟩

/-- both sides say one thing and finish -/
def farewells : List BridgeOp :=
  [.localWrite [1, 2], .localShutdown, .send (.read 8192), .peerMakesRoom 64, .send (.write 2), .send .eof,
    .peerSends [irohAlpnMarker, 9], .peerFinishes, .recv (.read 1), .recv (.read 8192), .recv (.write 1), .recv .eof,
    .localRead 1]

theorem farewells_end_complete :
    (run Bridge.step (.start false) farewells).sendTask = .finished ∧
      (run Bridge.step (.start false) farewells).recvTask = .shut ∧
        AllStates Bridge.step Bridge.EndsComplete (.start false) farewells :=
  ⟨rfl, rfl, bridge_ends_complete false farewells (by decide)⟩

/-! ## Cancelled bridges -/

/-- the sending task can go on: there is something to read, or room on the QUIC stream -/
def SendReady (b : Bridge) : Prop :=
  match b.sendTask with
  | .reading => b.upPipe.queued ≠ [] ∨ b.upClosed = true ∨ b.token = true
  | .writing _ => 0 < b.quicRoom
  | .finished | .broken => False

/-- the receiving task can go on: there is something to read, or room in the pipe -/
def RecvReady (b : Bridge) : Prop :=
  match b.recvTask with
  | .marking => b.quicIn.queued ≠ [] ∨ b.peerFinished = true
  | .reading => b.quicIn.queued ≠ [] ∨ b.peerFinished = true ∨ b.token = true
  | .writing _ => b.downClosed = true ∨ 0 < b.room
  | .shut | .broken => False

def SendMoves (b : Bridge) (o : BridgeOp) : Prop := (b.step o).sendTask ≠ b.sendTask

def RecvMoves (b : Bridge) (o : BridgeOp) : Prop := (b.step o).recvTask ≠ b.recvTask

/-- the sending task is in the middle of a write, and the QUIC stream takes nothing more -/
def Blocked (b : Bridge) : Prop := b.quicRoom = 0 ∧ ∃ rest, b.sendTask = .writing rest

/-- how far the sending task is from its end, once nothing more is written locally -/
def sendRank (b : Bridge) : ℕ :=
  match b.sendTask with
  | .reading => 4 * b.upPipe.queued.length + 1
  | .writing rest => 4 * b.upPipe.queued.length + 2 * rest.length + 2
  | .finished | .broken => 0

/-- how far the receiving task is from its end, once its pipe is closed -/
def RecvTask.rank : RecvTask → ℕ
  | .marking => 3
  | .reading => 2
  | .writing _ => 1
  | .shut | .broken => 0

theorem sendRank_eq_zero : sendRank b = 0 ↔ b.sendTask.isOver = true := by
  unfold sendRank
  cases b.sendTask <;> simp [SendTask.isOver]

theorem RecvTask.rank_eq_zero {task : RecvTask} : task.rank = 0 ↔ task.isOver = true := by
  cases task <;> simp [rank, isOver]

/-- the stream is cancelled and dropped -/
def Dropped (b : Bridge) : Prop := b.token = true ∧ b.upClosed = true ∧ b.downClosed = true

theorem dropped_step (b : Bridge) (o : BridgeOp) (h : Dropped b) : Dropped (b.step o) := by
  obtain ⟨htoken, hup, hdown⟩ := h
  cases o with
  | send o => exact ⟨htoken, hup, hdown⟩
  | recv o => exact ⟨htoken, hup, by simp [Bridge.step, Bridge.stepRecv, hdown]⟩
  | cancel => exact ⟨rfl, hup, hdown⟩
  | localRead | peerFinishes | peerMakesRoom => exact ⟨htoken, hup, hdown⟩
  | localShutdown => exact ⟨htoken, rfl, hdown⟩
  | dropLocal => exact ⟨htoken, rfl, rfl⟩
  | localWrite =>
    simp only [Bridge.step, if_pos hup]
    exact ⟨htoken, hup, hdown⟩
  | dropBridge =>
    simp only [Bridge.step]
    split
    · exact ⟨htoken, rfl, rfl⟩
    · exact ⟨htoken, hup, hdown⟩
  | peerSends bytes =>
    simp only [Bridge.step]
    split <;> exact ⟨htoken, hup, hdown⟩

/-- a turn of the sending task never raises its rank, and lowers it where the task moves -/
theorem sendRank_stepSend (b : Bridge) (o : SendOp) :
    (b.stepSend o).sendTask = b.sendTask ∧ sendRank (b.stepSend o) = sendRank b ∨
      sendRank (b.stepSend o) < sendRank b := by
  have hturn := sendTurn_outcome b.token b.upClosed b.quicRoom b.upPipe b.sendTask o
  unfold Bridge.stepSend sendRank
  generalize sendTurn b.token b.upClosed b.quicRoom b.upPipe b.sendTask o = turn at hturn ⊢
  dsimp only
  generalize b.sendTask = task at hturn ⊢
  cases hturn with
  | idle => exact Or.inl ⟨rfl, by simp⟩
  | cancelled | eof | readFails | writeFails => exact Or.inr (by simp)
  | read n =>
    by_cases hnone : b.upPipe.queued.take n = []
    · left
      rw [hnone]
      refine ⟨rfl, ?_⟩
      rcases List.take_eq_nil_iff.1 hnone with hn | hempty
      · simp [SendTask.writeAll, hn]
      · simp [SendTask.writeAll, hempty]
    · right
      rw [SendTask.writeAll, if_neg hnone]
      have hpos : 0 < (b.upPipe.queued.take n).length := List.length_pos_iff.2 hnone
      simp only [Fifo.queued_take, List.length_drop, List.length_take] at hpos ⊢
      omega
  | write rest n =>
    by_cases hdone : rest.drop n = []
    · right
      simp only [SendTask.writeAll, if_pos hdone, Fifo.take_zero]
      omega
    · rw [SendTask.writeAll, if_neg hdone]
      by_cases hsame : n = 0
      · exact Or.inl (by simp [hsame])
      · right
        have hpos : 0 < (rest.drop n).length := List.length_pos_iff.2 hdone
        simp only [Fifo.take_zero, List.length_drop] at hpos ⊢
        omega

theorem sendRank_step {o : BridgeOp} (hclosed : b.upClosed = true) :
    (b.step o).sendTask = b.sendTask ∧ sendRank (b.step o) = sendRank b ∨ sendRank (b.step o) < sendRank b := by
  cases o with
  | send o => exact sendRank_stepSend b o
  | localWrite => exact Or.inl (by simp only [Bridge.step, if_pos hclosed, and_self])
  | dropBridge =>
    simp only [Bridge.step]
    split <;> exact Or.inl ⟨rfl, rfl⟩
  | peerSends bytes =>
    simp only [Bridge.step]
    split <;> exact Or.inl ⟨rfl, rfl⟩
  | _ => exact Or.inl ⟨rfl, rfl⟩

/-- **The sending task** of a stream that is closed for writing gets nearer to its end with every move. -/
theorem sendRank_falls {o : BridgeOp} (hclosed : b.upClosed = true) (hmoves : SendMoves b o) :
    sendRank (b.step o) < sendRank b := by
  rcases sendRank_step (o := o) hclosed with ⟨hsame, -⟩ | hless
  · exact absurd hsame hmoves
  · exact hless

/-- a task that stays where it is passes nothing on -/
theorem SendOutcome.gave_of_same {token closed : Bool} {pipe : Fifo UInt8} {o : SendOp} {task : SendTask}
    {turn : Turn SendTask} (hturn : SendOutcome token closed pipe o task turn) (hsame : turn.task = task) :
    turn.gave = [] := by
  cases hturn with
  | write rest n =>
    unfold SendTask.writeAll at hsame
    split at hsame
    · cases hsame
    · have hlength : (rest.drop n).length = rest.length := congrArg List.length (SendTask.writing.inj hsame)
      rw [List.length_drop] at hlength
      apply List.take_eq_nil_iff.2
      rw [← List.length_eq_zero_iff]
      omega
  | _ => rfl

/-- only what the sending task writes takes room on the QUIC stream -/
theorem quicRoom_step {o : BridgeOp} (hsame : (b.step o).sendTask = b.sendTask) : b.quicRoom ≤ (b.step o).quicRoom := by
  cases o with
  | send o =>
    have hgave := (sendTurn_outcome b.token b.upClosed b.quicRoom b.upPipe b.sendTask o).gave_of_same hsame
    simp only [Bridge.step, Bridge.stepSend, hgave]
    exact le_refl _
  | localWrite | dropBridge | peerSends =>
    simp only [Bridge.step]
    split <;> exact le_refl _
  | peerMakesRoom n => exact Nat.le_add_right _ n
  | _ => exact le_refl _

/-- **A step** leaves a sending task that can go on where it can, or brings it nearer to its end. -/
theorem sendReady_step {o : BridgeOp} (hdropped : Dropped b) (hready : SendReady b) :
    SendReady (b.step o) ∨ sendRank (b.step o) < sendRank b := by
  rcases sendRank_step (o := o) hdropped.2.1 with ⟨hsame, -⟩ | hless
  · left
    have hroom := quicRoom_step hsame
    unfold SendReady at hready ⊢
    rw [hsame]
    cases htask : b.sendTask with
    | reading => exact Or.inr (Or.inl (dropped_step b o hdropped).2.1)
    | writing rest =>
      rw [htask] at hready
      exact hready.trans_le hroom
    | finished | broken =>
      rw [htask] at hready
      exact hready
  · exact Or.inr hless

theorem sendOver_step (b : Bridge) (o : BridgeOp) (h : b.sendTask.isOver = true) : (b.step o).sendTask.isOver = true := by
  cases o with
  | send o => exact (sendTurn_outcome b.token b.upClosed b.quicRoom b.upPipe b.sendTask o).stays_over h
  | localWrite | dropBridge | peerSends =>
    simp only [Bridge.step]
    split <;> exact h
  | _ => exact h

theorem RecvOutcome.rank {token peerFinished : Bool} {quic : Fifo UInt8} {o : RecvOp} {task : RecvTask}
    {turn : Turn RecvTask} (hturn : RecvOutcome token peerFinished true quic o task turn) :
    turn.task = task ∨ turn.task.rank < task.rank := by
  cases hturn with
  | idle => exact Or.inl rfl
  | read n =>
    unfold RecvTask.writeAll
    split
    · exact Or.inl rfl
    · exact Or.inr (Nat.lt_succ_self 1)
  | write rest n hopen => cases hopen
  | eof _ htask | readFails _ htask => rcases htask with rfl | rfl <;> exact Or.inr (by simp [RecvTask.rank])
  | _ => exact Or.inr (by simp [RecvTask.rank])

theorem recvTask_step {o : BridgeOp} (ho : ∀ o', o ≠ .recv o') : (b.step o).recvTask = b.recvTask := by
  cases o with
  | recv o => exact absurd rfl (ho o)
  | localWrite | dropBridge | peerSends =>
    simp only [Bridge.step]
    split <;> rfl
  | _ => rfl

theorem recvTask_step_outcome (b : Bridge) (o : BridgeOp) :
    (b.step o).recvTask = b.recvTask ∨ ∃ o' turn, o = .recv o' ∧ (b.step o).recvTask = turn.task ∧
      RecvOutcome b.token b.peerFinished b.downClosed b.quicIn o' b.recvTask turn := by
  by_cases ho : ∃ o', o = .recv o'
  · obtain ⟨o', rfl⟩ := ho
    exact Or.inr ⟨o', _, rfl, rfl, recvTurn_outcome _ _ _ b.room _ _ o'⟩
  · exact Or.inl (recvTask_step fun o' heq => ho ⟨o', heq⟩)

theorem recvRank_step {o : BridgeOp} (hclosed : b.downClosed = true) :
    (b.step o).recvTask = b.recvTask ∨ (b.step o).recvTask.rank < b.recvTask.rank := by
  rcases recvTask_step_outcome b o with hsame | ⟨o', turn, -, htask, hturn⟩
  · exact Or.inl hsame
  · rw [hclosed] at hturn
    rw [htask]
    exact hturn.rank

/-- **The receiving task** of a stream that is closed for reading gets nearer to its end with every move. -/
theorem recvRank_falls {o : BridgeOp} (hclosed : b.downClosed = true) (hmoves : RecvMoves b o) :
    (b.step o).recvTask.rank < b.recvTask.rank := (recvRank_step hclosed).resolve_left hmoves

theorem recvOver_step (b : Bridge) (o : BridgeOp) (h : b.recvTask.isOver = true) : (b.step o).recvTask.isOver = true := by
  rcases recvTask_step_outcome b o with hsame | ⟨o', turn, -, htask, hturn⟩
  · rw [hsame, h]
  · rw [htask]
    exact hturn.stays_over h

/-! ## The peer has to say something -/

/-- the peer has sent a byte or finished its side -/
def Spoken (b : Bridge) : Prop := b.quicIn.log ≠ [] ∨ b.peerFinished = true

theorem spoken_step (b : Bridge) (o : BridgeOp) (h : Spoken b) : Spoken (b.step o) := by
  cases o with
  | recv o =>
    rcases h with hsent | hfinished
    · exact Or.inl (by simpa [Bridge.step, Bridge.stepRecv] using hsent)
    · exact Or.inr hfinished
  | peerFinishes => exact Or.inr rfl
  | peerSends bytes =>
    simp only [Bridge.step]
    split
    · exact h
    · rcases h with hsent | hfinished
      · exact Or.inl (by simp [hsent])
      · exact Or.inr hfinished
  | localWrite | dropBridge =>
    simp only [Bridge.step]
    split <;> exact h
  | _ => exact h

theorem quic_empty_of_silent (hsilent : ¬Spoken b) : b.quicIn.past = [] ∧ b.quicIn.queued = [] := by
  have hlog : b.quicIn.log = [] := by
    by_contra hne
    exact hsilent (Or.inl hne)
  exact List.append_eq_nil_iff.1 hlog

/-- the marker is waited for, whatever else happens, as long as the peer says nothing and the stream does not fail -/
theorem marking_step {o : BridgeOp} (hmarking : b.recvTask = .marking) (hsilent : ¬Spoken b)
    (ho : o ≠ .recv .readFails) : (b.step o).recvTask = .marking := by
  have hqueued := (quic_empty_of_silent hsilent).2
  rcases recvTask_step_outcome b o with hsame | ⟨o', turn, rfl, htask, hturn⟩
  · rw [hsame, hmarking]
  · rw [htask]
    rw [hmarking] at hturn
    cases hturn with
    | idle => rfl
    | marked _ hsome | unmarked _ _ hsome =>
      rw [hqueued] at hsome
      cases hsome
    | eof _ _ _ hfinished => exact absurd (Or.inr hfinished) hsilent
    | readFails _ _ ho' => exact absurd (by rw [ho']) ho

/-- before the peer has said anything, an error ends the receiving task -/
theorem over_of_readFails (h : BridgeInv b) (hsilent : ¬Spoken b) : (b.step (.recv .readFails)).recvTask.isOver = true := by
  have hpast := (quic_empty_of_silent hsilent).1
  have hmarked := h.marked
  show (recvTurn b.token b.peerFinished b.downClosed b.room b.quicIn b.recvTask .readFails).task.isOver = true
  cases htask : b.recvTask with
  | marking | reading => rfl
  | shut | broken => rfl
  | writing rest =>
    rw [htask, hpast] at hmarked
    cases hmarked

variable {r : LongRun Bridge.step}

/-- **A silent peer keeps the receiving task for ever,** cancelled or not, dropped or not. -/
theorem silent_peer_leaves_task (cancelled : Bool) (hstart : r.start = .start cancelled)
    (hsilent : ∀ m, ¬Spoken (r.state m)) (hworks : ∀ m, r.ops m ≠ .recv .readFails) (m : ℕ) :
    (r.state m).recvTask = .marking := by
  induction m with
  | zero =>
    show r.start.recvTask = .marking
    rw [hstart]
    rfl
  | succ m ih => exact marking_step ih (hsilent m) (hworks m)

/-! ## Main result -/

theorem bridgeInv_state (cancelled : Bool) (hstart : r.start = .start cancelled) (m : ℕ) : BridgeInv (r.state m) := by
  have hstep : ∀ (b : Bridge) (o : BridgeOp), BridgeInv b → True → BridgeInv (b.step o) :=
    fun _ o h _ => bridgeInv_step h o
  exact r.state_inv hstep (hstart ▸ bridgeInv_start cancelled) (fun _ => trivial) m

/-- where nothing more is written locally, only a write that finds no room keeps the sending task -/
theorem blocked_of_not_sendReady {b : Bridge} (hclosed : b.upClosed = true) (hrank : sendRank b ≠ 0)
    (hnot : ¬SendReady b) : Blocked b := by
  unfold SendReady at hnot
  cases htask : b.sendTask with
  | reading =>
    rw [htask] at hnot
    exact absurd (Or.inr (Or.inl hclosed)) hnot
  | writing rest =>
    rw [htask] at hnot
    exact ⟨Nat.eq_zero_of_not_pos hnot, rest, htask⟩
  | finished | broken => exact absurd (sendRank_eq_zero.2 (by rw [htask]; rfl)) hrank

/-- **A dropped stream's sending task** ends, unless the peer leaves it in the middle of a write for ever. -/
theorem send_ends (hsend : r.WeakFair SendReady SendMoves) {n : ℕ} (hdropped : ∀ m, n ≤ m → Dropped (r.state m))
    (hfree : ¬∃ k, ∀ m, k ≤ m → Blocked (r.state m)) : ∃ m, n ≤ m ∧ sendRank (r.state m) = 0 := by
  have hdown : ∀ m, n ≤ m → sendRank (r.state (m + 1)) ≤ sendRank (r.state m) := by
    intro m hm
    rcases sendRank_step (o := r.ops m) (hdropped m hm).2.1 with ⟨-, hsame⟩ | hless
    · exact hsame.le
    · exact hless.le
  apply LongRun.exists_zero
  intro m hm hne
  have hbelow : ∀ k, m ≤ k → sendRank (r.state k) ≤ sendRank (r.state m) := fun k hk => LongRun.le_of_falling hdown hm hk
  by_cases hready : ∃ k, m ≤ k ∧ SendReady (r.state k)
  · obtain ⟨k, hk, hready⟩ := hready
    obtain ⟨i, hi, hless⟩ := hsend.reaches_of_stays (Q := fun b => sendRank b < sendRank (r.state m)) hready
      (fun i hi hstill => (sendReady_step (hdropped i (hm.trans (hk.trans hi))) hstill).imp_right fun hless =>
        hless.trans_le (hbelow i (hk.trans hi)))
      (fun i hi _ hmoves => (sendRank_falls (hdropped i (hm.trans (hk.trans hi))).2.1 hmoves).trans_le
        (hbelow i (hk.trans hi)))
    exact ⟨i, hk.trans hi, hless⟩
  · -- a task that never can go on has ended, or is in the middle of a write for ever
    push Not at hready
    by_contra hnever
    push Not at hnever
    refine hfree ⟨m, fun k hk => ?_⟩
    have hrank : sendRank (r.state k) ≠ 0 := by
      have hle := hnever k hk
      omega
    exact blocked_of_not_sendReady (hdropped k (hm.trans hk)).2.1 hrank (hready k hk)

theorem recv_ends (hrecv : r.WeakFair RecvReady RecvMoves) {n : ℕ}
    (hn : ∀ m, n ≤ m → Dropped (r.state m) ∧ Spoken (r.state m) ∧ BridgeInv (r.state m)) :
    ∃ m, n ≤ m ∧ (r.state m).recvTask.rank = 0 := by
  refine hrecv.exists_zero (f := fun b => b.recvTask.rank) ?_ ?_ ?_
  · intro m hm
    rcases recvRank_step (o := r.ops m) (hn m hm).1.2.2 with hsame | hless
    · exact (congrArg RecvTask.rank hsame).le
    · exact hless.le
  · intro m hm hne
    obtain ⟨⟨htoken, -, hdown⟩, hspoken, hinv⟩ := hn m hm
    have hmarked := hinv.marked
    unfold RecvReady
    cases htask : (r.state m).recvTask with
    | marking =>
      rw [htask] at hmarked
      have hpast : (r.state m).quicIn.past = [] := hmarked
      rcases hspoken with hsent | hfinished
      · exact Or.inl (by simpa [Fifo.log, hpast] using hsent)
      · exact Or.inr hfinished
    | reading => exact Or.inr (Or.inr htoken)
    | writing => exact Or.inl hdown
    | shut | broken => exact absurd (by rw [htask]; rfl) hne
  · exact fun m hm hmoves _ => recvRank_falls (hn m hm).1.2.2 hmoves

/-- **A cancelled bridge whose stream is dropped ends exactly when the peer has said something and does not leave a write in
the middle.** In every run that is fair to both tasks, once the token is cancelled and the local side is dropped: both tasks
end if and only if at some time the peer sends a byte or finishes its side, or reading from it fails, and the sending task
is not left for ever in a write that the peer makes no room for. Neither task looks at its token there: a silent peer on a
live connection, and one that does not read, each keep a task, and with it a `shutdown` that waits for it, for ever. -/
theorem dropped_bridge_ends_iff (cancelled : Bool) (r : LongRun Bridge.step) (hstart : r.start = .start cancelled)
    (hsend : r.WeakFair SendReady SendMoves) (hrecv : r.WeakFair RecvReady RecvMoves) (n : ℕ)
    (hdropped : Dropped (r.state n)) :
    (∃ m, (r.state m).activeTasks = 0) ↔
      (∃ m, Spoken (r.state m) ∨ r.ops m = .recv .readFails) ∧ ¬∃ k, ∀ m, k ≤ m → Blocked (r.state m) := by
  have hinv := bridgeInv_state cancelled hstart
  have hstays : ∀ m, n ≤ m → Dropped (r.state m) := fun m hm => r.stays dropped_step hdropped hm
  constructor
  · rintro ⟨m, hnone⟩
    have hcounted := (hinv m).counted
    rw [hnone] at hcounted
    constructor
    · by_contra hsilent
      push Not at hsilent
      have hmarking := silent_peer_leaves_task cancelled hstart (fun k => (hsilent k).1) (fun k => (hsilent k).2) m
      rw [hmarking] at hcounted
      simp [running, RecvTask.isOver] at hcounted
    · rintro ⟨k, hblocked⟩
      have hover : (r.state m).sendTask.isOver = true := by
        by_contra hrunning
        have hone : running (r.state m).sendTask.isOver = 1 := if_neg hrunning
        omega
      obtain ⟨-, rest, htask⟩ := hblocked (max m k) (le_max_right m k)
      have hstill := r.stays sendOver_step hover (le_max_left m k)
      rw [htask] at hstill
      cases hstill
  · rintro ⟨⟨m, hm⟩, hfree⟩
    -- the receiving task ends at some time
    have hrecvEnds : ∃ k, (r.state k).recvTask.isOver = true := by
      by_cases hspoken : ∃ k, Spoken (r.state k)
      · obtain ⟨k, hk⟩ := hspoken
        obtain ⟨k', -, hzero⟩ := recv_ends hrecv (n := max n k) fun i hi =>
          ⟨hstays i ((le_max_left n k).trans hi), r.stays spoken_step hk ((le_max_right n k).trans hi), hinv i⟩
        exact ⟨k', RecvTask.rank_eq_zero.1 hzero⟩
      · have hsilent : ¬Spoken (r.state m) := fun h => hspoken ⟨m, h⟩
        refine ⟨m + 1, ?_⟩
        rw [LongRun.state, hm.resolve_left hsilent]
        exact over_of_readFails (hinv m) hsilent
    obtain ⟨k, hk⟩ := hrecvEnds
    -- and the sending task stays at its end
    obtain ⟨k', hk', hzero⟩ := send_ends hsend (n := max n k) (fun i hi => hstays i ((le_max_left n k).trans hi)) hfree
    refine ⟨k', ?_⟩
    rw [(hinv k').counted, sendRank_eq_zero.1 hzero, r.stays recvOver_step hk ((le_max_right n k).trans hk')]
    rfl

/-- the stream is cancelled and dropped in the middle of a write; the peer reads, and still sends its marker -/
def lateMarker : List BridgeOp :=
  [.localWrite [5], .send (.read 8192), .cancel, .dropLocal, .peerMakesRoom 1, .send (.write 8192), .send .cancelled,
    .peerSends [irohAlpnMarker], .recv (.read 1), .recv .cancelled]

theorem late_marker_ends :
    ∃ m, ((LongRun.scripted Bridge.step (.start false) lateMarker .cancel).state m).activeTasks = 0 := by
  have hsettles : LongRun.Settles (LongRun.scripted Bridge.step (.start false) lateMarker .cancel) 10 .cancel :=
    LongRun.settles_scripted (by decide) rfl
  refine (dropped_bridge_ends_iff false _ rfl ?_ ?_ 4 ⟨rfl, rfl, rfl⟩).2
    ⟨⟨8, Or.inl (Or.inl (List.cons_ne_nil _ _))⟩, ?_⟩
  · exact LongRun.weakFair_of_settled hsettles fun hready => hready.elim
  · exact LongRun.weakFair_of_settled hsettles fun hready => hready.elim
  · rintro ⟨k, hblocked⟩
    obtain ⟨-, rest, htask⟩ := hblocked (max k 10) (le_max_left k 10)
    rw [LongRun.state_of_settles hsettles (le_max_right k 10)] at htask
    cases htask

end N0wss.Iroh
