/-
The iroh adapter (`iroh_adapter/mod.rs`): `open_stream` with its cancellation points, and the two tasks of
`spawn_bridge_tasks`, which carry bytes between the QUIC stream and the duplex pipe behind the resolved stream.

The QUIC stream is outside: which of its calls come back, with how many bytes and which errors, is a turn's argument, and
what the peer sends is an operation of its own. `split` leaves the pipe to the local side, which writes, reads, closes and
drops it as it likes. A task sees its token only where it waits in a `select!`.

- `sendTurn_outcome`, `recvTurn_outcome`: all that a turn of a task can come to.
- `bridgeInv_step`: each task has passed on a prefix of what it took, and the counter counts the tasks that go on.
- `open_stream_carries`: what is on the QUIC stream is the marker and then what was written locally; what can be read
  locally is what the peer sent after its marker, and nothing if it did not start with one.
-/
import N0wss.Core.Fifo
import N0wss.Core.Machine

namespace N0wss.Iroh

open Machine

def irohAlpnMarker : UInt8 := 0x7f

inductive IrohError where
  | cancelled
  | transportUnavailable (err : String)
  | streamOpenFailed (err : String)
  | contractViolation (err : String)
  | releaseFailed
deriving DecidableEq, Repr

/-! ## The two tasks -/

/-- the buffers of both tasks -/
def bufferBytes : ℕ := 8192

/-- the task that reads the pipe and writes to the QUIC stream -/
inductive SendTask where
  | reading
  /-- in `write_all`, with this left -/
  | writing (rest : List UInt8)
  /-- it called `finish` and left its loop -/
  | finished
  /-- it left its loop without -/
  | broken
deriving DecidableEq, Repr

/-- the task that reads the QUIC stream and writes into the pipe -/
inductive RecvTask where
  /-- in `read_exact`, for the marker -/
  | marking
  | reading
  | writing (rest : List UInt8)
  /-- it shut the pipe down and ended -/
  | shut
  /-- it ended without -/
  | broken
deriving DecidableEq, Repr

def SendTask.isOver : SendTask → Bool
  | .finished | .broken => true
  | .reading | .writing _ => false

def RecvTask.isOver : RecvTask → Bool
  | .shut | .broken => true
  | .marking | .reading | .writing _ => false

/-- `write_all` goes on until nothing is left -/
def SendTask.writeAll (rest : List UInt8) : SendTask := if rest = [] then .reading else .writing rest

def RecvTask.writeAll (rest : List UInt8) : RecvTask := if rest = [] then .reading else .writing rest

inductive SendOp where
  /-- the `cancelled` branch -/
  | cancelled
  | read (n : ℕ)
  /-- `Ok(0)` -/
  | eof
  | readFails
  /-- the QUIC stream takes at most `n` bytes -/
  | write (n : ℕ)
  | writeFails
deriving DecidableEq, Repr

inductive RecvOp where
  | cancelled
  /-- as much as is there, at most `n` bytes; the one byte of `read_exact` -/
  | read (n : ℕ)
  /-- `Ok(Some(0))` -/
  | zero
  /-- `Ok(None)`; in `read_exact` an error -/
  | eof
  | readFails
  /-- the pipe takes at most `n` bytes -/
  | write (n : ℕ)
deriving DecidableEq, Repr

/-- the task after its turn, how much it took, and what it passed on -/
structure Turn (τ : Type) where
  task : τ
  took : ℕ
  gave : List UInt8

/-- one turn, under a token, over a pipe that may be closed and a QUIC stream with this much room -/
def sendTurn (token closed : Bool) (room : ℕ) (pipe : Fifo UInt8) (task : SendTask) : SendOp → Turn SendTask
  | .cancelled =>
    match task with
    | .reading => if token then ⟨.finished, 0, []⟩ else ⟨.reading, 0, []⟩
    | task => ⟨task, 0, []⟩
  | .read n =>
    match task with
    | .reading => ⟨.writeAll (pipe.queued.take (min n bufferBytes)), min n bufferBytes, []⟩
    | task => ⟨task, 0, []⟩
  | .eof =>
    match task with
    | .reading => if pipe.queued = [] ∧ closed = true then ⟨.finished, 0, []⟩ else ⟨.reading, 0, []⟩
    | task => ⟨task, 0, []⟩
  | .readFails =>
    match task with
    | .reading => ⟨.broken, 0, []⟩
    | task => ⟨task, 0, []⟩
  | .write n =>
    match task with
    | .writing rest => ⟨.writeAll (rest.drop (min n room)), 0, rest.take (min n room)⟩
    | task => ⟨task, 0, []⟩
  | .writeFails =>
    match task with
    | .writing _ => ⟨.broken, 0, []⟩
    | task => ⟨task, 0, []⟩

/-- one turn, under a token, over the QUIC stream, which the peer may have finished, and a pipe with this much room, which
may be closed -/
def recvTurn (token peerFinished closed : Bool) (room : ℕ) (quic : Fifo UInt8) (task : RecvTask) :
    RecvOp → Turn RecvTask
  | .cancelled =>
    match task with
    | .reading => if token then ⟨.shut, 0, []⟩ else ⟨.reading, 0, []⟩
    | task => ⟨task, 0, []⟩
  | .read n =>
    match task, quic.queued with
    | .marking, marker :: _ => ⟨if marker = irohAlpnMarker then .reading else .shut, 1, []⟩
    | .reading, queued => ⟨.writeAll (queued.take (min n bufferBytes)), min n bufferBytes, []⟩
    | task, _ => ⟨task, 0, []⟩
  | .zero =>
    match task with
    | .reading => ⟨.shut, 0, []⟩
    | task => ⟨task, 0, []⟩
  | .eof =>
    match task with
    | .marking | .reading => if quic.queued = [] ∧ peerFinished = true then ⟨.shut, 0, []⟩ else ⟨task, 0, []⟩
    | task => ⟨task, 0, []⟩
  | .readFails =>
    match task with
    | .marking | .reading => ⟨.shut, 0, []⟩
    | task => ⟨task, 0, []⟩
  | .write n =>
    match task with
    | .writing rest =>
      if closed then ⟨.broken, 0, []⟩ else ⟨.writeAll (rest.drop (min n room)), 0, rest.take (min n room)⟩
    | task => ⟨task, 0, []⟩

/-! ## The bridge -/

/-- an open stream -/
structure Bridge where
  /-- the `shutdown` token, a child of the caller's -/
  token : Bool
  /-- what was written to the QUIC stream, and what the peer sends on it -/
  quicOut : List UInt8
  quicIn : Fifo UInt8
  /-- how much more the QUIC stream takes: the peer's flow control -/
  quicRoom : ℕ
  peerFinished : Bool
  /-- the two directions of the duplex pipe, from the local side and to it -/
  upPipe : Fifo UInt8
  downPipe : Fifo UInt8
  upClosed : Bool
  downClosed : Bool
  sendTask : SendTask
  recvTask : RecvTask
  activeTasks : ℕ

/-- the size of each direction of the duplex pipe -/
def pipeBytes : ℕ := 32 * 1024

inductive BridgeOp where
  | send (o : SendOp)
  | recv (o : RecvOp)
  /-- the token is cancelled: the caller's, or by `shutdown` -/
  | cancel
  /-- the local side writes, reads, shuts its writing half down, and drops both halves -/
  | localWrite (bytes : List UInt8)
  | localRead (n : ℕ)
  | localShutdown
  | dropLocal
  /-- with both tasks the bridge's end of the pipe is dropped -/
  | dropBridge
  | peerSends (bytes : List UInt8)
  | peerFinishes
  /-- the peer reads, and lets the QUIC stream take `n` more bytes -/
  | peerMakesRoom (n : ℕ)
deriving DecidableEq, Repr

namespace Bridge

/-- as `open_stream` leaves it -/
def start (cancelled : Bool) : Bridge where
  token := cancelled
  quicOut := [irohAlpnMarker]
  quicIn := .empty
  quicRoom := 0
  peerFinished := false
  upPipe := .empty
  downPipe := .empty
  upClosed := false
  downClosed := false
  sendTask := .reading
  recvTask := .marking
  activeTasks := 2

/-- `finish_bridge_task`, where a task ends -/
def finishTask (activeTasks : ℕ) (wasOver isOver : Bool) : ℕ :=
  if !wasOver && isOver then activeTasks - 1 else activeTasks

def stepSend (b : Bridge) (o : SendOp) : Bridge :=
  let turn := sendTurn b.token b.upClosed b.quicRoom b.upPipe b.sendTask o
  { b with
    sendTask := turn.task
    upPipe := b.upPipe.take turn.took
    quicOut := b.quicOut ++ turn.gave
    quicRoom := b.quicRoom - turn.gave.length
    activeTasks := finishTask b.activeTasks b.sendTask.isOver turn.task.isOver }

def room (b : Bridge) : ℕ := pipeBytes - b.downPipe.queued.length

def stepRecv (b : Bridge) (o : RecvOp) : Bridge :=
  let turn := recvTurn b.token b.peerFinished b.downClosed b.room b.quicIn b.recvTask o
  { b with
    recvTask := turn.task
    quicIn := b.quicIn.take turn.took
    downPipe := b.downPipe.put turn.gave
    downClosed := b.downClosed || turn.task = .shut
    activeTasks := finishTask b.activeTasks b.recvTask.isOver turn.task.isOver }

def step (b : Bridge) : BridgeOp → Bridge
  | .send o => stepSend b o
  | .recv o => stepRecv b o
  | .cancel => { b with token := true }
  | .localWrite bytes =>
    if b.upClosed then b else { b with upPipe := b.upPipe.put (bytes.take (pipeBytes - b.upPipe.queued.length)) }
  | .localRead n => { b with downPipe := b.downPipe.take n }
  | .localShutdown => { b with upClosed := true }
  | .dropLocal => { b with upClosed := true, downClosed := true }
  | .dropBridge =>
    if b.sendTask.isOver && b.recvTask.isOver then { b with upClosed := true, downClosed := true } else b
  | .peerSends bytes => if b.peerFinished then b else { b with quicIn := b.quicIn.put bytes }
  | .peerFinishes => { b with peerFinished := true }
  | .peerMakesRoom n => { b with quicRoom := b.quicRoom + n }

end Bridge

/-! ## `open_stream` -/

/-- where a call of `open_stream` stands -/
inductive Opening where
  | called
  | connecting
  | openingBi
  /-- in `write_all`, with the marker -/
  | marking
  | failed (err : IrohError)
  /-- the caller dropped the call while it waited -/
  | dropped
  | opened (bridge : Bridge)

def Opening.bridge : Opening → Option Bridge
  | .opened b => some b
  | .called | .connecting | .openingBi | .marking | .failed _ | .dropped => none

structure Call where
  opening : Opening
  /-- the caller's token -/
  cancelled : Bool
  intentsEnqueued : ℕ

inductive Op where
  /-- the first check of the token -/
  | check
  /-- a `cancelled` branch -/
  | cancelBranch
  /-- what is waited for comes back -/
  | succeeds
  | fails (err : String)
  | drop
  | cancel
  | bridge (o : BridgeOp)
deriving DecidableEq, Repr

def Call.start (cancelled : Bool) : Call := ⟨.called, cancelled, 0⟩

def stepOpening (cancelled : Bool) : Opening → Op → Opening
  | .called, .check => if cancelled then .failed .cancelled else .connecting
  | .connecting, .cancelBranch => if cancelled then .failed .cancelled else .connecting
  | .connecting, .succeeds => .openingBi
  | .connecting, .fails err => .failed (.transportUnavailable err)
  | .openingBi, .cancelBranch => if cancelled then .failed .cancelled else .openingBi
  | .openingBi, .succeeds => .marking
  | .openingBi, .fails err => .failed (.streamOpenFailed err)
  | .marking, .succeeds => .opened (.start cancelled)
  | .marking, .fails err => .failed (.contractViolation err)
  | .connecting, .drop | .openingBi, .drop | .marking, .drop => .dropped
  -- the child token is cancelled with its parent
  | .opened b, .cancel => .opened (b.step .cancel)
  | .opened b, .bridge o => .opened (b.step o)
  | opening, _ => opening

/-- the step is the last one of `open_stream` -/
def opensNow : Opening → Op → Bool
  | .marking, .succeeds => true
  | _, _ => false

def step (s : Call) (o : Op) : Call where
  opening := stepOpening s.cancelled s.opening o
  cancelled := s.cancelled || o = .cancel
  intentsEnqueued := s.intentsEnqueued + if opensNow s.opening o then 1 else 0

/-! ## One turn of a task -/

/-- what the task has taken and not passed on; nothing is known where it left in the middle -/
def SendTask.held : SendTask → Option (List UInt8)
  | .writing rest => some rest
  | .broken => none
  | .reading | .finished => some []

def RecvTask.held : RecvTask → Option (List UInt8)
  | .writing rest => some rest
  | .broken => none
  | .marking | .reading | .shut => some []

@[simp] theorem SendTask.held_reading : reading.held = some [] := rfl

@[simp] theorem SendTask.held_finished : finished.held = some [] := rfl

@[simp] theorem SendTask.held_broken : broken.held = none := rfl

@[simp] theorem RecvTask.held_marking : marking.held = some [] := rfl

@[simp] theorem RecvTask.held_reading : reading.held = some [] := rfl

@[simp] theorem RecvTask.held_shut : shut.held = some [] := rfl

@[simp] theorem RecvTask.held_broken : broken.held = none := rfl

@[simp] theorem SendTask.held_writeAll (rest : List UInt8) : (writeAll rest).held = some rest := by
  unfold writeAll
  split
  · rename_i h
    rw [h]
    rfl
  · rfl

@[simp] theorem RecvTask.held_writeAll (rest : List UInt8) : (writeAll rest).held = some rest := by
  unfold writeAll
  split
  · rename_i h
    rw [h]
    rfl
  · rfl

@[simp] theorem SendTask.isOver_writeAll (rest : List UInt8) : (writeAll rest).isOver = false := by
  unfold writeAll
  split <;> rfl

@[simp] theorem RecvTask.isOver_writeAll (rest : List UInt8) : (writeAll rest).isOver = false := by
  unfold writeAll
  split <;> rfl

theorem SendTask.writeAll_ne_finished (rest : List UInt8) : writeAll rest ≠ .finished := fun h => by
  have hover := isOver_writeAll rest
  rw [h] at hover
  cases hover

theorem RecvTask.writeAll_ne_shut (rest : List UInt8) : writeAll rest ≠ .shut := fun h => by
  have hover := isOver_writeAll rest
  rw [h] at hover
  cases hover

/-- what a turn of the sending task can come to -/
inductive SendOutcome (token closed : Bool) (pipe : Fifo UInt8) (o : SendOp) : SendTask → Turn SendTask → Prop where
  | idle (task : SendTask) : SendOutcome token closed pipe o task ⟨task, 0, []⟩
  | cancelled (ho : o = .cancelled) (htoken : token = true) :
    SendOutcome token closed pipe o .reading ⟨.finished, 0, []⟩
  | read (n : ℕ) : SendOutcome token closed pipe o .reading ⟨.writeAll (pipe.queued.take n), n, []⟩
  | eof (hempty : pipe.queued = []) (hclosed : closed = true) :
    SendOutcome token closed pipe o .reading ⟨.finished, 0, []⟩
  | readFails (ho : o = .readFails) : SendOutcome token closed pipe o .reading ⟨.broken, 0, []⟩
  | write (rest : List UInt8) (n : ℕ) :
    SendOutcome token closed pipe o (.writing rest) ⟨.writeAll (rest.drop n), 0, rest.take n⟩
  | writeFails (ho : o = .writeFails) (rest : List UInt8) :
    SendOutcome token closed pipe o (.writing rest) ⟨.broken, 0, []⟩

theorem sendTurn_outcome (token closed : Bool) (room : ℕ) (pipe : Fifo UInt8) (task : SendTask) (o : SendOp) :
    SendOutcome token closed pipe o task (sendTurn token closed room pipe task o) := by
  cases o with
  | cancelled =>
    cases task with
    | reading =>
      cases token with
      | true => exact .cancelled rfl rfl
      | false => exact .idle _
    | _ => exact .idle _
  | read n =>
    cases task with
    | reading => exact .read _
    | _ => exact .idle _
  | eof =>
    cases task with
    | reading =>
      simp only [sendTurn]
      split
      · rename_i h
        exact .eof h.1 h.2
      · exact .idle _
    | _ => exact .idle _
  | readFails =>
    cases task with
    | reading => exact .readFails rfl
    | _ => exact .idle _
  | write n =>
    cases task with
    | writing rest => exact .write rest _
    | _ => exact .idle _
  | writeFails =>
    cases task with
    | writing rest => exact .writeFails rfl rest
    | _ => exact .idle _

/-- what a turn of the receiving task can come to -/
inductive RecvOutcome (token peerFinished closed : Bool) (quic : Fifo UInt8) (o : RecvOp) :
    RecvTask → Turn RecvTask → Prop where
  | idle (task : RecvTask) : RecvOutcome token peerFinished closed quic o task ⟨task, 0, []⟩
  | marked (queued : List UInt8) (hqueued : quic.queued = irohAlpnMarker :: queued) :
    RecvOutcome token peerFinished closed quic o .marking ⟨.reading, 1, []⟩
  | unmarked (marker : UInt8) (queued : List UInt8) (hqueued : quic.queued = marker :: queued)
    (hno : marker ≠ irohAlpnMarker) : RecvOutcome token peerFinished closed quic o .marking ⟨.shut, 1, []⟩
  | read (n : ℕ) :
    RecvOutcome token peerFinished closed quic o .reading ⟨.writeAll (quic.queued.take n), n, []⟩
  | cancelled (ho : o = .cancelled) (htoken : token = true) :
    RecvOutcome token peerFinished closed quic o .reading ⟨.shut, 0, []⟩
  | zero (ho : o = .zero) : RecvOutcome token peerFinished closed quic o .reading ⟨.shut, 0, []⟩
  | eof (task : RecvTask) (htask : task = .marking ∨ task = .reading) (hempty : quic.queued = [])
    (hfinished : peerFinished = true) : RecvOutcome token peerFinished closed quic o task ⟨.shut, 0, []⟩
  | readFails (task : RecvTask) (htask : task = .marking ∨ task = .reading) (ho : o = .readFails) :
    RecvOutcome token peerFinished closed quic o task ⟨.shut, 0, []⟩
  | write (rest : List UInt8) (n : ℕ) (hopen : closed = false) :
    RecvOutcome token peerFinished closed quic o (.writing rest) ⟨.writeAll (rest.drop n), 0, rest.take n⟩
  | writeFails (rest : List UInt8) (hclosed : closed = true) :
    RecvOutcome token peerFinished closed quic o (.writing rest) ⟨.broken, 0, []⟩

theorem recvTurn_outcome (token peerFinished closed : Bool) (room : ℕ) (quic : Fifo UInt8) (task : RecvTask)
    (o : RecvOp) :
    RecvOutcome token peerFinished closed quic o task (recvTurn token peerFinished closed room quic task o) := by
  cases o with
  | cancelled =>
    cases task with
    | reading =>
      cases token with
      | true => exact .cancelled rfl rfl
      | false => exact .idle _
    | _ => exact .idle _
  | read n =>
    cases task with
    | marking =>
      simp only [recvTurn]
      cases hqueued : quic.queued with
      | nil => exact .idle _
      | cons marker queued =>
        by_cases hmarker : marker = irohAlpnMarker
        · subst hmarker
          simpa using .marked queued hqueued
        · simpa [hmarker] using .unmarked marker queued hqueued hmarker
    | reading =>
      simp only [recvTurn]
      exact .read _
    | _ =>
      simp only [recvTurn]
      exact .idle _
  | zero =>
    cases task with
    | reading => exact .zero rfl
    | _ => exact .idle _
  | eof =>
    cases task with
    | marking | reading =>
      simp only [recvTurn]
      split
      · rename_i h
        exact .eof _ (by simp) h.1 h.2
      · exact .idle _
    | _ => exact .idle _
  | readFails =>
    cases task with
    | marking | reading => exact .readFails _ (by simp) rfl
    | _ => exact .idle _
  | write n =>
    cases task with
    | writing rest =>
      cases closed with
      | true => exact .writeFails rest rfl
      | false => exact .write rest _ rfl
    | _ => exact .idle _

/-- **The sending task** passes on what it reads, in order, after what is there already. -/
theorem SendOutcome.passes {token closed : Bool} {pipe : Fifo UInt8} {o : SendOp} {task : SendTask} {turn : Turn SendTask}
    (hturn : SendOutcome token closed pipe o task turn) (first : List UInt8) {given : List UInt8}
    (h : Passes (first ++ pipe.past) given task.held) :
    Passes (first ++ (pipe.take turn.took).past) (given ++ turn.gave) turn.task.held := by
  cases hturn with
  | idle | cancelled | eof => simpa using h
  | readFails => simpa using h.lose
  | read n =>
    rw [Fifo.past_take, ← List.append_assoc, List.append_nil, SendTask.held_writeAll]
    exact h.receive _
  | write rest n =>
    rw [Fifo.take_zero, SendTask.held_writeAll]
    exact Passes.give h n
  | writeFails => simpa using h.lose

/-! ## The marker -/

/-- what the peer sends after its marker; nothing of it counts if it starts with anything else -/
def afterMarker : List UInt8 → List UInt8
  | [] => []
  | marker :: rest => if marker = irohAlpnMarker then rest else []

theorem afterMarker_isPrefix {a b : List UInt8} (h : a <+: b) : afterMarker a <+: afterMarker b := by
  obtain ⟨c, rfl⟩ := h
  cases a with
  | nil => exact List.nil_prefix
  | cons marker rest =>
    simp only [List.cons_append, afterMarker]
    split
    · exact List.prefix_append _ _
    · exact List.prefix_rfl

/-- what the receiving task has read by where it stands -/
def RecvTask.Marked (read : List UInt8) : RecvTask → Prop
  | .marking => read = []
  | .reading | .writing _ => irohAlpnMarker ∈ read.head?
  | .shut | .broken => True

theorem RecvTask.marked_writeAll {read : List UInt8} (h : irohAlpnMarker ∈ read.head?) (rest : List UInt8) :
    Marked read (writeAll rest) := by
  unfold writeAll
  split <;> exact h

theorem afterMarker_append {read : List UInt8} (h : irohAlpnMarker ∈ read.head?) (more : List UInt8) :
    afterMarker (read ++ more) = afterMarker read ++ more := by
  cases read with
  | nil => cases h
  | cons marker rest =>
    obtain rfl : marker = irohAlpnMarker := by simpa using h
    simp [afterMarker]

theorem head?_append_of_mem {read : List UInt8} (h : irohAlpnMarker ∈ read.head?) (more : List UInt8) :
    irohAlpnMarker ∈ (read ++ more).head? := by
  cases read with
  | nil => cases h
  | cons marker rest => exact h

/-- **The receiving task** passes on what it reads after the marker, in order. -/
theorem RecvOutcome.passes {token peerFinished closed : Bool} {quic : Fifo UInt8} {o : RecvOp} {task : RecvTask}
    {turn : Turn RecvTask} (hturn : RecvOutcome token peerFinished closed quic o task turn) {given : List UInt8}
    (hmarked : task.Marked quic.past) (h : Passes (afterMarker quic.past) given task.held) :
    turn.task.Marked (quic.take turn.took).past ∧
      Passes (afterMarker (quic.take turn.took).past) (given ++ turn.gave) turn.task.held := by
  cases hturn with
  | idle => simpa using ⟨hmarked, h⟩
  | marked queued hqueued =>
    have hpast : quic.past = [] := hmarked
    rw [hpast] at h
    simpa [hpast, hqueued, afterMarker, RecvTask.Marked] using h
  | unmarked marker queued hqueued hno =>
    have hpast : quic.past = [] := hmarked
    rw [hpast] at h
    simpa [hpast, hqueued, afterMarker, hno, RecvTask.Marked] using h
  | read n =>
    refine ⟨RecvTask.marked_writeAll (head?_append_of_mem hmarked _) _, ?_⟩
    rw [Fifo.past_take, afterMarker_append hmarked, List.append_nil, RecvTask.held_writeAll]
    exact h.receive _
  | cancelled | zero => simpa [RecvTask.Marked] using h
  | eof _ htask | readFails _ htask =>
    rcases htask with rfl | rfl <;> simpa [RecvTask.Marked] using h
  | write rest n =>
    refine ⟨?_, ?_⟩
    · rw [Fifo.take_zero]
      exact RecvTask.marked_writeAll hmarked _
    · rw [Fifo.take_zero, RecvTask.held_writeAll]
      exact Passes.give h n
  | writeFails => simpa [RecvTask.Marked] using h.lose

/-! ## Invariants of a bridge -/

def running (isOver : Bool) : ℕ := if isOver then 0 else 1

structure BridgeInv (b : Bridge) : Prop where
  up : Passes (irohAlpnMarker :: b.upPipe.past) b.quicOut b.sendTask.held
  marked : b.recvTask.Marked b.quicIn.past
  down : Passes (afterMarker b.quicIn.past) b.downPipe.log b.recvTask.held
  counted : b.activeTasks = running b.sendTask.isOver + running b.recvTask.isOver

theorem bridgeInv_start (cancelled : Bool) : BridgeInv (.start cancelled) := ⟨rfl, rfl, rfl, rfl⟩

variable {b : Bridge}

theorem SendOutcome.stays_over {token closed : Bool} {pipe : Fifo UInt8} {o : SendOp} {task : SendTask}
    {turn : Turn SendTask} (hturn : SendOutcome token closed pipe o task turn) (h : task.isOver = true) :
    turn.task.isOver = true := by
  cases hturn <;> first | exact h | cases h

theorem RecvOutcome.stays_over {token peerFinished closed : Bool} {quic : Fifo UInt8} {o : RecvOp} {task : RecvTask}
    {turn : Turn RecvTask} (hturn : RecvOutcome token peerFinished closed quic o task turn) (h : task.isOver = true) :
    turn.task.isOver = true := by
  cases hturn with
  | idle => exact h
  | eof | readFails => rfl
  | _ => cases h

/-- the counter falls with a task that ends -/
theorem finishTask_eq {wasOver isOver : Bool} (hstays : wasOver = true → isOver = true) (other : ℕ) :
    Bridge.finishTask (running wasOver + other) wasOver isOver = running isOver + other := by
  cases wasOver <;> cases isOver <;> simp_all [Bridge.finishTask, running]

theorem bridgeInv_stepSend (h : BridgeInv b) (o : SendOp) : BridgeInv (b.stepSend o) := by
  have hturn := sendTurn_outcome b.token b.upClosed b.quicRoom b.upPipe b.sendTask o
  exact { h with
    up := hturn.passes [irohAlpnMarker] h.up
    counted := by
      simp only [Bridge.stepSend, h.counted]
      exact finishTask_eq hturn.stays_over _ }

theorem bridgeInv_stepRecv (h : BridgeInv b) (o : RecvOp) : BridgeInv (b.stepRecv o) := by
  have hturn := recvTurn_outcome b.token b.peerFinished b.downClosed b.room b.quicIn b.recvTask o
  obtain ⟨hmarked, hpasses⟩ := hturn.passes h.marked h.down
  exact { h with
    marked := hmarked
    down := by
      rw [Bridge.stepRecv, Fifo.log_put]
      exact hpasses
    counted := by
      simp only [Bridge.stepRecv, h.counted, add_comm (running b.sendTask.isOver)]
      exact finishTask_eq hturn.stays_over _ }

/-- **One step** of either task, of the local side or of the peer. -/
theorem bridgeInv_step (h : BridgeInv b) (o : BridgeOp) : BridgeInv (b.step o) := by
  cases o with
  | send o => exact bridgeInv_stepSend h o
  | recv o => exact bridgeInv_stepRecv h o
  | cancel | localShutdown | dropLocal | peerFinishes | peerMakesRoom => exact { h with }
  | localWrite bytes =>
    simp only [Bridge.step]
    split
    · exact h
    · exact { h with }
  | localRead n =>
    exact { h with
      down := by
        simp only [Bridge.step, Fifo.log_take]
        exact h.down }
  | dropBridge =>
    simp only [Bridge.step]
    split
    · exact { h with }
    · exact h
  | peerSends bytes =>
    simp only [Bridge.step]
    split
    · exact h
    · exact { h with }

/-! ## Main result -/

/-- what the QUIC stream and the local side see of an open stream -/
def Bridge.Carries (b : Bridge) : Prop :=
  b.quicOut <+: irohAlpnMarker :: b.upPipe.log ∧ b.downPipe.log <+: afterMarker b.quicIn.log ∧
    b.activeTasks = running b.sendTask.isOver + running b.recvTask.isOver

theorem BridgeInv.carries (h : BridgeInv b) : b.Carries := by
  refine ⟨?_, ?_, h.counted⟩
  · calc b.quicOut
      _ <+: irohAlpnMarker :: b.upPipe.past := h.up.isPrefix
      _ <+: irohAlpnMarker :: b.upPipe.log := List.cons_prefix_cons.2 ⟨rfl, b.upPipe.past_isPrefix_log⟩
  · calc b.downPipe.log
      _ <+: afterMarker b.quicIn.past := h.down.isPrefix
      _ <+: afterMarker b.quicIn.log := afterMarker_isPrefix b.quicIn.past_isPrefix_log

/-- what an open stream carries; it is counted once, a call that does not open one is not, and it answers `Cancelled` only
where its token is cancelled -/
def Call.Carries (s : Call) : Prop :=
  match s.opening with
  | .opened b => b.Carries ∧ s.intentsEnqueued = 1
  | .failed err => (err = .cancelled → s.cancelled = true) ∧ s.intentsEnqueued = 0
  | .called | .connecting | .openingBi | .marking | .dropped => s.intentsEnqueued = 0

/-- the call has not begun, or was refused for its token -/
def Call.Refused (s : Call) : Prop := s.cancelled = true ∧ (s.opening = .called ∨ s.opening = .failed .cancelled)

structure CallInv (s : Call) : Prop where
  bridge : ∀ b, s.opening.bridge = some b → BridgeInv b ∧ s.intentsEnqueued = 1
  closed : s.opening.bridge = none → s.intentsEnqueued = 0
  cancelled : s.opening = .failed .cancelled → s.cancelled = true

theorem callInv_start (cancelled : Bool) : CallInv (.start cancelled) where
  bridge := by rintro b ⟨⟩
  closed := fun _ => rfl
  cancelled := by rintro ⟨⟩

/-- what a step of `open_stream` can come to -/
inductive OpeningOutcome (cancelled : Bool) (o : Op) : Opening → Opening → Prop where
  | stays (opening : Opening) (hnow : opensNow opening o = false) : OpeningOutcome cancelled o opening opening
  | waits (opening next : Opening) (hbefore : opening.bridge = none) (hnow : opensNow opening o = false)
    (hnext : next.bridge = none) (hanswers : next ≠ .failed .cancelled) : OpeningOutcome cancelled o opening next
  | refused (opening : Opening) (hbefore : opening.bridge = none) (hnow : opensNow opening o = false)
    (hcancelled : cancelled = true) : OpeningOutcome cancelled o opening (.failed .cancelled)
  | opens (hnow : opensNow .marking o = true) : OpeningOutcome cancelled o .marking (.opened (.start cancelled))
  | bridge (b : Bridge) (hnow : opensNow (.opened b) o = false) (o' : BridgeOp) :
    OpeningOutcome cancelled o (.opened b) (.opened (b.step o'))

/-- where the token is seen -/
theorem OpeningOutcome.sees {cancelled : Bool} {o : Op} {opening next : Opening} (hbefore : opening.bridge = none)
    (hnow : opensNow opening o = false) (hnext : next.bridge = none) (hanswers : next ≠ .failed .cancelled) :
    OpeningOutcome cancelled o opening (if cancelled then .failed .cancelled else next) := by
  split
  · rename_i hcancelled
    exact .refused _ hbefore hnow hcancelled
  · exact .waits _ _ hbefore hnow hnext hanswers

theorem stepOpening_outcome (cancelled : Bool) (opening : Opening) (o : Op) :
    OpeningOutcome cancelled o opening (stepOpening cancelled opening o) := by
  cases opening with
  | called =>
    cases o with
    | check => exact .sees rfl rfl rfl (by rintro ⟨⟩)
    | _ => exact .stays _ rfl
  | connecting =>
    cases o with
    | cancelBranch => exact .sees rfl rfl rfl (by rintro ⟨⟩)
    | succeeds | fails | drop => exact .waits _ _ rfl rfl rfl (by rintro ⟨⟩)
    | _ => exact .stays _ rfl
  | openingBi =>
    cases o with
    | cancelBranch => exact .sees rfl rfl rfl (by rintro ⟨⟩)
    | succeeds | fails | drop => exact .waits _ _ rfl rfl rfl (by rintro ⟨⟩)
    | _ => exact .stays _ rfl
  | marking =>
    cases o with
    | succeeds => exact .opens rfl
    | fails | drop => exact .waits _ _ rfl rfl rfl (by rintro ⟨⟩)
    | _ => exact .stays _ rfl
  | failed err => exact .stays _ rfl
  | dropped => exact .stays _ rfl
  | opened b =>
    cases o with
    | cancel => exact .bridge b rfl .cancel
    | bridge o => exact .bridge b rfl o
    | _ => exact .stays _ rfl

theorem callInv_step {s : Call} (h : CallInv s) (o : Op) : CallInv (step s o) := by
  obtain ⟨opening, cancelled, enqueued⟩ := s
  obtain ⟨hbridge, hclosed, hcancelled⟩ := h
  have hout := stepOpening_outcome cancelled opening o
  unfold step
  dsimp only at hbridge hclosed hcancelled ⊢
  generalize stepOpening cancelled opening o = opening' at hout ⊢
  cases hout with
  | stays _ hnow =>
    rw [hnow]
    exact ⟨hbridge, hclosed, fun hfail => by rw [hcancelled hfail, Bool.true_or]⟩
  | waits _ _ hbefore hnow hnext hanswers =>
    rw [hnow]
    refine ⟨fun b hb => ?_, fun _ => hclosed hbefore, fun hfail => absurd hfail hanswers⟩
    rw [hnext] at hb
    cases hb
  | refused _ hbefore hnow htoken =>
    rw [hnow]
    refine ⟨fun b hb => ?_, fun _ => hclosed hbefore, fun _ => by rw [htoken, Bool.true_or]⟩
    cases hb
  | opens hnow =>
    have hnone : enqueued = 0 := hclosed rfl
    rw [hnow, hnone]
    refine ⟨fun b hb => ?_, fun hno => (by cases hno), fun hfail => (by cases hfail)⟩
    cases hb
    exact ⟨bridgeInv_start _, rfl⟩
  | bridge b hnow o' =>
    obtain ⟨hinv, hone⟩ := hbridge b rfl
    rw [hnow]
    refine ⟨fun b' hb => ?_, fun hno => (by cases hno), fun hfail => (by cases hfail)⟩
    cases hb
    exact ⟨bridgeInv_step hinv o', hone⟩

theorem CallInv.carries {s : Call} (h : CallInv s) : s.Carries := by
  obtain ⟨opening, cancelled, enqueued⟩ := s
  obtain ⟨hbridge, hclosed, hcancelled⟩ := h
  cases opening with
  | opened b =>
    obtain ⟨hinv, hone⟩ := hbridge b rfl
    exact ⟨hinv.carries, hone⟩
  | failed err =>
    refine ⟨?_, hclosed rfl⟩
    rintro rfl
    exact hcancelled rfl
  | _ => exact hclosed rfl

theorem refused_step {s : Call} (h : s.Refused) (o : Op) : (step s o).Refused := by
  obtain ⟨hcancelled, hs⟩ := h
  refine ⟨by simp [step, hcancelled], ?_⟩
  rcases hs with hs | hs <;> cases o <;> simp [step, hs, hcancelled, stepOpening]

/-- **An open stream carries bytes in order, and only after the marker.** For every run of a call of `open_stream` and of
the two tasks it leaves running, whatever is cancelled, fails, is dropped, and whatever the peer sends, in every state: the
QUIC stream has the marker and then a prefix of what was written locally; the pipe was given a prefix of what the peer
sent after its own marker, so nothing if the peer's first byte is another one; the counter is the number of tasks that go
on; a stream is counted exactly once, and only if it was opened; `Cancelled` is only answered under a cancelled token.
Under a token that is cancelled from the start nothing but `Cancelled` is answered. -/
theorem open_stream_carries (cancelled : Bool) (ops : List Op) :
    AllStates step Call.Carries (.start cancelled) ops ∧
      (cancelled = true → AllStates step Call.Refused (.start cancelled) ops) := by
  have hinv : ∀ (s : Call) (o : Op), CallInv s → CallInv (step s o) := fun _ o h => callInv_step h o
  have hrefused : ∀ (s : Call) (o : Op), s.Refused → (step s o).Refused := fun _ o h => refused_step h o
  constructor
  · exact allStates_iff.2 fun pre _ => (run_inv hinv pre (callInv_start cancelled)).carries
  · rintro rfl
    exact allStates_iff.2 fun pre _ => run_inv hrefused pre ⟨rfl, Or.inl rfl⟩

end N0wss.Iroh
