/-
The client runtime around the proxy bridge (`run_client_mode` in `cli/mod.rs`, `handle_connection` in `socks5/mod.rs`,
`run_worker`, `process_intent` and `drain_all` in `proxy_bridge/mod.rs`): connection handlers, the bounded intent queue,
the worker, the tasks it spawns, and the shutdown sequence, interleaved one step at a time.

A parsed CONNECT request owns its socket and moves with it: from its handler into the queue, to the worker, into a task.
Whoever holds it last drops it. Receiving an intent and spawning its task are two steps, a `select!` takes any branch that
is ready, and a reply may be written in pieces.

What lies outside is an operation's argument: the clock, how a resolution ends, what the pump reads, when a socket fails and
how much more it takes. A write waits for the side that is written to; while the pump is in one, it polls nothing else.

- `step_outcome`: all that a step can come to.
- `run_turnOps`, `run_pumpLoop`: the turns of a task's pump are those of `pumpLoop`, in the steps they are made of.
- `mapReply_mapSessionError`: a failed resolution always has a reply, and it is a failure.
-/
import N0wss.Bridge.ProcessIntent

namespace N0wss.Bridge.Runtime

open Machine Session Socks5

/-! ## Connections -/

/-- the two sides of a pump -/
inductive Side where
  | client
  | transport
deriving DecidableEq

/-- the socket of a parsed CONNECT request, and the stream that is resolved for it -/
structure Connection where
  intent : ProxyIntent
  /-- what was written to it since the request was read -/
  written : List UInt8
  /-- what of that the pump had read from the transport -/
  relayed : List UInt8
  /-- the pump was started on it -/
  pumped : Bool
  /-- a write to it failed -/
  writeFailed : Bool
  /-- how much more the client's socket takes -/
  clientRoom : ℕ
  /-- how much more the stream takes -/
  transportRoom : ℕ
deriving DecidableEq

namespace Connection

def new (intent : ProxyIntent) : Connection := ⟨intent, [], [], false, false, 0, 0⟩

def write (c : Connection) (bytes : List UInt8) : Connection :=
  { c with written := c.written ++ bytes, clientRoom := c.clientRoom - bytes.length }

def failWrite (c : Connection) : Connection := { c with writeFailed := true }

def startPump (c : Connection) : Connection := { c with pumped := true }

def room (c : Connection) : Side → ℕ
  | .client => c.clientRoom
  | .transport => c.transportRoom

/-- the peer of this side reads, or its buffer is freed -/
def makeRoom (c : Connection) (n : ℕ) : Side → Connection
  | .client => { c with clientRoom := c.clientRoom + n }
  | .transport => { c with transportRoom := c.transportRoom + n }

/-- the pump writes to this side -/
def relay (c : Connection) (bytes : List UInt8) : Side → Connection
  | .client => { c.write bytes with relayed := c.relayed ++ bytes }
  | .transport => { c with transportRoom := c.transportRoom - bytes.length }

/-- a write of the pump to this side fails -/
def failRelay (c : Connection) : Side → Connection
  | .client => c.failWrite
  | .transport => c

end Connection

/-! ## Handlers -/

inductive HandlerPc where
  /-- the request is parsed; before `try_send` -/
  | parsed
  /-- `try_send` gave the intent back; `rest` of the reply is still to be written -/
  | refusing (rest : List UInt8)
deriving DecidableEq

structure Handler where
  conn : Connection
  pc : HandlerPc
deriving DecidableEq

inductive HandlerOp where
  | trySend
  /-- the socket takes at most `n` bytes of the reply -/
  | write (n : ℕ)
  | writeFails
  | makesRoom (n : ℕ)
  /-- `total_timeout` of `handle_connection` -/
  | timeOut
deriving DecidableEq

/-- where a handler's connection is after its turn -/
inductive Handed where
  | goesOn (handler : Handler)
  | queued (conn : Connection)
  | dropped (conn : Connection)

/-- the receiver is gone (`TrySendError::Closed`), or the queue is full (`TrySendError::Full`) -/
def rejects (capacity : ℕ) (received : Bool) (queue : List Connection) : Bool :=
  received || decide (capacity ≤ queue.length)

def handlerTurn (rejected : Bool) (h : Handler) : HandlerOp → Handed
  | .trySend =>
    match h.pc with
    | .parsed => if rejected then .goesOn ⟨h.conn, .refusing Socks5Reply.generalFailure.bytes⟩ else .queued h.conn
    | .refusing _ => .goesOn h
  | .write n =>
    match h.pc with
    | .parsed => .goesOn h
    | .refusing rest =>
      let n := min n h.conn.clientRoom
      if rest.drop n = [] then .dropped (h.conn.write (rest.take n))
      else .goesOn ⟨h.conn.write (rest.take n), .refusing (rest.drop n)⟩
  | .writeFails =>
    match h.pc with
    | .parsed => .goesOn h
    | .refusing _ => .dropped h.conn.failWrite
  | .makesRoom n => .goesOn { h with conn := h.conn.makeRoom n .client }
  | .timeOut =>
    match h.pc with
    -- `try_send` follows the parse without an await
    | .parsed => .goesOn h
    | .refusing _ => .dropped h.conn

/-! ## Tasks -/

/-- what `process_intent` does once a reply is written, or has failed to be -/
inductive AfterReply where
  | finish
  /-- `DeadlineReached` to the session -/
  | tell (id : SessionId)
  | pump (id : SessionId)
deriving DecidableEq

inductive TaskPc where
  | starting
  | resolving (id : SessionId)
  | replying (reply : Socks5Reply) (rest : List UInt8) (next : AfterReply)
  /-- at the `select!` of the pump -/
  | pumping (id : SessionId)
  /-- in a `write_all` of the pump, with `rest` left -/
  | relaying (id : SessionId) (side : Side) (rest : List UInt8)
  /-- before `handle_event` -/
  | telling (id : SessionId) (event : SessionEvent)

structure Task where
  conn : Connection
  pc : TaskPc

inductive PumpOp where
  /-- the branch of the token -/
  | drained
  | readClient (read : Except IoError (List UInt8))
  | readTransport (read : Except IoError (List UInt8))
  /-- the side that is written to takes at most `n` bytes -/
  | write (n : ℕ)
  | writeFails
deriving DecidableEq

inductive TaskOp where
  | registerSession (now : Instant)
  | resolveStream (resolution : Resolution) (now closeNow : Instant)
  /-- the socket takes at most `n` bytes of the reply -/
  | writeReply (n : ℕ)
  | replyFails
  | pump (op : PumpOp)
  | handleEvent (now closeNow : Instant)
  | makesRoom (side : Side) (n : ℕ)

/-- where a task's connection is after its turn -/
inductive Turned where
  | goesOn (task : Task)
  | dropped (conn : Connection)

def replying (c : Connection) (reply : Socks5Reply) (next : AfterReply) : Task :=
  ⟨c, .replying reply reply.bytes next⟩

/-- the resolution ended without a stream -/
def failing (c : Connection) (proxyErr : ProxyError) (id : SessionId) : Task :=
  match mapReply proxyErr with
  | some reply => replying c reply (.tell id)
  | none => ⟨c, .telling id .deadlineReached⟩

def afterReply (c : Connection) : AfterReply → Turned
  | .finish => .dropped c
  | .tell id => .goesOn ⟨c, .telling id .deadlineReached⟩
  | .pump id => .goesOn ⟨c.startPump, .pumping id⟩

/-- what is read is written to the other side; an empty read and an error end the pump -/
def afterRead (c : Connection) (id : SessionId) (side : Side) : Except IoError (List UInt8) → Task
  | .ok [] => ⟨c, .telling id .streamClosed⟩
  | .ok bytes => ⟨c, .relaying id side bytes⟩
  | .error _ => ⟨c, .telling id .streamClosed⟩

/-- `write_all` goes on until nothing is left -/
def afterWrite (c : Connection) (id : SessionId) (side : Side) (rest : List UInt8) : Task :=
  if rest = [] then ⟨c, .pumping id⟩ else ⟨c, .relaying id side rest⟩

def pumpTurn (cancelled : Bool) (t : Task) : PumpOp → Task
  | .drained =>
    match t.pc with
    -- the branch is ready only when the token is cancelled
    | .pumping id => if cancelled then ⟨t.conn, .telling id .streamClosed⟩ else t
    | _ => t
  | .readClient read =>
    match t.pc with
    | .pumping id => afterRead t.conn id .transport read
    | _ => t
  | .readTransport read =>
    match t.pc with
    | .pumping id => afterRead t.conn id .client read
    | _ => t
  | .write n =>
    match t.pc with
    | .relaying id side rest =>
      let n := min n (t.conn.room side)
      afterWrite (t.conn.relay (rest.take n) side) id side (rest.drop n)
    | _ => t
  | .writeFails =>
    match t.pc with
    | .relaying id side _ => ⟨t.conn.failRelay side, .telling id .streamClosed⟩
    | _ => t

/-- one turn of `process_intent` -/
def taskTurn (debug : Option String → String) (cancelled : Bool) (m : SessionManager) (t : Task) :
    TaskOp → SessionManager × Turned
  | .registerSession now =>
    match t.pc with
    | .starting =>
      match m.registerSession ⟨now, peerLabel t.conn.intent⟩ with
      | (.ok id, m) => (m, .goesOn ⟨t.conn, .resolving id⟩)
      | (.error _, m) => (m, .goesOn (replying t.conn .generalFailure .finish))
    | _ => (m, .goesOn t)
  | .resolveStream resolution now closeNow =>
    match t.pc with
    | .resolving id =>
      match m.resolveStream id resolution now closeNow with
      | (some (.ok _), m) => (m, .goesOn (replying t.conn .succeeded (.pump id)))
      | (some (.error err), m) => (m, .goesOn (failing t.conn (mapSessionError debug err) id))
      | (none, m) => (m, .goesOn (failing t.conn (.transportFailed "request timeout exceeded") id))
    | _ => (m, .goesOn t)
  | .writeReply n =>
    match t.pc with
    | .replying reply rest next =>
      let n := min n t.conn.clientRoom
      if rest.drop n = [] then (m, afterReply (t.conn.write (rest.take n)) next)
      else (m, .goesOn ⟨t.conn.write (rest.take n), .replying reply (rest.drop n) next⟩)
    | _ => (m, .goesOn t)
  | .replyFails =>
    match t.pc with
    | .replying _ _ next => (m, afterReply t.conn.failWrite next)
    | _ => (m, .goesOn t)
  | .pump op => (m, .goesOn (pumpTurn cancelled t op))
  | .handleEvent now closeNow =>
    match t.pc with
    | .telling id event => ((m.handleEvent id event now closeNow).2, .dropped t.conn)
    | _ => (m, .goesOn t)
  | .makesRoom side n => (m, .goesOn { t with conn := t.conn.makeRoom n side })

/-! ## The runtime -/

inductive Worker where
  /-- at its `select!` -/
  | selecting
  /-- between `recv` and `spawn` -/
  | holding (conn : Connection)
  | stopped

/-- where `run_client_mode` stands -/
inductive Main where
  | running
  /-- the tokens are cancelled; waiting for the listener -/
  | stopping
  /-- `drain_all` has cancelled the token -/
  | draining
  /-- `drain_all` has closed the tracker and waits -/
  | waiting
  /-- the tracker was found closed and empty; `drain_all` has not returned yet -/
  | notified
  | drained
  /-- the worker is joined -/
  | joined
  | shutDown
  | returned
  /-- the listener ended by itself, and `run_client_mode` with it -/
  | failed
deriving DecidableEq

namespace Main

/-- the runtime is being dropped, and every task with it -/
def isDown : Main → Bool
  | .returned | .failed => true
  | _ => false

/-- `drain_all` has returned -/
def hasDrained : Main → Bool
  | .drained | .joined | .shutDown | .returned => true
  | _ => false

/-- `manager.shutdown` has returned -/
def hasShutDown : Main → Bool
  | .shutDown | .returned => true
  | _ => false

end Main

structure ClientRuntime where
  /-- `max_pending_intents` -/
  capacity : ℕ
  /-- `drain_token` -/
  cancelled : Bool
  /-- every `Sender` of the channel is dropped -/
  sendersGone : Bool
  handlers : List Handler
  queue : List Connection
  worker : Worker
  /-- what the tracker tracks -/
  tasks : List Task
  manager : SessionManager
  main : Main
  /-- sockets that were dropped -/
  dropped : List Connection

inductive Op where
  /-- a handler has read a CONNECT request -/
  | parse (intent : ProxyIntent)
  | handler (i : ℕ) (op : HandlerOp)
  | receive
  | spawn
  /-- the worker breaks on its token -/
  | breakCancelled
  /-- the worker breaks on a closed and empty channel -/
  | breakClosed
  | task (i : ℕ) (op : TaskOp)
  | stopAccept
  | dropSenders
  /-- the next step of `run_client_mode` -/
  | main (now : Instant)
  /-- `run_client_mode` ends without a drain: the listener's task fails, or is awaited a second time -/
  | listenerEnds
  | abortHandler (i : ℕ)
  | abortTask (i : ℕ)
  | abortWorker

def start (capacity : ℕ) (config : SessionManagerConfig) (maxSessions : ℕ) : ClientRuntime :=
  ⟨capacity, false, false, [], [], .selecting, [], .new config maxSessions, .running, []⟩

/-- the worker returns, and the receiver is dropped with what is queued -/
def stopWorker (s : ClientRuntime) : ClientRuntime :=
  { s with worker := .stopped, queue := [], dropped := s.dropped ++ s.queue }

def Worker.isStopped : Worker → Bool
  | .stopped => true
  | _ => false

def Worker.isSelecting : Worker → Bool
  | .selecting => true
  | _ => false

def Worker.isHolding : Worker → Bool
  | .holding _ => true
  | _ => false

def Handler.isParsed (h : Handler) : Bool := h.pc = .parsed

def hand (s : ClientRuntime) (i : ℕ) : Handed → ClientRuntime
  | .goesOn h => { s with handlers := s.handlers.set i h }
  | .queued c => { s with handlers := s.handlers.eraseIdx i, queue := s.queue ++ [c] }
  | .dropped c => { s with handlers := s.handlers.eraseIdx i, dropped := s.dropped ++ [c] }

def turn (s : ClientRuntime) (i : ℕ) : SessionManager × Turned → ClientRuntime
  | (manager, .goesOn t) => { s with manager, tasks := s.tasks.set i t }
  | (manager, .dropped c) => { s with manager, tasks := s.tasks.eraseIdx i, dropped := s.dropped ++ [c] }

def stepMain (now : Instant) (s : ClientRuntime) : ClientRuntime :=
  match s.main with
  | .running => { s with main := .stopping, cancelled := true }
  | .stopping => { s with main := .draining, cancelled := true }
  | .draining => { s with main := .waiting }
  | .waiting => if s.tasks.isEmpty then { s with main := .notified } else s
  | .notified => { s with main := .drained }
  | .drained => if s.worker.isStopped then { s with main := .joined } else s
  | .joined => { s with main := .shutDown, manager := (s.manager.shutdown now).2 }
  | .shutDown => { s with main := .returned }
  | .returned => s
  | .failed => s

def step (debug : Option String → String) (s : ClientRuntime) : Op → ClientRuntime
  | .parse intent => if s.sendersGone then s else { s with handlers := s.handlers ++ [⟨.new intent, .parsed⟩] }
  | .handler i op =>
    match s.handlers[i]? with
    | none => s
    | some h => hand s i (handlerTurn (rejects s.capacity s.worker.isStopped s.queue) h op)
  | .receive =>
    match s.worker, s.queue with
    | .selecting, c :: queue => { s with worker := .holding c, queue }
    | _, _ => s
  | .spawn =>
    match s.worker with
    | .holding c => { s with worker := .selecting, tasks := s.tasks ++ [⟨c, .starting⟩] }
    | _ => s
  | .breakCancelled => if s.cancelled && s.worker.isSelecting then stopWorker s else s
  | .breakClosed => if s.sendersGone && s.queue.isEmpty && s.worker.isSelecting then stopWorker s else s
  | .task i op =>
    match s.tasks[i]? with
    | none => s
    | some t => turn s i (taskTurn debug s.cancelled s.manager t op)
  | .stopAccept => { s with cancelled := true }
  -- a handler that has not sent its intent holds a sender
  | .dropSenders => if s.handlers.any Handler.isParsed then s else { s with sendersGone := true }
  | .main now => stepMain now s
  | .listenerEnds =>
    match s.main with
    | .running | .stopping => { s with main := .failed }
    | _ => s
  | .abortHandler i =>
    match s.main.isDown, s.handlers[i]? with
    | true, some ⟨conn, .refusing _⟩ =>
      { s with handlers := s.handlers.eraseIdx i, dropped := s.dropped ++ [conn] }
    | _, _ => s
  | .abortTask i =>
    match s.main.isDown, s.tasks[i]? with
    | true, some t => { s with tasks := s.tasks.eraseIdx i, dropped := s.dropped ++ [t.conn] }
    | _, _ => s
  | .abortWorker => if s.main.isDown && s.worker.isSelecting then stopWorker s else s

section Frame

variable (s : ClientRuntime) (i : ℕ) (handed : Handed) (r : SessionManager × Turned) (now : Instant)

@[simp] theorem hand_main : (hand s i handed).main = s.main := by cases handed <;> rfl

@[simp] theorem hand_cancelled : (hand s i handed).cancelled = s.cancelled := by cases handed <;> rfl

@[simp] theorem hand_worker : (hand s i handed).worker = s.worker := by cases handed <;> rfl

@[simp] theorem hand_tasks : (hand s i handed).tasks = s.tasks := by cases handed <;> rfl

@[simp] theorem turn_main : (turn s i r).main = s.main := by obtain ⟨_, _ | _⟩ := r <;> rfl

@[simp] theorem turn_cancelled : (turn s i r).cancelled = s.cancelled := by obtain ⟨_, _ | _⟩ := r <;> rfl

@[simp] theorem turn_worker : (turn s i r).worker = s.worker := by obtain ⟨_, _ | _⟩ := r <;> rfl

@[simp] theorem stepMain_worker : (stepMain now s).worker = s.worker := by
  unfold stepMain
  split <;> try split
  all_goals rfl

@[simp] theorem stepMain_tasks : (stepMain now s).tasks = s.tasks := by
  unfold stepMain
  split <;> try split
  all_goals rfl

end Frame

/-! ## What a step can come to -/

/-- what a step of the runtime can come to -/
inductive StepOutcome (debug : Option String → String) (s : ClientRuntime) : Op → ClientRuntime → Prop where
  | idle (o : Op) : StepOutcome debug s o s
  | parse (intent : ProxyIntent) (hopen : s.sendersGone = false) :
    StepOutcome debug s (.parse intent) { s with handlers := s.handlers ++ [⟨.new intent, .parsed⟩] }
  | handler (i : ℕ) (o : HandlerOp) (h : Handler) (hget : s.handlers[i]? = some h) :
    StepOutcome debug s (.handler i o) (hand s i (handlerTurn (rejects s.capacity s.worker.isStopped s.queue) h o))
  | receive (c : Connection) (queue : List Connection) (hselecting : s.worker = .selecting)
    (hqueue : s.queue = c :: queue) : StepOutcome debug s .receive { s with worker := .holding c, queue }
  | spawn (c : Connection) (hholding : s.worker = .holding c) :
    StepOutcome debug s .spawn { s with worker := .selecting, tasks := s.tasks ++ [⟨c, .starting⟩] }
  | breakCancelled (hcancelled : s.cancelled = true) (hselecting : s.worker.isSelecting = true) :
    StepOutcome debug s .breakCancelled (stopWorker s)
  | breakClosed (hempty : s.queue = []) : StepOutcome debug s .breakClosed (stopWorker s)
  | task (i : ℕ) (o : TaskOp) (t : Task) (hget : s.tasks[i]? = some t) :
    StepOutcome debug s (.task i o) (turn s i (taskTurn debug s.cancelled s.manager t o))
  | stopAccept : StepOutcome debug s .stopAccept { s with cancelled := true }
  | dropSenders (hnone : ∀ h ∈ s.handlers, h.pc ≠ .parsed) :
    StepOutcome debug s .dropSenders { s with sendersGone := true }
  | main (now : Instant) : StepOutcome debug s (.main now) (stepMain now s)
  | listenerEnds : StepOutcome debug s .listenerEnds { s with main := .failed }
  | abortHandler (i : ℕ) (conn : Connection) (rest : List UInt8) (hdown : s.main.isDown = true)
    (hget : s.handlers[i]? = some ⟨conn, .refusing rest⟩) :
    StepOutcome debug s (.abortHandler i)
      { s with handlers := s.handlers.eraseIdx i, dropped := s.dropped ++ [conn] }
  | abortTask (i : ℕ) (t : Task) (hdown : s.main.isDown = true) (hget : s.tasks[i]? = some t) :
    StepOutcome debug s (.abortTask i) { s with tasks := s.tasks.eraseIdx i, dropped := s.dropped ++ [t.conn] }
  | abortWorker (hdown : s.main.isDown = true) (hselecting : s.worker.isSelecting = true) :
    StepOutcome debug s .abortWorker (stopWorker s)

theorem step_outcome (debug : Option String → String) (s : ClientRuntime) (o : Op) :
    StepOutcome debug s o (step debug s o) := by
  cases o with
  | parse intent =>
    simp only [step]
    split
    · exact .idle _
    · rename_i hopen
      exact .parse intent (by simpa using hopen)
  | handler i o =>
    simp only [step]
    split
    · exact .idle _
    · rename_i h hget
      exact .handler i o h hget
  | receive =>
    simp only [step]
    split
    · rename_i c queue hselecting hqueue
      exact .receive c queue hselecting hqueue
    · exact .idle _
  | spawn =>
    simp only [step]
    split
    · rename_i c hholding
      exact .spawn c hholding
    · exact .idle _
  | breakCancelled =>
    simp only [step]
    split
    · rename_i hgo
      rw [Bool.and_eq_true] at hgo
      exact .breakCancelled hgo.1 hgo.2
    · exact .idle _
  | breakClosed =>
    simp only [step]
    split
    · rename_i hgo
      simp only [Bool.and_eq_true, List.isEmpty_iff] at hgo
      exact .breakClosed hgo.1.2
    · exact .idle _
  | task i o =>
    simp only [step]
    split
    · exact .idle _
    · rename_i t hget
      exact .task i o t hget
  | stopAccept => exact .stopAccept
  | dropSenders =>
    simp only [step]
    split
    · exact .idle _
    · rename_i hnone
      apply StepOutcome.dropSenders
      intro h hmem hparsed
      exact hnone (List.any_eq_true.2 ⟨h, hmem, by simpa [Handler.isParsed] using hparsed⟩)
  | main now => exact .main now
  | listenerEnds =>
    simp only [step]
    split
    · exact .listenerEnds
    · exact .listenerEnds
    · exact .idle _
  | abortHandler i =>
    simp only [step]
    split
    · rename_i conn rest hdown hget
      exact .abortHandler i conn rest hdown hget
    · exact .idle _
  | abortTask i =>
    simp only [step]
    split
    · rename_i t hdown hget
      exact .abortTask i t hdown hget
    · exact .idle _
  | abortWorker =>
    simp only [step]
    split
    · rename_i hgo
      rw [Bool.and_eq_true] at hgo
      exact .abortWorker hgo.1 hgo.2
    · exact .idle _

/-! ## Turns -/

/-- what a turn of `pumpLoop` writes, where it does not end the pump -/
def wrote : PumpTurn → Option (Side × List UInt8)
  | .readClient (.ok (b :: bytes)) (.ok ()) => some (.transport, b :: bytes)
  | .readTransport (.ok (b :: bytes)) (.ok ()) => some (.client, b :: bytes)
  | _ => none

theorem pumpLoop_cons (toTransport toClient : List UInt8) (turn : PumpTurn) (turns : List PumpTurn) :
    match wrote turn with
    | some (.transport, bytes) =>
      pumpLoop toTransport toClient (turn :: turns) = pumpLoop (toTransport ++ bytes) toClient turns
    | some (.client, bytes) =>
      pumpLoop toTransport toClient (turn :: turns) = pumpLoop toTransport (toClient ++ bytes) turns
    | none => ∃ outcome, pumpLoop toTransport toClient (turn :: turns) = some ⟨outcome, toTransport, toClient⟩ := by
  rcases turn with ⟨_ | _ | ⟨_, _⟩, _ | _⟩ | ⟨_ | _ | ⟨_, _⟩, _ | _⟩ | _ <;> first | rfl | exact ⟨_, rfl⟩

/-- the steps that a turn of `pumpLoop` is made of, where what was read is written in pieces of these sizes -/
def turnOps (sizes : List ℕ) : PumpTurn → List PumpOp
  | .readClient read (.ok ()) => .readClient read :: sizes.map .write
  | .readClient read (.error _) => [.readClient read, .writeFails]
  | .readTransport read (.ok ()) => .readTransport read :: sizes.map .write
  | .readTransport read (.error _) => [.readTransport read, .writeFails]
  | .drained => [.drained]

theorem relay_relay (c : Connection) (a b : List UInt8) (side : Side) :
    (c.relay a side).relay b side = c.relay (a ++ b) side := by
  cases side <;> simp [Connection.relay, Connection.write, Nat.sub_sub]

theorem room_relay (c : Connection) (bytes : List UInt8) (side : Side) :
    (c.relay bytes side).room side = c.room side - bytes.length := by cases side <;> rfl

/-- only a `write_all` writes -/
theorem run_writes_of_not_relaying (cancelled : Bool) {t : Task} (h : ∀ id side rest, t.pc ≠ .relaying id side rest)
    (sizes : List ℕ) : run (pumpTurn cancelled) t (sizes.map .write) = t := by
  induction sizes with
  | nil => rfl
  | cons n sizes ih =>
    have hstays : pumpTurn cancelled t (.write n) = t := by simp only [pumpTurn]
    rw [List.map_cons, run_cons, hstays, ih]

/-- a `write_all` that has room passes everything on, in whatever pieces -/
theorem run_writes (cancelled : Bool) {c : Connection} (id : SessionId) {side : Side} {rest : List UInt8} (hrest : rest ≠ [])
    {sizes : List ℕ} (hsizes : rest.length ≤ sizes.sum) (hroom : rest.length ≤ c.room side) :
    run (pumpTurn cancelled) ⟨c, .relaying id side rest⟩ (sizes.map .write) = ⟨c.relay rest side, .pumping id⟩ := by
  induction sizes generalizing c rest with
  | nil => exact absurd (List.length_eq_zero_iff.1 (Nat.le_zero.1 hsizes)) hrest
  | cons n sizes ih =>
    rw [List.map_cons, run_cons]
    simp only [pumpTurn, afterWrite]
    by_cases hlast : rest.drop (min n (c.room side)) = []
    · have hall : rest.take (min n (c.room side)) = rest := by
        have hsplit := List.take_append_drop (min n (c.room side)) rest
        rwa [hlast, List.append_nil] at hsplit
      rw [if_pos hlast, hall]
      exact run_writes_of_not_relaying cancelled (by rintro _ _ _ ⟨⟩) sizes
    · have hmore : min n (c.room side) < rest.length := by
        by_contra hle
        exact hlast (List.drop_eq_nil_iff.2 (Nat.le_of_not_lt hle))
      have hn : min n (c.room side) = n := by omega
      rw [hn] at hlast hmore ⊢
      rw [if_neg hlast, ih hlast, relay_relay, List.take_append_drop]
      · rw [List.length_drop]
        rw [List.sum_cons] at hsizes
        omega
      · have hlength : (rest.take n).length = n := List.length_take_of_le hmore.le
        rw [room_relay, hlength, List.length_drop]
        omega

/-- what the task has come to: the pump is over, and so much was passed on to the client -/
def PumpEnded (id : SessionId) (relayed : List UInt8) (t : Task) : Prop :=
  t.pc = .telling id .streamClosed ∧ t.conn.relayed = relayed

theorem PumpEnded.run {id : SessionId} {relayed : List UInt8} {t : Task} (h : PumpEnded id relayed t) (ops : List PumpOp) :
    PumpEnded id relayed (run (pumpTurn true) t ops) := by
  induction ops with
  | nil => exact h
  | cons o ops ih =>
    have hstays : pumpTurn true t o = t := by cases o <;> simp only [pumpTurn, h.1]
    rwa [run_cons, hstays]

theorem pumpEnded_failRelay (c : Connection) (id : SessionId) (side : Side) :
    PumpEnded id c.relayed ⟨c.failRelay side, .telling id .streamClosed⟩ := by cases side <;> exact ⟨rfl, rfl⟩

/-- **A turn of `pumpLoop`** is these steps: it relays what it writes and goes on, or it ends the pump. -/
theorem run_turnOps (c : Connection) (id : SessionId) (turn : PumpTurn) {sizes : List ℕ}
    (hfits : ∀ side bytes, wrote turn = some (side, bytes) → bytes.length ≤ sizes.sum ∧ bytes.length ≤ c.room side) :
    match wrote turn with
    | some (side, bytes) => run (pumpTurn true) ⟨c, .pumping id⟩ (turnOps sizes turn) = ⟨c.relay bytes side, .pumping id⟩
    | none => PumpEnded id c.relayed (run (pumpTurn true) ⟨c, .pumping id⟩ (turnOps sizes turn)) := by
  have hended : PumpEnded id c.relayed (run (pumpTurn true) ⟨c, .telling id .streamClosed⟩ (sizes.map .write)) :=
    PumpEnded.run ⟨rfl, rfl⟩ _
  cases turn with
  | drained => exact ⟨rfl, rfl⟩
  | readClient read write =>
    rcases read with err | _ | ⟨b, bytes⟩ <;> rcases write with werr | ⟨⟨⟩⟩
    · exact ⟨rfl, rfl⟩
    · exact hended
    · exact ⟨rfl, rfl⟩
    · exact hended
    · exact pumpEnded_failRelay c id .transport
    · obtain ⟨hsizes, hroom⟩ := hfits _ _ rfl
      exact run_writes true id (List.cons_ne_nil b bytes) hsizes hroom
  | readTransport read write =>
    rcases read with err | _ | ⟨b, bytes⟩ <;> rcases write with werr | ⟨⟨⟩⟩
    · exact ⟨rfl, rfl⟩
    · exact hended
    · exact ⟨rfl, rfl⟩
    · exact hended
    · exact pumpEnded_failRelay c id .client
    · obtain ⟨hsizes, hroom⟩ := hfits _ _ rfl
      exact run_writes true id (List.cons_ne_nil b bytes) hsizes hroom

/-- both sides have room for what the turns write, and it is written in pieces enough -/
def TurnsFit (c : Connection) : List (PumpTurn × List ℕ) → Prop
  | [] => True
  | (turn, sizes) :: turns =>
    match wrote turn with
    | some (side, bytes) => bytes.length ≤ sizes.sum ∧ bytes.length ≤ c.room side ∧ TurnsFit (c.relay bytes side) turns
    | none => True

/-- **A pump that ends** as `pumpLoop` ends: the task goes on to tell the manager, and the client was written the same. -/
theorem run_pumpLoop (id : SessionId) {c : Connection} {turns : List (PumpTurn × List ℕ)} (hfits : TurnsFit c turns)
    {toTransport toClient : List UInt8} {pumped : Pumped}
    (hloop : pumpLoop toTransport toClient (turns.map Prod.fst) = some pumped) :
    ∃ more, pumped.toClient = toClient ++ more ∧ PumpEnded id (c.relayed ++ more)
      (run (pumpTurn true) ⟨c, .pumping id⟩ (turns.flatMap fun turn => turnOps turn.2 turn.1)) := by
  induction turns generalizing c toTransport toClient with
  | nil => cases hloop
  | cons first turns ih =>
    obtain ⟨turn, sizes⟩ := first
    rw [List.flatMap_cons, run_append]
    have hcons := pumpLoop_cons toTransport toClient turn (turns.map Prod.fst)
    have hturn := @run_turnOps c id turn sizes
    simp only [TurnsFit] at hfits
    cases hwrote : wrote turn with
    | none =>
      rw [hwrote] at hcons hturn
      obtain ⟨outcome, hends⟩ := hcons
      obtain rfl := Option.some.inj (hloop.symm.trans hends)
      refine ⟨[], (List.append_nil toClient).symm, ?_⟩
      rw [List.append_nil]
      exact (hturn (by rintro _ _ ⟨⟩)).run _
    | some passed =>
      obtain ⟨side, bytes⟩ := passed
      rw [hwrote] at hfits hcons hturn
      obtain ⟨hsizes, hroom, hlater⟩ := hfits
      rw [hturn (by rintro _ _ ⟨⟩; exact ⟨hsizes, hroom⟩)]
      cases side with
      | client =>
        obtain ⟨more, hmore, hended⟩ := ih hlater (hcons.symm.trans hloop)
        refine ⟨bytes ++ more, by rw [hmore, List.append_assoc], ?_⟩
        rwa [← List.append_assoc]
      | transport => exact ih hlater (hcons.symm.trans hloop)

/-- a resolution that fails is answered with a failure -/
theorem mapReply_mapSessionError (debug : Option String → String) (err : SessionManagerError) :
    mapReply (mapSessionError debug err) = some .generalFailure := by
  cases err <;> rfl

end N0wss.Bridge.Runtime
