/-
How `run_client_mode` ends (`cli/mod.rs`), with the task of the SOCKS5 listener (`run_listener` in `socks5/mod.rs`) and the
runtime around the bridge (`Bridge/Runtime`).

The listener's handle is polled in two places: by the `select!` that waits for the listener or the process token, and by
the await that follows the calls of `stop_accept`. A handle that has yielded its output panics when it is polled again.

- `step_outcome`: all that a step can come to.
- `runtime_of_step`: every step is one of the runtime around the bridge, or none.
- `taskTurn_outcome`, `task_step`: a task gets on, or pumps, or is held up in a write.
- `modeInv_step`: what a shutdown that was told to stop keeps.
- `panics_of_takesListener`: a function that took the listener's branch panics.
- `left_writing`: tasks that do not end leave one in a write to a side that takes nothing more.
- `runs_to_end_iff`: over fair runs in which the listener ends or the process is told to stop, the shutdown runs to its end
  if and only if the `select!` does not take the listener's branch and no task is left so while `drain_all` waits.
- `stuck_client_hangs`, `failed_bind_panics`: a client that does not read, and a port in use.
-/
import N0wss.Bridge.Runtime
import N0wss.Core.Fair

namespace N0wss.Bridge.Shutdown

open Machine Session Socks5 Bridge.Runtime

/-! ## The listener -/

/-- `Socks5Error`'s `Display` -/
def socks5ErrorText : Socks5Error → String
  | .unsupportedVersion version => "unsupported SOCKS version: " ++ toString version
  | .noAcceptableAuthMethod => "no acceptable auth method"
  | .unsupportedCommand command => "unsupported command: " ++ toString command
  | .unsupportedAddressType atyp => "unsupported address type: " ++ toString atyp
  | .invalidTargetAddress => "invalid target address"
  | .io detail => "io failed: " ++ detail

/-- where the task of `run_listener` is -/
inductive Listener where
  | binding
  | accepting
  | finished (result : Except Socks5Error Unit)
deriving DecidableEq

inductive ListenerOp where
  | bind (outcome : Except String Unit)
  /-- a connection, whose handler is a task of its own, or an error -/
  | accept (outcome : Except String Unit)
  | seeToken
deriving DecidableEq

/-- one turn of `run_listener`; `token` is whether `accept_token` is cancelled -/
def listenerTurn (token : Bool) (listener : Listener) : ListenerOp → Listener
  | .bind outcome =>
    match listener with
    | .binding =>
      match outcome with
      | .ok () => .accepting
      | .error err => .finished (.error (.io err))
    | _ => listener
  | .accept outcome =>
    match listener with
    | .accepting =>
      match outcome with
      | .ok () => .accepting
      | .error err => .finished (.error (.io err))
    | _ => listener
  | .seeToken =>
    match listener, token with
    | .accepting, true => .finished (.ok ())
    | _, _ => listener

/-! ## The function -/

/-- the error that is built here, of `CliRuntimeError` -/
inductive CliRuntimeError where
  | clientRuntime (detail : String)
deriving DecidableEq, Repr

inductive Ended where
  | returned (result : Except CliRuntimeError Unit)
  | panicked
deriving DecidableEq

/-- a call of the shutdown that has returned -/
inductive MainCall where
  | proxyStopAccept
  | bridgeStopAccept
  | drainAll
  | joinWorker
  | managerShutdown
deriving DecidableEq, Repr

/-- `run_client_mode` once its tasks are spawned; `runtime.main` is where it stands -/
structure ClientMode where
  runtime : ClientRuntime
  /-- the token of the process is cancelled -/
  cancelled : Bool
  /-- `accept_token` of the proxy is -/
  acceptCancelled : Bool
  listener : Listener
  /-- the listener's handle has yielded its output -/
  yielded : Bool
  runtimeResult : Option (Except CliRuntimeError Unit)
  listenerJoined : Option (Except Socks5Error Unit)
  calls : List MainCall
  ended : Option Ended

inductive SelectBranch where
  | listenerEnded
  | cancelled
deriving DecidableEq

inductive Op where
  /-- the process is told to stop -/
  | cancel
  | listener (op : ListenerOp)
  /-- the `select!` is polled and takes this branch, if it is ready -/
  | select (branch : SelectBranch)
  /-- the next step past the `select!` -/
  | main (now : Instant)
  /-- a step of a handler, of the worker or of a task -/
  | runtime (op : Runtime.Op)

/-- a step that is not one of `run_client_mode` -/
def ofOthers : Runtime.Op → Bool
  | .main _ | .listenerEnds | .stopAccept => false
  | .parse _ | .handler _ _ | .receive | .spawn | .breakCancelled | .breakClosed | .task _ _ | .dropSenders
  | .abortHandler _ | .abortTask _ | .abortWorker => true

def listenerError (result : Except Socks5Error Unit) : Except CliRuntimeError Unit :=
  result.mapError fun err => .clientRuntime (socks5ErrorText err)

/-- the `select!` is over: `proxy.stop_accept` and `bridge.stop_accept` -/
def leaveSelect (s : ClientMode) (result : Except CliRuntimeError Unit) : ClientMode :=
  { s with
    runtime := stepMain 0 s.runtime
    acceptCancelled := true
    runtimeResult := some result
    calls := s.calls ++ [.proxyStopAccept, .bridgeStopAccept] }

def stepSelect (s : ClientMode) : SelectBranch → ClientMode
  | .listenerEnded =>
    match s.runtime.main, s.listener with
    | .running, .finished result => leaveSelect { s with yielded := true } (listenerError result)
    | _, _ => s
  | .cancelled =>
    match s.runtime.main, s.cancelled with
    | .running, true => leaveSelect s (.ok ())
    | _, _ => s

/-- `runtime_result?`, then the listener's result -/
def finalResult (s : ClientMode) : Option (Except CliRuntimeError Unit) :=
  s.runtimeResult.bind fun runtimeResult => s.listenerJoined.map fun listenerJoined =>
    runtimeResult.bind fun () => listenerError listenerJoined

/-- the next step is made, and a call has returned with it -/
def advance (now : Instant) (s : ClientMode) (calls : List MainCall) : ClientMode :=
  { s with runtime := stepMain now s.runtime, calls := s.calls ++ calls }

def stepShutdown (now : Instant) (s : ClientMode) : ClientMode :=
  match s.runtime.main with
  | .running => s
  | .stopping =>
    if s.yielded then { s with runtime := { s.runtime with main := .failed }, ended := some .panicked }
    else
      match s.listener with
      | .finished result =>
        { s with runtime := stepMain now s.runtime, yielded := true, listenerJoined := some result }
      | _ => s
  | .draining => advance now s []
  | .waiting => if s.runtime.tasks.isEmpty then advance now s [] else s
  | .notified => advance now s [.drainAll]
  | .drained => if s.runtime.worker.isStopped then advance now s [.joinWorker] else s
  | .joined => advance now s [.managerShutdown]
  | .shutDown => { s with runtime := stepMain now s.runtime, ended := (finalResult s).map .returned }
  | .returned => s
  | .failed => s

def step (debug : Option String → String) (s : ClientMode) : Op → ClientMode
  | .cancel => { s with cancelled := true }
  | .listener op => { s with listener := listenerTurn s.acceptCancelled s.listener op }
  | .select branch => stepSelect s branch
  | .main now => stepShutdown now s
  | .runtime op => if ofOthers op then { s with runtime := Runtime.step debug s.runtime op } else s

/-- the listener and the worker are spawned, and nothing has happened yet -/
def start (capacity : ℕ) (config : SessionManagerConfig) (maxSessions : ℕ) : ClientMode :=
  ⟨Runtime.start capacity config maxSessions, false, false, .binding, false, none, none, [], none⟩

/-! ## What a step can come to -/

/-- the `select!` takes the branch of a listener that has ended -/
def TakesListener (s : ClientMode) (o : Op) : Prop :=
  o = .select .listenerEnded ∧ s.runtime.main = .running ∧ ∃ result, s.listener = .finished result

inductive StepOutcome (debug : Option String → String) (s : ClientMode) : Op → ClientMode → Prop where
  | idle (o : Op) : StepOutcome debug s o s
  | cancel : StepOutcome debug s .cancel { s with cancelled := true }
  | listener (op : ListenerOp) :
    StepOutcome debug s (.listener op) { s with listener := listenerTurn s.acceptCancelled s.listener op }
  | takeListener (result : Except Socks5Error Unit) (hmain : s.runtime.main = .running)
    (hfinished : s.listener = .finished result) :
    StepOutcome debug s (.select .listenerEnded) (leaveSelect { s with yielded := true } (listenerError result))
  | takeToken (hmain : s.runtime.main = .running) (hcancelled : s.cancelled = true) :
    StepOutcome debug s (.select .cancelled) (leaveSelect s (.ok ()))
  | panic (now : Instant) (hmain : s.runtime.main = .stopping) (hyielded : s.yielded = true) :
    StepOutcome debug s (.main now) { s with runtime := { s.runtime with main := .failed }, ended := some .panicked }
  | join (now : Instant) (result : Except Socks5Error Unit) (hmain : s.runtime.main = .stopping)
    (hyielded : s.yielded = false) (hfinished : s.listener = .finished result) :
    StepOutcome debug s (.main now)
      { s with runtime := stepMain now s.runtime, yielded := true, listenerJoined := some result }
  | drain (now : Instant) (hmain : s.runtime.main = .draining) : StepOutcome debug s (.main now) (advance now s [])
  | wait (now : Instant) (hmain : s.runtime.main = .waiting) (htasks : s.runtime.tasks = []) :
    StepOutcome debug s (.main now) (advance now s [])
  | drained (now : Instant) (hmain : s.runtime.main = .notified) :
    StepOutcome debug s (.main now) (advance now s [.drainAll])
  | joined (now : Instant) (hmain : s.runtime.main = .drained) (hstopped : s.runtime.worker.isStopped = true) :
    StepOutcome debug s (.main now) (advance now s [.joinWorker])
  | shutDown (now : Instant) (hmain : s.runtime.main = .joined) :
    StepOutcome debug s (.main now) (advance now s [.managerShutdown])
  | returned (now : Instant) (hmain : s.runtime.main = .shutDown) :
    StepOutcome debug s (.main now)
      { s with runtime := stepMain now s.runtime, ended := (finalResult s).map .returned }
  | runtime (op : Runtime.Op) (hothers : ofOthers op = true) :
    StepOutcome debug s (.runtime op) { s with runtime := Runtime.step debug s.runtime op }

theorem step_outcome (debug : Option String → String) (s : ClientMode) (o : Op) :
    StepOutcome debug s o (step debug s o) := by
  cases o with
  | cancel => exact .cancel
  | listener op => exact .listener op
  | select branch =>
    cases branch with
    | listenerEnded =>
      simp only [step, stepSelect]
      split
      · rename_i result hmain hfinished
        exact .takeListener result hmain hfinished
      · exact .idle _
    | cancelled =>
      simp only [step, stepSelect]
      split
      · rename_i hmain hcancelled
        exact .takeToken hmain hcancelled
      · exact .idle _
  | main now =>
    simp only [step, stepShutdown]
    split
    · exact .idle _
    · rename_i hmain
      split_ifs with hyielded
      · exact .panic now hmain hyielded
      · split
        · rename_i result hfinished
          exact .join now result hmain (Bool.eq_false_iff.2 hyielded) hfinished
        · exact .idle _
    · rename_i hmain
      exact .drain now hmain
    · rename_i hmain
      split_ifs with htasks
      · exact .wait now hmain (List.isEmpty_iff.1 htasks)
      · exact .idle _
    · rename_i hmain
      exact .drained now hmain
    · rename_i hmain
      split_ifs with hstopped
      · exact .joined now hmain hstopped
      · exact .idle _
    · rename_i hmain
      exact .shutDown now hmain
    · rename_i hmain
      exact .returned now hmain
    · exact .idle _
    · exact .idle _
  | runtime op =>
    simp only [step]
    split_ifs with hothers
    · exact .runtime op hothers
    · exact .idle _

/-! ## The runtime around the bridge -/

/-- a step of another party moves neither `run_client_mode` nor its token -/
theorem main_of_others (debug : Option String → String) {op : Runtime.Op} (hothers : ofOthers op = true)
    (s : ClientRuntime) :
    (Runtime.step debug s op).main = s.main ∧ (Runtime.step debug s op).cancelled = s.cancelled := by
  have hout := Runtime.step_outcome debug s op
  generalize Runtime.step debug s op = s' at hout ⊢
  cases hout with
  | stopAccept | main | listenerEnds => cases hothers
  | handler i o h hget => exact ⟨hand_main s i _, hand_cancelled s i _⟩
  | task i o t hget => exact ⟨turn_main s i _, turn_cancelled s i _⟩
  | _ => exact ⟨rfl, rfl⟩

/-- every step is one of the runtime around the bridge, or leaves it alone -/
theorem runtime_of_step (debug : Option String → String) (s : ClientMode) (o : Op) :
    (step debug s o).runtime = s.runtime ∨ ∃ op, (step debug s o).runtime = Runtime.step debug s.runtime op := by
  have hout := step_outcome debug s o
  generalize step debug s o = s' at hout ⊢
  cases hout with
  | idle | cancel | listener => exact Or.inl rfl
  | takeListener | takeToken => exact Or.inr ⟨.main 0, rfl⟩
  | panic now hmain hyielded => exact Or.inr ⟨.listenerEnds, by simp only [Runtime.step, hmain]⟩
  | join now | drain now | wait now | drained now | joined now | shutDown now | returned now =>
    exact Or.inr ⟨.main now, rfl⟩
  | runtime op => exact Or.inr ⟨op, rfl⟩

theorem isStopped_step {debug : Option String → String} {s : ClientRuntime} (h : s.worker = .stopped)
    (op : Runtime.Op) : (Runtime.step debug s op).worker = .stopped := by
  have hout := Runtime.step_outcome debug s op
  generalize Runtime.step debug s op = s' at hout ⊢
  cases hout with
  | handler i o hd hget => exact (hand_worker s i _).trans h
  | task i o t hget => exact (turn_worker s i _).trans h
  | main now => exact (stepMain_worker s now).trans h
  | receive c queue hselecting =>
    rw [h] at hselecting
    cases hselecting
  | spawn c hholding =>
    rw [h] at hholding
    cases hholding
  | breakCancelled | breakClosed | abortWorker => rfl
  | _ => exact h

/-! ## Tasks -/

/-- what a task has left to do, however much its pump still reads and writes -/
def TaskPc.rank : TaskPc → ℕ
  | .telling _ _ => 1
  | .pumping _ | .relaying _ _ _ => 2
  | .replying _ rest _ => 3 + rest.length
  | .resolving _ => 14
  | .starting => 15

def rank (t : Task) : ℕ := TaskPc.rank t.pc

def Turned.rank : Turned → ℕ
  | .goesOn t => Shutdown.rank t
  | .dropped _ => 0

def totalRank (s : ClientRuntime) : ℕ := (s.tasks.map rank).sum

/-- what a write of the pump has left -/
def unwritten (t : Task) : ℕ :=
  match t.pc with
  | .relaying _ _ rest => rest.length
  | .starting | .resolving _ | .replying _ _ _ | .pumping _ | .telling _ _ => 0

/-- the side that a task is writing to -/
def writesTo : TaskPc → Option Side
  | .replying _ _ _ => some .client
  | .relaying _ side _ => some side
  | .starting | .resolving _ | .pumping _ | .telling _ _ => none

/-- the task is in the middle of a write, and the side that it writes to takes nothing more -/
def Blocked (t : Task) : Prop := ∃ side, writesTo t.pc = some side ∧ t.conn.room side = 0

/-- the step is the next one of a task that is there -/
def isNext : TaskPc → TaskOp → Bool
  | .starting, .registerSession _ => true
  | .resolving _, .resolveStream _ _ _ => true
  | .replying _ _ _, .writeReply n => decide (0 < n)
  | .replying _ _ _, .replyFails => true
  | .pumping _, .pump .drained | .pumping _, .pump (.readClient _) | .pumping _, .pump (.readTransport _) => true
  | .relaying _ _ _, .pump (.write n) => decide (0 < n)
  | .relaying _ _ _, .pump .writeFails => true
  | .telling _ _, .handleEvent _ _ => true
  | _, _ => false

theorem rank_pos (t : Task) : 0 < rank t := by
  obtain ⟨conn, _ | _ | _ | _ | _ | _⟩ := t <;> simp [rank, TaskPc.rank]

theorem rank_failing_lt (c : Connection) (proxyErr : ProxyError) (id id' : SessionId) :
    rank (failing c proxyErr id) < TaskPc.rank (.resolving id') := by
  unfold failing
  split <;> simp [rank, TaskPc.rank, replying, Socks5Reply.bytes]

theorem rank_afterReply_lt (c : Connection) (reply : Socks5Reply) (rest : List UInt8) (next : AfterReply) :
    Turned.rank (afterReply c next) < TaskPc.rank (.replying reply rest next) := by
  cases next <;> simp only [afterReply, Turned.rank, rank, TaskPc.rank] <;> omega

/-- what a turn of a task can come to -/
inductive TaskOutcome (cancelled : Bool) (t : Task) (o : TaskOp) : Turned → Prop where
  /-- it stays where it is: it was not its turn, or it is held up -/
  | stays (conn : Connection) (hroom : ∀ side, t.conn.room side ≤ conn.room side)
    (hidle : cancelled = true → isNext t.pc o = true → Blocked t) : TaskOutcome cancelled t o (.goesOn ⟨conn, t.pc⟩)
  /-- it gets on -/
  | falls (turned : Turned) (hless : Turned.rank turned < rank t) : TaskOutcome cancelled t o turned
  | reads (id : SessionId) (side : Side) (bytes : List UInt8) (hpumping : t.pc = .pumping id) :
    TaskOutcome cancelled t o (.goesOn ⟨t.conn, .relaying id side bytes⟩)
  | writes (t' : Task) (hrank : rank t' = rank t) (hless : (∃ id, t'.pc = .pumping id) ∨ unwritten t' < unwritten t) :
    TaskOutcome cancelled t o (.goesOn t')

theorem TaskOutcome.idle {cancelled : Bool} {t : Task} {o : TaskOp} (hidle : isNext t.pc o = false) :
    TaskOutcome cancelled t o (.goesOn t) :=
  .stays t.conn (fun _ => le_refl _) fun _ hnext => by
    rw [hidle] at hnext
    cases hnext

theorem room_le_makeRoom (c : Connection) (n : ℕ) (side side' : Side) :
    c.room side' ≤ (c.makeRoom n side).room side' := by
  cases side <;> cases side' <;> simp [Connection.makeRoom, Connection.room]

/-- a write that takes nothing leaves the task where it is, and one that takes something has less left -/
theorem writeReply_outcome (cancelled : Bool) (c : Connection) (reply : Socks5Reply) (rest : List UInt8) (next : AfterReply)
    (n : ℕ) (hmore : rest.drop (min n c.clientRoom) ≠ []) :
    TaskOutcome cancelled ⟨c, .replying reply rest next⟩ (.writeReply n)
      (.goesOn ⟨c.write (rest.take (min n c.clientRoom)), .replying reply (rest.drop (min n c.clientRoom)) next⟩) := by
  by_cases hnone : min n c.clientRoom = 0
  · rw [hnone, List.drop_zero, List.take_zero]
    refine .stays _ (fun side => by cases side <;> simp [Connection.write, Connection.room]) fun _ hnext => ?_
    have hn : 0 < n := of_decide_eq_true hnext
    exact ⟨.client, rfl, show c.clientRoom = 0 by omega⟩
  · apply TaskOutcome.falls
    have hlength : (rest.drop (min n c.clientRoom)).length < rest.length := by
      have hpos := List.length_pos_iff.2 hmore
      rw [List.length_drop] at hpos ⊢
      omega
    simp only [Turned.rank, rank, TaskPc.rank]
    omega

theorem write_outcome (cancelled : Bool) (c : Connection) (id : SessionId) (side : Side) (rest : List UInt8) (n : ℕ) :
    TaskOutcome cancelled ⟨c, .relaying id side rest⟩ (.pump (.write n))
      (.goesOn (pumpTurn cancelled ⟨c, .relaying id side rest⟩ (.write n))) := by
  simp only [pumpTurn, afterWrite]
  split
  · exact .writes _ rfl (Or.inl ⟨id, rfl⟩)
  · rename_i hmore
    by_cases hnone : min n (c.room side) = 0
    · rw [hnone, List.drop_zero, List.take_zero]
      refine .stays _ (fun side' => ?_) fun _ hnext => ?_
      · cases side <;> cases side' <;> simp [Connection.relay, Connection.write, Connection.room]
      · have hn : 0 < n := of_decide_eq_true hnext
        exact ⟨side, rfl, show c.room side = 0 by omega⟩
    · refine .writes _ rfl (Or.inr ?_)
      have hpos := List.length_pos_iff.2 hmore
      simp only [unwritten]
      rw [List.length_drop] at hpos ⊢
      omega

theorem pumpTurn_outcome (cancelled : Bool) (t : Task) (o : PumpOp) :
    TaskOutcome cancelled t (.pump o) (.goesOn (pumpTurn cancelled t o)) := by
  obtain ⟨c, pc⟩ := t
  cases pc with
  | pumping id =>
    cases o with
    | drained =>
      cases cancelled with
      | true => exact .falls _ (by simp [Turned.rank, rank, TaskPc.rank, pumpTurn])
      | false => exact .stays c (fun _ => le_refl _) fun hno => by cases hno
    | readClient read | readTransport read =>
      rcases read with err | _ | ⟨b, bytes⟩
      · exact .falls _ (by simp [Turned.rank, rank, TaskPc.rank, pumpTurn, afterRead])
      · exact .falls _ (by simp [Turned.rank, rank, TaskPc.rank, pumpTurn, afterRead])
      · exact .reads id _ (b :: bytes) rfl
    | write | writeFails => exact .idle rfl
  | relaying id side rest =>
    cases o with
    | write n => exact write_outcome cancelled c id side rest n
    | writeFails => exact .falls _ (by simp [Turned.rank, rank, TaskPc.rank, pumpTurn])
    | drained | readClient | readTransport => exact .idle rfl
  | starting | resolving | replying | telling => cases o <;> exact .idle rfl

theorem taskTurn_outcome (debug : Option String → String) (cancelled : Bool) (m : SessionManager) (t : Task) (o : TaskOp) :
    TaskOutcome cancelled t o (taskTurn debug cancelled m t o).2 := by
  obtain ⟨c, pc⟩ := t
  cases o with
  | registerSession now =>
    cases pc with
    | starting =>
      apply TaskOutcome.falls
      simp only [taskTurn]
      split <;> simp [Turned.rank, rank, TaskPc.rank, replying, Socks5Reply.bytes]
    | _ => exact .idle rfl
  | resolveStream resolution now closeNow =>
    cases pc with
    | resolving id =>
      apply TaskOutcome.falls
      simp only [taskTurn]
      split
      · simp [Turned.rank, rank, TaskPc.rank, replying, Socks5Reply.bytes]
      · exact rank_failing_lt _ _ _ id
      · exact rank_failing_lt _ _ _ id
    | _ => exact .idle rfl
  | writeReply n =>
    cases pc with
    | replying reply rest next =>
      simp only [taskTurn]
      split
      · exact .falls _ (rank_afterReply_lt _ reply rest next)
      · rename_i hmore
        exact writeReply_outcome cancelled c reply rest next n hmore
    | _ => exact .idle rfl
  | replyFails =>
    cases pc with
    | replying reply rest next => exact .falls _ (rank_afterReply_lt _ reply rest next)
    | _ => exact .idle rfl
  | pump o => exact pumpTurn_outcome cancelled ⟨c, pc⟩ o
  | handleEvent now closeNow =>
    cases pc with
    | telling id event => exact .falls _ (rank_pos _)
    | _ => exact .idle rfl
  | makesRoom side n =>
    refine .stays _ (room_le_makeRoom c n side) fun _ hnext => ?_
    cases pc <;> cases hnext

/-- a task only gets on -/
theorem TaskOutcome.rank_le {cancelled : Bool} {t : Task} {o : TaskOp} {turned : Turned}
    (h : TaskOutcome cancelled t o turned) : Turned.rank turned ≤ rank t := by
  cases h with
  | stays => exact le_refl _
  | falls _ hless => exact hless.le
  | reads id side bytes hpumping => simp [Turned.rank, rank, TaskPc.rank, hpumping]
  | writes t' hrank => exact hrank.le

/-- what is left falls by what one task has done of it -/
theorem totalRank_turn {s : ClientRuntime} {i : ℕ} {t : Task} (hget : s.tasks[i]? = some t)
    (r : SessionManager × Turned) : totalRank (turn s i r) + rank t = totalRank s + Turned.rank r.2 := by
  obtain ⟨manager, t' | c⟩ := r
  · exact sum_map_set rank hget t'
  · exact sum_map_eraseIdx rank hget

/-- once the worker has stopped, no task is added -/
theorem totalRank_step_le {debug : Option String → String} {s : ClientRuntime} (h : s.worker = .stopped)
    (op : Runtime.Op) : totalRank (Runtime.step debug s op) ≤ totalRank s := by
  have hout := Runtime.step_outcome debug s op
  generalize Runtime.step debug s op = s' at hout ⊢
  cases hout with
  | handler i o hd hget => simp [totalRank]
  | task i o t hget =>
    have hsum := totalRank_turn hget (taskTurn debug s.cancelled s.manager t o)
    have hle := (taskTurn_outcome debug s.cancelled s.manager t o).rank_le
    omega
  | main now => simp [totalRank]
  | spawn c hholding =>
    rw [h] at hholding
    cases hholding
  | abortTask i t hdown hget =>
    have hsum := sum_map_eraseIdx rank hget
    simp only [totalRank]
    omega
  | _ => exact le_refl _

theorem tasks_eq_nil {s : ClientRuntime} (h : totalRank s = 0) : s.tasks = [] := by
  cases htasks : s.tasks with
  | nil => rfl
  | cons t tasks =>
    have hpos := rank_pos t
    simp only [totalRank, htasks, List.map_cons, List.sum_cons] at h
    omega

/-! ## Where the function stands -/

/-- the steps it has left -/
def left : Main → ℕ
  | .running => 8
  | .stopping => 7
  | .draining => 6
  | .waiting => 5
  | .notified => 4
  | .drained => 3
  | .joined => 2
  | .shutDown => 1
  | .returned => 0
  | .failed => 0

/-- the calls that have returned -/
def callsAt : Main → List MainCall
  | .running | .failed => []
  | .stopping | .draining | .waiting | .notified => [.proxyStopAccept, .bridgeStopAccept]
  | .drained => [.proxyStopAccept, .bridgeStopAccept, .drainAll]
  | .joined => [.proxyStopAccept, .bridgeStopAccept, .drainAll, .joinWorker]
  | .shutDown | .returned => [.proxyStopAccept, .bridgeStopAccept, .drainAll, .joinWorker, .managerShutdown]

theorem eq_running_iff (main : Main) : main = .running ↔ left main = 8 := by
  cases main <;> simp [left]

theorem eq_waiting_iff (main : Main) : main = .waiting ↔ left main = 5 := by
  cases main <;> simp [left]

theorem eq_returned_of_left {main : Main} (hzero : left main = 0) (hne : main ≠ .failed) : main = .returned := by
  cases main <;> simp_all [left]

theorem left_le (main : Main) : left main ≤ 8 := by
  cases main <;> simp [left]

theorem left_stepMain_le (now : Instant) (s : ClientRuntime) : left (stepMain now s).main ≤ left s.main := by
  simp only [stepMain]
  split
  all_goals rename_i hmain
  all_goals try split
  all_goals simp [left, hmain]

theorem left_runtime_le {debug : Option String → String} (s : ClientRuntime) (op : Runtime.Op) :
    left (Runtime.step debug s op).main ≤ left s.main := by
  by_cases hothers : ofOthers op = true
  · rw [(main_of_others debug hothers s).1]
  · cases op with
    | main now => exact left_stepMain_le now s
    | stopAccept => exact le_refl _
    | listenerEnds =>
      simp only [Runtime.step]
      split <;> simp [left]
    | _ => exact absurd rfl hothers

/-- the function only gets on -/
theorem left_step_le (debug : Option String → String) (s : ClientMode) (o : Op) :
    left (step debug s o).runtime.main ≤ left s.runtime.main := by
  rcases runtime_of_step debug s o with hsame | ⟨op, hstep⟩
  · rw [hsame]
  · rw [hstep]
    exact left_runtime_le s.runtime op

/-- a shutdown that has gone the way it was written -/
structure ModeInv (s : ClientMode) : Prop where
  alive : s.runtime.main ≠ .failed
  calls : s.calls = callsAt s.runtime.main
  told : left s.runtime.main < 8 →
    s.acceptCancelled = true ∧ s.runtime.cancelled = true ∧ s.runtimeResult = some (.ok ())
  handle : 7 ≤ left s.runtime.main → s.yielded = false
  joined : left s.runtime.main < 7 → ∃ result, s.listener = .finished result ∧ s.listenerJoined = some result
  quiet : 0 < left s.runtime.main → s.ended = none
  answered : s.runtime.main = .returned →
    ∃ result, s.listener = .finished result ∧ s.ended = some (.returned (listenerError result))

theorem modeInv_start (capacity : ℕ) (config : SessionManagerConfig) (maxSessions : ℕ) :
    ModeInv (start capacity config maxSessions) where
  alive h := by cases h
  calls := rfl
  told h := absurd h (by simp [start, Runtime.start, left])
  handle _ := rfl
  joined h := absurd h (by simp [start, Runtime.start, left])
  quiet _ := rfl
  answered h := by cases h

theorem listenerTurn_finished (token : Bool) (result : Except Socks5Error Unit) (op : ListenerOp) :
    listenerTurn token (.finished result) op = .finished result := by
  cases op <;> rfl

section Step

variable {s : ClientMode}

/-- a step of another party -/
theorem modeInv_of_runtime (h : ModeInv s) {runtime : ClientRuntime} (hmain : runtime.main = s.runtime.main)
    (hcancelled : runtime.cancelled = s.runtime.cancelled) : ModeInv { s with runtime } where
  alive := hmain ▸ h.alive
  calls := hmain ▸ h.calls
  told := by
    simp only [hmain, hcancelled]
    exact h.told
  handle := hmain ▸ h.handle
  joined := hmain ▸ h.joined
  quiet := hmain ▸ h.quiet
  answered := hmain ▸ h.answered

theorem modeInv_listener (h : ModeInv s) (op : ListenerOp) :
    ModeInv { s with listener := listenerTurn s.acceptCancelled s.listener op } where
  alive := h.alive
  calls := h.calls
  told := h.told
  handle := h.handle
  joined hpast := by
    obtain ⟨result, hfinished, hjoined⟩ := h.joined hpast
    exact ⟨result, by simp only [hfinished, listenerTurn_finished], hjoined⟩
  quiet := h.quiet
  answered hreturned := by
    obtain ⟨result, hfinished, hended⟩ := h.answered hreturned
    exact ⟨result, by simp only [hfinished, listenerTurn_finished], hended⟩

theorem modeInv_takeToken (h : ModeInv s) (hmain : s.runtime.main = .running) : ModeInv (leaveSelect s (.ok ())) where
  alive := by simp [leaveSelect, stepMain, hmain]
  calls := by simp [leaveSelect, stepMain, hmain, h.calls, callsAt]
  told _ := ⟨rfl, by simp [leaveSelect, stepMain, hmain], rfl⟩
  handle _ := h.handle (by simp [hmain, left])
  joined hpast := absurd hpast (by simp [leaveSelect, stepMain, hmain, left])
  quiet _ := h.quiet (by simp [hmain, left])
  answered hreturned := absurd hreturned (by simp [leaveSelect, stepMain, hmain])

theorem modeInv_join (h : ModeInv s) (now : Instant) {result : Except Socks5Error Unit}
    (hmain : s.runtime.main = .stopping) (hfinished : s.listener = .finished result) :
    ModeInv { s with runtime := stepMain now s.runtime, yielded := true, listenerJoined := some result } where
  alive := by simp [stepMain, hmain]
  calls := by simp [stepMain, hmain, h.calls, callsAt]
  told _ := by
    obtain ⟨haccept, -, hresult⟩ := h.told (by simp [hmain, left])
    exact ⟨haccept, by simp [stepMain, hmain], hresult⟩
  handle hbefore := absurd hbefore (by simp [stepMain, hmain, left])
  joined _ := ⟨result, hfinished, rfl⟩
  quiet _ := h.quiet (by simp [hmain, left])
  answered hreturned := absurd hreturned (by simp [stepMain, hmain])

/-- a step past the listener's handle, before the last -/
theorem modeInv_advance (h : ModeInv s) (now : Instant) {calls : List MainCall} (next : Main)
    (hpast : left s.runtime.main < 7) (hnext : (stepMain now s.runtime).main = next) (hpos : 0 < left next)
    (hcancelled : (stepMain now s.runtime).cancelled = s.runtime.cancelled)
    (hcalls : callsAt s.runtime.main ++ calls = callsAt next) : ModeInv (advance now s calls) := by
  have hle := left_stepMain_le now s.runtime
  rw [hnext] at hle
  exact {
    alive := fun hfailed => by
      rw [← hnext, show (stepMain now s.runtime).main = .failed from hfailed] at hpos
      exact absurd hpos (by simp [left])
    calls := by simp only [advance, hnext, h.calls, hcalls]
    told := fun _ => by
      simp only [advance, hcancelled]
      exact h.told (by omega)
    handle := fun hbefore => by
      simp only [advance, hnext] at hbefore
      omega
    joined := fun _ => h.joined hpast
    quiet := fun _ => h.quiet (by rw [← hnext] at hpos; exact lt_of_lt_of_le hpos (left_stepMain_le now s.runtime))
    answered := fun hreturned => by
      rw [← hnext, show (stepMain now s.runtime).main = .returned from hreturned] at hpos
      exact absurd hpos (by simp [left]) }

theorem modeInv_returned (h : ModeInv s) (now : Instant) (hmain : s.runtime.main = .shutDown) :
    ModeInv { s with runtime := stepMain now s.runtime, ended := (finalResult s).map .returned } := by
  obtain ⟨result, hfinished, hjoined⟩ := h.joined (by simp [hmain, left])
  obtain ⟨haccept, hcancelled, hresult⟩ := h.told (by simp [hmain, left])
  exact {
    alive := by simp [stepMain, hmain]
    calls := by simp [stepMain, hmain, h.calls, callsAt]
    told := fun _ => ⟨haccept, by simpa [stepMain, hmain] using hcancelled, hresult⟩
    handle := fun hbefore => absurd hbefore (by simp [stepMain, hmain, left])
    joined := fun _ => ⟨result, hfinished, hjoined⟩
    quiet := fun hpos => absurd hpos (by simp [stepMain, hmain, left])
    answered := fun _ => ⟨result, hfinished, by simp [finalResult, hresult, hjoined, Except.bind]⟩ }

/-- **What a shutdown that was told to stop keeps.** -/
theorem modeInv_step (debug : Option String → String) (h : ModeInv s) {o : Op} (hnot : ¬TakesListener s o) :
    ModeInv (step debug s o) := by
  have hout := step_outcome debug s o
  generalize step debug s o = s' at hout ⊢
  cases hout with
  | idle => exact h
  | cancel => exact ⟨h.alive, h.calls, h.told, h.handle, h.joined, h.quiet, h.answered⟩
  | listener op => exact modeInv_listener h op
  | takeListener result hmain hfinished => exact absurd ⟨rfl, hmain, result, hfinished⟩ hnot
  | takeToken hmain => exact modeInv_takeToken h hmain
  | panic now hmain hyielded =>
    rw [h.handle (by simp [hmain, left])] at hyielded
    cases hyielded
  | join now result hmain _ hfinished => exact modeInv_join h now hmain hfinished
  | drain now hmain =>
    exact modeInv_advance h now .waiting (by simp [hmain, left]) (by simp [stepMain, hmain]) (by simp [left])
      (by simp [stepMain, hmain]) (by simp [hmain, callsAt])
  | wait now hmain htasks =>
    exact modeInv_advance h now .notified (by simp [hmain, left]) (by simp [stepMain, hmain, htasks])
      (by simp [left]) (by simp [stepMain, hmain, htasks]) (by simp [hmain, callsAt])
  | drained now hmain =>
    exact modeInv_advance h now .drained (by simp [hmain, left]) (by simp [stepMain, hmain]) (by simp [left])
      (by simp [stepMain, hmain]) (by simp [hmain, callsAt])
  | joined now hmain hstopped =>
    exact modeInv_advance h now .joined (by simp [hmain, left]) (by simp [stepMain, hmain, hstopped])
      (by simp [left]) (by simp [stepMain, hmain, hstopped]) (by simp [hmain, callsAt])
  | shutDown now hmain =>
    exact modeInv_advance h now .shutDown (by simp [hmain, left]) (by simp [stepMain, hmain]) (by simp [left])
      (by simp [stepMain, hmain]) (by simp [hmain, callsAt])
  | returned now hmain => exact modeInv_returned h now hmain
  | runtime op hothers =>
    obtain ⟨hmain, hcancelled⟩ := main_of_others debug hothers s.runtime
    exact modeInv_of_runtime h hmain hcancelled

end Step

/-! ## Fair runs -/

def BranchReady (s : ClientMode) : SelectBranch → Prop
  | .listenerEnded => ∃ result, s.listener = .finished result
  | .cancelled => s.cancelled = true

/-- the next step past the `select!` can be made -/
def MainReady (s : ClientMode) : Prop :=
  match s.runtime.main with
  | .running | .returned | .failed => False
  | .stopping => s.yielded = true ∨ ∃ result, s.listener = .finished result
  | .waiting => s.runtime.tasks = []
  | .drained => s.runtime.worker = .stopped
  | .draining | .notified | .joined | .shutDown => True

variable {debug : Option String → String}

/-- the i-th task is at the `select!` of its pump -/
def Pumps (i : ℕ) (s : ClientMode) : Prop := ∃ t id, s.runtime.tasks[i]? = some t ∧ t.pc = .pumping id

/-- the i-th task is in the middle of a write, and the side that it writes to takes nothing more -/
def HeldUp (i : ℕ) (s : ClientMode) : Prop := ∃ t, s.runtime.tasks[i]? = some t ∧ Blocked t

/-- who is ready is polled, and a `select!` does not pass over a branch for ever. A resolution ends, under a token that is
cancelled and a timeout. -/
structure Fair (r : LongRun (step debug)) : Prop where
  select : r.WeakFair (fun s => s.runtime.main = .running ∧ ∃ branch, BranchReady s branch)
    fun s o => ∃ branch, o = .select branch ∧ BranchReady s branch
  main : r.WeakFair MainReady fun _ o => ∃ now, o = .main now
  bind : r.WeakFair (fun s => s.listener = .binding) fun _ o => ∃ outcome, o = .listener (.bind outcome)
  seeToken : r.WeakFair (fun s => s.listener = .accepting ∧ s.acceptCancelled = true) fun _ o => o = .listener .seeToken
  breakCancelled : r.StrongFair (fun s => s.runtime.worker = .selecting ∧ s.runtime.cancelled = true)
    fun s o => s.runtime.worker = .selecting ∧ o = .runtime .breakCancelled
  spawn : r.WeakFair (fun s => ∃ c, s.runtime.worker = .holding c) fun _ o => o = .runtime .spawn
  /-- each task, where it is not held up -/
  tasks : ∀ i, r.WeakFair (fun s => s.runtime.cancelled = true ∧ ∃ t, s.runtime.tasks[i]? = some t ∧ ¬Blocked t)
    fun s o => ∃ t op, s.runtime.tasks[i]? = some t ∧ o = .runtime (.task i op) ∧ isNext t.pc op = true
  drains : ∀ i, r.StrongFair (fun s => s.runtime.cancelled = true ∧ Pumps i s)
    fun s o => (s.runtime.cancelled = true ∧ Pumps i s) ∧ o = .runtime (.task i (.pump .drained))

/-- the shutdown makes its calls and returns what the listener did, and nothing panics -/
def RunsToEnd (r : LongRun (step debug)) : Prop :=
  (∀ n, (r.state n).ended ≠ some .panicked) ∧
    ∃ n result, (r.state n).listener = .finished result ∧
      (r.state n).ended = some (.returned (listenerError result)) ∧
      (r.state n).calls = [.proxyStopAccept, .bridgeStopAccept, .drainAll, .joinWorker, .managerShutdown]

/-- while `drain_all` waits, a task is left for ever in a write to a side that takes nothing more -/
def LeftWriting (r : LongRun (step debug)) : Prop :=
  ∃ i k, (r.state k).runtime.main = .waiting ∧ ∀ m, k ≤ m → HeldUp i (r.state m)

/-! ## What stays -/

theorem finished_step {s : ClientMode} {result : Except Socks5Error Unit} (h : s.listener = .finished result) (o : Op) :
    (step debug s o).listener = .finished result := by
  have hout := step_outcome debug s o
  generalize step debug s o = s' at hout ⊢
  cases hout with
  | listener op => simp only [h, listenerTurn_finished]
  | _ => exact h

theorem bound_step {s : ClientMode} (h : s.listener ≠ .binding) (o : Op) : (step debug s o).listener ≠ .binding := by
  have hout := step_outcome debug s o
  generalize step debug s o = s' at hout ⊢
  cases hout with
  | listener op =>
    cases hl : s.listener with
    | binding => exact absurd hl h
    | finished result => simp [listenerTurn_finished]
    | accepting =>
      rcases op with ⟨_ | _⟩ | ⟨_ | _⟩ | _ <;> simp only [listenerTurn] <;> try split
      all_goals simp
  | _ => exact h

theorem ready_step {s : ClientMode} (h : s.cancelled = true ∨ ∃ result, s.listener = .finished result) (o : Op) :
    (step debug s o).cancelled = true ∨ ∃ result, (step debug s o).listener = .finished result := by
  rcases h with hcancelled | ⟨result, hfinished⟩
  · left
    have hout := step_outcome debug s o
    generalize step debug s o = s' at hout ⊢
    cases hout with
    | cancel => rfl
    | _ => exact hcancelled
  · exact Or.inr ⟨result, finished_step hfinished o⟩

theorem stopped_step {s : ClientMode} (h : s.runtime.worker = .stopped) (o : Op) :
    (step debug s o).runtime.worker = .stopped := by
  rcases runtime_of_step debug s o with hsame | ⟨op, hstep⟩
  · rwa [hsame]
  · rw [hstep]
    exact isStopped_step h op

theorem totalRank_le {s : ClientMode} (h : s.runtime.worker = .stopped) (o : Op) :
    totalRank (step debug s o).runtime ≤ totalRank s.runtime := by
  rcases runtime_of_step debug s o with hsame | ⟨op, hstep⟩
  · rw [hsame]
  · rw [hstep]
    exact totalRank_step_le h op

theorem tasks_of_step {s : ClientMode} {o : Op} (ho : ∀ op, o ≠ .runtime op) :
    (step debug s o).runtime.tasks = s.runtime.tasks := by
  have hout := step_outcome debug s o
  generalize step debug s o = s' at hout ⊢
  cases hout with
  | runtime op => exact absurd rfl (ho op)
  | idle | cancel | listener | panic => rfl
  | _ => exact stepMain_tasks s.runtime _

theorem tasks_of_runtime {s : ClientRuntime} (h : s.worker = .stopped) {op : Runtime.Op} (hop : ∀ i o, op ≠ .task i o)
    (hsame : totalRank (Runtime.step debug s op) = totalRank s) : (Runtime.step debug s op).tasks = s.tasks := by
  have hout := Runtime.step_outcome debug s op
  generalize Runtime.step debug s op = s' at hout hsame ⊢
  cases hout with
  | handler i o hd hget => exact hand_tasks s i _
  | task i o => exact absurd rfl (hop i o)
  | main now => exact stepMain_tasks s now
  | spawn c hholding =>
    rw [h] at hholding
    cases hholding
  | abortTask i t hdown hget =>
    have hsum := sum_map_eraseIdx rank hget
    have hpos := rank_pos t
    simp only [totalRank] at hsame
    omega
  | _ => rfl

/-- the task is where it was, with no less room to write; and what it did next, if anything, was held up -/
def Stays (i : ℕ) (o : Op) (t t' : Task) : Prop :=
  t'.pc = t.pc ∧ (∀ side, t.conn.room side ≤ t'.conn.room side) ∧
    ∀ op, o = .runtime (.task i op) → isNext t.pc op = true → Blocked t

/-- where nothing is done of what is left in all, a task stays where it is, or pumps -/
def Goes (i : ℕ) (o : Op) (t t' : Task) : Prop :=
  Stays i o t t' ∨ (∃ id, t.pc = .pumping id) ∨ (∃ id, t'.pc = .pumping id) ∨ unwritten t' < unwritten t

theorem Stays.unwritten_eq {i : ℕ} {o : Op} {t t' : Task} (h : Stays i o t t') : unwritten t' = unwritten t := by
  rw [unwritten, unwritten, h.1]

theorem Stays.unblocked {i : ℕ} {o : Op} {t t' : Task} (h : Stays i o t t') (hopen : ¬Blocked t) : ¬Blocked t' := by
  rintro ⟨side, hside, hnone⟩
  have hroom := h.2.1 side
  exact hopen ⟨side, h.1 ▸ hside, by omega⟩

theorem goes_of_not_task {i : ℕ} {o : Op} (ho : ∀ op, o ≠ .runtime (.task i op)) (t : Task) : Goes i o t t :=
  Or.inl ⟨rfl, fun _ => le_refl _, fun op heq => absurd heq (ho op)⟩

theorem TaskOutcome.goes {t t' : Task} {op : TaskOp} {i : ℕ} (h : TaskOutcome true t op (.goesOn t'))
    (hrank : rank t' = rank t) : Goes i (.runtime (.task i op)) t t' := by
  cases h with
  | stays conn hroom hidle =>
    refine Or.inl ⟨rfl, hroom, fun op' heq hnext => ?_⟩
    cases heq
    exact hidle rfl hnext
  | falls _ hless => exact absurd hrank hless.ne
  | reads id side bytes hpumping => exact Or.inr (Or.inl ⟨id, hpumping⟩)
  | writes _ _ hless => exact Or.inr (Or.inr hless)

/-- a step that is not one of a task leaves the tasks where they are -/
theorem tasks_of_not_task {s : ClientMode} (hstopped : s.runtime.worker = .stopped) {o : Op}
    (hsame : totalRank (step debug s o).runtime = totalRank s.runtime) (ho : ∀ j op, o ≠ .runtime (.task j op)) :
    (step debug s o).runtime.tasks = s.runtime.tasks := by
  cases o with
  | runtime op =>
    simp only [step] at hsame ⊢
    split_ifs with hothers
    · rw [if_pos hothers] at hsame
      exact tasks_of_runtime hstopped (fun j op' heq => ho j op' (by rw [heq])) hsame
    · rfl
  | _ => exact tasks_of_step (by rintro _ ⟨⟩)

/-- **One step** at which nothing is done of what is left in all. -/
theorem task_step {s : ClientMode} (hstopped : s.runtime.worker = .stopped) (hcancelled : s.runtime.cancelled = true)
    {o : Op} (hsame : totalRank (step debug s o).runtime = totalRank s.runtime) {i : ℕ} {t : Task}
    (hget : s.runtime.tasks[i]? = some t) :
    ∃ t', (step debug s o).runtime.tasks[i]? = some t' ∧ Goes i o t t' := by
  by_cases ho : ∃ j op, o = .runtime (.task j op)
  · obtain ⟨j, op, rfl⟩ := ho
    simp only [step, ofOthers, if_true, Runtime.step] at hsame ⊢
    cases hj : s.runtime.tasks[j]? with
    | none =>
      refine ⟨t, hget, goes_of_not_task (fun op' heq => ?_) t⟩
      cases heq
      rw [hget] at hj
      cases hj
    | some u =>
      have hout := taskTurn_outcome debug s.runtime.cancelled s.runtime.manager u op
      have hsum := totalRank_turn hj (taskTurn debug s.runtime.cancelled s.runtime.manager u op)
      simp only [hj] at hsame ⊢
      rw [hsame] at hsum
      rw [hcancelled] at hout hsum ⊢
      generalize taskTurn debug true s.runtime.manager u op = r at hout hsum ⊢
      obtain ⟨manager, u' | c⟩ := r
      · have hrank : rank u' = rank u := by
          simp only [Turned.rank] at hsum
          omega
        by_cases hij : j = i
        · subst hij
          obtain rfl : t = u := Option.some.inj (hget.symm.trans hj)
          refine ⟨u', ?_, hout.goes hrank⟩
          exact List.getElem?_set_self (List.getElem?_eq_some_iff.1 hj).1
        · refine ⟨t, ?_, goes_of_not_task (fun op' heq => hij (by cases heq; rfl)) t⟩
          simp only [turn]
          rw [List.getElem?_set_ne hij, hget]
      · have hpos := rank_pos u
        simp only [Turned.rank] at hsum
        omega
  · refine ⟨t, ?_, goes_of_not_task (fun op heq => ho ⟨i, op, heq⟩) t⟩
    rw [tasks_of_not_task hstopped hsame fun j op heq => ho ⟨j, op, heq⟩, hget]

/-- what a write of the pump of the i-th task has left -/
def unwrittenAt (i : ℕ) (s : ClientMode) : ℕ := (s.runtime.tasks[i]?.map unwritten).getD 0

/-- a pump that sees its cancelled token has done with pumping -/
theorem totalRank_drained_lt {s : ClientMode} (hcancelled : s.runtime.cancelled = true) {i : ℕ} (hpumps : Pumps i s) :
    totalRank (step debug s (.runtime (.task i (.pump .drained)))).runtime < totalRank s.runtime := by
  obtain ⟨⟨c, pc⟩, id, hget, rfl⟩ := hpumps
  have hsum := totalRank_turn hget (s.runtime.manager, .goesOn ⟨c, .telling id .streamClosed⟩)
  simp only [Turned.rank, rank, TaskPc.rank] at hsum
  simp only [step, ofOthers, if_true, Runtime.step, hget, taskTurn, pumpTurn, hcancelled]
  omega

/-- the handle has yielded its output, and is polled again or about to be -/
def Doomed (s : ClientMode) : Prop :=
  s.runtime.main = .failed ∧ s.ended = some .panicked ∨ s.runtime.main = .stopping ∧ s.yielded = true

theorem doomed_of_takesListener {s : ClientMode} {o : Op} (h : TakesListener s o) : Doomed (step debug s o) := by
  obtain ⟨rfl, hmain, result, hfinished⟩ := h
  right
  simp [step, stepSelect, hmain, hfinished, leaveSelect, stepMain]

theorem doomed_main {s : ClientMode} (h : Doomed s) (now : Instant) :
    (step debug s (.main now)).ended = some .panicked := by
  rcases h with ⟨hmain, hpanicked⟩ | ⟨hmain, hyielded⟩
  · simp [step, stepShutdown, hmain, hpanicked]
  · simp [step, stepShutdown, hmain, hyielded]

theorem doomed_step {s : ClientMode} (h : Doomed s) (o : Op) : Doomed (step debug s o) := by
  have hout := step_outcome debug s o
  generalize step debug s o = s' at hout ⊢
  cases hout with
  | idle | cancel | listener => exact h
  | panic now => exact Or.inl ⟨rfl, rfl⟩
  | join now result hmain hyielded =>
    rcases h with ⟨hfailed, -⟩ | ⟨-, hgone⟩
    · rw [hmain] at hfailed
      cases hfailed
    · rw [hyielded] at hgone
      cases hgone
  | runtime op hothers =>
    simpa only [Doomed, (main_of_others debug hothers s.runtime).1] using h
  | takeListener _ hmain | takeToken hmain => simp [Doomed, hmain] at h
  | drain _ hmain | wait _ hmain | drained _ hmain | joined _ hmain | shutDown _ hmain | returned _ hmain =>
    simp [Doomed, hmain] at h

/-! ## What fairness brings about -/

theorem left_select_lt {s : ClientMode} {branch : SelectBranch} (h : BranchReady s branch) :
    left (step debug s (.select branch)).runtime.main < 8 := by
  by_cases hmain : s.runtime.main = .running
  · cases branch with
    | listenerEnded =>
      obtain ⟨result, hfinished⟩ := h
      simp [step, stepSelect, hmain, hfinished, leaveSelect, stepMain, left]
    | cancelled =>
      have hcancelled : s.cancelled = true := h
      simp [step, stepSelect, hmain, hcancelled, leaveSelect, stepMain, left]
  · have hle := left_step_le debug s (.select branch)
    have hpast := left_le s.runtime.main
    rw [eq_running_iff] at hmain
    omega

theorem left_main_lt {s : ClientMode} (h : MainReady s) (now : Instant) :
    left (step debug s (.main now)).runtime.main < left s.runtime.main := by
  simp only [MainReady] at h
  simp only [step, stepShutdown]
  split at h
  all_goals rename_i hmain
  all_goals first
    | exact h.elim
    | skip
  · rcases hyielded : s.yielded with _ | _
    · obtain ⟨result, hfinished⟩ := h.resolve_left (by simp [hyielded])
      simp [hmain, hfinished, stepMain, left]
    · simp [hmain, left]
  · simp [hmain, h, advance, stepMain, left]
  · simp [hmain, h, advance, stepMain, left, Worker.isStopped]
  all_goals simp [hmain, advance, stepMain, left]

section Run

variable {r : LongRun (step debug)} {n : ℕ}

/-- one of the branches is taken -/
theorem leaves_select (hfair : Fair r)
    (hready : (r.state n).cancelled = true ∨ ∃ result, (r.state n).listener = .finished result) :
    ∃ m, n ≤ m ∧ left (r.state m).runtime.main < 8 := by
  refine hfair.select.reaches (Q := fun s => left s.runtime.main < 8) ?_ ?_
  · intro m hm hnot
    have hle := left_le (r.state m).runtime.main
    refine ⟨(eq_running_iff _).2 (by omega), ?_⟩
    rcases r.stays (P := fun s => s.cancelled = true ∨ ∃ result, s.listener = .finished result)
      (fun s o h => ready_step h o) hready hm with hcancelled | hfinished
    · exact ⟨.cancelled, hcancelled⟩
    · exact ⟨.listenerEnded, hfinished⟩
  · rintro m - ⟨branch, ho, hbranch⟩
    rw [LongRun.state, ho]
    exact left_select_lt hbranch

theorem told_from (hinv : ∀ n, ModeInv (r.state n)) (hleft : left (r.state n).runtime.main < 8) {m : ℕ} (hm : n ≤ m) :
    (r.state m).acceptCancelled = true ∧ (r.state m).runtime.cancelled = true := by
  have hstill : left (r.state m).runtime.main < 8 :=
    r.stays (P := fun s => left s.runtime.main < 8) (fun s o h => (left_step_le debug s o).trans_lt h) hleft hm
  obtain ⟨haccept, hcancelled, -⟩ := (hinv m).told hstill
  exact ⟨haccept, hcancelled⟩

theorem listener_ends (hfair : Fair r) (hinv : ∀ n, ModeInv (r.state n))
    (hleft : left (r.state n).runtime.main < 8) :
    ∃ m, n ≤ m ∧ ∃ result, (r.state m).listener = .finished result := by
  obtain ⟨k, hk, hbound⟩ : ∃ k, n ≤ k ∧ (r.state k).listener ≠ .binding := by
    refine hfair.bind.reaches (Q := fun s => s.listener ≠ .binding) (fun m _ hnot => not_not.1 hnot) ?_
    rintro m - ⟨outcome, ho⟩
    rw [LongRun.state, ho]
    rcases hl : (r.state m).listener with _ | _ | _ <;> rcases outcome with _ | _ <;>
      simp [step, listenerTurn, hl]
  have hbound : ∀ m, k ≤ m → (r.state m).listener ≠ .binding := fun m =>
    r.stays (P := fun s => s.listener ≠ .binding) (fun s o h => bound_step h o) hbound
  have htold : ∀ m, k ≤ m → (r.state m).acceptCancelled = true := fun m hm =>
    (told_from hinv hleft (hk.trans hm)).1
  obtain ⟨m, hm, hends⟩ : ∃ m, k ≤ m ∧ ∃ result, (r.state m).listener = .finished result := by
    refine hfair.seeToken.reaches (Q := fun s => ∃ result, s.listener = .finished result) ?_ ?_
    · intro m hm hnot
      refine ⟨?_, htold m hm⟩
      rcases hl : (r.state m).listener with _ | _ | result
      · exact absurd hl (hbound m hm)
      · rfl
      · exact absurd ⟨result, hl⟩ hnot
    · intro m hm ho
      rw [LongRun.state, ho]
      rcases hl : (r.state m).listener with _ | _ | result
      · exact absurd hl (hbound m hm)
      · exact ⟨.ok (), by simp [step, listenerTurn, hl, htold m hm]⟩
      · exact ⟨result, finished_step hl _⟩
  exact ⟨m, hk.trans hm, hends⟩

theorem worker_stops (hfair : Fair r) (hinv : ∀ n, ModeInv (r.state n)) (hleft : left (r.state n).runtime.main < 8) :
    ∃ m, n ≤ m ∧ (r.state m).runtime.worker = .stopped := by
  have hcancelled : ∀ m, n ≤ m → (r.state m).runtime.cancelled = true := fun m hm => (told_from hinv hleft hm).2
  refine hfair.breakCancelled.reaches (Q := fun s => s.runtime.worker = .stopped) ?_ ?_
  · -- a worker that holds an intent spawns its task, and is back at its `select!`
    intro m hm hnever
    obtain ⟨k, hk, hfree⟩ : ∃ k, m ≤ k ∧ ¬∃ c, (r.state k).runtime.worker = .holding c := by
      refine hfair.spawn.reaches (Q := fun s => ¬∃ c, s.runtime.worker = .holding c) (fun k _ hnot => not_not.1 hnot) ?_
      rintro k - ho
      rw [LongRun.state, ho]
      rcases hw : (r.state k).runtime.worker with _ | c | _ <;> simp [step, ofOthers, Runtime.step, hw]
    refine ⟨k, hk, ?_, hcancelled k (hm.trans hk)⟩
    rcases hw : (r.state k).runtime.worker with _ | c | _
    · rfl
    · exact absurd ⟨c, hw⟩ hfree
    · exact absurd hw (hnever k (hm.trans hk))
  · rintro m hm ⟨hselecting, ho⟩
    rw [LongRun.state, ho]
    simp [step, ofOthers, Runtime.step, stopWorker, hcancelled m hm, hselecting, Worker.isSelecting]

/-! A task that is left while nothing is done of what is left in all. -/

section Left

variable {i : ℕ}

/-- a pump that comes back to its `select!` again and again takes the branch of the token -/
theorem stops_pumping (hfair : Fair r) (hcancelled : ∀ m, n ≤ m → (r.state m).runtime.cancelled = true)
    (hrest : ∀ m, n ≤ m → totalRank (r.state m).runtime = totalRank (r.state n).runtime) :
    ∃ k, n ≤ k ∧ ∀ m, k ≤ m → ¬Pumps i (r.state m) := by
  by_contra hagain
  push Not at hagain
  have hpumps : ∀ m, ∃ j, m ≤ j ∧ (r.state j).runtime.cancelled = true ∧ Pumps i (r.state j) := by
    intro m
    obtain ⟨j, hj, hpumps⟩ := hagain (max n m) (le_max_left n m)
    exact ⟨j, (le_max_right n m).trans hj, hcancelled j ((le_max_left n m).trans hj), hpumps⟩
  obtain ⟨m, hm, ⟨htoken, hpumps⟩, ho⟩ := hfair.drains i hpumps n
  have hless := @totalRank_drained_lt debug _ htoken i hpumps
  rw [← ho] at hless
  have hsame := (hrest (m + 1) (hm.trans (Nat.le_succ m))).trans (hrest m hm).symm
  rw [LongRun.state] at hsame
  omega

/-- a task that stays where it is or writes comes to stay where it is -/
theorem comes_to_stay (hthere : ∀ m, n ≤ m → ∃ t, (r.state m).runtime.tasks[i]? = some t)
    (hwrites : ∀ m, n ≤ m → ∀ t, (r.state m).runtime.tasks[i]? = some t →
      ∃ t', (r.state (m + 1)).runtime.tasks[i]? = some t' ∧ (Stays i (r.ops m) t t' ∨ unwritten t' < unwritten t)) :
    ∃ k, n ≤ k ∧ ∀ m, k ≤ m → ∀ t, (r.state m).runtime.tasks[i]? = some t →
      ∃ t', (r.state (m + 1)).runtime.tasks[i]? = some t' ∧ Stays i (r.ops m) t t' := by
  have hunwritten : ∀ {m t}, (r.state m).runtime.tasks[i]? = some t → unwrittenAt i (r.state m) = unwritten t := by
    intro m t hget
    rw [unwrittenAt, hget]
    rfl
  obtain ⟨k, hk, hleast⟩ : ∃ k, n ≤ k ∧ ∀ m, k ≤ m → unwrittenAt i (r.state m) = unwrittenAt i (r.state k) := by
    apply LongRun.exists_rest
    intro m hm
    obtain ⟨t, hget⟩ := hthere m hm
    obtain ⟨t', hget', hstays | hless⟩ := hwrites m hm t hget
    · rw [hunwritten hget, hunwritten hget', hstays.unwritten_eq]
    · rw [hunwritten hget, hunwritten hget']
      exact hless.le
  refine ⟨k, hk, fun m hm t hget => ?_⟩
  obtain ⟨t', hget', hmoves⟩ := hwrites m (hk.trans hm) t hget
  refine ⟨t', hget', hmoves.resolve_right fun hless => ?_⟩
  have hsame := (hleast (m + 1) (hm.trans (Nat.le_succ m))).trans (hleast m hm).symm
  rw [hunwritten hget, hunwritten hget'] at hsame
  exact absurd hsame hless.ne

/-- a task that stays where it is for ever is held up: where it can write, it is polled -/
theorem held_up (hfair : Fair r) (hcancelled : ∀ m, n ≤ m → (r.state m).runtime.cancelled = true)
    (hthere : ∀ m, n ≤ m → ∃ t, (r.state m).runtime.tasks[i]? = some t)
    (hstays : ∀ m, n ≤ m → ∀ t, (r.state m).runtime.tasks[i]? = some t →
      ∃ t', (r.state (m + 1)).runtime.tasks[i]? = some t' ∧ Stays i (r.ops m) t t') {m : ℕ} (hm : n ≤ m) :
    HeldUp i (r.state m) := by
  by_contra hfree
  have hopen : ∀ j, m ≤ j → ∃ t, (r.state j).runtime.tasks[i]? = some t ∧ ¬Blocked t := by
    intro j hj
    induction j, hj using Nat.le_induction with
    | base =>
      obtain ⟨t, hget⟩ := hthere m hm
      exact ⟨t, hget, fun hblocked => hfree ⟨t, hget, hblocked⟩⟩
    | succ j hj ih =>
      obtain ⟨t, hget, hopen⟩ := ih
      obtain ⟨t', hget', hstay⟩ := hstays j (hm.trans hj) t hget
      exact ⟨t', hget', hstay.unblocked hopen⟩
  obtain ⟨j, hj, t, op, hget, ho, hnext⟩ := hfair.tasks i m fun j hj => ⟨hcancelled j (hm.trans hj), hopen j hj⟩
  obtain ⟨t', hget', hnot⟩ := hopen j hj
  obtain rfl : t = t' := Option.some.inj (hget.symm.trans hget')
  obtain ⟨-, -, -, -, hidle⟩ := hstays j (hm.trans hj) t hget
  exact hnot (hidle op ho hnext)

/-- once the worker has stopped and what is left in all comes to rest, a task is held up for ever -/
theorem left_writing (hfair : Fair r) (hcancelled : ∀ m, n ≤ m → (r.state m).runtime.cancelled = true)
    (hstopped : ∀ m, n ≤ m → (r.state m).runtime.worker = .stopped)
    (hrest : ∀ m, n ≤ m → totalRank (r.state m).runtime = totalRank (r.state n).runtime) {t : Task}
    (hget : (r.state n).runtime.tasks[i]? = some t) : ∃ k, n ≤ k ∧ ∀ m, k ≤ m → HeldUp i (r.state m) := by
  have hstep : ∀ m, n ≤ m → ∀ t, (r.state m).runtime.tasks[i]? = some t →
      ∃ t', (r.state (m + 1)).runtime.tasks[i]? = some t' ∧ Goes i (r.ops m) t t' := by
    intro m hm t hget
    have hsame := (hrest (m + 1) (hm.trans (Nat.le_succ m))).trans (hrest m hm).symm
    exact task_step (hstopped m hm) (hcancelled m hm) hsame hget
  have hthere : ∀ m, n ≤ m → ∃ t, (r.state m).runtime.tasks[i]? = some t := by
    intro m hm
    induction m, hm using Nat.le_induction with
    | base => exact ⟨t, hget⟩
    | succ m hm ih =>
      obtain ⟨t, hget⟩ := ih
      obtain ⟨t', hget', -⟩ := hstep m hm t hget
      exact ⟨t', hget'⟩
  obtain ⟨k, hk, hnever⟩ := stops_pumping (i := i) hfair hcancelled hrest
  -- from there on it stays in a write, of which less and less is left
  have hwrites : ∀ m, k ≤ m → ∀ t, (r.state m).runtime.tasks[i]? = some t →
      ∃ t', (r.state (m + 1)).runtime.tasks[i]? = some t' ∧ (Stays i (r.ops m) t t' ∨ unwritten t' < unwritten t) := by
    intro m hm t hget
    obtain ⟨t', hget', hstays | ⟨id, hpumping⟩ | ⟨id, hpumping⟩ | hless⟩ := hstep m (hk.trans hm) t hget
    · exact ⟨t', hget', Or.inl hstays⟩
    · exact absurd ⟨t, id, hget, hpumping⟩ (hnever m hm)
    · exact absurd ⟨t', id, hget', hpumping⟩ (hnever (m + 1) (hm.trans (Nat.le_succ m)))
    · exact ⟨t', hget', Or.inr hless⟩
  obtain ⟨k', hk', hstays⟩ := comes_to_stay (fun m hm => hthere m (hk.trans hm)) hwrites
  have hn := hk.trans hk'
  exact ⟨k', hn, fun m => held_up hfair (fun m hm => hcancelled m (hn.trans hm)) (fun m hm => hthere m (hn.trans hm)) hstays⟩

end Left

theorem tasks_end (hfair : Fair r) (hinv : ∀ n, ModeInv (r.state n)) (hleft : left (r.state n).runtime.main < 8)
    (hstopped : (r.state n).runtime.worker = .stopped) (hwaits : ∀ m, n ≤ m → (r.state m).runtime.main = .waiting)
    (hfree : ¬LeftWriting r) : ∃ m, n ≤ m ∧ totalRank (r.state m).runtime = 0 := by
  have hstopped : ∀ m, n ≤ m → (r.state m).runtime.worker = .stopped := fun m =>
    r.stays (P := fun s => s.runtime.worker = .stopped) (fun s o h => stopped_step h o) hstopped
  obtain ⟨k, hk, hrest⟩ : ∃ k, n ≤ k ∧ ∀ m, k ≤ m → totalRank (r.state m).runtime = totalRank (r.state k).runtime :=
    LongRun.exists_rest (f := fun s : ClientMode => totalRank s.runtime) fun m hm => totalRank_le (hstopped m hm) (r.ops m)
  refine ⟨k, hk, ?_⟩
  by_contra hne
  cases htasks : (r.state k).runtime.tasks with
  | nil => exact hne (by simp [totalRank, htasks])
  | cons t tasks =>
    have hget : (r.state k).runtime.tasks[0]? = some t := by rw [htasks]; rfl
    obtain ⟨k', hk', hheld⟩ := left_writing hfair (fun m hm => (told_from hinv hleft (hk.trans hm)).2)
      (fun m hm => hstopped m (hk.trans hm)) hrest hget
    exact hfree ⟨0, k', hwaits k' (hk.trans hk'), hheld⟩

/-- with the listener and the worker at their ends, nothing but tasks keeps the function waiting -/
theorem mainReady_of_ended {s : ClientMode} (hleft : left s.runtime.main < 8) (hpos : left s.runtime.main ≠ 0)
    (hlistener : ∃ result, s.listener = .finished result) (hstopped : s.runtime.worker = .stopped)
    (htasks : s.runtime.main = .waiting → s.runtime.tasks = []) : MainReady s := by
  simp only [MainReady]
  cases hmain : s.runtime.main with
  | running => simp [hmain, left] at hleft
  | returned | failed => simp [hmain, left] at hpos
  | stopping => exact Or.inr hlistener
  | waiting => exact htasks hmain
  | drained => exact hstopped
  | draining | notified | joined | shutDown => trivial

/-- a function that nothing keeps waiting gets on -/
theorem main_advances (hfair : Fair r)
    (hready : ∀ m, n ≤ m → left (r.state m).runtime.main = left (r.state n).runtime.main → MainReady (r.state m)) :
    ∃ m, n ≤ m ∧ left (r.state m).runtime.main < left (r.state n).runtime.main := by
  refine hfair.main.reaches (Q := fun s => left s.runtime.main < left (r.state n).runtime.main) ?_ ?_
  all_goals
    intro m hm
    have hle : left (r.state m).runtime.main ≤ left (r.state n).runtime.main :=
      r.le_of_falling (f := fun s : ClientMode => left s.runtime.main)
        (fun k _ => left_step_le debug (r.state k) (r.ops k)) (le_refl n) hm
  · exact fun hnot => hready m hm (by omega)
  · rintro ⟨now, ho⟩
    by_cases hsame : left (r.state m).runtime.main = left (r.state n).runtime.main
    · have hless := @left_main_lt debug _ (hready m hm hsame) now
      rw [LongRun.state, ho]
      omega
    · have hstep := left_step_le debug (r.state m) (r.ops m)
      rw [LongRun.state]
      omega

/-- the wait of `drain_all` ends, once the listener and the worker have ended and unless a task is left in a write -/
theorem leaves_waiting (hfair : Fair r) (hinv : ∀ n, ModeInv (r.state n)) {result : Except Socks5Error Unit}
    (hfinished : ∀ m, n ≤ m → (r.state m).listener = .finished result)
    (hstopped : ∀ m, n ≤ m → (r.state m).runtime.worker = .stopped) (hfree : ¬LeftWriting r)
    (hwaiting : (r.state n).runtime.main = .waiting) :
    ∃ m, n ≤ m ∧ left (r.state m).runtime.main < left (r.state n).runtime.main := by
  by_contra hnever
  push Not at hnever
  have hwaits : ∀ m, n ≤ m → (r.state m).runtime.main = .waiting := by
    intro m hm
    have hle := r.le_of_falling (f := fun s : ClientMode => left s.runtime.main)
      (fun i _ => left_step_le debug (r.state i) (r.ops i)) (le_refl n) hm
    exact (eq_waiting_iff _).2 ((le_antisymm hle (hnever m hm)).trans ((eq_waiting_iff _).1 hwaiting))
  have hleft : ∀ m, n ≤ m → left (r.state m).runtime.main < 8 := fun m hm => by
    rw [(eq_waiting_iff _).1 (hwaits m hm)]
    omega
  obtain ⟨d, hd, hnone⟩ := tasks_end hfair hinv (hleft n (le_refl n)) (hstopped n (le_refl n)) hwaits hfree
  have hnone : ∀ m, d ≤ m → totalRank (r.state m).runtime = 0 := by
    intro m hm
    have hle := r.le_of_falling (f := fun s : ClientMode => totalRank s.runtime)
      (fun i hi => totalRank_le (hstopped i (hd.trans hi)) (r.ops i)) (le_refl d) hm
    exact Nat.le_zero.1 (hnone ▸ hle)
  obtain ⟨m, hm, hless⟩ := main_advances hfair fun m hm _ => by
    have hm' := hd.trans hm
    exact mainReady_of_ended (hleft m hm') (by rw [hwaits m hm']; simp [left]) ⟨result, hfinished m hm'⟩ (hstopped m hm')
      fun _ => tasks_eq_nil (hnone m hm)
  rw [hwaits m (hd.trans hm), hwaits d hd] at hless
  exact lt_irrefl _ hless

theorem function_returns (hfair : Fair r) (hinv : ∀ n, ModeInv (r.state n))
    (hready : (r.state n).cancelled = true ∨ ∃ result, (r.state n).listener = .finished result)
    (hfree : ¬LeftWriting r) : ∃ m, (r.state m).runtime.main = .returned := by
  obtain ⟨a, -, hleft⟩ := leaves_select hfair hready
  obtain ⟨b, hab, result, hfinished⟩ := listener_ends hfair hinv hleft
  obtain ⟨c, hac, hstopped⟩ := worker_stops hfair hinv hleft
  have hleft : ∀ m, max b c ≤ m → left (r.state m).runtime.main < 8 := fun m hm =>
    r.stays (P := fun s => left s.runtime.main < 8) (fun s o h => (left_step_le debug s o).trans_lt h) hleft
      (hab.trans ((le_max_left b c).trans hm))
  have hfinished : ∀ m, max b c ≤ m → (r.state m).listener = .finished result := fun m hm =>
    r.stays (P := fun s => s.listener = .finished result) (fun s o h => finished_step h o) hfinished
      ((le_max_left b c).trans hm)
  have hstopped : ∀ m, max b c ≤ m → (r.state m).runtime.worker = .stopped := fun m hm =>
    r.stays (P := fun s => s.runtime.worker = .stopped) (fun s o h => stopped_step h o) hstopped
      ((le_max_right b c).trans hm)
  obtain ⟨m, -, hzero⟩ : ∃ m, max b c ≤ m ∧ left (r.state m).runtime.main = 0 := by
    apply LongRun.exists_zero (f := fun s : ClientMode => left s.runtime.main)
    intro m hm hpos
    by_cases hwaiting : (r.state m).runtime.main = .waiting
    · exact leaves_waiting hfair hinv (fun k hk => hfinished k (hm.trans hk)) (fun k hk => hstopped k (hm.trans hk)) hfree
        hwaiting
    · refine main_advances hfair fun k hk hsame => ?_
      have hk' := hm.trans hk
      refine mainReady_of_ended (hleft k hk') (by omega) ⟨result, hfinished k hk'⟩ (hstopped k hk') fun hwaits => ?_
      exact absurd ((eq_waiting_iff _).2 (hsame ▸ (eq_waiting_iff _).1 hwaits)) hwaiting
  exact ⟨m, eq_returned_of_left hzero (hinv m).alive⟩

theorem waiting_step {s : ClientMode} (hmain : s.runtime.main = .waiting) (htasks : s.runtime.tasks ≠ []) (o : Op) :
    (step debug s o).runtime.main = .waiting := by
  have hout := step_outcome debug s o
  generalize step debug s o = s' at hout ⊢
  cases hout with
  | idle | cancel | listener => exact hmain
  | runtime op hothers => exact (main_of_others debug hothers s.runtime).1.trans hmain
  | wait _ _ hnone => exact absurd hnone htasks
  | takeListener _ hother | takeToken hother | panic _ hother | join _ _ hother | drain _ hother | drained _ hother
  | joined _ hother | shutDown _ hother | returned _ hother =>
    rw [hmain] at hother
    cases hother

/-- a task that is held up for ever keeps the function waiting -/
theorem not_leftWriting (hinv : ∀ n, ModeInv (r.state n)) (hends : RunsToEnd r) : ¬LeftWriting r := by
  rintro ⟨i, k, hwaiting, hheld⟩
  have hwaits : ∀ m, k ≤ m → (r.state m).runtime.main = .waiting := by
    intro m hm
    induction m, hm using Nat.le_induction with
    | base => exact hwaiting
    | succ m hm ih =>
      obtain ⟨t, hget, -⟩ := hheld m hm
      refine waiting_step ih (fun hnone => ?_) (r.ops m)
      rw [hnone] at hget
      cases hget
  obtain ⟨-, m, -, -, -, hcalls⟩ := hends
  have hdone : left (r.state m).runtime.main ≤ 1 := by
    rw [(hinv m).calls] at hcalls
    cases hmain : (r.state m).runtime.main <;> simp [hmain, callsAt, left] at hcalls ⊢
  have hstill : left (r.state (max m k)).runtime.main ≤ 1 :=
    r.stays (P := fun s => left s.runtime.main ≤ 1) (fun s o h => (left_step_le debug s o).trans h) hdone (le_max_left m k)
  rw [hwaits (max m k) (le_max_right m k)] at hstill
  simp [left] at hstill

/-- **A function that took the listener's branch polls the handle again, and panics.** -/
theorem panics_of_takesListener (hfair : Fair r) (htakes : TakesListener (r.state n) (r.ops n)) :
    ∃ m, (r.state m).ended = some .panicked := by
  have hdoomed : ∀ m, n + 1 ≤ m → Doomed (r.state m) := fun m =>
    r.stays (P := Doomed) (fun s o h => doomed_step h o) (doomed_of_takesListener htakes : Doomed (r.state (n + 1)))
  obtain ⟨m, -, hpanicked⟩ : ∃ m, n + 1 ≤ m ∧ (r.state m).ended = some .panicked := by
    refine hfair.main.reaches (Q := fun s => s.ended = some .panicked) ?_ ?_
    · intro m hm hnot
      rcases hdoomed m hm with ⟨-, hpanicked⟩ | ⟨hmain, hyielded⟩
      · exact absurd hpanicked hnot
      · simp only [MainReady, hmain]
        exact Or.inl hyielded
    · rintro m hm ⟨now, ho⟩
      rw [LongRun.state, ho]
      exact doomed_main (hdoomed m hm) now
  exact ⟨m, hpanicked⟩

end Run

/-! ## The shutdown -/

theorem ModeInv.not_panicked {s : ClientMode} (h : ModeInv s) : s.ended ≠ some .panicked := by
  rcases Nat.eq_zero_or_pos (left s.runtime.main) with hzero | hpos
  · obtain ⟨result, -, hended⟩ := h.answered (eq_returned_of_left hzero h.alive)
    simp [hended]
  · simp [h.quiet hpos]

/-- **The shutdown runs to its end if and only if the `select!` takes the branch of the process token and no task is left
in a write,** over fair runs in which the listener ends or the process is told to stop. -/
theorem runs_to_end_iff (capacity : ℕ) (config : SessionManagerConfig) (maxSessions : ℕ) (r : LongRun (step debug))
    (hstart : r.start = start capacity config maxSessions) (hfair : Fair r)
    (hready : ∃ n, (r.state n).cancelled = true ∨ ∃ result, (r.state n).listener = .finished result) :
    RunsToEnd r ↔ (∀ n, ¬TakesListener (r.state n) (r.ops n)) ∧ ¬LeftWriting r := by
  have hinv : (∀ n, ¬TakesListener (r.state n) (r.ops n)) → ∀ n, ModeInv (r.state n) := fun hnot n =>
    r.state_inv (I := ModeInv) (C := fun s o => ¬TakesListener s o) (fun s o h hnot => modeInv_step debug h hnot)
      (hstart ▸ modeInv_start capacity config maxSessions) hnot n
  constructor
  · intro hends
    have hnot : ∀ n, ¬TakesListener (r.state n) (r.ops n) := by
      intro n htakes
      obtain ⟨m, hpanicked⟩ := panics_of_takesListener hfair htakes
      exact hends.1 m hpanicked
    exact ⟨hnot, not_leftWriting (hinv hnot) hends⟩
  · rintro ⟨hnot, hfree⟩
    obtain ⟨n, hready⟩ := hready
    obtain ⟨m, hreturned⟩ := function_returns hfair (hinv hnot) hready hfree
    obtain ⟨result, hfinished, hended⟩ := (hinv hnot m).answered hreturned
    refine ⟨fun k => (hinv hnot k).not_panicked, m, result, hfinished, hended, ?_⟩
    rw [(hinv hnot m).calls, hreturned]
    rfl

/-- a run that has come to rest is fair: the function can go on no more, and whatever task is left is held up -/
theorem fair_of_settled {r : LongRun (step debug)} {k : ℕ} {o : Op} (h : r.Settles k o)
    (hrunning : (r.state k).runtime.main ≠ .running) (hmain : ¬MainReady (r.state k)) {result : Except Socks5Error Unit}
    (hlistener : (r.state k).listener = .finished result) (hworker : (r.state k).runtime.worker = .stopped)
    (htasks : ∀ t ∈ (r.state k).runtime.tasks, Blocked t) : Fair r where
  select := LongRun.weakFair_of_settled h fun ⟨hstill, _⟩ => absurd hstill hrunning
  main := LongRun.weakFair_of_settled h fun hready => absurd hready hmain
  bind := LongRun.weakFair_of_settled h fun hbinding => by simp [hlistener] at hbinding
  seeToken := LongRun.weakFair_of_settled h fun ⟨haccepting, _⟩ => by simp [hlistener] at haccepting
  breakCancelled := LongRun.strongFair_of_settled h fun ⟨hselecting, _⟩ => by simp [hworker] at hselecting
  spawn := LongRun.weakFair_of_settled h fun ⟨_, hholding⟩ => by simp [hworker] at hholding
  tasks i := LongRun.weakFair_of_settled h fun ⟨_, t, hget, hopen⟩ =>
    absurd (htasks t (List.mem_of_getElem? hget)) hopen
  drains i := LongRun.strongFair_of_settled h fun ⟨_, t, id, hget, hpumping⟩ => by
    obtain ⟨side, hside, -⟩ := htasks t (List.mem_of_getElem? hget)
    rw [hpumping] at hside
    cases hside

/-- a run from the start: these steps, and then the function is polled for nothing -/
def runOf (ops : List Op) : LongRun (step fun _ => "") :=
  LongRun.scripted (step fun _ => "") (start 64 ⟨300, 10⟩ 16) ops (.main 0)

/-- a request is served, and its pump has read two bytes for the client -/
def toThePump : List Op :=
  [.listener (.bind (.ok ())), .listener (.accept (.ok ()))] ++
    [.parse ⟨.domain "example.org" 443, .socks5, 1⟩, .handler 0 .trySend, .receive, .spawn, .task 0 (.registerSession 1),
      .task 0 (.resolveStream (.opened .wss none) 2 2), .task 0 (.makesRoom .client 10), .task 0 (.writeReply 10),
      .task 0 (.pump (.readTransport (.ok [1, 2])))].map .runtime

/-- the process is told to stop; the worker stops, and `drain_all` waits for the pump -/
def toTheDrain : List Op :=
  toThePump ++ [.cancel, .select .cancelled, .listener .seeToken, .main 0, .main 0, .runtime .breakCancelled]

/-- the client reads what the pump writes, and the pump sees its token -/
def toldToStop : List Op :=
  toTheDrain ++
    [.task 0 (.makesRoom .client 2), .task 0 (.pump (.write 8192)), .task 0 (.pump .drained),
      .task 0 (.handleEvent 3 3)].map .runtime ++
    [.main 0, .main 0, .main 0, .main 0, .main 0]

theorem not_takesListener {ops : List Op} (hmem : Op.select .listenerEnded ∉ .main 0 :: ops) (n : ℕ) :
    ¬TakesListener ((runOf ops).state n) ((runOf ops).ops n) := by
  rintro ⟨ho, -⟩
  have hop : (runOf ops).ops n ∈ .main 0 :: ops := LongRun.mem_scripted _ _ _ n
  exact hmem (ho ▸ hop)

theorem told_to_stop_ends : RunsToEnd (runOf toldToStop) := by
  have hsettles : (runOf toldToStop).Settles 26 (.main 0) := LongRun.settles_scripted (by decide) rfl
  have hfair : Fair (runOf toldToStop) := fair_of_settled hsettles (by rintro ⟨⟩) id rfl rfl (by rintro _ ⟨⟩)
  refine (runs_to_end_iff 64 ⟨300, 10⟩ 16 (runOf toldToStop) rfl hfair ⟨12, Or.inl rfl⟩).2
    ⟨not_takesListener (by simp [toldToStop, toTheDrain, toThePump]), ?_⟩
  rintro ⟨i, k, -, hheld⟩
  obtain ⟨t, hget, -⟩ := hheld (max k 26) (le_max_left k 26)
  rw [LongRun.state_of_settles hsettles (le_max_right k 26)] at hget
  cases hget

/-- **A client that does not read** keeps its pump in a write, and `drain_all` with it: the run is fair, the `select!` took
the branch of the token, and the shutdown does not come to its end. -/
theorem stuck_client_hangs :
    Fair (runOf toTheDrain) ∧ (∀ n, ¬TakesListener ((runOf toTheDrain).state n) ((runOf toTheDrain).ops n)) ∧
      ¬RunsToEnd (runOf toTheDrain) := by
  have hsettles : (runOf toTheDrain).Settles 17 (.main 0) := LongRun.settles_scripted (by decide) rfl
  have hnot : ∀ n, ¬TakesListener ((runOf toTheDrain).state n) ((runOf toTheDrain).ops n) :=
    not_takesListener (by simp [toTheDrain, toThePump])
  have hinv : ∀ n, ModeInv ((runOf toTheDrain).state n) := fun n =>
    (runOf toTheDrain).state_inv (I := ModeInv) (C := fun s o => ¬TakesListener s o)
      (fun s o h hnot => modeInv_step _ h hnot) (modeInv_start 64 ⟨300, 10⟩ 16) hnot n
  have hblocked : ∀ t ∈ ((runOf toTheDrain).state 17).runtime.tasks, Blocked t := by
    intro t ht
    obtain rfl := List.mem_singleton.1 ht
    exact ⟨.client, rfl, rfl⟩
  refine ⟨fair_of_settled hsettles (by rintro ⟨⟩) (by rintro ⟨⟩) rfl rfl hblocked, hnot, fun hends => ?_⟩
  refine not_leftWriting hinv hends ⟨0, 17, rfl, fun m hm => ?_⟩
  rw [LongRun.state_of_settles hsettles hm]
  exact ⟨_, rfl, .client, rfl, rfl⟩

/-- the port is in use -/
def failedBind : List Op :=
  [.listener (.bind (.error "Address already in use (os error 98)")), .select .listenerEnded, .main 0,
    .runtime .breakCancelled]

/-- **A port in use:** the drain, the join of the worker and the shutdown of the manager are never called. -/
theorem failed_bind_panics :
    Fair (runOf failedBind) ∧
      ((runOf failedBind).state 1).listener = .finished (.error (.io "Address already in use (os error 98)")) ∧
      ((runOf failedBind).state 3).ended = some .panicked ∧
      (∀ n, ((runOf failedBind).state n).calls ⊆ [.proxyStopAccept, .bridgeStopAccept]) ∧
      ¬RunsToEnd (runOf failedBind) := by
  have hsettles : (runOf failedBind).Settles 4 (.main 0) := LongRun.settles_scripted (by decide) rfl
  refine ⟨fair_of_settled hsettles (by rintro ⟨⟩) id rfl rfl (by rintro _ ⟨⟩), rfl, rfl, fun n => ?_,
    fun hends => hends.1 3 rfl⟩
  rcases le_or_gt 4 n with hn | hn
  · rw [LongRun.state_of_settles hsettles hn]
    exact fun _ h => h
  · interval_cases n <;> decide

end N0wss.Bridge.Shutdown
