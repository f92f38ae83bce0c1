/-
The replies to CONNECT requests in the client runtime (`socks5/mod.rs`, `proxy_bridge/mod.rs`): between the parse and the
drop of its socket a request is answered once, with `Succeeded` if and only if the pump was started on it.

Whoever drops a socket answers it first, with two exceptions: the receiver of the intent queue, which goes with the worker
and takes what is queued with it, and a reply, or a wait for one, that is cut off by `total_timeout` or by the end of the
runtime.

- `handlerTurn_ok`, `taskTurn_ok`: what a handler and a task leave of a socket.
- `answered_step_iff`: one step leaves every dropped socket answered exactly when it cuts nobody off.
- `every_connect_answered_iff`: the same over runs.
- `queued_intent_unanswered`: an intent is queued when the drain starts; the worker breaks, and its client gets no reply.
-/
import N0wss.Bridge.Runtime

namespace N0wss.Bridge.Runtime

open Machine Session Socks5

/-! ## One socket -/

namespace Connection

/-- one reply was written, and nothing else but what the pump relayed; `Succeeded` if and only if the pump was started -/
def Answered (c : Connection) : Prop :=
  c.writeFailed = true ∨
    ∃ reply : Socks5Reply, c.written = reply.bytes ++ c.relayed ∧ (reply = .succeeded ↔ c.pumped = true) ∧
      (c.pumped = false → c.relayed = [])

def Untouched (c : Connection) : Prop :=
  c.written = [] ∧ c.relayed = [] ∧ c.pumped = false ∧ c.writeFailed = false

/-- `rest` of the reply is still to be written -/
structure Midway (c : Connection) (reply : Socks5Reply) (rest : List UInt8) : Prop where
  more : rest ≠ []
  bytes : c.written ++ rest = reply.bytes
  relayed : c.relayed = []
  pumped : c.pumped = false
  writeFailed : c.writeFailed = false

variable {c : Connection} {reply : Socks5Reply} {rest : List UInt8}

theorem untouched_new (intent : ProxyIntent) : (new intent).Untouched := ⟨rfl, rfl, rfl, rfl⟩

theorem Untouched.midway (h : c.Untouched) (reply : Socks5Reply) : c.Midway reply reply.bytes :=
  ⟨by simp [Socks5Reply.bytes], by rw [h.1, List.nil_append], h.2.1, h.2.2.1, h.2.2.2⟩

/-- a socket that lacks part of its reply is not answered -/
theorem Midway.not_answered (h : c.Midway reply rest) : ¬c.Answered := by
  rintro (hfailed | ⟨reply', hwritten, -, -⟩)
  · rw [h.writeFailed] at hfailed
    cases hfailed
  · have hlen : (c.written ++ rest).length = 10 := by rw [h.bytes]; rfl
    have hmore : 0 < rest.length := List.length_pos_iff.2 h.more
    rw [h.relayed, List.append_nil] at hwritten
    have hwhole : c.written.length = 10 := by rw [hwritten]; rfl
    rw [List.length_append] at hlen
    omega

theorem Untouched.not_answered (h : c.Untouched) : ¬c.Answered := (h.midway .generalFailure).not_answered

theorem Midway.write (h : c.Midway reply rest) {n : ℕ} (hmore : rest.drop n ≠ []) :
    (c.write (rest.take n)).Midway reply (rest.drop n) where
  more := hmore
  bytes := by rw [Connection.write, List.append_assoc, List.take_append_drop, h.bytes]
  relayed := h.relayed
  pumped := h.pumped
  writeFailed := h.writeFailed

/-- the rest of a reply goes out -/
theorem Midway.written_eq (h : c.Midway reply rest) {n : ℕ} (hlast : rest.drop n = []) :
    (c.write (rest.take n)).written = reply.bytes := by
  have hall : rest.take n = rest := by simpa [hlast] using List.take_append_drop n rest
  rw [Connection.write, hall, h.bytes]

theorem answered_of_failure {c : Connection} (hwritten : c.written = reply.bytes) (hreply : reply ≠ .succeeded)
    (hrelayed : c.relayed = []) (hpumped : c.pumped = false) : c.Answered := by
  refine Or.inr ⟨reply, by rw [hwritten, hrelayed, List.append_nil], ?_, fun _ => hrelayed⟩
  rw [hpumped]
  exact iff_of_false hreply (by decide)

theorem answered_failWrite (c : Connection) : c.failWrite.Answered := Or.inl rfl

/-- how much a side takes changes nothing of what was written -/
theorem Untouched.makeRoom (h : c.Untouched) (n : ℕ) (side : Side) : (c.makeRoom n side).Untouched := by
  cases side <;> exact h

theorem Midway.makeRoom (h : c.Midway reply rest) (n : ℕ) (side : Side) : (c.makeRoom n side).Midway reply rest := by
  cases side <;> exact ⟨h.more, h.bytes, h.relayed, h.pumped, h.writeFailed⟩

theorem Answered.makeRoom (h : c.Answered) (n : ℕ) (side : Side) : (c.makeRoom n side).Answered := by
  cases side <;> exact h

end Connection

/-! ## Handlers and tasks -/

def HandlerOk (h : Handler) : Prop :=
  match h.pc with
  | .parsed => h.conn.Untouched
  | .refusing rest => h.conn.Midway .generalFailure rest

/-- a pump runs on a socket that has its success reply -/
def Pumping (c : Connection) : Prop :=
  c.pumped = true ∧ (c.writeFailed = true ∨ c.written = Socks5Reply.succeeded.bytes ++ c.relayed)

theorem Pumping.makeRoom {c : Connection} (h : Pumping c) (n : ℕ) (side : Side) : Pumping (c.makeRoom n side) := by
  cases side <;> exact h

theorem Pumping.answered {c : Connection} (h : Pumping c) : c.Answered := by
  rcases h.2 with hfailed | hwritten
  · exact Or.inl hfailed
  · exact Or.inr ⟨.succeeded, hwritten, iff_of_true rfl h.1, fun hno => absurd (h.1.symm.trans hno) (by decide)⟩

def TaskOk (t : Task) : Prop :=
  match t.pc with
  | .starting => t.conn.Untouched
  | .resolving _ => t.conn.Untouched
  | .replying reply rest next => t.conn.Midway reply rest ∧ (reply = .succeeded ↔ ∃ id, next = .pump id)
  | .pumping _ | .relaying _ _ _ => Pumping t.conn
  | .telling _ _ => t.conn.Answered

/-- the task has written its reply -/
def Task.isAnswered (t : Task) : Bool :=
  match t.pc with
  | .pumping _ | .relaying _ _ _ | .telling _ _ => true
  | _ => false

theorem TaskOk.answered_iff {t : Task} (h : TaskOk t) : t.conn.Answered ↔ t.isAnswered = true := by
  obtain ⟨c, _ | id | ⟨reply, rest, next⟩ | id | ⟨id, side, rest⟩ | ⟨id, event⟩⟩ := t
  · exact iff_of_false (Connection.Untouched.not_answered h) (by simp [Task.isAnswered])
  · exact iff_of_false (Connection.Untouched.not_answered h) (by simp [Task.isAnswered])
  · exact iff_of_false (Connection.Midway.not_answered h.1) (by simp [Task.isAnswered])
  · exact iff_of_true (Pumping.answered h) rfl
  · exact iff_of_true (Pumping.answered h) rfl
  · exact iff_of_true h rfl

def Handed.Ok : Handed → Prop
  | .goesOn h => HandlerOk h
  | .queued c => c.Untouched
  | .dropped c => c.Answered

def Turned.Ok : Turned → Prop
  | .goesOn t => TaskOk t
  | .dropped c => c.Answered

/-- a handler answers the sockets it drops, unless its timeout cuts it off -/
theorem handlerTurn_ok {rejected : Bool} {h : Handler} {o : HandlerOp} (hok : HandlerOk h)
    (htime : o = .timeOut → h.isParsed = true) : (handlerTurn rejected h o).Ok := by
  obtain ⟨c, _ | rest⟩ := h
  · cases o with
    | trySend =>
      simp only [handlerTurn]
      split
      · exact Connection.Untouched.midway hok _
      · exact hok
    | makesRoom n => exact Connection.Untouched.makeRoom hok n .client
    | write | writeFails | timeOut => exact hok
  · cases o with
    | trySend => exact hok
    | write n =>
      simp only [handlerTurn]
      split
      · rename_i hlast
        exact Connection.answered_of_failure (hok.written_eq hlast) (by decide) hok.relayed hok.pumped
      · rename_i hmore
        exact hok.write hmore
    | writeFails => exact Connection.answered_failWrite _
    | makesRoom n => exact Connection.Midway.makeRoom hok n .client
    | timeOut => exact absurd (htime rfl) (by simp [Handler.isParsed])

/-- a failed resolution is answered with its failure -/
theorem failing_ok {c : Connection} (hc : c.Untouched) {err : ProxyError} {reply : Socks5Reply}
    (hreply : mapReply err = some reply) (hfail : reply ≠ .succeeded) (id : SessionId) : TaskOk (failing c err id) := by
  simp only [failing, hreply]
  exact ⟨hc.midway reply, iff_of_false hfail (by simp)⟩

/-- what follows a reply that is out -/
theorem afterReply_ok {c : Connection} {reply : Socks5Reply} {next : AfterReply} (hwritten : c.written = reply.bytes)
    (hrelayed : c.relayed = []) (hpumped : c.pumped = false) (hnext : reply = .succeeded ↔ ∃ id, next = .pump id) :
    (afterReply c next).Ok := by
  rcases next with _ | id | id
  · exact Connection.answered_of_failure hwritten (fun h => absurd (hnext.1 h) (by simp)) hrelayed hpumped
  · exact Connection.answered_of_failure hwritten (fun h => absurd (hnext.1 h) (by simp)) hrelayed hpumped
  · have hsucceeded : reply = .succeeded := hnext.2 ⟨id, rfl⟩
    refine ⟨rfl, Or.inr ?_⟩
    change c.written = _ ++ c.relayed
    rw [hwritten, hsucceeded, hrelayed, List.append_nil]

/-- a reply that fails leaves the socket excused -/
theorem afterReply_failWrite_ok (c : Connection) (next : AfterReply) : (afterReply c.failWrite next).Ok := by
  rcases next with _ | id | id
  · exact Connection.answered_failWrite c
  · exact Connection.answered_failWrite c
  · exact ⟨rfl, Or.inl rfl⟩

theorem pumping_relay {c : Connection} (h : Pumping c) (bytes : List UInt8) (side : Side) :
    Pumping (c.relay bytes side) := by
  cases side with
  | transport => exact h
  | client =>
    refine ⟨h.1, ?_⟩
    rcases h.2 with hfailed | hwritten
    · exact Or.inl hfailed
    · refine Or.inr ?_
      simp only [Connection.relay, Connection.write, hwritten, List.append_assoc]

theorem pumping_failRelay {c : Connection} (h : Pumping c) (side : Side) : Pumping (c.failRelay side) := by
  cases side with
  | client => exact ⟨h.1, Or.inl rfl⟩
  | transport => exact h

/-- what a read comes to leaves the socket as it is -/
theorem afterRead_ok {c : Connection} (h : Pumping c) (id : SessionId) (side : Side)
    (read : Except IoError (List UInt8)) : TaskOk (afterRead c id side read) := by
  rcases read with err | _ | ⟨b, bytes⟩
  · exact h.answered
  · exact h.answered
  · exact h

theorem afterWrite_ok {c : Connection} (h : Pumping c) (id : SessionId) (side : Side) (rest : List UInt8) :
    TaskOk (afterWrite c id side rest) := by
  unfold afterWrite
  split <;> exact h

/-- whatever a turn of the pump reads and writes, the socket holds the success reply and what was relayed -/
theorem pumpTurn_ok (cancelled : Bool) {t : Task} (h : TaskOk t) (o : PumpOp) : TaskOk (pumpTurn cancelled t o) := by
  obtain ⟨c, pc⟩ := t
  cases pc with
  | pumping id =>
    have hpumping : Pumping c := h
    cases o with
    | drained =>
      simp only [pumpTurn]
      split
      · exact hpumping.answered
      · exact h
    | readClient read => exact afterRead_ok hpumping id .transport read
    | readTransport read => exact afterRead_ok hpumping id .client read
    | write | writeFails => exact h
  | relaying id side rest =>
    have hpumping : Pumping c := h
    cases o with
    | write n => exact afterWrite_ok (pumping_relay hpumping _ side) id side _
    | writeFails => exact (pumping_failRelay hpumping side).answered
    | drained | readClient | readTransport => exact h
  | starting | resolving | replying | telling => cases o <;> exact h

/-- how much a side takes is nothing to the task -/
theorem makesRoom_ok {t : Task} (h : TaskOk t) (side : Side) (n : ℕ) :
    TaskOk { t with conn := t.conn.makeRoom n side } := by
  obtain ⟨c, pc⟩ := t
  cases pc with
  | starting | resolving => exact Connection.Untouched.makeRoom h n side
  | replying reply rest next => exact ⟨Connection.Midway.makeRoom h.1 n side, h.2⟩
  | pumping | relaying => exact Pumping.makeRoom h n side
  | telling => exact Connection.Answered.makeRoom h n side

/-- a task answers the sockets it drops -/
theorem taskTurn_ok (debug : Option String → String) (cancelled : Bool) (m : SessionManager) {t : Task} (h : TaskOk t)
    (o : TaskOp) : (taskTurn debug cancelled m t o).2.Ok := by
  obtain ⟨c, pc⟩ := t
  cases o with
  | registerSession now =>
    cases pc with
    | starting =>
      simp only [taskTurn]
      split
      · exact h
      · exact ⟨Connection.Untouched.midway h _, by simp⟩
    | _ => exact h
  | resolveStream resolution now closeNow =>
    cases pc with
    | resolving id =>
      simp only [taskTurn]
      split
      · exact ⟨Connection.Untouched.midway h _, by simp⟩
      · exact failing_ok h (mapReply_mapSessionError debug _) (by decide) id
      · have hreply : mapReply (.transportFailed "request timeout exceeded") = some .generalFailure := rfl
        exact failing_ok h hreply (by decide) id
    | _ => exact h
  | writeReply n =>
    cases pc with
    | replying reply rest next =>
      simp only [taskTurn]
      split
      · rename_i hlast
        exact afterReply_ok (h.1.written_eq hlast) h.1.relayed h.1.pumped h.2
      · rename_i hmore
        exact ⟨h.1.write hmore, h.2⟩
    | _ => exact h
  | replyFails =>
    cases pc with
    | replying reply rest next => exact afterReply_failWrite_ok c next
    | _ => exact h
  | pump o => exact pumpTurn_ok cancelled h o
  | handleEvent now closeNow => cases pc <;> exact h
  | makesRoom side n => exact makesRoom_ok h side n

/-! ## The runtime -/

/-- every socket that was dropped had been answered -/
def AllAnswered (s : ClientRuntime) : Prop := ∀ c ∈ s.dropped, c.Answered

/-- the step cuts off nobody who waits for a reply: the worker goes on its token, or with the runtime, only when nothing
is queued, `total_timeout` does not strike in the middle of a reply, and the end of the runtime meets no handler at work
and no task that has not answered -/
def CutsOffNobody (s : ClientRuntime) : Op → Prop
  | .breakCancelled => s.cancelled = true → s.worker.isSelecting = true → s.queue = []
  | .handler i .timeOut => ∀ h, s.handlers[i]? = some h → h.isParsed = true
  | .abortHandler i => s.main.isDown = true → ∀ h, s.handlers[i]? = some h → h.isParsed = true
  | .abortTask i => s.main.isDown = true → ∀ t, s.tasks[i]? = some t → t.isAnswered = true
  | .abortWorker => s.main.isDown = true → s.worker.isSelecting = true → s.queue = []
  | _ => True

structure ReplyInv (s : ClientRuntime) : Prop where
  handlers : ∀ h ∈ s.handlers, HandlerOk h
  queue : ∀ c ∈ s.queue, c.Untouched
  held : ∀ c, s.worker = .holding c → c.Untouched
  tasks : ∀ t ∈ s.tasks, TaskOk t
  dropped : AllAnswered s

theorem replyInv_start (capacity : ℕ) (config : SessionManagerConfig) (maxSessions : ℕ) :
    ReplyInv (start capacity config maxSessions) where
  handlers := by simp [start]
  queue := by simp [start]
  held := by simp [start]
  tasks := by simp [start]
  dropped := by simp [AllAnswered, start]

variable {s : ClientRuntime}

theorem replyInv_hand (h : ReplyInv s) (i : ℕ) {handed : Handed} (hok : handed.Ok) : ReplyInv (hand s i handed) := by
  have hrest : ∀ hd ∈ s.handlers.eraseIdx i, HandlerOk hd := forall_mem_eraseIdx h.handlers i
  rcases handed with hd' | c | c
  · exact { h with handlers := forall_mem_set h.handlers i hok }
  · exact { h with handlers := hrest, queue := forall_mem_concat h.queue hok }
  · exact { h with handlers := hrest, dropped := forall_mem_concat h.dropped hok }

theorem replyInv_turn (h : ReplyInv s) (i : ℕ) (manager : SessionManager) {turned : Turned} (hok : turned.Ok) :
    ReplyInv (turn s i (manager, turned)) := by
  rcases turned with t' | c
  · exact { h with tasks := forall_mem_set h.tasks i hok }
  · exact { h with tasks := forall_mem_eraseIdx h.tasks i, dropped := forall_mem_concat h.dropped hok }

/-- the worker goes, and nothing is queued -/
theorem replyInv_stopWorker (h : ReplyInv s) (hempty : s.queue = []) : ReplyInv (stopWorker s) where
  handlers := h.handlers
  queue := by simp [stopWorker]
  held := by simp [stopWorker]
  tasks := h.tasks
  dropped := by simpa [stopWorker, AllAnswered, hempty] using h.dropped

theorem replyInv_stepMain (h : ReplyInv s) (now : Instant) : ReplyInv (stepMain now s) := by
  cases hm : s.main <;> simp only [stepMain, hm] <;> try split
  all_goals exact { h with }

/-- a step that cuts off nobody leaves every dropped socket answered -/
theorem replyInv_step (debug : Option String → String) (o : Op) (h : ReplyInv s) (hcut : CutsOffNobody s o) :
    ReplyInv (step debug s o) := by
  have hout := step_outcome debug s o
  generalize step debug s o = s' at hout ⊢
  cases hout with
  | idle => exact h
  | parse intent =>
    have hnew : HandlerOk ⟨.new intent, .parsed⟩ := Connection.untouched_new intent
    exact { h with handlers := forall_mem_concat h.handlers hnew }
  | handler i o hd hget =>
    have htime : o = .timeOut → hd.isParsed = true := by
      rintro rfl
      exact hcut hd hget
    exact replyInv_hand h i (handlerTurn_ok (h.handlers hd (List.mem_of_getElem? hget)) htime)
  | receive c queue _ hqueue =>
    have hall : ∀ c' ∈ c :: queue, c'.Untouched := hqueue ▸ h.queue
    have hheld : ∀ c', Worker.holding c = .holding c' → c'.Untouched := by
      rintro c' ⟨⟩
      exact hall c List.mem_cons_self
    exact { h with queue := fun c' hc' => hall c' (List.mem_cons_of_mem c hc'), held := hheld }
  | spawn c hholding =>
    have hnew : TaskOk ⟨c, .starting⟩ := h.held c hholding
    exact { h with held := by simp, tasks := forall_mem_concat h.tasks hnew }
  | breakCancelled hcancelled hselecting => exact replyInv_stopWorker h (hcut hcancelled hselecting)
  | breakClosed hempty => exact replyInv_stopWorker h hempty
  | task i o t hget =>
    exact replyInv_turn h i _ (taskTurn_ok debug s.cancelled s.manager (h.tasks t (List.mem_of_getElem? hget)) o)
  | stopAccept | dropSenders | listenerEnds => exact { h with }
  | main now => exact replyInv_stepMain h now
  | abortHandler i conn rest hdown hget => exact absurd (hcut hdown _ hget) (by simp [Handler.isParsed])
  | abortTask i t hdown hget =>
    have hok : TaskOk t := h.tasks t (List.mem_of_getElem? hget)
    have hanswered : t.conn.Answered := hok.answered_iff.2 (hcut hdown t hget)
    exact { h with tasks := forall_mem_eraseIdx h.tasks i, dropped := forall_mem_concat h.dropped hanswered }
  | abortWorker hdown hselecting => exact replyInv_stopWorker h (hcut hdown hselecting)

theorem mem_dropped_stopWorker {c : Connection} (hc : c ∈ s.queue) : c ∈ (stopWorker s).dropped :=
  List.mem_append_right _ hc

/-- a worker that goes with something queued leaves somebody without a reply -/
theorem unanswered_of_stopWorker (h : ReplyInv s) (hqueued : s.queue ≠ []) : ¬AllAnswered (stopWorker s) := by
  obtain ⟨c, hc⟩ := List.exists_mem_of_ne_nil _ hqueued
  exact fun hall => (h.queue c hc).not_answered (hall c (mem_dropped_stopWorker hc))

/-- a handler that is cut off has written only part of its reply -/
theorem unanswered_of_refusing (h : ReplyInv s) {i : ℕ} {hd : Handler} (hget : s.handlers[i]? = some hd)
    (hnot : ¬hd.isParsed = true) : ∃ c rest, hd = ⟨c, .refusing rest⟩ ∧ ¬c.Answered := by
  have hok := h.handlers hd (List.mem_of_getElem? hget)
  obtain ⟨c, _ | rest⟩ := hd
  · exact absurd rfl hnot
  · exact ⟨c, rest, rfl, Connection.Midway.not_answered hok⟩

/-- a step that cuts somebody off drops a socket that was not answered -/
theorem unanswered_of_step (debug : Option String → String) (o : Op) (h : ReplyInv s) (hcut : ¬CutsOffNobody s o) :
    ¬AllAnswered (step debug s o) := by
  cases o with
  | handler i o =>
    cases o
    case timeOut =>
      simp only [CutsOffNobody, not_forall] at hcut
      obtain ⟨hd, hget, hnot⟩ := hcut
      obtain ⟨c, rest, rfl, hno⟩ := unanswered_of_refusing h hget hnot
      intro hall
      simp only [step, hget, handlerTurn, hand] at hall
      exact hno (hall c (by simp))
    all_goals exact absurd trivial hcut
  | breakCancelled =>
    simp only [CutsOffNobody, Classical.not_imp] at hcut
    obtain ⟨hcancel, hsel, hqueued⟩ := hcut
    simp only [step, hcancel, hsel, Bool.and_self, if_true]
    exact unanswered_of_stopWorker h hqueued
  | abortWorker =>
    simp only [CutsOffNobody, Classical.not_imp] at hcut
    obtain ⟨hdown, hsel, hqueued⟩ := hcut
    simp only [step, hdown, hsel, Bool.and_self, if_true]
    exact unanswered_of_stopWorker h hqueued
  | abortHandler i =>
    simp only [CutsOffNobody, Classical.not_imp, not_forall] at hcut
    obtain ⟨hdown, hd, hget, hnot⟩ := hcut
    obtain ⟨c, rest, rfl, hno⟩ := unanswered_of_refusing h hget hnot
    intro hall
    simp only [step, hdown, hget] at hall
    exact hno (hall c (by simp))
  | abortTask i =>
    simp only [CutsOffNobody, Classical.not_imp, not_forall] at hcut
    obtain ⟨hdown, t, hget, hnot⟩ := hcut
    have hok : TaskOk t := h.tasks t (List.mem_of_getElem? hget)
    intro hall
    simp only [step, hdown, hget] at hall
    exact hnot (hok.answered_iff.1 (hall t.conn (by simp)))
  | parse intent | receive | spawn | breakClosed | task i o | stopAccept | dropSenders | main now | listenerEnds =>
    exact absurd trivial hcut

/-- one step leaves every dropped socket answered if and only if it cuts nobody off -/
theorem answered_step_iff (debug : Option String → String) (o : Op) (h : ReplyInv s) :
    AllAnswered (step debug s o) ↔ CutsOffNobody s o := by
  constructor
  · intro hall
    by_contra hcut
    exact unanswered_of_step debug o h hcut hall
  · exact fun hcut => (replyInv_step debug o h hcut).dropped

/-! ## Main result -/

/-- **One reply to every CONNECT.** Over every run of the client runtime, whatever the queue's size and the sessions
allowed: in every state, every socket that was dropped had one whole reply written to it and nothing more but what the
pump relayed, `Succeeded` if and only if the pump was started on it (or a write to it had failed), if and only if no step
of the run cuts a waiting client off. -/
theorem every_connect_answered_iff (debug : Option String → String) (capacity : ℕ) (config : SessionManagerConfig)
    (maxSessions : ℕ) (ops : List Op) :
    AllStates (step debug) AllAnswered (start capacity config maxSessions) ops ↔
      AllSteps (step debug) CutsOffNobody (start capacity config maxSessions) ops := by
  have hstart := replyInv_start capacity config maxSessions
  have hsteps : AllSteps (step debug) (fun s o => AllAnswered (step debug s o)) (start capacity config maxSessions) ops ↔
      AllSteps (step debug) CutsOffNobody (start capacity config maxSessions) ops :=
    allSteps_iff_of_step (fun _ o h hcut => replyInv_step debug o h hcut) (fun _ o h => answered_step_iff debug o h) hstart
  rw [allStates_iff_allSteps, hsteps]
  exact and_iff_right hstart.dropped

/-! ## A drain -/

/-- a request is queued, the runtime is told to stop, and the worker breaks on its token -/
def drainRun : List Op :=
  [.parse ⟨.domain "example.com" 443, .socks5, 1⟩, .handler 0 .trySend, .main 0, .breakCancelled]

/-- **A queued intent at a drain.** Its socket is dropped, and nothing was written to it. -/
theorem queued_intent_unanswered :
    ¬AllStates (step debugText) AllAnswered (start 1 ⟨30, 10⟩ 1) drainRun ∧
      (run (step debugText) (start 1 ⟨30, 10⟩ 1) drainRun).dropped =
        [.new ⟨.domain "example.com" 443, .socks5, 1⟩] := by
  have hdropped : (run (step debugText) (start 1 ⟨30, 10⟩ 1) drainRun).dropped =
      [.new ⟨.domain "example.com" 443, .socks5, 1⟩] := by rfl
  refine ⟨fun h => ?_, hdropped⟩
  have hall : AllAnswered (run (step debugText) (start 1 ⟨30, 10⟩ 1) drainRun) := h.last
  have hanswered := hall (.new ⟨.domain "example.com" 443, .socks5, 1⟩) (by simp [hdropped])
  exact (Connection.untouched_new _).not_answered hanswered

end N0wss.Bridge.Runtime
