/-
What `drain_all` waits for (`proxy_bridge/mod.rs`). It closes the task tracker and waits until the tracker is closed and
empty. The worker is not among the tracked tasks: a worker that has received an intent and not spawned its task, or that
takes the `recv` branch although the token is cancelled, starts a task after the wait is over.

- `drainInv_step`: a drained runtime stays drained, where the worker holds no intent at the wait and receives none after it.
- `late_of_taken`: an intent that it holds or receives there can be followed by a new task.
- `starts_late`: so can a wait that finds the worker unfinished.
- `drain_all_drains`: the three together, over runs.
- `task_starts_after_drain`: the worker holds an intent when the wait is over, and its session is registered after
  `shutdown`.
-/
import N0wss.Bridge.Runtime

namespace N0wss.Bridge.Runtime

open Machine Session Socks5

/-! ## Drained -/

/-- once `drain_all` has returned no task is running, and once `manager.shutdown` has no session is registered -/
def Drained (s : ClientRuntime) : Prop :=
  (s.main.hasDrained = true → s.tasks = []) ∧
    (s.main.hasShutDown = true → ∀ id, s.manager.registry.get id = none)

/-- the tracker was found closed and empty -/
def Main.waitOver : Main → Bool
  | .notified | .drained | .joined | .shutDown | .returned => true
  | _ => false

/-- the worker holds no intent at the step at which the tracker is found closed and empty, and receives none after it -/
def TakesNoneLate (s : ClientRuntime) : Op → Prop
  | .main _ => s.main = .waiting → s.tasks = [] → s.worker.isHolding = false
  | .receive => s.main.waitOver = true → s.worker.isSelecting = true → s.queue = []
  | _ => True

/-- the worker has stopped; or nothing is queued for it and nobody is left to send -/
def WorkerFinished (s : ClientRuntime) : Prop :=
  s.worker.isStopped = true ∨ s.worker.isSelecting = true ∧ s.queue = [] ∧ s.sendersGone = true

instance (s : ClientRuntime) : (o : Op) → Decidable (TakesNoneLate s o)
  | .main _ => inferInstanceAs (Decidable (s.main = .waiting → s.tasks = [] → s.worker.isHolding = false))
  | .receive => inferInstanceAs (Decidable (s.main.waitOver = true → s.worker.isSelecting = true → s.queue = []))
  | .parse _ | .handler _ _ | .spawn | .breakCancelled | .breakClosed | .task _ _ | .stopAccept | .dropSenders
  | .listenerEnds | .abortHandler _ | .abortTask _ | .abortWorker => inferInstanceAs (Decidable True)

instance (s : ClientRuntime) : Decidable (WorkerFinished s) :=
  decidable_of_iff
    (s.worker.isStopped = true ∨ s.worker.isSelecting = true ∧ s.queue.isEmpty = true ∧ s.sendersGone = true)
    (by simp [WorkerFinished])

theorem Main.waitOver_of_hasDrained {m : Main} (h : m.hasDrained = true) : m.waitOver = true := by
  cases m <;> first | rfl | cases h

theorem Main.waitOver_of_hasShutDown {m : Main} (h : m.hasShutDown = true) : m.waitOver = true := by
  cases m <;> first | rfl | cases h

/-- what carries a drained runtime on -/
structure DrainInv (s : ClientRuntime) : Prop where
  quiet : s.main.waitOver = true → s.tasks = [] ∧ s.worker.isHolding = false
  empty : s.main.hasShutDown = true → ∀ id, s.manager.registry.get id = none

theorem DrainInv.drained {s : ClientRuntime} (h : DrainInv s) : Drained s :=
  ⟨fun hd => (h.quiet (Main.waitOver_of_hasDrained hd)).1, h.empty⟩

theorem drainInv_start (capacity : ℕ) (config : SessionManagerConfig) (maxSessions : ℕ) :
    DrainInv (start capacity config maxSessions) :=
  ⟨fun h => absurd h (by simp [start, Main.waitOver]), fun h => absurd h (by simp [start, Main.hasShutDown])⟩

/-! ## One step -/

variable {s : ClientRuntime}

theorem drainInv_stopWorker (h : DrainInv s) : DrainInv (stopWorker s) := ⟨fun hw => ⟨(h.quiet hw).1, rfl⟩, h.empty⟩

theorem drainInv_hand (h : DrainInv s) (i : ℕ) (handed : Handed) : DrainInv (hand s i handed) := by
  cases handed <;> exact { h with }

theorem drainInv_stepMain (h : DrainInv s) (now : Instant) (hnone : TakesNoneLate s (.main now)) :
    DrainInv (stepMain now s) := by
  have hquiet := h.quiet
  have hempty := h.empty
  cases hm : s.main with
  | waiting =>
    simp only [stepMain, hm]
    split
    · rename_i htasks
      have htasks : s.tasks = [] := by simpa using htasks
      exact ⟨fun _ => ⟨htasks, hnone hm htasks⟩, fun hd => absurd hd (by simp [Main.hasShutDown])⟩
    · exact h
  | drained =>
    simp only [stepMain, hm]
    split
    · exact ⟨fun _ => hquiet (by rw [hm]; rfl), fun hd => absurd hd (by simp [Main.hasShutDown])⟩
    · exact h
  | joined =>
    simp only [stepMain, hm]
    exact ⟨fun _ => hquiet (by rw [hm]; rfl), fun _ id => SlotStore.get_drain _ id⟩
  | notified =>
    simp only [stepMain, hm]
    exact ⟨fun _ => hquiet (by rw [hm]; rfl), fun hd => absurd hd (by simp [Main.hasShutDown])⟩
  | shutDown =>
    simp only [stepMain, hm]
    exact ⟨fun _ => hquiet (by rw [hm]; rfl), fun _ => hempty (by rw [hm]; rfl)⟩
  | returned | failed => simpa only [stepMain, hm] using h
  | running | stopping | draining =>
    simp only [stepMain, hm]
    exact ⟨fun hw => absurd hw (by simp [Main.waitOver]), fun hd => absurd hd (by simp [Main.hasShutDown])⟩

theorem drainInv_failed (s : ClientRuntime) : DrainInv { s with main := .failed } :=
  ⟨fun hw => absurd hw (by simp [Main.waitOver]), fun hd => absurd hd (by simp [Main.hasShutDown])⟩

/-- a task at work keeps `drain_all` waiting -/
theorem DrainInv.busy (h : DrainInv s) {i : ℕ} {t : Task} (hget : s.tasks[i]? = some t) : s.main.waitOver ≠ true := by
  intro hw
  rw [(h.quiet hw).1] at hget
  cases hget

theorem drainInv_turn (h : DrainInv s) {i : ℕ} {t : Task} (hget : s.tasks[i]? = some t)
    (r : SessionManager × Turned) : DrainInv (turn s i r) := by
  have hbusy := h.busy hget
  have hlive : s.main.hasShutDown ≠ true := fun hd => hbusy (Main.waitOver_of_hasShutDown hd)
  rcases r with ⟨manager, t' | c⟩
  · exact ⟨fun hw => absurd hw hbusy, fun hd => absurd hd hlive⟩
  · exact ⟨fun hw => absurd hw hbusy, fun hd => absurd hd hlive⟩

/-- **One step.** A drained runtime stays drained, where the worker takes no intent late. -/
theorem drainInv_step (debug : Option String → String) (o : Op) (h : DrainInv s) (hnone : TakesNoneLate s o) :
    DrainInv (step debug s o) := by
  have hout := step_outcome debug s o
  generalize step debug s o = s' at hout ⊢
  cases hout with
  | idle => exact h
  | parse | stopAccept | dropSenders | abortHandler => exact { h with }
  | handler i o hd hget => exact drainInv_hand h i _
  | receive c queue hselecting hqueue =>
    refine { h with quiet := fun hw => ?_ }
    have hempty := hnone hw (by rw [hselecting]; rfl)
    rw [hqueue] at hempty
    cases hempty
  | spawn c hholding =>
    refine { h with quiet := fun hw => ?_ }
    have hfree := (h.quiet hw).2
    rw [hholding] at hfree
    cases hfree
  | breakCancelled | breakClosed | abortWorker => exact drainInv_stopWorker h
  | task i o t hget => exact drainInv_turn h hget _
  | main now => exact drainInv_stepMain h now hnone
  | listenerEnds => exact drainInv_failed s
  | abortTask i t _ hget => exact { h with quiet := fun hw => absurd hw (h.busy hget) }

/-! ## Late tasks -/

theorem holding_of_isHolding {worker : Worker} (h : worker.isHolding = true) : ∃ c, worker = .holding c := by
  cases worker with
  | holding c => exact ⟨c, rfl⟩
  | selecting | stopped => cases h

/-- a task is spawned from what the worker holds, whatever `drain_all` found -/
theorem late_of_holding (debug : Option String → String) {c : Connection} (hover : s.main.waitOver = true)
    (hw : s.worker = .holding c) : ∃ ops, ¬Drained (run (step debug) s ops) := by
  cases hm : s.main with
  | running | stopping | draining | waiting | failed =>
    rw [hm] at hover
    cases hover
  | notified =>
    refine ⟨[.main 0, .spawn], fun hdrained => ?_⟩
    have htasks := hdrained.1 (by simp [step, stepMain, hw, hm, Main.hasDrained])
    simp [step, stepMain, hw, hm] at htasks
  | drained | joined | shutDown | returned =>
    refine ⟨[.spawn], fun hdrained => ?_⟩
    have htasks := hdrained.1 (by simp [step, hw, hm, Main.hasDrained])
    simp [step, hw] at htasks

theorem late_of_queued (debug : Option String → String) (hover : s.main.waitOver = true)
    (hw : s.worker.isSelecting = true) (hq : s.queue ≠ []) :
    ∃ ops, ¬Drained (run (step debug) (step debug s .receive) ops) := by
  obtain ⟨c, queue, hq⟩ := List.exists_cons_of_ne_nil hq
  cases hworker : s.worker with
  | selecting =>
    have hreceive : step debug s .receive = { s with worker := .holding c, queue } := by simp only [step, hworker, hq]
    rw [hreceive]
    exact late_of_holding debug (s := { s with worker := .holding c, queue }) hover rfl
  | holding | stopped =>
    rw [hworker] at hw
    cases hw

/-- **An intent taken late** can be followed by a task that starts after `drain_all` has returned. -/
theorem late_of_taken (debug : Option String → String) {o : Op} (htakes : ¬TakesNoneLate s o) :
    ∃ ops, ¬Drained (run (step debug) (step debug s o) ops) := by
  cases o with
  | main now =>
    simp only [TakesNoneLate, Classical.not_imp, Bool.not_eq_false] at htakes
    obtain ⟨hmain, htasks, hholding⟩ := htakes
    have hfound : step debug s (.main now) = { s with main := .notified } := by
      simp only [step, stepMain, hmain, htasks, List.isEmpty_nil, if_true]
    obtain ⟨c, hworker⟩ := holding_of_isHolding hholding
    rw [hfound]
    exact late_of_holding debug (s := { s with main := .notified }) rfl hworker
  | receive =>
    simp only [TakesNoneLate, Classical.not_imp] at htakes
    obtain ⟨hover, hselecting, hqueue⟩ := htakes
    exact late_of_queued debug hover hselecting hqueue
  | _ => exact absurd trivial htakes

/-- a request read now is queued at once, where the receiver is there and the queue has room -/
theorem run_queue (debug : Option String → String) (intent : ProxyIntent) (hsender : s.sendersGone = false)
    (hopen : rejects s.capacity s.worker.isStopped s.queue = false) :
    run (step debug) s [.parse intent, .handler s.handlers.length .trySend] =
      { s with queue := s.queue ++ [.new intent] } := by
  have hlast : (s.handlers ++ [⟨.new intent, .parsed⟩])[s.handlers.length]? = some ⟨.new intent, .parsed⟩ := by simp
  simp only [run_cons, run_nil, step, hsender, Bool.false_eq_true, if_false, hlast, handlerTurn, hopen, hand]
  simp [List.eraseIdx_append_of_length_le]

theorem late_of_sender (debug : Option String → String) (hcap : 0 < s.capacity) (hover : s.main.waitOver = true)
    (hw : s.worker.isSelecting = true) (hq : s.queue = []) (hsender : s.sendersGone = false) :
    ∃ ops, ¬Drained (run (step debug) s ops) := by
  have hstopped : s.worker.isStopped = false := by
    cases hworker : s.worker with
    | selecting | holding => rfl
    | stopped =>
      rw [hworker] at hw
      cases hw
  have hopen : rejects s.capacity s.worker.isStopped s.queue = false := by
    simp [rejects, hstopped, hq, Nat.pos_iff_ne_zero.1 hcap]
  let c : ProxyIntent := ⟨.domain "" 0, .socks5, 0⟩
  obtain ⟨ops, hops⟩ := late_of_queued (s := { s with queue := s.queue ++ [.new c] }) debug hover hw (by simp)
  exact ⟨[.parse c, .handler s.handlers.length .trySend] ++ .receive :: ops, by
    rwa [run_append, run_queue debug c hsender hopen]⟩

theorem late_of_unfinished (debug : Option String → String) (hcap : 0 < s.capacity) (hover : s.main.waitOver = true)
    (hunfinished : ¬WorkerFinished s) : ∃ ops, ¬Drained (run (step debug) s ops) := by
  cases hworker : s.worker with
  | holding c => exact late_of_holding debug hover hworker
  | stopped => exact absurd (Or.inl (by rw [hworker]; rfl)) hunfinished
  | selecting =>
    have hselecting : s.worker.isSelecting = true := by rw [hworker]; rfl
    by_cases hq : s.queue = []
    · have hsender : s.sendersGone = false := by
        by_contra hgone
        exact hunfinished (Or.inr ⟨hselecting, hq, by simpa using hgone⟩)
      exact late_of_sender debug hcap hover hselecting hq hsender
    · obtain ⟨ops, hops⟩ := late_of_queued debug hover hselecting hq
      exact ⟨.receive :: ops, hops⟩

/-- a wait that finds the worker unfinished lets a task start after `drain_all` has returned -/
theorem starts_late (debug : Option String → String) (hcap : 0 < s.capacity) (hmain : s.main = .waiting)
    (htasks : s.tasks = []) (hunfinished : ¬WorkerFinished s) :
    ∃ ops, ¬Drained (run (step debug) s ops) := by
  have hfound : step debug s (.main 0) = { s with main := .notified } := by
    simp only [step, stepMain, hmain, htasks, List.isEmpty_nil, if_true]
  obtain ⟨ops, hops⟩ := late_of_unfinished debug (s := { s with main := .notified }) hcap rfl hunfinished
  exact ⟨.main 0 :: ops, by rwa [run_cons, hfound]⟩

/-! ## Main result -/

/-- **What `drain_all` waits for.** In every run of the runtime, and whatever the queue's size and the sessions allowed:
if the worker holds no intent when the tracker is found closed and empty, and receives none after that, then in every state
reached after `drain_all` has returned no task is running, and after `manager.shutdown` no session is registered. Any step
at which it does can be followed by a task that is started after `drain_all` has returned; and so can any state in which the
tracker is so found, unless the worker is finished there: it has stopped, or its channel is closed and empty. -/
theorem drain_all_drains (debug : Option String → String) :
    (∀ (capacity : ℕ) (config : SessionManagerConfig) (maxSessions : ℕ) (ops : List Op),
      AllSteps (step debug) TakesNoneLate (start capacity config maxSessions) ops →
        AllStates (step debug) Drained (start capacity config maxSessions) ops) ∧
    (∀ (s : ClientRuntime) (o : Op), ¬TakesNoneLate s o → ∃ ops, ¬Drained (run (step debug) (step debug s o) ops)) ∧
    ∀ s : ClientRuntime, 0 < s.capacity → s.main = .waiting → s.tasks = [] → ¬WorkerFinished s →
      ∃ ops, ¬Drained (run (step debug) s ops) :=
  ⟨fun capacity config maxSessions _ hops =>
    allStates_of_inv (fun _ o h hnone => drainInv_step debug o h hnone) (fun _ h => h.drained)
      (drainInv_start capacity config maxSessions) hops,
    fun _ _ => late_of_taken debug, fun _ => starts_late debug⟩

/-! ## One intent -/

def oneIntent : ProxyIntent := ⟨.domain "example.com" 443, .socks5, 1⟩

/-- a request is queued, and `run_client_mode` gets as far as waiting for the tracker -/
def toTheWait : List Op := [.parse oneIntent, .handler 0 .trySend, .main 0, .main 0, .main 0]

/-- the worker receives the intent before the wait -/
def heldAtTheWait : List Op := toTheWait.insertIdx 2 .receive

/-- the worker spawns the task, the task is refused a session, the worker breaks, and the wait goes through; had the
worker only received the intent, the task could still start -/
theorem drained_after_worker :
    AllStates (step debugText) Drained (start 1 ⟨30, 10⟩ 0)
      (heldAtTheWait ++ [.spawn, .task 0 (.registerSession 1), .task 0 (.makesRoom .client 10), .task 0 (.writeReply 10),
        .main 1, .breakCancelled, .main 1, .main 1, .main 1, .main 1]) ∧
      (∃ ops, ¬Drained (run (step debugText)
        (step debugText (run (step debugText) (start 1 ⟨30, 10⟩ 0) heldAtTheWait) (.main 1)) ops)) ∧
      ∃ ops, ¬Drained (run (step debugText) (run (step debugText) (start 1 ⟨30, 10⟩ 0) heldAtTheWait) ops) :=
  ⟨(drain_all_drains debugText).1 1 ⟨30, 10⟩ 0 _ (by decide),
    (drain_all_drains debugText).2.1 _ (.main 1) (by decide),
    (drain_all_drains debugText).2.2 _ (by decide) (by decide) rfl (by decide)⟩

/-- the worker spawns its task once `drain_all` has returned -/
def lateRun : List Op :=
  heldAtTheWait ++ [.main 1, .main 1, .spawn, .breakCancelled, .main 2, .main 2, .task 0 (.registerSession 3)]

/-- **A task starts after `drain_all`.** The worker holds an intent while the tracker is empty: the wait is over,
`drain_all` returns, the task is spawned, and its session is registered after `manager.shutdown`. -/
theorem task_starts_after_drain :
    ¬AllStates (step debugText) Drained (start 1 ⟨30, 10⟩ 1) lateRun ∧
      (run (step debugText) (start 1 ⟨30, 10⟩ 1) lateRun).main = .shutDown ∧
      (run (step debugText) (start 1 ⟨30, 10⟩ 1) lateRun).manager.registry.get 1 = some ⟨.active 3 0, true, 3⟩ := by
  refine ⟨fun h => ?_, by decide, by decide⟩
  have hempty := h.last.2 (by decide) 1
  exact absurd hempty (by decide)

end N0wss.Bridge.Runtime
