/-
The shutdown of a transport stream (`wss_gateway/mod.rs`, `iroh_adapter/mod.rs`: `WssTransportStream` and
`IrohTransportStream` have the same `shutdown`, and both gateways the same `finish_bridge_task`).

Two bridge tasks run until they finish, each with one decrement of `active_tasks`, and the one that takes it to zero with
one `notify_waiters`. Shutdown waits while the counter is above zero. Every load, every decrement, the creation of a
`Notified` and `notify_waiters` is one step, in any order between the tasks and the caller; `notify_waiters` wakes the
`Notified` that exists, if there is one, and is not remembered otherwise. The timeout polls the wait first, so that it
ends the wait only where it is pending.

- `inv_step`: the counter counts, and whoever waits is waiting for a task, where the `Notified` was created in time.
- `no_lost_wakeup_iff`: no run loses the wakeup exactly where it is always created before the last task is finished.
- `lost_stays_lost`: once it is lost, only the timeout is left.
- `wakeup_lost`: `notify_waiters` falls between the load and `notified()`.
-/
import N0wss.Core.Machine

namespace N0wss.Gateway.StreamShutdown

open Machine

/-! ## State -/

/-- where a bridge task stands in `finish_bridge_task` -/
inductive TaskPc where
  | bridging
  /-- its decrement was the last one, and `notify_waiters` is next -/
  | notifying
  | finished
deriving DecidableEq, Repr

inductive ShutdownError where
  | timeout
deriving DecidableEq, Repr

/-- where `shutdown` stands -/
inductive ShutdownPc where
  | called
  /-- the token is cancelled, and the stream is being shut down -/
  | closing
  | checking
  /-- at the condition of the loop, under the timeout -/
  | looping
  /-- the condition was true, and `notified()` is next -/
  | found
  | waiting (woken : Bool)
  | returned (result : Except ShutdownError Unit)
deriving Repr

structure St where
  activeTasks : ℕ
  cancelled : Bool
  tasks : List TaskPc
  shutdown : ShutdownPc
deriving Repr

/-- a stream with its two bridge tasks -/
def start : St := ⟨2, false, [.bridging, .bridging], .called⟩

inductive Op where
  /-- the task `i` goes on -/
  | task (i : ℕ)
  /-- `shutdown` goes on -/
  | shutdown
  /-- the time is up -/
  | timeout
deriving DecidableEq, Repr

/-! ## Steps -/

/-- `notify_waiters` -/
def ShutdownPc.notify : ShutdownPc → ShutdownPc
  | .waiting _ => .waiting true
  | pc => pc

def stepTask (s : St) (i : ℕ) : TaskPc → St
  | .bridging =>
    { s with activeTasks := s.activeTasks - 1
             tasks := s.tasks.set i (if s.activeTasks = 1 then .notifying else .finished) }
  | .notifying => { s with tasks := s.tasks.set i .finished, shutdown := s.shutdown.notify }
  | .finished => s

def stepShutdown (s : St) : St :=
  match s.shutdown with
  | .called => { s with cancelled := true, shutdown := .closing }
  | .closing => { s with shutdown := .checking }
  | .checking => { s with shutdown := if s.activeTasks = 0 then .returned (.ok ()) else .looping }
  | .looping => { s with shutdown := if 0 < s.activeTasks then .found else .returned (.ok ()) }
  | .found => { s with shutdown := .waiting false }
  | .waiting true => { s with shutdown := .looping }
  | .waiting false => s
  | .returned _ => s

def stepTimeout (s : St) : St :=
  match s.shutdown with
  | .waiting false => { s with shutdown := .returned (.error .timeout) }
  | _ => s

def step (s : St) : Op → St
  | .task i =>
    match s.tasks[i]? with
    | some pc => stepTask s i pc
    | none => s
  | .shutdown => stepShutdown s
  | .timeout => stepTimeout s

/-! ## Lost wakeups -/

/-- `shutdown` waits, both tasks are done with their decrement, and nobody is about to notify -/
def Lost (s : St) : Prop := s.activeTasks = 0 ∧ s.shutdown = .waiting false ∧ ∀ t ∈ s.tasks, t ≠ .notifying

/-- where the step ends the wait with a timeout, some task is not finished -/
def TimesOutInTime (s : St) (o : Op) : Prop :=
  o = .timeout → s.shutdown = .waiting false → ∃ t ∈ s.tasks, t ≠ .finished

/-- where the step creates the `Notified`, some task is not finished -/
def CreatesInTime (s : St) (o : Op) : Prop :=
  o = .shutdown → s.shutdown = .found → ∃ t ∈ s.tasks, t ≠ .finished

structure Inv (s : St) : Prop where
  counted : s.activeTasks = s.tasks.countP (· = .bridging)
  watched : s.shutdown = .waiting false → ∃ t ∈ s.tasks, t ≠ .finished

theorem inv_start : Inv start := ⟨by decide, fun h => by cases h⟩

theorem not_lost_of_inv {s : St} (h : Inv s) : ¬Lost s := by
  rintro ⟨hzero, hwaiting, hquiet⟩
  obtain ⟨t, ht, hunfinished⟩ := h.watched hwaiting
  have hcount : s.tasks.countP (· = .bridging) = 0 := by rw [← h.counted, hzero]
  have hbridging : t ≠ .bridging := by simpa using List.countP_eq_zero.1 hcount t ht
  cases t with
  | bridging => exact hbridging rfl
  | notifying => exact hquiet _ ht rfl
  | finished => exact hunfinished rfl

/-- a task that leaves its loop is one fewer in it; any other task that moves on changes nothing there -/
theorem countP_set_bridging {tasks : List TaskPc} {i : ℕ} {pc pc' : TaskPc} (hget : tasks[i]? = some pc)
    (hpc' : pc' ≠ .bridging) :
    (tasks.set i pc').countP (· = .bridging) = tasks.countP (· = .bridging) - if pc = .bridging then 1 else 0 := by
  obtain ⟨hi, hpc⟩ := List.getElem?_eq_some_iff.1 hget
  rw [List.countP_set hi, hpc]
  simp [hpc']

/-- where the decrement is not the last one, another task is still in its loop -/
theorem exists_other_bridging {tasks : List TaskPc} {i : ℕ} {pc' : TaskPc} (hget : tasks[i]? = some .bridging)
    (hpc' : pc' ≠ .bridging) (hmany : 1 < tasks.countP (· = .bridging)) : ∃ t ∈ tasks.set i pc', t ≠ .finished := by
  have hcount := countP_set_bridging hget hpc'
  have hpos : 0 < (tasks.set i pc').countP (· = .bridging) := by
    rw [hcount, if_pos rfl]
    omega
  obtain ⟨t, ht, hbridging⟩ := List.countP_pos_iff.1 hpos
  refine ⟨t, ht, ?_⟩
  rw [of_decide_eq_true hbridging]
  decide

theorem inv_stepTask {s : St} (h : Inv s) {i : ℕ} {pc : TaskPc} (hget : s.tasks[i]? = some pc) :
    Inv (stepTask s i pc) := by
  obtain ⟨hi, -⟩ := List.getElem?_eq_some_iff.1 hget
  cases pc with
  | bridging =>
    have hnew : (if s.activeTasks = 1 then TaskPc.notifying else .finished) ≠ .bridging := by split_ifs <;> decide
    refine ⟨?_, fun _ => ?_⟩
    · show s.activeTasks - 1 = (s.tasks.set i _).countP (· = .bridging)
      rw [countP_set_bridging hget hnew, h.counted, if_pos rfl]
    · -- the last one is about to notify; before it, another one is in its loop
      by_cases hlast : s.activeTasks = 1
      · refine ⟨.notifying, ?_, by decide⟩
        show TaskPc.notifying ∈ s.tasks.set i _
        rw [if_pos hlast]
        exact List.mem_iff_getElem.2 ⟨i, by simpa using hi, by simp⟩
      · have hpos : 0 < s.tasks.countP (· = .bridging) :=
          List.countP_pos_iff.2 ⟨_, List.mem_of_getElem? hget, by decide⟩
        have hcounted := h.counted
        exact exists_other_bridging hget hnew (by omega)
  | notifying =>
    refine ⟨?_, fun hwaiting => ?_⟩
    · show s.activeTasks = (s.tasks.set i .finished).countP (· = .bridging)
      rw [countP_set_bridging hget (by decide), h.counted, if_neg (by decide), Nat.sub_zero]
    · have hnotified : s.shutdown.notify = .waiting false := hwaiting
      cases hpc : s.shutdown <;> simp [hpc, ShutdownPc.notify] at hnotified
  | finished => exact h

theorem inv_stepShutdown {s : St} (h : Inv s) (hcreates : CreatesInTime s .shutdown) : Inv (stepShutdown s) := by
  unfold stepShutdown
  cases hpc : s.shutdown with
  | found => exact ⟨h.counted, fun _ => hcreates rfl hpc⟩
  | waiting woken =>
    cases woken with
    | false => exact h
    | true => exact ⟨h.counted, fun hw => by cases hw⟩
  | called => exact ⟨h.counted, fun hw => by cases hw⟩
  | closing => exact ⟨h.counted, fun hw => by cases hw⟩
  | checking => exact ⟨h.counted, fun hw => by simp only at hw; split_ifs at hw⟩
  | looping => exact ⟨h.counted, fun hw => by simp only at hw; split_ifs at hw⟩
  | returned result => exact h

theorem inv_stepTimeout {s : St} (h : Inv s) : Inv (stepTimeout s) := by
  unfold stepTimeout
  split
  · exact ⟨h.counted, fun hw => by cases hw⟩
  · exact h

/-- **One step** keeps whoever waits waiting for a task, where the `Notified` is created in time. -/
theorem inv_step {s : St} {o : Op} (h : Inv s) (hcreates : CreatesInTime s o) : Inv (step s o) := by
  cases o with
  | task i =>
    simp only [step]
    cases hget : s.tasks[i]? with
    | none => exact h
    | some pc => exact inv_stepTask h hget
  | shutdown => exact inv_stepShutdown h hcreates
  | timeout => exact inv_stepTimeout h

/-- a `Notified` that is created when every task is finished is lost -/
theorem lost_of_created_late {s : St} (h : Inv s) (hfound : s.shutdown = .found)
    (hfinished : ∀ t ∈ s.tasks, t = .finished) : Lost (step s .shutdown) := by
  have hwaits : step s .shutdown = { s with shutdown := .waiting false } := by
    simp only [step, stepShutdown, hfound]
  have hzero : s.activeTasks = 0 := by
    rw [h.counted, List.countP_eq_zero]
    intro t ht
    rw [hfinished t ht]
    decide
  rw [hwaits]
  refine ⟨hzero, rfl, fun t ht => ?_⟩
  rw [hfinished t ht]
  decide

theorem not_lost_step_iff {s : St} {o : Op} (h : Inv s) : ¬Lost (step s o) ↔ CreatesInTime s o := by
  constructor
  · rintro hlost rfl hfound
    by_contra hnone
    push Not at hnone
    exact hlost (lost_of_created_late h hfound hnone)
  · intro hcreates
    exact not_lost_of_inv (inv_step h hcreates)

/-- **No wakeup is lost, and no timeout comes after the last task,** exactly where every `Notified` is created before the
last task is finished: where `notify_waiters` does not fall between the load that finds the counter above zero and
`notified()`. -/
theorem no_lost_wakeup_iff (ops : List Op) :
    (AllStates step (fun s => ¬Lost s) start ops ∧ AllSteps step TimesOutInTime start ops) ↔
      AllSteps step CreatesInTime start ops := by
  have hlost : AllSteps step (fun s o => ¬Lost (step s o)) start ops ↔ AllSteps step CreatesInTime start ops :=
    allSteps_iff_of_step (fun _ _ => inv_step) (fun _ _ => not_lost_step_iff) inv_start
  rw [allStates_iff_allSteps, hlost]
  constructor
  · rintro ⟨⟨-, hcreates⟩, -⟩
    exact hcreates
  · intro hcreates
    refine ⟨⟨not_lost_of_inv inv_start, hcreates⟩, ?_⟩
    exact allSteps_of_inv (fun _ _ => inv_step) (fun _ _ h _ _ hwaiting => h.watched hwaiting) inv_start hcreates

/-! ## A lost wakeup -/

/-- nothing but the timeout ends a wait that is lost -/
theorem lost_stays_lost {s : St} (hcounted : s.activeTasks = s.tasks.countP (· = .bridging)) (h : Lost s) {o : Op}
    (ho : o ≠ .timeout) : step s o = s := by
  obtain ⟨hzero, hwaiting, hquiet⟩ := h
  cases o with
  | shutdown => simp only [step, stepShutdown, hwaiting]
  | timeout => exact absurd rfl ho
  | task i =>
    simp only [step]
    cases hget : s.tasks[i]? with
    | none => rfl
    | some pc =>
      have hmem := List.mem_of_getElem? hget
      have hbridging : pc ≠ .bridging := by
        have hnone := List.countP_eq_zero.1 (hcounted.symm.trans hzero) pc hmem
        simpa using hnone
      cases pc with
      | bridging => exact absurd rfl hbridging
      | notifying => exact absurd rfl (hquiet _ hmem)
      | finished => rfl

/-- the caller finds one task left; that task decrements and notifies; the caller creates its `Notified` -/
def lostRun : List Op :=
  [.shutdown, .shutdown, .shutdown, .task 0, .shutdown, .task 1, .task 1, .shutdown]

/-- **The wakeup is lost:** both tasks are finished, and `shutdown` waits until its timeout. -/
theorem wakeup_lost : ¬ ∀ ops, AllStates step (fun s => ¬Lost s) start ops ∧ AllSteps step TimesOutInTime start ops := by
  intro h
  have hlast := (h lostRun).1.last
  have hwaiting : (run step start lostRun).shutdown = .waiting false := rfl
  have htasks : (run step start lostRun).tasks = [.finished, .finished] := rfl
  refine hlast ⟨rfl, hwaiting, ?_⟩
  rw [htasks]
  decide

end N0wss.Gateway.StreamShutdown
