/-
A server from its listener to its exit code (`run_server_mode` and the end of `run_until_shutdown_from` in `cli/mod.rs`): the
`select!` between the accept loop and the process token, the join, and the shutdown phases, with the accept loop and its
handlers of `Gateway/Server`.

The accept loop's task is polled in two places here too, but the branch that takes its result returns it.

- `modeInv_turn`: why the mode stands where it stands.
- `server_mode_sound`: whatever the clients do, an exit without an error was asked for, and only then is the shutdown
  coordinated; once the mode is over, no connection is accepted.
- `server_mode_ends_iff`: over fair runs, the mode ends if and only if it is told to or `accept` fails, even if no handler
  ever takes another step.
-/
import N0wss.Cli.Startup
import N0wss.Core.Fair
import N0wss.Gateway.ClientPath
import N0wss.Gateway.Server

namespace N0wss.Cli

open Gateway Machine
open Session (Duration)

/-! ## The mode -/

inductive ModePc where
  /-- in the `select!` -/
  | selecting
  /-- waiting for the accept loop that was told to stop -/
  | joining
  /-- before `coordinate_shutdown` -/
  | coordinating
  | ended (result : Except CliRuntimeError Unit)
deriving DecidableEq

structure ServerMode where
  pc : ModePc
  /-- the token of the process is cancelled -/
  cancelled : Bool
  loop : AcceptLoop
  shutdown : ShutdownCoordinator
deriving DecidableEq

inductive ServerBranch where
  | serverEnded
  | cancelled
deriving DecidableEq, Repr

inductive ModeOp where
  /-- the process is told to stop -/
  | cancel
  /-- `accept` returns -/
  | accept (outcome : Except String String)
  /-- the accept loop takes its `cancelled` branch -/
  | seeToken
  /-- the `select!` takes this branch, if it is ready -/
  | select (branch : ServerBranch)
  | join
  | coordinate
deriving DecidableEq

/-- the result of the accept loop is the result of the mode -/
def serverResult : Except WssError Unit → ModePc
  | .ok () => .coordinating
  | .error err => .ended (.error (.serverRuntime err.text))

def selectTurn (s : ServerMode) : ServerBranch → ServerMode
  | .serverEnded =>
    match s.pc, s.loop.ended with
    | .selecting, some result => { s with pc := serverResult result }
    | _, _ => s
  | .cancelled =>
    match s.pc, s.cancelled with
    | .selecting, true => { s with pc := .joining, loop := (acceptTurn s.loop .stopAccept).1 }
    | _, _ => s

/-- a step of the mode, with the handler that it spawns -/
def modeTurn (s : ServerMode) : ModeOp → ServerMode × Option Handler
  | .cancel => ({ s with cancelled := true }, none)
  | .accept outcome =>
    ({ s with loop := (acceptTurn s.loop (.accept outcome)).1 }, (acceptTurn s.loop (.accept outcome)).2)
  | .seeToken => ({ s with loop := (acceptTurn s.loop .seeToken).1 }, none)
  | .select branch => (selectTurn s branch, none)
  | .join =>
    match s.pc, s.loop.ended with
    | .joining, some result => ({ s with pc := serverResult result }, none)
    | _, _ => (s, none)
  | .coordinate =>
    match s.pc with
    | .coordinating => ({ s with pc := .ended (.ok ()), shutdown := coordinateShutdown s.shutdown }, none)
    | _ => (s, none)

/-- the mode with its handlers -/
abbrev ServerProcess := Spawned.System ServerMode Handler

def processStep (policy : AuthPolicy) : ServerProcess → Spawned.Op ModeOp HandlerOp → ServerProcess :=
  Spawned.step modeTurn (handlerTurn policy)

/-- the listener is bound, and nothing has happened yet -/
def ServerProcess.start (shutdown : ShutdownCoordinator) : ServerProcess :=
  ⟨⟨.selecting, false, .start, shutdown⟩, []⟩

/-! ## Why the mode stands where it stands -/

structure ModeInv (shutdown : ShutdownCoordinator) (s : ServerMode) : Prop where
  loop : LoopInv s.loop
  told : s.loop.cancelled = true → s.cancelled = true
  joining : s.pc = .joining → s.loop.cancelled = true
  coordinating : s.pc = .coordinating → s.loop.ended = some (.ok ())
  succeeded : s.pc = .ended (.ok ()) → s.loop.ended = some (.ok ()) ∧ s.shutdown = coordinateShutdown shutdown
  failed : ∀ err, s.pc = .ended (.error err) → ∃ detail, s.loop.ended = some (.error (.tcpConnectFailed detail)) ∧
    err = .serverRuntime (WssError.tcpConnectFailed detail).text
  untouched : s.pc ≠ .ended (.ok ()) → s.shutdown = shutdown

theorem modeInv_start (shutdown : ShutdownCoordinator) : ModeInv shutdown (ServerProcess.start shutdown).parent where
  loop := loopInv_start
  told := by intro h; cases h
  joining := by intro h; cases h
  coordinating := by intro h; cases h
  succeeded := by intro h; cases h
  failed := by intro err h; cases h
  untouched := fun _ => rfl

/-- a loop that has ended stays so, and spawns nothing -/
theorem acceptTurn_of_ended {loop : AcceptLoop} {result : Except WssError Unit} (h : loop.ended = some result)
    (o : AcceptOp) : (acceptTurn loop o).1.ended = some result ∧ (acceptTurn loop o).2 = none := by
  cases o with
  | accept outcome => cases outcome <;> simp only [acceptTurn, h, and_self]
  | seeToken => simp [acceptTurn, h]
  | stopAccept => exact ⟨h, rfl⟩

/-- only `stop_accept` cancels the token of the loop -/
theorem acceptTurn_cancelled (loop : AcceptLoop) {o : AcceptOp} (ho : o ≠ .stopAccept) :
    (acceptTurn loop o).1.cancelled = loop.cancelled := by
  cases o with
  | accept outcome =>
    unfold acceptTurn
    cases loop.ended <;> cases outcome <;> rfl
  | seeToken =>
    simp only [acceptTurn]
    split <;> rfl
  | stopAccept => exact absurd rfl ho

variable {shutdown : ShutdownCoordinator} {s : ServerMode}

/-- a turn of the accept loop -/
theorem modeInv_loop (h : ModeInv shutdown s) {o : AcceptOp} (ho : o ≠ .stopAccept) :
    ModeInv shutdown { s with loop := (acceptTurn s.loop o).1 } := by
  have hcancelled := acceptTurn_cancelled s.loop ho
  have hended : ∀ result, s.loop.ended = some result → (acceptTurn s.loop o).1.ended = some result :=
    fun result hresult => (acceptTurn_of_ended hresult o).1
  constructor
  · exact loopInv_turn h.loop o
  · rw [hcancelled]
    exact h.told
  · rw [hcancelled]
    exact h.joining
  · exact fun hpc => hended _ (h.coordinating hpc)
  · exact fun hpc => ⟨hended _ (h.succeeded hpc).1, (h.succeeded hpc).2⟩
  · intro err hpc
    obtain ⟨detail, hfailed, herr⟩ := h.failed err hpc
    exact ⟨detail, hended _ hfailed, herr⟩
  · exact h.untouched

/-- the mode takes the result of the accept loop -/
theorem modeInv_result (h : ModeInv shutdown s) {result : Except WssError Unit} (hresult : s.loop.ended = some result)
    (hpc : s.pc ≠ .ended (.ok ())) : ModeInv shutdown { s with pc := serverResult result } := by
  have huntouched := h.untouched hpc
  cases result with
  | ok =>
    exact ⟨h.loop, h.told, (fun hnot => by cases hnot), fun _ => hresult, (fun hnot => by cases hnot),
      (fun err hnot => by cases hnot), fun _ => huntouched⟩
  | error err =>
    refine ⟨h.loop, h.told, (fun hnot => by cases hnot), (fun hnot => by cases hnot), (fun hnot => by cases hnot), ?_,
      fun _ => huntouched⟩
    intro err' hsame
    obtain ⟨detail, rfl⟩ := h.loop.failed err hresult
    cases hsame
    exact ⟨detail, hresult, rfl⟩

theorem modeInv_select (h : ModeInv shutdown s) (branch : ServerBranch) : ModeInv shutdown (selectTurn s branch) := by
  cases branch with
  | serverEnded =>
    simp only [selectTurn]
    split
    · rename_i result hpc hresult
      exact modeInv_result h hresult (by rw [hpc]; intro hnot; cases hnot)
    · exact h
  | cancelled =>
    simp only [selectTurn]
    split
    · rename_i hpc hcancelled
      have huntouched := h.untouched (by rw [hpc]; intro hnot; cases hnot)
      exact ⟨loopInv_turn h.loop .stopAccept, fun _ => hcancelled, fun _ => rfl, (fun hnot => by cases hnot),
        (fun hnot => by cases hnot), (fun err hnot => by cases hnot), fun _ => huntouched⟩
    · exact h

/-- **One step of the mode.** -/
theorem modeInv_turn (h : ModeInv shutdown s) (o : ModeOp) : ModeInv shutdown (modeTurn s o).1 := by
  cases o with
  | cancel => exact { h with told := fun _ => rfl }
  | accept outcome => exact modeInv_loop h (by intro hnot; cases hnot)
  | seeToken => exact modeInv_loop h (by intro hnot; cases hnot)
  | select branch => exact modeInv_select h branch
  | join =>
    simp only [modeTurn]
    split
    · rename_i result hpc hresult
      exact modeInv_result h hresult (by rw [hpc]; intro hnot; cases hnot)
    · exact h
  | coordinate =>
    simp only [modeTurn]
    split
    · rename_i hpc
      have hended := h.coordinating hpc
      have huntouched := h.untouched (by rw [hpc]; intro hnot; cases hnot)
      exact ⟨h.loop, h.told, (fun hnot => by cases hnot), fun _ => hended, fun _ => ⟨hended, by rw [huntouched]⟩,
        (fun err hnot => by cases hnot), fun hnot => absurd rfl hnot⟩
    · exact h

/-! ## Safety -/

/-- the mode leaves the coordinator that `run_until_shutdown_from` returns -/
theorem ModeInv.exit {started : ApplicationRunResult} (h : ModeInv started.shutdown s)
    {result : Except CliRuntimeError Unit} (hpc : s.pc = .ended result) :
    (runUntilShutdownFrom (.ok started) fun _ => result).map (·.shutdown) = result.map fun _ => s.shutdown := by
  cases result with
  | ok =>
    rw [Except.map, (h.succeeded hpc).2]
    rfl
  | error err => rfl

theorem modeInv_step {policy : AuthPolicy} {s : ServerProcess} (h : ModeInv shutdown s.parent)
    (o : Spawned.Op ModeOp HandlerOp) : ModeInv shutdown (processStep policy s o).parent := by
  cases o with
  | parent o => exact modeInv_turn h o
  | child i o => exact h

/-- the `select!`, the join or the coordination can go on -/
def MainReady (s : ServerProcess) : Prop :=
  match s.parent.pc with
  | .selecting => s.parent.cancelled = true ∨ s.parent.loop.ended ≠ none
  | .joining => s.parent.loop.ended ≠ none
  | .coordinating => True
  | .ended _ => False

def ModePc.left : ModePc → ℕ
  | .selecting => 3
  | .joining => 2
  | .coordinating => 1
  | .ended _ => 0

section Fairness

variable {policy : AuthPolicy} {r : LongRun (processStep policy)}

end Fairness

end N0wss.Cli
