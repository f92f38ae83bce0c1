/-
Cancellation of the transport selectors (`open_stream` in `session/transport_selector.rs`, `select_transport` and
`emit_outbound_datagram` in `session/datagram_transport_selector.rs`). Each checks its token once, and then waits in a
`select!` for the token or for an adapter under a timeout. The token may be cancelled between any two polls.

A turn is what runs without a break: the check, or one poll of one branch of the `select!`, with the arm it leads to. The
branches are polled in any order. An adapter starts when its branch is polled for the first time; what it then says is an
input, and so is the time. A timeout ends an attempt only where its adapter is polled first and still pending.

- `openStreamTurn_fine_iff`, `datagramTurn_fine_iff`: which turns after a cancellation are fine.
- `cancellation_reported_iff`: a cancelled call reports its cancellation, and starts nothing, exactly where it takes no
  other turn.
- `fallback_after_cancel`: the timeout of the first attempt is polled before the cancelled token, and the second attempt
  starts.
-/
import N0wss.Core.Cancellable
import N0wss.Session.Selector

namespace N0wss.Session.Cancellation

open Cancellable Datagram Machine

/-! ## Turns -/

/-- a branch of the `select!`: the token, or the adapter, which is pending or done -/
inductive Branch (τ : Type) where
  | token
  | adapter (outcome : Option (Except String τ))
deriving Repr

inductive Turn (τ : Type) where
  /-- the check of the token at the start -/
  | begin (now : Instant)
  | poll (branch : Branch τ) (now : Instant)
  /-- the safety timeout around the whole call -/
  | safety (now : Instant)
deriving Repr

/-- what a caller and an adapter see of a turn -/
inductive Did (ρ : Type) where
  | started
  | returned (result : ρ)
deriving Repr

/-- the adapter's branch is polled for the first time -/
def startedBy {τ ρ : Type} (started : Bool) : Branch τ → List (Did ρ)
  | .token => []
  | .adapter _ => if started then [] else [.started]

def Branch.isAdapter {τ : Type} : Branch τ → Bool
  | .token => false
  | .adapter _ => true

/-! ## Streams -/

inductive AttemptOutcome where
  | resolved (stream : TransportKind)
  | cancelled
  | failed (detail : String)
deriving DecidableEq, Repr

/-- one poll in `attempt_with_timeout`; an error is a cancellation if the token is cancelled, a timeout is not -/
def attemptWithTimeoutPoll (timeout : Duration) (cancelled : Bool) (deadline : Instant) (branch : Branch TransportKind)
    (now : Instant) : Option AttemptOutcome :=
  match branch with
  | .token => if cancelled then some .cancelled else none
  | .adapter (some (.ok stream)) => some (.resolved stream)
  | .adapter (some (.error err)) => some (if cancelled then .cancelled else .failed err)
  | .adapter none =>
    if deadline ≤ now then some (.failed ("timeout after " ++ toString (asMillis timeout) ++ "ms")) else none

inductive StreamPc where
  | called
  | iroh (started : Bool) (deadline : Instant)
  | wss (irohErr : String) (started : Bool) (deadline : Instant)
  | returned
deriving DecidableEq, Repr

structure OpenStream where
  pc : StreamPc
  safetyDeadline : Instant
deriving DecidableEq, Repr

abbrev StreamResult := Except TransportSelectError TransportKind

def OpenStream.return (s : OpenStream) (did : List (Did StreamResult)) (result : StreamResult) :
    OpenStream × List (Did StreamResult) :=
  ({ s with pc := .returned }, did ++ [.returned result])

/-- a poll of the first attempt -/
def irohPoll (config : TransportSelectorConfig) (cancelled : Bool) (s : OpenStream) (started : Bool) (deadline : Instant)
    (branch : Branch TransportKind) (now : Instant) : OpenStream × List (Did StreamResult) :=
  match attemptWithTimeoutPoll config.irohTimeout cancelled deadline branch now with
  | none => ({ s with pc := .iroh (started || branch.isAdapter) deadline }, startedBy started branch)
  | some (.resolved stream) => s.return (startedBy started branch) (.ok stream)
  | some .cancelled => s.return (startedBy started branch) (.error .cancelled)
  | some (.failed irohErr) => ({ s with pc := .wss irohErr false (now + config.wssTimeout) }, startedBy started branch)

/-- a poll of the second attempt -/
def wssPoll (config : TransportSelectorConfig) (cancelled : Bool) (s : OpenStream) (irohErr : String) (started : Bool)
    (deadline : Instant) (branch : Branch TransportKind) (now : Instant) : OpenStream × List (Did StreamResult) :=
  match attemptWithTimeoutPoll config.wssTimeout cancelled deadline branch now with
  | none => ({ s with pc := .wss irohErr (started || branch.isAdapter) deadline }, startedBy started branch)
  | some (.resolved stream) => s.return (startedBy started branch) (.ok stream)
  | some .cancelled => s.return (startedBy started branch) (.error .cancelled)
  | some (.failed wssErr) => s.return (startedBy started branch) (.error (.allFailed (some irohErr) (some wssErr)))

/-- `open_stream` -/
def openStreamTurn (config : TransportSelectorConfig) (cancelled : Bool) (s : OpenStream) :
    Turn TransportKind → OpenStream × List (Did StreamResult)
  | .begin now =>
    match s.pc with
    | .called =>
      if cancelled then s.return [] (.error .cancelled)
      else (⟨.iroh false (now + config.irohTimeout), now + config.safetyTimeout⟩, [])
    | _ => (s, [])
  | .poll branch now =>
    match s.pc with
    | .iroh started deadline => irohPoll config cancelled s started deadline branch now
    | .wss irohErr started deadline => wssPoll config cancelled s irohErr started deadline branch now
    | _ => (s, [])
  | .safety now =>
    match s.pc with
    | .iroh _ _ | .wss _ _ _ => if s.safetyDeadline ≤ now then s.return [] (.error .contractViolation) else (s, [])
    | _ => (s, [])

def openStreamCall : OpenStream := ⟨.called, 0⟩

/-- no attempt, and no failure but the cancellation and the safety timeout -/
def StreamFine : Did StreamResult → Prop
  | .started => False
  | .returned (.ok _) => True
  | .returned (.error err) => err = .cancelled ∨ err = .contractViolation

/-- the turns of a cancelled `open_stream` that are fine: an adapter's branch is polled only if the adapter has started,
and in the second attempt not past its deadline while the adapter is pending -/
def StreamTurnFine (s : OpenStream) : Turn TransportKind → Prop
  | .poll (.adapter outcome) now =>
    match s.pc with
    | .iroh started _ => started = true
    | .wss _ started deadline => started = true ∧ (outcome = none → now < deadline)
    | _ => True
  | _ => True

theorem startedBy_fine_iff {started : Bool} {outcome : Option (Except String TransportKind)} :
    (∀ e ∈ startedBy started (.adapter outcome), StreamFine e) ↔ started = true := by
  cases started <;> simp [startedBy, StreamFine]

/-- the first attempt's timeout starts nothing by itself -/
theorem irohPoll_fine_iff (config : TransportSelectorConfig) (safetyDeadline : Instant) (started : Bool)
    (deadline : Instant) (outcome : Option (Except String TransportKind)) (now : Instant) :
    (∀ e ∈ (irohPoll config true ⟨.iroh started deadline, safetyDeadline⟩ started deadline (.adapter outcome) now).2,
      StreamFine e) ↔ started = true := by
  rcases outcome with _ | err | stream
  · by_cases hexpired : deadline ≤ now <;> simp only [irohPoll, attemptWithTimeoutPoll, hexpired, if_true, if_false] <;>
      exact startedBy_fine_iff
  all_goals
    simp only [irohPoll, attemptWithTimeoutPoll, OpenStream.return, if_true, List.forall_mem_append, startedBy_fine_iff]
    exact and_iff_left (by simp [StreamFine])

theorem wssPoll_fine_iff (config : TransportSelectorConfig) (safetyDeadline : Instant) (irohErr : String) (started : Bool)
    (deadline : Instant) (outcome : Option (Except String TransportKind)) (now : Instant) :
    (∀ e ∈ (wssPoll config true ⟨.wss irohErr started deadline, safetyDeadline⟩ irohErr started deadline
      (.adapter outcome) now).2, StreamFine e) ↔ started = true ∧ (outcome = none → now < deadline) := by
  rcases outcome with _ | err | stream
  · by_cases hexpired : deadline ≤ now
    · -- the timeout is reported, whatever the token says
      simp only [wssPoll, attemptWithTimeoutPoll, OpenStream.return, hexpired, if_true, List.forall_mem_append]
      refine iff_of_false (fun h => ?_) (fun h => Nat.not_lt.2 hexpired (h.2 trivial))
      simpa [StreamFine] using h.2
    · simp only [wssPoll, attemptWithTimeoutPoll, hexpired, if_false, startedBy_fine_iff]
      exact (and_iff_left fun _ => Nat.lt_of_not_le hexpired).symm
  all_goals
    simp only [wssPoll, attemptWithTimeoutPoll, OpenStream.return, if_true, List.forall_mem_append, startedBy_fine_iff]
    simp [StreamFine]

/-- **Streams, one turn.** -/
theorem openStreamTurn_fine_iff (config : TransportSelectorConfig) (s : OpenStream) (turn : Turn TransportKind) :
    (∀ e ∈ (openStreamTurn config true s turn).2, StreamFine e) ↔ StreamTurnFine s turn := by
  obtain ⟨pc, safetyDeadline⟩ := s
  cases turn with
  | begin now => cases pc <;> simp [openStreamTurn, StreamTurnFine, OpenStream.return, StreamFine]
  | safety now =>
    by_cases hexpired : safetyDeadline ≤ now <;> cases pc <;>
      simp [openStreamTurn, StreamTurnFine, OpenStream.return, StreamFine, hexpired]
  | poll branch now =>
    cases branch with
    | token =>
      cases pc <;> simp [openStreamTurn, StreamTurnFine, irohPoll, wssPoll, attemptWithTimeoutPoll, OpenStream.return,
        startedBy, StreamFine]
    | adapter outcome =>
      cases pc with
      | called => simp [openStreamTurn, StreamTurnFine]
      | returned => simp [openStreamTurn, StreamTurnFine]
      | iroh started deadline => exact irohPoll_fine_iff config safetyDeadline started deadline outcome now
      | wss irohErr started deadline => exact wssPoll_fine_iff config safetyDeadline irohErr started deadline outcome now

/-! ## Datagrams -/

inductive DatagramPc where
  | called
  | attempt (started : Bool) (deadline : Instant)
  | returned
deriving DecidableEq, Repr

abbrev DatagramResult := Except DatagramTransportSelectError DatagramTransportResolution

/-- one poll of the `select!` of a datagram function; neither an error nor a timeout is compared with the token -/
def datagramPoll (wssTimeout : Duration) (associationId : DatagramAssociationId) (cancelled started : Bool)
    (deadline : Instant) (branch : Branch Unit) (now : Instant) : DatagramPc × List (Did DatagramResult) :=
  match branch with
  | .token => if cancelled then (.returned, [.returned (.error .cancelled)]) else (.attempt started deadline, [])
  | .adapter (some result) =>
    (.returned, startedBy started branch ++ [.returned (emissionResult wssTimeout associationId (some result))])
  | .adapter none =>
    if deadline ≤ now then
      (.returned, startedBy started branch ++ [.returned (emissionResult wssTimeout associationId none)])
    else (.attempt true deadline, startedBy started branch)

def datagramTurn (wssTimeout : Duration) (associationId : DatagramAssociationId) (cancelled : Bool) (pc : DatagramPc) :
    Turn Unit → DatagramPc × List (Did DatagramResult)
  | .begin now =>
    match pc with
    | .called =>
      if cancelled then (.returned, [.returned (.error .cancelled)]) else (.attempt false (now + wssTimeout), [])
    | _ => (pc, [])
  | .poll branch now =>
    match pc with
    | .attempt started deadline => datagramPoll wssTimeout associationId cancelled started deadline branch now
    | _ => (pc, [])
  | .safety _ => (pc, [])

/-- `select_transport`; the adapter is `open_path` -/
def selectTransportTurn (wssTimeout : Duration) (associationId : DatagramAssociationId) :
    Bool → DatagramPc → Turn Unit → DatagramPc × List (Did DatagramResult) :=
  datagramTurn wssTimeout associationId

/-- `emit_outbound_datagram`; the adapter is `emit_datagram` -/
def emitOutboundDatagramTurn (wssTimeout : Duration) (envelope : DatagramEnvelope) :
    Bool → DatagramPc → Turn Unit → DatagramPc × List (Did DatagramResult) :=
  datagramTurn wssTimeout envelope.associationId

/-- no attempt, and no failure but the cancellation -/
def DatagramFine : Did DatagramResult → Prop
  | .started => False
  | .returned (.ok _) => True
  | .returned (.error err) => err = .cancelled

/-- the turns of a cancelled datagram function that are fine: an adapter's branch is polled only if the adapter has
started, and then not to an error, and not past its deadline while the adapter is pending -/
def DatagramTurnFine (pc : DatagramPc) : Turn Unit → Prop
  | .poll (.adapter outcome) now =>
    match pc with
    | .attempt started deadline =>
      started = true ∧ (∀ err, outcome ≠ some (.error err)) ∧ (outcome = none → now < deadline)
    | _ => True
  | _ => True

theorem datagramPoll_fine_iff (wssTimeout : Duration) (associationId : DatagramAssociationId) (started : Bool)
    (deadline : Instant) (outcome : Option (Except String Unit)) (now : Instant) :
    (∀ e ∈ (datagramPoll wssTimeout associationId true started deadline (.adapter outcome) now).2, DatagramFine e) ↔
      started = true ∧ (∀ err, outcome ≠ some (.error err)) ∧ (outcome = none → now < deadline) := by
  have hstarted : (∀ e ∈ startedBy (ρ := DatagramResult) started (.adapter outcome), DatagramFine e) ↔
      started = true := by
    cases started <;> simp [startedBy, DatagramFine]
  rcases outcome with _ | err | ⟨⟨⟩⟩
  · by_cases hexpired : deadline ≤ now
    · simp only [datagramPoll, hexpired, if_true, List.forall_mem_append, hstarted]
      refine iff_of_false (fun h => ?_) (fun h => Nat.not_lt.2 hexpired (h.2.2 trivial))
      simpa [DatagramFine, emissionResult] using h.2
    · simp only [datagramPoll, hexpired, if_false, hstarted]
      have hnone : ∀ err, (none : Option (Except String Unit)) ≠ some (.error err) := fun err => by simp
      exact (and_iff_left ⟨hnone, fun _ => Nat.lt_of_not_le hexpired⟩).symm
  · simp only [datagramPoll, List.forall_mem_append, hstarted]
    refine and_congr_right fun _ => iff_of_false (fun h => ?_) (fun h => h.1 err rfl)
    simp [DatagramFine, emissionResult] at h
  · simp only [datagramPoll, List.forall_mem_append, hstarted]
    refine and_congr_right fun _ => iff_of_true (by simp [DatagramFine, emissionResult]) ⟨?_, ?_⟩
    · intro err h
      cases h
    · intro h
      cases h

/-- **Datagrams, one turn.** -/
theorem datagramTurn_fine_iff (wssTimeout : Duration) (associationId : DatagramAssociationId) (pc : DatagramPc)
    (turn : Turn Unit) :
    (∀ e ∈ (datagramTurn wssTimeout associationId true pc turn).2, DatagramFine e) ↔ DatagramTurnFine pc turn := by
  cases turn with
  | begin now => cases pc <;> simp [datagramTurn, DatagramTurnFine, DatagramFine]
  | safety now => simp [datagramTurn, DatagramTurnFine]
  | poll branch now =>
    cases branch with
    | token => cases pc <;> simp [datagramTurn, DatagramTurnFine, datagramPoll, DatagramFine]
    | adapter outcome =>
      cases pc with
      | called => simp [datagramTurn, DatagramTurnFine]
      | returned => simp [datagramTurn, DatagramTurnFine]
      | attempt started deadline =>
        exact datagramPoll_fine_iff wssTimeout associationId started deadline outcome now

/-! ## Runs -/

/-- the step takes a turn of this kind, if the call is cancelled -/
def AfterCancel {σ ε τ : Type} (fine : σ → Turn τ → Prop) (s : Call σ ε) : Op (Turn τ) → Prop
  | .cancel => True
  | .turn turn => s.cancelled = true → fine s.pc turn

theorem respects_iff_afterCancel {σ ε τ : Type} {turn : Bool → σ → Turn τ → σ × List ε} {fine : ε → Prop}
    {turnFine : σ → Turn τ → Prop} (h : ∀ pc o, (∀ e ∈ (turn true pc o).2, fine e) ↔ turnFine pc o) (pc : σ)
    (ops : List (Op (Turn τ))) :
    AllStates (step turn) (fun s => Respects fine s.log) (start pc) ops ↔
      AllSteps (step turn) (AfterCancel turnFine) (start pc) ops := by
  have hfine : TurnsFine turn fine = AfterCancel turnFine := by
    funext s o
    cases o with
    | cancel => rfl
    | turn o => exact propext (imp_congr_right fun _ => h s.pc o)
  rw [respects_iff, hfine]

/-- **A cancellation is reported,** and nothing starts after it, in every run of the three functions exactly where a
cancelled call takes only these turns. -/
theorem cancellation_reported_iff (config : TransportSelectorConfig) (wssTimeout : Duration)
    (associationId : DatagramAssociationId) (envelope : DatagramEnvelope) (ops : List (Op (Turn TransportKind)))
    (datagramOps : List (Op (Turn Unit))) :
    (AllStates (step (openStreamTurn config)) (fun s => Respects StreamFine s.log) (start openStreamCall) ops ↔
        AllSteps (step (openStreamTurn config)) (AfterCancel StreamTurnFine) (start openStreamCall) ops) ∧
      (AllStates (step (selectTransportTurn wssTimeout associationId)) (fun s => Respects DatagramFine s.log)
          (start .called) datagramOps ↔
        AllSteps (step (selectTransportTurn wssTimeout associationId)) (AfterCancel DatagramTurnFine) (start .called)
          datagramOps) ∧
      (AllStates (step (emitOutboundDatagramTurn wssTimeout envelope)) (fun s => Respects DatagramFine s.log)
          (start .called) datagramOps ↔
        AllSteps (step (emitOutboundDatagramTurn wssTimeout envelope)) (AfterCancel DatagramTurnFine) (start .called)
          datagramOps) :=
  ⟨respects_iff_afterCancel (openStreamTurn_fine_iff config) openStreamCall ops,
    respects_iff_afterCancel (datagramTurn_fine_iff wssTimeout associationId) .called datagramOps,
    respects_iff_afterCancel (datagramTurn_fine_iff wssTimeout envelope.associationId) .called datagramOps⟩

/-- the token is cancelled in the 50ms of the first attempt, whose timeout is polled before the token: the second attempt
starts; a datagram's timeout is reported in the same way -/
theorem fallback_after_cancel :
    ¬ AllStates (step (openStreamTurn ⟨50000000, 50000000, 1000000000⟩)) (fun s => Respects StreamFine s.log)
        (start openStreamCall)
        [.turn (.begin 0), .turn (.poll (.adapter none) 0), .cancel, .turn (.poll (.adapter none) 50000000),
          .turn (.poll (.adapter none) 50000000)] ∧
      ¬ AllStates (step (selectTransportTurn 50000000 7)) (fun s => Respects DatagramFine s.log) (start .called)
        [.turn (.begin 0), .turn (.poll (.adapter none) 0), .cancel, .turn (.poll (.adapter none) 50000000)] := by
  constructor
  · intro h
    have hstarted : StreamFine .started := h.2.2.2.2.2 .started List.mem_cons_self
    exact hstarted
  · intro h
    have hreported := h.2.2.2.2 (.returned (.error (.wssTimeout 50))) List.mem_cons_self
    cases hreported

end N0wss.Session.Cancellation
