/-
Closed is final, as far as it is: overlapping calls on one session and the effects they apply late.

A graceful close of streams writes "closing" into the record whatever it finds there. Emitted by a transition from
active, it may be applied after another call's deadline event has closed the record, as long as that call has not yet
removed the session; and a third call may then close the session a second time.

- `forward_iff`: one step goes forward along active < closing < closed exactly when it does not do that.
- `ClosedOnce`, `closedOnce_step`: session-closed metrics, emitted and on their way, add up to at most one, and to none
  while the record is not closed.
- `closed_is_final_iff`: over runs. No step goes back and at most one session-closed metric is emitted exactly when no
  graceful close is applied to a registered session whose record is closed.
- `closed_reopened`: a run that reopens a closed session and reports its end twice.
-/
import N0wss.Session.Interleaving

namespace N0wss.Session.Finality

open Machine SessionManager Interleaving

variable (id : SessionId) (idle : Duration)

/-! ## Steps -/

/-- the effect a call applies in its next step -/
def nextEffect : Call → Option SessionEffect
  | .event (.apply _ (ef :: _)) => some ef
  | .resolve _ (.apply _ (ef :: _)) => some ef
  | _ => none

/-- the step takes the record no way back along active < closing < closed -/
def Forward (s : St) (o : Op) : Prop := s.shared.record.state.rank ≤ (step id idle s o).shared.record.state.rank

/-- the step applies no graceful close of streams to a registered session whose record is closed -/
def NoReopening (s : St) : Op → Prop
  | .step i _ =>
    s.calls[i]?.bind nextEffect = some (.registry (.closeStreams id true)) → s.shared.registered = true →
      s.shared.record.state ≠ .closed
  | _ => True

/-- session-closed metrics emitted -/
def emittedClosed (s : Shared) : ℕ := s.metrics.countP MetricEvent.isSessionClosed

/-- session-closed metrics a call has still to emit -/
def pendingClosed : Call → ℕ
  | .event (.apply _ pending) => closedMetrics pending
  | .resolve _ (.apply _ pending) => closedMetrics pending
  | _ => 0

/-- session-closed metrics emitted or on their way -/
def allClosed (s : St) : ℕ := emittedClosed s.shared + (s.calls.map pendingClosed).sum

/-- an effect moves the record forward, but for a graceful close of a registered, closed session -/
theorem applyEffect_rank (now : Instant) (s : Shared) (ef : SessionEffect) :
    s.record.state.rank ≤ (applyEffect id now s ef).record.state.rank ↔
      (ef = .registry (.closeStreams id true) → s.registered = true → s.record.state ≠ .closed) := by
  cases ef with
  | registry c =>
    cases c with
    | markNoNewStreams id' => simp only [applyEffect]; split_ifs <;> simp
    | closeStreams id' g =>
      have hle := s.record.state.rank_le
      simp only [applyEffect]
      split_ifs with h
      · obtain ⟨hreg, rfl⟩ := h
        cases g with
        | false => simp [hle]
        | true =>
          simp only [SessionRecord.state_closeStreams_graceful, SessionState.rank_closing, hreg, forall_const]
          constructor
          · intro hrank hclosed
            rw [hclosed, SessionState.rank_closed] at hrank
            omega
          · intro hne
            by_contra hrank
            exact hne (SessionState.eq_closed_of_rank (by omega))
      · simp only [le_refl, SessionEffect.registry.injEq, RegistryCommand.closeStreams.injEq, true_iff]
        rintro ⟨rfl, -⟩ hreg
        exact absurd ⟨hreg, rfl⟩ h
    | remove id' => simp only [applyEffect]; split_ifs <;> simp
  | timer c => simp [applyEffect]
  | metric ev => simp [applyEffect]

theorem stepEvent_rank (now : Instant) (s : Shared) (pc : EventPc) :
    s.record.state.rank ≤ (stepEvent id idle now s pc).1.record.state.rank ↔
      (nextEffect (.event pc) = some (.registry (.closeStreams id true)) → s.registered = true →
        s.record.state ≠ .closed) := by
  cases pc with
  | lookup e => simp [stepEvent, nextEffect]
  | record e => simp [stepEvent, nextEffect, transition_rank]
  | apply section' pending =>
    cases pending with
    | nil => simp [stepEvent, nextEffect]
    | cons ef pending => simpa [stepEvent, nextEffect] using applyEffect_rank id now s ef
  | returned section' result => simp [stepEvent, nextEffect]

theorem stepCall_rank (now : Instant) (s : Shared) (call : Call) :
    s.record.state.rank ≤ (stepCall id idle now s call).1.record.state.rank ↔
      (nextEffect call = some (.registry (.closeStreams id true)) → s.registered = true →
        s.record.state ≠ .closed) := by
  have hle := s.record.state.rank_le
  cases call with
  | event pc => exact stepEvent_rank id idle now s pc
  | resolve kind pc =>
    have hsame : nextEffect (.resolve kind pc) = nextEffect (.event pc) := by
      cases pc with
      | apply section' pending => cases pending <;> rfl
      | _ => rfl
    rw [hsame]
    exact stepEvent_rank id idle now s pc
  | close held => cases held <;> simp [stepCall, nextEffect, SessionRecord.shutDown, hle]
  | _ => simp [stepCall, nextEffect]

/-- **One step.** It goes forward exactly when it reopens nothing. -/
theorem forward_iff (s : St) (o : Op) : Forward id idle s o ↔ NoReopening id s o := by
  cases o with
  | step i now =>
    cases hcall : s.calls[i]? with
    | none => simp [Forward, NoReopening, step, hcall]
    | some call =>
      simp only [Forward, NoReopening, step, hcall, Option.bind_some]
      exact stepCall_rank id idle now s.shared call
  | opened i outcome =>
    simp only [Forward, NoReopening, step, iff_true]
    split <;> exact le_rfl
  | _ => simp [Forward, NoReopening, step]

/-! ## At most one session-closed metric -/

theorem applyEffect_emittedClosed (now : Instant) (s : Shared) (ef : SessionEffect) :
    emittedClosed (applyEffect id now s ef) = emittedClosed s + if ef.isSessionClosed then 1 else 0 := by
  cases ef with
  | registry c =>
    cases c <;> simp only [applyEffect] <;> split_ifs <;> simp_all [emittedClosed, SessionEffect.isSessionClosed]
  | timer c => simp [applyEffect, emittedClosed, SessionEffect.isSessionClosed]
  | metric ev =>
    simp only [applyEffect, emittedClosed, List.countP_append, List.countP_singleton]
    rfl

/-- a step of a `handle_event` call adds to the session-closed metrics only where its record section closes the
session -/
theorem stepEvent_closed (now : Instant) (s : Shared) (pc : EventPc) :
    ∃ δ, emittedClosed (stepEvent id idle now s pc).1 + pendingClosed (.event (stepEvent id idle now s pc).2) =
        emittedClosed s + pendingClosed (.event pc) + δ ∧
      (δ = 0 ∨ δ = 1 ∧ s.record.state ≠ .closed ∧ (stepEvent id idle now s pc).1.record.state = .closed) := by
  cases pc with
  | lookup e =>
    refine ⟨0, ?_, Or.inl rfl⟩
    cases hr : s.registered <;> simp [stepEvent, pendingClosed, hr]
  | record e =>
    have hcount := closedMetrics_transition id idle s.record.state e
    by_cases hcloses : s.record.state ≠ .closed ∧ (s.record.state.transition id e idle).1 = .closed
    · rw [if_pos hcloses] at hcount
      refine ⟨1, ?_, Or.inr ⟨rfl, hcloses.1, hcloses.2⟩⟩
      simp [stepEvent, pendingClosed, hcount, emittedClosed]
    · rw [if_neg hcloses] at hcount
      refine ⟨0, ?_, Or.inl rfl⟩
      simp [stepEvent, pendingClosed, hcount, emittedClosed]
  | apply section' pending =>
    refine ⟨0, ?_, Or.inl rfl⟩
    cases pending with
    | nil => simp [stepEvent, pendingClosed]
    | cons ef pending =>
      have hem := applyEffect_emittedClosed id now s ef
      simp only [stepEvent, pendingClosed, closedMetrics_cons] at hem ⊢
      omega
  | returned section' result => exact ⟨0, rfl, Or.inl rfl⟩

theorem stepCall_closed (now : Instant) (s : Shared) (call : Call) :
    ∃ δ, emittedClosed (stepCall id idle now s call).1 + pendingClosed (stepCall id idle now s call).2 =
        emittedClosed s + pendingClosed call + δ ∧
      (δ = 0 ∨ δ = 1 ∧ s.record.state ≠ .closed ∧ (stepCall id idle now s call).1.record.state = .closed) := by
  cases call with
  | event pc => exact stepEvent_closed id idle now s pc
  | resolve kind pc =>
    have hsame : ∀ pc, pendingClosed (.resolve kind pc) = pendingClosed (.event pc) := fun pc => by cases pc <;> rfl
    simp only [stepCall, hsame]
    exact stepEvent_closed id idle now s pc
  | resolveLookup =>
    refine ⟨0, ?_, Or.inl rfl⟩
    cases hr : s.registered <;> simp [stepCall, pendingClosed, hr]
  | resolveSnapshot =>
    refine ⟨0, ?_, Or.inl rfl⟩
    cases hr : s.record.acceptingNewStreams <;> simp [stepCall, pendingClosed, hr]
  | close held => cases held <;> exact ⟨0, rfl, Or.inl rfl⟩
  | _ => exact ⟨0, rfl, Or.inl rfl⟩

theorem openCall_pendingClosed (outcome : Except TransportSelectError TransportKind) (call : Call) :
    pendingClosed (openCall outcome call) = pendingClosed call := by
  cases call with
  | resolveOpening => cases outcome <;> rfl
  | _ => rfl

/-- at most one session-closed metric is emitted or on its way, and only of a session whose record is closed -/
structure ClosedOnce (s : St) : Prop where
  once : allClosed s ≤ 1
  closed : 0 < allClosed s → s.shared.record.state = .closed

/-- a step that leaves the record alone and moves no session-closed metric -/
theorem ClosedOnce.of_same {s s' : St} (h : ClosedOnce s) (hshared : s'.shared = s.shared)
    (htotal : allClosed s' = allClosed s) : ClosedOnce s' where
  once := by rw [htotal]; exact h.once
  closed hpos := by rw [hshared]; exact h.closed (htotal ▸ hpos)

theorem closedOnce_init (request : SessionRequest) : ClosedOnce (init request) := by
  refine ⟨?_, ?_⟩ <;> simp [allClosed, emittedClosed, init]

theorem closedOnce_step (s : St) (o : Op) (h : ClosedOnce s) (hno : NoReopening id s o) :
    ClosedOnce (step id idle s o) := by
  have hstart : ∀ call, pendingClosed call = 0 → ClosedOnce { s with calls := s.calls ++ [call] } := by
    intro call hcall
    exact h.of_same rfl (by simp [allClosed, hcall])
  cases o with
  | handleEvent e => exact hstart _ rfl
  | resolveStream => exact hstart _ rfl
  | shutdown => exact hstart _ rfl
  | opened i outcome =>
    simp only [step]
    cases hcall : s.calls[i]? with
    | none => exact h
    | some call =>
      have hsum := sum_map_set pendingClosed hcall (openCall outcome call)
      rw [openCall_pendingClosed] at hsum
      refine h.of_same rfl ?_
      simp only [allClosed]
      omega
  | step i now =>
    have hforward := (forward_iff id idle s (.step i now)).2 hno
    simp only [Forward, step] at hforward
    simp only [step]
    cases hcall : s.calls[i]? with
    | none => exact h
    | some call =>
      rw [hcall] at hforward
      simp only at hforward ⊢
      obtain ⟨δ, htotal, hδ⟩ := stepCall_closed id idle now s.shared call
      have hsum := sum_map_set pendingClosed hcall (stepCall id idle now s.shared call).2
      have hall : allClosed ⟨(stepCall id idle now s.shared call).1,
          s.calls.set i (stepCall id idle now s.shared call).2⟩ = allClosed s + δ := by
        simp only [allClosed]; omega
      -- once counted, the record is closed, and a closed record stays closed
      have hstays : s.shared.record.state = .closed →
          (stepCall id idle now s.shared call).1.record.state = .closed := fun hclosed => by
        rw [hclosed, SessionState.rank_closed] at hforward
        exact SessionState.eq_closed_of_rank hforward
      have honce := h.once
      rcases hδ with rfl | ⟨rfl, hopen, hcloses⟩
      · exact ⟨by omega, fun hpos => hstays (h.closed (by omega))⟩
      · have hzero : allClosed s = 0 := by
          by_contra hne
          exact hopen (h.closed (Nat.pos_of_ne_zero hne))
        exact ⟨by omega, fun _ => hcloses⟩

/-! ## Main result -/

/-- **Closed is final.** In every run of overlapping calls on one session: no step takes the record back along active <
closing < closed and at most one session-closed metric is emitted, if and only if no step applies a graceful close of
streams to the session while it is registered and its record is closed. -/
theorem closed_is_final_iff (request : SessionRequest) (ops : List Op) :
    AllSteps (step id idle) (Forward id idle) (init request) ops ∧
        AllStates (step id idle) (fun s => emittedClosed s.shared ≤ 1) (init request) ops ↔
      AllSteps (step id idle) (NoReopening id) (init request) ops := by
  constructor
  · rintro ⟨hforward, -⟩
    exact hforward.imp fun s o h => (forward_iff id idle s o).1 h
  · intro hno
    refine ⟨hno.imp fun s o h => (forward_iff id idle s o).2 h, ?_⟩
    have honce : ∀ s, ClosedOnce s → emittedClosed s.shared ≤ 1 := fun s h => (Nat.le_add_right _ _).trans h.once
    exact allStates_of_inv (closedOnce_step id idle) honce (closedOnce_init request) hno

/-- a drain and a deadline, overlapping: the drain's graceful close comes after the deadline closed the record and
before it removes the session; then a second deadline -/
def drainRace : List Op :=
  [.handleEvent (.drainRequested 60), .handleEvent .deadlineReached, .handleEvent .deadlineReached,
    -- the drain writes closing; both deadline calls hold their handles
    .step 0 1, .step 0 1, .step 1 2, .step 2 2,
    -- the first deadline writes closed, and its forced close is applied
    .step 1 3, .step 1 3,
    -- the drain's two registry commands are applied
    .step 0 4, .step 0 4,
    -- the second deadline finds the record closing again
    .step 2 5, .step 2 5, .step 2 5, .step 2 5, .step 2 5, .step 2 5,
    .step 1 6, .step 1 6, .step 1 6]

/-- **Closed is not final.** The record goes from closed back to closing, and two session-closed metrics are emitted for
one session. -/
theorem closed_reopened :
    let s0 := init ⟨0, "request-1"⟩
    (run (step 1 30) s0 (drainRace.take 9)).shared.record.state = .closed ∧
      (run (step 1 30) s0 (drainRace.take 11)).shared.record.state = .closing .drainShutdown 4 ∧
      emittedClosed (run (step 1 30) s0 drainRace).shared = 2 ∧
      ¬(AllSteps (step 1 30) (Forward 1 30) s0 drainRace ∧
        AllStates (step 1 30) (fun s => emittedClosed s.shared ≤ 1) s0 drainRace) := by
  have htwo : emittedClosed (run (step 1 30) (init ⟨0, "request-1"⟩) drainRace).shared = 2 := by decide
  refine ⟨by decide, by decide, htwo, ?_⟩
  rintro ⟨-, hone⟩
  have := hone.last
  omega

end N0wss.Session.Finality
