/-
Which streams `resolve_stream` hands out, among overlapping calls on one session.

Admission is decided by reading `accepting_new_streams` before the transport is opened; the stream is counted by a
stream-open event after. Between the two any number of other calls may go by, and the state machine ignores the event
outside an active session, without a word to the caller.

- `counted_transition_iff`: what one record section must find for its stream to be counted.
- `allCallsCounted_step`: what every step keeps where the sections find that.
- `uncountedCall_step`, `uncountedCall_returns`: a call past a section that did not count its stream stays so, and needs
  only go on to hand it out.
- `isActive_step_iff`: the steps that take the record out of the active state; none brings it back.
- `read_before`: a call that has come to its section read the flag before.
- `sectionsAdmit_iff_undisturbed`: the sections find the session active exactly when nothing comes between them and a
  read that did.
- `resolved_streams_accounted`: both directions over runs.
- `stream_on_draining_session`: a drain that comes while the transport opens.
-/
import N0wss.Session.Interleaving

namespace N0wss.Session.Admission

open Machine SessionManager Interleaving

variable (id : SessionId) (idle : Duration)

/-! ## Counted streams -/

/-- the record section found the session active and counted one stream more -/
def Counted : SessionState × SessionState → Prop
  | (.active t n, .active t' n') => t' = t ∧ n'.toNat = n.toNat + 1
  | _ => False

/-- a session in this state counts one stream more -/
def Admits : SessionState → Prop
  | .active _ n => Unsaturated n
  | _ => False

instance : (s : SessionState) → Decidable (Admits s)
  | .active _ n => inferInstanceAs (Decidable (Unsaturated n))
  | .closing _ _ | .closed => inferInstanceAs (Decidable False)

theorem counted_transition_iff (s : SessionState) :
    Counted (s, (s.transition id .streamOpened idle).1) ↔ Admits s := by
  cases s with
  | active t n => simp [Counted, Admits, saturatingSucc_toNat_iff]
  | closing r d => simp [Counted, Admits]
  | closed => simp [Counted, Admits]

/-- a `resolve_stream` call that has handed out a stream had it counted -/
def StreamCounted : Call → Prop
  | .resolve _ (.returned section' (.ok ())) => ∃ w ∈ section', Counted w
  | _ => True

/-- every stream handed out so far was counted -/
def AllCounted (s : St) : Prop := ∀ call ∈ s.calls, StreamCounted call

/-- where the step is the stream-open record section of a `resolve_stream` call, it finds the session active and its
counter not saturated -/
def SectionAdmits (s : St) : Op → Prop
  | .step i _ =>
    ∀ kind, s.calls[i]? = some (.resolve kind (.record .streamOpened)) → Admits s.shared.record.state
  | _ => True

/-- what a `resolve_stream` call carries through its stream-open event -/
def OpenCounted : EventPc → Prop
  | .lookup e => e = .streamOpened
  | .record e => e = .streamOpened
  | .apply section' _ => Counted section'
  | .returned section' (.ok ()) => ∃ w ∈ section', Counted w
  | .returned _ (.error _) => True

def CallCounted : Call → Prop
  | .resolve _ pc => OpenCounted pc
  | _ => True

theorem CallCounted.streamCounted {call : Call} (h : CallCounted call) : StreamCounted call := by
  cases call with
  | resolve kind pc =>
    cases pc with
    | returned section' result =>
      cases result with
      | ok u => exact h
      | error e => trivial
    | _ => trivial
  | _ => trivial

theorem stepEvent_openCounted (now : Instant) (s : Shared) {pc : EventPc} (h : OpenCounted pc)
    (hadmits : pc = .record .streamOpened → Admits s.record.state) : OpenCounted (stepEvent id idle now s pc).2 := by
  cases pc with
  | lookup e =>
    simp only [stepEvent]
    split_ifs
    · exact h
    · trivial
  | record e =>
    obtain rfl : e = .streamOpened := h
    exact (counted_transition_iff id idle _).2 (hadmits rfl)
  | apply section' pending =>
    cases pending with
    | nil => exact ⟨section', rfl, h⟩
    | cons ef pending => exact h
  | returned section' result => exact h

theorem stepCall_callCounted (now : Instant) (s : Shared) {call : Call} (h : CallCounted call)
    (hadmits : ∀ kind, call = .resolve kind (.record .streamOpened) → Admits s.record.state) :
    CallCounted (stepCall id idle now s call).2 := by
  cases call with
  | resolve kind pc => exact stepEvent_openCounted id idle now s h fun hpc => hadmits kind (by rw [hpc])
  | resolveTouch kind => exact rfl
  | resolveLookup => simp only [stepCall]; split_ifs <;> trivial
  | resolveSnapshot => simp only [stepCall]; split_ifs <;> trivial
  | close held => cases held <;> trivial
  | _ => trivial

/-- every call has counted, or is yet to count, its stream -/
def AllCallsCounted (s : St) : Prop := ∀ call ∈ s.calls, CallCounted call

theorem allCallsCounted_step (s : St) (o : Op) (h : AllCallsCounted s) (hadmits : SectionAdmits s o) :
    AllCallsCounted (step id idle s o) := by
  cases o with
  | handleEvent e => exact forall_mem_concat h trivial
  | resolveStream => exact forall_mem_concat h trivial
  | shutdown => exact forall_mem_concat h trivial
  | step i now =>
    simp only [step]
    cases hcall : s.calls[i]? with
    | none => exact h
    | some call =>
      apply forall_mem_set h i
      exact stepCall_callCounted id idle now s.shared (h call (List.mem_of_getElem? hcall)) fun kind hkind =>
        hadmits kind (hkind ▸ hcall)
  | opened i outcome =>
    simp only [step]
    cases hcall : s.calls[i]? with
    | none => exact h
    | some call =>
      have hold := h call (List.mem_of_getElem? hcall)
      apply forall_mem_set h i
      cases call with
      | resolveOpening => cases outcome <;> trivial
      | _ => exact hold

/-! ## An uncounted stream is handed out -/

/-- call `i` is past its record section, which did not count its stream -/
def UncountedCall (s : St) (i : ℕ) : Prop :=
  ∃ kind w, ¬Counted w ∧
    ((∃ pending, s.calls[i]? = some (.resolve kind (.apply w pending))) ∨
      s.calls[i]? = some (.resolve kind (.returned (some w) (.ok ()))))

theorem uncountedCall_step (s : St) (o : Op) {i : ℕ} (h : UncountedCall s i) : UncountedCall (step id idle s o) i := by
  obtain ⟨kind, w, hw, hat⟩ := h
  refine ⟨kind, w, hw, ?_⟩
  have hlen : i < s.calls.length := by
    rcases hat with ⟨pending, hat⟩ | hat <;> exact (List.getElem?_eq_some_iff.1 hat).1
  have hstart : ∀ call, (s.calls ++ [call])[i]? = s.calls[i]? := fun call => List.getElem?_append_left hlen
  cases o with
  | handleEvent e => simpa only [step, hstart] using hat
  | resolveStream => simpa only [step, hstart] using hat
  | shutdown => simpa only [step, hstart] using hat
  | step j now =>
    by_cases hj : j = i
    · subst hj
      rcases hat with ⟨pending, hat⟩ | hat
      · simp only [step, hat, stepCall, List.getElem?_set_self hlen]
        cases pending with
        | nil => exact Or.inr rfl
        | cons ef pending => exact Or.inl ⟨pending, rfl⟩
      · simp only [step, hat, stepCall, List.getElem?_set_self hlen]
        exact Or.inr rfl
    · simp only [step]
      cases hcall : s.calls[j]? with
      | none => exact hat
      | some call => simpa only [List.getElem?_set_ne hj] using hat
  | opened j outcome =>
    simp only [step]
    cases hcall : s.calls[j]? with
    | none => exact hat
    | some call =>
      by_cases hj : j = i
      · subst hj
        rcases hat with ⟨pending, hat⟩ | hat
        · rw [hat] at hcall; cases hcall
          exact Or.inl ⟨pending, List.getElem?_set_self hlen⟩
        · rw [hat] at hcall; cases hcall
          exact Or.inr (List.getElem?_set_self hlen)
      · simpa only [List.getElem?_set_ne hj] using hat

/-- the call has only to go on to hand its stream out -/
theorem uncountedCall_returns (s : St) {i : ℕ} (h : UncountedCall s i) :
    ∃ n, ¬AllCounted (run (step id idle) s (List.replicate n (.step i 0))) := by
  obtain ⟨kind, w, hw, ⟨pending, hat⟩ | hat⟩ := h
  · induction pending generalizing s with
    | nil =>
      have hlen := (List.getElem?_eq_some_iff.1 hat).1
      refine ⟨1, ?_⟩
      intro hall
      have hcall : (step id idle s (.step i 0)).calls[i]? = some (.resolve kind (.returned (some w) (.ok ()))) := by
        simp only [step, hat, stepCall, stepEvent, List.getElem?_set_self hlen]
      obtain ⟨w', hw', hcounted⟩ := hall _ (List.mem_of_getElem? hcall)
      obtain rfl : w = w' := Option.some.inj hw'
      exact hw hcounted
    | cons ef pending ih =>
      have hlen := (List.getElem?_eq_some_iff.1 hat).1
      have hcall : (step id idle s (.step i 0)).calls[i]? = some (.resolve kind (.apply w pending)) := by
        simp only [step, hat, stepCall, stepEvent, List.getElem?_set_self hlen]
      obtain ⟨n, hn⟩ := ih (step id idle s (.step i 0)) hcall
      exact ⟨n + 1, by rw [List.replicate_succ, run_cons]; exact hn⟩
  · refine ⟨0, ?_⟩
    intro hall
    obtain ⟨w', hw', hcounted⟩ := hall _ (List.mem_of_getElem? hat)
    obtain rfl : w = w' := Option.some.inj hw'
    exact hw hcounted

/-- a record section that does not admit its stream goes on all the same -/
theorem uncountedCall_of_section {s : St} {i : ℕ} {now : Instant} (h : ¬SectionAdmits s (.step i now)) :
    UncountedCall (step id idle s (.step i now)) i := by
  simp only [SectionAdmits, not_forall] at h
  obtain ⟨kind, hat, hno⟩ := h
  have hlen := (List.getElem?_eq_some_iff.1 hat).1
  refine ⟨kind, (s.shared.record.state, (s.shared.record.state.transition id .streamOpened idle).1),
    fun hcounted => hno ((counted_transition_iff id idle _).1 hcounted),
    Or.inl ⟨(s.shared.record.state.transition id .streamOpened idle).2, ?_⟩⟩
  simp only [step, hat, stepCall, stepEvent, List.getElem?_set_self hlen]

/-! ## Leaving the active state -/

/-- the event takes a session out of the active state: an end of its transport, a drain, the end of its last stream -/
def EndsActive : SessionState → SessionEvent → Prop
  | .active _ n, .streamClosed => saturatingPred n = 0
  | .active _ _, .transportLost _ => True
  | .active _ _, .drainRequested _ => True
  | _, _ => False

theorem isActive_transition_iff (s : SessionState) (e : SessionEvent) :
    (s.transition id e idle).1.isActive = true ↔ s.isActive = true ∧ ¬EndsActive s e := by
  cases s with
  | active t n =>
    cases e with
    | streamClosed =>
      by_cases hlast : saturatingPred n = 0
      · simp [transition_active_streamClosed_last id idle hlast, SessionState.isActive, EndsActive, hlast]
      · simp [transition_active_streamClosed_more id idle hlast, SessionState.isActive, EndsActive, hlast]
    | _ => simp [SessionState.transition, SessionState.isActive, EndsActive]
  | closing r d => cases e <;> simp [SessionState.transition, SessionState.isActive]
  | closed => cases e <;> simp [SessionState.isActive]

/-- the next step of a `handle_event` call takes an active record out of the active state: its event does, or it closes
the streams of a session that is registered still -/
def EventLeaves (s : Shared) : EventPc → Prop
  | .record e => EndsActive s.record.state e
  | .apply _ (.registry (.closeStreams id' _) :: _) => s.registered = true ∧ id' = id
  | _ => False

/-- the next step of a call does: an event's, or the forced close of `shutdown` -/
def CallLeaves (s : Shared) : Call → Prop
  | .event pc => EventLeaves id s pc
  | .resolve _ pc => EventLeaves id s pc
  | .close held => held = true
  | _ => False

/-- the operation takes the record of an active session out of the active state -/
def LeavesActive (s : St) : Op → Prop
  | .step i _ => s.shared.record.state.isActive = true ∧ ∃ call, s.calls[i]? = some call ∧ CallLeaves id s.shared call
  | _ => False

theorem isActive_applyEffect_iff (now : Instant) (s : Shared) (section' : SessionState × SessionState)
    (ef : SessionEffect) (pending : List SessionEffect) :
    (applyEffect id now s ef).record.state.isActive = true ↔
      s.record.state.isActive = true ∧ ¬EventLeaves id s (.apply section' (ef :: pending)) := by
  cases ef with
  | registry c =>
    cases c with
    | markNoNewStreams id' => simp only [applyEffect]; split_ifs <;> simp [EventLeaves]
    | closeStreams id' graceful =>
      simp only [applyEffect, EventLeaves]
      split_ifs with h
      · cases graceful <;> simp [h, SessionState.isActive]
      · simp [h]
    | remove id' => simp only [applyEffect]; split_ifs <;> simp [EventLeaves]
  | timer c => simp [applyEffect, EventLeaves]
  | metric ev => simp [applyEffect, EventLeaves]

theorem isActive_stepEvent_iff (now : Instant) (s : Shared) (pc : EventPc) :
    (stepEvent id idle now s pc).1.record.state.isActive = true ↔
      s.record.state.isActive = true ∧ ¬EventLeaves id s pc := by
  cases pc with
  | lookup e => simp [stepEvent, EventLeaves]
  | record e => exact isActive_transition_iff id idle s.record.state e
  | apply section' pending =>
    cases pending with
    | nil => simp [stepEvent, EventLeaves]
    | cons ef pending => exact isActive_applyEffect_iff id now s section' ef pending
  | returned section' result => simp [stepEvent, EventLeaves]

theorem isActive_stepCall_iff (now : Instant) (s : Shared) (call : Call) :
    (stepCall id idle now s call).1.record.state.isActive = true ↔
      s.record.state.isActive = true ∧ ¬CallLeaves id s call := by
  cases call with
  | event pc => exact isActive_stepEvent_iff id idle now s pc
  | resolve kind pc => exact isActive_stepEvent_iff id idle now s pc
  | close held =>
    cases held <;> simp [stepCall, CallLeaves, SessionRecord.shutDown, SessionState.isActive]
  | _ => simp [stepCall, CallLeaves]

/-- **Staying active.** After a step the record is active exactly when it was before and the step does not take it
out. -/
theorem isActive_step_iff (s : St) (o : Op) :
    (step id idle s o).shared.record.state.isActive = true ↔
      s.shared.record.state.isActive = true ∧ ¬LeavesActive id s o := by
  cases o with
  | step i now =>
    simp only [step, LeavesActive]
    cases hcall : s.calls[i]? with
    | none => simp
    | some call =>
      simp only [isActive_stepCall_iff, Option.some.injEq, exists_eq_left']
      tauto
  | opened i outcome =>
    simp only [step, LeavesActive, not_false_eq_true, and_true]
    cases s.calls[i]? <;> rfl
  | _ => simp [step, LeavesActive]

/-- a session is active after a run exactly when it was before and no step took it out -/
theorem isActive_run_iff (s : St) (ops : List Op) :
    (run (step id idle) s ops).shared.record.state.isActive = true ↔
      s.shared.record.state.isActive = true ∧ AllSteps (step id idle) (fun s o => ¬LeavesActive id s o) s ops := by
  induction ops generalizing s with
  | nil => simp [AllSteps]
  | cons o ops ih => rw [run_cons, ih, isActive_step_iff, AllSteps, and_assoc]

/-! ## From the read to the section -/

/-- a `resolve_stream` call past its read of `accepting_new_streams`, which did not refuse it -/
def PastRead : Call → Prop
  | .resolveOpening => True
  | .resolveTouch _ => True
  | .resolve _ _ => True
  | _ => False

/-- the operation is the read of `accepting_new_streams` by call `i` -/
def Reads (s : St) (i : ℕ) (o : Op) : Prop := (∃ now, o = .step i now) ∧ s.calls[i]? = some .resolveSnapshot

/-- the operation is the stream-open record section of the `resolve_stream` call `i` -/
def OpensStream (s : St) (i : ℕ) (o : Op) : Prop :=
  (∃ now, o = .step i now) ∧ ∃ kind, s.calls[i]? = some (.resolve kind (.record .streamOpened))

theorem stepCall_pastRead (now : Instant) (s : Shared) {call : Call} (h : PastRead (stepCall id idle now s call).2) :
    PastRead call ∨ call = .resolveSnapshot := by
  cases call with
  | resolveSnapshot => exact Or.inr rfl
  | resolveLookup =>
    simp only [stepCall] at h
    split_ifs at h <;> exact h.elim
  | close held => cases held <;> exact h.elim
  | resolveOpening => exact Or.inl trivial
  | resolveTouch kind => exact Or.inl trivial
  | resolve kind pc => exact Or.inl trivial
  | _ => exact h.elim

theorem openCall_pastRead (outcome : Except TransportSelectError TransportKind) {call : Call}
    (h : PastRead (openCall outcome call)) : PastRead call := by
  cases call with
  | resolveOpening => trivial
  | _ => exact h

/-- a call is past its read because it was, or because the step is its read -/
theorem pastRead_step (s : St) (o : Op) {i : ℕ} {call : Call} (hat : (step id idle s o).calls[i]? = some call)
    (h : PastRead call) : (∃ before, s.calls[i]? = some before ∧ PastRead before) ∨ Reads s i o := by
  have hstart : ∀ first, ¬PastRead first → (s.calls ++ [first])[i]? = some call → s.calls[i]? = some call := by
    intro first hfirst hget
    rw [List.getElem?_append] at hget
    split_ifs at hget with hlt
    · exact hget
    · obtain rfl := List.mem_singleton.1 (List.mem_of_getElem? hget)
      exact absurd h hfirst
  cases o with
  | handleEvent e => exact Or.inl ⟨call, hstart (.event (.lookup e)) not_false hat, h⟩
  | resolveStream => exact Or.inl ⟨call, hstart .resolveLookup not_false hat, h⟩
  | shutdown => exact Or.inl ⟨call, hstart .drain not_false hat, h⟩
  | step j now =>
    simp only [step] at hat
    cases hcall : s.calls[j]? with
    | none =>
      rw [hcall] at hat
      exact Or.inl ⟨call, hat, h⟩
    | some before =>
      rw [hcall] at hat
      rcases getElem?_set_cases hcall hat with ⟨rfl, rfl⟩ | hat
      · rcases stepCall_pastRead id idle now s.shared h with hpast | rfl
        · exact Or.inl ⟨before, hcall, hpast⟩
        · exact Or.inr ⟨⟨now, rfl⟩, hcall⟩
      · exact Or.inl ⟨call, hat, h⟩
  | opened j outcome =>
    simp only [step] at hat
    cases hcall : s.calls[j]? with
    | none =>
      rw [hcall] at hat
      exact Or.inl ⟨call, hat, h⟩
    | some before =>
      rw [hcall] at hat
      rcases getElem?_set_cases hcall hat with ⟨rfl, rfl⟩ | hat
      · exact Or.inl ⟨before, hcall, openCall_pastRead outcome h⟩
      · exact Or.inl ⟨call, hat, h⟩

/-- a call past its read has read the flag at some step before -/
theorem read_before {s : St} (hnone : s.calls = []) (ops : List Op) {i : ℕ} {call : Call}
    (hat : (run (step id idle) s ops).calls[i]? = some call) (h : PastRead call) :
    ∃ pre o mid, ops = pre ++ o :: mid ∧ Reads (run (step id idle) s pre) i o := by
  induction ops using List.reverseRecOn generalizing call with
  | nil => simp [hnone] at hat
  | append_singleton ops o ih =>
    rw [run_append, run_cons, run_nil] at hat
    rcases pastRead_step id idle _ o hat h with ⟨before, hbefore, hpast⟩ | hread
    · obtain ⟨pre, o', mid, rfl, hread⟩ := ih hbefore hpast
      exact ⟨pre, o', mid ++ [o], by simp, hread⟩
    · exact ⟨ops, o, [], rfl, hread⟩

/-- Wherever a `resolve_stream` call reads the flag at `read` and comes to its record section at `section'`: the read
finds the session active (a session that has left the state may have its flag set still), no step between the two takes
the session out of the active state, and the count is not at its limit. -/
def Undisturbed (s : St) (ops : List Op) : Prop :=
  ∀ pre read mid section' post i, ops = pre ++ read :: (mid ++ section' :: post) →
    Reads (run (step id idle) s pre) i read →
    OpensStream (run (step id idle) s (pre ++ read :: mid)) i section' →
    (run (step id idle) s pre).shared.record.state.isActive = true ∧
      AllSteps (step id idle) (fun s o => ¬LeavesActive id s o) (run (step id idle) s (pre ++ [read])) mid ∧
      ∀ t n, (run (step id idle) s (pre ++ read :: mid)).shared.record.state = .active t n → Unsaturated n

theorem admits_iff (s : SessionState) :
    Admits s ↔ s.isActive = true ∧ ∀ t n, s = .active t n → Unsaturated n := by
  cases s with
  | active t n => simp [Admits, SessionState.isActive]
  | closing r d => simp [Admits, SessionState.isActive]
  | closed => simp [Admits, SessionState.isActive]

/-- the read leaves the record alone -/
theorem not_leavesActive_of_reads {s : St} {i : ℕ} {o : Op} (h : Reads s i o) : ¬LeavesActive id s o := by
  obtain ⟨⟨now, rfl⟩, hat⟩ := h
  rintro ⟨-, call, hcall, hleaves⟩
  obtain rfl : Call.resolveSnapshot = call := Option.some.inj (hat.symm.trans hcall)
  exact hleaves

/-- **The window.** Every stream-open section finds a session that counts its stream exactly when every one of them is
undisturbed since its call read the flag. -/
theorem sectionsAdmit_iff_undisturbed {s : St} (hnone : s.calls = []) (ops : List Op) :
    AllSteps (step id idle) SectionAdmits s ops ↔ Undisturbed id idle s ops := by
  have hsplit : ∀ pre read mid, run (step id idle) s (pre ++ read :: mid) =
      run (step id idle) (run (step id idle) s (pre ++ [read])) mid := by
    intro pre read mid
    rw [← run_append, List.append_assoc, List.singleton_append]
  constructor
  · rintro hall pre read mid section' post i rfl hread ⟨⟨now, rfl⟩, kind, hat⟩
    rw [← List.cons_append, ← List.append_assoc, allSteps_append] at hall
    have hadmits : Admits (run (step id idle) s (pre ++ read :: mid)).shared.record.state := hall.2.1 kind hat
    obtain ⟨hactive, hcount⟩ := (admits_iff _).1 hadmits
    rw [hsplit, isActive_run_iff] at hactive
    refine ⟨?_, hactive.2, hcount⟩
    rw [run_append, run_cons, run_nil, isActive_step_iff] at hactive
    exact hactive.1.1
  · intro hwin
    by_contra hno
    obtain ⟨pre', o, post, rfl, hstep⟩ := exists_of_not_allSteps hno
    cases o with
    | step i now =>
      apply hstep
      intro kind hat
      obtain ⟨pre, read, mid, rfl, hread⟩ := read_before id idle hnone pre' hat trivial
      obtain ⟨hactive, hmid, hcount⟩ :=
        hwin pre read mid (.step i now) post i (by simp) hread ⟨⟨now, rfl⟩, kind, hat⟩
      refine (admits_iff _).2 ⟨?_, hcount⟩
      rw [hsplit, isActive_run_iff]
      refine ⟨?_, hmid⟩
      rw [run_append, run_cons, run_nil, isActive_step_iff]
      exact ⟨hactive, not_leavesActive_of_reads id hread⟩
    | _ => exact hstep trivial

/-! ## Main result -/

/-- **Streams handed out.** In a run of overlapping calls on one session every stream handed out was counted, by one, by
the record section of its stream-open event, if every such section is undisturbed since its call read
`accepting_new_streams`: the read found the session active, nothing took it out of the active state between, and the
counter was not at its limit. Where one is disturbed, a call needs only go on to hand out a stream that was not
counted. -/
theorem resolved_streams_accounted (request : SessionRequest) (ops : List Op) :
    (Undisturbed id idle (init request) ops → AllStates (step id idle) AllCounted (init request) ops) ∧
    (¬Undisturbed id idle (init request) ops →
      ∃ i n, ¬AllStates (step id idle) AllCounted (init request) (ops ++ List.replicate n (.step i 0))) := by
  rw [← sectionsAdmit_iff_undisturbed id idle rfl]
  constructor
  · intro hadmits
    have hinit : AllCallsCounted (init request) := fun call hcall => by simp [init] at hcall
    exact allStates_of_inv (allCallsCounted_step id idle) (fun s h call hc => (h call hc).streamCounted) hinit hadmits
  · intro hno
    obtain ⟨pre, o, post, rfl, hstep⟩ := exists_of_not_allSteps hno
    cases o with
    | step i now =>
      set s1 := step id idle (run (step id idle) (init request) pre) (.step i now)
      have hcall : UncountedCall s1 i := uncountedCall_of_section id idle hstep
      have hpost : UncountedCall (run (step id idle) s1 post) i :=
        run_inv (fun s o h => uncountedCall_step id idle s o h) post hcall
      obtain ⟨n, hn⟩ := uncountedCall_returns id idle _ hpost
      refine ⟨i, n, fun hall => hn ?_⟩
      have hlast := hall.last
      rw [run_append, run_append, run_cons] at hlast
      exact hlast
    | _ => exact absurd trivial hstep

/-- a drain that comes, and returns, while the transport opens -/
def drainDuringOpen : List Op :=
  [.resolveStream, .step 0 1, .step 0 1,
    .handleEvent (.drainRequested 60), .step 1 2, .step 1 2, .step 1 2, .step 1 2, .step 1 2, .step 1 2, .step 1 2,
    .opened 0 (.ok .wss), .step 0 3, .step 0 3, .step 0 3, .step 0 3]

/-- **A stream on a draining session.** The drain has returned and the record is closing; the stream is handed out all
the same, and none was counted. -/
theorem stream_on_draining_session :
    let s := run (step 1 30) (init ⟨0, "request-1"⟩) drainDuringOpen
    s.shared.record.state = .closing .drainShutdown 2 ∧
      s.calls[1]? = some (.event (.returned (some (.active 0 0, .closing .drainShutdown 60)) (.ok ()))) ∧
      s.calls[0]? = some (.resolve .wss (.returned
        (some (.closing .drainShutdown 2, .closing .drainShutdown 2)) (.ok ()))) ∧
      ¬AllStates (step 1 30) AllCounted (init ⟨0, "request-1"⟩) drainDuringOpen := by
  have hcall : (run (step 1 30) (init ⟨0, "request-1"⟩) drainDuringOpen).calls[0]? = some (.resolve .wss (.returned
      (some (.closing .drainShutdown 2, .closing .drainShutdown 2)) (.ok ()))) := rfl
  refine ⟨by decide, rfl, hcall, ?_⟩
  intro hall
  obtain ⟨w, hw, hcounted⟩ := hall.last _ (List.mem_of_getElem? hcall)
  obtain rfl : _ = w := Option.some.inj hw
  exact hcounted

end N0wss.Session.Admission
