/-
The session manager (`session/mod.rs`) over the registry, one call at a time: registration, lifecycle events with all
their effects, and shutdown. `handleEvent` writes the machine's next state into the record and then carries out the
effects the machine emitted, through `EffectHandler` (`session/effect_handler.rs`): registry commands on the registry,
the others to the timers and the metrics.

The clock is an input. `handleEvent` reads it twice: in the record section (`now`), and in `close_streams`
(`closeNow`).

Results:
- `handleEvent_get_self`, `handleEvent_get_other`, `handleEvent_log`: what an event does to its own session's entry, to
  the others' and to the metrics.
- `resolveStream_opened`, `resolveStream_get_other`: what resolving a stream leaves behind.
-/
import N0wss.Core.Machine
import N0wss.Session.Registry

namespace N0wss.Session

open Machine

/-! ## The manager -/

structure SessionManagerConfig where
  idleTimeout : Duration
  gracefulShutdownTimeout : Duration
deriving DecidableEq, Repr

structure SessionRequest where
  startedAt : Instant
  peerLabel : String
deriving DecidableEq, Repr

inductive TransportKind where
  | wss
  | irohDirect
  | irohRelay
deriving DecidableEq, Repr

inductive TransportSelectError where
  | cancelled
  | contractViolation
  | allFailed (irohErr wssErr : Option String)
deriving DecidableEq, Repr

inductive SessionManagerError where
  | sessionLimitReached
  | sessionNotFound (id : SessionId)
  | sessionNotAcceptingNewStreams (id : SessionId)
  | transportResolutionFailed (err : TransportSelectError)
deriving DecidableEq, Repr

/-- what reached the metrics target, with a mark where a session was registered -/
inductive LogEntry where
  | registered (id : SessionId)
  | metric (event : MetricEvent)
deriving DecidableEq, Repr

structure SessionManager where
  registry : SessionRegistry
  config : SessionManagerConfig
  log : List LogEntry
  timers : List TimerCommand

/-- how far `resolve_stream` gets in the time its caller gives it, where no other call comes between -/
inductive Resolution where
  /-- the transport has neither opened nor failed -/
  | pending
  | failed (err : TransportSelectError)
  /-- the transport opened; `some k`: only `k` effects of the stream-open event were carried out in time -/
  | opened (kind : TransportKind) (applied : Option ℕ)
deriving DecidableEq, Repr

namespace SessionManager

def new (config : SessionManagerConfig) (maxSessions : ℕ) : SessionManager := ⟨SlotStore.new maxSessions, config, [], []⟩

/-- `EffectHandler::apply` -/
def apply (closeNow : Instant) (m : SessionManager) : SessionEffect → SessionManager
  | .registry command => { m with registry := SessionRegistry.execute m.registry closeNow command }
  | .timer command => { m with timers := m.timers ++ [command] }
  | .metric event => { m with log := m.log ++ [.metric event] }

/-- `EffectHandler::apply_all` -/
def applyAll (closeNow : Instant) (m : SessionManager) (effects : List SessionEffect) : SessionManager :=
  effects.foldl (apply closeNow) m

/-- the record a session starts with -/
def startRecord (request : SessionRequest) : SessionRecord :=
  SessionRecord.new (.active request.startedAt 0) request.startedAt

def registerSession (m : SessionManager) (request : SessionRequest) :
    Except SessionManagerError SessionId × SessionManager :=
  match m.registry.tryReserve with
  | none => (.error .sessionLimitReached, m)
  | some reserved =>
    let (id, registry) := reserved.insert (startRecord request)
    (.ok id, { m with registry := registry, log := m.log ++ [.registered id] })

/-- the record section of `handle_event`: the next state is written and the effects are taken away -/
def recordEvent (config : SessionManagerConfig) (id : SessionId) (event : SessionEvent) (now : Instant)
    (record : SessionRecord) : SessionRecord × List SessionEffect :=
  let (nextState, effects) := record.state.transition id event config.idleTimeout
  ({ record with state := nextState, lastActivity := now }, effects)

/-- all the effects, or the first few where the caller's time was up after those -/
def inTime : Option ℕ → List SessionEffect → List SessionEffect
  | none, effects => effects
  | some k, effects => effects.take k

/-- a call's result, where its caller was still waiting for it -/
def resultInTime {α : Type} : Option ℕ → α → Option α
  | none, result => some result
  | some _, _ => none

theorem mem_of_mem_inTime {applied : Option ℕ} {effects : List SessionEffect} {ef : SessionEffect}
    (h : ef ∈ inTime applied effects) : ef ∈ effects := by
  cases applied with
  | none => exact h
  | some k => exact List.mem_of_mem_take h

/-- `handle_event`, carried out as far as the caller's time allows -/
def handleEventUpTo (m : SessionManager) (id : SessionId) (event : SessionEvent) (now closeNow : Instant)
    (applied : Option ℕ) : Except SessionManagerError Unit × SessionManager :=
  match m.registry.get id with
  | none => (.error (.sessionNotFound id), m)
  | some record =>
    let (record', effects) := recordEvent m.config id event now record
    (.ok (), applyAll closeNow { m with registry := m.registry.update id fun _ => record' } (inTime applied effects))

def handleEvent (m : SessionManager) (id : SessionId) (event : SessionEvent) (now closeNow : Instant) :
    Except SessionManagerError Unit × SessionManager :=
  m.handleEventUpTo id event now closeNow none

/-- `resolve_stream`, between the opened transport and its stream-open event -/
def touch (m : SessionManager) (id : SessionId) (now : Instant) : SessionManager :=
  { m with registry := m.registry.update id fun record => { record with lastActivity := now } }

/-- `resolve_stream`; no result where the time was up first -/
def resolveStream (m : SessionManager) (id : SessionId) (resolution : Resolution) (now closeNow : Instant) :
    Option (Except SessionManagerError TransportKind) × SessionManager :=
  match m.registry.get id with
  | none => (some (.error (.sessionNotFound id)), m)
  | some record =>
    if record.acceptingNewStreams then
      match resolution with
      | .pending => (none, m)
      | .failed err => (some (.error (.transportResolutionFailed err)), m)
      | .opened kind applied =>
        let (result, m) := (m.touch id now).handleEventUpTo id .streamOpened now closeNow applied
        (resultInTime applied (result.map fun _ => kind), m)
    else (some (.error (.sessionNotAcceptingNewStreams id)), m)

def shutdown (m : SessionManager) (now : Instant) : List SessionRecord × SessionManager :=
  let (drained, registry) := SessionRegistry.drainAll m.registry
  (drained.map fun e => e.2.shutDown now, { m with registry := registry })

/-! ## Registration -/

theorem registerSession_of_full {m : SessionManager} (h : m.registry.free = 0) (request : SessionRequest) :
    m.registerSession request = (.error .sessionLimitReached, m) := by
  simp [registerSession, SlotStore.tryReserve, h]

theorem registerSession_of_free {m : SessionManager} (h : m.registry.free ≠ 0) (request : SessionRequest) :
    m.registerSession request =
      (.ok m.registry.next,
        { m with registry := (SlotStore.insert { m.registry with free := m.registry.free - 1 } (startRecord request)).2
                 log := m.log ++ [.registered m.registry.next] }) := by
  simp [registerSession, SlotStore.tryReserve, h]

theorem registerSession_get_self {m : SessionManager} (h : m.registry.free ≠ 0) (request : SessionRequest) :
    (m.registerSession request).2.registry.get m.registry.next = some (startRecord request) := by
  rw [registerSession_of_free h]
  exact SlotStore.get_insert_self { m.registry with free := m.registry.free - 1 } _

theorem registerSession_get_other {m : SessionManager} {id : SessionId} (hid : id ≠ m.registry.next)
    (request : SessionRequest) : (m.registerSession request).2.registry.get id = m.registry.get id := by
  by_cases h : m.registry.free = 0
  · rw [registerSession_of_full h]
  · rw [registerSession_of_free h]
    exact SlotStore.get_insert_of_ne (s := { m.registry with free := m.registry.free - 1 }) hid _

/-! ## Effects on the entry of one session -/

/-- what an effect does to the entry of session `id` -/
def onEntry (id : SessionId) (closeNow : Instant) (entry : Option SessionRecord) : SessionEffect → Option SessionRecord
  | .registry (.markNoNewStreams id') => if id' = id then entry.map SessionRecord.stopAccepting else entry
  | .registry (.closeStreams id' graceful) => if id' = id then entry.map (·.closeStreams graceful closeNow) else entry
  | .registry (.remove id') => if id' = id then none else entry
  | .timer _ => entry
  | .metric _ => entry

theorem apply_get (closeNow : Instant) (m : SessionManager) (ef : SessionEffect) (id : SessionId) :
    (apply closeNow m ef).registry.get id = onEntry id closeNow (m.registry.get id) ef := by
  cases ef with
  | registry c =>
    by_cases h : SessionRegistry.target c = id
    · subst h
      cases c <;> simp [apply, onEntry, SessionRegistry.target]
    · have hother := SessionRegistry.execute_other m.registry closeNow c (fun he => h he.symm)
      cases c <;> simp_all [apply, onEntry, SessionRegistry.target]
  | timer c => rfl
  | metric ev => rfl

theorem applyAll_get (closeNow : Instant) (m : SessionManager) (effects : List SessionEffect) (id : SessionId) :
    (applyAll closeNow m effects).registry.get id = effects.foldl (onEntry id closeNow) (m.registry.get id) := by
  induction effects generalizing m with
  | nil => rfl
  | cons ef effects ih =>
    simp only [applyAll, List.foldl_cons]
    rw [← apply_get]
    exact ih (apply closeNow m ef)

/-- effects without a registry command leave the registry alone -/
theorem applyAll_registry {effects : List SessionEffect} (h : ∀ c, SessionEffect.registry c ∉ effects)
    (closeNow : Instant) (m : SessionManager) : (applyAll closeNow m effects).registry = m.registry := by
  induction effects generalizing m with
  | nil => rfl
  | cons ef effects ih =>
    have hrest : ∀ c, SessionEffect.registry c ∉ effects := fun c hc => h c (List.mem_cons_of_mem _ hc)
    have hhead : (apply closeNow m ef).registry = m.registry := by
      cases ef with
      | registry c => exact absurd List.mem_cons_self (h c)
      | timer c => rfl
      | metric ev => rfl
    exact (ih hrest (apply closeNow m ef)).trans hhead

/-- the metrics among some effects -/
def metricsOf (effects : List SessionEffect) : List LogEntry :=
  effects.filterMap fun
    | .metric ev => some (.metric ev)
    | _ => none

theorem applyAll_log (closeNow : Instant) (m : SessionManager) (effects : List SessionEffect) :
    (applyAll closeNow m effects).log = m.log ++ metricsOf effects := by
  induction effects generalizing m with
  | nil => simp [applyAll, metricsOf]
  | cons ef effects ih =>
    have hstep : (applyAll closeNow m (ef :: effects)).log = (applyAll closeNow (apply closeNow m ef) effects).log := rfl
    rw [hstep, ih]
    cases ef <;> simp [apply, metricsOf]

/-- every registry command of a transition is about its own session -/
theorem target_of_mem_transition {id : SessionId} {s : SessionState} {e : SessionEvent} {idle : Duration}
    {c : RegistryCommand} (h : .registry c ∈ (s.transition id e idle).2) : SessionRegistry.target c = id := by
  have hout := transition_outcome id idle s e
  generalize s.transition id e idle = after at h hout
  cases hout with
  | opened => simp at h
  | lastClosed =>
    obtain rfl : c = .remove id := by simpa using h
    rfl
  | oneClosed => simp at h
  | lost =>
    obtain rfl : c = .closeStreams id true := by simpa using h
    rfl
  | drained =>
    obtain rfl | rfl : c = .markNoNewStreams id ∨ c = .closeStreams id true := by simpa using h
    · rfl
    · rfl
  | expired =>
    obtain rfl | rfl : c = .closeStreams id false ∨ c = .remove id := by simpa using h
    · rfl
    · rfl
  | ignored => cases h

theorem onEntry_other {id : SessionId} {ef : SessionEffect}
    (h : ∀ c, ef = .registry c → SessionRegistry.target c ≠ id) (closeNow : Instant) (entry : Option SessionRecord) :
    onEntry id closeNow entry ef = entry := by
  cases ef with
  | registry c =>
    have hne := h c rfl
    cases c <;> simp_all [onEntry, SessionRegistry.target]
  | timer c => rfl
  | metric ev => rfl

/-- effects about other sessions leave the entry alone -/
theorem foldl_onEntry_other {id : SessionId} {effects : List SessionEffect}
    (h : ∀ c, .registry c ∈ effects → SessionRegistry.target c ≠ id) (closeNow : Instant)
    (entry : Option SessionRecord) : effects.foldl (onEntry id closeNow) entry = entry := by
  induction effects generalizing entry with
  | nil => rfl
  | cons ef effects ih =>
    have hhead : onEntry id closeNow entry ef = entry :=
      onEntry_other (fun c hc => h c (by simp [hc])) closeNow entry
    rw [List.foldl_cons, hhead]
    exact ih (fun c hc => h c (List.mem_cons_of_mem _ hc)) entry

/-! ## One event -/

/-- the entry of a session once the event and all its effects are through -/
def settle (config : SessionManagerConfig) (id : SessionId) (event : SessionEvent) (now closeNow : Instant)
    (record : SessionRecord) : Option SessionRecord :=
  let (record', effects) := recordEvent config id event now record
  effects.foldl (onEntry id closeNow) (some record')

theorem handleEvent_of_none {m : SessionManager} {id : SessionId} (h : m.registry.get id = none) (e : SessionEvent)
    (now closeNow : Instant) : m.handleEvent id e now closeNow = (.error (.sessionNotFound id), m) := by
  simp [handleEvent, handleEventUpTo, h]

theorem handleEvent_of_some {m : SessionManager} {id : SessionId} {r : SessionRecord} (h : m.registry.get id = some r)
    (e : SessionEvent) (now closeNow : Instant) :
    m.handleEvent id e now closeNow =
      (.ok (), applyAll closeNow { m with registry := m.registry.update id fun _ => (recordEvent m.config id e now r).1 }
        (r.state.transition id e m.config.idleTimeout).2) := by
  simp [handleEvent, handleEventUpTo, h, recordEvent, inTime]

theorem handleEvent_get_self {m : SessionManager} {id : SessionId} {r : SessionRecord} (h : m.registry.get id = some r)
    (e : SessionEvent) (now closeNow : Instant) :
    (m.handleEvent id e now closeNow).2.registry.get id = settle m.config id e now closeNow r := by
  rw [handleEvent_of_some h, applyAll_get]
  simp [settle, recordEvent, h]

theorem handleEventUpTo_get_other (m : SessionManager) {id id' : SessionId} (hne : id' ≠ id) (e : SessionEvent)
    (now closeNow : Instant) (applied : Option ℕ) :
    (m.handleEventUpTo id e now closeNow applied).2.registry.get id' = m.registry.get id' := by
  unfold handleEventUpTo
  cases h : m.registry.get id with
  | none => rfl
  | some r =>
    have htarget : ∀ c, .registry c ∈ inTime applied (r.state.transition id e m.config.idleTimeout).2 →
        SessionRegistry.target c ≠ id' := fun c hc =>
      (target_of_mem_transition (mem_of_mem_inTime hc)).trans_ne hne.symm
    simp only [recordEvent]
    rw [applyAll_get, foldl_onEntry_other htarget]
    exact SlotStore.get_update_of_ne hne _

theorem handleEvent_get_other (m : SessionManager) {id id' : SessionId} (hne : id' ≠ id) (e : SessionEvent)
    (now closeNow : Instant) : (m.handleEvent id e now closeNow).2.registry.get id' = m.registry.get id' :=
  m.handleEventUpTo_get_other hne e now closeNow none

theorem handleEvent_log {m : SessionManager} {id : SessionId} {r : SessionRecord} (h : m.registry.get id = some r)
    (e : SessionEvent) (now closeNow : Instant) :
    (m.handleEvent id e now closeNow).2.log =
      m.log ++ metricsOf (r.state.transition id e m.config.idleTimeout).2 := by
  rw [handleEvent_of_some h, applyAll_log]

/-! ## Opening and ending the one stream of a session -/

/-- a session that accepts streams counts the stream it resolves, however far the effects get -/
theorem resolveStream_opened {m : SessionManager} {id : SessionId} {t a : Instant} {n : UInt32}
    (h : m.registry.get id = some ⟨.active t n, true, a⟩) (kind : TransportKind) (applied : Option ℕ)
    (now closeNow : Instant) :
    (m.resolveStream id (.opened kind applied) now closeNow).1 = resultInTime applied (.ok kind) ∧
      (m.resolveStream id (.opened kind applied) now closeNow).2.registry.get id =
        some ⟨.active t (saturatingSucc n), true, now⟩ ∧
      (m.resolveStream id (.opened kind applied) now closeNow).2.registry.free = m.registry.free := by
  have htouch : (m.touch id now).registry.get id = some ⟨.active t n, true, now⟩ := by
    simp [touch, h]
  set effects := (SessionState.transition (.active t n) id .streamOpened m.config.idleTimeout).2 with heffects
  have hno : ∀ c, SessionEffect.registry c ∉ inTime applied effects := by
    intro c hc
    have hmem : SessionEffect.registry c ∈ effects := mem_of_mem_inTime hc
    simp [heffects] at hmem
  have hrun : (m.touch id now).handleEventUpTo id .streamOpened now closeNow applied =
      (.ok (), applyAll closeNow
        { m.touch id now with
          registry := (m.touch id now).registry.update id fun _ => ⟨.active t (saturatingSucc n), true, now⟩ }
        (inTime applied effects)) := by
    simp only [handleEventUpTo, htouch, recordEvent, transition_active_opened]
    rfl
  have hres : m.resolveStream id (.opened kind applied) now closeNow =
      (resultInTime applied (.ok kind), ((m.touch id now).handleEventUpTo id .streamOpened now closeNow applied).2) := by
    simp only [resolveStream, h, if_true]
    rw [hrun]
    rfl
  refine ⟨by rw [hres], ?_, ?_⟩
  · rw [hres, hrun]
    simp only [applyAll_registry hno]
    simp [htouch]
  · rw [hres, hrun]
    simp only [applyAll_registry hno]
    simp [touch]

theorem resolveStream_get_other (m : SessionManager) {id id' : SessionId} (hne : id' ≠ id) (resolution : Resolution)
    (now closeNow : Instant) :
    (m.resolveStream id resolution now closeNow).2.registry.get id' = m.registry.get id' := by
  unfold resolveStream
  cases h : m.registry.get id with
  | none => rfl
  | some r =>
    simp only
    split_ifs with hacc
    · cases resolution with
      | opened kind applied =>
        have htouch : (m.touch id now).registry.get id' = m.registry.get id' := SlotStore.get_update_of_ne hne _
        exact ((m.touch id now).handleEventUpTo_get_other hne .streamOpened now closeNow applied).trans htouch
      | _ => rfl
    · rfl

/-- the end of the only stream takes the session out of the registry and frees its slot -/
theorem handleEvent_streamClosed_last {m : SessionManager} {id : SessionId} {t a : Instant} {n : UInt32} {acc : Bool}
    (h : m.registry.get id = some ⟨.active t n, acc, a⟩) (hn : saturatingPred n = 0) (now closeNow : Instant) :
    (m.handleEvent id .streamClosed now closeNow).2.registry.get id = none ∧
      (m.handleEvent id .streamClosed now closeNow).2.registry.free = m.registry.free + 1 := by
  constructor
  · rw [handleEvent_get_self h]
    simp [settle, recordEvent, transition_active_streamClosed_last id _ hn, onEntry]
  · rw [handleEvent_of_some h, transition_active_streamClosed_last id _ hn]
    set reg := m.registry.update id fun _ =>
      (recordEvent m.config id .streamClosed now ⟨.active t n, acc, a⟩).1
    have hget : ∃ r, reg.get id = some r := by
      simp [reg, h]
    obtain ⟨r, hr⟩ := hget
    have hfree := SessionRegistry.free_execute_remove closeNow hr
    simp only [applyAll, List.foldl_cons, List.foldl_nil, apply]
    rw [hfree]
    simp [reg]

/-- an active session ignores the deadline event -/
theorem handleEvent_deadlineReached_active {m : SessionManager} {id : SessionId} {t a : Instant} {n : UInt32}
    {acc : Bool} (h : m.registry.get id = some ⟨.active t n, acc, a⟩) (now closeNow : Instant) :
    (m.handleEvent id .deadlineReached now closeNow).2.registry.get id = some ⟨.active t n, acc, now⟩ := by
  rw [handleEvent_get_self h]
  simp [settle, recordEvent]

end SessionManager

end N0wss.Session
