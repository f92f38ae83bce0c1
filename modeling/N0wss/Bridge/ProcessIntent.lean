/-
One proxied request (`process_intent` and `pump_bidirectional` in `proxy_bridge/mod.rs`) over the session manager: a
session is registered, a transport stream is resolved under `total_request_timeout`, bytes are pumped both ways, and
the session manager is told how it ended.

What lies outside is an input: how resolution ends (with a stream, with an error, or not before the timeout), what
every turn of the pump reads, and the clock.

A request that resolved no stream tells the session manager `DeadlineReached`. The state machine ignores that event in
an active session, so the session stays registered and keeps its slot.

- `slotReleased_of_refused`, `slotReleased_of_resolved`: refused requests and requests whose stream opened in time give
  the slot back, however the pump ends.
- `not_slotReleased_of_unresolved`: every other request keeps it.
- `process_intent_releases_iff`: the two together, for any registry, and over runs: when every request of a run is
  refused or resolved, all slots are free again.
- `failed_resolution_keeps_slot`: one slot, one failed resolution, no slot.
-/
import N0wss.Core.Machine
import N0wss.Net.Addr
import N0wss.Session.Manager
import N0wss.Socks5.Reply
import N0wss.Socks5.Request

namespace N0wss.Bridge

open Machine Net Session Socks5

/-! ## The request -/

structure TransportRequest where
  peerLabel : String
  targetHost : String
  targetPort : UInt16
deriving DecidableEq, Repr

def targetHost (v6 : Ipv6Text) : TargetAddr → String
  | .ip addr => String.ofList (displayIp v6 addr.ip)
  | .domain domain _ => domain

def targetPort : TargetAddr → UInt16
  | .ip addr => addr.port
  | .domain _ port => port

def peerLabel (intent : ProxyIntent) : String := "request-" ++ toString intent.requestId

def transportRequest (v6 : Ipv6Text) (intent : ProxyIntent) : TransportRequest :=
  ⟨peerLabel intent, targetHost v6 intent.target, targetPort intent.target⟩

/-- `TransportSelectError`'s `Display`; `debug` is the debug format of an optional text -/
def selectErrorText (debug : Option String → String) : TransportSelectError → String
  | .cancelled => "transport selection cancelled"
  | .contractViolation => "transport selector safety timeout exceeded"
  | .allFailed irohErr wssErr =>
    "all transport attempts failed (iroh=" ++ debug irohErr ++ ", wss=" ++ debug wssErr ++ ")"

/-- `SessionManagerError`'s `Display` -/
def sessionErrorText (debug : Option String → String) : SessionManagerError → String
  | .sessionLimitReached => "session limit reached"
  | .sessionNotFound id => "session not found: " ++ toString id
  | .sessionNotAcceptingNewStreams id => "session not accepting new streams: " ++ toString id
  | .transportResolutionFailed err => "transport resolution failed: " ++ selectErrorText debug err

def mapSessionError (debug : Option String → String) : SessionManagerError → ProxyError
  | .sessionLimitReached => .sessionLimitReached
  | .sessionNotFound _ => .transportFailed "session not found"
  | .sessionNotAcceptingNewStreams _ => .transportFailed "session not accepting new streams"
  | .transportResolutionFailed err => .transportFailed (selectErrorText debug err)

/-! ## The pump -/

/-- one turn of the pump's `select!`: what was read and, where something was, how writing it to the other side went -/
inductive PumpTurn where
  | readClient (read : Except IoError (List UInt8)) (write : Except IoError Unit)
  | readTransport (read : Except IoError (List UInt8)) (write : Except IoError Unit)
  | drained

structure Pumped where
  outcome : Except ProxyError Unit
  toTransport : List UInt8
  toClient : List UInt8

/-- the loop of `pump_bidirectional`; nothing while it is still going -/
def pumpLoop (toTransport toClient : List UInt8) : List PumpTurn → Option Pumped
  | [] => none
  | .drained :: _ => some ⟨.ok (), toTransport, toClient⟩
  | .readClient (.error err) _ :: _ => some ⟨.error (.pumpFailed err), toTransport, toClient⟩
  | .readClient (.ok []) _ :: _ => some ⟨.ok (), toTransport, toClient⟩
  | .readClient (.ok _) (.error err) :: _ => some ⟨.error (.pumpFailed err), toTransport, toClient⟩
  | .readClient (.ok bytes) (.ok ()) :: turns => pumpLoop (toTransport ++ bytes) toClient turns
  | .readTransport (.error err) _ :: _ => some ⟨.error (.pumpFailed err), toTransport, toClient⟩
  | .readTransport (.ok []) _ :: _ => some ⟨.ok (), toTransport, toClient⟩
  | .readTransport (.ok _) (.error err) :: _ => some ⟨.error (.pumpFailed err), toTransport, toClient⟩
  | .readTransport (.ok bytes) (.ok ()) :: turns => pumpLoop toTransport (toClient ++ bytes) turns

/-! ## One request -/

/-- what a request meets outside -/
structure Surroundings where
  startedAt : Instant
  /-- how the resolution of a transport request ends -/
  resolve : TransportRequest → Resolution
  resolveNow : Instant
  resolveCloseNow : Instant
  pump : List PumpTurn
  endNow : Instant
  endCloseNow : Instant

inductive ProxyResult where
  | completed
  | failed (error : ProxyError)
deriving DecidableEq, Repr

/-- what a request leaves when it has returned -/
structure Processed where
  manager : SessionManager
  /-- the session it registered -/
  sessionId : Option SessionId
  /-- the replies it sent to its client -/
  replies : List Socks5Reply
  result : ProxyResult

/-- the end of a request without a stream -/
def failUnresolved (m : SessionManager) (id : SessionId) (proxyErr : ProxyError) (env : Surroundings) : Processed :=
  ⟨(m.handleEvent id .deadlineReached env.endNow env.endCloseNow).2, some id, (mapReply proxyErr).toList,
    .failed proxyErr⟩

/-- `process_intent`; nothing while the pump is still going -/
def processIntent (debug : Option String → String) (v6 : Ipv6Text) (m : SessionManager) (intent : ProxyIntent)
    (env : Surroundings) : Option Processed :=
  match m.registerSession ⟨env.startedAt, peerLabel intent⟩ with
  | (.error .sessionLimitReached, m) => some ⟨m, none, [.generalFailure], .failed .sessionLimitReached⟩
  | (.error err, m) => some ⟨m, none, [.generalFailure], .failed (.transportFailed (sessionErrorText debug err))⟩
  | (.ok id, m) =>
    match m.resolveStream id (env.resolve (transportRequest v6 intent)) env.resolveNow env.resolveCloseNow with
    | (some (.ok _), m) =>
      (pumpLoop [] [] env.pump).map fun pumped =>
        ⟨(m.handleEvent id .streamClosed env.endNow env.endCloseNow).2, some id, [.succeeded],
          match pumped.outcome with
          | .ok () => .completed
          | .error err => .failed err⟩
    | (some (.error err), m) => some (failUnresolved m id (mapSessionError debug err) env)
    | (none, m) => some (failUnresolved m id (.transportFailed "request timeout exceeded") env)

/-- the session the request registered is gone, and as many slots are available as before -/
def SlotReleased (m : SessionManager) (p : Processed) : Prop :=
  (∀ id ∈ p.sessionId, p.manager.registry.get id = none) ∧
    SessionRegistry.availableSlots p.manager.registry = SessionRegistry.availableSlots m.registry

/-- registration is refused; or the id drawn is not in use, and the transport opens and the stream-open event is
through before the timeout -/
def RefusedOrResolved (v6 : Ipv6Text) (m : SessionManager) (intent : ProxyIntent) (env : Surroundings) : Prop :=
  SessionRegistry.availableSlots m.registry = 0 ∨
    m.registry.get m.registry.next = none ∧
      ∃ kind, env.resolve (transportRequest v6 intent) = .opened kind none

/-! ## Where the slot goes -/

variable {debug : Option String → String} {v6 : Ipv6Text} {m : SessionManager} {intent : ProxyIntent}
  {env : Surroundings} {p : Processed}

/-- the manager once a request is registered -/
def registered (m : SessionManager) (intent : ProxyIntent) (env : Surroundings) : SessionManager :=
  (m.registerSession ⟨env.startedAt, peerLabel intent⟩).2

theorem registered_get (hfree : m.registry.free ≠ 0) :
    (registered m intent env).registry.get m.registry.next = some ⟨.active env.startedAt 0, true, env.startedAt⟩ :=
  SessionManager.registerSession_get_self hfree _

theorem registered_free (hfree : m.registry.free ≠ 0) (hfresh : m.registry.get m.registry.next = none) :
    (registered m intent env).registry.free + 1 = m.registry.free := by
  have hins := SlotStore.free_insert_of_fresh (s := { m.registry with free := m.registry.free - 1 }) hfresh
    (SessionManager.startRecord ⟨env.startedAt, peerLabel intent⟩)
  rw [registered, SessionManager.registerSession_of_free hfree]
  simp only [hins]
  omega

/-- a reused id throws out its old session, whose permit comes back at once -/
theorem registered_free_reused (hfree : m.registry.free ≠ 0) {r : SessionRecord}
    (hused : m.registry.get m.registry.next = some r) : (registered m intent env).registry.free = m.registry.free := by
  have hins := SlotStore.free_insert_of_taken (s := { m.registry with free := m.registry.free - 1 }) hused
    (SessionManager.startRecord ⟨env.startedAt, peerLabel intent⟩)
  rw [registered, SessionManager.registerSession_of_free hfree]
  simp only [hins]
  omega

theorem processIntent_of_full (hfull : m.registry.free = 0) :
    processIntent debug v6 m intent env =
      some ⟨m, none, [.generalFailure], .failed .sessionLimitReached⟩ := by
  rw [processIntent, SessionManager.registerSession_of_full hfull]

theorem processIntent_of_free (hfree : m.registry.free ≠ 0) :
    processIntent debug v6 m intent env =
      match (registered m intent env).resolveStream m.registry.next (env.resolve (transportRequest v6 intent))
          env.resolveNow env.resolveCloseNow with
      | (some (.ok _), m') =>
        (pumpLoop [] [] env.pump).map fun pumped =>
          ⟨(m'.handleEvent m.registry.next .streamClosed env.endNow env.endCloseNow).2, some m.registry.next,
            [.succeeded],
            match pumped.outcome with
            | .ok () => .completed
            | .error err => .failed err⟩
      | (some (.error err), m') => some (failUnresolved m' m.registry.next (mapSessionError debug err) env)
      | (none, m') =>
        some (failUnresolved m' m.registry.next (.transportFailed "request timeout exceeded") env) := by
  rw [processIntent, registered, SessionManager.registerSession_of_free hfree]

theorem slotReleased_of_refused (hfull : m.registry.free = 0)
    (h : processIntent debug v6 m intent env = some p) : SlotReleased m p := by
  rw [processIntent_of_full hfull, Option.some.injEq] at h
  subst h
  exact ⟨fun id hid => absurd hid (by simp), rfl⟩

/-- a request whose stream opened in time takes its session away with it -/
theorem resolved_effect (hfree : m.registry.free ≠ 0) {kind : TransportKind}
    (hres : env.resolve (transportRequest v6 intent) = .opened kind none)
    (h : processIntent debug v6 m intent env = some p) :
    p.sessionId = some m.registry.next ∧ p.manager.registry.get m.registry.next = none ∧
      p.manager.registry.free = (registered m intent env).registry.free + 1 := by
  have hstart : (registered m intent env).registry.get m.registry.next = _ := registered_get hfree
  obtain ⟨hresult, hget, hkeep⟩ :=
    SessionManager.resolveStream_opened hstart kind none env.resolveNow env.resolveCloseNow
  rw [processIntent_of_free hfree, hres] at h
  generalize SessionManager.resolveStream _ _ _ _ _ = r at h hresult hget hkeep
  obtain ⟨result, m'⟩ := r
  simp only [SessionManager.resultInTime] at hresult
  subst hresult
  obtain ⟨pumped, -, rfl⟩ := Option.map_eq_some_iff.1 h
  obtain ⟨hgone, hback⟩ := SessionManager.handleEvent_streamClosed_last hget saturatingPred_saturatingSucc_zero
    env.endNow env.endCloseNow
  refine ⟨rfl, hgone, ?_⟩
  simp only at hkeep hback ⊢
  rw [hback, hkeep]

/-- a request without a stream in time leaves its session registered -/
theorem unresolved_effect (hfree : m.registry.free ≠ 0)
    (hres : ∀ kind, env.resolve (transportRequest v6 intent) ≠ .opened kind none)
    (h : processIntent debug v6 m intent env = some p) :
    p.sessionId = some m.registry.next ∧ ∃ r, p.manager.registry.get m.registry.next = some r := by
  have hstart : (registered m intent env).registry.get m.registry.next = _ := registered_get hfree
  -- the session is active when `DeadlineReached` arrives, and so it stays
  have hfail : ∀ (m' : SessionManager) (n : UInt32) (a : Instant) (e : ProxyError),
      m'.registry.get m.registry.next = some ⟨.active env.startedAt n, true, a⟩ →
      p = failUnresolved m' m.registry.next e env →
      p.sessionId = some m.registry.next ∧ ∃ r, p.manager.registry.get m.registry.next = some r := by
    rintro m' n a e hget rfl
    exact ⟨rfl, _, SessionManager.handleEvent_deadlineReached_active hget _ _⟩
  rw [processIntent_of_free hfree] at h
  cases hr : env.resolve (transportRequest v6 intent) with
  | pending =>
    rw [hr] at h
    simp only [SessionManager.resolveStream, hstart, if_true, Option.some.injEq] at h
    exact hfail _ _ _ _ hstart h.symm
  | failed err =>
    rw [hr] at h
    simp only [SessionManager.resolveStream, hstart, if_true, Option.some.injEq] at h
    exact hfail _ _ _ _ hstart h.symm
  | opened kind applied =>
    cases applied with
    | none => exact absurd hr (hres kind)
    | some k =>
      obtain ⟨hresult, hget, -⟩ :=
        SessionManager.resolveStream_opened hstart kind (some k) env.resolveNow env.resolveCloseNow
      rw [hr] at h
      generalize SessionManager.resolveStream _ _ _ _ _ = r at h hresult hget
      obtain ⟨result, m'⟩ := r
      simp only [SessionManager.resultInTime] at hresult
      subst hresult
      simp only [Option.some.injEq] at h
      exact hfail _ _ _ _ hget h.symm

theorem slotReleased_of_resolved (hfree : m.registry.free ≠ 0) (hfresh : m.registry.get m.registry.next = none)
    {kind : TransportKind} (hres : env.resolve (transportRequest v6 intent) = .opened kind none)
    (h : processIntent debug v6 m intent env = some p) : SlotReleased m p := by
  obtain ⟨hid, hgone, hback⟩ := resolved_effect hfree hres h
  refine ⟨?_, ?_⟩
  · intro id hmem
    rw [hid] at hmem
    cases hmem
    exact hgone
  · exact hback.trans (registered_free hfree hfresh)

theorem not_slotReleased_of_unresolved (hfree : m.registry.free ≠ 0)
    (hres : ∀ kind, env.resolve (transportRequest v6 intent) ≠ .opened kind none)
    (h : processIntent debug v6 m intent env = some p) : ¬SlotReleased m p := by
  obtain ⟨hid, r, hget⟩ := unresolved_effect hfree hres h
  intro hrel
  have hnone := hrel.1 m.registry.next hid
  rw [hget] at hnone
  cases hnone

/-- **One request.** It gives its slot back exactly when it is refused or its stream opens in time. -/
theorem slotReleased_iff (h : processIntent debug v6 m intent env = some p) :
    SlotReleased m p ↔ RefusedOrResolved v6 m intent env := by
  by_cases hfull : m.registry.free = 0
  · exact ⟨fun _ => Or.inl hfull, fun _ => slotReleased_of_refused hfull h⟩
  constructor
  · intro hrel
    by_cases hres : ∃ kind, env.resolve (transportRequest v6 intent) = .opened kind none
    · refine Or.inr ⟨?_, hres⟩
      obtain ⟨kind, hkind⟩ := hres
      by_contra hused
      obtain ⟨r, hr⟩ := Option.ne_none_iff_exists'.1 hused
      -- the displaced session's permit came back too: one slot too many
      obtain ⟨-, -, hback⟩ := resolved_effect hfull hkind h
      have hsame := hrel.2
      rw [SessionRegistry.availableSlots, SessionRegistry.availableSlots, hback,
        registered_free_reused hfull hr] at hsame
      omega
    · exact absurd hrel (not_slotReleased_of_unresolved hfull (not_exists.1 hres) h)
  · rintro (hzero | ⟨hfresh, kind, hkind⟩)
    · exact absurd hzero hfull
    · exact slotReleased_of_resolved hfull hfresh hkind h

/-! ## Runs -/

variable (debug v6)

/-- one completed request after another -/
def step (m : SessionManager) (o : ProxyIntent × Surroundings) : SessionManager :=
  match processIntent debug v6 m o.1 o.2 with
  | some p => p.manager
  | none => m

/-- no session is registered and all slots are free -/
structure Idle (slots : ℕ) (m : SessionManager) : Prop where
  empty : ∀ id, m.registry.get id = none
  free : SessionRegistry.availableSlots m.registry = slots

theorem idle_new (config : SessionManagerConfig) (slots : ℕ) : Idle slots (SessionManager.new config slots) :=
  ⟨fun id => SlotStore.get_new slots id, rfl⟩

variable {debug v6}

/-- a request leaves the sessions of others alone -/
theorem processIntent_get_other (h : processIntent debug v6 m intent env = some p) {id : SessionId}
    (hid : id ≠ m.registry.next) : p.manager.registry.get id = m.registry.get id := by
  by_cases hfull : m.registry.free = 0
  · rw [processIntent_of_full hfull, Option.some.injEq] at h
    rw [← h]
  have hreg : (registered m intent env).registry.get id = m.registry.get id :=
    SessionManager.registerSession_get_other hid _
  have hresolved := SessionManager.resolveStream_get_other (registered m intent env) hid
    (env.resolve (transportRequest v6 intent)) env.resolveNow env.resolveCloseNow
  rw [processIntent_of_free hfull] at h
  generalize SessionManager.resolveStream _ _ _ _ _ = r at h hresolved
  obtain ⟨result, m'⟩ := r
  rw [hreg] at hresolved
  rw [← hresolved]
  match result with
  | some (.ok kind) =>
    obtain ⟨pumped, -, rfl⟩ := Option.map_eq_some_iff.1 h
    exact SessionManager.handleEvent_get_other m' hid _ _ _
  | some (.error err) =>
    simp only [Option.some.injEq] at h
    rw [← h]
    exact SessionManager.handleEvent_get_other m' hid _ _ _
  | none =>
    simp only [Option.some.injEq] at h
    rw [← h]
    exact SessionManager.handleEvent_get_other m' hid _ _ _

/-- a request that is refused or resolved leaves an idle manager idle -/
theorem step_idle {slots : ℕ} {m : SessionManager} (o : ProxyIntent × Surroundings) (hidle : Idle slots m)
    (hres : RefusedOrResolved v6 m o.1 o.2) : Idle slots (step debug v6 m o) := by
  unfold step
  cases h : processIntent debug v6 m o.1 o.2 with
  | none => exact hidle
  | some p =>
    have hrel := (slotReleased_iff h).2 hres
    refine ⟨?_, hrel.2.trans hidle.free⟩
    intro id
    by_cases hid : id = m.registry.next
    · subst hid
      by_cases hfull : m.registry.free = 0
      · rw [processIntent_of_full hfull, Option.some.injEq] at h
        rw [← h]
        exact hidle.empty _
      · rcases hres with hzero | ⟨-, kind, hkind⟩
        · exact absurd hzero hfull
        · exact (resolved_effect hfull hkind h).2.1
    · rw [processIntent_get_other h hid]
      exact hidle.empty id

/-! ## Main result -/

/-- **Where session slots go.** Over any registry, a request that has returned gave its slot back (its session is gone
and as many slots are available as before) if and only if it was refused, or its stream opened and was recorded before
the timeout under an id not in use. So when every request of a run is refused or resolved, however its pump ends, all
slots are free again after it. -/
theorem process_intent_releases_iff (debug : Option String → String) (v6 : Ipv6Text) :
    (∀ (m : SessionManager) (intent : ProxyIntent) (env : Surroundings) (p : Processed),
      processIntent debug v6 m intent env = some p → (SlotReleased m p ↔ RefusedOrResolved v6 m intent env)) ∧
    ∀ (config : SessionManagerConfig) (slots : ℕ) (requests : List (ProxyIntent × Surroundings)),
      AllSteps (step debug v6) (fun m o => RefusedOrResolved v6 m o.1 o.2) (SessionManager.new config slots) requests →
        SessionRegistry.availableSlots (run (step debug v6) (SessionManager.new config slots) requests).registry =
          slots := by
  refine ⟨fun m intent env p h => slotReleased_iff h, fun config slots requests hall => ?_⟩
  exact (run_inv_of_allSteps (fun m o => step_idle o) (idle_new config slots) hall).free

/-! ## One slot -/

/-- no IPv6 text, for requests that hold none -/
def noIpv6Text : Ipv6Text := ⟨fun _ => [], fun _ => none⟩

def debugText : Option String → String
  | some text => "Some(\"" ++ text ++ "\")"
  | none => "None"

/-- a manager with one slot -/
def oneSlot : SessionManager := SessionManager.new ⟨30, 10⟩ 1

/-- a request whose resolution ends as given and whose client closes at once -/
def request (resolution : Resolution) : ProxyIntent × Surroundings :=
  (⟨.domain "example.com" 443, .socks5, 1⟩,
    ⟨0, fun _ => resolution, 1, 1, [.readClient (.ok []) (.ok ())], 2, 2⟩)

/-- a request that resolves in time gives the slot back -/
theorem resolved_request_releases :
    ∃ p, processIntent debugText noIpv6Text oneSlot (request (.opened .wss none)).1 (request (.opened .wss none)).2 =
      some p ∧ SlotReleased oneSlot p :=
  ⟨_, rfl,
    ((process_intent_releases_iff debugText noIpv6Text).1 oneSlot (request (.opened .wss none)).1
      (request (.opened .wss none)).2 _ rfl).2 (Or.inr ⟨rfl, .wss, rfl⟩)⟩

/-- a request so resolved returns, its session stays registered and active, no slot is left, and the next request is
refused although its transport would open -/
def KeepsSlot (resolution : Resolution) : Prop :=
  (∃ p, processIntent debugText noIpv6Text oneSlot (request resolution).1 (request resolution).2 = some p ∧
    ¬SlotReleased oneSlot p) ∧
  (step debugText noIpv6Text oneSlot (request resolution)).registry.get 1 = some ⟨.active 0 0, true, 2⟩ ∧
  SessionRegistry.availableSlots (step debugText noIpv6Text oneSlot (request resolution)).registry = 0 ∧
  (processIntent debugText noIpv6Text (step debugText noIpv6Text oneSlot (request resolution))
    (request (.opened .wss none)).1 (request (.opened .wss none)).2).map (·.result) = some (.failed .sessionLimitReached)

/-- **A failed resolution keeps the slot.** Both transports fail, or the timeout comes first. -/
theorem failed_resolution_keeps_slot :
    KeepsSlot (.failed (.allFailed (some "iroh down") (some "wss down"))) ∧ KeepsSlot .pending := by
  refine ⟨⟨⟨_, rfl, fun h => ?_⟩, by decide, by decide, by decide⟩, ⟨⟨_, rfl, fun h => ?_⟩, by decide, by decide, by decide⟩⟩
  · exact absurd h.2 (by decide)
  · exact absurd h.2 (by decide)

end N0wss.Bridge
