/-
The transport selectors (`session/transport_selector.rs` for streams, `session/datagram_transport_selector.rs` for
datagrams): attempts of a carrier, each under a timeout. What a carrier does is an input; its errors are texts here.

Durations are in nanoseconds. The token of a call is not cancelled here.

- `emitOutboundDatagram_eq_ok`: a datagram is reported as emitted exactly when the carrier is done with it in time.
- `openStream_eq_ok`: a stream comes from one of the two carriers.
-/
import N0wss.Core.Timed
import N0wss.Datagram.Contract
import N0wss.Session.Manager

namespace N0wss.Session

open Datagram

variable {ε : Type}

/-- `as_millis` -/
def asMillis (duration : Duration) : ℕ := duration / 1000000

/-! ## Datagrams -/

inductive DatagramTransportKind where
  | wssDatagram
deriving DecidableEq, Repr

structure DatagramTransportResolution where
  associationId : DatagramAssociationId
  transportKind : DatagramTransportKind
deriving DecidableEq, Repr

inductive DatagramTransportSelectError where
  | cancelled
  | wssTimeout (millis : ℕ)
  | wssFailed (detail : String)
deriving DecidableEq, Repr

/-- `DatagramTransportSelectError`'s `Display` -/
def DatagramTransportSelectError.text : DatagramTransportSelectError → String
  | .cancelled => "datagram transport selection cancelled"
  | .wssTimeout millis => "wss-backed datagram path timed out after " ++ toString millis ++ "ms"
  | .wssFailed detail => "wss-backed datagram path failed: " ++ detail

/-- what the carrier's result means -/
def emissionResult (wssTimeout : Duration) (associationId : DatagramAssociationId) :
    Option (Except String Unit) → Except DatagramTransportSelectError DatagramTransportResolution
  | some (.ok ()) => .ok ⟨associationId, .wssDatagram⟩
  | some (.error err) => .error (.wssFailed err)
  | none => .error (.wssTimeout (asMillis wssTimeout))

def emitOutboundDatagram (wssTimeout : Duration) (wss : DatagramEnvelope → Timed ε (Except String Unit))
    (envelope : DatagramEnvelope) : Done ε (Except DatagramTransportSelectError DatagramTransportResolution) :=
  ((wss envelope).timeout wssTimeout).map (emissionResult wssTimeout envelope.associationId)

/-- `DatagramSelectorDispatch::dispatch`, with its error's text -/
def dispatchOutbound (wssTimeout : Duration) (wss : DatagramEnvelope → Timed ε (Except String Unit))
    (envelope : DatagramEnvelope) : Except String Unit :=
  match (emitOutboundDatagram wssTimeout wss envelope).value with
  | .ok _ => .ok ()
  | .error err => .error ("datagram transport selection failed: " ++ err.text)

/-- emitted, as far as the selector can tell -/
theorem emitOutboundDatagram_eq_ok {wssTimeout : Duration} {wss : DatagramEnvelope → Timed ε (Except String Unit)}
    {envelope : DatagramEnvelope} :
    (emitOutboundDatagram wssTimeout wss envelope).value = .ok ⟨envelope.associationId, .wssDatagram⟩ ↔
      ∃ d, (wss envelope).result = some (d, .ok ()) ∧ d ≤ wssTimeout := by
  rw [← Timed.timeout_eq_some, emitOutboundDatagram, Done.value_map]
  rcases ((wss envelope).timeout wssTimeout).value with _ | err | ⟨⟨⟩⟩ <;> simp [emissionResult]

theorem dispatchOutbound_eq_ok {wssTimeout : Duration} {wss : DatagramEnvelope → Timed ε (Except String Unit)}
    {envelope : DatagramEnvelope} : dispatchOutbound wssTimeout wss envelope = .ok () ↔
      (emitOutboundDatagram wssTimeout wss envelope).value = .ok ⟨envelope.associationId, .wssDatagram⟩ := by
  rw [dispatchOutbound, emitOutboundDatagram, Done.value_map]
  rcases ((wss envelope).timeout wssTimeout).value with _ | err | ⟨⟨⟩⟩ <;> simp [emissionResult]

/-! ## Streams -/

structure TransportSelectorConfig where
  irohTimeout : Duration
  wssTimeout : Duration
  safetyTimeout : Duration
deriving DecidableEq, Repr

/-- an attempt that failed has a text -/
def attemptOutcome (timeout : Duration) : Option (Except String TransportKind) → Except String TransportKind
  | some result => result
  | none => .error ("timeout after " ++ toString (asMillis timeout) ++ "ms")

def attemptWithTimeout (timeout : Duration) (adapter : Timed ε (Except String TransportKind)) :
    Done ε (Except String TransportKind) :=
  (adapter.timeout timeout).map (attemptOutcome timeout)

def openStreamInner (config : TransportSelectorConfig) (iroh wss : Timed ε (Except String TransportKind)) :
    Timed ε (Except TransportSelectError TransportKind) :=
  (attemptWithTimeout config.irohTimeout iroh).toTimed.bind fun
    | .ok kind => Timed.now (.ok kind)
    | .error irohErr =>
      (attemptWithTimeout config.wssTimeout wss).toTimed.map fun attempt =>
        attempt.mapError fun wssErr => .allFailed (some irohErr) (some wssErr)

def openStream (config : TransportSelectorConfig) (iroh wss : Timed ε (Except String TransportKind)) :
    Done ε (Except TransportSelectError TransportKind) :=
  ((openStreamInner config iroh wss).timeout config.safetyTimeout).map fun
    | some result => result
    | none => .error .contractViolation

theorem attemptWithTimeout_eq_ok {timeout : Duration} {adapter : Timed ε (Except String TransportKind)}
    {kind : TransportKind} (h : (attemptWithTimeout timeout adapter).value = .ok kind) :
    ∃ d, adapter.result = some (d, .ok kind) := by
  rw [attemptWithTimeout, Done.value_map] at h
  cases hvalue : (adapter.timeout timeout).value with
  | none => rw [hvalue] at h; cases h
  | some result =>
    rw [hvalue] at h
    obtain ⟨d, hresult, -⟩ := Timed.timeout_eq_some.1 hvalue
    exact ⟨d, by rw [hresult]; exact congrArg (fun r => some (d, r)) h⟩

/-- **A stream comes from a carrier.** -/
theorem openStream_eq_ok {config : TransportSelectorConfig} {iroh wss : Timed ε (Except String TransportKind)}
    {kind : TransportKind} (h : (openStream config iroh wss).value = .ok kind) :
    (∃ d, iroh.result = some (d, .ok kind)) ∨ ∃ d, wss.result = some (d, .ok kind) := by
  rw [openStream, Done.value_map] at h
  cases hvalue : ((openStreamInner config iroh wss).timeout config.safetyTimeout).value with
  | none => rw [hvalue] at h; cases h
  | some result =>
    rw [hvalue] at h
    obtain rfl : result = .ok kind := h
    obtain ⟨_, hresult, -⟩ := Timed.timeout_eq_some.1 hvalue
    obtain ⟨_, attempt, _, hiroh, hrest, -⟩ := Timed.bind_eq_some.1 hresult
    rw [Done.result_toTimed, Option.some.injEq, Prod.mk.injEq] at hiroh
    obtain ⟨-, hiroh⟩ := hiroh
    cases attempt with
    | ok irohKind =>
      cases hrest
      exact Or.inl (attemptWithTimeout_eq_ok hiroh)
    | error irohErr =>
      obtain ⟨attempt, hwss, hattempt⟩ := Timed.map_eq_some.1 hrest
      rw [Done.result_toTimed, Option.some.injEq, Prod.mk.injEq] at hwss
      cases attempt with
      | error wssErr => cases hattempt
      | ok wssKind =>
        cases hattempt
        exact Or.inr (attemptWithTimeout_eq_ok hwss.2)

end N0wss.Session
