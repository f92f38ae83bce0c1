/-
What becomes of a target that the server cannot connect to (`server_proxy_loop` and `open_stream` in `wss_gateway/mod.rs`,
`TransportSelector`, `SessionManager::resolve_stream`, `process_intent`): from the error on the server to the SOCKS5 reply
on the client.

The server keeps the error to itself and drops the websocket, and the client reports a failed transport.

- `sentByServer_of_failure`: after the acknowledged handshake, nothing is sent.
- `replies_of_unopened`: a request whose transport does not open is answered with a general failure.
- `target_class_kept_iff`: the reply is the one of the target's error exactly when that is a general failure anyway.
- `refused_target_reported`: a refused target, and the reply is the one of a rejected token.
-/
import N0wss.Bridge.Runtime
import N0wss.Gateway.EmitDatagram
import N0wss.Gateway.Handshake

namespace N0wss.Gateway

open Bridge Net Session Socks5

/-! ## The server -/

/-- `server_proxy_loop` up to the relays: what is sent, and whether the relays start; `connect` is `TcpStream::connect` -/
def serverProxyLoop (connect : String → UInt16 → Except IoError Unit) (sendConnected : Except String Unit)
    (targetMessage : Message) : List Message × Except WssError Unit :=
  match parseTargetRequest targetMessage with
  | .error err => ([], .error err)
  | .ok (targetHost, targetPort) =>
    match connect targetHost targetPort with
    | .error err => ([], .error (.targetConnectFailed err.text))
    | .ok () =>
      match sendConnected with
      | .error err => ([], .error (.upgradeFailed err))
      | .ok () => ([.text "connected"], .ok ())

/-- what the server sends on a connection before it relays; a datagram connection's part is left out -/
def sentByServer (connect : String → UInt16 → Except IoError Unit) (sendConnected : Except String Unit) :
    Accepted → List Message
  | .failed _ => []
  | .serverDatagramLoop _ _ => [.text "ok"]
  | .serverProxyLoop targetMessage _ => .text "ok" :: (serverProxyLoop connect sendConnected targetMessage).1

/-- a target that is parsed and cannot be connected to: the acknowledgement of the handshake is all that is sent -/
theorem sentByServer_of_failure {connect : String → UInt16 → Except IoError Unit} {sendConnected : Except String Unit}
    {targetMessage : Message} {later : Frames} {host : String} {port : UInt16} {err : IoError}
    (hparse : parseTargetRequest targetMessage = .ok (host, port)) (hconnect : connect host port = .error err) :
    sentByServer connect sendConnected (.serverProxyLoop targetMessage later) = [.text "ok"] := by
  simp only [sentByServer, serverProxyLoop, hparse, hconnect]

/-! ## The client -/

/-- the client reads what the server sent, in its order; a message may come late or never -/
structure Delivers (sent : List Message) (w : Wire) : Prop where
  first : ∀ d message, w.authAck = some (d, some (.ok message)) → sent[0]? = some message
  second : ∀ d message, w.requestAck = some (d, some (.ok message)) → sent[1]? = some message

/-- `UnavailableTransportAdapter::open_stream` -/
def unavailableTransport {ε : Type} : Timed ε (Except String TransportKind) :=
  Timed.now (.error "iroh runtime transport is not configured for this launch")

/-- `TransportSelector::open_stream` over one connection -/
def openOver (config : TransportSelectorConfig) (debug : Message → String) (token : String) (w : Wire)
    (request : TransportRequest) : Done (ClientEvent Unit) (Except TransportSelectError TransportKind) :=
  Session.openStream config unavailableTransport
    ((openStream debug token w request).map fun result => result.mapError WssError.text)

/-- how this ends under `total_request_timeout` -/
def resolutionOf {ε : Type} (totalRequestTimeout : Duration) (opened : Done ε (Except TransportSelectError TransportKind)) :
    Resolution :=
  if totalRequestTimeout < opened.time then .pending
  else
    match opened.value with
    | .error err => .failed err
    | .ok kind => .opened kind none

theorem openOver_of_unacknowledged {config : TransportSelectorConfig} {debug : Message → String} {token : String} {w : Wire}
    {request : TransportRequest} (h : Delivers [.text "ok"] w) :
    ∃ err, (openOver config debug token w request).value = .error err := by
  cases hvalue : (openOver config debug token w request).value with
  | error err => exact ⟨err, rfl⟩
  | ok kind =>
    rcases Session.openStream_eq_ok hvalue with ⟨d, hiroh⟩ | ⟨d, hwss⟩
    · cases hiroh
    · obtain ⟨result, hopened, hok⟩ := Timed.map_eq_some.1 hwss
      cases result with
      | error err => cases hok
      | ok kind =>
        obtain ⟨_, message, hack, -⟩ := openStream_acknowledged hopened
        have hsecond := h.second _ _ hack
        cases hsecond

theorem resolutionOf_of_error {ε : Type} {totalRequestTimeout : Duration}
    {opened : Done ε (Except TransportSelectError TransportKind)} {err : TransportSelectError}
    (h : opened.value = .error err) (kind : TransportKind) (applied : Option ℕ) :
    resolutionOf totalRequestTimeout opened ≠ .opened kind applied := by
  unfold resolutionOf
  split_ifs
  · exact Resolution.noConfusion
  · rw [h]
    exact Resolution.noConfusion

/-- **No transport, no other reply.** -/
theorem replies_of_unopened {debug : Option String → String} {v6 : Ipv6Text} {m : SessionManager} {intent : ProxyIntent}
    {env : Surroundings} {p : Processed}
    (hresolve : ∀ kind applied, env.resolve (transportRequest v6 intent) ≠ .opened kind applied)
    (h : processIntent debug v6 m intent env = some p) : p.replies = [.generalFailure] := by
  by_cases hfree : m.registry.free = 0
  · rw [processIntent_of_full hfree, Option.some.injEq] at h
    rw [← h]
  · have hget : (registered m intent env).registry.get m.registry.next = _ := registered_get hfree
    rw [processIntent_of_free hfree] at h
    cases hresolution : env.resolve (transportRequest v6 intent) with
    | opened kind applied => exact absurd hresolution (hresolve kind applied)
    | pending =>
      simp only [hresolution, SessionManager.resolveStream, hget, if_true, Option.some.injEq] at h
      rw [← h]
      rfl
    | failed err =>
      simp only [hresolution, SessionManager.resolveStream, hget, if_true, Option.some.injEq] at h
      rw [← h]
      rfl

/-! ## End to end -/

/-- a CONNECT request that gets through authentication and target parsing on the server, whose target cannot be connected
to, with everything around it -/
structure FailedTarget (v6 : Ipv6Text) (intent : ProxyIntent) where
  acceptance : Acceptance
  policy : AuthPolicy
  peerLabel : String
  token : String
  later : Frames
  /-- the server enters the proxy loop with the client's two messages -/
  accepted : handleAccepted acceptance policy peerLabel
      (.ok (.binary (Utf8.encode token.toList)) :: .ok (.text (connectText (transportRequest v6 intent))) :: later) =
    .serverProxyLoop (.text (connectText (transportRequest v6 intent))) later
  host : String
  port : UInt16
  parsed : parseTargetRequest (.text (connectText (transportRequest v6 intent))) = .ok (host, port)
  connect : String → UInt16 → Except IoError Unit
  err : IoError
  fails : connect host port = .error err
  sendConnected : Except String Unit
  wire : Wire
  /-- what the client reads is what the server sent -/
  delivers : Delivers
    (sentByServer connect sendConnected (handleAccepted acceptance policy peerLabel
      (.ok (.binary (Utf8.encode token.toList)) :: .ok (.text (connectText (transportRequest v6 intent))) :: later))) wire
  config : TransportSelectorConfig
  totalRequestTimeout : Duration
  debugMessage : Message → String

namespace FailedTarget

variable {v6 : Ipv6Text} {intent : ProxyIntent} (f : FailedTarget v6 intent)

/-- how resolving the stream ends on the client -/
def resolution : Resolution :=
  resolutionOf f.totalRequestTimeout
    (openOver f.config f.debugMessage f.token f.wire (transportRequest v6 intent))

theorem resolution_ne_opened (kind : TransportKind) (applied : Option ℕ) : f.resolution ≠ .opened kind applied := by
  have hsent := f.delivers
  rw [f.accepted, sentByServer_of_failure f.parsed f.fails] at hsent
  obtain ⟨err, hvalue⟩ := openOver_of_unacknowledged hsent
  exact resolutionOf_of_error hvalue kind applied

end FailedTarget

/-- the client's replies tell the target's error, and a refused target from any failure of the infrastructure -/
def KeepsClass (err : IoError) (replies : List Socks5Reply) : Prop :=
  replies = [mapTargetError err] ∧
    (err.kind = .connectionRefused → ∀ other : ProxyError, other.category = .infrastructure →
      replies ≠ (mapReply other).toList)

theorem mapTargetError_eq_generalFailure_iff (err : IoError) : mapTargetError err = .generalFailure ↔ err.kind = .other := by
  cases hkind : err.kind <;> simp [mapTargetError, hkind]

/-- **When a target's failure keeps its class.** For every such request, whatever the timing and the session manager: the
reply that the client receives tells the error's class if and only if the error has none of its own. -/
theorem target_class_kept_iff (debug : Option String → String) {v6 : Ipv6Text} {intent : ProxyIntent}
    (f : FailedTarget v6 intent) (m : SessionManager) (env : Surroundings) (p : Processed)
    (hresolve : env.resolve (transportRequest v6 intent) = f.resolution)
    (hp : processIntent debug v6 m intent env = some p) : KeepsClass f.err p.replies ↔ f.err.kind = .other := by
  have hreplies : p.replies = [.generalFailure] := by
    refine replies_of_unopened (fun kind applied => ?_) hp
    rw [hresolve]
    exact f.resolution_ne_opened kind applied
  rw [← mapTargetError_eq_generalFailure_iff, KeepsClass, hreplies]
  constructor
  · rintro ⟨hsame, -⟩
    exact (List.cons.inj hsame).1.symm
  · intro hgeneral
    refine ⟨by rw [hgeneral], fun hrefused => ?_⟩
    rw [mapTargetError_eq_generalFailure_iff, hrefused] at hgeneral
    cases hgeneral

/-! ## A refused target -/

/-- a request for example.com:443 -/
def exampleIntent : ProxyIntent := ⟨.domain "example.com" 443, .socks5, 1⟩

def tokenPolicy : AuthPolicy := ⟨"token", by decide⟩

theorem example_accepted : handleAccepted ⟨.ok (), .ok (), .ok ()⟩ tokenPolicy "10.0.0.9:50000"
      (.ok (.binary (Utf8.encode "token".toList)) :: .ok (.text (connectText (transportRequest noIpv6Text exampleIntent))) ::
        []) =
    .serverProxyLoop (.text (connectText (transportRequest noIpv6Text exampleIntent))) [] := by decide

theorem example_parsed : parseTargetRequest (.text (connectText (transportRequest noIpv6Text exampleIntent))) =
    .ok ("example.com", 443) := by decide

/-- the client's side: the handshake is acknowledged, and then the stream ends -/
def droppedWire : Wire := { quickWire none with requestAck := some (1000000, none) }

/-- the server's connection to example.com:443 fails so -/
def failedExample (err : IoError) : FailedTarget noIpv6Text exampleIntent where
  acceptance := ⟨.ok (), .ok (), .ok ()⟩
  policy := tokenPolicy
  peerLabel := "10.0.0.9:50000"
  token := "token"
  later := []
  accepted := example_accepted
  host := "example.com"
  port := 443
  parsed := example_parsed
  connect := fun _ _ => .error err
  err
  fails := rfl
  sendConnected := .ok ()
  wire := droppedWire
  delivers := by
    rw [example_accepted, sentByServer_of_failure example_parsed rfl]
    refine ⟨?_, ?_⟩
    · rintro _ _ ⟨⟩
      rfl
    · rintro _ _ ⟨⟩
  config := ⟨1000000000, 5000000000, 7000000000⟩
  totalRequestTimeout := 10000000000
  debugMessage := fun _ => ""

/-- what the request meets on the client -/
def exampleSurroundings (err : IoError) : Surroundings := ⟨0, fun _ => (failedExample err).resolution, 1, 1, [], 2, 2⟩

/-- **A refused target.** The client is told of a general failure, as it is when the server rejects the token. -/
theorem refused_target_reported :
    ∃ p, processIntent debugText noIpv6Text oneSlot exampleIntent
          (exampleSurroundings ⟨.connectionRefused, "Connection refused (os error 111)"⟩) = some p ∧
      p.replies = [.generalFailure] ∧
      mapTargetError ⟨.connectionRefused, "Connection refused (os error 111)"⟩ = .connectionRefused ∧
      p.replies = (mapReply (.transportFailed "auth rejected: invalid token")).toList ∧
      ¬KeepsClass ⟨.connectionRefused, "Connection refused (os error 111)"⟩ p.replies := by
  refine ⟨_, rfl, rfl, rfl, rfl, ?_⟩
  rintro ⟨hsame, -⟩
  exact absurd hsame (by decide)

/-- an error without a code of its own is told -/
theorem unclassed_target_reported :
    ∃ p, processIntent debugText noIpv6Text oneSlot exampleIntent (exampleSurroundings ⟨.other, "No route to host"⟩) =
        some p ∧ KeepsClass ⟨.other, "No route to host"⟩ p.replies :=
  ⟨_, rfl, (target_class_kept_iff debugText (failedExample ⟨.other, "No route to host"⟩) oneSlot
    (exampleSurroundings ⟨.other, "No route to host"⟩) _ rfl rfl).2 rfl⟩

end N0wss.Gateway
