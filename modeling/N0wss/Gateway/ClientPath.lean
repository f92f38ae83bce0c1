/-
The client's side of a websocket (`connect_websocket`, `authenticate_websocket`, `open_datagram_path` and `open_stream` in
`wss_gateway/mod.rs`): the connection, the token and its acknowledgement, the request and its acknowledgement.

What the network and the server do is an input, with the time it takes. The token of a call is not cancelled here: a
datagram is sent under a token of its own that nobody cancels.

- `handshake_events`: until a path is open, nothing but the token and the request is sent.
- `openStream_acknowledged`: a stream is opened only on the acknowledgement that says so.
-/
import N0wss.Core.Timed
import N0wss.Gateway.DatagramPath

namespace N0wss.Gateway

open Bridge Datagram Net

/-- `WssError`'s `Display` -/
def WssError.text : WssError → String
  | .cancelled => "operation cancelled"
  | .tcpConnectFailed detail => "tcp connect failed: " ++ detail
  | .upgradeFailed detail => "websocket upgrade failed: " ++ detail
  | .handshakeFailed detail => "handshake failed: " ++ detail
  | .authRejected detail => "auth rejected: " ++ detail
  | .invalidWebsocketUri detail => "invalid websocket uri: " ++ detail
  | .targetConnectFailed detail => "target connect failed: " ++ detail
  | .invalidTargetRequest detail => "invalid target request: " ++ detail
  | .datagramPathFailed detail => "datagram path failed: " ++ detail

/-! ## What a client meets -/

/-- what `next` returns: nothing at the end of the stream -/
abbrev Next := Option (Except String Message)

/-- one connection of the client, in the order of its calls -/
structure Wire where
  tcp : Await (Except String Unit)
  tls : Await (Except String Unit)
  /-- whether the configured URI makes a request -/
  request : Except String Unit
  upgrade : Await (Except String Unit)
  sendToken : Await (Except String Unit)
  authAck : Await Next
  sendRequest : Await (Except String Unit)
  requestAck : Await Next
  sendDatagram : Await (Except String Unit)
  reply : Await Next
  close : Await (Except String Unit)

/-- what a client does that others can see -/
inductive ClientEvent (Socket : Type) where
  /-- the token, or the request -/
  | sent (message : Message)
  | sentDatagram (message : Message)
  /-- passed to the inbound handler -/
  | handed (envelope : DatagramEnvelope)
  /-- passed to `send_to` of a relay socket -/
  | sentTo (delivery : Delivery Socket)
deriving DecidableEq

variable {Socket : Type}

/-- a step without a trace; `wrap` is how its error is reported -/
def attempt (wrap : String → WssError) (outcome : Await (Except String Unit)) :
    Timed (ClientEvent Socket) (Except WssError Unit) :=
  (Timed.await outcome).map fun result => result.mapError wrap

/-- a message that is sent -/
def send (wrap : String → WssError) (event : ClientEvent Socket) (outcome : Await (Except String Unit)) :
    Timed (ClientEvent Socket) (Except WssError Unit) :=
  (attempt wrap outcome).andThen fun () => (Timed.emit event).map .ok

/-- the message that `next` returns; there must be one -/
def expect (missing : String) (wrap : String → WssError) : Next → Except WssError Message
  | none => .error (wrap missing)
  | some (.error err) => .error (wrap err)
  | some (.ok message) => .ok message

/-- text or binary with exactly this content -/
def Message.says (expected : String) : Message → Bool
  | .text content => content = expected
  | .binary bytes => bytes = Utf8.encode expected.toList
  | .ping _ | .pong _ | .close | .frame => false

/-! ## Opening -/

def connectWebsocket (w : Wire) : Timed (ClientEvent Socket) (Except WssError Unit) :=
  (attempt .tcpConnectFailed w.tcp).andThen fun () =>
  (attempt .handshakeFailed w.tls).andThen fun () =>
  (attempt .invalidWebsocketUri (some (0, w.request))).andThen fun () =>
  attempt .upgradeFailed w.upgrade

/-- `debug` is the debug format of a message -/
def checkAuthAck (debug : Message → String) (ack : Next) : Except WssError Unit := do
  let message ← expect "missing auth ack" .handshakeFailed ack
  if message.says "ok" then .ok () else .error (.authRejected ("unexpected auth ack: " ++ debug message))

def authenticateWebsocket (debug : Message → String) (token : String) (w : Wire) :
    Timed (ClientEvent Socket) (Except WssError Unit) :=
  (send .handshakeFailed (.sent (.binary (Utf8.encode token.toList))) w.sendToken).andThen fun () =>
  (Timed.await w.authAck).map (checkAuthAck debug)

/-- connected and authenticated -/
def connectAuthenticated (debug : Message → String) (token : String) (w : Wire) :
    Timed (ClientEvent Socket) (Except WssError Unit) :=
  (connectWebsocket w).andThen fun () => authenticateWebsocket debug token w

def checkPathAck (debug : Message → String) (ack : Next) : Except WssError Unit := do
  let message ← expect "missing datagram ack" .datagramPathFailed ack
  if message.says "datagram-ready" then .ok ()
  else .error (.datagramPathFailed ("unexpected datagram ack: " ++ debug message))

def openDatagramPath (debug : Message → String) (token : String) (w : Wire) (associationId : DatagramAssociationId) :
    Timed (ClientEvent Socket) (Except WssError Unit) :=
  (connectAuthenticated debug token w).andThen fun () =>
  (send .datagramPathFailed (.sent (.text (datagramOpenText associationId))) w.sendRequest).andThen fun () =>
  (Timed.await w.requestAck).map (checkPathAck debug)

def checkTargetAck (ack : Next) : Except WssError Unit := do
  let message ← expect "missing target ack" .handshakeFailed ack
  if message.says "connected" then .ok ()
  else
    match message with
    | .text text => .error (.targetConnectFailed text)
    | .binary bytes => .error (.targetConnectFailed (String.ofList (Utf8.lossy bytes)))
    | .ping _ | .pong _ | .close | .frame => .error (.handshakeFailed "unexpected target ack message type")

/-- `open_stream`, up to the stream it returns -/
def openStream (debug : Message → String) (token : String) (w : Wire) (request : TransportRequest) :
    Timed (ClientEvent Socket) (Except WssError Session.TransportKind) :=
  (connectAuthenticated debug token w).andThen fun () =>
  (send .handshakeFailed (.sent (.text (connectText request))) w.sendRequest).andThen fun () =>
  (Timed.await w.requestAck).map fun ack => (checkTargetAck ack).map fun () => .wss

/-! ## What opening does -/

section
variable {wrap : String → WssError} {event e : ClientEvent Socket} {outcome : Await (Except String Unit)} {n : ℕ}
  {debug : Message → String} {token : String} {w : Wire}

theorem attempt_eq_ok : (attempt wrap outcome : Timed (ClientEvent Socket) _).result = some (n, .ok ()) ↔
    outcome = some (n, .ok ()) := by
  rw [attempt, Timed.map_eq_some]
  constructor
  · rintro ⟨result, houtcome, hok⟩
    cases result with
    | error err => cases hok
    | ok => exact houtcome
  · intro houtcome
    exact ⟨.ok (), houtcome, rfl⟩

@[simp] theorem events_attempt : (attempt wrap outcome : Timed (ClientEvent Socket) _).events = [] := rfl

theorem send_eq_ok : (send wrap event outcome).result = some (n, .ok ()) ↔ outcome = some (n, .ok ()) := by
  rw [send, Timed.andThen_eq_ok]
  constructor
  · rintro ⟨d, ⟨⟩, m, hsent, hemit, rfl⟩
    obtain ⟨⟨⟩, hm, -⟩ := Timed.map_eq_some.1 hemit
    cases hm
    exact attempt_eq_ok.1 hsent
  · intro houtcome
    exact ⟨n, (), 0, attempt_eq_ok.2 houtcome, rfl, rfl⟩

/-- what is sent is in the log from the moment it is sent -/
theorem mem_events_send : (n, e) ∈ (send wrap event outcome).events ↔ e = event ∧ outcome = some (n, .ok ()) := by
  rw [send, Timed.mem_events_andThen]
  simp only [events_attempt, List.not_mem_nil, false_or, Timed.events_map, Timed.events_emit, List.mem_singleton,
    Prod.mk.injEq]
  constructor
  · rintro ⟨d, ⟨⟩, m, hsent, ⟨rfl, rfl⟩, rfl⟩
    exact ⟨rfl, attempt_eq_ok.1 hsent⟩
  · rintro ⟨rfl, houtcome⟩
    exact ⟨n, (), 0, attempt_eq_ok.2 houtcome, ⟨rfl, rfl⟩, rfl⟩

theorem events_connectWebsocket : (connectWebsocket w : Timed (ClientEvent Socket) _).events = [] := by
  rw [List.eq_nil_iff_forall_not_mem]
  rintro ⟨n, e⟩ hmem
  simp [connectWebsocket, Timed.mem_events_andThen] at hmem

/-- **Before a path is open.** The token is sent and the request, and nothing else is done. -/
theorem connectAuthenticated_events (h : (n, e) ∈ (connectAuthenticated debug token w).events) :
    e = .sent (.binary (Utf8.encode token.toList)) := by
  rw [connectAuthenticated, Timed.mem_events_andThen, events_connectWebsocket] at h
  obtain hnone | ⟨d, ⟨⟩, m, -, hmem, -⟩ := h
  · cases hnone
  · rw [authenticateWebsocket, Timed.mem_events_andThen] at hmem
    obtain hsend | ⟨_, _, _, -, hack, -⟩ := hmem
    · exact (mem_events_send.1 hsend).1
    · cases hack

theorem handshake_events {associationId : DatagramAssociationId}
    (h : (n, e) ∈ (openDatagramPath debug token w associationId).events) : ∃ message, e = .sent message := by
  rw [openDatagramPath, Timed.mem_events_andThen] at h
  obtain hconnect | ⟨_, _, _, -, hmem, -⟩ := h
  · exact ⟨_, connectAuthenticated_events hconnect⟩
  · rw [Timed.mem_events_andThen] at hmem
    obtain hsend | ⟨_, _, _, -, hack, -⟩ := hmem
    · exact ⟨_, (mem_events_send.1 hsend).1⟩
    · cases hack

/-- a stream is opened only on the acknowledgement that says so -/
theorem openStream_acknowledged {request : TransportRequest} {kind : Session.TransportKind}
    (h : (openStream debug token w request : Timed (ClientEvent Socket) _).result = some (n, .ok kind)) :
    ∃ d message, w.requestAck = some (d, some (.ok message)) ∧ message.says "connected" = true := by
  obtain ⟨_, ⟨⟩, _, -, hrest, -⟩ := Timed.andThen_eq_ok.1 h
  obtain ⟨_, ⟨⟩, d, -, hack, -⟩ := Timed.andThen_eq_ok.1 hrest
  obtain ⟨ack, hack, hchecked⟩ := Timed.map_eq_some.1 hack
  rw [Timed.result_await] at hack
  rcases ack with _ | _ | message
  · cases hchecked
  · cases hchecked
  refine ⟨d, message, hack, ?_⟩
  by_contra hsays
  simp only [checkTargetAck, expect, bind, Except.bind, hsays, if_false] at hchecked
  cases message <;> cases hchecked

end

end N0wss.Gateway
