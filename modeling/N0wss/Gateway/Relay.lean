/-
A proxied TCP stream from end to end: the client's socket, `pump_bidirectional` (`proxy_bridge/mod.rs`), the duplex pipe
and the two tasks of `spawn_bridge_tasks`, the websocket, `server_proxy_loop` (`wss_gateway/mod.rs`) and the target's
socket, with the handshake that opens the websocket. Every step of every task is a step of its own.

Pipes and websockets deliver in order. What lies outside is an operation's argument: how much is read and written at
once, errors, cancellation, control frames between the messages, and the reply of a websocket to a closing frame.

- `step_outcome`: all that a step can come to.
- `chainInv_step`: every hop passes on a prefix of what it takes, and all of it but what it holds where it lost nothing.
- `relay_preserves_streams`: the target is written a prefix of what was read from the client, the client a prefix of what
  was read from the target, and a pump that has returned told its session once that its stream is closed.
-/
import N0wss.Core.Machine
import N0wss.Gateway.Handshake
import N0wss.Gateway.RelayLoops

namespace N0wss.Gateway

open Bridge Machine Session

/-! ## The handshake -/

/-- what both ends are configured with -/
structure Tunnel where
  /-- the client's `auth_token` -/
  authToken : List UInt8
  policy : AuthPolicy
  peerLabel : String
  request : TransportRequest
  sessionId : SessionId

/-- where `open_stream` stands -/
inductive Opening where
  | connecting
  | authSent
  | acked
  | connectSent
  | relaying
  | failed
deriving DecidableEq

/-- where the server stands with a new connection -/
inductive Accepting where
  | authenticating
  | allowed
  | requesting
  | connecting
  | relaying
  | failed
deriving DecidableEq

/-- the acknowledgement `text`, as text or as bytes -/
def Message.isAck (text : String) : Message → Bool
  | .text content => content = text
  | .binary bytes => bytes = Utf8.encode text.toList
  | _ => false

/-- the next step of `open_stream`, over the messages from the server: where it stands then, how many it took, what it
sent -/
def openingTurn (tunnel : Tunnel) (wire : Fifo Message) : Opening → Opening × ℕ × List Message
  | .connecting => (.authSent, 0, [.binary tunnel.authToken])
  | .authSent =>
    match wire.queued with
    | [] => (.authSent, 0, [])
    | message :: _ => (if message.isAck "ok" then .acked else .failed, 1, [])
  | .acked => (.connectSent, 0, [.text (connectText tunnel.request)])
  | .connectSent =>
    match wire.queued with
    | [] => (.connectSent, 0, [])
    | message :: _ => (if message.isAck "connected" then .relaying else .failed, 1, [])
  | .relaying => (.relaying, 0, [])
  | .failed => (.failed, 0, [])

/-- the credential is allowed -/
def Tunnel.admits (tunnel : Tunnel) (message : Message) : Bool :=
  match message.credentials with
  | none => false
  | some credentials => (tunnel.policy.validateHandshake ⟨credentials, tunnel.peerLabel⟩).isAllow

/-- the message opens a proxied stream, and not a datagram path -/
def Message.requestsTarget (message : Message) : Bool :=
  (parseDatagramOpenRequest message).isNone && (parseTargetRequest message).toBool

/-- the next step of the server; `connected` is how connecting to the target ends -/
def acceptingTurn (tunnel : Tunnel) (connected : Bool) (wire : Fifo Message) :
    Accepting → Accepting × ℕ × List Message
  | .authenticating =>
    match wire.queued with
    | [] => (.authenticating, 0, [])
    | message :: _ => (if tunnel.admits message then .allowed else .failed, 1, [])
  | .allowed => (.requesting, 0, [.text "ok"])
  | .requesting =>
    match wire.queued with
    | [] => (.requesting, 0, [])
    | message :: _ => (if message.requestsTarget then .connecting else .failed, 1, [])
  | .connecting => if connected then (.relaying, 0, [.text "connected"]) else (.failed, 0, [])
  | .relaying => (.relaying, 0, [])
  | .failed => (.failed, 0, [])

/-! ## The relay -/

structure Relay where
  opening : Opening
  accepting : Accepting
  /-- the drain token, and with it the `shutdown` token of the bridge tasks -/
  cancelled : Bool
  /-- what the client sends, and what is written to it -/
  client : Fifo UInt8
  clientOut : Fifo UInt8
  pump : Pump
  /-- the two directions of the duplex pipe, towards the websocket and from it -/
  upPipe : Fifo UInt8
  downPipe : Fifo UInt8
  upClosed : Bool
  downClosed : Bool
  writeBridge : SendLoop
  readBridge : RecvLoop
  /-- the messages to the server, and from it -/
  upWire : Fifo Message
  downWire : Fifo Message
  websocketToTarget : RecvLoop
  targetToWebsocket : SendLoop
  /-- what the target sends, and what is written to it -/
  target : Fifo UInt8
  targetOut : Fifo UInt8
  events : List (SessionId × SessionEvent)

inductive Op where
  /-- the next step of `open_stream` -/
  | opening
  | openingFails
  /-- the next step of the server; `connected` is how connecting to the target ends -/
  | accepting (connected : Bool)
  | acceptingFails
  | pump (op : PumpOp)
  | writeBridge (op : SendOp)
  | readBridge (op : RecvOp)
  | websocketToTarget (op : RecvOp)
  | targetToWebsocket (op : SendOp)
  | cancel
  /-- a bridge task takes the `cancelled` branch of its `select!` -/
  | cancelWriteBridge
  | cancelReadBridge
  /-- the local half of the duplex pipe is dropped -/
  | dropLocal
  /-- the bridge's half of it -/
  | dropBridge
  /-- a control frame between the messages, to the server or from it -/
  | control (up : Bool) (message : Message)
  /-- a websocket that has received a closing frame replies with one -/
  | replyClose (client : Bool)
deriving DecidableEq

def start (fromClient fromTarget : List UInt8) : Relay where
  opening := .connecting
  accepting := .authenticating
  cancelled := false
  client := .source fromClient
  clientOut := .empty
  pump := .selecting
  upPipe := .empty
  downPipe := .empty
  upClosed := false
  downClosed := false
  writeBridge := .reading
  readBridge := .reading
  upWire := .empty
  downWire := .empty
  websocketToTarget := .reading
  targetToWebsocket := .reading
  target := .source fromTarget
  targetOut := .empty
  events := []

/-- the size of each direction of the duplex pipe -/
def pipeBytes : ℕ := 32 * 1024

/-- a pipe takes what it has room for -/
def PumpOp.within (room : ℕ) : PumpOp → PumpOp
  | .write n => .write (min n room)
  | o => o

def RecvOp.within (room : ℕ) : RecvOp → RecvOp
  | .write n => .write (min n room)
  | o => o

def Message.isControl : Message → Bool
  | .ping _ | .pong _ | .frame => true
  | .text _ | .binary _ | .close => false

/-- `try_join!` drops the other half -/
def SendLoop.drop : SendLoop → SendLoop
  | .reading | .sending _ | .closing | .failed => .failed
  | .ended => .ended

def RecvLoop.drop : RecvLoop → RecvLoop
  | .reading | .writing _ | .failed => .failed
  | .closed => .closed
  | .ended => .ended

/-- the read bridge has shut the pipe down -/
def RecvLoop.shuts : RecvLoop → Bool
  | .closed | .ended => true
  | .reading | .writing _ | .failed => false

/-- the room in the pipe concerns the writes of the pump that go into it -/
def pumpOpIn (s : Relay) (o : PumpOp) : PumpOp :=
  match s.pump with
  | .toTransport _ => o.within (pipeBytes - s.upPipe.queued.length)
  | _ => o

def pumpEvents (tunnel : Tunnel) (before after : Pump) : List (SessionId × SessionEvent) :=
  if before.notified = false ∧ after.notified = true then [(tunnel.sessionId, .streamClosed)] else []

def stepPump (tunnel : Tunnel) (s : Relay) (o : PumpOp) : Relay :=
  let r := pumpTurn s.cancelled s.upClosed s.downClosed s.client s.downPipe s.pump (pumpOpIn s o)
  { s with
    pump := r.pump
    client := s.client.take r.fromClient
    downPipe := s.downPipe.take r.fromTransport
    upPipe := s.upPipe.put r.toTransport
    clientOut := s.clientOut.put r.toClient
    upClosed := s.upClosed || r.pump.transportShut
    events := s.events ++ pumpEvents tunnel s.pump r.pump }

def stepWriteBridge (s : Relay) (o : SendOp) : Relay :=
  let r := sendTurn s.upClosed (!s.readBridge.sawClose) s.upPipe s.writeBridge o
  { s with
    writeBridge := r.loop
    upPipe := s.upPipe.take r.read
    upWire := s.upWire.put r.messages }

def stepReadBridge (s : Relay) (o : RecvOp) : Relay :=
  let r := recvTurn .ended (!s.downClosed) s.downWire s.readBridge (o.within (pipeBytes - s.downPipe.queued.length))
  { s with
    readBridge := r.loop
    downWire := s.downWire.take r.took
    downPipe := s.downPipe.put r.bytes
    downClosed := s.downClosed || r.loop.shuts }

def stepWebsocketToTarget (s : Relay) (o : RecvOp) : Relay :=
  let r := recvTurn .failed true s.upWire s.websocketToTarget o
  { s with
    websocketToTarget := r.loop
    upWire := s.upWire.take r.took
    targetOut := s.targetOut.put r.bytes
    targetToWebsocket := if r.loop = .failed then s.targetToWebsocket.drop else s.targetToWebsocket }

def stepTargetToWebsocket (s : Relay) (o : SendOp) : Relay :=
  let r := sendTurn true (!s.websocketToTarget.sawClose) s.target s.targetToWebsocket o
  { s with
    targetToWebsocket := r.loop
    target := s.target.take r.read
    downWire := s.downWire.put r.messages
    websocketToTarget := if r.loop = .failed then s.websocketToTarget.drop else s.websocketToTarget }

def stepOpening (tunnel : Tunnel) (s : Relay) : Relay :=
  let r := openingTurn tunnel s.downWire s.opening
  { s with opening := r.1, downWire := s.downWire.take r.2.1, upWire := s.upWire.put r.2.2 }

def stepAccepting (tunnel : Tunnel) (connected : Bool) (s : Relay) : Relay :=
  let r := acceptingTurn tunnel connected s.upWire s.accepting
  { s with accepting := r.1, upWire := s.upWire.take r.2.1, downWire := s.downWire.put r.2.2 }

/-- the client's end of the relay is there -/
def Relay.isOpen (s : Relay) : Bool := s.opening = .relaying

/-- the server's end of the relay is there -/
def Relay.isAccepted (s : Relay) : Bool := s.accepting = .relaying

def step (tunnel : Tunnel) (s : Relay) : Op → Relay
  | .opening => stepOpening tunnel s
  | .openingFails => if s.isOpen then s else { s with opening := .failed }
  | .accepting connected => stepAccepting tunnel connected s
  | .acceptingFails => if s.isAccepted then s else { s with accepting := .failed }
  | .pump o => if s.isOpen then stepPump tunnel s o else s
  | .writeBridge o => if s.isOpen then stepWriteBridge s o else s
  | .readBridge o => if s.isOpen then stepReadBridge s o else s
  | .websocketToTarget o => if s.isAccepted then stepWebsocketToTarget s o else s
  | .targetToWebsocket o => if s.isAccepted then stepTargetToWebsocket s o else s
  | .cancel => { s with cancelled := true }
  | .cancelWriteBridge =>
    if s.cancelled = true ∧ s.writeBridge = .reading then { s with writeBridge := .closing } else s
  | .cancelReadBridge =>
    if s.cancelled = true ∧ s.readBridge = .reading then { s with readBridge := .ended, downClosed := true } else s
  | .dropLocal => if s.pump.notified then { s with upClosed := true, downClosed := true } else s
  | .dropBridge =>
    if s.writeBridge.isOver && s.readBridge.isOver then { s with upClosed := true, downClosed := true } else s
  | .control up message =>
    if up && message.isControl && s.isOpen then { s with upWire := s.upWire.put [message] }
    else if !up && message.isControl && s.isAccepted then { s with downWire := s.downWire.put [message] }
    else s
  | .replyClose client =>
    if client && s.isOpen && s.readBridge.sawClose then { s with upWire := s.upWire.put [.close] }
    else if !client && s.isAccepted && s.websocketToTarget.sawClose then { s with downWire := s.downWire.put [.close] }
    else s

/-! ## What a step can come to -/

/-- what a step of the relay can come to -/
inductive StepOutcome (tunnel : Tunnel) (s : Relay) : Op → Relay → Prop where
  | idle (o : Op) : StepOutcome tunnel s o s
  | opening : StepOutcome tunnel s .opening (stepOpening tunnel s)
  | openingFails (hnot : s.opening ≠ .relaying) : StepOutcome tunnel s .openingFails { s with opening := .failed }
  | accepting (connected : Bool) : StepOutcome tunnel s (.accepting connected) (stepAccepting tunnel connected s)
  | acceptingFails (hnot : s.accepting ≠ .relaying) :
    StepOutcome tunnel s .acceptingFails { s with accepting := .failed }
  | pump (o : PumpOp) (hopen : s.opening = .relaying) : StepOutcome tunnel s (.pump o) (stepPump tunnel s o)
  | writeBridge (o : SendOp) (hopen : s.opening = .relaying) :
    StepOutcome tunnel s (.writeBridge o) (stepWriteBridge s o)
  | readBridge (o : RecvOp) (hopen : s.opening = .relaying) : StepOutcome tunnel s (.readBridge o) (stepReadBridge s o)
  | websocketToTarget (o : RecvOp) (haccepted : s.accepting = .relaying) :
    StepOutcome tunnel s (.websocketToTarget o) (stepWebsocketToTarget s o)
  | targetToWebsocket (o : SendOp) (haccepted : s.accepting = .relaying) :
    StepOutcome tunnel s (.targetToWebsocket o) (stepTargetToWebsocket s o)
  | cancel : StepOutcome tunnel s .cancel { s with cancelled := true }
  | cancelWriteBridge (hcancelled : s.cancelled = true) (hreading : s.writeBridge = .reading) :
    StepOutcome tunnel s .cancelWriteBridge { s with writeBridge := .closing }
  | cancelReadBridge (hcancelled : s.cancelled = true) (hreading : s.readBridge = .reading) :
    StepOutcome tunnel s .cancelReadBridge { s with readBridge := .ended, downClosed := true }
  | dropLocal (hnotified : s.pump.notified = true) :
    StepOutcome tunnel s .dropLocal { s with upClosed := true, downClosed := true }
  | dropBridge (hwrite : s.writeBridge.isOver = true) (hread : s.readBridge.isOver = true) :
    StepOutcome tunnel s .dropBridge { s with upClosed := true, downClosed := true }
  /-- a frame that carries nothing; a closing frame only in reply to one -/
  | putUp (o : Op) (m : Message) (hopen : s.opening = .relaying) (hm : m.payload = [])
    (hclose : m = .close → s.readBridge = .closed) : StepOutcome tunnel s o { s with upWire := s.upWire.put [m] }
  | putDown (o : Op) (m : Message) (haccepted : s.accepting = .relaying) (hm : m.payload = [])
    (hclose : m = .close → s.websocketToTarget = .closed) :
    StepOutcome tunnel s o { s with downWire := s.downWire.put [m] }

theorem isOpen_iff {s : Relay} : s.isOpen = true ↔ s.opening = .relaying := by simp [Relay.isOpen]

theorem isAccepted_iff {s : Relay} : s.isAccepted = true ↔ s.accepting = .relaying := by simp [Relay.isAccepted]

theorem payload_of_isControl {m : Message} (h : m.isControl = true) : m.payload = [] := by
  cases m <;> first | rfl | cases h

theorem isControl_ne_close {m : Message} (h : m.isControl = true) : m ≠ .close := by
  rintro rfl
  cases h

theorem step_outcome (tunnel : Tunnel) (s : Relay) (o : Op) : StepOutcome tunnel s o (step tunnel s o) := by
  cases o with
  | opening => exact .opening
  | openingFails =>
    simp only [step]
    split
    · exact .idle _
    · rename_i hnot
      exact .openingFails fun hopen => hnot (isOpen_iff.2 hopen)
  | accepting connected => exact .accepting connected
  | acceptingFails =>
    simp only [step]
    split
    · exact .idle _
    · rename_i hnot
      exact .acceptingFails fun haccepted => hnot (isAccepted_iff.2 haccepted)
  | pump o =>
    simp only [step]
    split
    · rename_i hopen
      exact .pump o (isOpen_iff.1 hopen)
    · exact .idle _
  | writeBridge o =>
    simp only [step]
    split
    · rename_i hopen
      exact .writeBridge o (isOpen_iff.1 hopen)
    · exact .idle _
  | readBridge o =>
    simp only [step]
    split
    · rename_i hopen
      exact .readBridge o (isOpen_iff.1 hopen)
    · exact .idle _
  | websocketToTarget o =>
    simp only [step]
    split
    · rename_i haccepted
      exact .websocketToTarget o (isAccepted_iff.1 haccepted)
    · exact .idle _
  | targetToWebsocket o =>
    simp only [step]
    split
    · rename_i haccepted
      exact .targetToWebsocket o (isAccepted_iff.1 haccepted)
    · exact .idle _
  | cancel => exact .cancel
  | cancelWriteBridge =>
    simp only [step]
    split
    · rename_i h
      exact .cancelWriteBridge h.1 h.2
    · exact .idle _
  | cancelReadBridge =>
    simp only [step]
    split
    · rename_i h
      exact .cancelReadBridge h.1 h.2
    · exact .idle _
  | dropLocal =>
    simp only [step]
    split
    · rename_i hnotified
      exact .dropLocal hnotified
    · exact .idle _
  | dropBridge =>
    simp only [step]
    split
    · rename_i hover
      rw [Bool.and_eq_true] at hover
      exact .dropBridge hover.1 hover.2
    · exact .idle _
  | control up message =>
    simp only [step]
    split
    · rename_i hup
      simp only [Bool.and_eq_true] at hup
      exact .putUp _ message (isOpen_iff.1 hup.2) (payload_of_isControl hup.1.2)
        fun hclose => absurd hclose (isControl_ne_close hup.1.2)
    · split
      · rename_i hdown
        simp only [Bool.and_eq_true] at hdown
        exact .putDown _ message (isAccepted_iff.1 hdown.2) (payload_of_isControl hdown.1.2)
          fun hclose => absurd hclose (isControl_ne_close hdown.1.2)
      · exact .idle _
  | replyClose client =>
    simp only [step]
    split
    · rename_i hup
      simp only [Bool.and_eq_true] at hup
      exact .putUp _ .close (isOpen_iff.1 hup.1.2) rfl fun _ => sawClose_iff.1 hup.2
    · split
      · rename_i hdown
        simp only [Bool.and_eq_true] at hdown
        exact .putDown _ .close (isAccepted_iff.1 hdown.1.2) rfl fun _ => sawClose_iff.1 hdown.2
      · exact .idle _

/-! ## The handshake's messages -/

/-- the relayed bytes of the messages, past the two that each end sends in the handshake -/
def afterOpening (messages : List Message) : List UInt8 := payloads (messages.drop 2)

theorem afterOpening_append {messages : List Message} (h : 2 ≤ messages.length) (more : List Message) :
    afterOpening (messages ++ more) = afterOpening messages ++ payloads more := by
  rw [afterOpening, afterOpening, List.drop_append_of_le_length h, payloads_append]

theorem afterOpening_of_short {messages : List Message} (h : messages.length ≤ 2) : afterOpening messages = [] := by
  rw [afterOpening, List.drop_eq_nil_of_le h, payloads_nil]

theorem afterOpening_isPrefix {a b : List Message} (h : a <+: b) : afterOpening a <+: afterOpening b := by
  obtain ⟨more, rfl⟩ := h
  rw [afterOpening, afterOpening, List.drop_append, payloads_append]
  exact List.prefix_append _ _

/-- how many messages `open_stream` has sent and received -/
def OpeningOk (sent received : ℕ) : Opening → Prop
  | .connecting => sent = 0 ∧ received = 0
  | .authSent => sent = 1 ∧ received = 0
  | .acked => sent = 1 ∧ received = 1
  | .connectSent => sent = 2 ∧ received = 1
  | .relaying => 2 ≤ sent ∧ 2 ≤ received
  | .failed => sent ≤ 2 ∧ received ≤ 2

/-- how many messages the server has received and sent -/
def AcceptingOk (received sent : ℕ) : Accepting → Prop
  | .authenticating => received = 0 ∧ sent = 0
  | .allowed => received = 1 ∧ sent = 0
  | .requesting => received = 1 ∧ sent = 1
  | .connecting => received = 2 ∧ sent = 1
  | .relaying => 2 ≤ received ∧ 2 ≤ sent
  | .failed => received ≤ 2 ∧ sent ≤ 2

theorem OpeningOk.short {sent received : ℕ} {o : Opening} (h : OpeningOk sent received o) (ho : o ≠ .relaying) :
    sent ≤ 2 ∧ received ≤ 2 := by
  cases o with
  | relaying => exact absurd rfl ho
  | failed => exact h
  | _ =>
    obtain ⟨rfl, rfl⟩ := h
    decide

theorem AcceptingOk.short {received sent : ℕ} {o : Accepting} (h : AcceptingOk received sent o) (ho : o ≠ .relaying) :
    received ≤ 2 ∧ sent ≤ 2 := by
  cases o with
  | relaying => exact absurd rfl ho
  | failed => exact h
  | _ =>
    obtain ⟨rfl, rfl⟩ := h
    decide

/-- a step of `open_stream` sends and takes messages of the handshake only -/
theorem openingTurn_ok (tunnel : Tunnel) (wire : Fifo Message) (sent : List Message) (o : Opening)
    (h : OpeningOk sent.length wire.past.length o) :
    OpeningOk (sent ++ (openingTurn tunnel wire o).2.2).length (wire.take (openingTurn tunnel wire o).2.1).past.length
        (openingTurn tunnel wire o).1 ∧
      (o ≠ .relaying → (sent ++ (openingTurn tunnel wire o).2.2).length ≤ 2 ∧
        (wire.take (openingTurn tunnel wire o).2.1).past.length ≤ 2) := by
  cases o with
  | connecting | acked =>
    simp only [OpeningOk] at h
    simp only [openingTurn, OpeningOk, Fifo.take_zero, List.length_append, List.length_singleton]
    omega
  | authSent | connectSent =>
    simp only [OpeningOk] at h
    cases hq : wire.queued with
    | nil => simp [openingTurn, hq, OpeningOk, h]
    | cons m queued =>
      simp only [openingTurn, hq]
      split <;> simp [OpeningOk, hq, h]
  | relaying => simpa [openingTurn, OpeningOk] using h
  | failed => simpa [openingTurn, OpeningOk] using h

theorem acceptingTurn_ok (tunnel : Tunnel) (connected : Bool) (wire : Fifo Message) (sent : List Message)
    (o : Accepting) (h : AcceptingOk wire.past.length sent.length o) :
    AcceptingOk (wire.take (acceptingTurn tunnel connected wire o).2.1).past.length
        (sent ++ (acceptingTurn tunnel connected wire o).2.2).length (acceptingTurn tunnel connected wire o).1 ∧
      (o ≠ .relaying → (wire.take (acceptingTurn tunnel connected wire o).2.1).past.length ≤ 2 ∧
        (sent ++ (acceptingTurn tunnel connected wire o).2.2).length ≤ 2) := by
  cases o with
  | allowed =>
    simp only [AcceptingOk] at h
    simp only [acceptingTurn, AcceptingOk, Fifo.take_zero, List.length_append, List.length_singleton]
    omega
  | authenticating | requesting =>
    simp only [AcceptingOk] at h
    cases hq : wire.queued with
    | nil => simp [acceptingTurn, hq, AcceptingOk, h]
    | cons m queued =>
      simp only [acceptingTurn, hq]
      split <;> simp [AcceptingOk, hq, h]
  | connecting =>
    simp only [AcceptingOk] at h
    simp only [acceptingTurn]
    split <;> simp [AcceptingOk, h]
  | relaying => simpa [acceptingTurn, AcceptingOk] using h
  | failed => simpa [acceptingTurn, AcceptingOk] using h

/-! ## The chain -/

/-- every hop of the relay, and what was told to the session -/
structure ChainInv (tunnel : Tunnel) (s : Relay) : Prop where
  opening : OpeningOk s.upWire.log.length s.downWire.past.length s.opening
  accepting : AcceptingOk s.upWire.past.length s.downWire.log.length s.accepting
  pumpUp : Passes s.client.past s.upPipe.log s.pump.heldUp
  writeBridge : Passes s.upPipe.past (afterOpening s.upWire.log) s.writeBridge.held
  websocketToTarget : Passes (afterOpening s.upWire.past) s.targetOut.log s.websocketToTarget.held
  targetToWebsocket : Passes s.target.past (afterOpening s.downWire.log) s.targetToWebsocket.held
  readBridge : Passes (afterOpening s.downWire.past) s.downPipe.log s.readBridge.held
  pumpDown : Passes s.downPipe.past s.clientOut.log s.pump.heldDown
  events : s.events = if s.pump.notified then [(tunnel.sessionId, .streamClosed)] else []

theorem chainInv_start (tunnel : Tunnel) (fromClient fromTarget : List UInt8) :
    ChainInv tunnel (start fromClient fromTarget) where
  opening := ⟨rfl, rfl⟩
  accepting := ⟨rfl, rfl⟩
  pumpUp := rfl
  writeBridge := rfl
  websocketToTarget := rfl
  targetToWebsocket := rfl
  readBridge := rfl
  pumpDown := rfl
  events := rfl

variable {tunnel : Tunnel} {s : Relay}

/-- the log of a wire grows by what is sent once the client relays -/
theorem OpeningOk.grow {sent received sent' received' : ℕ} (h : OpeningOk sent received .relaying) (hs : sent ≤ sent')
    (hr : received ≤ received') : OpeningOk sent' received' .relaying := ⟨h.1.trans hs, h.2.trans hr⟩

theorem AcceptingOk.grow {received sent received' sent' : ℕ} (h : AcceptingOk received sent .relaying)
    (hr : received ≤ received') (hs : sent ≤ sent') : AcceptingOk received' sent' .relaying :=
  ⟨h.1.trans hr, h.2.trans hs⟩

theorem stepOpening_of_relaying (ho : s.opening = .relaying) : stepOpening tunnel s = s := by
  simp only [stepOpening, openingTurn, ho, Fifo.take_zero, Fifo.put_nil]
  rw [← ho]

theorem stepAccepting_of_relaying {connected : Bool} (ho : s.accepting = .relaying) :
    stepAccepting tunnel connected s = s := by
  simp only [stepAccepting, acceptingTurn, ho, Fifo.take_zero, Fifo.put_nil]
  rw [← ho]

theorem chainInv_stepOpening (h : ChainInv tunnel s) : ChainInv tunnel (stepOpening tunnel s) := by
  obtain ⟨hok, hshort⟩ := openingTurn_ok tunnel s.downWire s.upWire.log s.opening h.opening
  by_cases ho : s.opening = .relaying
  · rwa [stepOpening_of_relaying ho]
  · obtain ⟨hs, hr⟩ := h.opening.short ho
    obtain ⟨hs', hr'⟩ := hshort ho
    have hsent : afterOpening (stepOpening tunnel s).upWire.log = afterOpening s.upWire.log := by
      rw [afterOpening_of_short hs, stepOpening, Fifo.log_put, afterOpening_of_short hs']
    have hreceived : afterOpening (stepOpening tunnel s).downWire.past = afterOpening s.downWire.past := by
      rw [afterOpening_of_short hr, stepOpening, afterOpening_of_short hr']
    exact { h with
      opening := by rw [stepOpening, Fifo.log_put]; exact hok
      accepting := by rw [stepOpening, Fifo.log_take]; exact h.accepting
      writeBridge := by rw [hsent]; exact h.writeBridge
      targetToWebsocket := by rw [stepOpening, Fifo.log_take]; exact h.targetToWebsocket
      readBridge := by rw [hreceived]; exact h.readBridge }

theorem chainInv_stepAccepting (h : ChainInv tunnel s) (connected : Bool) :
    ChainInv tunnel (stepAccepting tunnel connected s) := by
  obtain ⟨hok, hshort⟩ := acceptingTurn_ok tunnel connected s.upWire s.downWire.log s.accepting h.accepting
  by_cases ho : s.accepting = .relaying
  · rwa [stepAccepting_of_relaying ho]
  · obtain ⟨hr, hs⟩ := h.accepting.short ho
    obtain ⟨hr', hs'⟩ := hshort ho
    have hsent : afterOpening (stepAccepting tunnel connected s).downWire.log = afterOpening s.downWire.log := by
      rw [afterOpening_of_short hs, stepAccepting, Fifo.log_put, afterOpening_of_short hs']
    have hreceived : afterOpening (stepAccepting tunnel connected s).upWire.past = afterOpening s.upWire.past := by
      rw [afterOpening_of_short hr, stepAccepting, afterOpening_of_short hr']
    exact { h with
      opening := by rw [stepAccepting, Fifo.log_take]; exact h.opening
      accepting := by rw [stepAccepting, Fifo.log_put]; exact hok
      writeBridge := by rw [stepAccepting, Fifo.log_take]; exact h.writeBridge
      websocketToTarget := by rw [hreceived]; exact h.websocketToTarget
      targetToWebsocket := by rw [hsent]; exact h.targetToWebsocket }

/-- a pump that has returned takes no further turn -/
theorem pumpTurn_of_notified (cancelled upClosed downClosed : Bool) (client transport : Fifo UInt8) {p : Pump}
    (hp : p.notified = true) (o : PumpOp) : (pumpTurn cancelled upClosed downClosed client transport p o).pump = p := by
  rcases p with _ | _ | _ | ⟨reason, _ | _ | _ | _⟩
  case leaving.returned => cases o <;> rfl
  all_goals cases hp

theorem chainInv_stepPump (h : ChainInv tunnel s) (o : PumpOp) : ChainInv tunnel (stepPump tunnel s o) := by
  obtain ⟨hup, hdown⟩ := (pumpTurn_outcome s.cancelled s.upClosed s.downClosed s.client s.downPipe s.pump
    (pumpOpIn s o)).passes h.pumpUp h.pumpDown
  have hevents : (stepPump tunnel s o).events =
      if (stepPump tunnel s o).pump.notified then [(tunnel.sessionId, .streamClosed)] else [] := by
    simp only [stepPump, pumpEvents, h.events]
    cases hp : s.pump.notified with
    | true =>
      rw [pumpTurn_of_notified _ _ _ _ _ hp, hp]
      rfl
    | false => simp
  exact { h with
    pumpUp := by rw [stepPump, Fifo.log_put]; exact hup
    writeBridge := by rw [stepPump, Fifo.past_put]; exact h.writeBridge
    readBridge := by rw [stepPump, Fifo.log_take]; exact h.readBridge
    pumpDown := by rw [stepPump, Fifo.log_put]; exact hdown
    events := hevents }

theorem chainInv_stepWriteBridge (h : ChainInv tunnel s) (hopen : s.opening = .relaying) (o : SendOp) :
    ChainInv tunnel (stepWriteBridge s o) := by
  have hrelaying : OpeningOk s.upWire.log.length s.downWire.past.length .relaying := hopen ▸ h.opening
  have hpasses := (sendTurn_outcome s.upClosed (!s.readBridge.sawClose) s.upPipe s.writeBridge o).passes h.writeBridge
  exact { h with
    opening := by
      rw [stepWriteBridge, Fifo.log_put, hopen]
      exact hrelaying.grow (by simp) le_rfl
    accepting := by rw [stepWriteBridge, Fifo.past_put]; exact h.accepting
    pumpUp := by rw [stepWriteBridge, Fifo.log_take]; exact h.pumpUp
    writeBridge := by rw [stepWriteBridge, Fifo.log_put, afterOpening_append hrelaying.1]; exact hpasses
    websocketToTarget := by rw [stepWriteBridge, Fifo.past_put]; exact h.websocketToTarget }

theorem chainInv_stepReadBridge (h : ChainInv tunnel s) (hopen : s.opening = .relaying) (o : RecvOp) :
    ChainInv tunnel (stepReadBridge s o) := by
  have hrelaying : OpeningOk s.upWire.log.length s.downWire.past.length .relaying := hopen ▸ h.opening
  have hpasses := (recvTurn_outcome .ended (!s.downClosed) s.downWire s.readBridge
    (o.within (pipeBytes - s.downPipe.queued.length))).passes (Or.inl rfl) h.readBridge
  exact { h with
    opening := by
      rw [stepReadBridge, Fifo.past_take, hopen]
      exact hrelaying.grow le_rfl (by simp)
    accepting := by rw [stepReadBridge, Fifo.log_take]; exact h.accepting
    targetToWebsocket := by rw [stepReadBridge, Fifo.log_take]; exact h.targetToWebsocket
    readBridge := by
      rw [stepReadBridge, Fifo.log_put, Fifo.past_take, afterOpening_append hrelaying.2]
      exact hpasses
    pumpDown := by rw [stepReadBridge, Fifo.past_put]; exact h.pumpDown }

/-- dropping a loop loses what it holds, and nothing it has passed on -/
theorem SendLoop.passes_drop {loop : SendLoop} {taken given : List UInt8} (h : Passes taken given loop.held) :
    Passes taken given loop.drop.held := by
  cases loop with
  | ended => exact h
  | _ => exact h.lose

theorem RecvLoop.passes_drop {loop : RecvLoop} {taken given : List UInt8} (h : Passes taken given loop.held) :
    Passes taken given loop.drop.held := by
  cases loop with
  | closed | ended => exact h
  | _ => exact h.lose

theorem chainInv_stepWebsocketToTarget (h : ChainInv tunnel s) (haccepted : s.accepting = .relaying) (o : RecvOp) :
    ChainInv tunnel (stepWebsocketToTarget s o) := by
  have hrelaying : AcceptingOk s.upWire.past.length s.downWire.log.length .relaying := haccepted ▸ h.accepting
  have hpasses := (recvTurn_outcome .failed true s.upWire s.websocketToTarget o).passes (Or.inr rfl) h.websocketToTarget
  exact { h with
    opening := by rw [stepWebsocketToTarget, Fifo.log_take]; exact h.opening
    accepting := by
      rw [stepWebsocketToTarget, Fifo.past_take, haccepted]
      exact hrelaying.grow (by simp) le_rfl
    writeBridge := by rw [stepWebsocketToTarget, Fifo.log_take]; exact h.writeBridge
    websocketToTarget := by
      rw [stepWebsocketToTarget, Fifo.log_put, Fifo.past_take, afterOpening_append hrelaying.1]
      exact hpasses
    targetToWebsocket := by
      simp only [stepWebsocketToTarget]
      split
      · exact SendLoop.passes_drop h.targetToWebsocket
      · exact h.targetToWebsocket }

theorem chainInv_stepTargetToWebsocket (h : ChainInv tunnel s) (haccepted : s.accepting = .relaying) (o : SendOp) :
    ChainInv tunnel (stepTargetToWebsocket s o) := by
  have hrelaying : AcceptingOk s.upWire.past.length s.downWire.log.length .relaying := haccepted ▸ h.accepting
  have hpasses := (sendTurn_outcome true (!s.websocketToTarget.sawClose) s.target s.targetToWebsocket o).passes
    h.targetToWebsocket
  exact { h with
    opening := by rw [stepTargetToWebsocket, Fifo.past_put]; exact h.opening
    accepting := by
      rw [stepTargetToWebsocket, Fifo.log_put, haccepted]
      exact hrelaying.grow le_rfl (by simp)
    websocketToTarget := by
      simp only [stepTargetToWebsocket]
      split
      · exact RecvLoop.passes_drop h.websocketToTarget
      · exact h.websocketToTarget
    targetToWebsocket := by
      rw [stepTargetToWebsocket, Fifo.log_put, afterOpening_append hrelaying.2]
      exact hpasses
    readBridge := by rw [stepTargetToWebsocket, Fifo.past_put]; exact h.readBridge }

/-- a frame that carries nothing, to the server -/
theorem chainInv_putUp (h : ChainInv tunnel s) (hopen : s.opening = .relaying) {m : Message} (hm : m.payload = []) :
    ChainInv tunnel { s with upWire := s.upWire.put [m] } := by
  have hrelaying : OpeningOk s.upWire.log.length s.downWire.past.length .relaying := hopen ▸ h.opening
  exact { h with
    opening := by
      rw [Fifo.log_put, hopen]
      exact hrelaying.grow (by simp) le_rfl
    writeBridge := by
      rw [Fifo.log_put, afterOpening_append hrelaying.1, payloads_singleton, hm, List.append_nil]
      exact h.writeBridge }

/-- a frame that carries nothing, from the server -/
theorem chainInv_putDown (h : ChainInv tunnel s) (haccepted : s.accepting = .relaying) {m : Message}
    (hm : m.payload = []) : ChainInv tunnel { s with downWire := s.downWire.put [m] } := by
  have hrelaying : AcceptingOk s.upWire.past.length s.downWire.log.length .relaying := haccepted ▸ h.accepting
  exact { h with
    accepting := by
      rw [Fifo.log_put, haccepted]
      exact hrelaying.grow le_rfl (by simp)
    targetToWebsocket := by
      rw [Fifo.log_put, afterOpening_append hrelaying.2, payloads_singleton, hm, List.append_nil]
      exact h.targetToWebsocket }

/-- **One step.** No step of any task loses the place of a byte. -/
theorem chainInv_step (o : Op) (h : ChainInv tunnel s) : ChainInv tunnel (step tunnel s o) := by
  have hout := step_outcome tunnel s o
  generalize step tunnel s o = s' at hout ⊢
  cases hout with
  | idle => exact h
  | opening => exact chainInv_stepOpening h
  | openingFails hnot => exact { h with opening := h.opening.short hnot }
  | accepting connected => exact chainInv_stepAccepting h connected
  | acceptingFails hnot => exact { h with accepting := h.accepting.short hnot }
  | pump o => exact chainInv_stepPump h o
  | writeBridge o hopen => exact chainInv_stepWriteBridge h hopen o
  | readBridge o hopen => exact chainInv_stepReadBridge h hopen o
  | websocketToTarget o haccepted => exact chainInv_stepWebsocketToTarget h haccepted o
  | targetToWebsocket o haccepted => exact chainInv_stepTargetToWebsocket h haccepted o
  | cancelWriteBridge _ hreading =>
    have hpasses := h.writeBridge
    rw [hreading] at hpasses
    exact { h with writeBridge := hpasses }
  | cancelReadBridge _ hreading =>
    have hpasses := h.readBridge
    rw [hreading] at hpasses
    exact { h with readBridge := hpasses }
  | cancel | dropLocal | dropBridge => exact { h with }
  | putUp o m hopen hm => exact chainInv_putUp h hopen hm
  | putDown o m haccepted hm => exact chainInv_putDown h haccepted hm

/-! ## Main result -/

/-- what the target was written is a prefix of what was read from the client, and what the client was written a prefix of
what was read from the target; the session was told `StreamClosed` once if the pump has returned, and else nothing -/
def Faithful (tunnel : Tunnel) (s : Relay) : Prop :=
  s.targetOut.log <+: s.client.past ∧ s.clientOut.log <+: s.target.past ∧
    s.events = if s.pump.notified then [(tunnel.sessionId, .streamClosed)] else []

/-- what reaches the target came through every hop from the client -/
theorem ChainInv.up (h : ChainInv tunnel s) : s.targetOut.log <+: s.client.past :=
  calc s.targetOut.log
    _ <+: afterOpening s.upWire.past := h.websocketToTarget.isPrefix
    _ <+: afterOpening s.upWire.log := afterOpening_isPrefix s.upWire.past_isPrefix_log
    _ <+: s.upPipe.past := h.writeBridge.isPrefix
    _ <+: s.upPipe.log := s.upPipe.past_isPrefix_log
    _ <+: s.client.past := h.pumpUp.isPrefix

/-- what reaches the client came through every hop from the target -/
theorem ChainInv.down (h : ChainInv tunnel s) : s.clientOut.log <+: s.target.past :=
  calc s.clientOut.log
    _ <+: s.downPipe.past := h.pumpDown.isPrefix
    _ <+: s.downPipe.log := s.downPipe.past_isPrefix_log
    _ <+: afterOpening s.downWire.past := h.readBridge.isPrefix
    _ <+: afterOpening s.downWire.log := afterOpening_isPrefix s.downWire.past_isPrefix_log
    _ <+: s.target.past := h.targetToWebsocket.isPrefix

/-- **The relay preserves both streams.** For every two streams of bytes and every interleaving of the steps of all its
tasks, whatever they read, write and fail at, in every state: the bytes written to the target are a prefix of the bytes
read from the client, the bytes written to the client are a prefix of the bytes read from the target, and the pump's
session was told that its stream is closed once if the pump has returned, and else not at all. -/
theorem relay_preserves_streams (tunnel : Tunnel) (fromClient fromTarget : List UInt8) (ops : List Op) :
    AllStates (step tunnel) (Faithful tunnel) (start fromClient fromTarget) ops := by
  have hfaithful : ∀ s, ChainInv tunnel s → Faithful tunnel s := fun s h => ⟨h.up, h.down, h.events⟩
  exact allStates_iff.2 fun pre _ =>
    hfaithful _ (run_inv (fun s o h => chainInv_step o h) pre (chainInv_start tunnel fromClient fromTarget))

end N0wss.Gateway
