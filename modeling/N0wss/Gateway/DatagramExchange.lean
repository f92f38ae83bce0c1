/-
One datagram from end to end over the websocket: `emit_datagram` of the client against `handle_accepted` and
`server_datagram_loop` of the server (`wss_gateway/mod.rs`), one await at a time and in any order between the two.

The websocket delivers in order what is sent, and then that the other end is gone. What a call comes back with, when the
reply window closes, and what the network does to a UDP packet are operations; either end may fail at any time.

- `handleMessage_eq`: a message that is read and the reply that is waited for are one turn of `server_datagram_loop`.
- `exchangeInv_step`: each end says its own lines only, and has read what the other one said.
- `exchange_agrees`: one payload at most goes out, the client's own, to its own target, and the handler is given one reply
  at most, its target's.
- `own_server_replies_stay`: so a reply goes to the client of the association it is of.
- `exchange_ends`: no order of the steps leaves either end waiting for the other for ever.
-/
import N0wss.Core.Fifo
import N0wss.Gateway.DatagramLoop
import N0wss.Gateway.ReplyOwner
import N0wss.Gateway.Server

namespace N0wss.Gateway.DatagramExchange

open Bridge Datagram Machine Net

/-! ## The client -/

/-- an envelope on its way, and the two ends -/
structure Setting where
  v6 : Ipv6Text
  debug : Message → String
  authToken : String
  envelope : DatagramEnvelope
  /-- an inbound handler is installed -/
  hasHandler : Bool
  policy : AuthPolicy

/-- where `emit_datagram` stands -/
inductive EmissionPc where
  | connecting
  | authSent
  | acked
  | openSent
  /-- the path is open -/
  | ready
  /-- in the reply window -/
  | awaiting
  /-- in the inbound handler -/
  | handling
  | closing
  | ended (result : Except WssError Unit)
deriving DecidableEq

def EmissionPc.isOver : EmissionPc → Bool
  | .ended _ => true
  | _ => false

def afterAck (pc : EmissionPc) : Except WssError Unit → EmissionPc
  | .ok () => pc
  | .error err => .ended (.error err)

/-- a reply in the window -/
def afterReply (v6 : Ipv6Text) : Next → EmissionPc × List DatagramEnvelope
  | none => (.closing, [])
  | some (.error err) => (.ended (.error (.datagramPathFailed err)), [])
  | some (.ok message) =>
    match decodeMessage v6 message with
    | .error err => (.ended (.error (.datagramPathFailed (datagramErrorText err))), [])
    | .ok inbound => (.handling, [inbound])

/-! ## The server's loop -/

/-- where `server_datagram_loop` stands -/
inductive LoopPc where
  | entering
  | reading
  /-- a payload went out, and its reply is waited for -/
  | waiting (relay : UdpRelayRecord)
  | returned (result : Except WssError Unit)
deriving DecidableEq

/-- a message is there: the payload that goes out -/
def loopRead (v6 : Ipv6Text) (associationId : DatagramAssociationId) (env : UdpRelayEnv) :
    Message → List (SocketAddr × List UInt8) × LoopPc
  | .binary bytes =>
    match decodeMessage v6 (.binary bytes) with
    | .error err => ([], .returned (.error (.datagramPathFailed (datagramErrorText err))))
    | .ok envelope =>
      if envelope.associationId ≠ associationId then
        ([], .returned (.error (.datagramPathFailed ("association mismatch: expected " ++ toString associationId ++
          ", got " ++ toString envelope.associationId))))
      else
        match relayOutboundDatagram env envelope with
        | .error err => ([], .returned (.error (.datagramPathFailed (err.text v6))))
        | .ok relay => ([(relay.remotePeer, envelope.payload)], .waiting relay)
  | .close => ([], .returned (.ok ()))
  | .ping _ | .pong _ => ([], .reading)
  | .text text => ([], .returned (.error (.datagramPathFailed ("unexpected datagram runtime text frame: " ++ text))))
  | .frame => ([], .returned (.error (.datagramPathFailed "unexpected datagram runtime frame")))

def loopNext (v6 : Ipv6Text) (associationId : DatagramAssociationId) (env : UdpRelayEnv) :
    Next → List (SocketAddr × List UInt8) × LoopPc
  | none => ([], .returned (.ok ()))
  | some (.error err) => ([], .returned (.error (.datagramPathFailed err)))
  | some (.ok message) => loopRead v6 associationId env message

def loopPcOf : DatagramLoopStatus → LoopPc
  | .running => .reading
  | .ended result => .returned result

def emittedMessage : LoopEvent → Option Message
  | .emitted message => some message
  | .read _ | .sentTo _ _ => none

/-- the wait is over: the frame that goes back -/
def loopArrives (v6 : Ipv6Text) (turn : DatagramTurn) (relay : UdpRelayRecord) : List Message × LoopPc :=
  ((awaitReply v6 turn relay).1.filterMap emittedMessage, loopPcOf (awaitReply v6 turn relay).2)

/-- **One turn.** A message that is read and the reply that is waited for are one turn of `server_datagram_loop`. -/
theorem handleMessage_eq (v6 : Ipv6Text) (associationId : DatagramAssociationId) (turn : DatagramTurn)
    (message : Message) :
    loopPcOf (handleMessage v6 associationId turn message).2 =
        (match (loopRead v6 associationId turn.env message).2 with
        | .waiting relay => (loopArrives v6 turn relay).2
        | pc => pc) ∧
      (handleMessage v6 associationId turn message).1 =
        (loopRead v6 associationId turn.env message).1.map (fun sent => .sentTo sent.1 sent.2) ++
          match (loopRead v6 associationId turn.env message).2 with
          | .waiting relay => (awaitReply v6 turn relay).1
          | _ => [] := by
  cases message with
  | binary bytes =>
    simp only [handleMessage, relayBinary, loopRead]
    cases decodeMessage v6 (.binary bytes) with
    | error err => exact ⟨rfl, rfl⟩
    | ok envelope =>
      simp only
      split_ifs with hid
      · exact ⟨rfl, rfl⟩
      · cases relayOutboundDatagram turn.env envelope with
        | error err => exact ⟨rfl, rfl⟩
        | ok relay => exact ⟨rfl, rfl⟩
  | _ => exact ⟨rfl, rfl⟩

/-! ## Both ends -/

structure Exchange where
  emission : EmissionPc
  /-- what the inbound handler was given -/
  handed : List DatagramEnvelope
  handler : Handler
  loop : LoopPc
  /-- the payloads that went out, with whom they went to -/
  sent : List (SocketAddr × List UInt8)
  upWire : Fifo Message
  downWire : Fifo Message

inductive Op where
  /-- the next await of `emit_datagram` -/
  | emit
  | windowCloses
  | handled (result : Except String Unit)
  | emitFails (err : WssError)
  /-- the next await of `handle_accepted` -/
  | serve
  | loopReads (env : UdpRelayEnv)
  | arrives (turn : DatagramTurn)
  | serveFails (err : WssError)

def start (peerLabel : String) : Exchange := ⟨.connecting, [], .start peerLabel, .entering, [], .empty, .empty⟩

def handlerOver : HandlerPc → Bool
  | .ended _ => true
  | _ => false

/-- what `next` returns: a message, the end of the stream where the other end is gone, or nothing yet -/
def delivered (wire : Fifo Message) (gone : Bool) : Option Next :=
  match wire.queued with
  | message :: _ => some (some (.ok message))
  | [] => if gone then some none else none

/-- what the client reads -/
def Exchange.down (s : Exchange) : Option Next := delivered s.downWire (handlerOver s.handler.pc)

/-- what the server reads -/
def Exchange.up (s : Exchange) : Option Next := delivered s.upWire s.emission.isOver

/-- the client sends, and goes on -/
def say (s : Exchange) (messages : List Message) (pc : EmissionPc) : Exchange :=
  { s with emission := pc, upWire := s.upWire.put messages }

/-- the client has read -/
def hear (s : Exchange) (pc : EmissionPc) : Exchange := { s with emission := pc, downWire := s.downWire.take 1 }

def stepEmit (x : Setting) (s : Exchange) : Exchange :=
  match s.emission with
  | .connecting => say s [.binary (Utf8.encode x.authToken.toList)] .authSent
  | .authSent =>
    match s.down with
    | none => s
    | some next => hear s (afterAck .acked (checkAuthAck x.debug next))
  | .acked => say s [.text (datagramOpenText x.envelope.associationId)] .openSent
  | .openSent =>
    match s.down with
    | none => s
    | some next => hear s (afterAck .ready (checkPathAck x.debug next))
  | .ready =>
    match datagramMessage x.v6 x.envelope with
    | .error err => { s with emission := .ended (.error (.datagramPathFailed (datagramErrorText err))) }
    | .ok message => say s [message] (if x.hasHandler then .awaiting else .closing)
  | .awaiting =>
    match s.down with
    | none => s
    | some next => { hear s (afterReply x.v6 next).1 with handed := s.handed ++ (afterReply x.v6 next).2 }
  | .closing => say s [.close] (.ended (.ok ()))
  | .handling | .ended _ => s

/-- the server sends, and goes on -/
def answer (s : Exchange) (messages : List Message) (handler : Handler) (loop : LoopPc) : Exchange :=
  { s with handler := handler, loop := loop, downWire := s.downWire.put messages }

/-- a connection that asks for a proxied stream is not followed further -/
def stepServe (x : Setting) (s : Exchange) : Exchange :=
  match s.handler.pc with
  | .securing | .upgrading => { s with handler := handlerCall s.handler (.ok ()) }
  | .authenticating | .requesting =>
    match s.up with
    | none => s
    | some next => { s with handler := handlerNext x.policy s.handler next, upWire := s.upWire.take 1 }
  | .acknowledging => answer s [.text "ok"] (handlerCall s.handler (.ok ())) s.loop
  | .rejecting _ => answer s [.close] (handlerCall s.handler (.ok ())) s.loop
  | .serving (.serverDatagramLoop _ _) =>
    match s.loop with
    | .entering => answer s [.text "datagram-ready"] s.handler .reading
    | .returned result => { s with handler := handlerTurn x.policy s.handler (.loopEnds result) }
    | .reading | .waiting _ => s
  | .serving _ | .ended _ => s

def stepLoopReads (x : Setting) (env : UdpRelayEnv) (s : Exchange) : Exchange :=
  match s.handler.pc, s.loop, s.up with
  | .serving (.serverDatagramLoop associationId _), .reading, some next =>
    { s with
      loop := (loopNext x.v6 associationId env next).2
      sent := s.sent ++ (loopNext x.v6 associationId env next).1
      upWire := s.upWire.take 1 }
  | _, _, _ => s

def stepArrives (x : Setting) (turn : DatagramTurn) (s : Exchange) : Exchange :=
  match s.handler.pc, s.loop with
  | .serving _, .waiting relay =>
    answer s (loopArrives x.v6 turn relay).1 s.handler (loopArrives x.v6 turn relay).2
  | _, _ => s

def step (x : Setting) (s : Exchange) : Op → Exchange
  | .emit => stepEmit x s
  | .windowCloses => if s.emission = .awaiting then { s with emission := .closing } else s
  | .handled result =>
    if s.emission = .handling then { s with emission := afterAck .closing (result.mapError .datagramPathFailed) } else s
  | .emitFails err => if s.emission.isOver then s else { s with emission := .ended (.error err) }
  | .serve => stepServe x s
  | .loopReads env => stepLoopReads x env s
  | .arrives turn => stepArrives x turn s
  | .serveFails err => if handlerOver s.handler.pc then s else { s with handler := s.handler.fail err }

/-! ## What is said -/

variable {x : Setting} {s : Exchange}

def Setting.frame (x : Setting) : List Message :=
  match datagramMessage x.v6 x.envelope with
  | .error _ => []
  | .ok message => [message, .close]

/-- what the client says, one message after the other -/
def Setting.clientLines (x : Setting) : List Message :=
  [.binary (Utf8.encode x.authToken.toList), .text (datagramOpenText x.envelope.associationId)] ++ x.frame

def serverLines : List Message := [.text "ok", .text "datagram-ready"]

/-- the envelope as the frame tells it -/
def Setting.told (x : Setting) : DatagramEnvelope :=
  { x.envelope with relayClientAddr := .new x.envelope.relayClientAddr.ip x.envelope.relayClientAddr.port }

def Setting.Admitted (x : Setting) (peerLabel : String) : Prop :=
  (x.policy.validateHandshake ⟨Utf8.encode x.authToken.toList, peerLabel⟩).isAllow = true

section
variable (E : UdpRelayEnv → Prop) (A : Received → Prop)

/-- a payload goes out at most once, to the target; `read` is how much the server has read -/
def SentOk (x : Setting) (peerLabel : String) (read : ℕ) (sent : List (SocketAddr × List UInt8)) : Prop :=
  sent = [] ∨ x.Admitted peerLabel ∧ 3 ≤ read ∧ ∃ env peer, E env ∧
    resolveTarget env x.envelope.target = .ok peer ∧ sent = [(peer, x.envelope.payload)]

/-- a packet of the peer, under what went out -/
def ReplyOk (x : Setting) (sent : List (SocketAddr × List UInt8)) (inbound : DatagramEnvelope) : Prop :=
  ∃ packet, A packet ∧ sent = [(packet.source, x.envelope.payload)] ∧ inbound = { x.told with payload := packet.bytes }

/-- the server's lines, with at most one reply, or a refusal -/
def AnsweredOk (x : Setting) (answers : List Message) (sent : List (SocketAddr × List UInt8)) : Prop :=
  answers = [.close] ∨ answers <+: serverLines ∨ ∃ reply inbound,
    answers = serverLines ++ [reply] ∧ decodeMessage x.v6 reply = .ok inbound ∧ ReplyOk A x sent inbound

/-- how much the client has said and read, by where it stands -/
def EmissionOk (said read : ℕ) (handed : List DatagramEnvelope) : EmissionPc → Prop
  | .connecting => said = 0 ∧ read = 0 ∧ handed = []
  | .authSent => said = 1 ∧ read = 0 ∧ handed = []
  | .acked => said = 1 ∧ read = 1 ∧ handed = []
  | .openSent => said = 2 ∧ read = 1 ∧ handed = []
  | .ready => said = 2 ∧ read = 2 ∧ handed = []
  | .awaiting => said = 3 ∧ read = 2 ∧ handed = []
  | .handling | .closing => said = 3
  | .ended (.ok ()) => said = 4
  | .ended (.error _) => True

/-- how much the loop has read and said, by where it stands -/
def LoopOk (x : Setting) (read : ℕ) (answers : List Message) (sent : List (SocketAddr × List UInt8)) : LoopPc → Prop
  | .entering => read = 2 ∧ answers = [.text "ok"] ∧ sent = []
  | .reading => answers ≠ [.close] ∧ (read = 2 ∧ answers = serverLines ∧ sent = [] ∨ 3 ≤ read)
  | .waiting relay => 3 ≤ read ∧ answers = serverLines ∧ sent = [(relay.remotePeer, x.envelope.payload)] ∧
    ∃ env, relayOutboundDatagram env x.told = .ok relay
  | .returned _ => True

/-- how much the server has read and said, by where it stands -/
def HandlerOk (x : Setting) (peerLabel : String) (read : ℕ) (answers : List Message)
    (sent : List (SocketAddr × List UInt8)) (loop : LoopPc) : HandlerPc → Prop
  | .securing | .upgrading | .authenticating => read = 0 ∧ answers = [] ∧ sent = [] ∧ loop = .entering
  | .rejecting _ => answers = []
  | .acknowledging => read = 1 ∧ answers = [] ∧ sent = [] ∧ loop = .entering ∧ x.Admitted peerLabel
  | .requesting => read = 1 ∧ answers = [.text "ok"] ∧ sent = [] ∧ loop = .entering ∧ x.Admitted peerLabel
  | .serving accepted => accepted = .serverDatagramLoop x.envelope.associationId [] ∧ x.Admitted peerLabel ∧
    LoopOk x read answers sent loop
  | .ended _ => True

structure ExchangeInv (x : Setting) (peerLabel : String) (s : Exchange) : Prop where
  label : s.handler.peerLabel = peerLabel
  said : s.upWire.log <+: x.clientLines
  answered : AnsweredOk A x s.downWire.log s.sent
  sent : SentOk E x peerLabel s.upWire.past.length s.sent
  handed : s.handed = [] ∨ ∃ inbound, s.handed = [inbound] ∧ ReplyOk A x s.sent inbound
  emission : EmissionOk s.upWire.log.length s.downWire.past.length s.handed s.emission
  handler : HandlerOk x peerLabel s.upWire.past.length s.downWire.log s.sent s.loop s.handler.pc

end

theorem exchangeInv_start (E : UdpRelayEnv → Prop) (A : Received → Prop) (x : Setting) (peerLabel : String) :
    ExchangeInv E A x peerLabel (start peerLabel) where
  label := rfl
  said := List.nil_prefix
  answered := Or.inr (Or.inl List.nil_prefix)
  sent := Or.inl rfl
  handed := Or.inl rfl
  emission := ⟨rfl, rfl, rfl⟩
  handler := ⟨rfl, rfl, rfl, rfl⟩

theorem delivered_message {wire : Fifo Message} {gone : Bool} {frame : Except String Message}
    (h : delivered wire gone = some (some frame)) :
    ∃ message later, frame = .ok message ∧ wire.queued = message :: later := by
  unfold delivered at h
  cases hq : wire.queued with
  | nil =>
    rw [hq] at h
    cases gone <;> cases h
  | cons message later =>
    rw [hq] at h
    cases h
    exact ⟨message, later, rfl, rfl⟩

theorem length_take_one {wire : Fifo Message} {message : Message} {later : List Message}
    (h : wire.queued = message :: later) : (wire.take 1).past.length = wire.past.length + 1 := by
  simp [h]

/-- whoever has said more than the request has said the frame -/
theorem clientLines_of_frame (h : 2 < x.clientLines.length) :
    ∃ message, datagramMessage x.v6 x.envelope = .ok message ∧
      x.clientLines = [.binary (Utf8.encode x.authToken.toList), .text (datagramOpenText x.envelope.associationId),
        message, .close] := by
  unfold Setting.clientLines Setting.frame at h ⊢
  cases hmessage : datagramMessage x.v6 x.envelope with
  | error err =>
    rw [hmessage] at h
    exact absurd h (lt_irrefl 2)
  | ok message => exact ⟨message, rfl, rfl⟩

/-- the third message of the server is its reply -/
theorem replyOk_of_answered {A : Received → Prop} {sent : List (SocketAddr × List UInt8)} {wire : Fifo Message}
    {message : Message} {later : List Message} {inbound : DatagramEnvelope} (h : AnsweredOk A x wire.log sent)
    (hq : wire.queued = message :: later) (hread : wire.past.length = 2)
    (hdecode : decodeMessage x.v6 message = .ok inbound) : ReplyOk A x sent inbound := by
  have hline : wire.log[2]? = some message := by
    rw [← hread]
    exact Fifo.getElem?_of_log_isPrefix (List.prefix_refl _) hq
  rcases h with hclose | hlines | ⟨reply, inbound', hlog, hreply, hok⟩
  · rw [hclose] at hline
    cases hline
  · have hlt := (List.getElem?_eq_some_iff.1 hline).1
    exact absurd (hlt.trans_le hlines.length_le) (lt_irrefl 2)
  · rw [hlog] at hline
    cases hline
    rw [hdecode] at hreply
    cases hreply
    exact hok

/-! ## Steps of the client -/

section
variable {E : UdpRelayEnv → Prop} {A : Received → Prop} {peerLabel : String}

/-- the client says its next line -/
theorem exchangeInv_say (h : ExchangeInv E A x peerLabel s) {message : Message} {pc : EmissionPc}
    (hline : x.clientLines[s.upWire.log.length]? = some message)
    (hpc : EmissionOk (s.upWire.log.length + 1) s.downWire.past.length s.handed pc) :
    ExchangeInv E A x peerLabel (say s [message] pc) :=
  { h with
    said := Fifo.log_put_isPrefix h.said hline
    emission := by
      rw [say, Fifo.log_put, List.length_append, List.length_singleton]
      exact hpc }

/-- the client stands elsewhere -/
theorem exchangeInv_move (h : ExchangeInv E A x peerLabel s) {pc : EmissionPc}
    (hpc : EmissionOk s.upWire.log.length s.downWire.past.length s.handed pc) :
    ExchangeInv E A x peerLabel { s with emission := pc } :=
  { h with emission := hpc }

/-- the client reads, and hands over what it has read -/
theorem exchangeInv_hear (h : ExchangeInv E A x peerLabel s) {pc : EmissionPc} {handed : List DatagramEnvelope}
    (hhanded : handed = [] ∨ ∃ inbound, handed = [inbound] ∧ ReplyOk A x s.sent inbound)
    (hpc : EmissionOk s.upWire.log.length (s.downWire.take 1).past.length handed pc) :
    ExchangeInv E A x peerLabel { hear s pc with handed := handed } :=
  { h with
    answered := by rw [hear, Fifo.log_take]; exact h.answered
    handed := hhanded
    emission := hpc
    handler := by rw [hear, Fifo.log_take]; exact h.handler }

/-- an acknowledgement is a message that was read -/
theorem exchangeInv_ack (h : ExchangeInv E A x peerLabel s) {next : Next} {check : Next → Except WssError Unit}
    {pc : EmissionPc} (hnext : s.down = some next) (hcheck : ∀ wrap, next = none → check next ≠ .ok wrap)
    (hpc : EmissionOk s.upWire.log.length (s.downWire.past.length + 1) s.handed pc) :
    ExchangeInv E A x peerLabel (hear s (afterAck pc (check next))) := by
  refine exchangeInv_hear h h.handed ?_
  cases hresult : check next with
  | error err => exact trivial
  | ok =>
    cases next with
    | none => exact absurd hresult (hcheck () rfl)
    | some frame =>
      obtain ⟨message, later, -, hq⟩ := delivered_message hnext
      rw [length_take_one hq]
      exact hpc

theorem exchangeInv_stepEmit (h : ExchangeInv E A x peerLabel s) : ExchangeInv E A x peerLabel (stepEmit x s) := by
  have hok := h.emission
  unfold stepEmit
  cases hpc : s.emission with
  | connecting =>
    rw [hpc] at hok
    obtain ⟨hsaid, hread, hhanded⟩ := hok
    exact exchangeInv_say h (by rw [hsaid]; rfl) ⟨by rw [hsaid], hread, hhanded⟩
  | acked =>
    rw [hpc] at hok
    obtain ⟨hsaid, hread, hhanded⟩ := hok
    exact exchangeInv_say h (by rw [hsaid]; rfl) ⟨by rw [hsaid], hread, hhanded⟩
  | authSent =>
    rw [hpc] at hok
    obtain ⟨hsaid, hread, hhanded⟩ := hok
    simp only
    cases hnext : s.down with
    | none => exact h
    | some next => exact exchangeInv_ack h hnext (by rintro ⟨⟩ rfl h; cases h) ⟨hsaid, by rw [hread], hhanded⟩
  | openSent =>
    rw [hpc] at hok
    obtain ⟨hsaid, hread, hhanded⟩ := hok
    simp only
    cases hnext : s.down with
    | none => exact h
    | some next => exact exchangeInv_ack h hnext (by rintro ⟨⟩ rfl h; cases h) ⟨hsaid, by rw [hread], hhanded⟩
  | ready =>
    rw [hpc] at hok
    obtain ⟨hsaid, hread, hhanded⟩ := hok
    simp only
    cases hmessage : datagramMessage x.v6 x.envelope with
    | error err => exact exchangeInv_move h trivial
    | ok message =>
      have hline : x.clientLines[s.upWire.log.length]? = some message := by
        rw [hsaid, Setting.clientLines, Setting.frame, hmessage]
        rfl
      refine exchangeInv_say h hline ?_
      rw [hsaid]
      cases x.hasHandler with
      | true => exact ⟨rfl, hread, hhanded⟩
      | false => rfl
  | awaiting =>
    rw [hpc] at hok
    obtain ⟨hsaid, hread, hhanded⟩ := hok
    simp only [hhanded, List.nil_append]
    cases hnext : s.down with
    | none => exact h
    | some next =>
      rcases next with _ | frame
      · exact exchangeInv_hear h (Or.inl rfl) hsaid
      · obtain ⟨message, later, rfl, hq⟩ := delivered_message hnext
        simp only [afterReply]
        cases hdecode : decodeMessage x.v6 message with
        | error err => exact exchangeInv_hear h (Or.inl rfl) trivial
        | ok inbound =>
          exact exchangeInv_hear h (Or.inr ⟨inbound, rfl, replyOk_of_answered h.answered hq hread hdecode⟩) hsaid
  | closing =>
    rw [hpc] at hok
    have hsaid : s.upWire.log.length = 3 := hok
    have hlong : 2 < x.clientLines.length := hsaid.symm.trans_le h.said.length_le
    obtain ⟨message, -, hlines⟩ := clientLines_of_frame hlong
    exact exchangeInv_say h (by rw [hsaid, hlines]; rfl) (by rw [hsaid]; rfl)
  | handling => exact h
  | ended result => exact h

/-! ## Steps of the server -/

/-- the server stands elsewhere -/
theorem exchangeInv_handler (h : ExchangeInv E A x peerLabel s) {handler : Handler}
    (hlabel : handler.peerLabel = s.handler.peerLabel)
    (hok : HandlerOk x peerLabel s.upWire.past.length s.downWire.log s.sent s.loop handler.pc) :
    ExchangeInv E A x peerLabel { s with handler := handler } :=
  { h with
    label := hlabel.trans h.label
    handler := hok }

/-- the server has read -/
theorem exchangeInv_read (h : ExchangeInv E A x peerLabel s) {handler : Handler}
    (hlabel : handler.peerLabel = s.handler.peerLabel)
    (hok : HandlerOk x peerLabel (s.upWire.take 1).past.length s.downWire.log s.sent s.loop handler.pc) :
    ExchangeInv E A x peerLabel { s with handler := handler, upWire := s.upWire.take 1 } :=
  { h with
    label := hlabel.trans h.label
    said := by rw [Fifo.log_take]; exact h.said
    sent := h.sent.imp_right fun ⟨hadmitted, hread, hpeer⟩ =>
      ⟨hadmitted, hread.trans (by rw [Fifo.past_take, List.length_append]; exact Nat.le_add_right _ _), hpeer⟩
    emission := by rw [Fifo.log_take]; exact h.emission
    handler := hok }

/-- the server says its next line -/
theorem exchangeInv_answer (h : ExchangeInv E A x peerLabel s) {messages : List Message} {handler : Handler}
    {loop : LoopPc} (hlabel : handler.peerLabel = s.handler.peerLabel)
    (hanswered : AnsweredOk A x (s.downWire.log ++ messages) s.sent)
    (hok : HandlerOk x peerLabel s.upWire.past.length (s.downWire.log ++ messages) s.sent loop handler.pc) :
    ExchangeInv E A x peerLabel (answer s messages handler loop) :=
  { h with
    label := hlabel.trans h.label
    answered := by rw [answer, Fifo.log_put]; exact hanswered
    handler := by rw [answer, Fifo.log_put]; exact hok }

/-- the client's token is allowed or refused -/
theorem handlerNext_token {handler : Handler} (hpc : handler.pc = .authenticating) :
    let next := handlerNext x.policy handler (some (.ok (.binary (Utf8.encode x.authToken.toList))))
    next.peerLabel = handler.peerLabel ∧
      (next.pc = .acknowledging ∧ x.Admitted handler.peerLabel ∨ ∃ detail, next.pc = .rejecting detail) := by
  simp only [handlerNext, hpc, handlerAuthenticate, Message.credentials, Handler.receive, Setting.Admitted]
  cases x.policy.validateHandshake ⟨Utf8.encode x.authToken.toList, handler.peerLabel⟩ with
  | allow identity => exact ⟨rfl, Or.inl ⟨rfl, rfl⟩⟩
  | reject rejection => exact ⟨rfl, Or.inr ⟨_, rfl⟩⟩

/-- the client's request opens the path of its association -/
theorem handlerNext_request {handler : Handler} (hpc : handler.pc = .requesting) :
    let next := handlerNext x.policy handler (some (.ok (.text (datagramOpenText x.envelope.associationId))))
    next.peerLabel = handler.peerLabel ∧ next.pc = .serving (.serverDatagramLoop x.envelope.associationId []) := by
  simp only [handlerNext, hpc, handlerRequest, parseDatagramOpenRequest_datagramOpenText]
  exact ⟨rfl, rfl⟩

theorem exchangeInv_stepServe (h : ExchangeInv E A x peerLabel s) : ExchangeInv E A x peerLabel (stepServe x s) := by
  have hok := h.handler
  unfold stepServe
  cases hpc : s.handler.pc with
  | securing =>
    rw [hpc] at hok
    exact exchangeInv_handler h (by simp [handlerCall, hpc]) (by simp only [handlerCall, hpc]; exact hok)
  | upgrading =>
    rw [hpc] at hok
    exact exchangeInv_handler h (by simp [handlerCall, hpc]) (by simp only [handlerCall, hpc]; exact hok)
  | authenticating =>
    rw [hpc] at hok
    obtain ⟨hread, hanswers, hsent, hloop⟩ := hok
    simp only
    cases hnext : s.up with
    | none => exact h
    | some next =>
      rcases next with _ | frame
      · exact exchangeInv_read h (by simp [handlerNext, hpc, Handler.fail])
          (by simp only [handlerNext, hpc, Handler.fail]; exact trivial)
      · obtain ⟨message, later, rfl, hq⟩ := delivered_message hnext
        have hline := Fifo.getElem?_of_log_isPrefix h.said hq
        rw [hread] at hline
        cases hline
        obtain ⟨hlabel', hauth⟩ := handlerNext_token (x := x) hpc
        refine exchangeInv_read h hlabel' ?_
        rw [length_take_one hq, hread]
        rcases hauth with ⟨hpc', hadmitted⟩ | ⟨detail, hpc'⟩
        · rw [hpc']
          rw [h.label] at hadmitted
          exact ⟨rfl, hanswers, hsent, hloop, hadmitted⟩
        · rw [hpc']
          exact hanswers
  | rejecting detail =>
    rw [hpc] at hok
    have hanswers : s.downWire.log = [] := hok
    refine exchangeInv_answer h (by simp [handlerCall, hpc, Handler.fail]) (by rw [hanswers]; exact Or.inl rfl) ?_
    simp only [handlerCall, hpc, Handler.fail]
    exact trivial
  | acknowledging =>
    rw [hpc] at hok
    obtain ⟨hread, hanswers, hsent, hloop, hadmitted⟩ := hok
    have hline : [Message.text "ok"] <+: serverLines := ⟨[.text "datagram-ready"], rfl⟩
    refine exchangeInv_answer h (by simp [handlerCall, hpc]) (by rw [hanswers]; exact Or.inr (Or.inl hline)) ?_
    simp only [handlerCall, hpc]
    exact ⟨hread, by rw [hanswers]; rfl, hsent, hloop, hadmitted⟩
  | requesting =>
    rw [hpc] at hok
    obtain ⟨hread, hanswers, hsent, hloop, hadmitted⟩ := hok
    simp only
    cases hnext : s.up with
    | none => exact h
    | some next =>
      rcases next with _ | frame
      · exact exchangeInv_read h (by simp [handlerNext, hpc, Handler.fail])
          (by simp only [handlerNext, hpc, Handler.fail]; exact trivial)
      · obtain ⟨message, later, rfl, hq⟩ := delivered_message hnext
        have hline := Fifo.getElem?_of_log_isPrefix h.said hq
        rw [hread] at hline
        cases hline
        obtain ⟨hlabel', hpc'⟩ := handlerNext_request (x := x) hpc
        refine exchangeInv_read h hlabel' ?_
        rw [length_take_one hq, hread, hpc', hloop]
        exact ⟨rfl, hadmitted, rfl, hanswers, hsent⟩
  | serving accepted =>
    rw [hpc] at hok
    obtain ⟨rfl, hadmitted, hloop⟩ := hok
    simp only
    cases hl : s.loop with
    | entering =>
      rw [hl] at hloop
      obtain ⟨hread, hanswers, hsent⟩ := hloop
      have hlines : s.downWire.log ++ [.text "datagram-ready"] = serverLines := by rw [hanswers]; rfl
      refine exchangeInv_answer h rfl (by rw [hlines]; exact Or.inr (Or.inl (List.prefix_refl _))) ?_
      rw [hlines, hpc]
      exact ⟨rfl, hadmitted, by decide, Or.inl ⟨hread, rfl, hsent⟩⟩
    | reading => exact h
    | waiting relay => exact h
    | returned result =>
      have hturn : handlerTurn x.policy s.handler (.loopEnds result) = { s.handler with pc := .ended result } := by
        simp only [handlerTurn, hpc]
      simp only [hturn, ← hl]
      apply exchangeInv_handler h
      · rfl
      · exact trivial
  | ended result => exact h

/-! ## Steps of the loop -/

theorem SentOk.mono {read read' : ℕ} {sent : List (SocketAddr × List UInt8)} (h : SentOk E x peerLabel read sent)
    (hle : read ≤ read') : SentOk E x peerLabel read' sent :=
  h.imp_right fun ⟨hadmitted, hread, hpeer⟩ => ⟨hadmitted, hread.trans hle, hpeer⟩

theorem encodeDatagram_told (x : Setting) : encodeDatagram x.v6 x.told = encodeDatagram x.v6 x.envelope := by
  have haddr : ∀ addr : SocketAddr,
      (SocketAddr.new addr.ip addr.port).ip = addr.ip ∧ (SocketAddr.new addr.ip addr.port).port = addr.port := by
    rintro (⟨ip, port⟩ | ⟨ip, port, flowinfo, scopeId⟩) <;> exact ⟨rfl, rfl⟩
  obtain ⟨hip, hport⟩ := haddr x.envelope.relayClientAddr
  simp only [encodeDatagram, Setting.told, hip, hport]

/-- the frame tells the envelope -/
theorem decodeMessage_frame (hv6 : x.v6.Lawful) (hpayload : x.envelope.payload.length < 2 ^ 32) {message : Message}
    (h : datagramMessage x.v6 x.envelope = .ok message) :
    ∃ frame, message = .binary frame ∧ decodeMessage x.v6 (.binary frame) = .ok x.told := by
  obtain ⟨frame, hframe, rfl⟩ := datagramMessage_eq_ok h
  rw [← encodeDatagram_told] at hframe
  have hplain : PlainClient x.told.relayClientAddr := plainClient_new _ _
  exact ⟨frame, rfl, decode_of_encode hv6 hplain hpayload hframe⟩

/-- the loop has read -/
theorem exchangeInv_loop (h : ExchangeInv E A x peerLabel s) {loop : LoopPc} {sent : List (SocketAddr × List UInt8)}
    (hsent : SentOk E x peerLabel (s.upWire.take 1).past.length sent) (hanswered : AnsweredOk A x s.downWire.log sent)
    (hhanded : s.handed = [] ∨ ∃ inbound, s.handed = [inbound] ∧ ReplyOk A x sent inbound)
    (hok : HandlerOk x peerLabel (s.upWire.take 1).past.length s.downWire.log sent loop s.handler.pc) :
    ExchangeInv E A x peerLabel { s with loop := loop, sent := sent, upWire := s.upWire.take 1 } :=
  { h with
    said := by rw [Fifo.log_take]; exact h.said
    answered := hanswered
    sent := hsent
    handed := hhanded
    emission := by rw [Fifo.log_take]; exact h.emission
    handler := hok }

/-- and has sent nothing on -/
theorem exchangeInv_loopEnds (h : ExchangeInv E A x peerLabel s) {accepted : Accepted} {result : Except WssError Unit}
    (hpc : s.handler.pc = .serving accepted) :
    ExchangeInv E A x peerLabel { s with loop := .returned result, sent := s.sent ++ [], upWire := s.upWire.take 1 } := by
  have hok := h.handler
  rw [hpc] at hok
  rw [List.append_nil]
  apply exchangeInv_loop h
  · exact h.sent.mono (by rw [Fifo.past_take, List.length_append]; exact Nat.le_add_right _ _)
  · exact h.answered
  · exact h.handed
  · rw [hpc]
    exact ⟨hok.1, hok.2.1, trivial⟩

theorem exchangeInv_stepLoopReads (hv6 : x.v6.Lawful) (hpayload : x.envelope.payload.length < 2 ^ 32)
    (h : ExchangeInv E A x peerLabel s) {env : UdpRelayEnv} (henv : E env) :
    ExchangeInv E A x peerLabel (stepLoopReads x env s) := by
  have hok := h.handler
  unfold stepLoopReads
  split
  · rename_i associationId later next hpc hl hnext
    rw [hpc, hl] at hok
    obtain ⟨haccepted, hadmitted, -, hplace⟩ := hok
    cases haccepted
    rcases next with _ | frame
    · exact exchangeInv_loopEnds h hpc
    · obtain ⟨message, later, rfl, hq⟩ := delivered_message hnext
      have hline := Fifo.getElem?_of_log_isPrefix h.said hq
      obtain ⟨hlt, -⟩ := List.getElem?_eq_some_iff.1 hline
      have hlong : 2 < x.clientLines.length := by
        rcases hplace with ⟨htwo, -, -⟩ | hthree
        · rwa [htwo] at hlt
        · exact lt_of_lt_of_le (by omega) hlt
      obtain ⟨framed, hframed, hlines⟩ := clientLines_of_frame hlong
      rw [hlines] at hline hlt
      rcases hplace with ⟨htwo, hanswers, hnone⟩ | hthree
      · -- the frame
        rw [htwo] at hline
        cases hline
        obtain ⟨bytes, rfl, hdecode⟩ := decodeMessage_frame hv6 hpayload hframed
        have hid : ¬x.told.associationId ≠ x.envelope.associationId := not_not.2 rfl
        simp only [loopNext, loopRead, hdecode, if_neg hid]
        cases hrelay : relayOutboundDatagram env x.told with
        | error err => exact exchangeInv_loopEnds h hpc
        | ok relay =>
          obtain ⟨-, -, -, hpeer⟩ := relayOutboundDatagram_eq_ok hrelay
          have hunhanded : s.handed = [] := by
            rcases h.handed with hnil | ⟨inbound, -, packet, -, hsent, -⟩
            · exact hnil
            · rw [hnone] at hsent
              cases hsent
          simp only [hnone, List.nil_append]
          apply exchangeInv_loop h
          · rw [length_take_one hq, htwo]
            exact Or.inr ⟨hadmitted, le_rfl, env, relay.remotePeer, henv, hpeer, rfl⟩
          · rw [hanswers]
            exact Or.inr (Or.inl (List.prefix_refl _))
          · exact Or.inl hunhanded
          · rw [length_take_one hq, htwo, hpc]
            exact ⟨rfl, hadmitted, le_rfl, hanswers, rfl, env, hrelay⟩
      · -- what follows the frame is the end
        have hlast : s.upWire.past.length = 3 := by
          simp only [List.length_cons, List.length_nil] at hlt
          omega
        rw [hlast] at hline
        cases hline
        exact exchangeInv_loopEnds h hpc
  · exact h

theorem exchangeInv_stepArrives (hv6 : x.v6.Lawful) (h : ExchangeInv E A x peerLabel s) {turn : DatagramTurn}
    (harrival : ∀ packet, turn.arrival = some (.ok packet) → A packet) :
    ExchangeInv E A x peerLabel (stepArrives x turn s) := by
  have hok := h.handler
  unfold stepArrives
  split
  · rename_i accepted relay hpc hl
    rw [hpc, hl] at hok
    obtain ⟨haccepted, hadmitted, hread, hanswers, hsent, env, hrelay⟩ := hok
    have hloop : ∀ answers status, answers ≠ [Message.close] →
        LoopOk x s.upWire.past.length answers s.sent (loopPcOf status) := by
      intro answers status hne
      cases status with
      | running => exact ⟨hne, Or.inr hread⟩
      | ended result => exact trivial
    -- the relay is the one of `env`, whatever the next one would be
    obtain ⟨turn', henv, harrival', hawait⟩ : ∃ turn' : DatagramTurn, turn'.env = env ∧ turn'.arrival = turn.arrival ∧
        awaitReply x.v6 turn' relay = awaitReply x.v6 turn relay := ⟨{ turn with env := env }, rfl, rfl, rfl⟩
    rw [← henv] at hrelay
    have hcases := awaitReply_cases hv6 (plainClient_new _ _) hrelay
    rw [hawait, harrival'] at hcases
    rcases hcases with hnone | ⟨packet, message, hpacket, hsource, hdecode, hone⟩
    · have hmessages : (loopArrives x.v6 turn relay).1 = [] := by rw [loopArrives, hnone]; rfl
      apply exchangeInv_answer h
      · rfl
      · rw [hmessages, List.append_nil]
        exact h.answered
      · rw [hmessages, List.append_nil, hpc]
        exact ⟨haccepted, hadmitted, hloop _ _ (by rw [hanswers]; decide)⟩
    · have hmessages : (loopArrives x.v6 turn relay).1 = [message] := by rw [loopArrives, hone]; rfl
      apply exchangeInv_answer h
      · rfl
      · rw [hmessages, hanswers]
        exact Or.inr (Or.inr ⟨message, _, rfl, hdecode, packet, harrival packet hpacket, by rw [hsent, hsource], rfl⟩)
      · rw [hmessages, hanswers, hpc]
        exact ⟨haccepted, hadmitted, hloop _ _ (by simp [serverLines])⟩
  · exact h

/-! ## Runs -/

/-- what an operation brings in is of the run -/
def OpOk (E : UdpRelayEnv → Prop) (A : Received → Prop) : Op → Prop
  | .loopReads env => E env
  | .arrives turn => ∀ packet, turn.arrival = some (.ok packet) → A packet
  | _ => True

/-- **One step.** No step of either end says a line that is not its turn. -/
theorem exchangeInv_step (hv6 : x.v6.Lawful) (hpayload : x.envelope.payload.length < 2 ^ 32)
    (h : ExchangeInv E A x peerLabel s) {o : Op} (ho : OpOk E A o) : ExchangeInv E A x peerLabel (step x s o) := by
  have hok := h.emission
  cases o with
  | emit => exact exchangeInv_stepEmit h
  | windowCloses =>
    simp only [step]
    split_ifs with hpc
    · rw [hpc] at hok
      exact exchangeInv_move h hok.1
    · exact h
  | handled result =>
    simp only [step]
    split_ifs with hpc
    · rw [hpc] at hok
      cases result with
      | error err => exact exchangeInv_move h trivial
      | ok => exact exchangeInv_move h hok
    · exact h
  | emitFails err =>
    simp only [step]
    split_ifs
    · exact h
    · exact exchangeInv_move h trivial
  | serve => exact exchangeInv_stepServe h
  | loopReads env => exact exchangeInv_stepLoopReads hv6 hpayload h ho
  | arrives turn => exact exchangeInv_stepArrives hv6 h ho
  | serveFails err =>
    simp only [step]
    split_ifs
    · exact h
    · exact exchangeInv_handler h rfl trivial

theorem exchangeInv_run (hv6 : x.v6.Lawful) (hpayload : x.envelope.payload.length < 2 ^ 32)
    (h : ExchangeInv E A x peerLabel s) {ops : List Op} (hops : ∀ o ∈ ops, OpOk E A o) :
    ExchangeInv E A x peerLabel (run (step x) s ops) := by
  induction ops generalizing s with
  | nil => exact h
  | cons o ops ih =>
    have hone := exchangeInv_step hv6 hpayload h (hops o List.mem_cons_self)
    exact ih hone fun o' ho' => hops o' (List.mem_cons_of_mem _ ho')

end

/-- what the operations of a run bring in -/
theorem exchangeInv_of_run (x : Setting) (peerLabel : String) (hv6 : x.v6.Lawful)
    (hpayload : x.envelope.payload.length < 2 ^ 32) (ops : List Op) :
    ExchangeInv (fun env => .loopReads env ∈ ops)
      (fun packet => ∃ turn, .arrives turn ∈ ops ∧ turn.arrival = some (.ok packet)) x peerLabel
      (run (step x) (start peerLabel) ops) := by
  apply exchangeInv_run hv6 hpayload (exchangeInv_start _ _ x peerLabel)
  intro o ho
  cases o with
  | loopReads env => exact ho
  | arrives turn => exact fun packet hpacket => ⟨turn, ho, hpacket⟩
  | _ => exact trivial

/-- **The two ends agree.** Whatever fails, and in whatever order the two ends, the window and the network go on: a
payload goes out at most once, only if the client's token is allowed, and it is the one that was to be sent, to the
address that its own target has; the inbound handler is given at most one envelope, and that is a packet of this address
under the client's own association, address and target; and what is reported as sent was sent. -/
theorem exchange_agrees (x : Setting) (peerLabel : String) (hv6 : x.v6.Lawful)
    (hpayload : x.envelope.payload.length < 2 ^ 32) (ops : List Op) :
    let s := run (step x) (start peerLabel) ops
    (s.sent = [] ∨ x.Admitted peerLabel ∧ ∃ env peer, .loopReads env ∈ ops ∧
        resolveTarget env x.envelope.target = .ok peer ∧ s.sent = [(peer, x.envelope.payload)]) ∧
      (s.handed = [] ∨ ∃ packet turn, .arrives turn ∈ ops ∧ turn.arrival = some (.ok packet) ∧
        s.sent = [(packet.source, x.envelope.payload)] ∧ s.handed = [{ x.told with payload := packet.bytes }]) ∧
      (s.emission = .ended (.ok ()) → ∃ message, datagramMessage x.v6 x.envelope = .ok message ∧
        s.upWire.log = x.clientLines ∧ message ∈ s.upWire.log) := by
  intro s
  have h := exchangeInv_of_run x peerLabel hv6 hpayload ops
  refine ⟨?_, ?_, ?_⟩
  · rcases h.sent with hnone | ⟨hadmitted, -, env, peer, henv, hpeer, hsent⟩
    · exact Or.inl hnone
    · exact Or.inr ⟨hadmitted, env, peer, henv, hpeer, hsent⟩
  · rcases h.handed with hnone | ⟨inbound, hhanded, packet, ⟨turn, hturn, harrival⟩, hsent, rfl⟩
    · exact Or.inl hnone
    · exact Or.inr ⟨packet, turn, hturn, harrival, hsent, hhanded⟩
  · intro hpc
    have hok := h.emission
    rw [hpc] at hok
    have hsaid : s.upWire.log.length = 4 := hok
    have hlong : s.upWire.log.length ≤ x.clientLines.length := h.said.length_le
    rw [hsaid] at hlong
    obtain ⟨message, hmessage, hlines⟩ := clientLines_of_frame (Nat.lt_of_succ_lt hlong)
    have hall : s.upWire.log = x.clientLines := h.said.eq_of_length (by rw [hsaid, hlines]; rfl)
    exact ⟨message, hmessage, hall, by rw [hall, hlines]; simp⟩

theorem shortToken_notBlank : Text.trim "tok".toList ≠ [] := List.cons_ne_nil 't' ['o', 'k']

/-- a client with two bytes for port 53, and a server with the same token -/
def shortSetting : Setting where
  v6 := Ipv6.std
  debug := fun _ => ""
  authToken := "tok"
  envelope := ⟨1, .v4 ⟨127, 0, 0, 1⟩ 50000, .ip (.v4 ⟨9, 9, 9, 9⟩ 53), [1, 2]⟩
  hasHandler := true
  policy := ⟨"tok", shortToken_notBlank⟩

def shortEnv : UdpRelayEnv := ⟨fun _ _ => .error "", .ok (.v4 ⟨0, 0, 0, 0⟩ 40000), .ok ()⟩

def shortPacket : Received := ⟨[3, 4, 5], .v4 ⟨9, 9, 9, 9⟩ 53, by decide⟩

/-- the reply comes in the window -/
def shortOps : List Op :=
  [.emit, .serve, .serve, .serve, .serve, .emit, .emit, .serve, .serve, .emit, .emit, .loopReads shortEnv,
    .arrives ⟨.error "", shortEnv, some (.ok shortPacket), .ok ()⟩, .emit, .handled (.ok ()), .emit]

/-- the handler is given the reply -/
theorem short_exchange_hands : ∃ packet turn, .arrives turn ∈ shortOps ∧ turn.arrival = some (.ok packet) ∧
    (run (step shortSetting) (start "client") shortOps).sent = [(packet.source, [1, 2])] ∧
    (run (step shortSetting) (start "client") shortOps).handed =
      [{ shortSetting.told with payload := packet.bytes }] := by
  have hagrees := exchange_agrees shortSetting "client" Ipv6.std_lawful (by decide) shortOps
  exact hagrees.2.1.resolve_left (by decide)

/-- **Replies stay.** With this server at the other end, what the client's own inbound handler sends out goes to the
client of the association that the datagram is of, whatever its registry holds by then. -/
theorem own_server_replies_stay {Socket : Type} (x : Setting) (peerLabel : String) (hv6 : x.v6.Lawful)
    (hpayload : x.envelope.payload.length < 2 ^ 32) (ops : List Op) (target : ClientDatagramInboundTarget Socket)
    (sendTo : Delivery Socket → Await (Except String Unit)) :
    ∀ inbound ∈ (run (step x) (start peerLabel) ops).handed, ∀ n delivery,
      (n, delivery) ∈ (target.handleInbound x.v6 sendTo inbound).1.events →
        target.DeliversFor x.envelope.associationId delivery := by
  intro inbound hinbound n delivery hsent
  have h := exchangeInv_of_run x peerLabel hv6 hpayload ops
  rcases h.handed with hnone | ⟨inbound', hhanded, packet, -, -, rfl⟩
  · rw [hnone] at hinbound
    cases hinbound
  · rw [hhanded] at hinbound
    obtain rfl := List.mem_singleton.1 hinbound
    have hdelivers := mem_events_handleInbound hsent
    exact hdelivers

/-- the reply goes to its client, and the other client's association is there too -/
theorem short_reply_stays : twoClients.DeliversFor 1
    ⟨3, .v4 ⟨127, 0, 0, 1⟩ 50000, [0, 0, 0, 1, 9, 9, 9, 9, 0, 53, 3, 4, 5]⟩ := by
  have hstays := own_server_replies_stay shortSetting "client" Ipv6.std_lawful (by decide) shortOps twoClients sendsAtOnce
  exact hstays { shortSetting.told with payload := [3, 4, 5] } (by decide) 0 _ (by decide)

/-! ## An end to it -/

def emissionRank : EmissionPc → ℕ
  | .connecting => 8
  | .authSent => 7
  | .acked => 6
  | .openSent => 5
  | .ready => 4
  | .awaiting => 3
  | .handling => 2
  | .closing => 1
  | .ended _ => 0

def loopRank : LoopPc → ℕ
  | .entering => 4
  | .waiting _ => 3
  | .reading => 2
  | .returned _ => 1

def handlerRank (loop : LoopPc) : HandlerPc → ℕ
  | .securing => 9
  | .upgrading => 8
  | .authenticating => 7
  | .acknowledging => 6
  | .requesting => 5
  | .serving _ => loopRank loop
  | .rejecting _ => 1
  | .ended _ => 0

/-- a message that is said is paid for by a step of the client, and pays for a turn of the loop -/
def rank (s : Exchange) : ℕ := 3 * emissionRank s.emission + handlerRank s.loop s.handler.pc + 2 * s.upWire.queued.length

theorem loopRank_le (loop : LoopPc) : loopRank loop ≤ 4 := by
  cases loop <;> simp [loopRank]

theorem rank_say {s : Exchange} {message : Message} {pc : EmissionPc} (h : emissionRank pc < emissionRank s.emission) :
    rank (say s [message] pc) < rank s := by
  simp only [rank, say, Fifo.put, List.length_append, List.length_singleton]
  omega

theorem rank_emission {s s' : Exchange} (h : emissionRank s'.emission < emissionRank s.emission)
    (hhandler : s'.handler = s.handler) (hloop : s'.loop = s.loop) (hup : s'.upWire = s.upWire) : rank s' < rank s := by
  simp only [rank, hhandler, hloop, hup]
  omega

theorem rank_handler {s s' : Exchange} (h : handlerRank s'.loop s'.handler.pc < handlerRank s.loop s.handler.pc)
    (hemission : s'.emission = s.emission) (hup : s'.upWire.queued.length ≤ s.upWire.queued.length) :
    rank s' < rank s := by
  simp only [rank, hemission]
  omega

theorem rank_stepEmit (x : Setting) (s : Exchange) : stepEmit x s = s ∨ rank (stepEmit x s) < rank s := by
  unfold stepEmit
  cases hpc : s.emission with
  | connecting => exact Or.inr (rank_say (by rw [hpc]; decide))
  | acked => exact Or.inr (rank_say (by rw [hpc]; decide))
  | closing => exact Or.inr (rank_say (by rw [hpc]; decide))
  | authSent =>
    simp only
    cases s.down with
    | none => exact Or.inl rfl
    | some next =>
      refine Or.inr (rank_emission ?_ rfl rfl rfl)
      simp only [hear, hpc]
      cases checkAuthAck x.debug next <;> simp [afterAck, emissionRank]
  | openSent =>
    simp only
    cases s.down with
    | none => exact Or.inl rfl
    | some next =>
      refine Or.inr (rank_emission ?_ rfl rfl rfl)
      simp only [hear, hpc]
      cases checkPathAck x.debug next <;> simp [afterAck, emissionRank]
  | ready =>
    right
    simp only
    cases datagramMessage x.v6 x.envelope with
    | error err => exact rank_emission (by simp [hpc, emissionRank]) rfl rfl rfl
    | ok message =>
      apply rank_say
      rw [hpc]
      cases x.hasHandler <;> decide
  | awaiting =>
    simp only
    cases s.down with
    | none => exact Or.inl rfl
    | some next =>
      refine Or.inr (rank_emission ?_ rfl rfl rfl)
      simp only [hear, hpc]
      rcases next with _ | err | message
      · simp [afterReply, emissionRank]
      · simp [afterReply, emissionRank]
      · cases hdecode : decodeMessage x.v6 message <;> simp [afterReply, hdecode, emissionRank]
  | handling => exact Or.inl rfl
  | ended result => exact Or.inl rfl

/-- a server that reads goes on, or ends -/
theorem handlerRank_next (policy : AuthPolicy) {handler : Handler} (loop : LoopPc) (next : Next)
    (hpc : handler.pc = .authenticating ∨ handler.pc = .requesting) :
    handlerRank loop (handlerNext policy handler next).pc < handlerRank loop handler.pc := by
  have hloop := loopRank_le loop
  rcases hpc with hpc | hpc
  · rcases next with _ | err | message
    · simp [handlerNext, hpc, Handler.fail, handlerRank]
    · simp [handlerNext, hpc, Handler.fail, handlerRank]
    · simp only [handlerNext, hpc, handlerAuthenticate]
      cases message.credentials with
      | none => simp [Handler.fail, handlerRank]
      | some credentials =>
        simp only
        cases policy.validateHandshake ⟨credentials, (handler.receive (.ok message)).peerLabel⟩ <;> simp [handlerRank]
  · rcases next with _ | err | message
    · simp [handlerNext, hpc, Handler.fail, handlerRank]
    · simp [handlerNext, hpc, Handler.fail, handlerRank]
    · simp only [handlerNext, hpc, handlerRequest]
      cases parseDatagramOpenRequest message <;> simp [Handler.enter, handlerRank] <;> omega

theorem length_take_le (wire : Fifo Message) : (wire.take 1).queued.length ≤ wire.queued.length := by
  rw [Fifo.queued_take, List.length_drop]
  exact Nat.sub_le _ _

theorem rank_stepServe (x : Setting) (s : Exchange) : stepServe x s = s ∨ rank (stepServe x s) < rank s := by
  unfold stepServe
  cases hpc : s.handler.pc with
  | securing => exact Or.inr (rank_handler (by simp [handlerCall, hpc, handlerRank]) rfl le_rfl)
  | upgrading => exact Or.inr (rank_handler (by simp [handlerCall, hpc, handlerRank]) rfl le_rfl)
  | acknowledging => exact Or.inr (rank_handler (by simp [answer, handlerCall, hpc, handlerRank]) rfl le_rfl)
  | rejecting detail =>
    exact Or.inr (rank_handler (by simp [answer, handlerCall, hpc, Handler.fail, handlerRank]) rfl le_rfl)
  | authenticating =>
    simp only
    cases s.up with
    | none => exact Or.inl rfl
    | some next =>
      exact Or.inr (rank_handler (handlerRank_next x.policy s.loop next (Or.inl hpc)) rfl (length_take_le s.upWire))
  | requesting =>
    simp only
    cases s.up with
    | none => exact Or.inl rfl
    | some next =>
      exact Or.inr (rank_handler (handlerRank_next x.policy s.loop next (Or.inr hpc)) rfl (length_take_le s.upWire))
  | serving accepted =>
    cases accepted with
    | serverDatagramLoop associationId later =>
      simp only
      cases hl : s.loop with
      | entering => exact Or.inr (rank_handler (by simp [answer, hpc, hl, handlerRank, loopRank]) rfl le_rfl)
      | returned result =>
        exact Or.inr (rank_handler (by simp [handlerTurn, hpc, hl, handlerRank, loopRank]) rfl le_rfl)
      | reading => exact Or.inl rfl
      | waiting relay => exact Or.inl rfl
    | serverProxyLoop targetMessage later => exact Or.inl rfl
    | failed err => exact Or.inl rfl
  | ended result => exact Or.inl rfl

theorem loopRank_read (v6 : Ipv6Text) (associationId : DatagramAssociationId) (env : UdpRelayEnv) (message : Message) :
    loopRank (loopRead v6 associationId env message).2 ≤ 3 := by
  cases message with
  | binary bytes =>
    simp only [loopRead]
    cases decodeMessage v6 (.binary bytes) with
    | error err => simp [loopRank]
    | ok envelope =>
      simp only
      split_ifs
      · simp [loopRank]
      · cases relayOutboundDatagram env envelope <;> simp [loopRank]
  | _ => simp [loopRead, loopRank]

theorem rank_stepLoopReads (x : Setting) (env : UdpRelayEnv) (s : Exchange) :
    stepLoopReads x env s = s ∨ rank (stepLoopReads x env s) < rank s := by
  unfold stepLoopReads
  split
  · rename_i associationId later next hpc hl hnext
    right
    rcases next with _ | frame
    · refine rank_handler ?_ rfl (length_take_le s.upWire)
      simp [hpc, hl, loopNext, handlerRank, loopRank]
    · obtain ⟨message, rest, rfl, hq⟩ := delivered_message hnext
      have hloop := loopRank_read x.v6 associationId env message
      have htake : (s.upWire.take 1).queued.length + 1 = s.upWire.queued.length := by simp [hq]
      have hreading : handlerRank s.loop s.handler.pc = 2 := by rw [hpc, hl]; rfl
      simp only [rank, loopNext, hreading]
      simp only [hpc, handlerRank]
      omega
  · exact Or.inl rfl

theorem rank_stepArrives (x : Setting) (turn : DatagramTurn) (s : Exchange) :
    stepArrives x turn s = s ∨ rank (stepArrives x turn s) < rank s := by
  unfold stepArrives
  split
  · rename_i accepted relay hpc hl
    refine Or.inr (rank_handler ?_ rfl le_rfl)
    simp only [answer, hpc, hl, handlerRank, loopArrives]
    cases (awaitReply x.v6 turn relay).2 <;> simp [loopPcOf, loopRank]
  · exact Or.inl rfl

theorem emissionRank_pos {pc : EmissionPc} (h : ¬pc.isOver = true) : 0 < emissionRank pc := by
  cases pc <;> simp_all [EmissionPc.isOver, emissionRank]

theorem handlerRank_pos {loop : LoopPc} {pc : HandlerPc} (h : ¬handlerOver pc = true) : 0 < handlerRank loop pc := by
  cases pc with
  | serving accepted => cases loop <;> simp [handlerRank, loopRank]
  | ended result => exact absurd rfl h
  | _ => simp [handlerRank]

/-- **One step** that is one lowers the rank. -/
theorem rank_step (x : Setting) (s : Exchange) (o : Op) : step x s o = s ∨ rank (step x s o) < rank s := by
  cases o with
  | emit => exact rank_stepEmit x s
  | windowCloses =>
    simp only [step]
    split_ifs with hpc
    · exact Or.inr (rank_emission (by simp [hpc, emissionRank]) rfl rfl rfl)
    · exact Or.inl rfl
  | handled result =>
    simp only [step]
    split_ifs with hpc
    · refine Or.inr (rank_emission ?_ rfl rfl rfl)
      cases result <;> simp [hpc, Except.mapError, afterAck, emissionRank]
    · exact Or.inl rfl
  | emitFails err =>
    simp only [step]
    split_ifs with hover
    · exact Or.inl rfl
    · exact Or.inr (rank_emission (emissionRank_pos hover) rfl rfl rfl)
  | serve => exact rank_stepServe x s
  | loopReads env => exact rank_stepLoopReads x env s
  | arrives turn => exact rank_stepArrives x turn s
  | serveFails err =>
    simp only [step]
    split_ifs with hover
    · exact Or.inl rfl
    · exact Or.inr (rank_handler (handlerRank_pos hover) rfl le_rfl)

/-! ## Neither end is stuck -/

theorem step_ne_of_emission {s s' : Exchange} (h : s'.emission ≠ s.emission) : s' ≠ s := fun heq => h (by rw [heq])

theorem step_ne_of_handler {s s' : Exchange} (h : s'.handler.pc ≠ s.handler.pc) : s' ≠ s := fun heq => h (by rw [heq])

/-- a server that has something to read, or nothing to wait for, goes on -/
theorem serve_moves {s : Exchange} (h : ∀ accepted, s.handler.pc = .serving accepted →
      ∃ associationId later result, accepted = .serverDatagramLoop associationId later ∧
        (s.loop = .entering ∨ s.loop = .returned result))
    (hup : s.handler.pc = .authenticating ∨ s.handler.pc = .requesting → s.up ≠ none)
    (hover : handlerOver s.handler.pc = false) : stepServe x s ≠ s := by
  unfold stepServe
  cases hpc : s.handler.pc with
  | securing => exact step_ne_of_handler (by simp [handlerCall, hpc])
  | upgrading => exact step_ne_of_handler (by simp [handlerCall, hpc])
  | acknowledging => exact step_ne_of_handler (by simp [answer, handlerCall, hpc])
  | rejecting detail => exact step_ne_of_handler (by simp [answer, handlerCall, hpc, Handler.fail])
  | authenticating =>
    obtain ⟨next, hnext⟩ := Option.ne_none_iff_exists'.1 (hup (Or.inl hpc))
    have hfall := handlerRank_next x.policy s.loop next (Or.inl hpc)
    simp only [hnext]
    exact step_ne_of_handler fun heq => absurd hfall (by rw [heq]; exact lt_irrefl _)
  | requesting =>
    obtain ⟨next, hnext⟩ := Option.ne_none_iff_exists'.1 (hup (Or.inr hpc))
    have hfall := handlerRank_next x.policy s.loop next (Or.inr hpc)
    simp only [hnext]
    exact step_ne_of_handler fun heq => absurd hfall (by rw [heq]; exact lt_irrefl _)
  | serving accepted =>
    obtain ⟨associationId, later, result, rfl, hloop⟩ := h accepted hpc
    rcases hloop with hl | hl
    · simp only [hl]
      intro heq
      have hsame : (answer s [.text "datagram-ready"] s.handler .reading).loop = s.loop := by rw [heq]
      rw [hl] at hsame
      cases hsame
    · simp only [hl]
      exact step_ne_of_handler (by simp [handlerTurn, hpc])
  | ended result =>
    rw [hpc] at hover
    cases hover

theorem delivered_eq_none {wire : Fifo Message} {gone : Bool} (h : delivered wire gone = none) :
    wire.queued = [] ∧ gone = false := by
  unfold delivered at h
  cases hq : wire.queued with
  | nil =>
    rw [hq] at h
    cases gone with
    | true => cases h
    | false => exact ⟨rfl, rfl⟩
  | cons message later =>
    rw [hq] at h
    cases h

theorem delivered_ne_none {wire : Fifo Message} {gone : Bool} (h : wire.past.length < wire.log.length) :
    delivered wire gone ≠ none := by
  intro hnone
  rw [Fifo.past_eq_log (delivered_eq_none hnone).1] at h
  exact lt_irrefl _ h

section
variable {E : UdpRelayEnv → Prop} {A : Received → Prop} {peerLabel : String}

/-- where the client waits for an answer, the server has a step to make -/
theorem serve_moves_of_waiting (h : ExchangeInv E A x peerLabel s) {r : ℕ} (hr : r ≤ 1)
    (hsaid : s.upWire.log.length = r + 1) (hread : s.downWire.past.length = r) (hdown : s.down = none) :
    stepServe x s ≠ s := by
  have hok := h.handler
  obtain ⟨hq, hover⟩ := delivered_eq_none hdown
  have hanswers : s.downWire.log.length = r := by rw [← Fifo.past_eq_log hq, hread]
  have hpast := s.upWire.past_isPrefix_log.length_le
  apply serve_moves _ _ hover
  · intro accepted hpc
    rw [hpc] at hok
    obtain ⟨rfl, -, hloop⟩ := hok
    cases hl : s.loop with
    | entering => exact ⟨_, _, .ok (), rfl, Or.inl rfl⟩
    | returned result => exact ⟨_, _, result, rfl, Or.inr rfl⟩
    | reading =>
      rw [hl] at hloop
      rcases hloop.2 with ⟨-, hlines, -⟩ | hthree
      · rw [hlines] at hanswers
        have htwo : 2 = r := hanswers
        omega
      · omega
    | waiting relay =>
      rw [hl] at hloop
      have hthree : 3 ≤ s.upWire.past.length := hloop.1
      omega
  · intro hpc
    apply delivered_ne_none
    rcases hpc with hpc | hpc
    · rw [hpc] at hok
      have hzero : s.upWire.past.length = 0 := hok.1
      omega
    · rw [hpc] at hok
      have hone : s.upWire.past.length = 1 := hok.1
      have hlines : s.downWire.log = [.text "ok"] := hok.2.1
      rw [hlines] at hanswers
      have hr' : 1 = r := hanswers
      omega

/-- the steps that need nobody else -/
def ownSteps : List Op := [.emit, .windowCloses, .handled (.ok ()), .serve]

/-- **Neither end is stuck.** As long as the emission is not over, one of the ends has a step to make. -/
theorem never_stuck (h : ExchangeInv E A x peerLabel s) (hover : s.emission.isOver = false) :
    ∃ o ∈ ownSteps, step x s o ≠ s := by
  have hok := h.emission
  cases hpc : s.emission with
  | connecting =>
    refine ⟨.emit, by simp [ownSteps], step_ne_of_emission ?_⟩
    simp [step, stepEmit, hpc, say]
  | acked =>
    refine ⟨.emit, by simp [ownSteps], step_ne_of_emission ?_⟩
    simp [step, stepEmit, hpc, say]
  | closing =>
    refine ⟨.emit, by simp [ownSteps], step_ne_of_emission ?_⟩
    simp [step, stepEmit, hpc, say]
  | ready =>
    refine ⟨.emit, by simp [ownSteps], step_ne_of_emission ?_⟩
    simp only [step, stepEmit, hpc]
    cases datagramMessage x.v6 x.envelope with
    | error err => simp
    | ok message => cases hhandler : x.hasHandler <;> simp [say]
  | awaiting =>
    refine ⟨.windowCloses, by simp [ownSteps], step_ne_of_emission ?_⟩
    simp [step, hpc]
  | handling =>
    refine ⟨.handled (.ok ()), by simp [ownSteps], step_ne_of_emission ?_⟩
    simp [step, hpc, Except.mapError, afterAck]
  | authSent =>
    rw [hpc] at hok
    obtain ⟨hsaid, hread, -⟩ := hok
    cases hdown : s.down with
    | none => exact ⟨.serve, by simp [ownSteps], serve_moves_of_waiting h (Nat.zero_le 1) hsaid hread hdown⟩
    | some next =>
      refine ⟨.emit, by simp [ownSteps], step_ne_of_emission ?_⟩
      simp only [step, stepEmit, hpc, hdown, hear]
      cases checkAuthAck x.debug next <;> simp [afterAck]
  | openSent =>
    rw [hpc] at hok
    obtain ⟨hsaid, hread, -⟩ := hok
    cases hdown : s.down with
    | none => exact ⟨.serve, by simp [ownSteps], serve_moves_of_waiting h le_rfl hsaid hread hdown⟩
    | some next =>
      refine ⟨.emit, by simp [ownSteps], step_ne_of_emission ?_⟩
      simp only [step, stepEmit, hpc, hdown, hear]
      cases checkPathAck x.debug next <;> simp [afterAck]
  | ended result =>
    rw [hpc] at hover
    cases hover

end

/-- **The exchange ends.** At most 33 steps of a run change anything, whoever takes them in whatever order, and as long as
the emission is not over one of the two ends has such a step to make. -/
theorem exchange_ends (x : Setting) (peerLabel : String) (hv6 : x.v6.Lawful)
    (hpayload : x.envelope.payload.length < 2 ^ 32) (ops : List Op) :
    (AllSteps (step x) (fun s o => step x s o ≠ s) (start peerLabel) ops → ops.length ≤ 33) ∧
      ((run (step x) (start peerLabel) ops).emission.isOver = false →
        ∃ o ∈ ownSteps, step x (run (step x) (start peerLabel) ops) o ≠ run (step x) (start peerLabel) ops) := by
  constructor
  · intro hmoves
    have hfall : ∀ s o, step x s o ≠ s → rank (step x s o) < rank s :=
      fun s o hmove => (rank_step x s o).resolve_left hmove
    exact length_le_rank hfall hmoves
  · exact never_stuck (exchangeInv_of_run x peerLabel hv6 hpayload ops)

/-- in the middle of the handshake -/
theorem short_exchange_moves :
    ∃ o ∈ ownSteps, step shortSetting (run (step shortSetting) (start "client") (shortOps.take 9)) o ≠
      run (step shortSetting) (start "client") (shortOps.take 9) := by
  have hends := exchange_ends shortSetting "client" Ipv6.std_lawful (by decide) (shortOps.take 9)
  exact hends.2 (by decide)

end N0wss.Gateway.DatagramExchange
