/-
The loops of a proxied stream, one turn at a time: reading bytes and sending them as websocket messages (the write bridge
of `spawn_bridge_tasks` and `target_to_websocket` of `server_proxy_loop` in `wss_gateway/mod.rs`), receiving messages and
writing their bytes (the read bridge and `websocket_to_target`), and the loop of `pump_bidirectional`
(`proxy_bridge/mod.rs`).

How much is read or written at once, what fails and when, and which ready branch a `select!` takes are the turn's
argument. A binary message may arrive as text with the same bytes. A websocket that has received the peer's closing frame
sends no more.

- `sendTurn_outcome`, `recvTurn_outcome`, `pumpTurn_outcome`: all that a turn can come to.
- `SendOutcome.passes`, `RecvOutcome.passes`, `PumpOutcome.passes`: whatever that is, what was passed on is a prefix of what
  was taken, and all of it but what the loop holds where nothing was lost.
-/
import N0wss.Core.Fifo
import N0wss.Gateway.Requests

namespace N0wss.Gateway

/-! ## Messages on the wire -/

/-- the bytes that a relay loop writes for a message -/
def Message.payload : Message → List UInt8
  | .text content => Utf8.encode content.toList
  | .binary bytes => bytes
  | .ping _ | .pong _ | .close | .frame => []

def payloads (messages : List Message) : List UInt8 := messages.flatMap Message.payload

/-- a binary message may be received as the text with its bytes -/
def Message.delivered : Message → Option String → Message
  | .binary bytes, some content => if Utf8.encode content.toList = bytes then .text content else .binary bytes
  | message, _ => message

@[simp] theorem payload_binary (bytes : List UInt8) : (Message.binary bytes).payload = bytes := rfl

@[simp] theorem payload_close : Message.close.payload = [] := rfl

@[simp] theorem payloads_nil : payloads [] = [] := rfl

@[simp] theorem payloads_append (a b : List Message) : payloads (a ++ b) = payloads a ++ payloads b :=
  List.flatMap_append

@[simp] theorem payloads_singleton (m : Message) : payloads [m] = m.payload := by simp [payloads]

theorem payload_delivered (m : Message) (content : Option String) : (m.delivered content).payload = m.payload := by
  rcases m with text | bytes | _ | _ | _ | _ <;> rcases content with _ | content <;> try rfl
  simp only [Message.delivered]
  split
  · rename_i h
    exact h
  · rfl

theorem delivered_eq_close {m : Message} {content : Option String} : m.delivered content = .close ↔ m = .close := by
  rcases m with text | bytes | _ | _ | _ | _ <;> rcases content with _ | content <;>
    simp only [Message.delivered, reduceCtorEq]
  split <;> simp

/-! ## Sending loops -/

/-- the loops read into buffers of this size (`pump_buffer_bytes` too) -/
def bufferBytes : ℕ := 8 * 1024

/-- where a loop that sends bytes stands -/
inductive SendLoop where
  | reading
  | sending (bytes : List UInt8)
  /-- before its closing frame -/
  | closing
  | ended
  | failed
deriving DecidableEq

inductive SendOp where
  | read (n : ℕ)
  /-- the source is at its end -/
  | eof
  | send
  | close
  /-- reading or sending fails -/
  | fail
deriving DecidableEq

/-- the loop after its turn, how many bytes it read, and what it sent -/
structure SendTurn where
  loop : SendLoop
  read : ℕ
  messages : List Message

/-- what the loop has read and not sent; nothing is known where it has failed -/
def SendLoop.held : SendLoop → Option (List UInt8)
  | .sending bytes => some bytes
  | .failed => none
  | .reading | .closing | .ended => some []

@[simp] theorem SendLoop.held_reading : reading.held = some [] := rfl

@[simp] theorem SendLoop.held_sending (bytes : List UInt8) : (sending bytes).held = some bytes := rfl

@[simp] theorem SendLoop.held_closing : closing.held = some [] := rfl

@[simp] theorem SendLoop.held_ended : ended.held = some [] := rfl

@[simp] theorem SendLoop.held_failed : failed.held = none := rfl

def SendLoop.isOver : SendLoop → Bool
  | .ended | .failed => true
  | .reading | .sending _ | .closing => false

/-- one turn, over a source that may be at its end and a websocket that can still send or not -/
def sendTurn (sourceEnded canSend : Bool) (source : Fifo UInt8) (loop : SendLoop) : SendOp → SendTurn
  | .read n =>
    match loop with
    | .reading =>
      if source.queued.take (min n bufferBytes) = [] then ⟨.reading, 0, []⟩
      else ⟨.sending (source.queued.take (min n bufferBytes)), min n bufferBytes, []⟩
    | loop => ⟨loop, 0, []⟩
  | .eof =>
    match loop with
    | .reading => if source.queued = [] ∧ sourceEnded = true then ⟨.closing, 0, []⟩ else ⟨.reading, 0, []⟩
    | loop => ⟨loop, 0, []⟩
  | .send =>
    match loop with
    | .sending bytes => if canSend then ⟨.reading, 0, [.binary bytes]⟩ else ⟨.failed, 0, []⟩
    | loop => ⟨loop, 0, []⟩
  | .close =>
    match loop with
    | .closing => ⟨.ended, 0, if canSend then [.close] else []⟩
    | loop => ⟨loop, 0, []⟩
  | .fail =>
    match loop with
    | .reading | .sending _ => ⟨.failed, 0, []⟩
    -- a closing frame that fails is ignored
    | .closing => ⟨.ended, 0, []⟩
    | loop => ⟨loop, 0, []⟩

/-- what a turn of a sending loop can come to -/
inductive SendOutcome (sourceEnded canSend : Bool) (source : Fifo UInt8) (o : SendOp) : SendLoop → SendTurn → Prop where
  | idle (loop : SendLoop) : SendOutcome sourceEnded canSend source o loop ⟨loop, 0, []⟩
  | read (n : ℕ) : SendOutcome sourceEnded canSend source o .reading ⟨.sending (source.queued.take n), n, []⟩
  | eof (hempty : source.queued = []) (hended : sourceEnded = true) :
    SendOutcome sourceEnded canSend source o .reading ⟨.closing, 0, []⟩
  | sent (bytes : List UInt8) (hcan : canSend = true) :
    SendOutcome sourceEnded canSend source o (.sending bytes) ⟨.reading, 0, [.binary bytes]⟩
  | close (hcan : canSend = true) : SendOutcome sourceEnded canSend source o .closing ⟨.ended, 0, [.close]⟩
  | unclosed : SendOutcome sourceEnded canSend source o .closing ⟨.ended, 0, []⟩
  | unread (hfail : o = .fail) : SendOutcome sourceEnded canSend source o .reading ⟨.failed, 0, []⟩
  | unsent (bytes : List UInt8) (hwhy : o = .fail ∨ canSend = false) :
    SendOutcome sourceEnded canSend source o (.sending bytes) ⟨.failed, 0, []⟩

theorem sendTurn_outcome (sourceEnded canSend : Bool) (source : Fifo UInt8) (loop : SendLoop) (o : SendOp) :
    SendOutcome sourceEnded canSend source o loop (sendTurn sourceEnded canSend source loop o) := by
  cases o with
  | read n =>
    cases loop with
    | reading =>
      simp only [sendTurn]
      split
      · exact .idle _
      · exact .read _
    | _ => exact .idle _
  | eof =>
    cases loop with
    | reading =>
      simp only [sendTurn]
      split
      · rename_i h
        exact .eof h.1 h.2
      · exact .idle _
    | _ => exact .idle _
  | send =>
    cases loop with
    | sending bytes =>
      cases canSend with
      | true => exact .sent bytes rfl
      | false => exact .unsent bytes (Or.inr rfl)
    | _ => exact .idle _
  | close =>
    cases loop with
    | closing =>
      cases canSend with
      | true => exact .close rfl
      | false => exact .unclosed
    | _ => exact .idle _
  | fail =>
    cases loop with
    | reading => exact .unread rfl
    | sending bytes => exact .unsent bytes (Or.inl rfl)
    | closing => exact .unclosed
    | _ => exact .idle _

/-- **A sending loop.** Chunks go out whole and in order. -/
theorem SendOutcome.passes {sourceEnded canSend : Bool} {source : Fifo UInt8} {o : SendOp} {loop : SendLoop} {r : SendTurn}
    (hr : SendOutcome sourceEnded canSend source o loop r) {given : List UInt8}
    (h : Passes source.past given loop.held) :
    Passes (source.take r.read).past (given ++ payloads r.messages) r.loop.held := by
  cases hr with
  | idle => simpa using h
  | read n => simpa using Passes.receive h _
  | eof => simpa using h
  | sent bytes => simpa using Passes.giveAll h
  | close => simpa using h
  | unclosed => simpa using h
  | unread => simpa using h.lose
  | unsent => simpa using h.lose

/-- a websocket that cannot send sends nothing -/
theorem SendOutcome.silent {sourceEnded : Bool} {source : Fifo UInt8} {o : SendOp} {loop : SendLoop} {r : SendTurn}
    (hr : SendOutcome sourceEnded false source o loop r) : r.messages = [] := by
  cases hr with
  | sent bytes hcan => cases hcan
  | close hcan => cases hcan
  | _ => rfl

/-! ## Receiving loops -/

/-- where a loop that writes what it receives stands -/
inductive RecvLoop where
  | reading
  | writing (rest : List UInt8)
  /-- the closing frame was read -/
  | closed
  | ended
  | failed
deriving DecidableEq

inductive RecvOp where
  /-- the next message, which may arrive as this text -/
  | next (content : Option String)
  /-- the websocket is at its end, without a closing frame -/
  | streamEnds
  /-- an error in place of a message -/
  | nextFails
  /-- the sink takes `n` bytes -/
  | write (n : ℕ)
  | writeFails
deriving DecidableEq

/-- the loop after its turn, how many messages it took, and what it wrote -/
structure RecvTurn where
  loop : RecvLoop
  took : ℕ
  bytes : List UInt8

/-- what the loop has received and not written; nothing is known where it has failed -/
def RecvLoop.held : RecvLoop → Option (List UInt8)
  | .writing rest => some rest
  | .failed => none
  | .reading | .closed | .ended => some []

@[simp] theorem RecvLoop.held_reading : reading.held = some [] := rfl

@[simp] theorem RecvLoop.held_writing (rest : List UInt8) : (writing rest).held = some rest := rfl

@[simp] theorem RecvLoop.held_closed : closed.held = some [] := rfl

@[simp] theorem RecvLoop.held_ended : ended.held = some [] := rfl

@[simp] theorem RecvLoop.held_failed : failed.held = none := rfl

def RecvLoop.isOver : RecvLoop → Bool
  | .closed | .ended | .failed => true
  | .reading | .writing _ => false

/-- the peer's closing frame was read -/
def RecvLoop.sawClose : RecvLoop → Bool
  | .closed => true
  | _ => false

theorem sawClose_iff {loop : RecvLoop} : loop.sawClose = true ↔ loop = .closed := by
  cases loop <;> simp [RecvLoop.sawClose]

theorem sawClose_eq_false_iff {loop : RecvLoop} : loop.sawClose = false ↔ loop ≠ .closed := by
  cases loop <;> simp [RecvLoop.sawClose]

/-- `write_all` goes on until nothing is left -/
def RecvLoop.writeAll (rest : List UInt8) : RecvLoop := if rest = [] then .reading else .writing rest

theorem RecvLoop.held_writeAll (rest : List UInt8) : (writeAll rest).held = some rest := by
  unfold writeAll
  split
  · rename_i h
    rw [h, held_reading]
  · rfl

theorem writeAll_ne_closed (rest : List UInt8) : RecvLoop.writeAll rest ≠ .closed := by
  unfold RecvLoop.writeAll
  split <;> simp

theorem isOver_writeAll (rest : List UInt8) : (RecvLoop.writeAll rest).isOver = false := by
  unfold RecvLoop.writeAll
  split <;> rfl

def RecvLoop.receive : Message → RecvLoop
  | .close => .closed
  | message => .writeAll message.payload

/-- one turn, into a sink that is still open or not; `onError` is where an error in place of a message leads -/
def recvTurn (onError : RecvLoop) (sinkOpen : Bool) (wire : Fifo Message) (loop : RecvLoop) : RecvOp → RecvTurn
  | .next content =>
    match loop, wire.queued with
    | .reading, message :: _ => ⟨.receive (message.delivered content), 1, []⟩
    | loop, _ => ⟨loop, 0, []⟩
  | .streamEnds =>
    match loop with
    | .reading => ⟨.ended, 0, []⟩
    | loop => ⟨loop, 0, []⟩
  | .nextFails =>
    match loop with
    | .reading => ⟨onError, 0, []⟩
    | loop => ⟨loop, 0, []⟩
  | .write n =>
    match loop with
    | .writing rest => if sinkOpen then ⟨.writeAll (rest.drop n), 0, rest.take n⟩ else ⟨.failed, 0, []⟩
    | loop => ⟨loop, 0, []⟩
  | .writeFails =>
    match loop with
    | .writing _ => ⟨.failed, 0, []⟩
    | loop => ⟨loop, 0, []⟩

/-- what a turn of a receiving loop can come to -/
inductive RecvOutcome (onError : RecvLoop) (sinkOpen : Bool) (wire : Fifo Message) (o : RecvOp) :
    RecvLoop → RecvTurn → Prop where
  | idle (loop : RecvLoop) : RecvOutcome onError sinkOpen wire o loop ⟨loop, 0, []⟩
  | received (m : Message) (queued : List Message) (hqueued : wire.queued = m :: queued) (hdata : m ≠ .close) :
    RecvOutcome onError sinkOpen wire o .reading ⟨.writeAll m.payload, 1, []⟩
  | close (content : Option String) (hnext : o = .next content) (queued : List Message)
    (hqueued : wire.queued = .close :: queued) : RecvOutcome onError sinkOpen wire o .reading ⟨.closed, 1, []⟩
  | streamEnds (hend : o = .streamEnds) : RecvOutcome onError sinkOpen wire o .reading ⟨.ended, 0, []⟩
  | nextFails (hfail : o = .nextFails) : RecvOutcome onError sinkOpen wire o .reading ⟨onError, 0, []⟩
  | wrote (rest : List UInt8) (n : ℕ) (hopen : sinkOpen = true) :
    RecvOutcome onError sinkOpen wire o (.writing rest) ⟨.writeAll (rest.drop n), 0, rest.take n⟩
  | unwritten (rest : List UInt8) (hwhy : o = .writeFails ∨ sinkOpen = false) :
    RecvOutcome onError sinkOpen wire o (.writing rest) ⟨.failed, 0, []⟩

theorem RecvLoop.receive_delivered {m : Message} (hm : m ≠ .close) (content : Option String) :
    receive (m.delivered content) = .writeAll m.payload := by
  have hdata : m.delivered content ≠ .close := fun h => hm (delivered_eq_close.1 h)
  rw [← payload_delivered m content]
  cases hd : m.delivered content with
  | close => exact absurd hd hdata
  | _ => rfl

theorem recvTurn_outcome (onError : RecvLoop) (sinkOpen : Bool) (wire : Fifo Message) (loop : RecvLoop) (o : RecvOp) :
    RecvOutcome onError sinkOpen wire o loop (recvTurn onError sinkOpen wire loop o) := by
  cases o with
  | next content =>
    cases loop with
    | reading =>
      cases hq : wire.queued with
      | nil =>
        simp only [recvTurn, hq]
        exact .idle _
      | cons m queued =>
        simp only [recvTurn, hq]
        by_cases hm : m = .close
        · subst hm
          exact .close content rfl queued hq
        · rw [RecvLoop.receive_delivered hm]
          exact .received m queued hq hm
    | _ => exact .idle _
  | streamEnds =>
    cases loop with
    | reading => exact .streamEnds rfl
    | _ => exact .idle _
  | nextFails =>
    cases loop with
    | reading => exact .nextFails rfl
    | _ => exact .idle _
  | write n =>
    cases loop with
    | writing rest =>
      cases sinkOpen with
      | true => exact .wrote rest n rfl
      | false => exact .unwritten rest (Or.inr rfl)
    | _ => exact .idle _
  | writeFails =>
    cases loop with
    | writing rest => exact .unwritten rest (Or.inl rfl)
    | _ => exact .idle _

/-- **A receiving loop.** The bytes of the messages come out in order. `counted` is how the messages taken so far count. -/
theorem RecvOutcome.passes {onError : RecvLoop} (honError : onError = .ended ∨ onError = .failed) {sinkOpen : Bool}
    {wire : Fifo Message} {o : RecvOp} {loop : RecvLoop} {r : RecvTurn}
    (hr : RecvOutcome onError sinkOpen wire o loop r) {counted given : List UInt8} (h : Passes counted given loop.held) :
    Passes (counted ++ payloads (wire.queued.take r.took)) (given ++ r.bytes) r.loop.held := by
  cases hr with
  | idle => simpa using h
  | received m queued hqueued =>
    simpa [hqueued, RecvLoop.held_writeAll] using Passes.receive h m.payload
  | close content hnext queued hqueued => simpa [hqueued] using h
  | streamEnds => simpa using h
  | nextFails =>
    rcases honError with rfl | rfl
    · simpa using h
    · simpa using h.lose
  | wrote rest n => simpa [RecvLoop.held_writeAll] using Passes.give h n
  | unwritten => simpa using h.lose

/-- a loop that has read a closing frame takes no further turn -/
theorem RecvOutcome.closed {onError : RecvLoop} {sinkOpen : Bool} {wire : Fifo Message} {o : RecvOp} {loop : RecvLoop}
    {r : RecvTurn} (hr : RecvOutcome onError sinkOpen wire o loop r) (h : loop = .closed) :
    r.loop = .closed ∧ r.took = 0 := by
  subst h
  cases hr
  exact ⟨rfl, rfl⟩

/-- without errors a loop ends at a closing frame, or because its sink was closed -/
theorem RecvOutcome.over {onError : RecvLoop} {sinkOpen : Bool} {wire : Fifo Message} {o : RecvOp} {loop : RecvLoop}
    {r : RecvTurn} (hr : RecvOutcome onError sinkOpen wire o loop r)
    (herr : o = .streamEnds ∨ o = .nextFails ∨ o = .writeFails → loop = .closed) (hover : r.loop.isOver = true) :
    r.loop = .closed ∨ r.loop = loop ∨ r.loop = .failed ∧ sinkOpen = false := by
  cases hr with
  | idle => exact Or.inr (Or.inl rfl)
  | close => exact Or.inl rfl
  | received | wrote =>
    rw [isOver_writeAll] at hover
    cases hover
  | streamEnds hend => cases herr (Or.inl hend)
  | nextFails hfail => cases herr (Or.inr (Or.inl hfail))
  | unwritten rest hwhy =>
    rcases hwhy with hfail | hclosed
    · cases herr (Or.inr (Or.inr hfail))
    · exact Or.inr (Or.inr ⟨rfl, hclosed⟩)

/-! ## The pump -/

/-- why the loop of `pump_bidirectional` ended -/
inductive EndReason where
  | clientEof
  | transportEof
  | drained
  | failed
deriving DecidableEq

/-- what `pump_bidirectional` does next once its loop has ended -/
inductive Leaving where
  | shutTransport
  | shutClient
  /-- `StreamClosed` to the session -/
  | notify
  | returned
deriving DecidableEq

inductive Pump where
  | selecting
  | toTransport (rest : List UInt8)
  | toClient (rest : List UInt8)
  | leaving (reason : EndReason) (next : Leaving)
deriving DecidableEq

inductive PumpOp where
  | readClient (n : ℕ)
  | clientEof
  | readTransport (n : ℕ)
  | transportEof
  /-- the writer takes `n` bytes -/
  | write (n : ℕ)
  | drain
  /-- reading or writing fails -/
  | fail
  | leave
deriving DecidableEq

/-- the pump after its turn, how much it read of both, and what it wrote to both -/
structure PumpTurned where
  pump : Pump
  fromClient : ℕ
  fromTransport : ℕ
  toTransport : List UInt8
  toClient : List UInt8

namespace Pump

/-- what was read from the client and not written to the transport; nothing is known where the pump has failed -/
def heldUp : Pump → Option (List UInt8)
  | .toTransport rest => some rest
  | .leaving .failed _ => none
  | _ => some []

/-- what was read from the transport and not written to the client; nothing is known where the pump has failed -/
def heldDown : Pump → Option (List UInt8)
  | .toClient rest => some rest
  | .leaving .failed _ => none
  | _ => some []

def reason : Pump → Option EndReason
  | .leaving reason _ => some reason
  | _ => none

/-- the transport's writer is shut down -/
def transportShut : Pump → Bool
  | .leaving _ .shutTransport => false
  | .leaving _ _ => true
  | _ => false

def notified : Pump → Bool
  | .leaving _ .returned => true
  | _ => false

def stay (p : Pump) : PumpTurned := ⟨p, 0, 0, [], []⟩

def leave (reason : EndReason) : PumpTurned := ⟨.leaving reason .shutTransport, 0, 0, [], []⟩

/-- `write_all` goes on until nothing is left -/
def writeTransport (rest : List UInt8) : Pump := if rest = [] then .selecting else .toTransport rest

def writeClient (rest : List UInt8) : Pump := if rest = [] then .selecting else .toClient rest

theorem held_writeTransport (rest : List UInt8) :
    (writeTransport rest).heldUp = some rest ∧ (writeTransport rest).heldDown = some [] := by
  unfold writeTransport
  split
  · rename_i h
    exact ⟨by rw [h]; rfl, rfl⟩
  · exact ⟨rfl, rfl⟩

theorem held_writeClient (rest : List UInt8) :
    (writeClient rest).heldDown = some rest ∧ (writeClient rest).heldUp = some [] := by
  unfold writeClient
  split
  · rename_i h
    exact ⟨by rw [h]; rfl, rfl⟩
  · exact ⟨rfl, rfl⟩

theorem reason_writeTransport (rest : List UInt8) : (writeTransport rest).reason = none := by
  unfold writeTransport
  split <;> rfl

theorem reason_writeClient (rest : List UInt8) : (writeClient rest).reason = none := by
  unfold writeClient
  split <;> rfl

theorem transportShut_of_running {p : Pump} (h : p.reason = none) : p.transportShut = false := by
  cases p with
  | leaving reason next => cases h
  | _ => rfl

theorem reason_of_notified {p : Pump} (h : p.notified = true) : p.reason ≠ none := by
  cases p with
  | leaving why next => exact Option.some_ne_none why
  | _ => cases h

end Pump

/-- one turn of `pump_bidirectional`: whether the drain token is cancelled and the two pipes are closed, what the client
sends and what the transport's pipe holds -/
def pumpTurn (cancelled upClosed downClosed : Bool) (client transport : Fifo UInt8) (p : Pump) : PumpOp → PumpTurned
  | .readClient n =>
    match p with
    | .selecting =>
      if client.queued.take (min n bufferBytes) = [] then p.stay
      else ⟨.toTransport (client.queued.take (min n bufferBytes)), min n bufferBytes, 0, [], []⟩
    | p => p.stay
  | .clientEof =>
    match p with
    | .selecting => if client.queued = [] then Pump.leave .clientEof else p.stay
    | p => p.stay
  | .readTransport n =>
    match p with
    | .selecting =>
      if transport.queued.take (min n bufferBytes) = [] then p.stay
      else ⟨.toClient (transport.queued.take (min n bufferBytes)), 0, min n bufferBytes, [], []⟩
    | p => p.stay
  | .transportEof =>
    match p with
    | .selecting => if transport.queued = [] ∧ downClosed = true then Pump.leave .transportEof else p.stay
    | p => p.stay
  | .write n =>
    match p with
    | .toTransport rest =>
      if upClosed then Pump.leave .failed else ⟨.writeTransport (rest.drop n), 0, 0, rest.take n, []⟩
    | .toClient rest => ⟨.writeClient (rest.drop n), 0, 0, [], rest.take n⟩
    | p => p.stay
  | .drain =>
    match p with
    | .selecting => if cancelled then Pump.leave .drained else p.stay
    | p => p.stay
  | .fail =>
    match p with
    | .leaving _ _ => p.stay
    | _ => Pump.leave .failed
  | .leave =>
    match p with
    | .leaving reason .shutTransport => Pump.stay (.leaving reason .shutClient)
    | .leaving reason .shutClient => Pump.stay (.leaving reason .notify)
    | .leaving reason .notify => Pump.stay (.leaving reason .returned)
    | p => p.stay

/-- what a turn of the pump can come to -/
inductive PumpOutcome (cancelled upClosed downClosed : Bool) (client transport : Fifo UInt8) (o : PumpOp) :
    Pump → PumpTurned → Prop where
  | idle (p : Pump) : PumpOutcome cancelled upClosed downClosed client transport o p p.stay
  | readClient (n : ℕ) :
    PumpOutcome cancelled upClosed downClosed client transport o .selecting
      ⟨.toTransport (client.queued.take n), n, 0, [], []⟩
  | clientEof (hempty : client.queued = []) :
    PumpOutcome cancelled upClosed downClosed client transport o .selecting (Pump.leave .clientEof)
  | readTransport (n : ℕ) :
    PumpOutcome cancelled upClosed downClosed client transport o .selecting
      ⟨.toClient (transport.queued.take n), 0, n, [], []⟩
  | transportEof (hempty : transport.queued = []) (hclosed : downClosed = true) :
    PumpOutcome cancelled upClosed downClosed client transport o .selecting (Pump.leave .transportEof)
  | drained (hcancelled : cancelled = true) :
    PumpOutcome cancelled upClosed downClosed client transport o .selecting (Pump.leave .drained)
  | wroteTransport (rest : List UInt8) (n : ℕ) (hopen : upClosed = false) :
    PumpOutcome cancelled upClosed downClosed client transport o (.toTransport rest)
      ⟨.writeTransport (rest.drop n), 0, 0, rest.take n, []⟩
  | wroteClient (rest : List UInt8) (n : ℕ) :
    PumpOutcome cancelled upClosed downClosed client transport o (.toClient rest)
      ⟨.writeClient (rest.drop n), 0, 0, [], rest.take n⟩
  | failed (p : Pump) (hrunning : p.reason = none) :
    PumpOutcome cancelled upClosed downClosed client transport o p (Pump.leave .failed)
  | left (reason : EndReason) (next next' : Leaving) (hnext : next ≠ .returned) :
    PumpOutcome cancelled upClosed downClosed client transport o (.leaving reason next)
      (Pump.stay (.leaving reason next'))

theorem pumpTurn_outcome (cancelled upClosed downClosed : Bool) (client transport : Fifo UInt8) (p : Pump) (o : PumpOp) :
    PumpOutcome cancelled upClosed downClosed client transport o p
      (pumpTurn cancelled upClosed downClosed client transport p o) := by
  cases p with
  | selecting =>
    cases o with
    | readClient n =>
      simp only [pumpTurn]
      split
      · exact .idle _
      · exact .readClient _
    | readTransport n =>
      simp only [pumpTurn]
      split
      · exact .idle _
      · exact .readTransport _
    | clientEof =>
      simp only [pumpTurn]
      split
      · rename_i h
        exact .clientEof h
      · exact .idle _
    | transportEof =>
      simp only [pumpTurn]
      split
      · rename_i h
        exact .transportEof h.1 h.2
      · exact .idle _
    | drain =>
      simp only [pumpTurn]
      split
      · rename_i h
        exact .drained h
      · exact .idle _
    | write n | leave => exact .idle _
    | fail => exact .failed _ rfl
  | toTransport rest =>
    cases o with
    | write n =>
      cases upClosed with
      | true => exact .failed _ rfl
      | false => exact .wroteTransport rest n rfl
    | fail => exact .failed _ rfl
    | _ => exact .idle _
  | toClient rest =>
    cases o with
    | write n => exact .wroteClient rest n
    | fail => exact .failed _ rfl
    | _ => exact .idle _
  | leaving reason next =>
    cases o with
    | leave =>
      cases next with
      | returned => exact .idle _
      | _ => exact .left _ _ _ (by decide)
    | _ => exact .idle _

/-- **The pump.** What it writes to either side is what it reads from the other, in order. -/
theorem PumpOutcome.passes {cancelled upClosed downClosed : Bool} {client transport : Fifo UInt8} {o : PumpOp} {p : Pump}
    {r : PumpTurned} (hr : PumpOutcome cancelled upClosed downClosed client transport o p r) {up down : List UInt8}
    (hup : Passes client.past up p.heldUp) (hdown : Passes transport.past down p.heldDown) :
    Passes (client.take r.fromClient).past (up ++ r.toTransport) r.pump.heldUp ∧
      Passes (transport.take r.fromTransport).past (down ++ r.toClient) r.pump.heldDown := by
  cases hr with
  | idle => simpa [Pump.stay] using ⟨hup, hdown⟩
  | readClient n => simpa [Pump.heldUp, Pump.heldDown] using ⟨Passes.receive hup _, hdown⟩
  | readTransport n => simpa [Pump.heldUp, Pump.heldDown] using ⟨hup, Passes.receive hdown _⟩
  | clientEof | transportEof | drained => simpa [Pump.leave, Pump.heldUp, Pump.heldDown] using ⟨hup, hdown⟩
  | wroteTransport rest n =>
    obtain ⟨hu, hd⟩ := Pump.held_writeTransport (rest.drop n)
    simpa [hu, hd] using ⟨Passes.give hup n, hdown⟩
  | wroteClient rest n =>
    obtain ⟨hd, hu⟩ := Pump.held_writeClient (rest.drop n)
    simpa [hu, hd] using ⟨hup, Passes.give hdown n⟩
  | failed => simpa [Pump.leave, Pump.heldUp, Pump.heldDown] using ⟨hup.lose, hdown.lose⟩
  | left reason next next' =>
    -- why the pump ended says what it holds
    cases reason with
    | _ => simpa [Pump.stay, Pump.heldUp, Pump.heldDown] using ⟨hup, hdown⟩

section

variable {cancelled upClosed downClosed : Bool} {client transport : Fifo UInt8} {o : PumpOp} {p : Pump} {r : PumpTurned}

theorem PumpOutcome.running (hr : PumpOutcome cancelled upClosed downClosed client transport o p r)
    (h : r.pump.reason = none) : p.reason = none := by
  cases hr with
  | idle => exact h
  | failed p hrunning => exact hrunning
  | left => cases h
  | _ => rfl

/-- nothing is written into a closed pipe -/
theorem PumpOutcome.toTransport_of_closed (hr : PumpOutcome cancelled upClosed downClosed client transport o p r)
    (h : upClosed = true) : r.toTransport = [] := by
  cases hr with
  | wroteTransport rest n hopen =>
    rw [hopen] at h
    cases h
  | _ => rfl

/-- the pump ends at the client's end only where the client is drained -/
theorem PumpOutcome.clientEof_or (hr : PumpOutcome cancelled upClosed downClosed client transport o p r)
    (h : r.pump.reason = some .clientEof) : p.reason = some .clientEof ∨ client.queued = [] := by
  cases hr with
  | idle => exact Or.inl h
  | left => exact Or.inl h
  | clientEof hempty => exact Or.inr hempty
  | wroteTransport =>
    rw [Pump.reason_writeTransport] at h
    cases h
  | wroteClient =>
    rw [Pump.reason_writeClient] at h
    cases h
  | _ => cases h

/-- the pump ends at the transport's end only where the transport is drained and closed -/
theorem PumpOutcome.transportEof_or (hr : PumpOutcome cancelled upClosed downClosed client transport o p r)
    (h : r.pump.reason = some .transportEof) : r.toClient = [] ∧
      (p.reason = some .transportEof ∨ p = .selecting ∧ transport.queued = [] ∧ downClosed = true) := by
  cases hr with
  | idle => exact ⟨rfl, Or.inl h⟩
  | left => exact ⟨rfl, Or.inl h⟩
  | transportEof hempty hclosed => exact ⟨rfl, Or.inr ⟨rfl, hempty, hclosed⟩⟩
  | wroteTransport =>
    rw [Pump.reason_writeTransport] at h
    cases h
  | wroteClient =>
    rw [Pump.reason_writeClient] at h
    cases h
  | _ => cases h

end

end N0wss.Gateway
