/-
The server's loop of one datagram connection (`server_datagram_loop` in `wss_gateway/mod.rs`), over every sequence of
messages and every outcome of the exchanges they start.

One turn reads one message. What it then does is in the log: a payload handed to its peer, a frame sent back.

- `loopEvents_ended`: a loop that has ended does nothing more.
- `turn_cases`: what one turn does, and whether the loop goes on.
- `emitted_iff_reply`: the frame a turn sends back is the one `serverDatagramReply` computes.
- `loopEvents_turns`: the log is what the turns do, one after the other.
- `server_loop_relays_own`: only payloads of the announced association go out, in order, and each is answered by at most
  one frame, which says for whom it is.
-/
import N0wss.Core.Stages
import N0wss.Datagram.RoundTrip
import N0wss.Gateway.DatagramPath

namespace N0wss.Gateway

open Bridge Datagram Net

/-! ## One turn -/

/-- what one turn meets: what the websocket delivers, how the exchange goes, and how sending the reply ends -/
structure DatagramTurn where
  frame : Except String Message
  env : UdpRelayEnv
  /-- what comes in on the relay socket before `DATAGRAM_RETURN_TIMEOUT` -/
  arrival : Option (Except String Received)
  sendReply : Except String Unit

inductive LoopEvent where
  | read (message : Message)
  | sentTo (peer : SocketAddr) (payload : List UInt8)
  | emitted (message : Message)
deriving DecidableEq

inductive DatagramLoopStatus where
  | running
  | ended (result : Except WssError Unit)

def receiveServerDatagramReply (v6 : Ipv6Text) (relay : UdpRelayRecord) (received : Except String Received) :
    Except WssError DatagramEnvelope :=
  (relayInboundDatagram relay received).mapError fun err => .datagramPathFailed (err.text v6)

/-- the frame that goes out, if any -/
def emitServerDatagramReply (v6 : Ipv6Text) (sendReply : Except String Unit) (envelope : DatagramEnvelope) :
    List LoopEvent × DatagramLoopStatus :=
  match datagramMessage v6 envelope with
  | .error err => ([], .ended (.error (.datagramPathFailed (datagramErrorText err))))
  | .ok message =>
    match sendReply with
    | .error detail => ([], .ended (.error (.datagramPathFailed (datagramErrorText (.sendFailed detail)))))
    | .ok () => ([.emitted message], .running)

/-- what follows a payload that went out: the timed wait for its reply -/
def awaitReply (v6 : Ipv6Text) (turn : DatagramTurn) (relay : UdpRelayRecord) : List LoopEvent × DatagramLoopStatus :=
  match turn.arrival with
  | none => ([], .running)
  | some received =>
    match receiveServerDatagramReply v6 relay received with
    | .error err => ([], .ended (.error err))
    | .ok inbound => emitServerDatagramReply v6 turn.sendReply inbound

/-- a binary message -/
def relayBinary (v6 : Ipv6Text) (associationId : DatagramAssociationId) (turn : DatagramTurn) (bytes : List UInt8) :
    List LoopEvent × DatagramLoopStatus :=
  match decodeMessage v6 (.binary bytes) with
  | .error err => ([], .ended (.error (.datagramPathFailed (datagramErrorText err))))
  | .ok envelope =>
    if envelope.associationId ≠ associationId then
      ([], .ended (.error (.datagramPathFailed ("association mismatch: expected " ++ toString associationId ++ ", got " ++
        toString envelope.associationId))))
    else
      match relayOutboundDatagram turn.env envelope with
      | .error err => ([], .ended (.error (.datagramPathFailed (err.text v6))))
      | .ok relay =>
        (.sentTo relay.remotePeer envelope.payload :: (awaitReply v6 turn relay).1, (awaitReply v6 turn relay).2)

/-- one message that was read -/
def handleMessage (v6 : Ipv6Text) (associationId : DatagramAssociationId) (turn : DatagramTurn) :
    Message → List LoopEvent × DatagramLoopStatus
  | .binary bytes => relayBinary v6 associationId turn bytes
  | .close => ([], .ended (.ok ()))
  | .ping _ | .pong _ => ([], .running)
  | .text text => ([], .ended (.error (.datagramPathFailed ("unexpected datagram runtime text frame: " ++ text))))
  | .frame => ([], .ended (.error (.datagramPathFailed "unexpected datagram runtime frame")))

def datagramTurn (v6 : Ipv6Text) (associationId : DatagramAssociationId) (status : DatagramLoopStatus)
    (turn : DatagramTurn) : List LoopEvent × DatagramLoopStatus :=
  match status with
  | .ended result => ([], .ended result)
  | .running =>
    match turn.frame with
    | .error err => ([], .ended (.error (.datagramPathFailed err)))
    | .ok message =>
      (.read message :: (handleMessage v6 associationId turn message).1, (handleMessage v6 associationId turn message).2)

/-! ## The loop -/

def statusOf (v6 : Ipv6Text) (associationId : DatagramAssociationId) :
    DatagramLoopStatus → List DatagramTurn → DatagramLoopStatus
  | status, [] => status
  | status, turn :: turns => statusOf v6 associationId (datagramTurn v6 associationId status turn).2 turns

def loopEvents (v6 : Ipv6Text) (associationId : DatagramAssociationId) :
    DatagramLoopStatus → List DatagramTurn → List LoopEvent
  | _, [] => []
  | status, turn :: turns =>
    (datagramTurn v6 associationId status turn).1 ++
      loopEvents v6 associationId (datagramTurn v6 associationId status turn).2 turns

/-- everything the loop does once the handshake is answered; `ready` is how sending `datagram-ready` ends -/
def serverDatagramLoop (v6 : Ipv6Text) (associationId : DatagramAssociationId) (ready : Except String Unit)
    (turns : List DatagramTurn) : List LoopEvent × Except WssError Unit :=
  match ready with
  | .error err => ([], .error (.datagramPathFailed err))
  | .ok () =>
    (.emitted (.text "datagram-ready") :: loopEvents v6 associationId .running turns,
      match statusOf v6 associationId .running turns with
      | .running => .ok ()
      | .ended result => result)

theorem loopEvents_append (v6 : Ipv6Text) (associationId : DatagramAssociationId) (status : DatagramLoopStatus)
    (a b : List DatagramTurn) :
    loopEvents v6 associationId status (a ++ b) =
      loopEvents v6 associationId status a ++ loopEvents v6 associationId (statusOf v6 associationId status a) b := by
  induction a generalizing status with
  | nil => rfl
  | cons t a ih => simp only [List.cons_append, loopEvents, statusOf, ih, List.append_assoc]

theorem loopEvents_ended (v6 : Ipv6Text) (associationId : DatagramAssociationId) (result : Except WssError Unit)
    (turns : List DatagramTurn) : loopEvents v6 associationId (.ended result) turns = [] := by
  induction turns with
  | nil => rfl
  | cons t turns ih => exact ih

/-! ## What the log shows -/

def LoopEvent.isOutput : LoopEvent → Bool
  | .read _ => false
  | .sentTo _ _ | .emitted _ => true

def LoopEvent.payload : LoopEvent → Option (List UInt8)
  | .sentTo _ payload => some payload
  | .read _ | .emitted _ => none

/-- what was sent to a target or to the websocket -/
def outputsOf (events : List LoopEvent) : List LoopEvent := events.filter LoopEvent.isOutput

/-- the payloads sent to targets -/
def payloadsOf (events : List LoopEvent) : List (List UInt8) := events.filterMap LoopEvent.payload

/-- the bytes of the binary messages that were delivered -/
def binariesOf (turns : List DatagramTurn) : List (List UInt8) :=
  turns.filterMap fun turn =>
    match turn.frame with
    | .ok (.binary bytes) => some bytes
    | _ => none

/-- a message that must stop the loop: text, a raw frame, a binary message that is no datagram or another association's -/
def Offends (v6 : Ipv6Text) (associationId : DatagramAssociationId) : Message → Prop
  | .text _ | .frame => True
  | .binary bytes => ∀ envelope, decodeDatagram v6 bytes = .ok envelope → envelope.associationId ≠ associationId
  | .close | .ping _ | .pong _ => False

/-- a turn that sends: one payload of the association to the peer its target names, then at most one frame back, with the
payload that came from that peer -/
def Relays (v6 : Ipv6Text) (associationId : DatagramAssociationId) (turn : DatagramTurn) (outputs : List LoopEvent) :
    Prop :=
  ∃ bytes envelope peer, turn.frame = .ok (.binary bytes) ∧ decodeDatagram v6 bytes = .ok envelope ∧
    envelope.associationId = associationId ∧ resolveTarget turn.env envelope.target = .ok peer ∧
    (outputs = [.sentTo peer envelope.payload] ∨
      ∃ packet message, turn.arrival = some (.ok packet) ∧ packet.source = peer ∧
        decodeMessage v6 message = .ok { envelope with payload := packet.bytes } ∧
        outputs = [.sentTo peer envelope.payload, .emitted message])

/-- what the loop sends before its first turn -/
def readyEvents : Except String Unit → List LoopEvent
  | .ok () => [.emitted (.text "datagram-ready")]
  | .error _ => []

/-- what one turn may do -/
def TurnEvents (v6 : Ipv6Text) (associationId : DatagramAssociationId) (turn : DatagramTurn) (events : List LoopEvent) :
    Prop :=
  events = [] ∨ ∃ message outputs, turn.frame = .ok message ∧ events = .read message :: outputs ∧
    (outputs = [] ∨ Relays v6 associationId turn outputs)

/-! ## Turns -/

section
variable {v6 : Ipv6Text} (hv6 : v6.Lawful) (associationId : DatagramAssociationId)
include hv6

/-- a reply that is sent back is one packet of the peer, under what went out -/
theorem awaitReply_cases {turn : DatagramTurn} {envelope : DatagramEnvelope} {relay : UdpRelayRecord}
    (hclient : PlainClient envelope.relayClientAddr) (hrelay : relayOutboundDatagram turn.env envelope = .ok relay) :
    (awaitReply v6 turn relay).1 = [] ∨
      ∃ packet message, turn.arrival = some (.ok packet) ∧ packet.source = relay.remotePeer ∧
        decodeMessage v6 message = .ok { envelope with payload := packet.bytes } ∧
        (awaitReply v6 turn relay).1 = [.emitted message] := by
  unfold awaitReply
  cases harrival : turn.arrival with
  | none => exact Or.inl rfl
  | some received =>
    simp only
    cases hreceived : receiveServerDatagramReply v6 relay received with
    | error err => exact Or.inl rfl
    | ok inbound =>
      obtain ⟨packet, rfl, hsource, rfl⟩ := relayInboundDatagram_eq_ok hrelay (Stages.mapError_eq_ok_iff.1 hreceived)
      simp only [emitServerDatagramReply]
      cases hmessage : datagramMessage v6 { envelope with payload := packet.bytes } with
      | error err => exact Or.inl rfl
      | ok message =>
        cases hsend : turn.sendReply with
        | error detail => exact Or.inl rfl
        | ok =>
          obtain ⟨frame, hframe, rfl⟩ := datagramMessage_eq_ok hmessage
          have hsmall : packet.bytes.length < 2 ^ 32 := lt_of_le_of_lt packet.fits (by decide)
          have hplain : PlainClient { envelope with payload := packet.bytes }.relayClientAddr := hclient
          exact Or.inr ⟨packet, .binary frame, rfl, hsource, decode_of_encode hv6 hplain hsmall hframe, rfl⟩

/-- a binary message of the association that is relayed, and every other one ends the loop without a trace -/
theorem relayBinary_cases {turn : DatagramTurn} {bytes : List UInt8}
    (hframe : turn.frame = .ok (.binary bytes)) :
    (∃ err, relayBinary v6 associationId turn bytes = ([], .ended (.error err))) ∨
      Relays v6 associationId turn (relayBinary v6 associationId turn bytes).1 := by
  unfold relayBinary
  cases hdecode : decodeMessage v6 (.binary bytes) with
  | error err => exact Or.inl ⟨_, rfl⟩
  | ok envelope =>
    simp only
    split_ifs with hid
    · exact Or.inl ⟨_, rfl⟩
    · cases hrelay : relayOutboundDatagram turn.env envelope with
      | error err => exact Or.inl ⟨_, rfl⟩
      | ok relay =>
        obtain ⟨-, -, -, hpeer⟩ := relayOutboundDatagram_eq_ok hrelay
        obtain ⟨-, hclient, -⟩ := decodeDatagram_eq_ok hdecode
        refine Or.inr ⟨bytes, envelope, relay.remotePeer, hframe, hdecode, not_not.1 hid, hpeer, ?_⟩
        rcases awaitReply_cases hv6 hclient hrelay with hnone | ⟨packet, message, harrival, hsource, hmessage, hone⟩
        · exact Or.inl (by simp only [hnone])
        · exact Or.inr ⟨packet, message, harrival, hsource, hmessage, by simp only [hone]⟩

/-- **What one turn may do.** -/
theorem turn_cases (status : DatagramLoopStatus) (turn : DatagramTurn) :
    TurnEvents v6 associationId turn (datagramTurn v6 associationId status turn).1 := by
  cases status with
  | ended result => exact Or.inl rfl
  | running =>
    cases hframe : turn.frame with
    | error err => exact Or.inl (by simp only [datagramTurn, hframe])
    | ok message =>
      have hread : (datagramTurn v6 associationId .running turn).1 =
          .read message :: (handleMessage v6 associationId turn message).1 := by simp only [datagramTurn, hframe]
      refine Or.inr ⟨message, _, hframe, hread, ?_⟩
      cases message with
      | binary bytes =>
        rcases relayBinary_cases hv6 associationId hframe with ⟨err, hnone⟩ | hrelays
        · exact Or.inl (by simp only [handleMessage, hnone])
        · exact Or.inr hrelays
      | text text => exact Or.inl rfl
      | ping bytes => exact Or.inl rfl
      | pong bytes => exact Or.inl rfl
      | close => exact Or.inl rfl
      | frame => exact Or.inl rfl

end

/-- the frame a turn sends back is the one `serverDatagramReply` computes -/
theorem emitted_iff_reply (v6 : Ipv6Text) (associationId : DatagramAssociationId) {turn : DatagramTurn}
    {message reply : Message} (hframe : turn.frame = .ok message) (hsend : turn.sendReply = .ok ())
    (hbinary : ∃ bytes, message = .binary bytes) :
    .emitted reply ∈ (datagramTurn v6 associationId .running turn).1 ↔
      serverDatagramReply v6 turn.env associationId message turn.arrival = .ok (some reply) := by
  obtain ⟨bytes, rfl⟩ := hbinary
  simp only [datagramTurn, hframe, handleMessage, List.mem_cons, reduceCtorEq, false_or, relayBinary,
    serverDatagramReply]
  cases hdecode : decodeMessage v6 (.binary bytes) with
  | error err => simp [Except.mapError, bind, Except.bind]
  | ok envelope =>
    simp only [Except.mapError, bind, Except.bind]
    split_ifs with hid
    · simp
    · cases hrelay : relayOutboundDatagram turn.env envelope with
      | error err => simp
      | ok relay =>
        simp only [List.mem_cons, reduceCtorEq, false_or, awaitReply]
        cases harrival : turn.arrival with
        | none => simp
        | some received =>
          simp only [receiveServerDatagramReply]
          cases hinbound : relayInboundDatagram relay received with
          | error err => simp [Except.mapError]
          | ok inbound =>
            simp only [Except.mapError, emitServerDatagramReply]
            cases hmessage : datagramMessage v6 inbound with
            | error err => simp
            | ok message => simp [hsend, eq_comm]

/-! ## Runs -/

section
variable (v6 : Ipv6Text) (associationId : DatagramAssociationId)

@[simp] theorem outputsOf_append (a b : List LoopEvent) : outputsOf (a ++ b) = outputsOf a ++ outputsOf b :=
  List.filter_append _ _

@[simp] theorem payloadsOf_append (a b : List LoopEvent) : payloadsOf (a ++ b) = payloadsOf a ++ payloadsOf b :=
  List.filterMap_append

theorem binariesOf_cons_binary {turn : DatagramTurn} {bytes : List UInt8} (h : turn.frame = .ok (.binary bytes))
    (turns : List DatagramTurn) : binariesOf (turn :: turns) = bytes :: binariesOf turns := by
  simp only [binariesOf, List.filterMap_cons, h]

/-- a message that offends ends the loop, and nothing is sent -/
theorem outputs_of_offends {turn : DatagramTurn} {message : Message} (hframe : turn.frame = .ok message)
    (h : Offends v6 associationId message) (status : DatagramLoopStatus) (later : List DatagramTurn) :
    outputsOf (loopEvents v6 associationId status (turn :: later)) = [] := by
  cases status with
  | ended result => rw [loopEvents_ended]; rfl
  | running =>
    have hended : ∃ result, handleMessage v6 associationId turn message = ([], .ended result) := by
      cases message with
      | text text => exact ⟨_, rfl⟩
      | frame => exact ⟨_, rfl⟩
      | close => exact absurd h id
      | ping bytes => exact absurd h id
      | pong bytes => exact absurd h id
      | binary bytes =>
        simp only [handleMessage, relayBinary]
        cases hdecode : decodeMessage v6 (.binary bytes) with
        | error err => exact ⟨_, rfl⟩
        | ok envelope =>
          have hid : envelope.associationId ≠ associationId := h envelope hdecode
          exact ⟨_, if_pos hid⟩
    obtain ⟨result, hhandle⟩ := hended
    simp only [loopEvents, datagramTurn, hframe, hhandle, loopEvents_ended]
    rfl

theorem payloadsOf_of_relays {turn : DatagramTurn} {outputs : List LoopEvent}
    (h : Relays v6 associationId turn outputs) :
    ∃ bytes envelope, turn.frame = .ok (.binary bytes) ∧ decodeDatagram v6 bytes = .ok envelope ∧
      envelope.associationId = associationId ∧ payloadsOf outputs = [envelope.payload] := by
  obtain ⟨bytes, envelope, peer, hframe, hdecode, hid, -, houtputs⟩ := h
  refine ⟨bytes, envelope, hframe, hdecode, hid, ?_⟩
  rcases houtputs with rfl | ⟨packet, message, -, -, -, rfl⟩
  · rfl
  · rfl

/-- the payloads are those of a prefix of the binary messages, each of which decodes to the association -/
def PrefixPayloads (binaries payloads : List (List UInt8)) : Prop :=
  ∃ (n : ℕ) (envelopes : List DatagramEnvelope), (binaries.take n).map (decodeDatagram v6) = envelopes.map .ok ∧
    (∀ e ∈ envelopes, e.associationId = associationId) ∧ payloads = envelopes.map DatagramEnvelope.payload

theorem prefixPayloads_nil (binaries : List (List UInt8)) : PrefixPayloads v6 associationId binaries [] :=
  ⟨0, [], rfl, by simp, rfl⟩

variable {v6 associationId} in
theorem PrefixPayloads.cons {binaries payloads : List (List UInt8)} (h : PrefixPayloads v6 associationId binaries payloads)
    {bytes : List UInt8} {envelope : DatagramEnvelope} (hdecode : decodeDatagram v6 bytes = .ok envelope)
    (hid : envelope.associationId = associationId) :
    PrefixPayloads v6 associationId (bytes :: binaries) (envelope.payload :: payloads) := by
  obtain ⟨n, envelopes, hprefix, hids, hpayloads⟩ := h
  refine ⟨n + 1, envelope :: envelopes, ?_, List.forall_mem_cons.2 ⟨hid, hids⟩, by rw [hpayloads, List.map_cons]⟩
  rw [List.take_succ_cons, List.map_cons, List.map_cons, hdecode, hprefix]

/-- a turn that ends the loop and sends nothing -/
theorem payloads_of_ended {turn : DatagramTurn} {events : List LoopEvent} {result : Except WssError Unit}
    (hturn : datagramTurn v6 associationId .running turn = (events, .ended result)) (turns : List DatagramTurn) :
    payloadsOf (loopEvents v6 associationId .running (turn :: turns)) = payloadsOf events := by
  rw [loopEvents, hturn, loopEvents_ended, List.append_nil]

/-- **The payloads are those of a prefix of the binary messages.** The first turn decides which case it is. -/
theorem exists_prefix_payloads (hv6 : v6.Lawful) (turns : List DatagramTurn) :
    PrefixPayloads v6 associationId (binariesOf turns)
      (payloadsOf (loopEvents v6 associationId .running turns)) := by
  induction turns with
  | nil => exact prefixPayloads_nil v6 associationId _
  | cons turn turns ih =>
    have hnothing : ∀ events result, datagramTurn v6 associationId .running turn = (events, .ended result) →
        payloadsOf events = [] →
        PrefixPayloads v6 associationId (binariesOf (turn :: turns))
          (payloadsOf (loopEvents v6 associationId .running (turn :: turns))) := by
      intro events result hturn hpayloads
      rw [payloads_of_ended v6 associationId hturn, hpayloads]
      exact prefixPayloads_nil v6 associationId _
    cases hframe : turn.frame with
    | error err => exact hnothing _ _ (by rw [datagramTurn, hframe]) rfl
    | ok message =>
      have hturn : datagramTurn v6 associationId .running turn =
          (.read message :: (handleMessage v6 associationId turn message).1,
            (handleMessage v6 associationId turn message).2) := by
        rw [datagramTurn, hframe]
      cases message with
      | text text => exact hnothing _ _ hturn rfl
      | frame => exact hnothing _ _ hturn rfl
      | close => exact hnothing _ _ hturn rfl
      | ping bytes | pong bytes =>
        have hbinaries : binariesOf (turn :: turns) = binariesOf turns := by simp [binariesOf, hframe]
        rw [hbinaries, loopEvents, hturn]
        exact ih
      | binary bytes =>
        rcases relayBinary_cases hv6 associationId hframe with ⟨err, hnone⟩ | hrelays
        · exact hnothing _ (.error err) (by rw [hturn, handleMessage, hnone]) rfl
        · obtain ⟨bytes', envelope, hframe', hdecode, hid, hpayload⟩ := payloadsOf_of_relays v6 associationId hrelays
          obtain rfl : bytes = bytes' := by
            rw [hframe] at hframe'
            cases hframe'
            rfl
          have hevents : payloadsOf (loopEvents v6 associationId .running (turn :: turns)) = envelope.payload ::
              payloadsOf (loopEvents v6 associationId (relayBinary v6 associationId turn bytes).2 turns) := by
            rw [loopEvents, hturn, payloadsOf_append]
            change payloadsOf (relayBinary v6 associationId turn bytes).1 ++ _ = _
            rw [hpayload]
            rfl
          rw [binariesOf_cons_binary hframe, hevents]
          cases hstatus : (relayBinary v6 associationId turn bytes).2 with
          | ended result =>
            rw [loopEvents_ended]
            exact (prefixPayloads_nil v6 associationId _).cons hdecode hid
          | running => exact ih.cons hdecode hid

/-- **The log, turn by turn.** Whatever the loop has done after some turns is what each of them did, in their order. -/
theorem loopEvents_turns (hv6 : v6.Lawful) (status : DatagramLoopStatus) (turns : List DatagramTurn) :
    ∃ chunks, List.Forall₂ (TurnEvents v6 associationId) turns chunks ∧
      ∀ n, loopEvents v6 associationId status (turns.take n) = (chunks.take n).flatten := by
  induction turns generalizing status with
  | nil => exact ⟨[], List.Forall₂.nil, fun n => by simp [loopEvents]⟩
  | cons turn turns ih =>
    obtain ⟨chunks, hturns, hlog⟩ := ih (datagramTurn v6 associationId status turn).2
    refine ⟨_ :: chunks, List.Forall₂.cons (turn_cases hv6 associationId status turn) hturns, ?_⟩
    intro n
    cases n with
    | zero => rfl
    | succ n => rw [List.take_succ_cons, List.take_succ_cons, loopEvents, hlog, List.flatten_cons]

end

/-- **The server relays its own association, in order.** For every sequence of turns: the payloads sent are those of a
prefix of the binary messages, each of which decodes to the announced association. From the first message that offends on,
nothing is sent any more. And the log is `datagram-ready` and what the turns did, one after the other: each reads one
message and then sends nothing, or one payload and at most one frame back before the next is read. -/
theorem server_loop_relays_own (v6 : Ipv6Text) (hv6 : v6.Lawful) (associationId : DatagramAssociationId)
    (ready : Except String Unit) (turns : List DatagramTurn) :
    (∃ (n : ℕ) (envelopes : List DatagramEnvelope),
      ((binariesOf turns).take n).map (decodeDatagram v6) = envelopes.map .ok ∧
      (∀ e ∈ envelopes, e.associationId = associationId) ∧
      payloadsOf (serverDatagramLoop v6 associationId ready turns).1 = envelopes.map DatagramEnvelope.payload) ∧
    (∀ pre turn post message, turns = pre ++ turn :: post → turn.frame = .ok message →
      Offends v6 associationId message →
      outputsOf (serverDatagramLoop v6 associationId ready turns).1 =
        outputsOf (serverDatagramLoop v6 associationId ready pre).1) ∧
    ∃ chunks, List.Forall₂ (TurnEvents v6 associationId) turns chunks ∧
      ∀ n, (serverDatagramLoop v6 associationId ready (turns.take n)).1 =
        readyEvents ready ++ (chunks.take n).flatten := by
  cases ready with
  | error err =>
    refine ⟨⟨0, [], rfl, by simp, rfl⟩, fun _ _ _ _ _ _ _ => rfl, turns.map fun _ => [], ?_, ?_⟩
    · rw [List.forall₂_map_right_iff]
      exact List.forall₂_same.2 fun _ _ => Or.inl rfl
    · intro n
      simp [serverDatagramLoop, readyEvents]
  | ok =>
    refine ⟨exists_prefix_payloads v6 associationId hv6 turns, fun pre turn post message hturns hframe hoffends => ?_, ?_⟩
    · subst hturns
      simp only [serverDatagramLoop]
      rw [loopEvents_append, ← List.cons_append, outputsOf_append, outputs_of_offends v6 associationId hframe hoffends,
        List.append_nil]
    · obtain ⟨chunks, hchunks, hlog⟩ := loopEvents_turns v6 associationId hv6 .running turns
      refine ⟨chunks, hchunks, fun n => ?_⟩
      simp only [serverDatagramLoop, readyEvents, hlog, List.singleton_append]

/-- a query and its answer, then a text message: what follows it is not relayed -/
theorem text_ends_relaying :
    let query : DatagramTurn :=
      ⟨.ok (.binary ([1, 0, 0, 0, 0, 0, 0, 0, 7, 1, 8, 8, 8, 8, 0, 53, 0, 9] ++ Utf8.encode "127.0.0.1".toList ++
        [0xC3, 0x50, 0, 0, 0, 1, 0xCA])),
        ⟨fun _ _ => .ok [], .ok (.v4 ⟨0, 0, 0, 0⟩ 40000), .ok ()⟩,
        some (.ok ⟨[0xBE, 0xEF], .v4 ⟨8, 8, 8, 8⟩ 53, by decide⟩), .ok ()⟩
    Ipv6.std.Lawful ∧
      outputsOf (serverDatagramLoop Ipv6.std 7 (.ok ()) [query, { query with frame := .ok (.text "hello") }, query]).1 =
        outputsOf (serverDatagramLoop Ipv6.std 7 (.ok ()) [query]).1 ∧
      outputsOf (serverDatagramLoop Ipv6.std 7 (.ok ()) [query]).1 =
        [.emitted (.text "datagram-ready"), .sentTo (.v4 ⟨8, 8, 8, 8⟩ 53) [0xCA],
          .emitted (.binary ([1, 0, 0, 0, 0, 0, 0, 0, 7, 1, 8, 8, 8, 8, 0, 53, 0, 9] ++
            Utf8.encode "127.0.0.1".toList ++ [0xC3, 0x50, 0, 0, 0, 2, 0xBE, 0xEF]))] := by
  intro query
  refine ⟨Ipv6.std_lawful, ?_, by decide +kernel⟩
  exact (server_loop_relays_own Ipv6.std Ipv6.std_lawful 7 (.ok ())
    [query, { query with frame := .ok (.text "hello") }, query]).2.1 [query] _ [query] (.text "hello") rfl rfl trivial

end N0wss.Gateway
