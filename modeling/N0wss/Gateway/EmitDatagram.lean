/-
One datagram of the client on its way out (`emit_datagram` in `wss_gateway/mod.rs`): a path of its own is opened, the
datagram is sent, and, where an inbound handler is installed, one frame is awaited and handed to it before the path is
closed. All of it runs under the one timeout of the selector.

What follows the sending decides what is reported: an error there is an error of the whole emission.

- `emitDatagram_eq_ok`: how an emission succeeds.
- `handed_iff`: what reaches the handler.
- `emission_reported_iff`: a datagram that was sent in time is reported as sent if and only if what follows ends quietly
  and in time.
- `pong_reported_as_failure`: a pong after the datagram, and the relay loop of the client ends.
-/
import N0wss.Gateway.ClientPath
import N0wss.Net.Ipv6
import N0wss.Session.Selector
import N0wss.Socks5.RelayLoop

namespace N0wss.Gateway

open Bridge Datagram Net Session Socks5

variable {Socket : Type}

/-! ## Sending and waiting -/

/-- two seconds, in nanoseconds -/
def datagramReturnTimeout : Duration := 2000000000

/-- `handle_inbound` of the handler that is installed, with the packets it passes to `send_to` -/
abbrev InboundHandler (Socket : Type) := DatagramEnvelope → Timed (Delivery Socket) (Except String Unit)

def sendDatagram (v6 : Ipv6Text) (w : Wire) (envelope : DatagramEnvelope) :
    Timed (ClientEvent Socket) (Except WssError Unit) :=
  match datagramMessage v6 envelope with
  | .error err => Timed.now (.error (.datagramPathFailed (datagramErrorText err)))
  | .ok message =>
    send (fun detail => .datagramPathFailed (datagramErrorText (.sendFailed detail))) (.sentDatagram message)
      w.sendDatagram

/-- an envelope is handed to the handler -/
def handInbound (handler : InboundHandler Socket) (inbound : DatagramEnvelope) :
    Timed (ClientEvent Socket) (Except WssError Unit) :=
  (Timed.emit (.handed inbound)).bind fun () =>
    ((handler inbound).mapEvents .sentTo).map fun result => result.mapError .datagramPathFailed

/-- what is done with what `next` returned in time -/
def handleNext (v6 : Ipv6Text) (handler : InboundHandler Socket) :
    Option Next → Timed (ClientEvent Socket) (Except WssError Unit)
  -- the wait is over, or the stream has ended: neither is an error
  | none | some none => Timed.now (.ok ())
  | some (some (.error err)) => Timed.now (.error (.datagramPathFailed err))
  | some (some (.ok message)) =>
    match decodeMessage v6 message with
    | .error err => Timed.now (.error (.datagramPathFailed (datagramErrorText err)))
    | .ok inbound => handInbound handler inbound

def awaitInbound (v6 : Ipv6Text) (w : Wire) :
    Option (InboundHandler Socket) → Timed (ClientEvent Socket) (Except WssError Unit)
  | none => Timed.now (.ok ())
  | some handler => ((Timed.await w.reply).timeout datagramReturnTimeout).toTimed.bind (handleNext v6 handler)

/-- the path is open and the datagram is sent -/
def openAndSend (v6 : Ipv6Text) (debug : Message → String) (token : String) (w : Wire) (envelope : DatagramEnvelope) :
    Timed (ClientEvent Socket) (Except WssError Unit) :=
  (openDatagramPath debug token w envelope.associationId).andThen fun () => sendDatagram v6 w envelope

def emitDatagram (v6 : Ipv6Text) (debug : Message → String) (token : String) (handler : Option (InboundHandler Socket))
    (w : Wire) (envelope : DatagramEnvelope) : Timed (ClientEvent Socket) (Except WssError Unit) :=
  (openAndSend v6 debug token w envelope).andThen fun () =>
  (awaitInbound v6 w handler).andThen fun () =>
  attempt .datagramPathFailed w.close

/-- the carrier of the selector, with its error's text -/
def wssDatagramPath (v6 : Ipv6Text) (debug : Message → String) (token : String)
    (handler : Option (InboundHandler Socket)) (w : Wire) (envelope : DatagramEnvelope) :
    Timed (ClientEvent Socket) (Except String Unit) :=
  (emitDatagram v6 debug token handler w envelope).map fun result => result.mapError WssError.text

/-! ## What comes back -/

/-- a frame that comes in the reply window and holds this envelope -/
def RepliesWith (v6 : Ipv6Text) (w : Wire) (d : ℕ) (bytes : List UInt8) (inbound : DatagramEnvelope) : Prop :=
  w.reply = some (d, some (.ok (.binary bytes))) ∧ d ≤ datagramReturnTimeout ∧ decodeDatagram v6 bytes = .ok inbound

/-- the wait for the reply does no harm, and how long it takes -/
inductive Harmless (v6 : Ipv6Text) (w : Wire) : Option (InboundHandler Socket) → ℕ → Prop where
  | noHandler : Harmless v6 w none 0
  /-- nothing comes in the window -/
  | silent (handler : InboundHandler Socket) (hlate : ∀ d next, w.reply = some (d, next) → datagramReturnTimeout < d) :
    Harmless v6 w (some handler) datagramReturnTimeout
  /-- `websocket.next()` returns `None` in the window -/
  | ended (handler : InboundHandler Socket) (d : ℕ) (hend : w.reply = some (d, none)) (hin : d ≤ datagramReturnTimeout) :
    Harmless v6 w (some handler) d
  /-- a reply comes in the window and the handler takes it -/
  | accepted (handler : InboundHandler Socket) (d m : ℕ) (bytes : List UInt8) (inbound : DatagramEnvelope)
    (hreply : RepliesWith v6 w d bytes inbound) (haccepted : (handler inbound).result = some (m, .ok ())) :
    Harmless v6 w (some handler) (d + m)

/-- what follows a datagram that was sent at `s`: a harmless wait and a close that succeeds, before the timeout -/
def EndsQuietly (v6 : Ipv6Text) (wssTimeout : Duration) (handler : Option (InboundHandler Socket)) (w : Wire) (s : ℕ) :
    Prop :=
  ∃ d c, Harmless v6 w handler d ∧ w.close = some (c, .ok ()) ∧ s + d + c ≤ wssTimeout

section
variable {v6 : Ipv6Text} {debug : Message → String} {token : String} {handler : Option (InboundHandler Socket)} {w : Wire}
  {envelope : DatagramEnvelope} {n : ℕ} {e : ClientEvent Socket}

theorem decodeMessage_eq_ok {message : Message} {inbound : DatagramEnvelope} :
    decodeMessage v6 message = .ok inbound ↔ ∃ bytes, message = .binary bytes ∧ decodeDatagram v6 bytes = .ok inbound := by
  cases message with
  | binary bytes => simp [decodeMessage]
  | _ => simp [decodeMessage]

theorem handInbound_eq_ok {handle : InboundHandler Socket} {inbound : DatagramEnvelope} :
    (handInbound handle inbound).result = some (n, .ok ()) ↔ (handle inbound).result = some (n, .ok ()) := by
  rw [handInbound, Timed.bind_eq_some]
  constructor
  · rintro ⟨d, ⟨⟩, m, hemit, hhandled, rfl⟩
    cases hemit
    obtain ⟨result, hresult, hok⟩ := Timed.map_eq_some.1 hhandled
    cases result with
    | error err => cases hok
    | ok => rwa [zero_add]
  · intro h
    exact ⟨0, (), n, rfl, Timed.map_eq_some.2 ⟨.ok (), h, rfl⟩, (zero_add n).symm⟩

theorem mem_events_handInbound {handle : InboundHandler Socket} {inbound : DatagramEnvelope} :
    (n, e) ∈ (handInbound handle inbound).events ↔
      n = 0 ∧ e = .handed inbound ∨ ∃ delivery, (n, delivery) ∈ (handle inbound).events ∧ .sentTo delivery = e := by
  rw [handInbound, Timed.mem_events_bind, Timed.events_emit, List.mem_singleton, Prod.mk.injEq]
  apply or_congr_right
  rw [← Timed.mem_events_mapEvents]
  constructor
  · rintro ⟨d, ⟨⟩, m, hemit, hmem, rfl⟩
    cases hemit
    rwa [zero_add]
  · intro hmem
    exact ⟨0, (), n, rfl, hmem, (zero_add n).symm⟩

/-- a wait that is over, an error, or an envelope that is handed over -/
theorem handleNext_cases (handle : InboundHandler Socket) (next : Option Next) :
    ((next = none ∨ next = some none) ∧ handleNext v6 handle next = Timed.now (.ok ())) ∨
      (∃ err, handleNext v6 handle next = Timed.now (.error err)) ∨
      ∃ bytes inbound, next = some (some (.ok (.binary bytes))) ∧ decodeDatagram v6 bytes = .ok inbound ∧
        handleNext v6 handle next = handInbound handle inbound := by
  rcases next with _ | _ | err | message
  · exact Or.inl ⟨Or.inl rfl, rfl⟩
  · exact Or.inl ⟨Or.inr rfl, rfl⟩
  · exact Or.inr (Or.inl ⟨_, rfl⟩)
  · right
    rcases hdecode : decodeMessage v6 message with err | inbound
    · exact Or.inl ⟨_, by rw [handleNext, hdecode]⟩
    · obtain ⟨bytes, rfl, hbytes⟩ := decodeMessage_eq_ok.1 hdecode
      exact Or.inr ⟨bytes, inbound, rfl, hbytes, by rw [handleNext, hdecode]⟩

theorem handleNext_of_reply {handle : InboundHandler Socket} {bytes : List UInt8} {inbound : DatagramEnvelope}
    (hdecode : decodeDatagram v6 bytes = .ok inbound) :
    handleNext v6 handle (some (some (.ok (.binary bytes)))) = handInbound handle inbound := by
  rw [handleNext, decodeMessage_eq_ok.2 ⟨bytes, rfl, hdecode⟩]

/-- the wait for the reply is over without an error -/
theorem awaitInbound_eq_ok : (awaitInbound v6 w handler).result = some (n, .ok ()) ↔ Harmless v6 w handler n := by
  cases handler with
  | none =>
    simp only [awaitInbound, Timed.result_now, Option.some.injEq, Prod.mk.injEq, and_true]
    constructor
    · rintro rfl
      exact .noHandler
    · rintro ⟨⟩
      rfl
  | some handle =>
    rw [awaitInbound, Timed.bind_eq_some]
    simp only [Done.result_toTimed, Option.some.injEq, Prod.mk.injEq]
    constructor
    · rintro ⟨d, next, m, ⟨hd, hnext⟩, hhandled, rfl⟩
      rcases Timed.in_time_or_late datagramReturnTimeout (Timed.await w.reply : Timed (ClientEvent Socket) Next) with
        ⟨d', reply, hreply, hle⟩ | hlate
      · rw [Timed.timeout_of_le hreply hle] at hd hnext
        subst hd hnext
        rcases handleNext_cases handle (some reply) with ⟨hquiet, hdone⟩ | ⟨err, hdone⟩ |
          ⟨bytes, inbound, hframe, hdecode, hdone⟩
        · obtain hnone | hnone := hquiet
          · cases hnone
          · cases hnone
            rw [hdone] at hhandled
            cases hhandled
            exact .ended handle _ hreply hle
        · rw [hdone] at hhandled
          cases hhandled
        · cases hframe
          rw [hdone, handInbound_eq_ok] at hhandled
          exact .accepted handle _ _ bytes inbound ⟨hreply, hle, hdecode⟩ hhandled
      · rw [Timed.timeout_of_late hlate] at hd hnext
        subst hd hnext
        cases hhandled
        exact .silent handle hlate
    · intro h
      cases h with
      | silent _ hlate =>
        rw [Timed.timeout_of_late hlate]
        exact ⟨datagramReturnTimeout, none, 0, ⟨rfl, rfl⟩, rfl, rfl⟩
      | ended _ d hend hin =>
        rw [Timed.timeout_of_le hend hin]
        exact ⟨n, some none, 0, ⟨rfl, rfl⟩, rfl, rfl⟩
      | accepted _ d m bytes inbound hreply haccepted =>
        obtain ⟨hframe, hle, hdecode⟩ := hreply
        rw [Timed.timeout_of_le hframe hle]
        refine ⟨d, _, m, ⟨rfl, rfl⟩, ?_, rfl⟩
        rw [handleNext_of_reply hdecode]
        exact handInbound_eq_ok.2 haccepted

/-- **An emission succeeds** when the datagram is sent, the wait does no harm and the path is closed. -/
theorem emitDatagram_eq_ok : (emitDatagram v6 debug token handler w envelope).result = some (n, .ok ()) ↔
    ∃ s d c, (openAndSend v6 debug token w envelope : Timed (ClientEvent Socket) _).result = some (s, .ok ()) ∧
      Harmless v6 w handler d ∧ w.close = some (c, .ok ()) ∧ n = s + d + c := by
  rw [emitDatagram, Timed.andThen_eq_ok]
  constructor
  · rintro ⟨s, ⟨⟩, m, hsent, hrest, rfl⟩
    obtain ⟨d, ⟨⟩, c, hwait, hclose, rfl⟩ := Timed.andThen_eq_ok.1 hrest
    exact ⟨s, d, c, hsent, awaitInbound_eq_ok.1 hwait, attempt_eq_ok.1 hclose, (Nat.add_assoc s d c).symm⟩
  · rintro ⟨s, d, c, hsent, hwait, hclose, rfl⟩
    refine ⟨s, (), d + c, hsent, Timed.andThen_eq_ok.2 ?_, Nat.add_assoc s d c⟩
    exact ⟨d, (), c, awaitInbound_eq_ok.2 hwait, attempt_eq_ok.2 hclose, rfl⟩

/-! ## What happens on the way -/

theorem mem_events_sendDatagram (h : (n, e) ∈ (sendDatagram v6 w envelope).events) :
    ∃ message, e = .sentDatagram message ∧
      (sendDatagram v6 w envelope : Timed (ClientEvent Socket) _).result = some (n, .ok ()) := by
  unfold sendDatagram at h ⊢
  cases hmessage : datagramMessage v6 envelope with
  | error err => rw [hmessage] at h; cases h
  | ok message =>
    rw [hmessage] at h
    obtain ⟨rfl, hsent⟩ := mem_events_send.1 h
    exact ⟨message, rfl, send_eq_ok.2 hsent⟩

/-- opening and sending: messages of the handshake, then the datagram at the moment it is sent -/
theorem mem_events_openAndSend (h : (n, e) ∈ (openAndSend v6 debug token w envelope).events) :
    (∃ message, e = .sent message) ∨
      ∃ message, e = .sentDatagram message ∧
        (openAndSend v6 debug token w envelope : Timed (ClientEvent Socket) _).result = some (n, .ok ()) := by
  rw [openAndSend, Timed.mem_events_andThen] at h
  obtain hopen | ⟨d, ⟨⟩, m, hopen, hsend, rfl⟩ := h
  · exact Or.inl (handshake_events hopen)
  · obtain ⟨message, rfl, hsent⟩ := mem_events_sendDatagram hsend
    exact Or.inr ⟨message, rfl, Timed.andThen_eq_ok.2 ⟨d, (), m, hopen, hsent, rfl⟩⟩

/-- what happens while the reply is awaited: it is handed over, and what its handling does -/
theorem mem_events_awaitInbound : (n, e) ∈ (awaitInbound v6 w handler).events ↔
    ∃ handle d m bytes inbound, handler = some handle ∧ RepliesWith v6 w d bytes inbound ∧
      (m, e) ∈ (handInbound handle inbound).events ∧ n = d + m := by
  cases handler with
  | none => simp [awaitInbound]
  | some handle =>
    rw [awaitInbound, Timed.mem_events_bind]
    simp only [Done.events_toTimed, Done.result_toTimed, Option.some.injEq, Prod.mk.injEq]
    constructor
    · rintro (hwait | ⟨d, next, m, ⟨rfl, rfl⟩, hmem, rfl⟩)
      · exact absurd (Timed.of_mem_timeout hwait) List.not_mem_nil
      · rcases handleNext_cases handle
            ((Timed.await w.reply : Timed (ClientEvent Socket) Next).timeout datagramReturnTimeout).value with
          ⟨-, hdone⟩ | ⟨err, hdone⟩ | ⟨bytes, inbound, hvalue, hdecode, hdone⟩
        · rw [hdone] at hmem
          cases hmem
        · rw [hdone] at hmem
          cases hmem
        · obtain ⟨d, hreply, hle⟩ := Timed.timeout_eq_some.1 hvalue
          rw [hdone] at hmem
          rw [Timed.timeout_of_le hreply hle]
          exact ⟨handle, d, m, bytes, inbound, rfl, ⟨hreply, hle, hdecode⟩, hmem, rfl⟩
    · rintro ⟨_, d, m, bytes, inbound, rfl, ⟨hreply, hle, hdecode⟩, hmem, rfl⟩
      refine Or.inr ⟨d, some (some (.ok (.binary bytes))), m, ?_, ?_, rfl⟩
      · have hdone := Timed.timeout_of_le (t := (Timed.await w.reply : Timed (ClientEvent Socket) Next)) hreply hle
        rw [hdone]
        exact ⟨rfl, rfl⟩
      · rwa [handleNext_of_reply hdecode]

/-- the datagram is in the log from the moment it is sent -/
theorem sentDatagram_of_openAndSend
    (h : (openAndSend v6 debug token w envelope : Timed (ClientEvent Socket) _).result = some (n, .ok ())) :
    ∃ message, (n, .sentDatagram message) ∈
      (openAndSend v6 debug token w envelope : Timed (ClientEvent Socket) _).events := by
  obtain ⟨d, ⟨⟩, m, hopen, hsend, rfl⟩ := Timed.andThen_eq_ok.1 h
  unfold sendDatagram at hsend
  cases hmessage : datagramMessage v6 envelope with
  | error err => rw [hmessage] at hsend; cases hsend
  | ok message =>
    rw [hmessage] at hsend
    refine ⟨message, Timed.mem_events_andThen.2 (Or.inr ⟨d, (), m, hopen, ?_, rfl⟩)⟩
    rw [sendDatagram, hmessage]
    exact mem_events_send.2 ⟨rfl, send_eq_ok.1 hsend⟩

theorem mem_events_emitDatagram : (n, e) ∈ (emitDatagram v6 debug token handler w envelope).events ↔
    (n, e) ∈ (openAndSend v6 debug token w envelope).events ∨
      ∃ s m, (openAndSend v6 debug token w envelope : Timed (ClientEvent Socket) _).result = some (s, .ok ()) ∧
        (m, e) ∈ (awaitInbound v6 w handler).events ∧ n = s + m := by
  rw [emitDatagram, Timed.mem_events_andThen]
  apply or_congr_right
  simp only [Timed.mem_events_andThen, events_attempt, List.not_mem_nil, false_and, and_false, exists_false, or_false]
  constructor
  · rintro ⟨s, ⟨⟩, m, hrest⟩
    exact ⟨s, m, hrest⟩
  · rintro ⟨s, m, hrest⟩
    exact ⟨s, (), m, hrest⟩

theorem sentDatagram_iff :
    (∃ message, (n, .sentDatagram message) ∈ (emitDatagram v6 debug token handler w envelope).events) ↔
      (openAndSend v6 debug token w envelope : Timed (ClientEvent Socket) _).result = some (n, .ok ()) := by
  constructor
  · rintro ⟨message, hmem⟩
    obtain hsend | ⟨_, m, -, hwait, -⟩ := mem_events_emitDatagram.1 hmem
    · obtain ⟨_, hsent⟩ | ⟨_, -, hdone⟩ := mem_events_openAndSend hsend
      · cases hsent
      · exact hdone
    · obtain ⟨handle, d, k, bytes, inbound, -, -, hhanded, -⟩ := mem_events_awaitInbound.1 hwait
      obtain ⟨-, hevent⟩ | ⟨delivery, -, hevent⟩ := mem_events_handInbound.1 hhanded
      · cases hevent
      · cases hevent
  · intro hdone
    obtain ⟨message, hmem⟩ := sentDatagram_of_openAndSend hdone
    exact ⟨message, mem_events_emitDatagram.2 (Or.inl hmem)⟩

/-- the path is open, the datagram is sent, and then a frame comes in time that holds this envelope -/
def Receives (v6 : Ipv6Text) (debug : Message → String) (token : String) (_handle : InboundHandler Socket) (w : Wire)
    (envelope : DatagramEnvelope) (n : ℕ) (bytes : List UInt8) (inbound : DatagramEnvelope) : Prop :=
  ∃ s d, (openAndSend v6 debug token w envelope : Timed (ClientEvent Socket) _).result = some (s, .ok ()) ∧
    RepliesWith v6 w d bytes inbound ∧ n = s + d

variable {handle : InboundHandler Socket}

/-- what an emission does once the datagram is sent -/
theorem mem_events_after_send (hnew : ∀ message, e ≠ .sent message) (hother : ∀ message, e ≠ .sentDatagram message) :
    (n, e) ∈ (emitDatagram v6 debug token (some handle) w envelope).events ↔
      ∃ t m bytes inbound, Receives v6 debug token handle w envelope t bytes inbound ∧
        (m, e) ∈ (handInbound handle inbound).events ∧ n = t + m := by
  rw [mem_events_emitDatagram]
  constructor
  · rintro (hsend | ⟨s, k, hsent, hwait, rfl⟩)
    · obtain ⟨message, rfl⟩ | ⟨message, rfl, -⟩ := mem_events_openAndSend hsend
      · exact absurd rfl (hnew message)
      · exact absurd rfl (hother message)
    · obtain ⟨_, d, m, bytes, inbound, hhandler, hreply, hmem, rfl⟩ := mem_events_awaitInbound.1 hwait
      cases hhandler
      exact ⟨s + d, m, bytes, inbound, ⟨s, d, hsent, hreply, rfl⟩, hmem, (Nat.add_assoc s d m).symm⟩
  · rintro ⟨_, m, bytes, inbound, ⟨s, d, hsent, hreply, rfl⟩, hmem, rfl⟩
    exact Or.inr ⟨s, d + m, hsent, mem_events_awaitInbound.2 ⟨handle, d, m, bytes, inbound, rfl, hreply, hmem, rfl⟩,
      Nat.add_assoc s d m⟩

/-- **What reaches the handler** is what a frame in the window holds. -/
theorem handed_iff {inbound : DatagramEnvelope} :
    (n, .handed inbound) ∈ (emitDatagram v6 debug token (some handle) w envelope).events ↔
      ∃ bytes, Receives v6 debug token handle w envelope n bytes inbound := by
  rw [mem_events_after_send (by simp) (by simp)]
  simp only [mem_events_handInbound, ClientEvent.handed.injEq, reduceCtorEq, and_false, exists_false, or_false]
  constructor
  · rintro ⟨_, _, bytes, _, hreceives, ⟨rfl, rfl⟩, rfl⟩
    exact ⟨bytes, hreceives⟩
  · rintro ⟨bytes, hreceives⟩
    exact ⟨n, 0, bytes, inbound, hreceives, ⟨rfl, rfl⟩, rfl⟩

/-- what goes out of a relay socket is what the handler passes to it for such an envelope -/
theorem sentTo_iff {delivery : Delivery Socket} :
    (n, .sentTo delivery) ∈ (emitDatagram v6 debug token (some handle) w envelope).events ↔
      ∃ t m bytes inbound, Receives v6 debug token handle w envelope t bytes inbound ∧
        (m, delivery) ∈ (handle inbound).events ∧ n = t + m := by
  rw [mem_events_after_send (by simp) (by simp)]
  simp only [mem_events_handInbound, ClientEvent.sentTo.injEq, reduceCtorEq, and_false, false_or, exists_eq_right]

end

/-! ## What is reported -/

/-- a datagram that was sent before the timeout is reported as sent, and so is it where the client hands it over -/
structure ReportsSent (v6 : Ipv6Text) (debug : Message → String) (token : String) (wssTimeout : Duration)
    (handler : Option (InboundHandler Socket)) (w : Wire) (envelope : DatagramEnvelope) : Prop where
  selector : ∀ s message, (s, .sentDatagram message) ∈ (emitDatagram v6 debug token handler w envelope).events →
    s < wssTimeout →
    (emitOutboundDatagram wssTimeout (wssDatagramPath v6 debug token handler w) envelope).value =
      .ok ⟨envelope.associationId, .wssDatagram⟩
  /-- an error of the hand-over is about a datagram that was not sent -/
  handOver : ∀ reg reg' relayAddr expectedClientAddr target payload now err,
    outboundEnvelope reg relayAddr expectedClientAddr target payload now = (.ok envelope, reg') →
    (forwardRuntimeDatagram (dispatchOutbound wssTimeout (wssDatagramPath v6 debug token handler w)) reg relayAddr
      expectedClientAddr target payload now).1 = .error err →
    ∀ s message, (s, .sentDatagram message) ∈ (emitDatagram v6 debug token handler w envelope).events → ¬s < wssTimeout

/-- a datagram that was sent is reported as sent exactly when what follows ends quietly -/
theorem emission_eq_ok_iff {v6 : Ipv6Text} {debug : Message → String} {token : String} {wssTimeout : Duration}
    {handler : Option (InboundHandler Socket)} {w : Wire} {envelope : DatagramEnvelope} {s : ℕ}
    (hsent : (openAndSend v6 debug token w envelope : Timed (ClientEvent Socket) _).result = some (s, .ok ())) :
    (emitOutboundDatagram wssTimeout (wssDatagramPath v6 debug token handler w) envelope).value =
        .ok ⟨envelope.associationId, .wssDatagram⟩ ↔ EndsQuietly v6 wssTimeout handler w s := by
  rw [emitOutboundDatagram_eq_ok]
  constructor
  · rintro ⟨n, hdone, hle⟩
    obtain ⟨result, hresult, hok⟩ := Timed.map_eq_some.1 hdone
    cases result with
    | error err => cases hok
    | ok =>
      obtain ⟨s', d, c, hsent', hwait, hclose, rfl⟩ := emitDatagram_eq_ok.1 hresult
      obtain ⟨rfl, -⟩ := Prod.mk.inj (Option.some.inj (hsent.symm.trans hsent'))
      exact ⟨d, c, hwait, hclose, hle⟩
  · rintro ⟨d, c, hwait, hclose, hle⟩
    refine ⟨s + d + c, Timed.map_eq_some.2 ⟨.ok (), ?_, rfl⟩, hle⟩
    exact emitDatagram_eq_ok.2 ⟨s, d, c, hsent, hwait, hclose, rfl⟩

/-- **When a datagram that was sent is reported as sent.** For every behaviour of the server and every timing: exactly when
what follows a sending before the timeout ends quietly. -/
theorem emission_reported_iff (v6 : Ipv6Text) (debug : Message → String) (token : String) (wssTimeout : Duration)
    (handler : Option (InboundHandler Socket)) (w : Wire) (envelope : DatagramEnvelope) :
    ReportsSent v6 debug token wssTimeout handler w envelope ↔
      ∀ s, (openAndSend v6 debug token w envelope : Timed (ClientEvent Socket) _).result = some (s, .ok ()) →
        s < wssTimeout → EndsQuietly v6 wssTimeout handler w s := by
  constructor
  · intro hreports s hsent hs
    obtain ⟨message, hmem⟩ := sentDatagram_iff.2 hsent
    exact (emission_eq_ok_iff hsent).1 (hreports.selector s message hmem hs)
  · intro hquiet
    have hselector : ∀ s message,
        (s, .sentDatagram message) ∈ (emitDatagram v6 debug token handler w envelope).events → s < wssTimeout →
        (emitOutboundDatagram wssTimeout (wssDatagramPath v6 debug token handler w) envelope).value =
          .ok ⟨envelope.associationId, .wssDatagram⟩ := by
      intro s message hmem hs
      have hsent := sentDatagram_iff.1 ⟨message, hmem⟩
      exact (emission_eq_ok_iff hsent).2 (hquiet s hsent hs)
    refine ⟨hselector, ?_⟩
    intro reg reg' relayAddr client target payload now err hsend hforward s message hmem hs
    have hdispatched := dispatchOutbound_eq_ok.2 (hselector s message hmem hs)
    rw [forwardRuntimeDatagram_of_dispatched hsend hdispatched] at hforward
    cases hforward

/-! ## A pong -/

/-- every step takes a millisecond; `reply` is what the server does once it has the datagram -/
def quickWire (reply : Await Next) : Wire where
  tcp := some (1000000, .ok ())
  tls := some (1000000, .ok ())
  request := .ok ()
  upgrade := some (1000000, .ok ())
  sendToken := some (1000000, .ok ())
  authAck := some (1000000, some (.ok (.text "ok")))
  sendRequest := some (1000000, .ok ())
  requestAck := some (1000000, some (.ok (.text "datagram-ready")))
  sendDatagram := some (1000000, .ok ())
  reply
  close := some (1000000, .ok ())

/-- a DNS query -/
def dnsQuery : DatagramEnvelope := ⟨1, .v4 ⟨127, 0, 0, 1⟩ 50000, .ip (.v4 ⟨8, 8, 8, 8⟩ 53), [0xCA]⟩

/-- a handler that takes everything at once -/
def takeAll : InboundHandler Unit := fun _ => Timed.now (.ok ())

/-- what the client's hand-over of the query returns when the server answers so, with a timeout of five seconds -/
def queryHandedOver (reply : Await Next) : Except UdpAssociateError Unit :=
  (forwardRuntimeDatagram
    (dispatchOutbound 5000000000 (wssDatagramPath Ipv6.std (fun _ => "") "token" (some takeAll) (quickWire reply)))
    (SlotStore.new 4) (.v4 ⟨127, 0, 0, 1⟩ 1081) (.v4 ⟨127, 0, 0, 1⟩ 50000) (.ip (.v4 ⟨8, 8, 8, 8⟩ 53)) [0xCA] 0).1

/-- silence is no error -/
example : queryHandedOver none = .ok () := by decide +kernel

/-- **A pong after the datagram.** The query was sent after eight milliseconds, it is reported as failed, and the relay loop
ends, so that no further datagram of the client is forwarded. -/
theorem pong_reported_as_failure :
    (openAndSend Ipv6.std (fun _ => "") "token" (quickWire (some (1000000, some (.ok (.pong []))))) dnsQuery :
        Timed (ClientEvent Unit) _).result = some (8000000, .ok ()) ∧
      (emitOutboundDatagram 5000000000 (wssDatagramPath Ipv6.std (fun _ => "") "token" (some takeAll)
          (quickWire (some (1000000, some (.ok (.pong [])))))) dnsQuery).value =
        .error (.wssFailed "datagram path failed: non-binary websocket message is not a datagram frame") ∧
      (statusAfter (.v4 ⟨127, 0, 0, 1⟩ 1081) (.running none)
        [⟨⟨[0, 0, 0, 1, 8, 8, 8, 8, 0, 53, 0xCA], .v4 ⟨127, 0, 0, 1⟩ 50000, by decide⟩,
          queryHandedOver (some (1000000, some (.ok (.pong []))))⟩]).isRunning = false ∧
      ¬ReportsSent Ipv6.std (fun _ => "") "token" 5000000000 (some takeAll)
        (quickWire (some (1000000, some (.ok (.pong []))))) dnsQuery := by
  have hsent : (openAndSend Ipv6.std (fun _ => "") "token" (quickWire (some (1000000, some (.ok (.pong []))))) dnsQuery :
      Timed (ClientEvent Unit) _).result = some (8000000, .ok ()) := by decide +kernel
  have hvalue : (emitOutboundDatagram 5000000000 (wssDatagramPath Ipv6.std (fun _ => "") "token" (some takeAll)
        (quickWire (some (1000000, some (.ok (.pong [])))))) dnsQuery).value =
      .error (.wssFailed "datagram path failed: non-binary websocket message is not a datagram frame") := by decide +kernel
  refine ⟨hsent, hvalue, by decide +kernel, fun hreports => ?_⟩
  obtain ⟨message, hmem⟩ := sentDatagram_iff.2 hsent
  have hok := hreports.selector 8000000 message hmem (by decide)
  rw [hvalue] at hok
  cases hok

end N0wss.Gateway
