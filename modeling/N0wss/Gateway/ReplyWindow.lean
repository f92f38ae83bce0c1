/-
The server's wait for the reply of a UDP peer (`server_datagram_loop`, `relay_inbound_datagram`), when others send to the
relay socket too. The socket is bound to all interfaces, so anyone who finds its port can.

One packet is received per exchange. If it is not the peer's, the error ends the loop.

- `turn_of_peerFirst`, `turn_of_foreignFirst`: one exchange, by who comes first.
- `served_iff_peerFirst`: over a connection. Every exchange is served as if foreign packets were not there, and the loop
  goes on, exactly when no exchange receives a foreign packet first.
- `foreign_packet_ends_loop`: one foreign packet ahead of the reply, and neither it nor the next frame is served.
-/
import N0wss.Gateway.DatagramLoop

namespace N0wss.Gateway

open Bridge Datagram Net

/-! ## Exchanges -/

/-- one datagram of the association that is sent to its peer, and what then arrives on the relay socket; the websocket
takes what is sent to it -/
structure Exchange (v6 : Ipv6Text) (associationId : DatagramAssociationId) where
  bytes : List UInt8
  envelope : DatagramEnvelope
  decodes : decodeDatagram v6 bytes = .ok envelope
  own : envelope.associationId = associationId
  env : UdpRelayEnv
  relay : UdpRelayRecord
  sends : relayOutboundDatagram env envelope = .ok relay
  /-- in the order they arrive, from whomever -/
  arrivals : List Received
  /-- how many of them arrive before `DATAGRAM_RETURN_TIMEOUT` -/
  inWindow : ℕ

namespace Exchange

variable {v6 : Ipv6Text} {associationId : DatagramAssociationId} (x : Exchange v6 associationId)

/-- what arrives before the timeout -/
def window : List Received := x.arrivals.take x.inWindow

/-- the turn of the loop: `recv_from` takes what arrives first -/
def turn : DatagramTurn := ⟨.ok (.binary x.bytes), x.env, x.window.head?.map .ok, .ok ()⟩

/-- the first packet of the peer before the timeout -/
def peerReply : Option Received := x.window.find? fun packet => decide (packet.source = x.relay.remotePeer)

/-- the frame that carries a packet of the peer back -/
def replyEvents (packet : Received) : List LoopEvent :=
  match datagramMessage v6 { x.envelope with payload := packet.bytes } with
  | .ok message => [.emitted message]
  | .error _ => []

/-- what the loop does in an exchange that foreign packets do not disturb -/
def served : List LoopEvent :=
  [.read (.binary x.bytes), .sentTo x.relay.remotePeer x.envelope.payload] ++ x.peerReply.toList.flatMap x.replyEvents

/-- nothing arrives before the timeout, or a packet of the peer does first -/
def PeerFirst : Prop := ∀ packet ∈ x.window.head?, packet.source = x.relay.remotePeer

instance : Decidable x.PeerFirst := inferInstanceAs (Decidable (∀ packet ∈ x.window.head?, _))

end Exchange

/-- the loop serves every exchange as if foreign packets were not there, and goes on -/
def Served (v6 : Ipv6Text) (associationId : DatagramAssociationId) (exchanges : List (Exchange v6 associationId)) : Prop :=
  loopEvents v6 associationId .running (exchanges.map Exchange.turn) = exchanges.flatMap Exchange.served ∧
    statusOf v6 associationId .running (exchanges.map Exchange.turn) = .running

/-! ## One exchange -/

section
variable {v6 : Ipv6Text} {associationId : DatagramAssociationId} (x : Exchange v6 associationId)

/-- the turn sends the datagram and waits -/
theorem Exchange.turn_eq :
    datagramTurn v6 associationId .running x.turn =
      (.read (.binary x.bytes) :: .sentTo x.relay.remotePeer x.envelope.payload :: (awaitReply v6 x.turn x.relay).1,
        (awaitReply v6 x.turn x.relay).2) := by
  have hdecode : decodeMessage v6 (.binary x.bytes) = .ok x.envelope := x.decodes
  have hsends : relayOutboundDatagram x.turn.env x.envelope = .ok x.relay := x.sends
  have hbinary : relayBinary v6 associationId x.turn x.bytes =
      (.sentTo x.relay.remotePeer x.envelope.payload :: (awaitReply v6 x.turn x.relay).1,
        (awaitReply v6 x.turn x.relay).2) := by
    simp only [relayBinary, hdecode, x.own, ne_eq, not_true_eq_false, if_false, hsends]
  have hframe : x.turn.frame = .ok (.binary x.bytes) := rfl
  simp only [datagramTurn, hframe, handleMessage, hbinary]

/-- the peer comes first, or nobody: the exchange is served -/
theorem turn_of_peerFirst (hv6 : v6.Lawful) (h : x.PeerFirst) :
    datagramTurn v6 associationId .running x.turn = (x.served, .running) := by
  rw [x.turn_eq]
  cases hwindow : x.window with
  | nil =>
    have harrival : x.turn.arrival = none := by simp [Exchange.turn, hwindow]
    have hreply : x.peerReply = none := by simp [Exchange.peerReply, hwindow]
    simp only [awaitReply, harrival, Exchange.served, hreply]
    rfl
  | cons packet later =>
    have hpeer : packet.source = x.relay.remotePeer := h packet (by simp [hwindow])
    have harrival : x.turn.arrival = some (.ok packet) := by simp [Exchange.turn, hwindow]
    have hreply : x.peerReply = some packet := by simp [Exchange.peerReply, hwindow, hpeer]
    obtain ⟨htarget, -, -⟩ := decodeDatagram_eq_ok x.decodes
    obtain ⟨frame, hframe⟩ := encodeDatagram_of_framable hv6
      (show DatagramTarget.Framable { x.envelope with payload := packet.bytes }.target from htarget)
    have hmessage : datagramMessage v6 { x.envelope with payload := packet.bytes } = .ok (.binary frame) := by
      rw [datagramMessage, hframe]; rfl
    have hinbound := relayInboundDatagram_of_peer x.sends hpeer
    have hsend : x.turn.sendReply = .ok () := rfl
    have hreplied : x.served = [.read (.binary x.bytes), .sentTo x.relay.remotePeer x.envelope.payload,
        .emitted (.binary frame)] := by
      simp only [Exchange.served, hreply, Option.toList_some, List.flatMap_singleton, Exchange.replyEvents, hmessage]
      rfl
    simp only [awaitReply, harrival, receiveServerDatagramReply, hinbound, Except.mapError, emitServerDatagramReply,
      hmessage, hsend, hreplied]

/-- somebody else comes first: the loop ends -/
theorem turn_of_foreignFirst (h : ¬x.PeerFirst) :
    ∃ err, (datagramTurn v6 associationId .running x.turn).2 = .ended (.error err) := by
  rw [x.turn_eq]
  obtain ⟨packet, hpacket, hforeign⟩ : ∃ packet ∈ x.window.head?, packet.source ≠ x.relay.remotePeer := by
    by_contra hnone
    exact h fun packet hpacket => by_contra fun hforeign => hnone ⟨packet, hpacket, hforeign⟩
  have harrival : x.turn.arrival = some (.ok packet) := by
    rw [Exchange.turn, Option.mem_def.1 hpacket]; rfl
  refine ⟨.datagramPathFailed ((UdpRelayError.unexpectedSource x.relay.remotePeer packet.source).text v6), ?_⟩
  simp only [awaitReply, harrival, receiveServerDatagramReply, relayInboundDatagram, if_pos hforeign, Except.mapError]

end

/-! ## A connection -/

theorem statusOf_ended (v6 : Ipv6Text) (associationId : DatagramAssociationId) (result : Except WssError Unit)
    (turns : List DatagramTurn) : statusOf v6 associationId (.ended result) turns = .ended result := by
  induction turns with
  | nil => rfl
  | cons turn turns ih => exact ih

/-- **Foreign packets disturb exactly when they come first.** -/
theorem served_iff_peerFirst (v6 : Ipv6Text) (hv6 : v6.Lawful) (associationId : DatagramAssociationId)
    (exchanges : List (Exchange v6 associationId)) :
    Served v6 associationId exchanges ↔ ∀ x ∈ exchanges, x.PeerFirst := by
  unfold Served
  induction exchanges with
  | nil => simp [loopEvents, statusOf]
  | cons x exchanges ih =>
    rw [List.forall_mem_cons]
    by_cases hfirst : x.PeerFirst
    · rw [List.map_cons, loopEvents, statusOf, turn_of_peerFirst x hv6 hfirst, List.flatMap_cons, ← ih]
      simp only [List.append_cancel_left_eq, hfirst, true_and]
    · obtain ⟨err, hended⟩ := turn_of_foreignFirst x hfirst
      constructor
      · rintro ⟨-, hstatus⟩
        rw [List.map_cons, statusOf, hended, statusOf_ended] at hstatus
        cases hstatus
      · rintro ⟨hpeer, -⟩
        exact absurd hpeer hfirst

/-- a DNS query; its relay socket receives a packet of somebody else, then the answer -/
def disturbedQuery : Exchange Ipv6.std 7 where
  bytes := [1, 0, 0, 0, 0, 0, 0, 0, 7, 1, 8, 8, 8, 8, 0, 53, 0, 9] ++ Utf8.encode "127.0.0.1".toList ++
    [0xC3, 0x50, 0, 0, 0, 1, 0xCA]
  envelope := ⟨7, .v4 ⟨127, 0, 0, 1⟩ 50000, .ip (.v4 ⟨8, 8, 8, 8⟩ 53), [0xCA]⟩
  decodes := by decide +kernel
  own := rfl
  env := ⟨fun _ _ => .ok [], .ok (.v4 ⟨0, 0, 0, 0⟩ 40000), .ok ()⟩
  relay := ⟨7, .v4 ⟨0, 0, 0, 0⟩ 40000, .v4 ⟨127, 0, 0, 1⟩ 50000, .v4 ⟨8, 8, 8, 8⟩ 53, .ip (.v4 ⟨8, 8, 8, 8⟩ 53), 1⟩
  sends := rfl
  arrivals := [⟨[0], .v4 ⟨6, 6, 6, 6⟩ 666, by decide⟩, ⟨[0xBE, 0xEF], .v4 ⟨8, 8, 8, 8⟩ 53, by decide⟩]
  inWindow := 2

/-- the same query when only the answer arrives -/
def answeredQuery : Exchange Ipv6.std 7 :=
  { disturbedQuery with arrivals := [⟨[0xBE, 0xEF], .v4 ⟨8, 8, 8, 8⟩ 53, by decide⟩] }

/-- **One foreign packet ends the loop.** The answer is there before the timeout and is not sent back, and the next query
is not read. -/
theorem foreign_packet_ends_loop :
    disturbedQuery.peerReply = some ⟨[0xBE, 0xEF], .v4 ⟨8, 8, 8, 8⟩ 53, by decide⟩ ∧
      loopEvents Ipv6.std 7 .running [disturbedQuery.turn, answeredQuery.turn] =
        [.read (.binary disturbedQuery.bytes), .sentTo (.v4 ⟨8, 8, 8, 8⟩ 53) [0xCA]] ∧
      ¬Served Ipv6.std 7 [disturbedQuery, answeredQuery] := by
  have hevents : loopEvents Ipv6.std 7 .running [disturbedQuery.turn, answeredQuery.turn] =
      [.read (.binary disturbedQuery.bytes), .sentTo (.v4 ⟨8, 8, 8, 8⟩ 53) [0xCA]] := by decide +kernel
  refine ⟨by decide, hevents, fun hserved => ?_⟩
  have hall : [disturbedQuery, answeredQuery].flatMap Exchange.served ≠
      [.read (.binary disturbedQuery.bytes), .sentTo (.v4 ⟨8, 8, 8, 8⟩ 53) [0xCA]] := by decide +kernel
  exact hall (hserved.1.symm.trans hevents)

/-- two answered queries are served -/
theorem answered_queries_served : Served Ipv6.std 7 [answeredQuery, answeredQuery] :=
  (served_iff_peerFirst Ipv6.std Ipv6.std_lawful 7 [answeredQuery, answeredQuery]).2 (by decide)

end N0wss.Gateway
