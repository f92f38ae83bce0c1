/-
Who gets a reply (`ClientDatagramInboundTarget` in `cli/mod.rs`, as the inbound handler of `emit_datagram`). A path is
opened for one association, and its reply is delivered to the association that the frame names.

The server's loop refuses a frame that names another association than the one its path was opened for. The client looks
the named one up.

- `handleInbound_of_deliverable`, `handleInbound_of_not_deliverable`: what the client does with one envelope.
- `reply_stays_iff`: a reply stays with the association of its path if and only if no frame in the window names another one
  that it can be delivered to.
- `reply_crosses_associations`: a frame on the path of one client is delivered to another client.
-/
import N0wss.Datagram.RoundTrip
import N0wss.Gateway.EmitDatagram

namespace N0wss.Gateway

open Datagram Net Session Socks5

variable {Socket : Type}

/-! ## The handler -/

structure ClientDatagramInboundTarget (Socket : Type) where
  registry : UdpAssociationRegistry
  relaySockets : UdpRelaySocketRegistry Socket

namespace ClientDatagramInboundTarget

/-- `dispatch` with its error's text, and the target after it; `sendTo` is how sending a packet ends -/
def handleInbound (v6 : Ipv6Text) (sendTo : Delivery Socket → Await (Except String Unit))
    (target : ClientDatagramInboundTarget Socket) (envelope : DatagramEnvelope) :
    Timed (Delivery Socket) (Except String Unit) × ClientDatagramInboundTarget Socket :=
  match dispatchInbound target.registry target.relaySockets envelope with
  | .error err => (Timed.now (.error (err.text v6)), target)
  | .ok delivery =>
    ((Timed.emit delivery).bind fun () => (Timed.await (sendTo delivery)).map fun result =>
      result.mapError fun detail => "failed to deliver inbound relay packet: " ++ detail, target)

/-- the association that the envelope names is open for the envelope's client, and its relay socket is registered -/
def Deliverable (target : ClientDatagramInboundTarget Socket) (envelope : DatagramEnvelope) : Prop :=
  ∃ record socket, target.registry.get envelope.associationId = some record ∧
    record.expectedClientAddr = envelope.relayClientAddr ∧
    target.relaySockets.socketFor record.relayAddr = some socket

/-- the packet goes out on the association's relay socket to its client -/
def DeliversFor (target : ClientDatagramInboundTarget Socket) (associationId : DatagramAssociationId)
    (delivery : Delivery Socket) : Prop :=
  ∃ record, target.registry.get associationId = some record ∧
    target.relaySockets.socketFor record.relayAddr = some delivery.socket ∧
    delivery.destination = record.expectedClientAddr

end ClientDatagramInboundTarget

open ClientDatagramInboundTarget

/-! ## One envelope -/

section
variable {v6 : Ipv6Text} {sendTo : Delivery Socket → Await (Except String Unit)}
  {target : ClientDatagramInboundTarget Socket} {envelope : DatagramEnvelope} {delivery : Delivery Socket}

theorem dispatchInbound_of_deliverable (htarget : envelope.target.Framable) (h : target.Deliverable envelope) :
    ∃ delivery, dispatchInbound target.registry target.relaySockets envelope = .ok delivery := by
  obtain ⟨record, socket, hget, hclient, hsocket⟩ := h
  obtain ⟨address, haddress⟩ := addressBytes_of_framable htarget
  exact ⟨_, dispatchInbound_of_association hget ⟨rfl, hclient⟩ hsocket haddress⟩

/-- a packet is passed to `send_to` for the association that the envelope names -/
theorem dispatchInbound_eq_ok (h : dispatchInbound target.registry target.relaySockets envelope = .ok delivery) :
    target.Deliverable envelope ∧ target.DeliversFor envelope.associationId delivery := by
  unfold dispatchInbound at h
  cases hget : target.registry.get envelope.associationId with
  | none => rw [hget] at h; cases h
  | some record =>
    simp only [hget] at h
    split_ifs at h with hclient
    cases hsocket : target.relaySockets.socketFor record.relayAddr with
    | none => rw [hsocket] at h; cases h
    | some socket =>
      rw [hsocket] at h
      simp only at h
      cases hpacket : encodeUdpDatagram envelope with
      | error err => rw [hpacket] at h; cases h
      | ok packet =>
        rw [hpacket] at h
        cases h
        exact ⟨⟨record, socket, hget, not_not.1 hclient, hsocket⟩, ⟨record, hget, hsocket, rfl⟩⟩

/-- **Delivered.** One packet is passed to `send_to`, for the association that the envelope names. -/
theorem handleInbound_of_deliverable (htarget : envelope.target.Framable) (h : target.Deliverable envelope) :
    ∃ delivery, target.DeliversFor envelope.associationId delivery ∧
      (handleInbound v6 sendTo target envelope).1.events = [(0, delivery)] := by
  obtain ⟨delivery, hdispatch⟩ := dispatchInbound_of_deliverable htarget h
  refine ⟨delivery, (dispatchInbound_eq_ok hdispatch).2, ?_⟩
  rw [handleInbound, hdispatch]
  rfl

/-- **Refused.** Nothing is sent, and the handler reports an error. -/
theorem handleInbound_of_not_deliverable (h : ¬target.Deliverable envelope) :
    ∃ err, (handleInbound v6 sendTo target envelope).1 = Timed.now (.error err) := by
  cases hdispatch : dispatchInbound target.registry target.relaySockets envelope with
  | error err => exact ⟨err.text v6, by rw [handleInbound, hdispatch]⟩
  | ok delivery => exact absurd (dispatchInbound_eq_ok hdispatch).1 h

theorem mem_events_handleInbound {n : ℕ} (h : (n, delivery) ∈ (handleInbound v6 sendTo target envelope).1.events) :
    target.DeliversFor envelope.associationId delivery := by
  rw [handleInbound] at h
  cases hdispatch : dispatchInbound target.registry target.relaySockets envelope with
  | error err => rw [hdispatch] at h; cases h
  | ok sent =>
    rw [hdispatch] at h
    obtain hmem | ⟨_, _, _, -, hmem, -⟩ := Timed.mem_events_bind.1 h
    · obtain ⟨-, rfl⟩ := Prod.mk.inj (List.mem_singleton.1 hmem)
      exact (dispatchInbound_eq_ok hdispatch).2
    · cases hmem

/-- the registry is only read -/
theorem handleInbound_target : (handleInbound v6 sendTo target envelope).2 = target := by
  unfold handleInbound
  split <;> rfl

end

/-! ## One emission -/

/-- the handler that is installed -/
def inboundHandler (v6 : Ipv6Text) (sendTo : Delivery Socket → Await (Except String Unit))
    (target : ClientDatagramInboundTarget Socket) : InboundHandler Socket :=
  fun envelope => (handleInbound v6 sendTo target envelope).1

/-- what comes back on the path of an envelope stays with the association of the path -/
structure ReplyStays (v6 : Ipv6Text) (debug : Message → String) (token : String)
    (sendTo : Delivery Socket → Await (Except String Unit)) (target : ClientDatagramInboundTarget Socket) (w : Wire)
    (envelope : DatagramEnvelope) : Prop where
  /-- a packet goes out on its relay socket, to its client -/
  own : ∀ n delivery,
    (n, .sentTo delivery) ∈ (emitDatagram v6 debug token (some (inboundHandler v6 sendTo target)) w envelope).events →
    target.DeliversFor envelope.associationId delivery
  /-- no record changes -/
  records : ∀ inbound, (handleInbound v6 sendTo target inbound).2.registry = target.registry
  /-- a frame that names another association is rejected: nothing is sent, and the emission does not succeed -/
  rejected : ∀ n inbound,
    (n, .handed inbound) ∈ (emitDatagram v6 debug token (some (inboundHandler v6 sendTo target)) w envelope).events →
    inbound.associationId ≠ envelope.associationId →
    (∀ m delivery, (m, .sentTo delivery) ∉
        (emitDatagram v6 debug token (some (inboundHandler v6 sendTo target)) w envelope).events) ∧
      ∀ m, (emitDatagram v6 debug token (some (inboundHandler v6 sendTo target)) w envelope).result ≠ some (m, .ok ())

section
variable {v6 : Ipv6Text} {debug : Message → String} {token : String}
  {sendTo : Delivery Socket → Await (Except String Unit)} {target : ClientDatagramInboundTarget Socket} {w : Wire}
  {envelope : DatagramEnvelope}

/-- an emission receives one frame at most -/
theorem receives_unique {handle : InboundHandler Socket} {n n' : ℕ} {bytes bytes' : List UInt8}
    {inbound inbound' : DatagramEnvelope} (h : Receives v6 debug token handle w envelope n bytes inbound)
    (h' : Receives v6 debug token handle w envelope n' bytes' inbound') : inbound = inbound' := by
  obtain ⟨_, _, -, ⟨hreply, -, hdecode⟩, -⟩ := h
  obtain ⟨_, _, -, ⟨hreply', -, hdecode'⟩, -⟩ := h'
  rw [hreply] at hreply'
  cases hreply'
  exact Except.ok.inj (hdecode.symm.trans hdecode')

/-- a frame that cannot be delivered is rejected -/
theorem rejected_of_not_deliverable {n : ℕ} {bytes : List UInt8} {inbound : DatagramEnvelope}
    (hreceives : Receives v6 debug token (inboundHandler v6 sendTo target) w envelope n bytes inbound)
    (hnot : ¬target.Deliverable inbound) :
    (∀ m delivery, (m, .sentTo delivery) ∉
        (emitDatagram v6 debug token (some (inboundHandler v6 sendTo target)) w envelope).events) ∧
      ∀ m, (emitDatagram v6 debug token (some (inboundHandler v6 sendTo target)) w envelope).result ≠
        some (m, .ok ()) := by
  obtain ⟨err, hrefused⟩ := handleInbound_of_not_deliverable hnot
  have hhandler : inboundHandler v6 sendTo target inbound = Timed.now (.error err) := hrefused
  constructor
  · intro m delivery hmem
    obtain ⟨_, _, _, inbound', hreceives', hsent, -⟩ := sentTo_iff.1 hmem
    rw [← receives_unique hreceives hreceives', hhandler] at hsent
    cases hsent
  · intro m hdone
    obtain ⟨s, d, c, hsent, hharmless, -, -⟩ := emitDatagram_eq_ok.1 hdone
    obtain ⟨_, _, -, ⟨hreply, hle, hdecode⟩, -⟩ := hreceives
    cases hharmless with
    | silent _ hlate => exact absurd (hlate _ _ hreply) (not_lt.2 hle)
    | ended _ _ hend _ => rw [hreply] at hend; cases hend
    | accepted _ _ _ _ inbound' hreply' haccepted =>
      obtain ⟨hframe, -, hdecode'⟩ := hreply'
      rw [hreply] at hframe
      cases hframe
      obtain rfl : inbound = inbound' := Except.ok.inj (hdecode.symm.trans hdecode')
      rw [hhandler] at haccepted
      cases haccepted

end

/-- **Whose reply it is.** For every registry, all relay sockets and every behaviour of the server: what comes back stays
with the association of the path, exactly when no frame that comes in the window names another association that it can be
delivered to. -/
theorem reply_stays_iff (v6 : Ipv6Text) (debug : Message → String) (token : String)
    (sendTo : Delivery Socket → Await (Except String Unit)) (target : ClientDatagramInboundTarget Socket) (w : Wire)
    (envelope : DatagramEnvelope) :
    ReplyStays v6 debug token sendTo target w envelope ↔
      ∀ n bytes inbound, Receives v6 debug token (inboundHandler v6 sendTo target) w envelope n bytes inbound →
        inbound.associationId = envelope.associationId ∨ ¬target.Deliverable inbound := by
  constructor
  · intro hstays n bytes inbound hreceives
    by_contra hcross
    obtain ⟨hother, hdeliverable⟩ := not_or.1 hcross
    have htarget : inbound.target.Framable := by
      obtain ⟨_, _, -, ⟨-, -, hdecode⟩, -⟩ := hreceives
      exact (decodeDatagram_eq_ok hdecode).1
    obtain ⟨delivery, -, hevents⟩ := handleInbound_of_deliverable htarget (not_not.1 hdeliverable)
    have hsent : (0, delivery) ∈ (inboundHandler v6 sendTo target inbound).events := by
      rw [inboundHandler, hevents]
      exact List.mem_singleton_self _
    exact (hstays.rejected n inbound (handed_iff.2 ⟨bytes, hreceives⟩) hother).1 (n + 0) delivery
      (sentTo_iff.2 ⟨n, 0, bytes, inbound, hreceives, hsent, rfl⟩)
  · intro hnames
    refine ⟨?_, fun inbound => congrArg _ handleInbound_target, ?_⟩
    · intro n delivery hmem
      obtain ⟨t, m, bytes, inbound, hreceives, hsent, -⟩ := sentTo_iff.1 hmem
      obtain hown | hnot := hnames t bytes inbound hreceives
      · rw [← hown]
        exact mem_events_handleInbound hsent
      · exact absurd hmem ((rejected_of_not_deliverable hreceives hnot).1 n delivery)
    · intro n inbound hmem hother
      obtain ⟨bytes, hreceives⟩ := handed_iff.1 hmem
      obtain hown | hnot := hnames n bytes inbound hreceives
      · exact absurd hown hother
      · exact rejected_of_not_deliverable hreceives hnot

/-! ## Two clients -/

/-- two associations, 1 and 2, of two clients with a relay socket each -/
def twoClients : ClientDatagramInboundTarget ℕ where
  registry :=
    (UdpAssociationRegistry.openAssociation
      (UdpAssociationRegistry.openAssociation (SlotStore.new 4) (.v4 ⟨127, 0, 0, 1⟩ 1081) (.v4 ⟨127, 0, 0, 1⟩ 50000) 0).2
      (.v4 ⟨127, 0, 0, 1⟩ 1082) (.v4 ⟨10, 0, 0, 2⟩ 6000) 0).2
  relaySockets := (UdpRelaySocketRegistry.register ∅ (.v4 ⟨127, 0, 0, 1⟩ 1081) 3).register (.v4 ⟨127, 0, 0, 1⟩ 1082) 4

/-- a frame for an association of the client 10.0.0.2:6000, from 8.8.8.8:53 -/
def frameFor (associationId : UInt8) : List UInt8 :=
  [1, 0, 0, 0, 0, 0, 0, 0, associationId, 1, 8, 8, 8, 8, 0, 53, 0, 8] ++ Utf8.encode "10.0.0.2".toList ++
    [0x17, 0x70, 0, 0, 0, 1, 0xBE]

/-- the server answers with this frame -/
def answeredWith (frame : List UInt8) : Wire := quickWire (some (1000000, some (.ok (.binary frame))))

/-- every packet is sent at once -/
def sendsAtOnce (_ : Delivery ℕ) : Await (Except String Unit) := some (0, .ok ())

/-- **A reply to another client.** On the path of association 1, a frame that names association 2 goes out on the relay
socket of 2, to the client of 2, and the emission succeeds. -/
theorem reply_crosses_associations :
    let run := emitDatagram Ipv6.std (fun _ => "") "token" (some (inboundHandler Ipv6.std sendsAtOnce twoClients))
      (answeredWith (frameFor 2)) dnsQuery
    dnsQuery.associationId = 1 ∧
      (9000000, .sentTo ⟨4, .v4 ⟨10, 0, 0, 2⟩ 6000, [0, 0, 0, 1, 8, 8, 8, 8, 0, 53, 0xBE]⟩) ∈ run.events ∧
      run.result = some (10000000, .ok ()) ∧
      ¬ReplyStays Ipv6.std (fun _ => "") "token" sendsAtOnce twoClients (answeredWith (frameFor 2)) dnsQuery := by
  intro run
  have hsent : (9000000, .sentTo ⟨4, .v4 ⟨10, 0, 0, 2⟩ 6000, [0, 0, 0, 1, 8, 8, 8, 8, 0, 53, 0xBE]⟩) ∈ run.events := by
    decide +kernel
  refine ⟨rfl, hsent, by decide +kernel, fun hstays => ?_⟩
  obtain ⟨record, hget, -, hdestination⟩ := hstays.own 9000000 _ hsent
  have hclient : twoClients.registry.get dnsQuery.associationId =
      some ⟨.v4 ⟨127, 0, 0, 1⟩ 1081, .v4 ⟨127, 0, 0, 1⟩ 50000, 0⟩ := by
    decide
  rw [hclient, Option.some.injEq] at hget
  subst hget
  exact absurd hdestination (by decide)

end N0wss.Gateway
