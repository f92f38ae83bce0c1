/-
The datagram contract on what comes off the websocket (`DatagramEnvelope::validate` in `transport/datagram_contract.rs`).
Packets of a client are checked when they are parsed, and envelopes when they are accepted for sending. The two readers of
frames, the server's loop and the client's wait for a reply, pass on what they have decoded.

- `validate_iff_withinContract`: a decoded frame's envelope is valid exactly when two of its fields are as they should be.
- `passedOn_iff`, `relayBinary_of_own`, `relayBinary_of_not_own`: what one turn of the loop passes to
  `relay_outbound_datagram`, and that the turn calls it with that alone.
- `wire_envelopes_valid_iff`: over runs, both readers pass on valid envelopes only if and only if no frame they pass on
  has an empty domain or a payload past the limit; the two checked ways in always do.
- `empty_domain_is_relayed`: a frame with an empty domain goes to name resolution on the server, and to a relay socket on
  the client.
-/
import N0wss.Core.Machine
import N0wss.Datagram.Cursor
import N0wss.Gateway.DatagramLoop
import N0wss.Gateway.ReplyOwner

namespace N0wss.Gateway

open Bridge Datagram Machine Net Session Socks5

variable {v6 : Ipv6Text} {Socket : Type}

/-! ## Frames -/

/-- a domain that the frame holds is not empty, and the payload it declares is not past the limit -/
def WithinContract (frame : List UInt8) : Prop :=
  (frame.getD 9 0 = 0x03 → frame.getD 10 0 ≠ 0) ∧ declaredPayloadLen frame ≤ maxDatagramPayloadBytes

instance (frame : List UInt8) : Decidable (WithinContract frame) := inferInstanceAs (Decidable (_ ∧ _))

/-- the length byte of a domain that was written is zero only for the empty one -/
theorem domain_empty_iff {ε : Type} {unsupported tooLong : ε} {name : String} {port : UInt16} {kind : UInt8}
    {body : List UInt8} (h : DatagramTarget.write unsupported tooLong (.domain name port) = .ok (kind :: body)) :
    kind = 0x03 ∧ ∃ len tail, body = len :: tail ∧ (name.toList = [] ↔ len = 0) := by
  have hshort : (Utf8.encode name.toList).length ≤ 255 := framable_of_write h
  simp only [DatagramTarget.write, if_neg (not_lt.2 hshort), Except.ok.injEq, List.cons.injEq] at h
  obtain ⟨rfl, rfl⟩ := h
  refine ⟨rfl, _, _, rfl, ?_⟩
  constructor
  · intro hempty
    rw [hempty]
    rfl
  · intro hzero
    have hlen : (Utf8.encode name.toList).length = 0 := by
      have hnat := congrArg UInt8.toNat hzero
      rwa [UInt8.toNat_ofNat_of_lt' (Nat.lt_succ_of_le hshort)] at hnat
    exact Utf8.encode_injective (List.eq_nil_of_length_eq_zero hlen)

/-- a decoded frame names an empty domain exactly when it says that the domain's length is zero -/
theorem domain_iff {frame : List UInt8} {envelope : DatagramEnvelope} (h : decodeDatagram v6 frame = .ok envelope) :
    (∀ name port, envelope.target = .domain name port → name.toList ≠ []) ↔
      (frame.getD 9 0 = 0x03 → frame.getD 10 0 ≠ 0) := by
  obtain ⟨rest, htarget, -⟩ := decodeDatagram_reads h
  obtain ⟨body, hbody, haddress⟩ := write_of_read htarget
  have hwrite := haddress WssDatagramError .invalidFrame .invalidFrame
  generalize envelope.target = target at hwrite ⊢
  cases target with
  | ip addr =>
    have hkind : frame.getD 9 0 ≠ 0x03 := by
      intro hkind
      rw [hkind] at hwrite
      cases addr <;> cases hwrite
    constructor
    · intro _ hdomain
      exact absurd hdomain hkind
    · intro _ name port hdomain
      cases hdomain
  | domain name port =>
    obtain ⟨hkind, len, tail, rfl, hempty⟩ := domain_empty_iff hwrite
    have hlen : frame.getD 10 0 = len := by
      rw [← Nat.add_zero 10, ← getD_drop, hbody]
      rfl
    rw [hlen]
    constructor
    · intro hname _ hzero
      exact hname name port rfl (hempty.2 hzero)
    · rintro hnonzero _ _ ⟨⟩ hname
      exact hnonzero hkind (hempty.1 hname)

/-- **What a frame must hold.** -/
theorem validate_iff_withinContract {frame : List UInt8} {envelope : DatagramEnvelope}
    (h : decodeDatagram v6 frame = .ok envelope) : envelope.validate = .ok () ↔ WithinContract frame := by
  rw [validate_eq_ok_iff, domain_iff h, decodeDatagram_length h, WithinContract]

/-! ## The server's loop -/

/-- the envelope of a frame of the association -/
def ownEnvelope (v6 : Ipv6Text) (associationId : DatagramAssociationId) (bytes : List UInt8) : Option DatagramEnvelope :=
  match decodeDatagram v6 bytes with
  | .error _ => none
  | .ok envelope => if envelope.associationId = associationId then some envelope else none

/-- what a turn passes to `relay_outbound_datagram` -/
def passedOn (v6 : Ipv6Text) (associationId : DatagramAssociationId) (status : DatagramLoopStatus) (turn : DatagramTurn) :
    Option DatagramEnvelope :=
  match status, turn.frame with
  | .running, .ok (.binary bytes) => ownEnvelope v6 associationId bytes
  | _, _ => none

/-- everything a run passes to it -/
def relayedEnvelopes (v6 : Ipv6Text) (associationId : DatagramAssociationId) :
    DatagramLoopStatus → List DatagramTurn → List DatagramEnvelope
  | _, [] => []
  | status, turn :: turns =>
    (passedOn v6 associationId status turn).toList ++
      relayedEnvelopes v6 associationId (datagramTurn v6 associationId status turn).2 turns

variable {associationId : DatagramAssociationId} {status : DatagramLoopStatus} {turn : DatagramTurn}

theorem ownEnvelope_eq_some {bytes : List UInt8} {envelope : DatagramEnvelope} :
    ownEnvelope v6 associationId bytes = some envelope ↔
      decodeDatagram v6 bytes = .ok envelope ∧ envelope.associationId = associationId := by
  unfold ownEnvelope
  cases decodeDatagram v6 bytes with
  | error err => simp
  | ok decoded =>
    simp only [Option.ite_none_right_eq_some, Option.some.injEq, Except.ok.injEq]
    constructor
    · rintro ⟨hid, rfl⟩
      exact ⟨rfl, hid⟩
    · rintro ⟨rfl, hid⟩
      exact ⟨hid, rfl⟩

theorem passedOn_iff {envelope : DatagramEnvelope} : passedOn v6 associationId status turn = some envelope ↔
    status = .running ∧ ∃ bytes, turn.frame = .ok (.binary bytes) ∧ decodeDatagram v6 bytes = .ok envelope ∧
      envelope.associationId = associationId := by
  unfold passedOn
  split
  · rename_i bytes hframe
    rw [ownEnvelope_eq_some, hframe]
    simp
  · rename_i hnot
    constructor
    · intro h
      cases h
    · rintro ⟨rfl, bytes, hframe, -⟩
      exact absurd hframe (hnot bytes rfl)

/-- what is passed on is what the turn calls `relay_outbound_datagram` with -/
theorem relayBinary_of_own {bytes : List UInt8} {envelope : DatagramEnvelope}
    (h : ownEnvelope v6 associationId bytes = some envelope) : relayBinary v6 associationId turn bytes =
      match relayOutboundDatagram turn.env envelope with
      | .error err => ([], .ended (.error (.datagramPathFailed (err.text v6))))
      | .ok relay =>
        (.sentTo relay.remotePeer envelope.payload :: (awaitReply v6 turn relay).1, (awaitReply v6 turn relay).2) := by
  obtain ⟨hdecode, hid⟩ := ownEnvelope_eq_some.1 h
  have hmessage : decodeMessage v6 (.binary bytes) = .ok envelope := hdecode
  rw [relayBinary, hmessage]
  exact if_neg (not_not.2 hid)

/-- and where nothing is, the turn calls it with nothing: how an exchange would go does not matter -/
theorem relayBinary_of_not_own {bytes : List UInt8} (h : ownEnvelope v6 associationId bytes = none) :
    ∃ err, ∀ turn, relayBinary v6 associationId turn bytes = ([], .ended (.error err)) := by
  unfold ownEnvelope at h
  cases hdecode : decodeDatagram v6 bytes with
  | error err =>
    have hmessage : decodeMessage v6 (.binary bytes) = .error err := hdecode
    exact ⟨_, fun turn => by rw [relayBinary, hmessage]⟩
  | ok envelope =>
    rw [hdecode] at h
    have hmessage : decodeMessage v6 (.binary bytes) = .ok envelope := hdecode
    have hid : envelope.associationId ≠ associationId := by
      intro hid
      simp only [if_pos hid] at h
      cases h
    exact ⟨_, fun turn => by rw [relayBinary, hmessage]; simp only [if_pos hid]; rfl⟩

/-- in this turn, a frame of the association is within the contract -/
def FrameWithin (v6 : Ipv6Text) (associationId : DatagramAssociationId) (status : DatagramLoopStatus)
    (turn : DatagramTurn) : Prop :=
  status = .running → ∀ bytes, turn.frame = .ok (.binary bytes) → (ownEnvelope v6 associationId bytes).isSome = true →
    WithinContract bytes

theorem passedOn_valid_iff :
    (∀ envelope ∈ (passedOn v6 associationId status turn).toList, envelope.validate = .ok ()) ↔
      FrameWithin v6 associationId status turn := by
  simp only [Option.mem_toList]
  constructor
  · intro hvalid hrunning bytes hframe hown
    obtain ⟨envelope, henvelope⟩ := Option.isSome_iff_exists.1 hown
    obtain ⟨hdecode, hid⟩ := ownEnvelope_eq_some.1 henvelope
    exact (validate_iff_withinContract hdecode).1
      (hvalid envelope (passedOn_iff.2 ⟨hrunning, bytes, hframe, hdecode, hid⟩))
  · intro hwithin envelope hpassed
    obtain ⟨hrunning, bytes, hframe, hdecode, hid⟩ := passedOn_iff.1 hpassed
    have hown : (ownEnvelope v6 associationId bytes).isSome = true :=
      Option.isSome_iff_exists.2 ⟨envelope, ownEnvelope_eq_some.2 ⟨hdecode, hid⟩⟩
    exact (validate_iff_withinContract hdecode).2 (hwithin hrunning bytes hframe hown)

/-- **A run of the loop** passes on valid envelopes exactly when the frames it passes on are within the contract. -/
theorem relayedEnvelopes_valid_iff (turns : List DatagramTurn) :
    (∀ envelope ∈ relayedEnvelopes v6 associationId status turns, envelope.validate = .ok ()) ↔
      AllSteps (fun status turn => (datagramTurn v6 associationId status turn).2) (FrameWithin v6 associationId) status
        turns := by
  induction turns generalizing status with
  | nil => simp [relayedEnvelopes, AllSteps]
  | cons turn turns ih =>
    rw [relayedEnvelopes, AllSteps, ← ih, ← passedOn_valid_iff]
    simp only [List.mem_append]
    constructor
    · intro hall
      exact ⟨fun envelope hmem => hall envelope (Or.inl hmem), fun envelope hmem => hall envelope (Or.inr hmem)⟩
    · rintro ⟨hnow, hlater⟩ envelope (hmem | hmem)
      · exact hnow envelope hmem
      · exact hlater envelope hmem

/-! ## The client's wait -/

/-- **A reply** is valid exactly when its frame is within the contract. -/
theorem handed_valid_iff (debug : Message → String) (token : String) (handle : InboundHandler Socket) (w : Wire)
    (envelope : DatagramEnvelope) :
    (∀ n inbound, (n, .handed inbound) ∈ (emitDatagram v6 debug token (some handle) w envelope).events →
        inbound.validate = .ok ()) ↔
      ∀ n bytes inbound, Receives v6 debug token handle w envelope n bytes inbound → WithinContract bytes := by
  constructor
  · intro hvalid n bytes inbound hreceives
    obtain ⟨_, _, -, ⟨-, -, hdecode⟩, -⟩ := id hreceives
    exact (validate_iff_withinContract hdecode).1 (hvalid n inbound (handed_iff.2 ⟨bytes, hreceives⟩))
  · intro hwithin n inbound hmem
    obtain ⟨bytes, hreceives⟩ := handed_iff.1 hmem
    obtain ⟨_, _, -, ⟨-, -, hdecode⟩, -⟩ := id hreceives
    exact (validate_iff_withinContract hdecode).2 (hwithin n bytes inbound hreceives)

/-! ## Main result -/

/-- **What comes off the wire is valid exactly when the frames say so.** For every sequence of messages on a connection of
the server, and every reply on a path of the client: what is passed on is valid if and only if no frame that is passed on
has an empty domain or declares a payload past the limit. What the two other ways in accept is valid always. -/
theorem wire_envelopes_valid_iff (v6 : Ipv6Text) :
    (∀ (associationId : DatagramAssociationId) (turns : List DatagramTurn),
      (∀ envelope ∈ relayedEnvelopes v6 associationId .running turns, envelope.validate = .ok ()) ↔
        AllSteps (fun status turn => (datagramTurn v6 associationId status turn).2) (FrameWithin v6 associationId) .running
          turns) ∧
    (∀ (debug : Message → String) (token : String) (handle : InboundHandler Socket) (w : Wire)
        (envelope : DatagramEnvelope),
      (∀ n inbound, (n, .handed inbound) ∈ (emitDatagram v6 debug token (some handle) w envelope).events →
          inbound.validate = .ok ()) ↔
        ∀ n bytes inbound, Receives v6 debug token handle w envelope n bytes inbound → WithinContract bytes) ∧
    (∀ source expectedSource packet associationId envelope,
      parseUdpDatagram source expectedSource packet associationId = .ok envelope → envelope.validate = .ok ()) ∧
    ∀ reg reg' relayAddr expectedClientAddr target payload now envelope,
      outboundEnvelope reg relayAddr expectedClientAddr target payload now = (.ok envelope, reg') →
        envelope.validate = .ok () := by
  refine ⟨fun associationId turns => relayedEnvelopes_valid_iff turns, handed_valid_iff, ?_, ?_⟩
  · intro source expectedSource packet associationId envelope hparse
    obtain ⟨address, haccepted⟩ := parseUdpDatagram_eq_ok hparse
    exact haccepted.valid
  · intro reg reg' relayAddr client target payload now envelope hsend
    unfold outboundEnvelope at hsend
    split at hsend
    · cases hsend
    · simp only at hsend
      split at hsend
      · cases hsend
      · rename_i hvalid
        cases hsend
        exact hvalid

/-- association 1, the empty domain, port 53, client 127.0.0.1:50000, one byte of payload -/
def emptyDomainFrame : List UInt8 :=
  [1, 0, 0, 0, 0, 0, 0, 0, 1, 3, 0, 0, 53, 0, 9] ++ Utf8.encode "127.0.0.1".toList ++ [0xC3, 0x50, 0, 0, 0, 1, 0xCA]

/-- the envelope in it -/
def emptyDomainEnvelope : DatagramEnvelope := ⟨1, .v4 ⟨127, 0, 0, 1⟩ 50000, .domain "" 53, [0xCA]⟩

/-- the frame arrives, and the empty name resolves -/
def emptyDomainTurn : DatagramTurn :=
  ⟨.ok (.binary emptyDomainFrame), ⟨fun _ _ => .ok [.v4 ⟨127, 0, 0, 1⟩ 53], .ok (.v4 ⟨0, 0, 0, 0⟩ 40000), .ok ()⟩, none,
    .ok ()⟩

/-- **An empty domain is passed on.** The server sends its payload to whatever the empty name resolves to, and the client
hands it to the inbound handler, which sends it to its client. -/
theorem empty_domain_is_relayed :
    emptyDomainEnvelope.validate = .error .emptyDomainTarget ∧
      emptyDomainEnvelope ∈ relayedEnvelopes Ipv6.std 1 .running [emptyDomainTurn] ∧
      .sentTo (.v4 ⟨127, 0, 0, 1⟩ 53) [0xCA] ∈ loopEvents Ipv6.std 1 .running [emptyDomainTurn] ∧
      (9000000, .handed emptyDomainEnvelope) ∈ (emitDatagram Ipv6.std (fun _ => "") "token"
        (some (inboundHandler Ipv6.std sendsAtOnce twoClients)) (answeredWith emptyDomainFrame) dnsQuery).events ∧
      (9000000, .sentTo ⟨3, .v4 ⟨127, 0, 0, 1⟩ 50000, [0, 0, 0, 3, 0, 0, 53, 0xCA]⟩) ∈
        (emitDatagram Ipv6.std (fun _ => "") "token" (some (inboundHandler Ipv6.std sendsAtOnce twoClients))
          (answeredWith emptyDomainFrame) dnsQuery).events ∧
      ¬∀ envelope ∈ relayedEnvelopes Ipv6.std 1 .running [emptyDomainTurn], envelope.validate = .ok () := by
  have hinvalid : emptyDomainEnvelope.validate = .error .emptyDomainTarget := by decide
  have hrelayed : emptyDomainEnvelope ∈ relayedEnvelopes Ipv6.std 1 .running [emptyDomainTurn] := by decide +kernel
  refine ⟨hinvalid, hrelayed, by decide +kernel, by decide +kernel, by decide +kernel, fun hvalid => ?_⟩
  have hok := hvalid _ hrelayed
  rw [hinvalid] at hok
  cases hok

end N0wss.Gateway
