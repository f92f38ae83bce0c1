/-
Datagrams over the websocket (`wss_gateway/mod.rs`) and their way back to the client (`ClientDatagramInboundTarget` in
`cli/mod.rs`): what the server does with one binary message of a datagram connection, and what the client does with the
message that answers it.

- `serverDatagramReply_of_peer`: a datagram that its association sent and its peer answered is answered by a frame.
- `dispatchInbound_of_association`: a reply that belongs to an open association with a relay socket is handed to that
  socket, for that association's client.
-/
import N0wss.Bridge.UdpRelay
import N0wss.Datagram.Frame
import N0wss.Gateway.Requests
import N0wss.Session.DatagramManager

namespace N0wss.Gateway

open Bridge Datagram Net Session Socks5

/-! ## Frames as messages -/

/-- `WssDatagramError`'s `Display` -/
def datagramErrorText : WssDatagramError → String
  | .invalidVersion version => "invalid datagram frame version: " ++ toString version
  | .unsupportedTargetKind kind => "unsupported datagram target kind: " ++ toString kind
  | .invalidFrame => "invalid datagram frame"
  | .nonBinaryFrame => "non-binary websocket message is not a datagram frame"
  | .sendFailed detail => "datagram send failed: " ++ detail

def decodeMessage (v6 : Ipv6Text) : Message → Except WssDatagramError DatagramEnvelope
  | .binary bytes => decodeDatagram v6 bytes
  | _ => .error .nonBinaryFrame

/-- the message of `send_datagram` -/
def datagramMessage (v6 : Ipv6Text) (envelope : DatagramEnvelope) : Except WssDatagramError Message :=
  (encodeDatagram v6 envelope).map .binary

/-! ## The server -/

/-- one message of `server_datagram_loop` that holds a datagram; `arrival` is what comes in on the relay socket before
`DATAGRAM_RETURN_TIMEOUT` -/
def serverDatagramReply (v6 : Ipv6Text) (env : UdpRelayEnv) (associationId : DatagramAssociationId) (message : Message)
    (arrival : Option (Except String Received)) : Except WssError (Option Message) := do
  let envelope ← (decodeMessage v6 message).mapError fun err => .datagramPathFailed (datagramErrorText err)
  if envelope.associationId ≠ associationId then
    .error (.datagramPathFailed ("association mismatch: expected " ++ toString associationId ++ ", got " ++
      toString envelope.associationId))
  else do
    let relay ← (relayOutboundDatagram env envelope).mapError fun err => .datagramPathFailed (err.text v6)
    match arrival with
    | none => .ok none
    | some received => do
      let inbound ← (relayInboundDatagram relay received).mapError fun err => .datagramPathFailed (err.text v6)
      let reply ← (datagramMessage v6 inbound).mapError fun err => .datagramPathFailed (datagramErrorText err)
      .ok (some reply)

/-! ## The client -/

inductive ClientDatagramInboundTargetError where
  | associationNotFound (associationId : DatagramAssociationId)
  | relayClientMismatch (associationId : DatagramAssociationId) (expected actual : SocketAddr)
  | missingRelaySocket (relayAddr : SocketAddr)
  | encode (err : UdpAssociateError)
deriving DecidableEq, Repr

/-- `ClientDatagramInboundTargetError`'s `Display` -/
def ClientDatagramInboundTargetError.text (v6 : Ipv6Text) : ClientDatagramInboundTargetError → String
  | .associationNotFound associationId => "udp association not found: " ++ toString associationId
  | .relayClientMismatch associationId expected actual =>
    "relay-client mismatch for association " ++ toString associationId ++ ": expected " ++
      String.ofList (displaySocketAddr v6 expected) ++ ", got " ++ String.ofList (displaySocketAddr v6 actual)
  | .missingRelaySocket relayAddr =>
    "owning relay socket not found for " ++ String.ofList (displaySocketAddr v6 relayAddr)
  | .encode err => "failed to encode inbound relay packet: " ++ err.text v6

/-- a packet handed to `send_to` -/
structure Delivery (Socket : Type) where
  socket : Socket
  destination : SocketAddr
  packet : List UInt8
deriving DecidableEq

/-- `ClientDatagramInboundTarget::dispatch`, up to `send_to` -/
def dispatchInbound {Socket : Type} (reg : UdpAssociationRegistry) (sockets : UdpRelaySocketRegistry Socket)
    (envelope : DatagramEnvelope) : Except ClientDatagramInboundTargetError (Delivery Socket) :=
  match reg.get envelope.associationId with
  | none => .error (.associationNotFound envelope.associationId)
  | some association =>
    if association.expectedClientAddr ≠ envelope.relayClientAddr then
      .error (.relayClientMismatch envelope.associationId association.expectedClientAddr envelope.relayClientAddr)
    else
      match sockets.socketFor association.relayAddr with
      | none => .error (.missingRelaySocket association.relayAddr)
      | some relaySocket =>
        match encodeUdpDatagram envelope with
        | .error err => .error (.encode err)
        | .ok packet => .ok ⟨relaySocket, association.expectedClientAddr, packet⟩

/-- the message that answers a datagram, in `emit_datagram` with this inbound handler -/
def handleReply (v6 : Ipv6Text) {Socket : Type} (reg : UdpAssociationRegistry) (sockets : UdpRelaySocketRegistry Socket)
    (message : Message) : Except WssError (Delivery Socket) := do
  let inbound ← (decodeMessage v6 message).mapError fun err => .datagramPathFailed (datagramErrorText err)
  (dispatchInbound reg sockets inbound).mapError fun err => .datagramPathFailed (err.text v6)

/-! ## Datagrams that go through -/

/-- a message that is sent holds a frame -/
theorem datagramMessage_eq_ok {v6 : Ipv6Text} {envelope : DatagramEnvelope} {message : Message}
    (h : datagramMessage v6 envelope = .ok message) :
    ∃ frame, encodeDatagram v6 envelope = .ok frame ∧ message = .binary frame := by
  unfold datagramMessage at h
  cases hframe : encodeDatagram v6 envelope with
  | error err => rw [hframe] at h; cases h
  | ok frame =>
    rw [hframe] at h
    cases h
    exact ⟨frame, rfl, rfl⟩

theorem decodeMessage_datagramMessage (v6 : Ipv6Text) {envelope : DatagramEnvelope} {ip : Ipv4Addr} {port : UInt16}
    (hclient : envelope.relayClientAddr = .v4 ip port) (hpayload : envelope.payload.length < 2 ^ 32) {message : Message}
    (h : datagramMessage v6 envelope = .ok message) : decodeMessage v6 message = .ok envelope := by
  obtain ⟨frame, hframe, rfl⟩ := datagramMessage_eq_ok h
  have hip : parseIp v6 (displayIp v6 envelope.relayClientAddr.ip) = some envelope.relayClientAddr.ip := by
    rw [hclient]; exact parse_display v6 ip
  exact decode_encode v6 hip (by rw [hclient]; rfl) hpayload hframe

/-- an envelope with an IPv4 client and a target that can be written has a message -/
theorem exists_datagramMessage (v6 : Ipv6Text) {envelope : DatagramEnvelope} {ip : Ipv4Addr} {port : UInt16}
    {address : List UInt8} (hclient : envelope.relayClientAddr = .v4 ip port)
    (haddress : AddressBytes envelope.target address) : ∃ message, datagramMessage v6 envelope = .ok message := by
  obtain ⟨frame, hframe⟩ := encodeDatagram_of_target v6 hclient (haddress _ _ _)
  exact ⟨.binary frame, by rw [datagramMessage, hframe]; rfl⟩

/-- **The server answers.** A datagram of the announced association, sent on and answered by its peer, is answered by the
datagram with the reply as payload. -/
theorem serverDatagramReply_of_peer (v6 : Ipv6Text) {env : UdpRelayEnv} {envelope : DatagramEnvelope}
    {message reply : Message} {relay : UdpRelayRecord} {packet : Received} (hmessage : decodeMessage v6 message = .ok envelope)
    (hrelay : relayOutboundDatagram env envelope = .ok relay) (hpeer : packet.source = relay.remotePeer)
    (hreply : datagramMessage v6 { envelope with payload := packet.bytes } = .ok reply) :
    serverDatagramReply v6 env envelope.associationId message (some (.ok packet)) = .ok (some reply) := by
  have hinbound := relayInboundDatagram_of_peer hrelay hpeer
  rw [serverDatagramReply, hmessage]
  simp only [Except.mapError, bind, Except.bind, ne_eq, not_true_eq_false, if_false, hrelay, hinbound, hreply]

/-- **The client delivers.** A reply for an association with these endpoints, whose relay socket is registered. -/
theorem dispatchInbound_of_association {Socket : Type} {reg : UdpAssociationRegistry}
    {sockets : UdpRelaySocketRegistry Socket} {envelope : DatagramEnvelope} {record : UdpAssociationRecord}
    {relayAddr : SocketAddr} {socket : Socket} {address : List UInt8}
    (hget : reg.get envelope.associationId = some record)
    (hends : UdpAssociationRegistry.HasEndpoints relayAddr envelope.relayClientAddr record)
    (hsocket : sockets.socketFor relayAddr = some socket) (haddress : AddressBytes envelope.target address) :
    dispatchInbound reg sockets envelope =
      .ok ⟨socket, envelope.relayClientAddr, [0x00, 0x00, 0x00] ++ address ++ envelope.payload⟩ := by
  obtain ⟨hrelay, hclient⟩ := hends
  simp only [dispatchInbound, hget, hclient, hrelay, hsocket, encodeUdpDatagram_of_address haddress, ne_eq,
    not_true_eq_false, if_false]

end N0wss.Gateway
