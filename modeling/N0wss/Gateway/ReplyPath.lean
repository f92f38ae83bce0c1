/-
A UDP reply on its way back: from the SOCKS5 packet of a client, through the association, the frame to the server, the
exchange with the peer, the frame back and the relay socket, to the client that sent the packet.

The websocket delivers messages as they were sent. Between sending and the reply, anything may happen to the registry that
leaves this association there.

- `udp_reply_returns`: every stage passes, and the client is sent its own header followed by the reply.
-/
import N0wss.Gateway.DatagramPath

namespace N0wss.Gateway

open Bridge Datagram Machine Net Session Socks5
open UdpAssociationRegistry (NotDrawn)

/-- what comes back when the reply of the peer is `reply`: the first message goes to the server on a path that was opened
under the id of its envelope, the second one comes back -/
def RoundTrip (v6 : Ipv6Text) {Socket : Type} (env : UdpRelayEnv) (envelope : DatagramEnvelope) (reply : Received)
    (reg : UdpAssociationRegistry) (sockets : UdpRelaySocketRegistry Socket) (delivery : Delivery Socket) : Prop :=
  ∃ sent opened answer,
    datagramMessage v6 envelope = .ok sent ∧
      parseDatagramOpenRequest (.text (datagramOpenText envelope.associationId)) = some opened ∧
      serverDatagramReply v6 env opened sent (some (.ok reply)) = .ok (some answer) ∧
      handleReply v6 reg sockets answer = .ok delivery

/-- an envelope of an IPv4 client whose target can be written comes back with the reply as payload -/
theorem roundTrip_of_association (v6 : Ipv6Text) {Socket : Type} {env : UdpRelayEnv} {envelope : DatagramEnvelope}
    {relay : UdpRelayRecord} {reply : Received} {reg : UdpAssociationRegistry} {sockets : UdpRelaySocketRegistry Socket}
    {record : UdpAssociationRecord} {relayAddr : SocketAddr} {socket : Socket} {ip : Ipv4Addr} {port : UInt16}
    {address : List UInt8} (hclient : envelope.relayClientAddr = .v4 ip port)
    (haddress : AddressBytes envelope.target address) (hvalid : envelope.validate = .ok ())
    (hrelay : relayOutboundDatagram env envelope = .ok relay) (hpeer : reply.source = relay.remotePeer)
    (hget : reg.get envelope.associationId = some record)
    (hends : UdpAssociationRegistry.HasEndpoints relayAddr envelope.relayClientAddr record)
    (hsocket : sockets.socketFor relayAddr = some socket) :
    RoundTrip v6 env envelope reply reg sockets
      ⟨socket, envelope.relayClientAddr, [0x00, 0x00, 0x00] ++ address ++ reply.bytes⟩ := by
  set inbound : DatagramEnvelope := { envelope with payload := reply.bytes }
  obtain ⟨sent, hsent⟩ := exists_datagramMessage v6 hclient haddress
  obtain ⟨answer, hanswer⟩ : ∃ answer, datagramMessage v6 inbound = .ok answer :=
    exists_datagramMessage v6 hclient haddress
  have hsmall : envelope.payload.length < 2 ^ 32 :=
    (length_payload_of_validate hvalid).trans_lt (by decide)
  have hreplySmall : inbound.payload.length < 2 ^ 32 := reply.fits.trans_lt (by decide)
  have hdecoded : decodeMessage v6 sent = .ok envelope := decodeMessage_datagramMessage v6 hclient hsmall hsent
  have hinbound : inbound.relayClientAddr = .v4 ip port := hclient
  have hback : decodeMessage v6 answer = .ok inbound := decodeMessage_datagramMessage v6 hinbound hreplySmall hanswer
  refine ⟨sent, envelope.associationId, answer, hsent, parseDatagramOpenRequest_datagramOpenText _,
    serverDatagramReply_of_peer v6 hdecoded hrelay hpeer hanswer, ?_⟩
  have hdelivered : dispatchInbound reg sockets inbound =
      .ok ⟨socket, envelope.relayClientAddr, [0x00, 0x00, 0x00] ++ address ++ reply.bytes⟩ :=
    dispatchInbound_of_association hget hends hsocket haddress
  rw [handleReply, hback]
  simp only [Except.mapError, bind, Except.bind, hdelivered]

/-- **Replies come back.** For every packet of an IPv4 client that is accepted, the association it is sent under, an
exchange whose peer replies, and whatever happened to the registry since, as long as the association is still there and
its relay socket too: the reply goes to that client on that socket, behind the header of the packet. -/
theorem udp_reply_returns (v6 : Ipv6Text) {Socket : Type} {ip : Ipv4Addr} {port : UInt16} {expectedSource : SocketAddr}
    {packet : List UInt8} {parsed envelope : DatagramEnvelope} {reg reg' : UdpAssociationRegistry}
    {relayAddr : SocketAddr} {now : Instant} {env : UdpRelayEnv} {relay : UdpRelayRecord} {reply : Received}
    {later : List UdpAssociationRegistry.RegistryOp} {sockets : UdpRelaySocketRegistry Socket} {socket : Socket}
    (hparse : parseUdpDatagram (.v4 ip port) expectedSource packet 0 = .ok parsed)
    (hsend : outboundEnvelope reg relayAddr (.v4 ip port) parsed.target parsed.payload now = (.ok envelope, reg'))
    (hrelay : relayOutboundDatagram env envelope = .ok relay) (hpeer : reply.source = relay.remotePeer)
    (hlater : AllSteps UdpAssociationRegistry.step (NotDrawn envelope.associationId) reg' later)
    (hthere : ((run UdpAssociationRegistry.step reg' later).get envelope.associationId).isSome = true)
    (hsocket : sockets.socketFor relayAddr = some socket) :
    ∃ header, packet = header ++ parsed.payload ∧
      RoundTrip v6 env envelope reply (run UdpAssociationRegistry.step reg' later) sockets
        ⟨socket, .v4 ip port, header ++ reply.bytes⟩ := by
  obtain ⟨address, haccepted⟩ := parseUdpDatagram_eq_ok hparse
  obtain ⟨hclient, htarget, hpayload, record, hget, hends⟩ := outboundEnvelope_eq_ok hsend
  refine ⟨[0x00, 0x00, 0x00] ++ address, haccepted.split, ?_⟩
  -- the envelope carries the target and the payload of the packet
  have haddress : AddressBytes envelope.target address := htarget ▸ haccepted.address
  have hvalid : envelope.validate = .ok () := (validate_congr htarget hpayload).trans haccepted.valid
  -- the association is the one it was sent under
  obtain ⟨record', hget'⟩ := Option.isSome_iff_exists.1 hthere
  have hbelongs : UdpAssociationRegistry.Belongs envelope.associationId relayAddr (.v4 ip port) reg' := fun r hr => by
    obtain rfl : record = r := Option.some.inj (hget.symm.trans hr)
    exact hends
  have hends' := UdpAssociationRegistry.endpoints_of_get hbelongs hlater hget'
  rw [← hclient] at hends'
  have htrip := roundTrip_of_association v6 hclient haddress hvalid hrelay hpeer hget' hends' hsocket
  rwa [hclient] at htrip

/-- one query and its answer, with another association opened in between -/
theorem dns_reply_returns :
    let client : SocketAddr := .v4 ⟨127, 0, 0, 1⟩ 50000
    let relayAddr : SocketAddr := .v4 ⟨127, 0, 0, 1⟩ 1081
    let resolver : SocketAddr := .v4 ⟨8, 8, 8, 8⟩ 53
    let env : UdpRelayEnv := ⟨fun _ _ => .ok [], .ok (.v4 ⟨0, 0, 0, 0⟩ 40000), .ok ()⟩
    let sent := UdpAssociationRegistry.openAssociation (SlotStore.new 4) relayAddr client 7
    ∃ header, [0, 0, 0, 1, 8, 8, 8, 8, 0, 53, 0xCA, 0xFE] = header ++ [0xCA, 0xFE] ∧
      RoundTrip ⟨fun _ => [], fun _ => none⟩ env ⟨1, client, .ip resolver, [0xCA, 0xFE]⟩
        ⟨[0xBE, 0xEF], resolver, by decide⟩
        (run UdpAssociationRegistry.step sent.2 [.openAssociation resolver client 8])
        (UdpRelaySocketRegistry.register ∅ relayAddr 3) ⟨3, client, header ++ [0xBE, 0xEF]⟩ := by
  intro client relayAddr resolver env sent
  have hparse : parseUdpDatagram client client [0, 0, 0, 1, 8, 8, 8, 8, 0, 53, 0xCA, 0xFE] 0 =
      .ok ⟨0, client, .ip resolver, [0xCA, 0xFE]⟩ := by decide
  have hsend : outboundEnvelope (SlotStore.new 4) relayAddr client (.ip resolver) [0xCA, 0xFE] 7 =
      (.ok ⟨1, client, .ip resolver, [0xCA, 0xFE]⟩, sent.2) := rfl
  have hlater : AllSteps UdpAssociationRegistry.step (NotDrawn 1) sent.2 [.openAssociation resolver client 8] :=
    ⟨(by decide : (2 : UInt64) ≠ 1), trivial⟩
  exact udp_reply_returns _ hparse hsend rfl rfl hlater rfl rfl

end N0wss.Gateway
