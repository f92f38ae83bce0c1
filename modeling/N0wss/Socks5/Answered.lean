/-
Which requests are answered on their control stream (`handle_connection` and `handle_connection_inner` in
`socks5/mod.rs`, `handle_udp_associate` in `socks5/udp_associate.rs`). A request that the parser refuses, and one whose
relay socket cannot be bound, ends the handler with an error, and the stream is dropped.

The local address of the control stream, the bind and the intent queue are inputs. The total timeout does not fire before
the request is answered; it may end the session that follows, whose own steps are in `Socks5/UdpSession`.

- `parse_sent`: the parser on a greeting with method `00` and any request with a complete address.
- `handleConnection_written`: what the handler writes for such a request.
- `request_answered_iff`: a request that is no CONNECT gets the one reply that is due exactly if it is a well-formed UDP
  ASSOCIATE and the relay is bound.
- `bind_unanswered`: a BIND request gets no reply.
-/
import N0wss.Net.Ipv6
import N0wss.Socks5.Grammar
import N0wss.Socks5.Reply
import N0wss.Socks5.UdpAssociate

namespace N0wss.Socks5

open Bytes Net Segments

/-! ## The handler -/

/-- what the handler finds when it binds the relay socket -/
structure RelayBind where
  /-- of the control stream -/
  controlLocalAddr : Except String SocketAddr
  bind : SocketAddr → Except String Unit
  /-- of the relay socket -/
  relayLocalAddr : Except String SocketAddr

def relayBindIp (controlLocalAddr : SocketAddr) : IpAddr :=
  match controlLocalAddr.ip with
  | .v4 ip => if ip.isUnspecified then .v4 ⟨127, 0, 0, 1⟩ else .v4 ip
  | ip => ip

/-- the relay's address, if its socket is bound -/
def RelayBind.relayAddr (relay : RelayBind) : Except String SocketAddr := do
  let controlLocalAddr ← relay.controlLocalAddr
  relay.bind (.new (relayBindIp controlLocalAddr) 0)
  relay.relayLocalAddr

def relayReply (relayAddr : SocketAddr) : List UInt8 :=
  let ip := match relayAddr.ip with
    | .v4 ip => 0x01 :: ip.octets
    | .v6 ip => 0x04 :: ip.segments.toList.flatMap u16ToBe
  [0x05, 0x00, 0x00] ++ ip ++ u16ToBe relayAddr.port

/-- `handle_udp_associate`; the socket is its address -/
def handleUdpAssociate (relay : RelayBind) : EStateM UdpAssociateError Connection SocketAddr := fun c =>
  match relay.relayAddr with
  | .error err => .error (.io err) c
  | .ok relayAddr =>
    match c.writeError with
    | some err => .error (.io err) c
    | none => .ok relayAddr { c with sent := c.sent ++ relayReply relayAddr }

/-- `try_send` -/
inductive TrySend where
  | queued
  | full
  | closed
deriving DecidableEq, Repr

structure HandlerEnv where
  nextRequestId : UInt64
  intentQueue : TrySend
  shutdown : Except String Unit
  relay : RelayBind
  /-- how the session ends, `none` where the total timeout ends it -/
  session : Option (Except Socks5Error Unit)

namespace Wire

def sendReply (reply : Socks5Reply) : Wire Unit := writeAll reply.bytes

def sendReplyAndClose (shutdown : Except String Unit) (reply : Socks5Reply) : Wire Unit := do
  sendReply reply
  match shutdown with
  | .ok () => return ()
  | .error err => throw (.io err)

/-- the error of `handle_udp_associate`, as the handler passes it on -/
def associate (v6 : Ipv6Text) (relay : RelayBind) : Wire SocketAddr := fun c =>
  match handleUdpAssociate relay c with
  | .ok relayAddr c => .ok relayAddr c
  | .error err c => .error (.io (err.text v6)) c

/-- the control stream is read to its end, and nothing is written to it -/
def controlSession (session : Option (Except Socks5Error Unit)) : Wire Unit := fun c =>
  match session with
  | some (.ok ()) => .ok () { c with segments := [] }
  | some (.error err) => .error err { c with segments := [] }
  | none => .error (.io "socks5 total timeout exceeded") { c with segments := [] }

/-- `handle_connection`; a CONNECT request that is queued is the bridge's -/
def handleConnection (v6 : Ipv6Text) (env : HandlerEnv) : Wire Unit := do
  match ← parseClientRequest env.nextRequestId with
  | .connect _ =>
    match env.intentQueue with
    | .queued => return ()
    | .full | .closed => sendReplyAndClose env.shutdown .generalFailure
  | .udpAssociate _ =>
    let _ ← associate v6 env.relay
    controlSession env.session

end Wire

/-- the connection when the handler drops it -/
def dropped {α : Type} : EStateM.Result Socks5Error Connection α → Connection
  | .ok _ c => c
  | .error _ c => c

/-! ## Requests -/

/-- the bytes after an address type: an IPv4 address or a domain of any bytes, and a port; nothing for other types -/
inductive CompleteAddress : UInt8 → List UInt8 → Prop
  | v4 (a b c d p q : UInt8) : CompleteAddress 0x01 [a, b, c, d, p, q]
  | domain {len : UInt8} {bytes : List UInt8} (hlen : bytes.length = len.toNat) (p q : UInt8) :
      CompleteAddress 0x03 (len :: (bytes ++ [p, q]))
  | unknown {atyp : UInt8} (hv4 : atyp ≠ 0x01) (hdomain : atyp ≠ 0x03) : CompleteAddress atyp []

/-- a greeting that offers method `00`, and a request with version `05` and a complete address -/
inductive SentRequest : List UInt8 → UInt8 → UInt8 → List UInt8 → Prop
  | mk {n command rsv atyp : UInt8} {methods address : List UInt8} (hmethods : methods.length = n.toNat)
      (hnone : 0x00 ∈ methods) (haddress : CompleteAddress atyp address) (rest : List UInt8) :
      SentRequest ([0x05, n] ++ (methods ++ ([0x05, command, rsv, atyp] ++ (address ++ rest)))) command atyp address

/-- the address is that of a target -/
def WellFormed (atyp : UInt8) (address : List UInt8) : Prop := ∃ target, AddressForm atyp address target

/-- the replies due to a request that is no CONNECT -/
inductive Due (relay : RelayBind) (command atyp : UInt8) (address : List UInt8) : List UInt8 → Prop
  | commandNotSupported (hconnect : command ≠ 0x01) (hudp : command ≠ 0x03) :
      Due relay command atyp address Socks5Reply.commandNotSupported.bytes
  | addressTypeNotSupported (hv4 : atyp ≠ 0x01) (hdomain : atyp ≠ 0x03) :
      Due relay command atyp address Socks5Reply.addressTypeNotSupported.bytes
  | invalidDomain (hdomain : atyp = 0x03) (hinvalid : ¬WellFormed atyp address) :
      Due relay command atyp address Socks5Reply.generalFailure.bytes
  | notBound {err : String} (hudp : command = 0x03) (hform : WellFormed atyp address)
      (hbind : relay.relayAddr = .error err) : Due relay command atyp address Socks5Reply.generalFailure.bytes
  | bound {relayAddr : SocketAddr} (hudp : command = 0x03) (hform : WellFormed atyp address)
      (hbind : relay.relayAddr = .ok relayAddr) : Due relay command atyp address (relayReply relayAddr)

/-! ## The parser on a request -/

theorem fromUtf8_of_form {len p q : UInt8} {bytes : List UInt8} {target : TargetAddr}
    (h : AddressForm 0x03 (len :: (bytes ++ [p, q])) target) : ∃ name, Utf8.fromUtf8 bytes = some name := by
  generalize hatyp : (0x03 : UInt8) = atyp at h
  generalize hword : len :: (bytes ++ [p, q]) = word at h
  cases h with
  | v4 => exact absurd hatyp (by decide)
  | domain hlen hutf8 =>
    obtain ⟨-, hsplit⟩ := List.cons.inj hword
    obtain rfl := List.append_inj_left' hsplit rfl
    exact ⟨_, hutf8⟩

theorem wire_parseAddress_domain {len p q : UInt8} {bytes rest : List UInt8} (hlen : bytes.length = len.toNat)
    {c : Connection} (hin : flatten c.segments = [len] ++ (bytes ++ ([p, q] ++ rest))) :
    ∃ segments, Wire.parseAddress 0x03 c =
      (match Utf8.fromUtf8 bytes with
        | some domain => (return .domain (String.ofList domain) (u16OfBe [p, q]) : Wire TargetAddr)
        | none => throw Socks5Error.invalidTargetAddress) { c with segments := segments } := by
  obtain ⟨s1, h1, hfirst⟩ := wire_readExact_field 1 c hin rfl
  obtain ⟨s2, h2, hname⟩ := wire_readExact_field len.toNat { c with segments := s1 } h1 hlen
  obtain ⟨s3, -, hport⟩ := wire_readExact_field 2 { c with segments := s2 } h2 rfl
  refine ⟨s3, ?_⟩
  rw [Wire.parseAddress, if_neg (by decide), if_pos rfl, Wire.bind_of_ok hfirst]
  simp only [List.headD_cons]
  rw [Wire.bind_of_ok hname]
  refine (Wire.bind_of_ok hport _).trans ?_
  cases Utf8.fromUtf8 bytes <;> rfl

/-- a complete address is read whole, and gives its target or an error -/
theorem wire_parseAddress {atyp : UInt8} {address rest : List UInt8} (h : CompleteAddress atyp address) {c : Connection}
    (hin : flatten c.segments = address ++ rest) :
    (∃ target segments, AddressForm atyp address target ∧
        Wire.parseAddress atyp c = .ok target { c with segments := segments }) ∨
      ¬WellFormed atyp address ∧
        ∃ err segments, Wire.parseAddress atyp c = .error err { c with segments := segments } := by
  cases h with
  | unknown hv4 hdomain =>
    refine Or.inr ⟨?_, .unsupportedAddressType atyp, c.segments, ?_⟩
    · rintro ⟨target, hform⟩
      cases hform
    · rw [Wire.parseAddress, if_neg hv4, if_neg hdomain]
      rfl
  | v4 a b c' d p q =>
    have hin : flatten c.segments = [a, b, c', d] ++ ([p, q] ++ rest) := hin
    obtain ⟨s1, h1, hip⟩ := wire_readExact_field 4 c hin rfl
    obtain ⟨s2, -, hport⟩ := wire_readExact_field 2 { c with segments := s1 } h1 rfl
    refine Or.inl ⟨_, s2, .v4 a b c' d p q, ?_⟩
    rw [Wire.parseAddress, if_pos rfl, Wire.bind_of_ok hip, Wire.bind_of_ok hport]
    rfl
  | @domain len bytes hlen p q =>
    have hin : flatten c.segments = [len] ++ (bytes ++ ([p, q] ++ rest)) := by rw [hin]; simp
    obtain ⟨segments, hparse⟩ := wire_parseAddress_domain hlen hin
    rw [hparse]
    cases hutf8 : Utf8.fromUtf8 bytes with
    | some name => exact Or.inl ⟨_, segments, .domain hlen hutf8, rfl⟩
    | none =>
      refine Or.inr ⟨?_, .invalidTargetAddress, segments, rfl⟩
      rintro ⟨target, hform⟩
      obtain ⟨name, hname⟩ := fromUtf8_of_form hform
      rw [hutf8] at hname
      cases hname

/-- how the parser ends on a request with a complete address -/
inductive Ends (command atyp : UInt8) (address : List UInt8) (id : UInt64) (c : Connection) :
    EStateM.Result Socks5Error Connection ParsedRequest → Prop
  | accepted {target : TargetAddr} (hcommand : command = 0x01 ∨ command = 0x03) (hform : AddressForm atyp address target)
      (segments : List (Segment UInt8)) : Ends command atyp address id c
        (.ok (requestOf command target id) { c with segments := segments, sent := c.sent ++ [0x05, 0x00] })
  | refused (h : ¬(command = 0x01 ∨ command = 0x03) ∨ ¬WellFormed atyp address) (err : Socks5Error)
      (segments : List (Segment UInt8)) : Ends command atyp address id c
        (.error err { c with segments := segments, sent := c.sent ++ [0x05, 0x00] })

/-- **The parser answers the greeting,** and then accepts the request or fails without a word. -/
theorem parse_sent {c : Connection} {command atyp : UInt8} {address : List UInt8}
    (hsent : SentRequest (flatten c.segments) command atyp address) (hwrites : c.writeError = none) (id : UInt64) :
    Ends command atyp address id c (Wire.parseClientRequest id c) := by
  generalize hin : flatten c.segments = stream at hsent
  obtain @⟨n, command, rsv, atyp, methods, address, hmethods, hnone, haddress, rest⟩ := hsent
  obtain ⟨s1, h1, hgreeting⟩ := wire_readExact_field 2 c hin rfl
  obtain ⟨s2, h2, hread⟩ := wire_readExact_field n.toNat { c with segments := s1 } h1 hmethods
  have hwritten : Wire.writeAll [0x05, 0x00] { c with segments := s2 } =
      .ok () { c with segments := s2, sent := c.sent ++ [0x05, 0x00] } := wire_writeAll _ hwrites
  obtain ⟨s3, h3, hheader⟩ := wire_readExact_field 4 { c with segments := s2, sent := c.sent ++ [0x05, 0x00] } h2 rfl
  rw [Wire.parseClientRequest, Wire.bind_of_ok hgreeting, if_neg (show ¬[0x05, n].headD 0 ≠ 0x05 from not_not.2 rfl)]
  simp only [List.getD_cons_succ, List.getD_cons_zero]
  rw [Wire.bind_of_ok hread, if_neg (not_not.2 hnone), Wire.bind_of_ok hwritten, Wire.bind_of_ok hheader,
    if_neg (show ¬[0x05, command, rsv, atyp].headD 0 ≠ 0x05 from not_not.2 rfl)]
  simp only [List.getD_cons_succ, List.getD_cons_zero]
  obtain ⟨target, segments, hform, hparse⟩ | ⟨hinvalid, err, segments, hparse⟩ :=
    wire_parseAddress haddress (c := { c with segments := s3, sent := c.sent ++ [0x05, 0x00] }) h3
  · rw [Wire.bind_of_ok hparse]
    by_cases hconnect : command = 0x01
    · subst hconnect
      exact .accepted (Or.inl rfl) hform segments
    by_cases hudp : command = 0x03
    · subst hudp
      exact .accepted (Or.inr rfl) hform segments
    rw [if_neg hconnect, if_neg hudp]
    exact .refused (Or.inl (not_or.2 ⟨hconnect, hudp⟩)) (.unsupportedCommand command) segments
  · rw [Wire.bind_of_error hparse]
    exact .refused (Or.inr hinvalid) err segments

/-! ## What the handler writes -/

theorem handleUdpAssociate_eq (relay : RelayBind) {c : Connection} (hwrites : c.writeError = none) :
    handleUdpAssociate relay c = match relay.relayAddr with
      | .error err => .error (.io err) c
      | .ok relayAddr => .ok relayAddr { c with sent := c.sent ++ relayReply relayAddr } := by
  rw [handleUdpAssociate, hwrites]

theorem controlSession_sent (session : Option (Except Socks5Error Unit)) (c : Connection) :
    (dropped (Wire.controlSession session c)).sent = c.sent := by
  rcases session with _ | err | ⟨⟨⟩⟩ <;> rfl

/-- what the handler writes to the client of an accepted UDP ASSOCIATE -/
theorem udpAssociate_written (v6 : Ipv6Text) (env : HandlerEnv) {c : Connection} (hwrites : c.writeError = none) :
    (dropped ((Wire.associate v6 env.relay >>= fun _ => Wire.controlSession env.session) c)).sent =
      c.sent ++ match env.relay.relayAddr with
        | .ok relayAddr => relayReply relayAddr
        | .error _ => [] := by
  have hassociate := handleUdpAssociate_eq env.relay hwrites
  cases hbind : env.relay.relayAddr with
  | error err =>
    rw [hbind] at hassociate
    have herror : Wire.associate v6 env.relay c = .error (.io (UdpAssociateError.text v6 (.io err))) c := by
      rw [Wire.associate, hassociate]
    rw [Wire.bind_of_error herror, List.append_nil]
    rfl
  | ok relayAddr =>
    rw [hbind] at hassociate
    have hok : Wire.associate v6 env.relay c = .ok relayAddr { c with sent := c.sent ++ relayReply relayAddr } := by
      rw [Wire.associate, hassociate]
    rw [Wire.bind_of_ok hok, controlSession_sent]

/-- **What the handler writes** for a request that is no CONNECT. -/
theorem handleConnection_written (v6 : Ipv6Text) (env : HandlerEnv) {c : Connection} {command atyp : UInt8}
    {address : List UInt8} (hsent : SentRequest (flatten c.segments) command atyp address) (hwrites : c.writeError = none)
    (hconnect : ¬(command = 0x01 ∧ WellFormed atyp address)) :
    (command = 0x03 ∧ WellFormed atyp address ∧ (dropped (Wire.handleConnection v6 env c)).sent =
        c.sent ++ [0x05, 0x00] ++ match env.relay.relayAddr with
          | .ok relayAddr => relayReply relayAddr
          | .error _ => []) ∨
      ¬(command = 0x03 ∧ WellFormed atyp address) ∧
        (dropped (Wire.handleConnection v6 env c)).sent = c.sent ++ [0x05, 0x00] := by
  have hends := parse_sent hsent hwrites env.nextRequestId
  generalize hparse : Wire.parseClientRequest env.nextRequestId c = result at hends
  cases hends with
  | refused h err segments =>
    refine Or.inr ⟨?_, ?_⟩
    · rintro ⟨hudp, hform⟩
      rcases h with hcommand | hinvalid
      · exact hcommand (Or.inr hudp)
      · exact hinvalid hform
    · rw [Wire.handleConnection, Wire.bind_of_error hparse]
      rfl
  | @accepted target hcommand hform segments =>
    have hudp : command = 0x03 := hcommand.resolve_left fun h => hconnect ⟨h, target, hform⟩
    subst hudp
    refine Or.inl ⟨rfl, ⟨target, hform⟩, ?_⟩
    rw [Wire.handleConnection, Wire.bind_of_ok hparse]
    exact udpAssociate_written v6 env hwrites

theorem relayReply_ne_nil (relayAddr : SocketAddr) : relayReply relayAddr ≠ [] := by simp [relayReply]

theorem Due.ne_nil {relay : RelayBind} {command atyp : UInt8} {address reply : List UInt8}
    (h : Due relay command atyp address reply) : reply ≠ [] := by
  cases h with
  | bound => exact relayReply_ne_nil _
  | _ => exact List.cons_ne_nil _ _

/-- **A request is answered,** with the one reply that is due, exactly if it is a well-formed UDP ASSOCIATE whose relay is
bound. -/
theorem request_answered_iff (v6 : Ipv6Text) (env : HandlerEnv) {c : Connection} {command atyp : UInt8}
    {address : List UInt8} (hsent : SentRequest (flatten c.segments) command atyp address) (hwrites : c.writeError = none)
    (hconnect : ¬(command = 0x01 ∧ WellFormed atyp address)) :
    (∃ reply, Due env.relay command atyp address reply ∧
        (dropped (Wire.handleConnection v6 env c)).sent = c.sent ++ [0x05, 0x00] ++ reply) ↔
      command = 0x03 ∧ WellFormed atyp address ∧ ∃ relayAddr, env.relay.relayAddr = .ok relayAddr := by
  rcases handleConnection_written v6 env hsent hwrites hconnect with ⟨hudp, hform, hwritten⟩ | ⟨hother, hwritten⟩
  · rw [hwritten]
    cases hbind : env.relay.relayAddr with
    | ok relayAddr => exact iff_of_true ⟨_, .bound hudp hform hbind, rfl⟩ ⟨hudp, hform, relayAddr, rfl⟩
    | error err =>
      refine iff_of_false ?_ (fun h => by obtain ⟨-, -, relayAddr, hok⟩ := h; cases hok)
      intro ⟨reply, hdue, hreply⟩
      exact hdue.ne_nil (List.append_cancel_left hreply).symm
  · rw [hwritten]
    refine iff_of_false ?_ (fun h => hother ⟨h.1, h.2.1⟩)
    intro ⟨reply, hdue, hreply⟩
    exact hdue.ne_nil (List.append_right_eq_self.1 hreply.symm)

/-- a relay that can be bound, on a loopback address -/
def loopbackEnv : HandlerEnv :=
  ⟨7, .queued, .ok (), ⟨.ok (.v4 ⟨127, 0, 0, 1⟩ 1080), fun _ => .ok (), .ok (.v4 ⟨127, 0, 0, 1⟩ 4000)⟩, some (.ok ())⟩

/-- a client that sends a request with this command, for `127.0.0.1:80` -/
def clientOf (command : UInt8) : Connection :=
  ⟨[⟨[0x05, 0x01, 0x00, 0x05, command], by simp⟩, ⟨[0x00, 0x01, 127, 0, 0, 1, 0, 80], by simp⟩], "eof", none, []⟩

theorem sent_clientOf (command : UInt8) :
    SentRequest (flatten (clientOf command).segments) command 0x01 [127, 0, 0, 1, 0, 80] :=
  have hmethods : ([0x00] : List UInt8).length = (0x01 : UInt8).toNat := rfl
  .mk hmethods List.mem_cons_self (.v4 127 0 0 1 0 80) []

theorem udp_associate_answered :
    ∃ reply, Due loopbackEnv.relay 0x03 0x01 [127, 0, 0, 1, 0, 80] reply ∧
      (dropped (Wire.handleConnection Ipv6.std loopbackEnv (clientOf 0x03))).sent = [] ++ [0x05, 0x00] ++ reply :=
  (request_answered_iff Ipv6.std loopbackEnv (sent_clientOf 0x03) rfl fun h => absurd h.1 (by decide)).2
    ⟨rfl, ⟨_, .v4 127 0 0 1 0 80⟩, _, rfl⟩

/-- the client of a BIND request reads the method, and then the end of the stream; a reply is due to it -/
theorem bind_unanswered :
    SentRequest (flatten (clientOf 0x02).segments) 0x02 0x01 [127, 0, 0, 1, 0, 80] ∧
      Due loopbackEnv.relay 0x02 0x01 [127, 0, 0, 1, 0, 80] Socks5Reply.commandNotSupported.bytes ∧
      (dropped (Wire.handleConnection Ipv6.std loopbackEnv (clientOf 0x02))).sent = [0x05, 0x00] ∧
      ¬∃ reply, Due loopbackEnv.relay 0x02 0x01 [127, 0, 0, 1, 0, 80] reply ∧
        (dropped (Wire.handleConnection Ipv6.std loopbackEnv (clientOf 0x02))).sent = [] ++ [0x05, 0x00] ++ reply := by
  have hwritten : (dropped (Wire.handleConnection Ipv6.std loopbackEnv (clientOf 0x02))).sent = [0x05, 0x00] := by
    rcases handleConnection_written Ipv6.std loopbackEnv (sent_clientOf 0x02) rfl fun h => absurd h.1 (by decide) with
      ⟨hudp, -⟩ | ⟨-, hwritten⟩
    · exact absurd hudp (by decide)
    · exact hwritten
  refine ⟨sent_clientOf 0x02, .commandNotSupported (by decide) (by decide), hwritten, ?_⟩
  intro ⟨reply, hdue, hreply⟩
  rw [hwritten] at hreply
  exact hdue.ne_nil (List.append_right_eq_self.1 hreply.symm)

end N0wss.Socks5
