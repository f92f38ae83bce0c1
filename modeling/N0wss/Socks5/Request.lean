/-
The SOCKS5 handshake and request (`parse_client_request` in `socks5/mod.rs`), on the bytes the client sends.

A connection is what the client has sent and not yet been read, how reading past that ends, whether writes fail, and
what was written to the client.

- `connect_target_producible`: a CONNECT request only ever carries an IPv4 address or a UTF-8 domain of at most 255
  bytes.
- `exists_connect_request`: and every such target is carried by some request.
-/
import N0wss.Core.Stages
import N0wss.Core.Bytes
import N0wss.Core.Utf8
import N0wss.Net.Addr

namespace N0wss.Socks5

open Bytes Net Stages

/-! ## The connection -/

structure ClientStream where
  /-- sent by the client, not yet read -/
  incoming : List UInt8
  /-- the error of a read past the end -/
  readError : String
  /-- the error of every write, if writes fail -/
  writeError : Option String
  /-- written to the client -/
  sent : List UInt8
deriving DecidableEq, Repr

inductive Socks5Error where
  | unsupportedVersion (version : UInt8)
  | noAcceptableAuthMethod
  | unsupportedCommand (command : UInt8)
  | unsupportedAddressType (atyp : UInt8)
  | invalidTargetAddress
  | io (detail : String)
deriving DecidableEq, Repr

/-- `read_exact` -/
def ClientStream.readExact (stream : ClientStream) (n : ℕ) : Except Socks5Error (List UInt8 × ClientStream) :=
  if n ≤ stream.incoming.length then
    .ok (stream.incoming.take n, { stream with incoming := stream.incoming.drop n })
  else .error (.io stream.readError)

/-- `write_all` -/
def ClientStream.writeAll (stream : ClientStream) (bytes : List UInt8) : Except Socks5Error ClientStream :=
  match stream.writeError with
  | some err => .error (.io err)
  | none => .ok { stream with sent := stream.sent ++ bytes }

theorem ClientStream.readExact_append {stream : ClientStream} {front rest : List UInt8} {n : ℕ}
    (h : stream.incoming = front ++ rest) (hn : front.length = n) :
    stream.readExact n = .ok (front, { stream with incoming := rest }) := by
  subst hn
  simp [readExact, h]

/-! ## Requests -/

inductive ProxyProtocol where
  | socks5
deriving DecidableEq, Repr

structure ProxyIntent where
  target : TargetAddr
  protocolKind : ProxyProtocol
  requestId : UInt64
deriving DecidableEq, Repr

inductive ParsedRequest where
  | connect (intent : ProxyIntent)
  | udpAssociate (clientHint : TargetAddr)
deriving DecidableEq, Repr

/-- the address of a request, by its type -/
def parseAddress (atyp : UInt8) (stream : ClientStream) : Except Socks5Error (TargetAddr × ClientStream) :=
  if atyp = 0x01 then do
    let (ipv4, stream) ← stream.readExact 4
    let (port, stream) ← stream.readExact 2
    match ipv4 with
    | [a, b, c, d] => .ok (.ip (.new (.v4 ⟨a, b, c, d⟩) (u16OfBe port)), stream)
    | _ => .error .invalidTargetAddress
  else if atyp = 0x03 then do
    let (len, stream) ← stream.readExact 1
    let (domain, stream) ← stream.readExact (len.headD 0).toNat
    let (port, stream) ← stream.readExact 2
    match Utf8.fromUtf8 domain with
    | some domain => .ok (.domain (String.ofList domain) (u16OfBe port), stream)
    | none => .error .invalidTargetAddress
  else .error (.unsupportedAddressType atyp)

/-- `parse_client_request`; `nextRequestId` is the counter a CONNECT request draws from -/
def parseClientRequest (stream : ClientStream) (nextRequestId : UInt64) :
    Except Socks5Error (ParsedRequest × ClientStream) := do
  let (greeting, stream) ← stream.readExact 2
  if greeting.headD 0 ≠ 0x05 then .error (.unsupportedVersion (greeting.headD 0)) else do
    let (methods, stream) ← stream.readExact (greeting.getD 1 0).toNat
    if 0x00 ∉ methods then do
      let _ ← stream.writeAll [0x05, 0xff]
      .error .noAcceptableAuthMethod
    else do
      let stream ← stream.writeAll [0x05, 0x00]
      let (header, stream) ← stream.readExact 4
      if header.headD 0 ≠ 0x05 then .error (.unsupportedVersion (header.headD 0)) else do
        let (target, stream) ← parseAddress (header.getD 3 0) stream
        let command := header.getD 1 0
        if command = 0x01 then .ok (.connect ⟨target, .socks5, nextRequestId⟩, stream)
        else if command = 0x03 then .ok (.udpAssociate target, stream)
        else .error (.unsupportedCommand command)

/-! ## Which targets a request carries -/

/-- an IPv4 address, or a UTF-8 domain of at most 255 bytes -/
def Producible : TargetAddr → Prop
  | .ip (.v4 _ _) => True
  | .ip (.v6 _ _ _ _) => False
  | .domain domain _ => (Utf8.encode domain.toList).length ≤ 255

instance (target : TargetAddr) : Decidable (Producible target) := by
  unfold Producible; split <;> infer_instance

theorem ClientStream.length_of_readExact {stream stream' : ClientStream} {n : ℕ} {bytes : List UInt8}
    (h : stream.readExact n = .ok (bytes, stream')) : bytes.length = n := by
  unfold readExact at h
  split_ifs at h with hn
  simp only [Except.ok.injEq, Prod.mk.injEq] at h
  rw [← h.1]; simp [hn]

theorem parseAddress_producible {atyp : UInt8} {stream stream' : ClientStream} {target : TargetAddr}
    (h : parseAddress atyp stream = .ok (target, stream')) : Producible target := by
  unfold parseAddress at h
  split_ifs at h with h1 h3
  · obtain ⟨⟨ipv4, s1⟩, -, h⟩ := bind_eq_ok_iff.1 h
    obtain ⟨⟨port, s2⟩, -, h⟩ := bind_eq_ok_iff.1 h
    simp only at h
    split at h
    · obtain ⟨rfl, -⟩ : _ = target ∧ _ = stream' := by simpa using h
      trivial
    · simp at h
  · obtain ⟨⟨len, s1⟩, -, h⟩ := bind_eq_ok_iff.1 h
    obtain ⟨⟨domain, s2⟩, hdom, h⟩ := bind_eq_ok_iff.1 h
    obtain ⟨⟨port, s3⟩, -, h⟩ := bind_eq_ok_iff.1 h
    simp only at h
    split at h
    · rename_i cs hcs
      obtain ⟨rfl, -⟩ : _ = target ∧ _ = stream' := by simpa using h
      have hbytes : domain = Utf8.encode cs := Utf8.fromUtf8_eq_some_iff.1 hcs
      have hlen : domain.length = (len.headD 0).toNat := ClientStream.length_of_readExact hdom
      have hle : (len.headD 0).toNat < 256 := (len.headD 0).toNat_lt
      simp only [Producible, String.toList_ofList, ← hbytes, hlen]
      omega
    · simp at h

/-- **Targets of a CONNECT request.** Only IPv4 addresses and UTF-8 domains of at most 255 bytes. -/
theorem connect_target_producible {stream stream' : ClientStream} {id : UInt64} {intent : ProxyIntent}
    (h : parseClientRequest stream id = .ok (.connect intent, stream')) : Producible intent.target := by
  unfold parseClientRequest at h
  obtain ⟨⟨greeting, s1⟩, -, h⟩ := bind_eq_ok_iff.1 h
  simp only at h
  split_ifs at h
  obtain ⟨⟨methods, s2⟩, -, h⟩ := bind_eq_ok_iff.1 h
  simp only at h
  split_ifs at h with hmethods
  swap
  · -- no acceptable method: whatever the write does, the request fails
    obtain ⟨s3, -, h⟩ := bind_eq_ok_iff.1 h
    cases h
  obtain ⟨s3, -, h⟩ := bind_eq_ok_iff.1 h
  obtain ⟨⟨header, s4⟩, -, h⟩ := bind_eq_ok_iff.1 h
  simp only at h
  split at h
  · cases h
  obtain ⟨⟨target, s5⟩, haddr, h⟩ := bind_eq_ok_iff.1 h
  simp only at h
  split at h
  · obtain ⟨rfl, -⟩ : _ = intent ∧ _ = stream' := by simpa using h
    exact parseAddress_producible haddr
  · split at h <;> simp at h

/-- the address bytes that carry a target -/
def addressBytes : TargetAddr → List UInt8
  | .ip (.v4 ip port) => ip.octets ++ u16ToBe port
  | .ip (.v6 _ _ _ _) => []
  | .domain domain port =>
    UInt8.ofNat (Utf8.encode domain.toList).length :: (Utf8.encode domain.toList ++ u16ToBe port)

def addressType : TargetAddr → UInt8
  | .ip _ => 0x01
  | .domain _ _ => 0x03

theorem readExact_port (stream : ClientStream) (port : UInt16) (rest : List UInt8) :
    ClientStream.readExact { stream with incoming := u16ToBe port ++ rest } 2 =
      .ok (u16ToBe port, { stream with incoming := rest }) :=
  ClientStream.readExact_append rfl (length_u16ToBe port)

theorem parseAddress_addressBytes {target : TargetAddr} (h : Producible target) (stream : ClientStream)
    (rest : List UInt8) (hin : stream.incoming = addressBytes target ++ rest) :
    parseAddress (addressType target) stream = .ok (target, { stream with incoming := rest }) := by
  cases target with
  | ip addr =>
    cases addr with
    | v6 ip port flow scope => exact absurd h id
    | v4 ip port =>
      have hin4 : stream.incoming = ip.octets ++ (u16ToBe port ++ rest) := by
        rw [hin, addressBytes, List.append_assoc]
      have h4 : stream.readExact 4 = .ok (ip.octets, { stream with incoming := u16ToBe port ++ rest }) :=
        ClientStream.readExact_append hin4 rfl
      simp only [parseAddress, addressType, if_true]
      rw [bind_of_ok h4, bind_of_ok (readExact_port stream port rest)]
      simp [Ipv4Addr.octets, SocketAddr.new]
  | domain domain port =>
    set dom := Utf8.encode domain.toList with hdom
    have hle : dom.length ≤ 255 := h
    have hlen : (UInt8.ofNat dom.length).toNat = dom.length := Utf8.toNat_ofNat_of_lt (by omega)
    have hin1 : stream.incoming = [UInt8.ofNat dom.length] ++ (dom ++ (u16ToBe port ++ rest)) := by
      rw [hin, addressBytes]; simp [← hdom]
    have h1 : stream.readExact 1 =
        .ok ([UInt8.ofNat dom.length], { stream with incoming := dom ++ (u16ToBe port ++ rest) }) :=
      ClientStream.readExact_append hin1 rfl
    have hd : ClientStream.readExact { stream with incoming := dom ++ (u16ToBe port ++ rest) }
          ([UInt8.ofNat dom.length].headD 0).toNat =
        .ok (dom, { stream with incoming := u16ToBe port ++ rest }) :=
      ClientStream.readExact_append rfl hlen.symm
    have hutf8 : Utf8.fromUtf8 dom = some domain.toList := Utf8.fromUtf8_encode _
    simp only [parseAddress, addressType, if_true, if_neg (show ¬(0x03 : UInt8) = 0x01 by decide)]
    rw [bind_of_ok h1, bind_of_ok hd, bind_of_ok (readExact_port stream port rest)]
    simp [hutf8, String.ofList_toList]

/-- **Every such target is requested by someone.** One greeting with the no-authentication method, then a CONNECT
request, on a connection whose writes succeed. -/
theorem exists_connect_request {target : TargetAddr} (h : Producible target) (id : UInt64) (readError : String) :
    parseClientRequest
        ⟨[0x05, 0x01, 0x00, 0x05, 0x01, 0x00, addressType target] ++ addressBytes target, readError, none, []⟩ id =
      .ok (.connect ⟨target, .socks5, id⟩, ⟨[], readError, none, [0x05, 0x00]⟩) := by
  have haddr := parseAddress_addressBytes h ⟨addressBytes target, readError, none, [0x05, 0x00]⟩ []
    (List.append_nil _).symm
  simp [parseClientRequest, ClientStream.readExact, ClientStream.writeAll, bind, Except.bind, haddr]

end N0wss.Socks5
