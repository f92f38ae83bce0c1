/-
What `parse_client_request` accepts. The client's bytes arrive in pieces of any size, and the connection is looked at also
when the request fails: what was written to the client, and what is left to read.

- `parse_follows`: however the bytes are split into pieces, parsing does what it does on the whole stream.
- `Request`: the grammar, a greeting that offers no authentication and then a CONNECT or UDP ASSOCIATE request.
- `parse_of_request`, `request_of_parse`: the parser accepts the streams that start with a request, and no others; it
  leaves what follows the request.
- `parse_noAcceptable`, `parse_truncated`: the answers to a greeting without the method, and to a request cut short.
- `parse_client_request_grammar`: all of it.
-/
import N0wss.Core.Stages
import N0wss.Core.Segments
import N0wss.Socks5.Request

namespace N0wss.Socks5

open Bytes Net Segments Stages

/-! ## The connection, in pieces -/

structure Connection where
  /-- what the client sends, as reads will deliver it -/
  segments : List (Segment UInt8)
  /-- the error of a read past the end -/
  readError : String
  /-- the error of every write, if writes fail -/
  writeError : Option String
  /-- written to the client -/
  sent : List UInt8

/-- the connection without the pieces -/
def Connection.flat (c : Connection) : ClientStream := ⟨flatten c.segments, c.readError, c.writeError, c.sent⟩

/-- a computation on the connection, which is still there when it fails -/
abbrev Wire (α : Type) := EStateM Socks5Error Connection α

namespace Wire

/-- `read_exact` -/
def readExact (n : ℕ) : Wire (List UInt8) := fun c =>
  match takeExact n c.segments with
  | some (bytes, segments) => .ok bytes { c with segments := segments }
  | none => .error (.io c.readError) { c with segments := [] }

/-- `write_all` -/
def writeAll (bytes : List UInt8) : Wire Unit := fun c =>
  match c.writeError with
  | some err => .error (.io err) c
  | none => .ok () { c with sent := c.sent ++ bytes }

/-- the address of a request, by its type -/
def parseAddress (atyp : UInt8) : Wire TargetAddr := do
  if atyp = 0x01 then
    let ipv4 ← readExact 4
    let port ← readExact 2
    match ipv4 with
    | [a, b, c, d] => return .ip (.new (.v4 ⟨a, b, c, d⟩) (u16OfBe port))
    | _ => throw .invalidTargetAddress
  else if atyp = 0x03 then
    let len ← readExact 1
    let domain ← readExact (len.headD 0).toNat
    let port ← readExact 2
    match Utf8.fromUtf8 domain with
    | some domain => return .domain (String.ofList domain) (u16OfBe port)
    | none => throw .invalidTargetAddress
  else throw (.unsupportedAddressType atyp)

/-- `parse_client_request` -/
def parseClientRequest (nextRequestId : UInt64) : Wire ParsedRequest := do
  let greeting ← readExact 2
  if greeting.headD 0 ≠ 0x05 then throw (.unsupportedVersion (greeting.headD 0))
  else
    let methods ← readExact (greeting.getD 1 0).toNat
    if 0x00 ∉ methods then
      writeAll [0x05, 0xff]
      throw .noAcceptableAuthMethod
    else
      writeAll [0x05, 0x00]
      let header ← readExact 4
      if header.headD 0 ≠ 0x05 then throw (.unsupportedVersion (header.headD 0))
      else
        let target ← parseAddress (header.getD 3 0)
        let command := header.getD 1 0
        if command = 0x01 then return .connect ⟨target, .socks5, nextRequestId⟩
        else if command = 0x03 then return .udpAssociate target
        else throw (.unsupportedCommand command)

end Wire

/-! ## The pieces do not matter -/

/-- a computation on the pieces ends as one on the whole stream does; where that one succeeds, with the same stream -/
def Follows {α : Type} (result : EStateM.Result Socks5Error Connection α)
    (flat : Except Socks5Error (α × ClientStream)) : Prop :=
  match flat with
  | .ok (a, stream) => ∃ c, result = .ok a c ∧ c.flat = stream
  | .error err => ∃ c, result = .error err c

section
variable {α β : Type}

theorem Wire.bind_of_ok {x : Wire α} {a : α} {c c' : Connection} (h : x c = .ok a c') (f : α → Wire β) :
    (x >>= f) c = f a c' := by
  show EStateM.bind x f c = _
  rw [EStateM.bind, h]

theorem Wire.bind_of_error {x : Wire α} {err : Socks5Error} {c c' : Connection} (h : x c = .error err c')
    (f : α → Wire β) : (x >>= f) c = .error err c' := by
  show EStateM.bind x f c = _
  rw [EStateM.bind, h]

theorem Follows.bind {x : Wire α} {y : Except Socks5Error (α × ClientStream)} {f : α → Wire β}
    {g : α × ClientStream → Except Socks5Error (β × ClientStream)} {c : Connection} (h : Follows (x c) y)
    (hf : ∀ a c', Follows (f a c') (g (a, c'.flat))) : Follows ((x >>= f) c) (y >>= g) := by
  cases y with
  | error err =>
    obtain ⟨c', hx⟩ := h
    exact ⟨c', Wire.bind_of_error hx f⟩
  | ok read =>
    obtain ⟨a, stream⟩ := read
    obtain ⟨c', hx, rfl⟩ := h
    rw [Wire.bind_of_ok hx]
    exact hf a c'

theorem follows_pure (a : α) (c : Connection) : Follows ((pure a : Wire α) c) (.ok (a, c.flat)) := ⟨c, rfl, rfl⟩

theorem follows_throw (err : Socks5Error) (c : Connection) : Follows ((throw err : Wire α) c) (.error err) := ⟨c, rfl⟩

theorem follows_readExact (n : ℕ) (c : Connection) : Follows (Wire.readExact n c) (c.flat.readExact n) := by
  unfold Wire.readExact ClientStream.readExact
  by_cases h : n ≤ (flatten c.segments).length
  · obtain ⟨rest, htake, hrest⟩ := takeExact_of_le h
    rw [if_pos (show n ≤ c.flat.incoming.length from h), htake]
    refine ⟨_, rfl, ?_⟩
    simp only [Connection.flat, hrest]
  · rw [if_neg (show ¬n ≤ c.flat.incoming.length from h), takeExact_of_lt (not_le.1 h)]
    exact ⟨_, rfl⟩

theorem wire_writeAll (bytes : List UInt8) {c : Connection} (hwrites : c.writeError = none) :
    Wire.writeAll bytes c = .ok () { c with sent := c.sent ++ bytes } := by
  rw [Wire.writeAll, hwrites]

/-- a write gives nothing but the stream -/
theorem follows_writeAll {bytes : List UInt8} {f : Unit → Wire β}
    {g : ClientStream → Except Socks5Error (β × ClientStream)} {c : Connection}
    (hf : ∀ c', Follows (f () c') (g c'.flat)) :
    Follows ((Wire.writeAll bytes >>= f) c) (c.flat.writeAll bytes >>= g) := by
  cases hwrite : c.writeError with
  | some err =>
    have hpieces : Wire.writeAll bytes c = .error (.io err) c := by rw [Wire.writeAll, hwrite]
    have hflat : c.flat.writeAll bytes = .error (.io err) := by
      rw [ClientStream.writeAll, show c.flat.writeError = some err from hwrite]
    rw [Wire.bind_of_error hpieces, hflat]
    exact ⟨c, rfl⟩
  | none =>
    have hpieces := wire_writeAll bytes hwrite
    have hflat : c.flat.writeAll bytes = .ok (Connection.flat { c with sent := c.sent ++ bytes }) := by
      simp only [ClientStream.writeAll, Connection.flat, hwrite]
    rw [Wire.bind_of_ok hpieces, hflat]
    exact hf _

end

theorem parseAddress_follows (atyp : UInt8) (c : Connection) :
    Follows (Wire.parseAddress atyp c) (parseAddress atyp c.flat) := by
  unfold Wire.parseAddress parseAddress
  split_ifs with hv4 hdomain
  · refine (follows_readExact 4 c).bind fun ipv4 c => ?_
    refine (follows_readExact 2 c).bind fun port c => ?_
    match ipv4 with
    | [a, b, c', d] => exact follows_pure _ c
    | [] | [_] | [_, _] | [_, _, _] | _ :: _ :: _ :: _ :: _ :: _ => exact follows_throw _ c
  · refine (follows_readExact 1 c).bind fun len c => ?_
    refine (follows_readExact _ c).bind fun domain c => ?_
    refine (follows_readExact 2 c).bind fun port c => ?_
    simp only
    cases Utf8.fromUtf8 domain with
    | some name => exact follows_pure _ c
    | none => exact follows_throw _ c
  · exact follows_throw _ c

/-- however the bytes are split, parsing does what it does on the whole stream -/
theorem parse_follows (id : UInt64) (c : Connection) :
    Follows (Wire.parseClientRequest id c) (parseClientRequest c.flat id) := by
  unfold Wire.parseClientRequest parseClientRequest
  refine (follows_readExact 2 c).bind fun greeting c => ?_
  by_cases hversion : greeting.headD 0 ≠ 0x05
  · simp only [if_pos hversion]
    exact follows_throw _ c
  simp only [if_neg hversion]
  refine (follows_readExact _ c).bind fun methods c => ?_
  by_cases hmethods : 0x00 ∉ methods
  · simp only [if_pos hmethods]
    exact follows_writeAll fun c => follows_throw _ c
  simp only [if_neg hmethods]
  refine follows_writeAll fun c => (follows_readExact 4 c).bind fun header c => ?_
  by_cases hheader : header.headD 0 ≠ 0x05
  · simp only [if_pos hheader]
    exact follows_throw _ c
  simp only [if_neg hheader]
  refine (parseAddress_follows _ c).bind fun target c => ?_
  simp only
  split_ifs with hconnect hudp
  · exact follows_pure _ c
  · exact follows_pure _ c
  · exact follows_throw _ c

/-! ## The grammar -/

/-- the bytes after an address type, for a target: an IPv4 address or a UTF-8 domain with its length, and a port -/
inductive AddressForm : UInt8 → List UInt8 → TargetAddr → Prop
  | v4 (a b c d p q : UInt8) : AddressForm 0x01 [a, b, c, d, p, q] (.ip (.new (.v4 ⟨a, b, c, d⟩) (u16OfBe [p, q])))
  | domain {len p q : UInt8} {bytes : List UInt8} {name : List Char} (hlen : bytes.length = len.toNat)
      (hutf8 : Utf8.fromUtf8 bytes = some name) :
      AddressForm 0x03 (len :: (bytes ++ [p, q])) (.domain (String.ofList name) (u16OfBe [p, q]))

/-- a greeting that offers method `00`, and a request with command 1 or 3 -/
inductive Request : List UInt8 → UInt8 → TargetAddr → Prop
  | mk {n command rsv atyp : UInt8} {methods address : List UInt8} {target : TargetAddr}
      (hmethods : methods.length = n.toNat) (hnone : 0x00 ∈ methods) (hcommand : command = 0x01 ∨ command = 0x03)
      (haddress : AddressForm atyp address target) :
      Request ([0x05, n] ++ (methods ++ ([0x05, command, rsv, atyp] ++ address))) command target

/-- what a command and its target ask for -/
def requestOf (command : UInt8) (target : TargetAddr) (id : UInt64) : ParsedRequest :=
  if command = 0x01 then .connect ⟨target, .socks5, id⟩ else .udpAssociate target

/-! ## Reading fields -/

section
variable {β : Type} {stream : ClientStream} (n : ℕ) {f : List UInt8 × ClientStream → Except Socks5Error β}

/-- a field that is there is read, and the rest of the parser sees what follows -/
theorem readExact_field {front rest : List UInt8} (h : stream.incoming = front ++ rest) (hn : front.length = n) :
    (stream.readExact n >>= f) = f (front, { stream with incoming := rest }) :=
  bind_of_ok (ClientStream.readExact_append h hn) f

theorem readExact_short (h : stream.incoming.length < n) : (stream.readExact n >>= f) = .error (.io stream.readError) := by
  rw [ClientStream.readExact, if_neg (not_le.2 h)]
  rfl

/-- what is there of `front` and `back` either ends inside `front` or goes on into `back` -/
theorem prefix_split {front back bytes : List UInt8} (h : bytes <+: front ++ back) (hne : bytes ≠ front ++ back) :
    bytes.length < front.length ∨ ∃ rest, bytes = front ++ rest ∧ rest <+: back ∧ rest ≠ back := by
  by_cases hlen : bytes.length < front.length
  · exact Or.inl hlen
  · obtain ⟨rest, rfl⟩ := List.prefix_of_prefix_length_le (List.prefix_append front back) h (not_lt.1 hlen)
    exact Or.inr ⟨rest, rfl, (List.prefix_append_right_inj front).1 h, fun heq => hne (by rw [heq])⟩

/-- reading a field of a stream cut short fails, or leaves a stream cut short -/
theorem readExact_cut (stream : ClientStream) (front back : List UInt8) (h : stream.incoming <+: front ++ back)
    (hne : stream.incoming ≠ front ++ back) (hn : front.length = n) :
    (stream.readExact n >>= f) = .error (.io stream.readError) ∨
      ∃ rest, rest <+: back ∧ rest ≠ back ∧ (stream.readExact n >>= f) = f (front, { stream with incoming := rest }) := by
  obtain hshort | ⟨rest, hrest, hprefix, hneq⟩ := prefix_split h hne
  · exact Or.inl (readExact_short n (by omega))
  · exact Or.inr ⟨rest, hprefix, hneq, readExact_field n hrest hn⟩

end

/-- the request that follows the greeting -/
def parseHeader (stream : ClientStream) (id : UInt64) : Except Socks5Error (ParsedRequest × ClientStream) := do
  let (header, stream) ← stream.readExact 4
  if header.headD 0 ≠ 0x05 then .error (.unsupportedVersion (header.headD 0)) else do
    let (target, stream) ← parseAddress (header.getD 3 0) stream
    let command := header.getD 1 0
    if command = 0x01 then .ok (.connect ⟨target, .socks5, id⟩, stream)
    else if command = 0x03 then .ok (.udpAssociate target, stream)
    else .error (.unsupportedCommand command)

/-- a greeting with method `00` is answered, and the request read -/
theorem parse_after_greeting {stream : ClientStream} {n : UInt8} {methods rest : List UInt8} (id : UInt64)
    (hin : stream.incoming = [0x05, n] ++ (methods ++ rest)) (hmethods : methods.length = n.toNat) (hnone : 0x00 ∈ methods)
    (hwrites : stream.writeError = none) :
    parseClientRequest stream id =
      parseHeader { stream with incoming := rest, sent := stream.sent ++ [0x05, 0x00] } id := by
  unfold parseClientRequest
  rw [readExact_field 2 hin rfl]
  simp only [List.headD_cons, ne_eq, not_true_eq_false, if_false, List.getD_cons_succ, List.getD_cons_zero]
  rw [readExact_field _ rfl hmethods]
  simp only [hnone, not_true_eq_false, if_false, ClientStream.writeAll, hwrites]
  rfl

/-! ## Requests are accepted -/

theorem parseAddress_of_form {atyp : UInt8} {bytes rest : List UInt8} {target : TargetAddr}
    (h : AddressForm atyp bytes target) {stream : ClientStream} (hin : stream.incoming = bytes ++ rest) :
    parseAddress atyp stream = .ok (target, { stream with incoming := rest }) := by
  cases h with
  | v4 a b c d p q =>
    have hin : stream.incoming = [a, b, c, d] ++ ([p, q] ++ rest) := hin
    rw [parseAddress, if_pos rfl, readExact_field 4 hin rfl]
    simp only
    rw [readExact_field 2 rfl rfl]
  | @domain len p q bytes name hlen hutf8 =>
    have hin : stream.incoming = [len] ++ (bytes ++ ([p, q] ++ rest)) := by rw [hin]; simp
    rw [parseAddress, if_neg (by decide), if_pos rfl, readExact_field 1 hin rfl]
    simp only [List.headD_cons]
    rw [readExact_field _ rfl hlen]
    simp only
    rw [readExact_field 2 rfl rfl]
    simp only [hutf8]

/-- a stream that starts with a request is accepted, and what follows the request is left -/
theorem parse_of_request {word rest : List UInt8} {command : UInt8} {target : TargetAddr} (h : Request word command target)
    {stream : ClientStream} (hin : stream.incoming = word ++ rest) (hwrites : stream.writeError = none) (id : UInt64) :
    parseClientRequest stream id =
      .ok (requestOf command target id, { stream with incoming := rest, sent := stream.sent ++ [0x05, 0x00] }) := by
  obtain @⟨n, command, rsv, atyp, methods, address, target, hmethods, hnone, hcommand, haddress⟩ := h
  rw [List.append_assoc, List.append_assoc, List.append_assoc] at hin
  rw [parse_after_greeting id hin hmethods hnone hwrites, parseHeader, readExact_field 4 rfl rfl]
  simp only [List.headD_cons, ne_eq, not_true_eq_false, if_false, List.getD_cons_succ, List.getD_cons_zero]
  rw [bind_of_ok (parseAddress_of_form haddress rfl)]
  simp only
  obtain rfl | rfl := hcommand
  · rfl
  · rfl

/-! ## Streams cut short -/

theorem parseAddress_truncated {atyp : UInt8} {bytes : List UInt8} {target : TargetAddr} (h : AddressForm atyp bytes target)
    {stream : ClientStream} (hcut : stream.incoming <+: bytes) (hne : stream.incoming ≠ bytes) :
    parseAddress atyp stream = .error (.io stream.readError) := by
  -- nothing is left to cut off behind the last field
  have hend : ∀ rest : List UInt8, rest <+: [] → rest ≠ [] → False := fun rest hpre hnil =>
    hnil (List.prefix_nil.1 hpre)
  cases h with
  | v4 a b c d p q =>
    rw [parseAddress, if_pos rfl]
    obtain hio | ⟨rest, hpre, hneq, hgo⟩ := readExact_cut 4 stream [a, b, c, d] [p, q] hcut hne rfl
    · exact hio
    rw [hgo]
    obtain hio | ⟨rest, hpre, hneq, -⟩ := readExact_cut 2 { stream with incoming := rest } [p, q] [] hpre hneq rfl
    · exact hio
    · exact absurd (hend rest hpre hneq) id
  | @domain len p q bytes name hlen hutf8 =>
    rw [parseAddress, if_neg (by decide), if_pos rfl]
    obtain hio | ⟨rest, hpre, hneq, hgo⟩ := readExact_cut 1 stream [len] (bytes ++ [p, q]) hcut hne rfl
    · exact hio
    rw [hgo]
    simp only [List.headD_cons]
    obtain hio | ⟨rest, hpre, hneq, hgo⟩ :=
      readExact_cut len.toNat { stream with incoming := rest } bytes [p, q] hpre hneq hlen
    · exact hio
    rw [hgo]
    obtain hio | ⟨rest, hpre, hneq, -⟩ := readExact_cut 2 { stream with incoming := rest } [p, q] [] hpre hneq rfl
    · exact hio
    · exact absurd (hend rest hpre hneq) id

/-- a request cut short anywhere ends in the error of the read -/
theorem parse_truncated {word : List UInt8} {command : UInt8} {target : TargetAddr} (h : Request word command target)
    {stream : ClientStream} (hcut : stream.incoming <+: word) (hne : stream.incoming ≠ word)
    (hwrites : stream.writeError = none) (id : UInt64) :
    parseClientRequest stream id = .error (.io stream.readError) := by
  obtain @⟨n, command, rsv, atyp, methods, address, target, hmethods, hnone, hcommand, haddress⟩ := h
  obtain hio | ⟨rest, hpre, hneq, hgo⟩ := readExact_cut 2 stream [0x05, n] _ hcut hne rfl
  · exact hio
  rw [parseClientRequest, hgo]
  simp only [List.headD_cons, ne_eq, not_true_eq_false, if_false, List.getD_cons_succ, List.getD_cons_zero]
  obtain hio | ⟨rest, hpre, hneq, hgo⟩ := readExact_cut _ { stream with incoming := rest } methods _ hpre hneq hmethods
  · exact hio
  rw [hgo]
  simp only [hnone, not_true_eq_false, if_false, ClientStream.writeAll, hwrites]
  rw [bind_of_ok rfl]
  obtain hio | ⟨rest, hpre, hneq, hgo⟩ := readExact_cut 4
    { stream with incoming := rest, sent := stream.sent ++ [0x05, 0x00] } [0x05, command, rsv, atyp] _ hpre hneq rfl
  · rw [hwrites] at hio
    exact hio
  rw [hwrites] at hgo
  rw [hgo]
  simp only [List.headD_cons, not_true_eq_false, if_false, List.getD_cons_succ, List.getD_cons_zero]
  rw [parseAddress_truncated haddress hpre hneq]
  rfl

/-! ## Nothing else is accepted -/

theorem ClientStream.readExact_eq_ok {stream stream' : ClientStream} {n : ℕ} {bytes : List UInt8}
    (h : stream.readExact n = .ok (bytes, stream')) :
    stream.incoming = bytes ++ stream'.incoming ∧ bytes.length = n := by
  unfold readExact at h
  split_ifs at h with hn
  cases h
  exact ⟨(List.take_append_drop n _).symm, List.length_take_of_le hn⟩

theorem ClientStream.writeAll_eq_ok {stream stream' : ClientStream} {bytes : List UInt8}
    (h : stream.writeAll bytes = .ok stream') : stream'.incoming = stream.incoming := by
  unfold writeAll at h
  split at h
  · cases h
  · cases h
    rfl

theorem form_of_parseAddress {atyp : UInt8} {stream stream' : ClientStream} {target : TargetAddr}
    (h : parseAddress atyp stream = .ok (target, stream')) :
    ∃ bytes, AddressForm atyp bytes target ∧ stream.incoming = bytes ++ stream'.incoming := by
  unfold parseAddress at h
  split_ifs at h with hv4 hdomain
  · subst hv4
    obtain ⟨⟨ipv4, s1⟩, hip, h⟩ := bind_eq_ok_iff.1 h
    obtain ⟨⟨port, s2⟩, hport, h⟩ := bind_eq_ok_iff.1 h
    obtain ⟨hin1, -⟩ := ClientStream.readExact_eq_ok hip
    obtain ⟨hin2, hlen⟩ := ClientStream.readExact_eq_ok hport
    obtain ⟨p, q, rfl⟩ := List.length_eq_two.1 hlen
    simp only at h
    split at h
    · cases h
      exact ⟨_, .v4 .., by rw [hin1, hin2]; rfl⟩
    · cases h
  · subst hdomain
    obtain ⟨⟨len, s1⟩, hfirst, h⟩ := bind_eq_ok_iff.1 h
    obtain ⟨⟨domain, s2⟩, hname, h⟩ := bind_eq_ok_iff.1 h
    obtain ⟨⟨port, s3⟩, hport, h⟩ := bind_eq_ok_iff.1 h
    obtain ⟨hin1, hlen1⟩ := ClientStream.readExact_eq_ok hfirst
    obtain ⟨hin2, hlen2⟩ := ClientStream.readExact_eq_ok hname
    obtain ⟨hin3, hlen3⟩ := ClientStream.readExact_eq_ok hport
    obtain ⟨len, rfl⟩ := List.length_eq_one_iff.1 hlen1
    obtain ⟨p, q, rfl⟩ := List.length_eq_two.1 hlen3
    simp only at h
    split at h
    · rename_i name hutf8
      cases h
      exact ⟨_, .domain hlen2 hutf8, by rw [hin1, hin2, hin3]; simp⟩
    · cases h

/-- what is accepted starts with a request -/
theorem request_of_parse {stream stream' : ClientStream} {id : UInt64} {request : ParsedRequest}
    (h : parseClientRequest stream id = .ok (request, stream')) :
    ∃ word rest command target, stream.incoming = word ++ rest ∧ Request word command target := by
  unfold parseClientRequest at h
  obtain ⟨⟨greeting, s1⟩, hgreeting, h⟩ := bind_eq_ok_iff.1 h
  obtain ⟨hin1, hlen1⟩ := ClientStream.readExact_eq_ok hgreeting
  obtain ⟨v, n, rfl⟩ := List.length_eq_two.1 hlen1
  simp only [List.headD_cons, List.getD_cons_succ, List.getD_cons_zero] at h
  split_ifs at h with hversion
  obtain ⟨⟨methods, s2⟩, hmethods, h⟩ := bind_eq_ok_iff.1 h
  obtain ⟨hin2, hlen2⟩ := ClientStream.readExact_eq_ok hmethods
  simp only at h
  split_ifs at h with hnone
  swap
  · -- no acceptable method: whatever the write does, the request fails
    obtain ⟨s3, -, h⟩ := bind_eq_ok_iff.1 h
    cases h
  obtain ⟨s3, hwrite, h⟩ := bind_eq_ok_iff.1 h
  obtain ⟨⟨header, s4⟩, hheader, h⟩ := bind_eq_ok_iff.1 h
  obtain ⟨hin3, hlen3⟩ := ClientStream.readExact_eq_ok hheader
  obtain ⟨v', command, rsv, atyp, rfl⟩ : ∃ a b c d, header = [a, b, c, d] := by
    match header, hlen3 with
    | [a, b, c, d], _ => exact ⟨a, b, c, d, rfl⟩
  simp only [List.headD_cons, List.getD_cons_succ, List.getD_cons_zero] at h
  split at h
  · cases h
  rename_i hversion'
  obtain ⟨⟨target, s5⟩, haddr, h⟩ := bind_eq_ok_iff.1 h
  obtain ⟨bytes, hform, hin4⟩ := form_of_parseAddress haddr
  obtain rfl := not_not.1 hversion
  obtain rfl := not_not.1 hversion'
  have hcommand : command = 0x01 ∨ command = 0x03 := by
    by_contra hnot
    obtain ⟨hconnect, hudp⟩ := not_or.1 hnot
    simp only [if_neg hconnect, if_neg hudp] at h
    cases h
  have hword : Request ([0x05, n] ++ (methods ++ ([0x05, command, rsv, atyp] ++ bytes))) command target :=
    .mk hlen2 hnone hcommand hform
  refine ⟨_, s5.incoming, command, target, ?_, hword⟩
  rw [hin1, hin2, ← ClientStream.writeAll_eq_ok hwrite, hin3, hin4]
  simp only [List.append_assoc]

/-! ## The parser on pieces -/

/-- what `parse_client_request` owes a client whose bytes are those of `c` -/
structure Parses (c : Connection) (id : UInt64) : Prop where
  /-- it accepts the streams that start with a request -/
  accepts : (∃ request c', Wire.parseClientRequest id c = .ok request c') ↔
    ∃ word rest command target, flatten c.segments = word ++ rest ∧ Request word command target
  /-- it gives what the request asks for, leaves what follows the request, and writes `05 00` -/
  request : ∀ word rest command target, flatten c.segments = word ++ rest → Request word command target →
    ∃ c', Wire.parseClientRequest id c = .ok (requestOf command target id) c' ∧ flatten c'.segments = rest ∧
      c'.sent = c.sent ++ [0x05, 0x00]
  /-- a greeting without method `00` is answered by `05 ff` -/
  noAcceptable : ∀ n methods rest, flatten c.segments = [0x05, n] ++ (methods ++ rest) → methods.length = n.toNat →
    0x00 ∉ methods → ∃ c', Wire.parseClientRequest id c = .error .noAcceptableAuthMethod c' ∧
      c'.sent = c.sent ++ [0x05, 0xff]
  /-- a request cut short ends in the error of the read -/
  truncated : ∀ word command target, Request word command target → flatten c.segments <+: word →
    flatten c.segments ≠ word → ∃ c', Wire.parseClientRequest id c = .error (.io c.readError) c'

theorem wire_readExact_field (n : ℕ) {front rest : List UInt8} (c : Connection) (h : flatten c.segments = front ++ rest)
    (hn : front.length = n) :
    ∃ segments, flatten segments = rest ∧ Wire.readExact n c = .ok front { c with segments := segments } := by
  subst hn
  obtain ⟨segments, htake, hrest⟩ := @takeExact_of_le _ front.length c.segments (by simp [h])
  refine ⟨segments, by rw [hrest, h, List.drop_left], ?_⟩
  rw [Wire.readExact, htake, h, List.take_left]

theorem parse_noAcceptable {c : Connection} {n : UInt8} {methods rest : List UInt8} (id : UInt64)
    (hin : flatten c.segments = [0x05, n] ++ (methods ++ rest)) (hmethods : methods.length = n.toNat)
    (hnone : 0x00 ∉ methods) (hwrites : c.writeError = none) :
    ∃ c', Wire.parseClientRequest id c = .error .noAcceptableAuthMethod c' ∧ c'.sent = c.sent ++ [0x05, 0xff] := by
  obtain ⟨afterGreeting, hrest, hgreeting⟩ := wire_readExact_field 2 c hin rfl
  obtain ⟨afterMethods, -, hread⟩ := wire_readExact_field _ { c with segments := afterGreeting } hrest hmethods
  refine ⟨{ c with segments := afterMethods, sent := c.sent ++ [0x05, 0xff] }, ?_, rfl⟩
  rw [Wire.parseClientRequest, Wire.bind_of_ok hgreeting, if_neg (show ¬[0x05, n].headD 0 ≠ 0x05 from not_not.2 rfl)]
  simp only [List.getD_cons_succ, List.getD_cons_zero]
  rw [Wire.bind_of_ok hread, if_pos hnone]
  have hwritten : Wire.writeAll [0x05, 0xff] { c with segments := afterMethods } =
      .ok () { c with segments := afterMethods, sent := c.sent ++ [0x05, 0xff] } := wire_writeAll _ hwrites
  exact Wire.bind_of_ok hwritten _

/-- **The parser accepts exactly its grammar**, on every stream, in whatever pieces it arrives. -/
theorem parse_client_request_grammar (c : Connection) (hwrites : c.writeError = none) (id : UInt64) : Parses c id where
  accepts := by
    constructor
    · intro ⟨request, c', hparse⟩
      have hfollows := parse_follows id c
      cases hflat : parseClientRequest c.flat id with
      | error err =>
        rw [hflat] at hfollows
        obtain ⟨c'', herr⟩ := hfollows
        rw [hparse] at herr
        cases herr
      | ok read => exact request_of_parse hflat
    · intro ⟨word, rest, command, target, hin, hword⟩
      have hfollows := parse_follows id c
      rw [parse_of_request hword hin hwrites] at hfollows
      obtain ⟨c', hparse, -⟩ := hfollows
      exact ⟨_, c', hparse⟩
  request := by
    intro word rest command target hin hword
    have hfollows := parse_follows id c
    rw [parse_of_request hword hin hwrites] at hfollows
    obtain ⟨c', hparse, hflat⟩ := hfollows
    exact ⟨c', hparse, congrArg ClientStream.incoming hflat, congrArg ClientStream.sent hflat⟩
  noAcceptable := fun n methods rest hin hmethods hnone => parse_noAcceptable id hin hmethods hnone hwrites
  truncated := by
    intro word command target hword hcut hne
    have hfollows := parse_follows id c
    rwa [parse_truncated hword hcut hne hwrites] at hfollows

/-- a CONNECT request in two pieces, with a byte of the tunnelled stream behind it -/
theorem parse_client_request_split :
    Parses ⟨[⟨[0x05, 0x01, 0x00, 0x05, 0x01], by decide⟩, ⟨[0x00, 0x01, 127, 0, 0, 1, 0, 80, 0x16], by decide⟩],
      "eof", none, []⟩ 7 :=
  parse_client_request_grammar _ rfl 7

end N0wss.Socks5
