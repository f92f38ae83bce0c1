/-
The first message after the handshake (`wss_gateway/mod.rs`): the texts that `open_stream` and `open_datagram_path` send,
and how `parse_datagram_open_request` and `parse_target_request` read it on the server.

The host goes into the text as it is, without escaping, and the server cuts the text at its first two spaces.

- `parseTargetRequest_connectText`: a host without a space that is not blank comes back, with its port.
- `parseTargetRequest_of_space`, `parseTargetRequest_of_blank`: every other host is refused. A space in the host leaves a
  space in the port part, which is then no number.
- `parseTargetRequest_ipv4`: an IPv4 address is always accepted, and read as itself.
- `connect_targets_unaltered`: the two together, for every target, with the datagram request and its id.
-/
import N0wss.Bridge.ProcessIntent
import N0wss.Core.Text
import N0wss.Core.Utf8

namespace N0wss.Gateway

open Bridge Net Text

/-! ## Messages -/

/-- a websocket message; a control message is ignored whatever it carries -/
inductive Message where
  | text (text : String)
  | binary (bytes : List UInt8)
  | ping (bytes : List UInt8)
  | pong (bytes : List UInt8)
  | close
  | frame
deriving DecidableEq, Repr

inductive WssError where
  | cancelled
  | tcpConnectFailed (detail : String)
  | upgradeFailed (detail : String)
  | handshakeFailed (detail : String)
  | authRejected (detail : String)
  | invalidWebsocketUri (detail : String)
  | targetConnectFailed (detail : String)
  | invalidTargetRequest (detail : String)
  | datagramPathFailed (detail : String)
deriving DecidableEq, Repr

/-! ## The client's side -/

/-- what `open_stream` sends -/
def connectText (request : TransportRequest) : String :=
  "CONNECT " ++ request.targetHost ++ " " ++ String.ofList (decimal request.targetPort.toNat)

/-- what `open_datagram_path` sends -/
def datagramOpenText (associationId : UInt64) : String :=
  "DATAGRAM OPEN " ++ String.ofList (decimal associationId.toNat)

theorem toList_connectText (request : TransportRequest) :
    (connectText request).toList =
      "CONNECT".toList ++ ' ' :: (request.targetHost.toList ++ ' ' :: decimal request.targetPort.toNat) := by
  simp only [connectText, String.toList_append, String.toList_ofList, List.append_assoc]
  rfl

theorem toList_datagramOpenText (associationId : UInt64) :
    (datagramOpenText associationId).toList = "DATAGRAM OPEN ".toList ++ decimal associationId.toNat := by
  simp only [datagramOpenText, String.toList_append, String.toList_ofList]

/-! ## The server's side -/

/-- the text of a target request -/
def parseTargetText (text : String) : Except WssError (String × UInt16) :=
  let parts := splitn ' ' 3 text.toList
  let method := parts.getD 0 []
  let host := parts.getD 1 []
  let port := parts.getD 2 []
  if method ≠ "CONNECT".toList ∨ trim host = [] ∨ trim port = [] then .error (.invalidTargetRequest text)
  else
    match parseUnsigned 65535 port with
    | none => .error (.invalidTargetRequest text)
    | some port => .ok (String.ofList host, UInt16.ofNat port)

def parseTargetRequest : Message → Except WssError (String × UInt16)
  | .text text => parseTargetText text
  | .binary bytes =>
    match Utf8.fromUtf8 bytes with
    | some text => parseTargetText (String.ofList text)
    | none => .error (.invalidTargetRequest "target request must be valid UTF-8")
  | .ping _ | .pong _ | .close | .frame => .error (.invalidTargetRequest "unsupported target request message type")

def parseDatagramOpenText (text : List Char) : Option UInt64 :=
  (stripPrefix "DATAGRAM OPEN ".toList text).bind fun id => (parseUnsigned (2 ^ 64 - 1) id).map UInt64.ofNat

def parseDatagramOpenRequest : Message → Option UInt64
  | .text text => parseDatagramOpenText text.toList
  | .binary bytes => (Utf8.fromUtf8 bytes).bind parseDatagramOpenText
  | .ping _ | .pong _ | .close | .frame => none

/-! ## Datagram requests -/

theorem parseDatagramOpenRequest_connectText (request : TransportRequest) :
    parseDatagramOpenRequest (.text (connectText request)) = none := by
  have hprefix : ¬"DATAGRAM OPEN ".toList <+: (connectText request).toList := by
    rw [toList_connectText]
    rintro ⟨rest, hrest⟩
    -- the first characters differ already
    exact absurd (List.cons.inj hrest).1 (by decide)
  rw [parseDatagramOpenRequest, parseDatagramOpenText, stripPrefix_of_not_prefix hprefix, Option.bind_none]

theorem parseDatagramOpenRequest_datagramOpenText (id : UInt64) :
    parseDatagramOpenRequest (.text (datagramOpenText id)) = some id := by
  have hle : id.toNat ≤ 2 ^ 64 - 1 := Nat.le_pred_of_lt id.toNat_lt
  rw [parseDatagramOpenRequest, parseDatagramOpenText, toList_datagramOpenText, stripPrefix_append, Option.bind_some,
    parseUnsigned_decimal hle, Option.map_some, UInt64.ofNat_toNat]

/-! ## Target requests -/

/-- what the server reads of a connect text, from how the text past the method is cut -/
theorem parseTargetRequest_of_parts {request : TransportRequest} {host port : List Char}
    (h : splitn ' ' 2 (request.targetHost.toList ++ ' ' :: decimal request.targetPort.toNat) = [host, port]) :
    parseTargetRequest (.text (connectText request)) =
      if trim host = [] ∨ trim port = [] then .error (.invalidTargetRequest (connectText request))
      else
        match parseUnsigned 65535 port with
        | none => .error (.invalidTargetRequest (connectText request))
        | some port => .ok (String.ofList host, UInt16.ofNat port) := by
  have hmethod : ' ' ∉ "CONNECT".toList := by decide
  have hparts : splitn ' ' 3 (connectText request).toList = ["CONNECT".toList, host, port] := by
    rw [toList_connectText, splitn_append_cons hmethod, h]
  simp only [parseTargetRequest, parseTargetText, hparts, List.getD_cons_zero, List.getD_cons_succ, ne_eq,
    not_true_eq_false, false_or]

theorem parseTargetRequest_connectText {request : TransportRequest} (hspace : ' ' ∉ request.targetHost.toList)
    (hblank : trim request.targetHost.toList ≠ []) :
    parseTargetRequest (.text (connectText request)) = .ok (request.targetHost, request.targetPort) := by
  have hport : trim (decimal request.targetPort.toNat) ≠ [] := trim_decimal_ne_nil _
  have hle : request.targetPort.toNat ≤ 65535 := Nat.le_of_lt_succ request.targetPort.toNat_lt
  rw [parseTargetRequest_of_parts (splitn_append_cons hspace _ 0), if_neg (not_or.2 ⟨hblank, hport⟩),
    parseUnsigned_decimal hle]
  simp only [String.ofList_toList, UInt16.ofNat_toNat]

/-- the second cut falls inside the host, so that a space is left in the port -/
theorem parseTargetRequest_of_space {request : TransportRequest} (hspace : ' ' ∈ request.targetHost.toList) :
    parseTargetRequest (.text (connectText request)) = .error (.invalidTargetRequest (connectText request)) := by
  obtain ⟨front, back, hfront, hhost⟩ := exists_first hspace
  set port := back ++ ' ' :: decimal request.targetPort.toNat with hport
  have hparts : splitn ' ' 2 (request.targetHost.toList ++ ' ' :: decimal request.targetPort.toNat) = [front, port] := by
    rw [hhost, List.append_assoc, List.cons_append]
    exact splitn_append_cons hfront _ 0
  have hnumber : parseUnsigned 65535 port = none :=
    parseUnsigned_of_mem (c := ' ') (by simp [hport]) (by decide) (by decide)
  rw [parseTargetRequest_of_parts hparts, hnumber, ite_self]

theorem parseTargetRequest_of_blank {request : TransportRequest} (hblank : trim request.targetHost.toList = []) :
    parseTargetRequest (.text (connectText request)) = .error (.invalidTargetRequest (connectText request)) := by
  by_cases hspace : ' ' ∈ request.targetHost.toList
  · exact parseTargetRequest_of_space hspace
  · rw [parseTargetRequest_of_parts (splitn_append_cons hspace _ 0), if_pos (Or.inl hblank)]

/-- an IPv4 address is written with digits and dots, so the server is never refused one and reads the same address -/
theorem parseTargetRequest_ipv4 (v6 : Ipv6Text) {intent : Socks5.ProxyIntent} {ip : Ipv4Addr} {port : UInt16}
    (htarget : intent.target = .ip (.v4 ip port)) :
    ∃ host, parseTargetRequest (.text (connectText (transportRequest v6 intent))) = .ok (host, port) ∧
      parseIp v6 host.toList = some (.v4 ip) := by
  have hhost : (transportRequest v6 intent).targetHost.toList = displayV4 ip := by
    simp only [transportRequest, targetHost, htarget, SocketAddr.ip, displayIp, String.toList_ofList]
  have hport : (transportRequest v6 intent).targetPort = port := by
    simp only [transportRequest, targetPort, htarget, SocketAddr.port]
  have hspace : ' ' ∉ (transportRequest v6 intent).targetHost.toList := by
    rw [hhost]
    intro hmem
    rcases displayV4_chars hmem with hdigit | hdot
    · exact absurd hdigit (by decide)
    · exact absurd hdot (by decide)
  have hblank : trim (transportRequest v6 intent).targetHost.toList ≠ [] := by
    rw [hhost]
    intro htrim
    obtain ⟨c, hc⟩ := List.exists_mem_of_ne_nil _ (displayV4_ne_nil ip)
    have hwhite : isWhitespace c = true := trim_eq_nil_iff.1 htrim c hc
    rcases displayV4_chars hc with hdigit | rfl
    · exact absurd hwhite (by simp [isWhitespace_of_isDigit hdigit])
    · exact absurd hwhite (by decide)
  refine ⟨(transportRequest v6 intent).targetHost, ?_, ?_⟩
  · rw [parseTargetRequest_connectText hspace hblank, hport]
  · rw [hhost, ← parse_display v6 ip]
    rfl

/-! ## Main result -/

/-- **Targets on the way to the server.** The text that carries a target is never taken for a datagram request. It is
read as exactly the target's host and port or refused, and refused exactly when the host holds a space or is blank. The
text that opens a datagram path is read as exactly its id. -/
theorem connect_targets_unaltered (v6 : Ipv6Text) :
    (∀ intent : Socks5.ProxyIntent,
      let request := transportRequest v6 intent
      let parsed := parseTargetRequest (.text (connectText request))
      parseDatagramOpenRequest (.text (connectText request)) = none ∧
        (parsed = .ok (targetHost v6 intent.target, targetPort intent.target) ∨
          parsed = .error (.invalidTargetRequest (connectText request))) ∧
        ((∃ err, parsed = .error err) ↔
          ' ' ∈ (targetHost v6 intent.target).toList ∨ trim (targetHost v6 intent.target).toList = [])) ∧
    ∀ associationId : UInt64, parseDatagramOpenRequest (.text (datagramOpenText associationId)) = some associationId := by
  refine ⟨?_, parseDatagramOpenRequest_datagramOpenText⟩
  intro intent
  set request := transportRequest v6 intent
  refine ⟨parseDatagramOpenRequest_connectText request, ?_⟩
  have hrefused : ' ' ∈ request.targetHost.toList ∨ trim request.targetHost.toList = [] →
      parseTargetRequest (.text (connectText request)) = .error (.invalidTargetRequest (connectText request)) := by
    rintro (hspace | hblank)
    · exact parseTargetRequest_of_space hspace
    · exact parseTargetRequest_of_blank hblank
  by_cases hhost : ' ' ∈ request.targetHost.toList ∨ trim request.targetHost.toList = []
  · exact ⟨Or.inr (hrefused hhost), fun _ => hhost, fun _ => ⟨_, hrefused hhost⟩⟩
  · obtain ⟨hspace, hblank⟩ := not_or.1 hhost
    have hread : parseTargetRequest (.text (connectText request)) = .ok (request.targetHost, request.targetPort) :=
      parseTargetRequest_connectText hspace hblank
    refine ⟨Or.inl hread, ?_, fun h => absurd h hhost⟩
    rintro ⟨err, herr⟩
    rw [hread] at herr
    cases herr

/-- a host that would shift the cut to another port is refused -/
example : parseTargetRequest (.text (connectText ⟨"request-1", "internal 22", 443⟩)) =
    .error (.invalidTargetRequest "CONNECT internal 22 443") := by decide

end N0wss.Gateway
