/-
The server's side of a new connection (`handle_accepted` in `wss_gateway/mod.rs`): the first message is the credential, the
second says which loop serves the connection.

What TLS, the websocket upgrade and sending the acknowledgement return is an input, as is everything the client sends.
A loop that is entered is a value of its own: `server_proxy_loop` with the target request and the messages that follow,
`server_datagram_loop` with the association id and the messages that follow.

- `handleAccepted_of_rejected`: a first message that is not allowed ends the connection, whatever follows.
- `only_token_opens_iff`: the tunnel opens on the token's bytes alone if and only if the token has no U+FFFD.
- `malformed_credential_opens`: with U+FFFD as token, one byte that is no UTF-8 at all opens a proxied connection.
-/
import N0wss.Gateway.Auth
import N0wss.Gateway.Requests

namespace N0wss.Gateway

open Text

/-! ## The server's side -/

/-- how the steps that are not messages end: with nothing, or with an error text -/
structure Acceptance where
  tls : Except String Unit
  upgrade : Except String Unit
  sendOk : Except String Unit

/-- what the websocket delivers: messages, or an error in their place; past the end there is nothing -/
abbrev Frames := List (Except String Message)

inductive Accepted where
  | failed (err : WssError)
  | serverDatagramLoop (associationId : UInt64) (later : Frames)
  | serverProxyLoop (targetMessage : Message) (later : Frames)
deriving DecidableEq

def Accepted.isLoop : Accepted → Bool
  | .failed _ => false
  | .serverDatagramLoop _ _ | .serverProxyLoop _ _ => true

/-- the credential bytes of a first message -/
def Message.credentials : Message → Option (List UInt8)
  | .binary bytes => some bytes
  | .text content => some (Utf8.encode content.toList)
  | .ping _ | .pong _ | .close | .frame => none

/-- from the acknowledged handshake on -/
def selectLoop : Frames → Accepted
  | [] => .failed (.invalidTargetRequest "missing target request")
  | .error err :: _ => .failed (.upgradeFailed err)
  | .ok targetMessage :: later =>
    match parseDatagramOpenRequest targetMessage with
    | some associationId => .serverDatagramLoop associationId later
    | none => .serverProxyLoop targetMessage later

/-- the first message is there -/
def acceptCredential (env : Acceptance) (policy : AuthPolicy) (peerLabel : String) (authMessage : Message)
    (later : Frames) : Accepted :=
  match authMessage.credentials with
  | none => .failed (.handshakeFailed "unsupported auth message type")
  | some credentials =>
    match policy.validateHandshake ⟨credentials, peerLabel⟩ with
    | .reject rejection => .failed (.authRejected rejection.redactedDetail)
    | .allow _ =>
      match env.sendOk with
      | .error err => .failed (.handshakeFailed err)
      | .ok () => selectLoop later

def handleAccepted (env : Acceptance) (policy : AuthPolicy) (peerLabel : String) (frames : Frames) : Accepted :=
  match env.tls, env.upgrade with
  | .error err, _ => .failed (.handshakeFailed err)
  | .ok (), .error err => .failed (.upgradeFailed err)
  | .ok (), .ok () =>
    match frames with
    | [] => .failed (.handshakeFailed "missing auth message")
    | .error err :: _ => .failed (.handshakeFailed err)
    | .ok authMessage :: later => acceptCredential env policy peerLabel authMessage later

/-! ## What a first message decides -/

/-- a first message whose credential is allowed -/
def Admitted (policy : AuthPolicy) (peerLabel : String) (first : Option (Except String Message)) : Prop :=
  ∃ message credentials, first = some (.ok message) ∧ message.credentials = some credentials ∧
    (policy.validateHandshake ⟨credentials, peerLabel⟩).isAllow = true

/-- a first message that is text or binary with exactly the token's bytes -/
def Presents (policy : AuthPolicy) (first : Option (Except String Message)) : Prop :=
  ∃ message, first = some (.ok message) ∧ message.credentials = some policy.tokenBytes

/-- the outcome for a connection whose first message is not allowed -/
def refusal (env : Acceptance) (policy : AuthPolicy) (peerLabel : String) (first : Option (Except String Message)) :
    Accepted :=
  handleAccepted env policy peerLabel first.toList

theorem acceptCredential_of_rejected {env : Acceptance} {policy : AuthPolicy} {peerLabel : String} {message : Message}
    (h : ¬Admitted policy peerLabel (some (.ok message))) (later : Frames) :
    acceptCredential env policy peerLabel message later = acceptCredential env policy peerLabel message [] ∧
      (acceptCredential env policy peerLabel message later).isLoop = false := by
  unfold acceptCredential
  cases hcredentials : message.credentials with
  | none => exact ⟨rfl, rfl⟩
  | some credentials =>
    simp only
    cases hdecision : policy.validateHandshake ⟨credentials, peerLabel⟩ with
    | reject rejection => exact ⟨rfl, rfl⟩
    | allow identity =>
      have hallow : (policy.validateHandshake ⟨credentials, peerLabel⟩).isAllow = true := by rw [hdecision]; rfl
      exact absurd ⟨message, credentials, rfl, hcredentials, hallow⟩ h

/-- **A refused connection.** No loop is entered, and what the client sends after its first message changes nothing. -/
theorem handleAccepted_of_rejected (env : Acceptance) {policy : AuthPolicy} {peerLabel : String} {frames : Frames}
    (h : ¬Admitted policy peerLabel frames.head?) :
    handleAccepted env policy peerLabel frames = refusal env policy peerLabel frames.head? ∧
      (handleAccepted env policy peerLabel frames).isLoop = false := by
  unfold refusal handleAccepted
  rcases env.tls with err | ⟨⟨⟩⟩
  · exact ⟨rfl, rfl⟩
  rcases env.upgrade with err | ⟨⟨⟩⟩
  · exact ⟨rfl, rfl⟩
  match frames with
  | [] => exact ⟨rfl, rfl⟩
  | .error err :: later => exact ⟨rfl, rfl⟩
  | .ok message :: later => exact acceptCredential_of_rejected h later

/-- with a token that has no U+FFFD, only its own bytes are allowed -/
theorem presents_of_admitted {policy : AuthPolicy} (hexact : ValidatesExactly policy) {peerLabel : String}
    {first : Option (Except String Message)} (h : Admitted policy peerLabel first) : Presents policy first := by
  obtain ⟨message, credentials, hfirst, hcredentials, hallow⟩ := h
  have hlabel := ((validateHandshake_isAllow_iff policy ⟨credentials, peerLabel⟩).1 hallow).1
  have hbytes : credentials = policy.tokenBytes := (hexact ⟨credentials, peerLabel⟩ hlabel).1 hallow
  exact ⟨message, hfirst, by rw [hcredentials, hbytes]⟩

/-! ## Main result -/

/-- a loop is reached only behind the token; without it, nothing after the first message matters -/
def GatesExactly (policy : AuthPolicy) : Prop :=
  ∀ (env : Acceptance) (peerLabel : String) (frames : Frames),
    ((handleAccepted env policy peerLabel frames).isLoop = true → Presents policy frames.head?) ∧
      (¬Presents policy frames.head? → ∀ frames' : Frames, frames'.head? = frames.head? →
        handleAccepted env policy peerLabel frames' = handleAccepted env policy peerLabel frames)

theorem gatesExactly_of_validatesExactly {policy : AuthPolicy} (hexact : ValidatesExactly policy) :
    GatesExactly policy := by
  intro env peerLabel frames
  have hrejected : ¬Presents policy frames.head? → ¬Admitted policy peerLabel frames.head? :=
    mt (presents_of_admitted hexact)
  constructor
  · intro hloop
    by_contra hnot
    have hclosed := (handleAccepted_of_rejected env (hrejected hnot)).2
    rw [hclosed] at hloop
    cases hloop
  · intro hnot frames' hhead
    have hrejected' : ¬Admitted policy peerLabel frames'.head? := by rw [hhead]; exact hrejected hnot
    rw [(handleAccepted_of_rejected env hrejected').1, (handleAccepted_of_rejected env (hrejected hnot)).1, hhead]

/-- **Only the token opens the tunnel.** The handshake allows exactly the token's bytes, and no connection reaches a loop
without them, if and only if the token has no U+FFFD. -/
theorem only_token_opens_iff (policy : AuthPolicy) :
    ValidatesExactly policy ∧ GatesExactly policy ↔ Utf8.replacement ∉ policy.expectedToken.toList := by
  constructor
  · rintro ⟨hexact, -⟩
    exact (validatesExactly_iff policy).1 hexact
  · intro hnot
    have hexact := (validatesExactly_iff policy).2 hnot
    exact ⟨hexact, gatesExactly_of_validatesExactly hexact⟩

/-- the token U+FFFD -/
def replacementPolicy : AuthPolicy := ⟨"\uFFFD", by decide⟩

/-- **A credential that is not the token.** One byte that is no UTF-8 is allowed, and the connection is proxied. -/
theorem malformed_credential_opens :
    AuthPolicy.fromConfig ⟨"\uFFFD"⟩ = .ok replacementPolicy ∧
      [0xFF] ≠ replacementPolicy.tokenBytes ∧
      (replacementPolicy.validateHandshake ⟨[0xFF], "10.0.0.9:50000"⟩).isAllow = true ∧
      handleAccepted ⟨.ok (), .ok (), .ok ()⟩ replacementPolicy "10.0.0.9:50000"
          [.ok (.binary [0xFF]), .ok (.text "CONNECT localhost 22")] =
        .serverProxyLoop (.text "CONNECT localhost 22") [] ∧
      ¬(ValidatesExactly replacementPolicy ∧ GatesExactly replacementPolicy) := by
  have hallow : (replacementPolicy.validateHandshake ⟨[0xFF], "10.0.0.9:50000"⟩).isAllow = true := by decide
  have hne : [0xFF] ≠ replacementPolicy.tokenBytes := by decide
  refine ⟨replacementPolicy.fromConfig_expectedToken, hne, hallow, by decide, ?_⟩
  rintro ⟨hexact, -⟩
  exact hne ((hexact ⟨[0xFF], "10.0.0.9:50000"⟩ (by decide)).1 hallow)

end N0wss.Gateway
