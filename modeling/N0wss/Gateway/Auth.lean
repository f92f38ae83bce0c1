/-
Admission to the tunnel (`auth/mod.rs`): a policy holds the expected token, and a handshake is allowed or rejected by the
credential bytes it presents.

The bytes are compared after a lossy UTF-8 decoding, which maps every malformed sequence to U+FFFD.

- `validateHandshake_isAllow_iff`: what a handshake has to present to be allowed.
- `validatesExactly_iff`: the token's own bytes are the only credential if and only if the token has no U+FFFD.
-/
import N0wss.Core.Text
import N0wss.Core.Utf8

namespace N0wss.Gateway

open Text

/-! ## Policies -/

structure AuthPolicyConfig where
  expectedToken : String
deriving DecidableEq, Repr

/-- the token is private to its module, which never builds a policy with a blank one -/
structure AuthPolicy where
  expectedToken : String
  notBlank : trim expectedToken.toList ≠ []

inductive AuthPolicyError where
  | emptyExpectedToken
deriving DecidableEq, Repr

/-- `AuthPolicy::from_config` -/
def AuthPolicy.fromConfig (config : AuthPolicyConfig) : Except AuthPolicyError AuthPolicy :=
  if h : trim config.expectedToken.toList = [] then .error .emptyExpectedToken else .ok ⟨config.expectedToken, h⟩

/-- every policy is the policy of its token -/
theorem AuthPolicy.fromConfig_expectedToken (policy : AuthPolicy) :
    AuthPolicy.fromConfig ⟨policy.expectedToken⟩ = .ok policy := dif_neg policy.notBlank

/-- the UTF-8 bytes of the token -/
def AuthPolicy.tokenBytes (policy : AuthPolicy) : List UInt8 := Utf8.encode policy.expectedToken.toList

/-! ## Decisions -/

structure HandshakeMetadata where
  credentials : List UInt8
  peerLabel : String
deriving DecidableEq, Repr

inductive Permissions where
  | tunnelProxy
deriving DecidableEq, Repr

structure ValidatedIdentity where
  label : String
  permissions : Permissions
deriving DecidableEq, Repr

inductive RejectReason where
  | missingCredential
  | invalidCredential
  | emptyPeerLabel
deriving DecidableEq, Repr

structure AuthRejection where
  reason : RejectReason
  redactedDetail : String
deriving DecidableEq, Repr

inductive AuthDecision where
  | allow (identity : ValidatedIdentity)
  | reject (rejection : AuthRejection)
deriving DecidableEq, Repr

def AuthDecision.isAllow : AuthDecision → Bool
  | .allow _ => true
  | .reject _ => false

/-- `obs::redact_secret`: the first two and the last two characters of a text of more than four -/
def redactSecret (secret : List Char) : String :=
  if secret.length ≤ 4 then "***"
  else String.ofList (secret.take 2) ++ "***" ++ String.ofList ((secret.reverse.take 2).reverse)

def AuthPolicy.validateHandshake (policy : AuthPolicy) (metadata : HandshakeMetadata) : AuthDecision :=
  if trim metadata.peerLabel.toList = [] then .reject ⟨.emptyPeerLabel, "peer label missing"⟩
  else if metadata.credentials = [] then .reject ⟨.missingCredential, "credential missing"⟩
  else
    let presentedToken := Utf8.lossy metadata.credentials
    if presentedToken ≠ policy.expectedToken.toList then
      .reject ⟨.invalidCredential, "credential=" ++ redactSecret presentedToken⟩
    else .allow ⟨"peer:" ++ metadata.peerLabel, .tunnelProxy⟩

/-- a handshake is allowed on a credential that reads as the token -/
theorem validateHandshake_isAllow_iff (policy : AuthPolicy) (metadata : HandshakeMetadata) :
    (policy.validateHandshake metadata).isAllow = true ↔
      trim metadata.peerLabel.toList ≠ [] ∧ Utf8.lossy metadata.credentials = policy.expectedToken.toList := by
  have hne : metadata.credentials = [] → Utf8.lossy metadata.credentials ≠ policy.expectedToken.toList := by
    intro hnil htoken
    rw [hnil] at htoken
    exact policy.notBlank (by rw [← htoken]; rfl)
  simp only [AuthPolicy.validateHandshake]
  by_cases hlabel : trim metadata.peerLabel.toList = []
  · rw [if_pos hlabel]
    exact ⟨nofun, fun h => absurd hlabel h.1⟩
  rw [if_neg hlabel]
  by_cases hcredentials : metadata.credentials = []
  · rw [if_pos hcredentials]
    exact ⟨nofun, fun h => absurd h.2 (hne hcredentials)⟩
  rw [if_neg hcredentials]
  by_cases htoken : Utf8.lossy metadata.credentials = policy.expectedToken.toList
  · rw [if_neg (not_not.2 htoken)]
    exact ⟨fun _ => ⟨hlabel, htoken⟩, fun _ => rfl⟩
  · rw [if_pos htoken]
    exact ⟨nofun, fun h => absurd h.2 htoken⟩

/-! ## Which credentials are the token -/

/-- on every peer label that is not blank, the token's bytes are allowed and no others -/
def ValidatesExactly (policy : AuthPolicy) : Prop :=
  ∀ metadata : HandshakeMetadata, trim metadata.peerLabel.toList ≠ [] →
    ((policy.validateHandshake metadata).isAllow = true ↔ metadata.credentials = policy.tokenBytes)

theorem validatesExactly_iff (policy : AuthPolicy) :
    ValidatesExactly policy ↔ Utf8.replacement ∉ policy.expectedToken.toList := by
  constructor
  · intro hexact hmem
    obtain ⟨bytes, hne, hreads⟩ := Utf8.exists_lossy_collision hmem
    have hlabel : trim "peer".toList ≠ [] := by decide
    have hallow : (policy.validateHandshake ⟨bytes, "peer"⟩).isAllow = true :=
      (validateHandshake_isAllow_iff policy ⟨bytes, "peer"⟩).2 ⟨hlabel, hreads⟩
    exact hne ((hexact ⟨bytes, "peer"⟩ hlabel).1 hallow)
  · intro hnot metadata hlabel
    rw [validateHandshake_isAllow_iff, Utf8.lossy_eq_iff hnot]
    exact ⟨And.right, fun h => ⟨hlabel, h⟩⟩

end N0wss.Gateway
