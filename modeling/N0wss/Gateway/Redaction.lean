/-
What a rejection tells (`validate_handshake` in `auth/mod.rs`, `redact_secret` in `obs/mod.rs`, and the error that
`handle_accepted` makes of it).

- `validateHandshake_eq_reject`: the rejection is a function of what was presented; the policy only decides whether there
  is one.
- `redactSecret_eq_of_sameEdges`: of a text of more than four characters the first two and the last two are shown, and of
  a shorter one nothing.
- `rejection_reveals_edges`: two runs that agree on that much are told apart by nothing.
-/
import N0wss.Gateway.Handshake

namespace N0wss.Gateway

open Text

/-! ## Redaction -/

/-- two presented texts, of which a redaction shows the same -/
def SameEdges (a b : List Char) : Prop :=
  (a ≠ [] ∧ b ≠ [] ∧ a.length ≤ 4 ∧ b.length ≤ 4) ∨
    (4 < a.length ∧ 4 < b.length ∧ a.take 2 = b.take 2 ∧ a.drop (a.length - 2) = b.drop (b.length - 2))

instance (a b : List Char) : Decidable (SameEdges a b) := inferInstanceAs (Decidable (_ ∨ _))

theorem SameEdges.ne_nil {a b : List Char} (h : SameEdges a b) : a ≠ [] ∧ b ≠ [] := by
  obtain ⟨ha, hb, -, -⟩ | ⟨ha, hb, -, -⟩ := h
  · exact ⟨ha, hb⟩
  · exact ⟨List.ne_nil_of_length_pos (by omega), List.ne_nil_of_length_pos (by omega)⟩

/-- the suffix, taken from the end character by character -/
theorem reverse_take_two_reverse (a : List Char) : (a.reverse.take 2).reverse = a.drop (a.length - 2) := by
  rw [List.take_reverse, List.reverse_reverse]

theorem redactSecret_of_short {a : List Char} (h : a.length ≤ 4) : redactSecret a = "***" := if_pos h

theorem redactSecret_of_long {a : List Char} (h : 4 < a.length) :
    redactSecret a = String.ofList (a.take 2) ++ "***" ++ String.ofList (a.drop (a.length - 2)) := by
  rw [redactSecret, if_neg (not_le.2 h), reverse_take_two_reverse]

theorem redactSecret_eq_of_sameEdges {a b : List Char} (h : SameEdges a b) : redactSecret a = redactSecret b := by
  obtain ⟨-, -, ha, hb⟩ | ⟨ha, hb, hfront, hback⟩ := h
  · rw [redactSecret_of_short ha, redactSecret_of_short hb]
  · rw [redactSecret_of_long ha, redactSecret_of_long hb, hfront, hback]

/-! ## Rejections -/

/-- the rejection of a handshake, if it is rejected -/
def rejectionOf (metadata : HandshakeMetadata) : AuthRejection :=
  if trim metadata.peerLabel.toList = [] then ⟨.emptyPeerLabel, "peer label missing"⟩
  else if metadata.credentials = [] then ⟨.missingCredential, "credential missing"⟩
  else ⟨.invalidCredential, "credential=" ++ redactSecret (Utf8.lossy metadata.credentials)⟩

/-- a rejection does not depend on the policy -/
theorem validateHandshake_eq_reject {policy : AuthPolicy} {metadata : HandshakeMetadata} {rejection : AuthRejection}
    (h : policy.validateHandshake metadata = .reject rejection) : rejection = rejectionOf metadata := by
  unfold AuthPolicy.validateHandshake at h
  unfold rejectionOf
  by_cases hlabel : trim metadata.peerLabel.toList = []
  · rw [if_pos hlabel] at h ⊢
    exact (AuthDecision.reject.inj h).symm
  rw [if_neg hlabel] at h ⊢
  by_cases hcredentials : metadata.credentials = []
  · rw [if_pos hcredentials] at h ⊢
    exact (AuthDecision.reject.inj h).symm
  rw [if_neg hcredentials] at h ⊢
  simp only at h
  split_ifs at h
  exact (AuthDecision.reject.inj h).symm

theorem rejectionOf_eq_of_sameEdges {credentials credentials' : List UInt8}
    (h : SameEdges (Utf8.lossy credentials) (Utf8.lossy credentials')) (peerLabel : String) :
    rejectionOf ⟨credentials, peerLabel⟩ = rejectionOf ⟨credentials', peerLabel⟩ := by
  have hpresented : credentials ≠ [] := by
    rintro rfl
    exact h.ne_nil.1 rfl
  have hpresented' : credentials' ≠ [] := by
    rintro rfl
    exact h.ne_nil.2 rfl
  simp only [rejectionOf, if_neg hpresented, if_neg hpresented', redactSecret_eq_of_sameEdges h]

/-- the server's error for a rejected first message -/
theorem acceptCredential_of_reject {env : Acceptance} {policy : AuthPolicy} {peerLabel : String} {message : Message}
    {credentials : List UInt8} (later : Frames) (hcredentials : message.credentials = some credentials)
    (hrejected : (policy.validateHandshake ⟨credentials, peerLabel⟩).isAllow = false) :
    acceptCredential env policy peerLabel message later =
      .failed (.authRejected (rejectionOf ⟨credentials, peerLabel⟩).redactedDetail) := by
  rw [acceptCredential, hcredentials]
  simp only
  cases hdecision : policy.validateHandshake ⟨credentials, peerLabel⟩ with
  | allow identity =>
    rw [hdecision] at hrejected
    cases hrejected
  | reject rejection => rw [validateHandshake_eq_reject hdecision]

/-- **A rejection shows the edges of what was presented, and nothing else.** Not the expected token: policies that reject
the same handshake reject it alike. Not lengths, inner characters or the kind of malformed bytes: credentials with the same
edges are rejected alike, and the connection ends with the same error. -/
theorem rejection_reveals_edges :
    (∀ (policy policy' : AuthPolicy) metadata rejection rejection',
      policy.validateHandshake metadata = .reject rejection → policy'.validateHandshake metadata = .reject rejection' →
        rejection = rejection') ∧
    (∀ (policy policy' : AuthPolicy) peerLabel credentials credentials' rejection rejection',
      policy.validateHandshake ⟨credentials, peerLabel⟩ = .reject rejection →
      policy'.validateHandshake ⟨credentials', peerLabel⟩ = .reject rejection' →
      SameEdges (Utf8.lossy credentials) (Utf8.lossy credentials') → rejection = rejection') ∧
    ∀ env (policy policy' : AuthPolicy) peerLabel message message' later later' credentials credentials',
      Message.credentials message = some credentials → Message.credentials message' = some credentials' →
      (policy.validateHandshake ⟨credentials, peerLabel⟩).isAllow = false →
      (policy'.validateHandshake ⟨credentials', peerLabel⟩).isAllow = false →
      SameEdges (Utf8.lossy credentials) (Utf8.lossy credentials') →
      handleAccepted env policy peerLabel (.ok message :: later) =
        handleAccepted env policy' peerLabel (.ok message' :: later') := by
  refine ⟨?_, ?_, ?_⟩
  · intro policy policy' metadata rejection rejection' h h'
    rw [validateHandshake_eq_reject h, validateHandshake_eq_reject h']
  · intro policy policy' peerLabel credentials credentials' rejection rejection' h h' hedges
    rw [validateHandshake_eq_reject h, validateHandshake_eq_reject h', rejectionOf_eq_of_sameEdges hedges]
  · intro env policy policy' peerLabel message message' later later' credentials credentials' hm hm' h h' hedges
    have hsame := rejectionOf_eq_of_sameEdges hedges peerLabel
    unfold handleAccepted
    rcases env.tls with err | ⟨⟨⟩⟩
    · rfl
    rcases env.upgrade with err | ⟨⟨⟩⟩
    · rfl
    simp only [acceptCredential_of_reject later hm h, acceptCredential_of_reject later' hm' h', hsame]

/-- a two-byte character at each end, and malformed bytes against letters in between -/
theorem rejection_reveals_edges_multibyte :
    AuthPolicy.validateHandshake ⟨"secret", by decide⟩ ⟨[0xC3, 0xA9, 0x61, 0xFF, 0xFE, 0x7A, 0xC3, 0xA9], "peer"⟩ =
      AuthPolicy.validateHandshake ⟨"other", by decide⟩
        ⟨[0xC3, 0xA9, 0x61, 0x62, 0x63, 0x64, 0x65, 0x7A, 0xC3, 0xA9], "peer"⟩ := by
  have h : AuthPolicy.validateHandshake ⟨"secret", by decide⟩
      ⟨[0xC3, 0xA9, 0x61, 0xFF, 0xFE, 0x7A, 0xC3, 0xA9], "peer"⟩ = .reject ⟨.invalidCredential, "credential=éa***zé"⟩ := by
    decide
  obtain ⟨rejection, h'⟩ : ∃ rejection, AuthPolicy.validateHandshake ⟨"other", by decide⟩
      ⟨[0xC3, 0xA9, 0x61, 0x62, 0x63, 0x64, 0x65, 0x7A, 0xC3, 0xA9], "peer"⟩ = .reject rejection := ⟨_, rfl⟩
  rw [h, h', rejection_reveals_edges.2.1 _ _ _ _ _ _ _ h h' (by decide)]

end N0wss.Gateway
