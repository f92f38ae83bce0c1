/-
TLS material (`tls/mod.rs`): which certificates and keys a context is built of, and what is checked of them before.

What the PEM and X.509 parsers, the TLS library, the clock and the files answer is an input. A file may change between
two reads, so a read has a number.

- `fromConfig_eq_ok_iff`: a context for both sides is built of material that passed every check.
- `fromConfig_untrusted_iff`: material is untrusted exactly where its leaf is self-issued and no trust anchor.
- `trust_is_anchored`: both, with what the context presents and what it trusts.
- `raises_fromClientConfig`: which errors a context for one side can end in; an anchor's time is not looked at.
-/
import N0wss.Core.Bytes
import N0wss.Core.Stages

namespace N0wss.Tls

open Stages

/-! ## Certificates and keys -/

abbrev CertificateDer := List UInt8

inductive PrivateKeyDer where
  | pkcs8 (der : List UInt8)
  | pkcs1 (der : List UInt8)
deriving DecidableEq, Repr

/-- the name of an issuer or a subject, as it stands in the certificate -/
structure X509Name where
  raw : List UInt8
deriving DecidableEq, Repr

/-- what is read of a parsed certificate -/
structure X509Certificate where
  issuer : X509Name
  subject : X509Name
  notBefore : ℤ
  notAfter : ℤ
deriving DecidableEq, Repr

/-- `validity().is_valid()` -/
def X509Certificate.isValid (certificate : X509Certificate) (now : ℤ) : Bool :=
  certificate.notBefore ≤ now ∧ now ≤ certificate.notAfter

/-- certificates of which there is a first one -/
structure CertChain where
  leaf : CertificateDer
  rest : List CertificateDer
deriving DecidableEq, Repr

def CertChain.toList (chain : CertChain) : List CertificateDer := chain.leaf :: chain.rest

/-- what the machine and the libraries answer -/
structure Env where
  /-- the file at this path, at the read with this number -/
  read : ℕ → String → Option (List UInt8)
  /-- the certificates of a PEM file, unless one of them is malformed -/
  certs : List UInt8 → Option (List CertificateDer)
  /-- the first key of its kind, or an error in its place -/
  pkcs8PrivateKey : List UInt8 → Option (Except Unit (List UInt8))
  rsaPrivateKey : List UInt8 → Option (Except Unit (List UInt8))
  fromDer : CertificateDer → Option X509Certificate
  nameText : X509Name → String
  now : ℤ
  /-- `duration_since(UNIX_EPOCH)` -/
  sinceEpoch : Except String Unit
  addRoot : CertificateDer → Except String Unit
  withSingleCert : List CertificateDer → PrivateKeyDer → Except String Unit

/-! ## Contexts -/

structure TlsConfig where
  certPath : String
  keyPath : String
  trustAnchorPath : String
deriving DecidableEq, Repr

structure ClientTlsConfig where
  trustAnchorPath : String
deriving DecidableEq, Repr

/-- what a server presents -/
structure TlsAcceptor where
  chain : CertChain
  key : PrivateKeyDer
deriving DecidableEq, Repr

/-- what a client trusts -/
structure TlsConnector where
  roots : CertChain
deriving DecidableEq, Repr

structure TlsContextHandle where
  acceptor : Option TlsAcceptor
  connector : Option TlsConnector
  leafSubject : String
deriving DecidableEq, Repr

inductive TlsError where
  | missingFile (path : String)
  | invalidCertificatePem
  | invalidPrivateKeyPem
  | invalidTrustAnchorPem
  | certificateExpired
  | untrustedMaterial
  | invalidServerName (name : String)
  | handshakeFailed (detail : String)
  | configInvalid (detail : String)
  | missingServerContext
  | missingClientContext
deriving DecidableEq, Repr

/-- `TlsError`'s `Display` -/
def TlsError.text : TlsError → String
  | .missingFile path => "missing TLS material: " ++ path
  | .invalidCertificatePem => "certificate PEM is invalid"
  | .invalidPrivateKeyPem => "private key PEM is invalid"
  | .invalidTrustAnchorPem => "trust anchor PEM is invalid"
  | .certificateExpired => "certificate has expired"
  | .untrustedMaterial => "TLS material is not trusted by the configured trust anchors"
  | .invalidServerName name => "invalid server name: " ++ name
  | .handshakeFailed detail => "TLS handshake failed: " ++ detail
  | .configInvalid detail => "TLS configuration invalid: " ++ detail
  | .missingServerContext => "server-side TLS acceptor is unavailable in this context"
  | .missingClientContext => "client-side TLS connector is unavailable in this context"

def readFile (env : Env) (n : ℕ) (path : String) : Except TlsError (List UInt8) :=
  match env.read n path with
  | some bytes => .ok bytes
  | none => .error (.missingFile path)

def parseCertificates (env : Env) (input : List UInt8) (parseError : TlsError) : Except TlsError CertChain :=
  match env.certs input with
  | none => .error parseError
  | some [] => .error parseError
  | some (leaf :: rest) => .ok ⟨leaf, rest⟩

def parsePrivateKey (env : Env) (input : List UInt8) : Except TlsError PrivateKeyDer :=
  match env.pkcs8PrivateKey input with
  | some (.ok key) => .ok (.pkcs8 key)
  | some (.error _) => .error .invalidPrivateKeyPem
  | none =>
    match env.rsaPrivateKey input with
    | some (.ok key) => .ok (.pkcs1 key)
    | some (.error _) | none => .error .invalidPrivateKeyPem

/-- `X509Certificate::from_der`, with the error that all callers give it -/
def parseDer (env : Env) (leaf : CertificateDer) : Except TlsError X509Certificate :=
  match env.fromDer leaf with
  | some certificate => .ok certificate
  | none => .error .invalidCertificatePem

def validateLeafCertificate (env : Env) (leaf : CertificateDer) : Except TlsError Unit := do
  let certificate ← parseDer env leaf
  env.sinceEpoch.mapError .configInvalid
  if certificate.isValid env.now then .ok () else .error .certificateExpired

def validateTrustRelationship (env : Env) (leaf : CertificateDer) (trustAnchors : List CertificateDer) :
    Except TlsError Unit := do
  let certificate ← parseDer env leaf
  let isSelfIssued := certificate.issuer = certificate.subject
  let trustedExactMatch := trustAnchors.any fun anchor => anchor == leaf
  if isSelfIssued ∧ ¬trustedExactMatch then .error .untrustedMaterial else .ok ()

def describeSubject (env : Env) (leaf : CertificateDer) : Except TlsError String := do
  let certificate ← parseDer env leaf
  .ok (env.nameText certificate.subject)

/-- the trust anchors are put into a root store, one after the other -/
def addRoots (env : Env) (trustAnchors : CertChain) : Except TlsError Unit :=
  inOrder (trustAnchors.toList.map fun anchor => (env.addRoot anchor).mapError .configInvalid)

def fromConfig (env : Env) (config : TlsConfig) : Except TlsError TlsContextHandle := do
  let certBytes ← readFile env 0 config.certPath
  let keyBytes ← readFile env 1 config.keyPath
  let trustAnchorBytes ← readFile env 2 config.trustAnchorPath
  let certChain ← parseCertificates env certBytes .invalidCertificatePem
  let privateKey ← parsePrivateKey env keyBytes
  let trustAnchors ← parseCertificates env trustAnchorBytes .invalidTrustAnchorPem
  validateLeafCertificate env certChain.leaf
  validateTrustRelationship env certChain.leaf trustAnchors.toList
  addRoots env trustAnchors
  (env.withSingleCert certChain.toList privateKey).mapError .configInvalid
  let leafSubject ← describeSubject env certChain.leaf
  .ok ⟨some ⟨certChain, privateKey⟩, some ⟨trustAnchors⟩, leafSubject⟩

def fromClientConfig (env : Env) (config : ClientTlsConfig) : Except TlsError TlsContextHandle := do
  let trustAnchorBytes ← readFile env 0 config.trustAnchorPath
  let trustAnchors ← parseCertificates env trustAnchorBytes .invalidTrustAnchorPem
  addRoots env trustAnchors
  let leafSubject ← describeSubject env trustAnchors.leaf
  .ok ⟨none, some ⟨trustAnchors⟩, leafSubject⟩

/-- `accept`; `handshake` is how the handshake with this acceptor ends -/
def TlsContextHandle.accept {α : Type} (handle : TlsContextHandle) (handshake : TlsAcceptor → Except String α) :
    Except TlsError α :=
  match handle.acceptor with
  | none => .error .missingServerContext
  | some acceptor => (handshake acceptor).mapError .handshakeFailed

/-- `connect`; `serverName` is whether the domain can be a server name -/
def TlsContextHandle.connect {α : Type} (handle : TlsContextHandle) (serverName : String → Bool) (domain : String)
    (handshake : TlsConnector → Except String α) : Except TlsError α :=
  if serverName domain then
    match handle.connector with
    | none => .error .missingClientContext
    | some connector => (handshake connector).mapError .handshakeFailed
  else .error (.invalidServerName domain)

/-! ## Stages -/

variable {env : Env}

theorem readFile_eq_ok_iff {n : ℕ} {path : String} {bytes : List UInt8} :
    readFile env n path = .ok bytes ↔ env.read n path = some bytes := by
  unfold readFile
  cases env.read n path <;> simp

theorem parseCertificates_eq_ok_iff {input : List UInt8} {parseError : TlsError} {chain : CertChain} :
    parseCertificates env input parseError = .ok chain ↔ env.certs input = some chain.toList := by
  unfold parseCertificates CertChain.toList
  rcases env.certs input with _ | _ | ⟨leaf, rest⟩
  · simp
  · simp
  · obtain ⟨leaf', rest'⟩ := chain
    simp

theorem parseDer_eq_ok_iff {leaf : CertificateDer} {certificate : X509Certificate} :
    parseDer env leaf = .ok certificate ↔ env.fromDer leaf = some certificate := by
  unfold parseDer
  cases env.fromDer leaf <;> simp

theorem validateLeafCertificate_eq_ok_iff {leaf : CertificateDer} :
    validateLeafCertificate env leaf = .ok () ↔
      ∃ certificate, env.fromDer leaf = some certificate ∧ env.sinceEpoch = .ok () ∧
        certificate.isValid env.now = true := by
  unfold validateLeafCertificate
  rw [bind_eq_ok_iff]
  refine exists_congr fun certificate => ?_
  rw [parseDer_eq_ok_iff, bind_eq_ok_iff]
  refine and_congr_right fun _ => ?_
  constructor
  · rintro ⟨_, hclock, hvalid⟩
    refine ⟨mapError_eq_ok_iff.1 hclock, ?_⟩
    split at hvalid
    · assumption
    · cases hvalid
  · rintro ⟨hclock, hvalid⟩
    exact ⟨(), mapError_eq_ok_iff.2 hclock, if_pos hvalid⟩

/-- a certificate that is issued by its own subject -/
def X509Certificate.SelfIssued (certificate : X509Certificate) : Prop := certificate.issuer = certificate.subject

instance (certificate : X509Certificate) : Decidable certificate.SelfIssued :=
  inferInstanceAs (Decidable (certificate.issuer = certificate.subject))

/-- the check of the trust relationship, once the leaf is parsed -/
theorem validateTrustRelationship_of_parsed {leaf : CertificateDer} {certificate : X509Certificate}
    (hparsed : env.fromDer leaf = some certificate) (trustAnchors : List CertificateDer) :
    validateTrustRelationship env leaf trustAnchors =
      if certificate.SelfIssued ∧ leaf ∉ trustAnchors then .error .untrustedMaterial else .ok () := by
  have hmatch : (trustAnchors.any fun anchor => anchor == leaf) = true ↔ leaf ∈ trustAnchors := by simp
  unfold validateTrustRelationship
  rw [bind_of_ok (parseDer_eq_ok_iff.2 hparsed)]
  exact if_congr (and_congr Iff.rfl (not_congr hmatch)) rfl rfl

theorem addRoots_eq_ok_iff {trustAnchors : CertChain} :
    addRoots env trustAnchors = .ok () ↔ ∀ anchor ∈ trustAnchors.toList, env.addRoot anchor = .ok () := by
  unfold addRoots
  rw [inOrder_eq_ok_iff]
  simp only [List.forall_mem_map, mapError_eq_ok_iff]

/-! ## A context for both sides -/

/-- the material that the files of a configuration hold -/
structure Loads (env : Env) (config : TlsConfig) (chain : CertChain) (key : PrivateKeyDer) (anchors : CertChain) :
    Prop where
  certs : ∃ bytes, env.read 0 config.certPath = some bytes ∧ env.certs bytes = some chain.toList
  key : ∃ bytes, env.read 1 config.keyPath = some bytes ∧ parsePrivateKey env bytes = .ok key
  anchors : ∃ bytes, env.read 2 config.trustAnchorPath = some bytes ∧ env.certs bytes = some anchors.toList

/-- the leaf is one that is valid now -/
structure ValidLeaf (env : Env) (leaf : CertificateDer) (certificate : X509Certificate) : Prop where
  parsed : env.fromDer leaf = some certificate
  clock : env.sinceEpoch = .ok ()
  valid : certificate.isValid env.now = true

/-- the first stages of `from_config`: the files are read and parsed -/
def loadMaterial (env : Env) (config : TlsConfig) : Except TlsError (CertChain × PrivateKeyDer × CertChain) := do
  let certBytes ← readFile env 0 config.certPath
  let keyBytes ← readFile env 1 config.keyPath
  let trustAnchorBytes ← readFile env 2 config.trustAnchorPath
  let certChain ← parseCertificates env certBytes .invalidCertificatePem
  let privateKey ← parsePrivateKey env keyBytes
  let trustAnchors ← parseCertificates env trustAnchorBytes .invalidTrustAnchorPem
  .ok (certChain, privateKey, trustAnchors)

/-- the stages after them -/
def buildContext (env : Env) (chain : CertChain) (key : PrivateKeyDer) (anchors : CertChain) :
    Except TlsError TlsContextHandle := do
  validateLeafCertificate env chain.leaf
  validateTrustRelationship env chain.leaf anchors.toList
  addRoots env anchors
  (env.withSingleCert chain.toList key).mapError .configInvalid
  let leafSubject ← describeSubject env chain.leaf
  .ok ⟨some ⟨chain, key⟩, some ⟨anchors⟩, leafSubject⟩

theorem fromConfig_eq (env : Env) (config : TlsConfig) :
    fromConfig env config = loadMaterial env config >>= fun m => buildContext env m.1 m.2.1 m.2.2 := by
  simp only [fromConfig, loadMaterial, bind_assoc]
  rfl

theorem loadMaterial_eq_ok_iff {config : TlsConfig} {chain anchors : CertChain} {key : PrivateKeyDer} :
    loadMaterial env config = .ok (chain, key, anchors) ↔ Loads env config chain key anchors := by
  constructor
  · intro h
    obtain ⟨certBytes, hreadCert, h⟩ := bind_eq_ok_iff.1 h
    obtain ⟨keyBytes, hreadKey, h⟩ := bind_eq_ok_iff.1 h
    obtain ⟨anchorBytes, hreadAnchor, h⟩ := bind_eq_ok_iff.1 h
    obtain ⟨chain', hcert, h⟩ := bind_eq_ok_iff.1 h
    obtain ⟨key', hkey, h⟩ := bind_eq_ok_iff.1 h
    obtain ⟨anchors', hanchor, h⟩ := bind_eq_ok_iff.1 h
    cases h
    exact ⟨⟨certBytes, readFile_eq_ok_iff.1 hreadCert, parseCertificates_eq_ok_iff.1 hcert⟩,
      ⟨keyBytes, readFile_eq_ok_iff.1 hreadKey, hkey⟩,
      ⟨anchorBytes, readFile_eq_ok_iff.1 hreadAnchor, parseCertificates_eq_ok_iff.1 hanchor⟩⟩
  · intro h
    obtain ⟨certBytes, hreadCert, hcert⟩ := h.certs
    obtain ⟨keyBytes, hreadKey, hkey⟩ := h.key
    obtain ⟨anchorBytes, hreadAnchor, hanchor⟩ := h.anchors
    unfold loadMaterial
    rw [bind_of_ok (readFile_eq_ok_iff.2 hreadCert), bind_of_ok (readFile_eq_ok_iff.2 hreadKey),
      bind_of_ok (readFile_eq_ok_iff.2 hreadAnchor), bind_of_ok (parseCertificates_eq_ok_iff.2 hcert),
      bind_of_ok hkey, bind_of_ok (parseCertificates_eq_ok_iff.2 hanchor)]

/-! ## Errors -/

/-- the errors of a file that is missing or malformed -/
def TlsError.OfFile : TlsError → Prop
  | .missingFile _ | .invalidCertificatePem | .invalidPrivateKeyPem | .invalidTrustAnchorPem => True
  | _ => False

theorem raises_readFile (n : ℕ) (path : String) : Raises (· = .missingFile path) (readFile env n path) := by
  unfold readFile
  cases env.read n path with
  | some bytes => exact .ok
  | none => exact .error rfl

theorem raises_parseCertificates (input : List UInt8) (parseError : TlsError) :
    Raises (· = parseError) (parseCertificates env input parseError) := by
  unfold parseCertificates
  rcases env.certs input with _ | _ | ⟨leaf, rest⟩
  · exact .error rfl
  · exact .error rfl
  · exact .ok

theorem raises_parsePrivateKey (input : List UInt8) : Raises (· = .invalidPrivateKeyPem) (parsePrivateKey env input) := by
  unfold parsePrivateKey
  rcases env.pkcs8PrivateKey input with _ | _ | key
  · rcases env.rsaPrivateKey input with _ | _ | key
    · exact .error rfl
    · exact .error rfl
    · exact .ok
  · exact .error rfl
  · exact .ok

theorem raises_parseDer (leaf : CertificateDer) : Raises (· = .invalidCertificatePem) (parseDer env leaf) := by
  unfold parseDer
  cases env.fromDer leaf with
  | some certificate => exact .ok
  | none => exact .error rfl

theorem raises_configInvalid {α : Type} (x : Except String α) :
    Raises (fun e => ∃ detail, e = .configInvalid detail) (x.mapError TlsError.configInvalid) :=
  .mapError fun detail _ => ⟨detail, rfl⟩

theorem raises_addRoots (anchors : CertChain) :
    Raises (fun e => ∃ detail, e = .configInvalid detail) (addRoots env anchors) := by
  intro e he
  obtain ⟨pre, post, hchecks, -⟩ := inOrder_eq_error_iff.1 he
  have hmem : (Except.error e : Except TlsError Unit) ∈
      anchors.toList.map fun anchor => (env.addRoot anchor).mapError .configInvalid := by
    rw [hchecks]
    simp
  obtain ⟨anchor, -, hanchor⟩ := List.mem_map.1 hmem
  exact raises_configInvalid (env.addRoot anchor) e hanchor

theorem raises_describeSubject (leaf : CertificateDer) :
    Raises (· = .invalidCertificatePem) (describeSubject env leaf) :=
  (raises_parseDer leaf).bind fun _ _ => .ok

theorem raises_loadMaterial (config : TlsConfig) : Raises TlsError.OfFile (loadMaterial env config) := by
  have hread : ∀ n path, Raises TlsError.OfFile (readFile env n path) :=
    fun n path => (raises_readFile n path).imp (by rintro e rfl; trivial)
  have hcerts : ∀ input, Raises TlsError.OfFile (parseCertificates env input .invalidCertificatePem) :=
    fun input => (raises_parseCertificates input _).imp (by rintro e rfl; trivial)
  have hanchors : ∀ input, Raises TlsError.OfFile (parseCertificates env input .invalidTrustAnchorPem) :=
    fun input => (raises_parseCertificates input _).imp (by rintro e rfl; trivial)
  have hkey : ∀ input, Raises TlsError.OfFile (parsePrivateKey env input) :=
    fun input => (raises_parsePrivateKey input).imp (by rintro e rfl; trivial)
  exact (hread _ _).bind fun _ _ => (hread _ _).bind fun _ _ => (hread _ _).bind fun _ _ =>
    (hcerts _).bind fun _ _ => (hkey _).bind fun _ _ => (hanchors _).bind fun _ _ => .ok

/-! ## What is checked -/

/-- material that passes every check, with the leaf's certificate -/
structure Passes (env : Env) (chain : CertChain) (key : PrivateKeyDer) (anchors : CertChain)
    (certificate : X509Certificate) : Prop where
  leaf : ValidLeaf env chain.leaf certificate
  /-- a leaf that is self-issued is a trust anchor -/
  anchored : certificate.SelfIssued → chain.leaf ∈ anchors.toList
  roots : ∀ anchor ∈ anchors.toList, env.addRoot anchor = .ok ()
  single : env.withSingleCert chain.toList key = .ok ()

theorem buildContext_eq_ok_iff {chain anchors : CertChain} {key : PrivateKeyDer} {handle : TlsContextHandle} :
    buildContext env chain key anchors = .ok handle ↔ ∃ certificate, Passes env chain key anchors certificate ∧
      handle = ⟨some ⟨chain, key⟩, some ⟨anchors⟩, env.nameText certificate.subject⟩ := by
  constructor
  · intro h
    obtain ⟨_, hleaf, h⟩ := bind_eq_ok_iff.1 h
    obtain ⟨_, htrust, h⟩ := bind_eq_ok_iff.1 h
    obtain ⟨_, hroots, h⟩ := bind_eq_ok_iff.1 h
    obtain ⟨_, hsingle, h⟩ := bind_eq_ok_iff.1 h
    obtain ⟨subject, hsubject, h⟩ := bind_eq_ok_iff.1 h
    obtain ⟨certificate, hparsed, hclock, hvalid⟩ := validateLeafCertificate_eq_ok_iff.1 hleaf
    cases h
    have hname : env.nameText certificate.subject = subject := by
      unfold describeSubject at hsubject
      rw [bind_of_ok (parseDer_eq_ok_iff.2 hparsed)] at hsubject
      exact Except.ok.inj hsubject
    rw [validateTrustRelationship_of_parsed hparsed] at htrust
    refine ⟨certificate, ⟨⟨hparsed, hclock, hvalid⟩, ?_, addRoots_eq_ok_iff.1 hroots, mapError_eq_ok_iff.1 hsingle⟩, ?_⟩
    · intro hself
      by_contra hnot
      rw [if_pos ⟨hself, hnot⟩] at htrust
      cases htrust
    · rw [hname]
  · rintro ⟨certificate, hpasses, rfl⟩
    have hleaf : validateLeafCertificate env chain.leaf = .ok () :=
      validateLeafCertificate_eq_ok_iff.2 ⟨certificate, hpasses.leaf.parsed, hpasses.leaf.clock, hpasses.leaf.valid⟩
    have htrust : validateTrustRelationship env chain.leaf anchors.toList = .ok () := by
      rw [validateTrustRelationship_of_parsed hpasses.leaf.parsed]
      exact if_neg fun h => h.2 (hpasses.anchored h.1)
    unfold buildContext describeSubject
    rw [bind_of_ok hleaf, bind_of_ok htrust, bind_of_ok (addRoots_eq_ok_iff.2 hpasses.roots),
      bind_of_ok (mapError_eq_ok_iff.2 hpasses.single),
      bind_of_ok (parseDer_eq_ok_iff.2 hpasses.leaf.parsed)]
    rfl

/-- material is untrusted where its leaf is valid, self-issued and no trust anchor -/
theorem buildContext_untrusted_iff {chain anchors : CertChain} {key : PrivateKeyDer} :
    buildContext env chain key anchors = .error .untrustedMaterial ↔
      ∃ certificate, ValidLeaf env chain.leaf certificate ∧ certificate.SelfIssued ∧ chain.leaf ∉ anchors.toList := by
  have hleafRaises : Raises (· ≠ .untrustedMaterial) (validateLeafCertificate env chain.leaf) := by
    refine ((raises_parseDer _).imp (by rintro e rfl; decide)).bind fun certificate _ => ?_
    refine ((raises_configInvalid _).imp (by rintro e ⟨detail, rfl⟩; simp)).bind fun _ _ => ?_
    exact .ite (fun _ => .ok) (fun _ => .error (by decide))
  have hrestRaises : Raises (· ≠ .untrustedMaterial) (do
      addRoots env anchors
      (env.withSingleCert chain.toList key).mapError .configInvalid
      let leafSubject ← describeSubject env chain.leaf
      .ok (⟨some ⟨chain, key⟩, some ⟨anchors⟩, leafSubject⟩ : TlsContextHandle)) := by
    refine ((raises_addRoots _).imp (by rintro e ⟨detail, rfl⟩; simp)).bind fun _ _ => ?_
    refine ((raises_configInvalid _).imp (by rintro e ⟨detail, rfl⟩; simp)).bind fun _ _ => ?_
    exact ((raises_describeSubject _).imp (by rintro e rfl; decide)).bind fun _ _ => .ok
  unfold buildContext
  rw [hleafRaises.bind_eq_error_iff]
  constructor
  · rintro ⟨_, hleaf, hrest⟩
    obtain ⟨certificate, hparsed, hclock, hvalid⟩ := validateLeafCertificate_eq_ok_iff.1 hleaf
    rcases bind_eq_error_iff.1 hrest with htrust | ⟨_, -, hafter⟩
    · rw [validateTrustRelationship_of_parsed hparsed] at htrust
      split_ifs at htrust with huntrusted
      exact ⟨certificate, ⟨hparsed, hclock, hvalid⟩, huntrusted⟩
    · exact absurd rfl (hrestRaises _ hafter)
  · rintro ⟨certificate, hvalid, huntrusted⟩
    refine ⟨(), validateLeafCertificate_eq_ok_iff.2 ⟨certificate, hvalid.parsed, hvalid.clock, hvalid.valid⟩, ?_⟩
    refine bind_eq_error_iff.2 (Or.inl ?_)
    rw [validateTrustRelationship_of_parsed hvalid.parsed]
    exact if_pos huntrusted

theorem fromConfig_eq_ok_iff {config : TlsConfig} {handle : TlsContextHandle} :
    fromConfig env config = .ok handle ↔ ∃ chain key anchors certificate, Loads env config chain key anchors ∧
      Passes env chain key anchors certificate ∧
      handle = ⟨some ⟨chain, key⟩, some ⟨anchors⟩, env.nameText certificate.subject⟩ := by
  rw [fromConfig_eq, bind_eq_ok_iff]
  constructor
  · rintro ⟨⟨chain, key, anchors⟩, hloads, hbuild⟩
    obtain ⟨certificate, hpasses, rfl⟩ := buildContext_eq_ok_iff.1 hbuild
    exact ⟨chain, key, anchors, certificate, loadMaterial_eq_ok_iff.1 hloads, hpasses, rfl⟩
  · rintro ⟨chain, key, anchors, certificate, hloads, hpasses, rfl⟩
    exact ⟨(chain, key, anchors), loadMaterial_eq_ok_iff.2 hloads,
      buildContext_eq_ok_iff.2 ⟨certificate, hpasses, rfl⟩⟩

theorem fromConfig_untrusted_iff {config : TlsConfig} :
    fromConfig env config = .error .untrustedMaterial ↔ ∃ chain key anchors certificate,
      Loads env config chain key anchors ∧ ValidLeaf env chain.leaf certificate ∧ certificate.SelfIssued ∧
      chain.leaf ∉ anchors.toList := by
  have hraises : Raises (· ≠ .untrustedMaterial) (loadMaterial env config) :=
    (raises_loadMaterial config).imp (by rintro e he rfl; exact he)
  rw [fromConfig_eq, hraises.bind_eq_error_iff]
  constructor
  · rintro ⟨⟨chain, key, anchors⟩, hloads, hbuild⟩
    obtain ⟨certificate, huntrusted⟩ := buildContext_untrusted_iff.1 hbuild
    exact ⟨chain, key, anchors, certificate, loadMaterial_eq_ok_iff.1 hloads, huntrusted⟩
  · rintro ⟨chain, key, anchors, certificate, hloads, huntrusted⟩
    exact ⟨(chain, key, anchors), loadMaterial_eq_ok_iff.2 hloads, buildContext_untrusted_iff.2 ⟨certificate, huntrusted⟩⟩

/-- **What a context presents and trusts.** For every answer of the files, the parsers, the clock and the TLS library: a
context that is built presents exactly the chain and the key of its two files and trusts exactly the certificates of the
third; its leaf is valid now, and is one of the trust anchors if it is self-issued. Material is refused as untrusted if and
only if its leaf is valid, self-issued and no trust anchor; a leaf that another has issued never is. -/
theorem trust_is_anchored (env : Env) (config : TlsConfig) :
    (∀ handle, fromConfig env config = .ok handle → ∃ chain key anchors certificate,
      Loads env config chain key anchors ∧ Passes env chain key anchors certificate ∧
        handle.acceptor = some ⟨chain, key⟩ ∧ handle.connector = some ⟨anchors⟩) ∧
    (fromConfig env config = .error .untrustedMaterial ↔ ∃ chain key anchors certificate,
      Loads env config chain key anchors ∧ ValidLeaf env chain.leaf certificate ∧ certificate.SelfIssued ∧
        chain.leaf ∉ anchors.toList) := by
  refine ⟨?_, fromConfig_untrusted_iff⟩
  intro handle h
  obtain ⟨chain, key, anchors, certificate, hloads, hpasses, rfl⟩ := fromConfig_eq_ok_iff.1 h
  exact ⟨chain, key, anchors, certificate, hloads, hpasses, rfl, rfl⟩

/-- material that is its own trust anchor is not untrusted, if the file is the same at both reads -/
theorem own_anchor_trusted {config : TlsConfig} (hpath : config.trustAnchorPath = config.certPath)
    (hstable : env.read 2 config.certPath = env.read 0 config.certPath) :
    fromConfig env config ≠ .error .untrustedMaterial := by
  intro huntrusted
  obtain ⟨chain, key, anchors, certificate, hloads, -, -, hnot⟩ := fromConfig_untrusted_iff.1 huntrusted
  obtain ⟨certBytes, hreadCert, hcert⟩ := hloads.certs
  obtain ⟨anchorBytes, hreadAnchor, hanchor⟩ := hloads.anchors
  rw [hpath, hstable, hreadCert] at hreadAnchor
  cases hreadAnchor
  rw [hcert] at hanchor
  rw [← Option.some.inj hanchor] at hnot
  exact hnot List.mem_cons_self

/-! ## A context for one side -/

/-- the trust anchors that the file of a client's configuration holds -/
def LoadsAnchors (env : Env) (config : ClientTlsConfig) (anchors : CertChain) : Prop :=
  ∃ bytes, env.read 0 config.trustAnchorPath = some bytes ∧ env.certs bytes = some anchors.toList

theorem fromClientConfig_eq_ok_iff {config : ClientTlsConfig} {handle : TlsContextHandle} :
    fromClientConfig env config = .ok handle ↔ ∃ anchors certificate, LoadsAnchors env config anchors ∧
      (∀ anchor ∈ anchors.toList, env.addRoot anchor = .ok ()) ∧ env.fromDer anchors.leaf = some certificate ∧
      handle = ⟨none, some ⟨anchors⟩, env.nameText certificate.subject⟩ := by
  constructor
  · intro h
    obtain ⟨bytes, hread, h⟩ := bind_eq_ok_iff.1 h
    obtain ⟨anchors, hcerts, h⟩ := bind_eq_ok_iff.1 h
    obtain ⟨_, hroots, h⟩ := bind_eq_ok_iff.1 h
    obtain ⟨subject, hsubject, h⟩ := bind_eq_ok_iff.1 h
    obtain ⟨certificate, hparsed, hname⟩ := bind_eq_ok_iff.1 hsubject
    cases h
    cases hname
    exact ⟨anchors, certificate, ⟨bytes, readFile_eq_ok_iff.1 hread, parseCertificates_eq_ok_iff.1 hcerts⟩,
      addRoots_eq_ok_iff.1 hroots, parseDer_eq_ok_iff.1 hparsed, rfl⟩
  · rintro ⟨anchors, certificate, ⟨bytes, hread, hcerts⟩, hroots, hparsed, rfl⟩
    unfold fromClientConfig describeSubject
    rw [bind_of_ok (readFile_eq_ok_iff.2 hread), bind_of_ok (parseCertificates_eq_ok_iff.2 hcerts),
      bind_of_ok (addRoots_eq_ok_iff.2 hroots), bind_of_ok (parseDer_eq_ok_iff.2 hparsed)]
    rfl

/-- a context for one side is not refused for what a certificate says of its time or its issuer -/
theorem raises_fromClientConfig (config : ClientTlsConfig) :
    Raises (fun e => e = .missingFile config.trustAnchorPath ∨ e = .invalidTrustAnchorPem ∨
      (∃ detail, e = .configInvalid detail) ∨ e = .invalidCertificatePem) (fromClientConfig env config) := by
  refine ((raises_readFile _ _).imp (fun e he => Or.inl he)).bind fun _ _ => ?_
  refine ((raises_parseCertificates _ _).imp (fun e he => Or.inr (Or.inl he))).bind fun anchors _ => ?_
  refine ((raises_addRoots _).imp (fun e he => Or.inr (Or.inr (Or.inl he)))).bind fun _ _ => ?_
  exact ((raises_describeSubject _).imp (fun e he => Or.inr (Or.inr (Or.inr he)))).bind fun _ _ => .ok

end N0wss.Tls
