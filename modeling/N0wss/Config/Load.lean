/-
Configuration (`config/mod.rs`): the arguments, their checks, and the configuration they are assembled into.

Splitting the command line into arguments of the right types is the argument parser's, and an input here. `usize` has 64
bits, and durations are in nanoseconds.

- `loadConfigFrom_eq_ok`: an accepted configuration is that of arguments that passed every check.
- `tryFrom_eq_ok`: which checks these are, and what is assembled.
- `accepted_of_load`: what every accepted configuration keeps.
-/
import N0wss.Core.Stages
import N0wss.Core.Bytes
import N0wss.Core.Text
import N0wss.Net.Addr
import N0wss.Session.State

namespace N0wss.Config

open Bytes Net Stages Text
open Session (Duration)

/-- `Duration::from_secs` -/
def fromSecs (secs : UInt64) : Duration := secs.toNat * 1000000000

/-! ## Configurations -/

/-- a URL that was parsed: its scheme, and what follows it -/
structure Url where
  scheme : String
  rest : String
deriving DecidableEq, Repr

structure ClientTlsConfig where
  trustAnchorPath : String
  serverNameOverride : Option String
deriving DecidableEq, Repr

structure ClientConfig where
  listenAddr : SocketAddr
  remoteWssUrl : Url
  tls : Option ClientTlsConfig
deriving DecidableEq, Repr

structure ServerConfig where
  listenAddr : SocketAddr
  tlsCertPath : String
  tlsKeyPath : String
deriving DecidableEq, Repr

inductive OrigDstTransparentSocketMode where
  | disabled
  | required
deriving DecidableEq, Repr

structure OrigDstLiveConfig where
  listenerAddr : SocketAddr
  payloadCapacityBytes : UInt64
  operatorUid : UInt32
  preserveBaselineProxyAddr : SocketAddr
  transparentSocketMode : OrigDstTransparentSocketMode
deriving DecidableEq, Repr

inductive RuntimeMode where
  | client (config : ClientConfig)
  | server (config : ServerConfig)
  | origDstLive (config : OrigDstLiveConfig)
deriving DecidableEq, Repr

structure LimitsConfig where
  maxPendingIntents : UInt64
  maxSessions : UInt64
deriving DecidableEq, Repr

structure TimeoutConfig where
  irohConnectTimeout : Duration
  wssConnectTimeout : Duration
  socks5TotalTimeout : Duration
  gracefulTimeout : Duration
  forceKillAfter : Duration
deriving DecidableEq, Repr

structure BurstDetectionConfig where
  alertThreshold : UInt64
  alertWindow : Duration
  minLogInterval : Duration
  ringCapacity : UInt64
deriving DecidableEq, Repr

structure AppConfig where
  runtimeMode : RuntimeMode
  authToken : String
  limits : LimitsConfig
  timeouts : TimeoutConfig
  burstDetection : BurstDetectionConfig
deriving DecidableEq, Repr

inductive ConfigError where
  | argumentParsing (detail : String)
  | emptyAuthToken
  | invalidRemoteWssScheme
  | nonPositiveValue (field : String)
  | invalidShutdownOrdering
  | emptyTlsPath
deriving DecidableEq, Repr

/-- `ConfigError`'s `Display` -/
def ConfigError.text : ConfigError → String
  | .argumentParsing detail => "argument parsing failed: " ++ detail
  | .emptyAuthToken => "auth token must not be empty"
  | .invalidRemoteWssScheme => "remote WSS URL must use the wss scheme"
  | .nonPositiveValue field => field ++ " must be greater than zero"
  | .invalidShutdownOrdering => "graceful timeout must not exceed force kill timeout"
  | .emptyTlsPath => "server TLS certificate and key paths must not be empty"

/-! ## Arguments -/

inductive ModeArgs where
  | client (listenAddr : SocketAddr) (remoteWssUrl : Url) (tlsTrustAnchorPath tlsServerNameOverride : Option String)
  | server (listenAddr : SocketAddr) (tlsCertPath tlsKeyPath : String)
  | origdstLive (listenerAddr : SocketAddr) (payloadCapacityBytes : UInt64) (operatorUid : UInt32)
    (preserveBaselineProxyAddr : SocketAddr) (transparentSocketMode : OrigDstTransparentSocketMode)
deriving DecidableEq, Repr

structure CliArgs where
  mode : ModeArgs
  authToken : String
  maxPendingIntents : UInt64 := 128
  maxSessions : UInt64 := 256
  irohConnectTimeoutSecs : UInt64 := 2
  wssConnectTimeoutSecs : UInt64 := 5
  socks5TotalTimeoutSecs : UInt64 := 10
  gracefulTimeoutSecs : UInt64 := 60
  forceKillAfterSecs : UInt64 := 90
  burstAlertThreshold : UInt64 := 50
  burstAlertWindowSecs : UInt64 := 1
  burstMinLogIntervalSecs : UInt64 := 5
  burstRingCapacity : UInt64 := 1000
deriving DecidableEq, Repr

/-! ## Checks -/

def validateNonEmptyToken (token : String) : Except ConfigError Unit :=
  if trim token.toList = [] then .error .emptyAuthToken else .ok ()

def validateNonZero (field : String) (value : ℕ) : Except ConfigError Unit :=
  if value = 0 then .error (.nonPositiveValue field) else .ok ()

def validatePositive (field : String) (value : UInt64) : Except ConfigError Unit := validateNonZero field value.toNat

def validatePositiveU64 (field : String) (value : UInt64) : Except ConfigError Unit := validateNonZero field value.toNat

def validatePositiveU32 (field : String) (value : UInt32) : Except ConfigError Unit := validateNonZero field value.toNat

def validateShutdownOrdering (gracefulTimeout forceKillAfter : Duration) : Except ConfigError Unit :=
  if forceKillAfter < gracefulTimeout then .error .invalidShutdownOrdering else .ok ()

def runtimeModeFrom : ModeArgs → Except ConfigError RuntimeMode
  | .client listenAddr remoteWssUrl tlsTrustAnchorPath tlsServerNameOverride =>
    if remoteWssUrl.scheme ≠ "wss" then .error .invalidRemoteWssScheme
    else .ok (.client ⟨listenAddr, remoteWssUrl, tlsTrustAnchorPath.map fun path => ⟨path, tlsServerNameOverride⟩⟩)
  | .server listenAddr tlsCertPath tlsKeyPath =>
    if tlsCertPath = "" ∨ tlsKeyPath = "" then .error .emptyTlsPath
    else .ok (.server ⟨listenAddr, tlsCertPath, tlsKeyPath⟩)
  | .origdstLive listenerAddr payloadCapacityBytes operatorUid preserveBaselineProxyAddr transparentSocketMode => do
    validatePositive "payload_capacity_bytes" payloadCapacityBytes
    validatePositiveU32 "operator_uid" operatorUid
    .ok (.origDstLive
      ⟨listenerAddr, payloadCapacityBytes, operatorUid, preserveBaselineProxyAddr, transparentSocketMode⟩)

/-- what the arguments are assembled into -/
def assemble (value : CliArgs) (runtimeMode : RuntimeMode) : AppConfig where
  runtimeMode := runtimeMode
  authToken := value.authToken
  limits := ⟨value.maxPendingIntents, value.maxSessions⟩
  timeouts := ⟨fromSecs value.irohConnectTimeoutSecs, fromSecs value.wssConnectTimeoutSecs,
    fromSecs value.socks5TotalTimeoutSecs, fromSecs value.gracefulTimeoutSecs, fromSecs value.forceKillAfterSecs⟩
  burstDetection := ⟨value.burstAlertThreshold, fromSecs value.burstAlertWindowSecs,
    fromSecs value.burstMinLogIntervalSecs, value.burstRingCapacity⟩

def AppConfig.tryFrom (value : CliArgs) : Except ConfigError AppConfig := do
  validateNonEmptyToken value.authToken
  validatePositive "max_pending_intents" value.maxPendingIntents
  validatePositive "max_sessions" value.maxSessions
  validatePositiveU64 "iroh_connect_timeout_secs" value.irohConnectTimeoutSecs
  validatePositiveU64 "wss_connect_timeout_secs" value.wssConnectTimeoutSecs
  validatePositiveU64 "socks5_total_timeout_secs" value.socks5TotalTimeoutSecs
  validatePositiveU64 "graceful_timeout_secs" value.gracefulTimeoutSecs
  validatePositiveU64 "force_kill_after_secs" value.forceKillAfterSecs
  validatePositiveU64 "burst_alert_threshold" value.burstAlertThreshold
  validatePositiveU64 "burst_alert_window_secs" value.burstAlertWindowSecs
  validatePositiveU64 "burst_min_log_interval_secs" value.burstMinLogIntervalSecs
  validatePositive "burst_ring_capacity" value.burstRingCapacity
  validateShutdownOrdering (fromSecs value.gracefulTimeoutSecs) (fromSecs value.forceKillAfterSecs)
  let runtimeMode ← runtimeModeFrom value.mode
  .ok (assemble value runtimeMode)

/-- `load_config_from`; `tryParseFrom` is the argument parser, with its error's text -/
def loadConfigFrom (tryParseFrom : List String → Except String CliArgs) (args : List String) :
    Except ConfigError AppConfig :=
  match tryParseFrom args with
  | .error err => .error (.argumentParsing err)
  | .ok parsed => AppConfig.tryFrom parsed

/-! ## What is accepted -/

theorem validateNonZero_eq_ok {field : String} {value : ℕ} : validateNonZero field value = .ok () ↔ value ≠ 0 := by
  unfold validateNonZero
  split_ifs with h <;> simp [h]

theorem validatePositive_eq_ok {field : String} {value : UInt64} :
    validatePositive field value = .ok () ↔ value.toNat ≠ 0 := validateNonZero_eq_ok

theorem validatePositiveU64_eq_ok {field : String} {value : UInt64} :
    validatePositiveU64 field value = .ok () ↔ value.toNat ≠ 0 := validateNonZero_eq_ok

theorem validateNonEmptyToken_eq_ok {token : String} :
    validateNonEmptyToken token = .ok () ↔ trim token.toList ≠ [] := by
  unfold validateNonEmptyToken
  split_ifs with h <;> simp [h]

theorem validateShutdownOrdering_eq_ok {gracefulTimeout forceKillAfter : Duration} :
    validateShutdownOrdering gracefulTimeout forceKillAfter = .ok () ↔ gracefulTimeout ≤ forceKillAfter := by
  unfold validateShutdownOrdering
  split_ifs with h
  · simpa using h
  · simpa using Nat.le_of_not_lt h

theorem server_of_runtimeModeFrom {listenAddr : SocketAddr} {certPath keyPath : String} {runtimeMode : RuntimeMode}
    (h : runtimeModeFrom (.server listenAddr certPath keyPath) = .ok runtimeMode) :
    ∃ server, runtimeMode = .server server := by
  simp only [runtimeModeFrom] at h
  split_ifs at h
  exact ⟨_, (Except.ok.inj h).symm⟩

theorem live_of_runtimeModeFrom {listenerAddr preserveAddr : SocketAddr} {capacity : UInt64} {uid : UInt32}
    {socketMode : OrigDstTransparentSocketMode} {runtimeMode : RuntimeMode}
    (h : runtimeModeFrom (.origdstLive listenerAddr capacity uid preserveAddr socketMode) = .ok runtimeMode) :
    ∃ live, runtimeMode = .origDstLive live ∧ live.payloadCapacityBytes = capacity ∧ capacity.toNat ≠ 0 := by
  obtain ⟨_, hcapacity, hrest⟩ := bind_eq_ok_iff.1 h
  obtain ⟨_, -, hlive⟩ := bind_eq_ok_iff.1 hrest
  exact ⟨_, (Except.ok.inj hlive).symm, rfl, validatePositive_eq_ok.1 hcapacity⟩

/-- the numbers that have to be positive in every mode -/
def CliArgs.counts (value : CliArgs) : List UInt64 :=
  [value.maxPendingIntents, value.maxSessions, value.irohConnectTimeoutSecs, value.wssConnectTimeoutSecs,
    value.socks5TotalTimeoutSecs, value.gracefulTimeoutSecs, value.forceKillAfterSecs, value.burstAlertThreshold,
    value.burstAlertWindowSecs, value.burstMinLogIntervalSecs, value.burstRingCapacity]

/-- arguments that pass every check -/
structure CliArgs.Valid (value : CliArgs) : Prop where
  token : trim value.authToken.toList ≠ []
  positive : ∀ count ∈ value.counts, count.toNat ≠ 0
  ordering : fromSecs value.gracefulTimeoutSecs ≤ fromSecs value.forceKillAfterSecs

/-- **What is accepted** is assembled from arguments that pass every check. -/
theorem tryFrom_eq_ok {value : CliArgs} {config : AppConfig} : AppConfig.tryFrom value = .ok config ↔
    value.Valid ∧ ∃ runtimeMode, runtimeModeFrom value.mode = .ok runtimeMode ∧ config = assemble value runtimeMode := by
  have hassembled : (runtimeModeFrom value.mode >>= fun runtimeMode => .ok (assemble value runtimeMode)) = .ok config ↔
      ∃ runtimeMode, runtimeModeFrom value.mode = .ok runtimeMode ∧ config = assemble value runtimeMode := by
    constructor
    · intro h
      obtain ⟨runtimeMode, hmode, hconfig⟩ := bind_eq_ok_iff.1 h
      exact ⟨runtimeMode, hmode, (Except.ok.inj hconfig).symm⟩
    · rintro ⟨runtimeMode, hmode, rfl⟩
      exact bind_of_ok hmode _
  have hvalid : value.Valid ↔ trim value.authToken.toList ≠ [] ∧ (∀ count ∈ value.counts, count.toNat ≠ 0) ∧
      fromSecs value.gracefulTimeoutSecs ≤ fromSecs value.forceKillAfterSecs :=
    ⟨fun h => ⟨h.token, h.positive, h.ordering⟩, fun h => ⟨h.1, h.2.1, h.2.2⟩⟩
  unfold AppConfig.tryFrom
  simp only [bind_eq_ok_iff, Unique.exists_iff, PUnit.default_eq_unit, validateNonEmptyToken_eq_ok,
    validatePositive_eq_ok, validatePositiveU64_eq_ok, validateShutdownOrdering_eq_ok, hassembled, hvalid,
    CliArgs.counts, List.forall_mem_cons, List.not_mem_nil, false_imp_iff, implies_true, and_true, and_assoc]

/-- an accepted configuration is that of arguments that passed every check -/
theorem loadConfigFrom_eq_ok {tryParseFrom : List String → Except String CliArgs} {args : List String}
    {config : AppConfig} : loadConfigFrom tryParseFrom args = .ok config ↔
    ∃ parsed, tryParseFrom args = .ok parsed ∧ AppConfig.tryFrom parsed = .ok config := by
  unfold loadConfigFrom
  cases tryParseFrom args with
  | error err => simp
  | ok parsed => simp

/-- what an accepted configuration keeps of the checks on its limits, its timeouts and its burst detection -/
structure AppConfig.Accepted (config : AppConfig) : Prop where
  pending : config.limits.maxPendingIntents.toNat ≠ 0
  sessions : config.limits.maxSessions.toNat ≠ 0
  graceful : config.timeouts.gracefulTimeout ≤ config.timeouts.forceKillAfter
  threshold : config.burstDetection.alertThreshold.toNat ≠ 0
  window : config.burstDetection.alertWindow ≠ 0
  interval : config.burstDetection.minLogInterval ≠ 0
  ring : config.burstDetection.ringCapacity.toNat ≠ 0

theorem accepted_of_load {tryParseFrom : List String → Except String CliArgs} {args : List String} {config : AppConfig}
    (h : loadConfigFrom tryParseFrom args = .ok config) : config.Accepted := by
  obtain ⟨parsed, -, hload⟩ := loadConfigFrom_eq_ok.1 h
  obtain ⟨hvalid, runtimeMode, -, rfl⟩ := tryFrom_eq_ok.1 hload
  have hpositive := hvalid.positive
  simp only [CliArgs.counts, List.forall_mem_cons] at hpositive
  obtain ⟨hpending, hsessions, -, -, -, -, -, hthreshold, hwindow, hinterval, hring, -⟩ := hpositive
  have hsecs {secs : UInt64} (hs : secs.toNat ≠ 0) : fromSecs secs ≠ 0 := Nat.mul_ne_zero hs (by decide)
  exact ⟨hpending, hsessions, hvalid.ordering, hthreshold, hsecs hwindow, hsecs hinterval, hring⟩

/-! ## A client -/

/-- the arguments of a client with every default, but for its session limit and its burst ring -/
def clientArgs (maxSessions burstRingCapacity : UInt64) : CliArgs :=
  { mode := .client (.v4 ⟨127, 0, 0, 1⟩ 1080) ⟨"wss", "//gateway.example/"⟩ none none
    authToken := "token"
    maxSessions := maxSessions
    burstRingCapacity := burstRingCapacity }

theorem clientArgs_valid {maxSessions burstRingCapacity : UInt64} (hsessions : maxSessions.toNat ≠ 0)
    (hring : burstRingCapacity.toNat ≠ 0) : (clientArgs maxSessions burstRingCapacity).Valid where
  token := show trim "token".toList ≠ [] by decide
  positive := by
    simp only [CliArgs.counts, clientArgs, List.forall_mem_cons, List.not_mem_nil, false_imp_iff, implies_true, and_true]
    exact ⟨by decide, hsessions, by decide, by decide, by decide, by decide, by decide, by decide, by decide, by decide,
      hring⟩
  ordering := Nat.mul_le_mul_right _ (show 60 ≤ 90 by decide)

def clientConfig (maxSessions burstRingCapacity : UInt64) : AppConfig :=
  assemble (clientArgs maxSessions burstRingCapacity)
    (.client ⟨.v4 ⟨127, 0, 0, 1⟩ 1080, ⟨"wss", "//gateway.example/"⟩, none⟩)

theorem load_clientArgs {maxSessions burstRingCapacity : UInt64} (hsessions : maxSessions.toNat ≠ 0)
    (hring : burstRingCapacity.toNat ≠ 0) (args : List String) :
    loadConfigFrom (fun _ => .ok (clientArgs maxSessions burstRingCapacity)) args =
      .ok (clientConfig maxSessions burstRingCapacity) :=
  loadConfigFrom_eq_ok.2 ⟨_, rfl, tryFrom_eq_ok.2 ⟨clientArgs_valid hsessions hring, _, rfl, rfl⟩⟩

end N0wss.Config
