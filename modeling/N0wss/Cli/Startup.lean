/-
Start-up (`run_from` in `cli/mod.rs`): the configuration, observability, the auth policy and the TLS context, in this order,
and what the gateways are built of afterwards.

The argument parser, the TLS libraries, the URL parser and the resolver are inputs.

- `startedWith_of_runFrom`, `runFrom_eq_error_iff`: how start-up ends. It fails on the configuration or on the TLS material, and
  on nothing else.
- `start_up_exact`: both, with the TLS context that each mode gets.
- `buildServerGateway_ok`: a server that has started has a gateway, with an acceptor.
- `client_needs_trust_anchor`: a client without a trust anchor is accepted and starts, and never has a gateway.
-/
import N0wss.Core.Stages
import N0wss.Config.Load
import N0wss.Gateway.Auth
import N0wss.Obs.BurstDetector
import N0wss.Session.Manager
import N0wss.Tls.Context

namespace N0wss.Session

/-- `SessionManagerConfig::from_app_config` -/
def SessionManagerConfig.fromAppConfig (config : Config.AppConfig) : SessionManagerConfig :=
  ⟨config.timeouts.socks5TotalTimeout, config.timeouts.gracefulTimeout⟩

end N0wss.Session

namespace N0wss.Cli

open Config Net Stages Tls
open Gateway (AuthPolicy AuthPolicyConfig AuthPolicyError)
open Session (Duration SessionManagerConfig)

/-! ## Observability -/

structure ObservabilityConfig where
  serviceName : String
  modeLabel : String
  burstDetection : BurstDetectionConfig
  peakResetInterval : Duration
deriving DecidableEq, Repr

structure ObservabilityHandles where
  serviceName : String
  modeLabel : String
  burstDetector : Obs.BurstDetectorHandle
deriving DecidableEq, Repr

inductive ObservabilityError where
  | emptyServiceName
  | emptyModeLabel
  | nonPositivePeakResetInterval
deriving DecidableEq, Repr

def modeText : RuntimeMode → String
  | .client _ => "client"
  | .server _ => "server"
  | .origDstLive _ => "origdst-live"

def ObservabilityConfig.fromAppConfig (config : AppConfig) : ObservabilityConfig where
  serviceName := "n0wss"
  modeLabel := modeText config.runtimeMode
  burstDetection := config.burstDetection
  peakResetInterval := fromSecs 60

def initObservability (config : ObservabilityConfig) : Except ObservabilityError ObservabilityHandles :=
  if Text.trim config.serviceName.toList = [] then .error .emptyServiceName
  else if Text.trim config.modeLabel.toList = [] then .error .emptyModeLabel
  else if config.peakResetInterval = 0 then .error .nonPositivePeakResetInterval
  else .ok ⟨config.serviceName, config.modeLabel, Obs.initObservability config.burstDetection⟩

/-! ## Errors -/

inductive CliError where
  | config (err : ConfigError)
  | observability (err : ObservabilityError)
  | auth (err : AuthPolicyError)
  | tls (err : TlsError)
deriving DecidableEq, Repr

inductive CliRuntimeError where
  | bootstrap (err : CliError)
  | invalidRemoteEndpoint (detail : String)
  | remoteAddressResolution (detail : String)
  | listenerBind (detail : String)
  | serverRuntime (detail : String)
  | clientRuntime (detail : String)
  | origDstLiveRuntime (detail : String)
deriving DecidableEq, Repr

/-! ## Shutdown phases -/

inductive ShutdownState where
  | running
  | acceptsStopped
  | draining
  | transportReleased
deriving DecidableEq, Repr

structure ShutdownSnapshot where
  state : ShutdownState
  acceptsStopped : Bool
  drainsRequested : Bool
  transportsReleased : Bool
deriving DecidableEq, Repr

structure ShutdownCoordinator where
  snapshot : ShutdownSnapshot
  gracefulTimeout : Duration
  forceKillAfter : Duration
deriving DecidableEq, Repr

def ShutdownCoordinator.new (gracefulTimeout forceKillAfter : Duration) : ShutdownCoordinator :=
  ⟨⟨.running, false, false, false⟩, gracefulTimeout, forceKillAfter⟩

def ShutdownCoordinator.canAcceptNewWork (coordinator : ShutdownCoordinator) : Bool :=
  !coordinator.snapshot.acceptsStopped

def ShutdownSnapshot.stopAccepts (snapshot : ShutdownSnapshot) : ShutdownSnapshot :=
  { snapshot with acceptsStopped := true, state := .acceptsStopped }

def ShutdownSnapshot.requestDrains (snapshot : ShutdownSnapshot) : ShutdownSnapshot :=
  { snapshot with drainsRequested := true, state := .draining }

def ShutdownSnapshot.releaseTransports (snapshot : ShutdownSnapshot) : ShutdownSnapshot :=
  { snapshot with transportsReleased := true, state := .transportReleased }

/-- all phases under one lock -/
def coordinateShutdown (coordinator : ShutdownCoordinator) : ShutdownCoordinator :=
  { coordinator with snapshot := coordinator.snapshot.stopAccepts.requestDrains.releaseTransports }

/-! ## Start-up -/

inductive ApplicationMode where
  | client
  | server
  | origDstLive
deriving DecidableEq, Repr

structure StartupArtifacts where
  config : AppConfig
  observability : ObservabilityHandles
  authPolicy : AuthPolicy
  sessionConfig : SessionManagerConfig
  tlsContext : Option TlsContextHandle

structure ApplicationRunResult where
  mode : ApplicationMode
  startup : StartupArtifacts
  shutdown : ShutdownCoordinator

def applicationMode : RuntimeMode → ApplicationMode
  | .client _ => .client
  | .server _ => .server
  | .origDstLive _ => .origDstLive

/-- the TLS context of a mode; a server's trust anchor is its own certificate -/
def tlsContextFor (env : Env) : RuntimeMode → Except TlsError (Option TlsContextHandle)
  | .client clientConfig =>
    match clientConfig.tls with
    | none => .ok none
    | some tls => (fromClientConfig env ⟨tls.trustAnchorPath⟩).map some
  | .server serverConfig =>
    (fromConfig env ⟨serverConfig.tlsCertPath, serverConfig.tlsKeyPath, serverConfig.tlsCertPath⟩).map some
  | .origDstLive _ => .ok none

def runFrom (tryParseFrom : List String → Except String CliArgs) (env : Env) (args : List String) :
    Except CliError ApplicationRunResult := do
  let config ← (loadConfigFrom tryParseFrom args).mapError .config
  let observability ← (initObservability (.fromAppConfig config)).mapError .observability
  let authPolicy ← (AuthPolicy.fromConfig ⟨config.authToken⟩).mapError .auth
  let tlsContext ← (tlsContextFor env config.runtimeMode).mapError .tls
  .ok ⟨applicationMode config.runtimeMode,
    ⟨config, observability, authPolicy, SessionManagerConfig.fromAppConfig config, tlsContext⟩,
    .new config.timeouts.gracefulTimeout config.timeouts.forceKillAfter⟩

/-- `run_until_shutdown_from`; `runMode` is how the surface of the mode ends -/
def runUntilShutdownFrom (startup : Except CliError ApplicationRunResult)
    (runMode : ApplicationRunResult → Except CliRuntimeError Unit) : Except CliRuntimeError ApplicationRunResult := do
  let startup ← startup.mapError .bootstrap
  runMode startup
  .ok { startup with shutdown := coordinateShutdown startup.shutdown }

/-! ## Gateways -/

structure GatewayConfig where
  serverAddr : SocketAddr
  serverName : String
  websocketUri : String
  authToken : String
  tlsContext : TlsContextHandle
  authPolicy : AuthPolicy

/-- what the URL parser, the URI parser and the resolver answer -/
structure Endpoints where
  hostStr : Url → Option String
  portOrKnownDefault : Url → Option UInt16
  /-- the URL's text as a URI -/
  uri : Url → Except String String
  lookupHost : String → UInt16 → Except String (List SocketAddr)

def buildServerGateway (startup : ApplicationRunResult) (listenAddr : SocketAddr) :
    Except CliRuntimeError GatewayConfig :=
  match startup.startup.tlsContext with
  | none => .error (.serverRuntime "server TLS context missing")
  | some tlsContext =>
    .ok ⟨listenAddr, "localhost", "wss://localhost/tunnel", startup.startup.config.authToken, tlsContext,
      startup.startup.authPolicy⟩

def noHost : CliRuntimeError := .invalidRemoteEndpoint "remote WSS URL must include a host"

/-- `ok_or_else` -/
def okOr {α : Type} (err : CliRuntimeError) : Option α → Except CliRuntimeError α
  | some a => .ok a
  | none => .error err

def resolveRemoteSocketAddr (endpoints : Endpoints) (url : Url) : Except CliRuntimeError SocketAddr := do
  let host ← okOr noHost (endpoints.hostStr url)
  let port ← okOr (.invalidRemoteEndpoint "remote WSS URL must include a known or explicit port")
    (endpoints.portOrKnownDefault url)
  let resolved ← (endpoints.lookupHost host port).mapError .remoteAddressResolution
  okOr (.remoteAddressResolution ("no socket addresses resolved for " ++ host ++ ":" ++ toString port.toNat))
    resolved.head?

def buildClientGateway (endpoints : Endpoints) (startup : ApplicationRunResult) :
    Except CliRuntimeError GatewayConfig :=
  match startup.startup.config.runtimeMode with
  | .server _ | .origDstLive _ => .error (.clientRuntime "client gateway requested outside client mode")
  | .client clientConfig => do
    let remoteSocketAddr ← resolveRemoteSocketAddr endpoints clientConfig.remoteWssUrl
    let serverName ← okOr noHost
      ((clientConfig.tls.bind (·.serverNameOverride)).or (endpoints.hostStr clientConfig.remoteWssUrl))
    let websocketUri ← (endpoints.uri clientConfig.remoteWssUrl).mapError .invalidRemoteEndpoint
    let tlsContext ← okOr (.clientRuntime "client TLS context missing") startup.startup.tlsContext
    .ok ⟨remoteSocketAddr, serverName, websocketUri, startup.startup.config.authToken, tlsContext,
      startup.startup.authPolicy⟩

/-! ## How start-up ends -/

variable {tryParseFrom : List String → Except String CliArgs} {env : Env} {args : List String}

/-- the handles that a configuration is started with -/
def startHandles (config : AppConfig) : ObservabilityHandles :=
  ⟨"n0wss", modeText config.runtimeMode, Obs.initObservability config.burstDetection⟩

theorem initObservability_fromAppConfig (config : AppConfig) :
    initObservability (.fromAppConfig config) = .ok (startHandles config) := by
  have hservice : Text.trim (ObservabilityConfig.fromAppConfig config).serviceName.toList ≠ [] := by
    show Text.trim "n0wss".toList ≠ []
    decide
  have hmode : Text.trim (ObservabilityConfig.fromAppConfig config).modeLabel.toList ≠ [] := by
    show Text.trim (modeText config.runtimeMode).toList ≠ []
    cases config.runtimeMode with
    | client clientConfig =>
      show Text.trim "client".toList ≠ []
      decide
    | server serverConfig =>
      show Text.trim "server".toList ≠ []
      decide
    | origDstLive liveConfig =>
      show Text.trim "origdst-live".toList ≠ []
      decide
  have hinterval : (ObservabilityConfig.fromAppConfig config).peakResetInterval ≠ 0 := by
    show fromSecs 60 ≠ 0
    decide
  unfold initObservability
  rw [if_neg hservice, if_neg hmode, if_neg hinterval]
  rfl

/-- a configuration that was loaded has a token that is one -/
theorem token_of_load {config : AppConfig} (h : loadConfigFrom tryParseFrom args = .ok config) :
    Text.trim config.authToken.toList ≠ [] := by
  obtain ⟨parsed, -, htry⟩ := loadConfigFrom_eq_ok.1 h
  obtain ⟨hvalid, mode, -, rfl⟩ := tryFrom_eq_ok.1 htry
  exact hvalid.token

/-- what start-up makes of a configuration and a TLS context -/
def StartedWith (config : AppConfig) (tlsContext : Option TlsContextHandle) (result : ApplicationRunResult) : Prop :=
  result.mode = applicationMode config.runtimeMode ∧ result.startup.config = config ∧
    result.startup.observability = startHandles config ∧
    result.startup.authPolicy.expectedToken = config.authToken ∧
    result.startup.sessionConfig = SessionManagerConfig.fromAppConfig config ∧
    result.startup.tlsContext = tlsContext ∧
    result.shutdown = .new config.timeouts.gracefulTimeout config.timeouts.forceKillAfter

/-- observability and the auth policy never stop the start-up of a configuration that was loaded -/
theorem runFrom_of_load (env : Env) {config : AppConfig} (h : loadConfigFrom tryParseFrom args = .ok config) :
    runFrom tryParseFrom env args = ((tlsContextFor env config.runtimeMode).mapError .tls).bind fun tlsContext =>
      .ok ⟨applicationMode config.runtimeMode,
        ⟨config, startHandles config, ⟨config.authToken, token_of_load h⟩, SessionManagerConfig.fromAppConfig config,
          tlsContext⟩,
        .new config.timeouts.gracefulTimeout config.timeouts.forceKillAfter⟩ := by
  have hpolicy : AuthPolicy.fromConfig ⟨config.authToken⟩ = .ok ⟨config.authToken, token_of_load h⟩ :=
    dif_neg (token_of_load h)
  unfold runFrom
  rw [bind_of_ok (mapError_eq_ok_iff.2 h),
    bind_of_ok (mapError_eq_ok_iff.2 (initObservability_fromAppConfig config)),
    bind_of_ok (mapError_eq_ok_iff.2 hpolicy)]
  rfl

theorem runFrom_eq_error_iff {err : CliError} :
    runFrom tryParseFrom env args = .error err ↔
      (∃ cause, loadConfigFrom tryParseFrom args = .error cause ∧ err = .config cause) ∨
      (∃ config cause, loadConfigFrom tryParseFrom args = .ok config ∧
        tlsContextFor env config.runtimeMode = .error cause ∧ err = .tls cause) := by
  cases hload : loadConfigFrom tryParseFrom args with
  | error cause =>
    have hrun : runFrom tryParseFrom env args = .error (.config cause) := by
      unfold runFrom
      rw [hload]
      rfl
    rw [hrun]
    simp [eq_comm]
  | ok config =>
    rw [runFrom_of_load env hload]
    cases htls : tlsContextFor env config.runtimeMode with
    | error cause => simp [Except.mapError, Except.bind, htls, eq_comm]
    | ok tlsContext => simp [Except.mapError, Except.bind, htls]

theorem startedWith_of_runFrom {result : ApplicationRunResult} (h : runFrom tryParseFrom env args = .ok result) :
    ∃ config tlsContext, loadConfigFrom tryParseFrom args = .ok config ∧
      tlsContextFor env config.runtimeMode = .ok tlsContext ∧ StartedWith config tlsContext result := by
  cases hload : loadConfigFrom tryParseFrom args with
  | error cause =>
    unfold runFrom at h
    rw [hload] at h
    cases h
  | ok config =>
    rw [runFrom_of_load env hload] at h
    cases htls : tlsContextFor env config.runtimeMode with
    | error cause =>
      rw [htls] at h
      cases h
    | ok tlsContext =>
      rw [htls] at h
      cases h
      exact ⟨config, tlsContext, rfl, htls, rfl, rfl, rfl, rfl, rfl, rfl, rfl⟩

/-- the sides of a TLS context, by mode -/
def ContextOf : RuntimeMode → Option TlsContextHandle → Prop
  | .client clientConfig, none => clientConfig.tls = none
  | .client clientConfig, some handle => clientConfig.tls ≠ none ∧ handle.acceptor = none ∧ handle.connector ≠ none
  | .server _, none => False
  | .server _, some handle => handle.acceptor ≠ none ∧ handle.connector ≠ none
  | .origDstLive _, tlsContext => tlsContext = none

theorem contextOf_tlsContextFor {mode : RuntimeMode} {tlsContext : Option TlsContextHandle}
    (h : tlsContextFor env mode = .ok tlsContext) : ContextOf mode tlsContext := by
  cases mode with
  | client clientConfig =>
    cases htls : clientConfig.tls with
    | none =>
      simp only [tlsContextFor, htls] at h
      cases h
      exact htls
    | some tls =>
      simp only [tlsContextFor, htls] at h
      cases hbuilt : fromClientConfig env ⟨tls.trustAnchorPath⟩ with
      | error err =>
        rw [hbuilt] at h
        cases h
      | ok handle =>
        rw [hbuilt] at h
        cases h
        obtain ⟨anchors, certificate, -, -, -, rfl⟩ := fromClientConfig_eq_ok_iff.1 hbuilt
        refine ⟨?_, rfl, Option.some_ne_none _⟩
        rw [htls]
        exact Option.some_ne_none tls
  | server serverConfig =>
    simp only [tlsContextFor] at h
    cases hbuilt : fromConfig env ⟨serverConfig.tlsCertPath, serverConfig.tlsKeyPath, serverConfig.tlsCertPath⟩ with
    | error err =>
      rw [hbuilt] at h
      cases h
    | ok handle =>
      rw [hbuilt] at h
      cases h
      obtain ⟨chain, key, anchors, certificate, -, -, rfl⟩ := fromConfig_eq_ok_iff.1 hbuilt
      exact ⟨Option.some_ne_none _, Option.some_ne_none _⟩
  | origDstLive liveConfig =>
    simp only [tlsContextFor] at h
    cases h
    rfl

/-- **How start-up ends.** For every command line and every answer of the parser and of the TLS libraries: start-up fails on
the configuration or on the TLS material of a loaded configuration, with that error, and never on observability or on the
auth policy. Where it succeeds, the mode, the policy's token and the timeouts are those of the configuration, nothing is shut
down, and the TLS context has the sides of its mode: both for a server, the connecting one for a client that has a trust
anchor, and else there is none. -/
theorem start_up_exact (tryParseFrom : List String → Except String CliArgs) (env : Env) (args : List String) :
    (∀ err, runFrom tryParseFrom env args = .error err ↔
      (∃ cause, loadConfigFrom tryParseFrom args = .error cause ∧ err = .config cause) ∨
      (∃ config cause, loadConfigFrom tryParseFrom args = .ok config ∧
        tlsContextFor env config.runtimeMode = .error cause ∧ err = .tls cause)) ∧
    ∀ result, runFrom tryParseFrom env args = .ok result → ∃ config tlsContext,
      loadConfigFrom tryParseFrom args = .ok config ∧ StartedWith config tlsContext result ∧
        ContextOf config.runtimeMode tlsContext ∧ result.shutdown.canAcceptNewWork = true := by
  refine ⟨fun err => runFrom_eq_error_iff, ?_⟩
  intro result h
  obtain ⟨config, tlsContext, hload, htls, hstarted⟩ := startedWith_of_runFrom h
  refine ⟨config, tlsContext, hload, hstarted, contextOf_tlsContextFor htls, ?_⟩
  rw [hstarted.2.2.2.2.2.2]
  rfl

/-- a server that has started has a gateway whose TLS context can accept, and its policy expects the gateway's own token -/
theorem buildServerGateway_ok {result : ApplicationRunResult} {serverConfig : ServerConfig}
    (h : runFrom tryParseFrom env args = .ok result) (hmode : result.startup.config.runtimeMode = .server serverConfig)
    (listenAddr : SocketAddr) : ∃ gateway, buildServerGateway result listenAddr = .ok gateway ∧
      gateway.tlsContext.acceptor ≠ none ∧ gateway.authPolicy.expectedToken = gateway.authToken := by
  obtain ⟨config, tlsContext, -, htls, -, hconfig, -, hpolicy, -, hcontext, -⟩ := startedWith_of_runFrom h
  rw [hconfig] at hmode
  rw [hmode] at htls
  have hsides := contextOf_tlsContextFor htls
  cases tlsContext with
  | none => exact hsides.elim
  | some handle =>
    unfold buildServerGateway
    rw [hcontext]
    exact ⟨_, rfl, hsides.1, by rw [hpolicy, hconfig]⟩

/-! ## The client's gateway -/

theorem okOr_eq_ok_iff {α : Type} {err : CliRuntimeError} {x : Option α} {a : α} : okOr err x = .ok a ↔ x = some a := by
  cases x <;> simp [okOr]

theorem resolveRemoteSocketAddr_eq_ok_iff {endpoints : Endpoints} {url : Url} {addr : SocketAddr} :
    resolveRemoteSocketAddr endpoints url = .ok addr ↔ ∃ host port later, endpoints.hostStr url = some host ∧
      endpoints.portOrKnownDefault url = some port ∧ endpoints.lookupHost host port = .ok (addr :: later) := by
  constructor
  · intro h
    obtain ⟨host, hhost, h⟩ := bind_eq_ok_iff.1 h
    obtain ⟨port, hport, h⟩ := bind_eq_ok_iff.1 h
    obtain ⟨resolved, hlookup, hhead⟩ := bind_eq_ok_iff.1 h
    obtain ⟨later, rfl⟩ := List.head?_eq_some_iff.1 (okOr_eq_ok_iff.1 hhead)
    exact ⟨host, port, later, okOr_eq_ok_iff.1 hhost, okOr_eq_ok_iff.1 hport, mapError_eq_ok_iff.1 hlookup⟩
  · rintro ⟨host, port, later, hhost, hport, hlookup⟩
    unfold resolveRemoteSocketAddr
    rw [bind_of_ok (okOr_eq_ok_iff.2 hhost), bind_of_ok (okOr_eq_ok_iff.2 hport),
      bind_of_ok (mapError_eq_ok_iff.2 hlookup)]
    rfl

/-- the gateway that a client's configuration asks for, with this address, host and URI -/
structure AsksFor (endpoints : Endpoints) (clientConfig : ClientConfig) (result : ApplicationRunResult)
    (gateway : GatewayConfig) : Prop where
  resolves : ∃ host port later, endpoints.hostStr clientConfig.remoteWssUrl = some host ∧
    endpoints.portOrKnownDefault clientConfig.remoteWssUrl = some port ∧
    endpoints.lookupHost host port = .ok (gateway.serverAddr :: later) ∧
    gateway.serverName = (clientConfig.tls.bind (·.serverNameOverride)).getD host
  uri : endpoints.uri clientConfig.remoteWssUrl = .ok gateway.websocketUri
  token : gateway.authToken = result.startup.config.authToken
  context : result.startup.tlsContext = some gateway.tlsContext
  policy : gateway.authPolicy = result.startup.authPolicy

theorem buildClientGateway_eq_ok_iff {endpoints : Endpoints} {result : ApplicationRunResult}
    {clientConfig : ClientConfig} (hmode : result.startup.config.runtimeMode = .client clientConfig)
    {gateway : GatewayConfig} :
    buildClientGateway endpoints result = .ok gateway ↔ AsksFor endpoints clientConfig result gateway := by
  unfold buildClientGateway
  rw [hmode]
  constructor
  · intro h
    obtain ⟨addr, haddr, h⟩ := bind_eq_ok_iff.1 h
    obtain ⟨name, hname, h⟩ := bind_eq_ok_iff.1 h
    obtain ⟨uri, huri, h⟩ := bind_eq_ok_iff.1 h
    obtain ⟨handle, hhandle, h⟩ := bind_eq_ok_iff.1 h
    cases h
    obtain ⟨host, port, later, hhost, hport, hlookup⟩ := resolveRemoteSocketAddr_eq_ok_iff.1 haddr
    have hserver : name = (clientConfig.tls.bind (·.serverNameOverride)).getD host := by
      have hsome := okOr_eq_ok_iff.1 hname
      rw [hhost] at hsome
      cases hoverride : clientConfig.tls.bind (·.serverNameOverride) with
      | none =>
        rw [hoverride] at hsome
        exact (Option.some.inj hsome).symm
      | some override =>
        rw [hoverride] at hsome
        exact (Option.some.inj hsome).symm
    exact ⟨⟨host, port, later, hhost, hport, hlookup, hserver⟩, mapError_eq_ok_iff.1 huri, rfl,
      okOr_eq_ok_iff.1 hhandle, rfl⟩
  · rintro ⟨⟨host, port, later, hhost, hport, hlookup, hserver⟩, huri, htoken, hcontext, hpolicy⟩
    have hname : okOr noHost ((clientConfig.tls.bind (·.serverNameOverride)).or
        (endpoints.hostStr clientConfig.remoteWssUrl)) = .ok gateway.serverName := by
      rw [hserver, hhost]
      cases clientConfig.tls.bind (·.serverNameOverride) <;> rfl
    simp only
    rw [bind_of_ok (resolveRemoteSocketAddr_eq_ok_iff.2 ⟨host, port, later, hhost, hport, hlookup⟩),
      bind_of_ok hname, bind_of_ok (mapError_eq_ok_iff.2 huri),
      bind_of_ok (okOr_eq_ok_iff.2 hcontext), ← htoken, ← hpolicy]

/-- **A client needs a trust anchor.** Every loaded client configuration without one starts, and then fails when its gateway
is built, whatever the resolver and the parsers answer. A client that has started has a gateway exactly where the gateway is
the one its configuration asks for, and then a trust anchor was configured and the gateway can connect and not accept. -/
theorem client_needs_trust_anchor {config : AppConfig} {clientConfig : ClientConfig}
    (hload : loadConfigFrom tryParseFrom args = .ok config) (hmode : config.runtimeMode = .client clientConfig)
    (env : Env) (endpoints : Endpoints) :
    (clientConfig.tls = none → ∃ result err, runFrom tryParseFrom env args = .ok result ∧
      buildClientGateway endpoints result = .error err) ∧
    ∀ result gateway, runFrom tryParseFrom env args = .ok result →
      (buildClientGateway endpoints result = .ok gateway ↔ AsksFor endpoints clientConfig result gateway ∧
        clientConfig.tls ≠ none ∧ gateway.tlsContext.acceptor = none ∧ gateway.tlsContext.connector ≠ none) := by
  have hstarted : ∀ result, runFrom tryParseFrom env args = .ok result →
      result.startup.config.runtimeMode = .client clientConfig ∧ ContextOf (.client clientConfig) result.startup.tlsContext := by
    intro result h
    obtain ⟨config', tlsContext, hload', htls, -, hconfig, -, -, -, hcontext, -⟩ := startedWith_of_runFrom h
    obtain rfl : config = config' := Except.ok.inj (hload.symm.trans hload')
    rw [hconfig, hcontext, ← hmode]
    exact ⟨rfl, contextOf_tlsContextFor htls⟩
  have hgood : ∀ result gateway, runFrom tryParseFrom env args = .ok result →
      AsksFor endpoints clientConfig result gateway →
      clientConfig.tls ≠ none ∧ gateway.tlsContext.acceptor = none ∧ gateway.tlsContext.connector ≠ none := by
    intro result gateway h hasks
    have hsides := (hstarted result h).2
    rw [hasks.context] at hsides
    exact hsides
  constructor
  · intro hnone
    have htls : tlsContextFor env config.runtimeMode = .ok none := by simp only [hmode, tlsContextFor, hnone]
    have hrun := runFrom_of_load env hload
    rw [htls] at hrun
    cases hbuilt : runFrom tryParseFrom env args with
    | error err =>
      rw [hbuilt] at hrun
      cases hrun
    | ok result =>
      cases hgateway : buildClientGateway endpoints result with
      | error err => exact ⟨result, err, rfl, hgateway⟩
      | ok gateway =>
        have hasks := (buildClientGateway_eq_ok_iff (hstarted result hbuilt).1).1 hgateway
        exact absurd hnone (hgood result gateway hbuilt hasks).1
  · intro result gateway h
    rw [buildClientGateway_eq_ok_iff (hstarted result h).1]
    exact ⟨fun hasks => ⟨hasks, hgood result gateway h hasks⟩, fun hboth => hboth.1⟩

/-- files that hold one certificate and one key each, issued by another and valid -/
def oneCertificate : Env where
  read := fun _ _ => some [1]
  certs := fun bytes => some [bytes]
  pkcs8PrivateKey := fun bytes => some (.ok bytes)
  rsaPrivateKey := fun _ => none
  fromDer := fun _ => some ⟨⟨[0]⟩, ⟨[1]⟩, 0, 10⟩
  nameText := fun _ => "CN=gateway.example"
  now := 5
  sinceEpoch := .ok ()
  addRoot := fun _ => .ok ()
  withSingleCert := fun _ _ => .ok ()

/-- a name that resolves -/
def oneAddress : Endpoints where
  hostStr := fun _ => some "gateway.example"
  portOrKnownDefault := fun _ => some 443
  uri := fun url => .ok (url.scheme ++ ":" ++ url.rest)
  lookupHost := fun _ port => .ok [.v4 ⟨192, 0, 2, 1⟩ port]

/-- the client with every default starts, and has no gateway -/
theorem default_client_without_gateway : ∃ result err,
    runFrom (fun _ => .ok (clientArgs 256 1000)) oneCertificate [] = .ok result ∧
      buildClientGateway oneAddress result = .error err :=
  (client_needs_trust_anchor (load_clientArgs (by decide) (by decide) []) rfl oneCertificate oneAddress).1 rfl

end N0wss.Cli
