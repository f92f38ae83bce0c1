/-
What start-up asks of the library with an accepted configuration (`cli/mod.rs`): channels, semaphores, deadlines, buffers.

Each request has a limit of its own, past which it panics. The checks of `Config/Load` bound every number from below only.
Which requests are made depends on how far start-up gets: a client that has no gateway asks for the queue of its intents and
no more, and a live helper allocates its buffer with its first packet.

- `buildClientRuntime_ne_panic_iff`: the requests of a client. `selector_of_buildClientRuntime`: the selector it comes to.
- `startup_in_range_iff`: start-up does not panic exactly where the numbers that it comes to use stay under what they are
  used for.
- `huge_session_limit_panics`: arguments that pass every check, and a start-up that panics on them.
-/
import N0wss.Cli.Startup
import N0wss.Core.Checked
import N0wss.OrigDst.Runtime
import N0wss.Session.SelectorTiming

namespace N0wss.Cli

open Checked Config Net Stages Tls
open OrigDst (Recvmsg recvRecoveredIpv4Datagram recv_eq_panic_iff)
open Session (Duration TransportSelectorConfig clientSelectorConfig)

/-! ## Limits -/

/-- `Duration::MAX`: every second and every nanosecond the type holds -/
def maxDuration : Duration := (2 ^ 64 - 1) * 1000000000 + 999999999

/-- `Semaphore::MAX_PERMITS`: `usize::MAX >> 3` -/
def maxPermits : UInt64 := UInt64.ofNat (2 ^ 64 - 1) >>> 3

section
variable {ε : Type}

/-- `Semaphore::new` -/
def newSemaphore (permits : UInt64) : MayPanic ε Unit := ensure (permits ≤ maxPermits)

/-- `mpsc::channel` -/
def newChannel (buffer : UInt64) : MayPanic ε Unit := do
  ensure (buffer ≠ 0)
  newSemaphore buffer

/-- `left + right`, of durations -/
def addDurations (left right : Duration) : MayPanic ε Duration := do
  ensure (left + right ≤ maxDuration)
  .ok (left + right)

end

/-! ## Start-up of each mode -/

structure Socks5ProxyConfig where
  listenAddr : SocketAddr
  totalTimeout : Duration
deriving DecidableEq, Repr

def Socks5ProxyConfig.fromAppConfig (config : AppConfig) : Option Socks5ProxyConfig :=
  match config.runtimeMode with
  | .client client => some ⟨client.listenAddr, config.timeouts.socks5TotalTimeout⟩
  | .server _ | .origDstLive _ => none

/-- what `run_client_mode` builds before it spawns its tasks -/
structure ClientRuntime where
  socks5 : Socks5ProxyConfig
  gateway : GatewayConfig
  selector : TransportSelectorConfig

/-- `run_client_mode`, until it spawns its tasks: the queue of intents, the gateway, the association registry, the selector
and the session registry -/
def buildClientRuntime (endpoints : Endpoints) (startup : ApplicationRunResult) :
    MayPanic CliRuntimeError ClientRuntime := do
  let config := startup.startup.config
  let socks5 ← lift (okOr (.clientRuntime "missing client socks5 config") (Socks5ProxyConfig.fromAppConfig config))
  newChannel config.limits.maxPendingIntents
  let gateway ← lift (buildClientGateway endpoints startup)
  newSemaphore config.limits.maxSessions
  let connectTimeouts ← addDurations config.timeouts.irohConnectTimeout config.timeouts.wssConnectTimeout
  let safetyTimeout ← addDurations connectTimeouts (fromSecs 1)
  newSemaphore config.limits.maxSessions
  .ok ⟨socks5, gateway, config.timeouts.irohConnectTimeout, config.timeouts.wssConnectTimeout, safetyTimeout⟩

/-- `run_origdst_live_until_cancelled`, up to its first packet. `first` is what it meets: a call before that fails, or its
cancellation, or what the kernel has for it. The packet is received in a blocking thread, and its panic is that thread's. -/
def receiveFirst (first : Except String (Option Recvmsg)) (live : OrigDstLiveConfig) : MayPanic CliRuntimeError Unit := do
  let packet ← lift (first.mapError .origDstLiveRuntime)
  match packet with
  | none => .ok ()
  | some recvmsg =>
    ((recvRecoveredIpv4Datagram recvmsg live.listenerAddr live.payloadCapacityBytes).map fun _ => ()).mapError
      (Fault.map fun err => .origDstLiveRuntime err.text)

/-- the mode that was selected, until its tasks are spawned or its first packet is received -/
def startMode (endpoints : Endpoints) (first : Except String (Option Recvmsg)) (startup : ApplicationRunResult) :
    MayPanic CliRuntimeError Unit :=
  match startup.startup.config.runtimeMode with
  | .client _ => (buildClientRuntime endpoints startup).map fun _ => ()
  | .server server => lift ((buildServerGateway startup server.listenAddr).map fun _ => ())
  | .origDstLive live => receiveFirst first live

/-- `run_until_shutdown_from`, that far -/
def startUp (tryParseFrom : List String → Except String CliArgs) (env : Env) (endpoints : Endpoints)
    (first : Except String (Option Recvmsg)) (args : List String) : MayPanic CliRuntimeError Unit := do
  let startup ← lift ((runFrom tryParseFrom env args).mapError .bootstrap)
  startMode endpoints first startup

/-! ## What is used, and whether it fits -/

/-- the trust anchor that a client's arguments name is accepted, where they name one -/
def AnchorLoads (env : Env) (path : Option String) : Prop :=
  ∀ p, path = some p → ∃ handle, fromClientConfig env ⟨p⟩ = .ok handle

/-- a client's arguments name a trust anchor, and a URL with a host that resolves, a port, and the form of a URI -/
structure Reachable (endpoints : Endpoints) (url : Url) (path : Option String) : Prop where
  anchor : path ≠ none
  resolves : ∃ host port addr later, endpoints.hostStr url = some host ∧ endpoints.portOrKnownDefault url = some port ∧
    endpoints.lookupHost host port = .ok (addr :: later)
  uri : ∃ uri, endpoints.uri url = .ok uri

/-- every number that start-up comes to use stays under what it is used for -/
def ArgumentsFit (env : Env) (endpoints : Endpoints) (first : Except String (Option Recvmsg)) (value : CliArgs) : Prop :=
  match value.mode with
  | .client _ remoteWssUrl tlsTrustAnchorPath _ =>
    AnchorLoads env tlsTrustAnchorPath → value.maxPendingIntents.toNat < 2 ^ 61 ∧
      (Reachable endpoints remoteWssUrl tlsTrustAnchorPath → value.maxSessions.toNat < 2 ^ 61 ∧
        value.irohConnectTimeoutSecs.toNat + value.wssConnectTimeoutSecs.toNat + 1 < 2 ^ 64)
  | .server .. => True
  | .origdstLive _ payloadCapacityBytes .. =>
    (∃ recvmsg, first = .ok (some recvmsg)) → payloadCapacityBytes.toNat < 2 ^ 63

theorem le_maxPermits_iff {n : UInt64} : n ≤ maxPermits ↔ n.toNat < 2 ^ 61 := by
  have hmax : maxPermits.toNat = 2 ^ 61 - 1 := by decide +kernel
  rw [UInt64.le_iff_toNat_le, hmax]
  omega

theorem wholeSecs_le_iff {secs : ℕ} : secs * 1000000000 ≤ maxDuration ↔ secs < 2 ^ 64 := by
  have hmax : maxDuration = (2 ^ 64 - 1) * 1000000000 + 999999999 := rfl
  constructor
  · intro h
    have hbound : secs * 1000000000 ≤ (2 ^ 64 - 1) * 1000000000 + 999999999 := h
    omega
  · intro h
    calc secs * 1000000000 ≤ (2 ^ 64 - 1) * 1000000000 := Nat.mul_le_mul_right _ (by omega)
      _ ≤ maxDuration := Nat.le_add_right _ _

section
variable {ε β : Type}

theorem newSemaphore_bind_ne_panic_iff {permits : UInt64} {f : Unit → MayPanic ε β} :
    (newSemaphore permits >>= f) ≠ .error .panic ↔ permits.toNat < 2 ^ 61 ∧ f () ≠ .error .panic := by
  rw [newSemaphore, ensure_bind_ne_panic_iff, le_maxPermits_iff]

theorem newChannel_bind_ne_panic_iff {buffer : UInt64} (hbuffer : buffer.toNat ≠ 0) {f : Unit → MayPanic ε β} :
    (newChannel buffer >>= f) ≠ .error .panic ↔ buffer.toNat < 2 ^ 61 ∧ f () ≠ .error .panic := by
  have hnonzero : buffer ≠ 0 := fun h => hbuffer (by rw [h]; rfl)
  have hchannel : (newChannel buffer : MayPanic ε Unit) = newSemaphore buffer := by
    rw [newChannel, ensure_of hnonzero, ok_bind]
  rw [hchannel, newSemaphore_bind_ne_panic_iff]

theorem addDurations_bind_ne_panic_iff {left right : Duration} {f : Duration → MayPanic ε β} :
    (addDurations left right >>= f) ≠ .error .panic ↔ left + right ≤ maxDuration ∧ f (left + right) ≠ .error .panic := by
  rw [addDurations, bind_assoc, ensure_bind_ne_panic_iff, ok_bind]

end

variable {tryParseFrom : List String → Except String CliArgs} {env : Env} {endpoints : Endpoints} {args : List String}

/-- **The requests of a client.** Before its tasks are spawned nothing panics exactly where the queue of intents fits and,
once there is a gateway, the registries and the sum of the timeouts do. -/
theorem buildClientRuntime_ne_panic_iff {startup : ApplicationRunResult} {client : ClientConfig}
    (hmode : startup.startup.config.runtimeMode = .client client)
    (hpending : startup.startup.config.limits.maxPendingIntents.toNat ≠ 0) {iroh wss : UInt64}
    (hiroh : startup.startup.config.timeouts.irohConnectTimeout = fromSecs iroh)
    (hwss : startup.startup.config.timeouts.wssConnectTimeout = fromSecs wss) :
    buildClientRuntime endpoints startup ≠ .error .panic ↔
      startup.startup.config.limits.maxPendingIntents.toNat < 2 ^ 61 ∧
        ((∃ gateway, buildClientGateway endpoints startup = .ok gateway) →
          startup.startup.config.limits.maxSessions.toNat < 2 ^ 61 ∧ iroh.toNat + wss.toNat + 1 < 2 ^ 64) := by
  have hsocks5 : okOr (.clientRuntime "missing client socks5 config")
      (Socks5ProxyConfig.fromAppConfig startup.startup.config) =
        .ok ⟨client.listenAddr, startup.startup.config.timeouts.socks5TotalTimeout⟩ := by
    rw [Socks5ProxyConfig.fromAppConfig, hmode]
    rfl
  have hfirst : fromSecs iroh + fromSecs wss = (iroh.toNat + wss.toNat) * 1000000000 := (Nat.add_mul ..).symm
  have hsecond : fromSecs iroh + fromSecs wss + fromSecs 1 = (iroh.toNat + wss.toNat + 1) * 1000000000 := by
    rw [hfirst]
    exact (Nat.add_mul ..).symm
  unfold buildClientRuntime
  simp only [hsocks5, lift_ok, ok_bind, newChannel_bind_ne_panic_iff hpending, lift_bind_ne_panic_iff,
    newSemaphore_bind_ne_panic_iff, addDurations_bind_ne_panic_iff, hiroh, hwss, hsecond, wholeSecs_le_iff]
  rw [hfirst, wholeSecs_le_iff]
  simp only [ne_eq, reduceCtorEq, not_false_eq_true, and_true]
  refine and_congr_right fun _ => ⟨?_, ?_⟩
  · rintro h ⟨gateway, hgateway⟩
    obtain ⟨hsessions, -, hsum, -⟩ := h gateway hgateway
    exact ⟨hsessions, hsum⟩
  · intro h gateway hgateway
    obtain ⟨hsessions, hsum⟩ := h ⟨gateway, hgateway⟩
    exact ⟨hsessions, by omega, hsum, hsessions⟩

/-- the selector that is built is the one of these timeouts -/
theorem selector_of_buildClientRuntime {startup : ApplicationRunResult} {runtime : ClientRuntime}
    (h : buildClientRuntime endpoints startup = .ok runtime) :
    runtime.selector = clientSelectorConfig startup.startup.config.timeouts ∧
      buildClientGateway endpoints startup = .ok runtime.gateway := by
  obtain ⟨socks5, -, h⟩ := bind_eq_ok_iff.1 h
  obtain ⟨_, -, h⟩ := bind_eq_ok_iff.1 h
  obtain ⟨gateway, hgateway, h⟩ := bind_eq_ok_iff.1 h
  obtain ⟨_, -, h⟩ := bind_eq_ok_iff.1 h
  obtain ⟨connectTimeouts, hconnect, h⟩ := bind_eq_ok_iff.1 h
  obtain ⟨safetyTimeout, hsafety, h⟩ := bind_eq_ok_iff.1 h
  obtain ⟨_, -, h⟩ := bind_eq_ok_iff.1 h
  obtain ⟨_, -, hconnect⟩ := bind_eq_ok_iff.1 hconnect
  obtain ⟨_, -, hsafety⟩ := bind_eq_ok_iff.1 hsafety
  cases h
  cases hconnect
  cases hsafety
  exact ⟨rfl, lift_eq_ok_iff.1 hgateway⟩

theorem receiveFirst_ne_panic_iff {first : Except String (Option Recvmsg)} {live : OrigDstLiveConfig} :
    receiveFirst first live ≠ .error .panic ↔
      ((∃ recvmsg, first = .ok (some recvmsg)) → live.payloadCapacityBytes.toNat < 2 ^ 63) := by
  have hmax : isizeMax = 2 ^ 63 - 1 := rfl
  unfold receiveFirst
  simp only [lift_bind_ne_panic_iff, mapError_eq_ok_iff]
  constructor
  · rintro h ⟨recvmsg, hfirst⟩
    by_contra hlarge
    have hpanic : recvRecoveredIpv4Datagram recvmsg live.listenerAddr live.payloadCapacityBytes = .error .panic :=
      recv_eq_panic_iff.2 (by omega)
    exact h (some recvmsg) hfirst (by simp only [hpanic]; rfl)
  · intro h packet hfirst
    cases packet with
    | none => rintro ⟨⟩
    | some recvmsg =>
      have hfits := h ⟨recvmsg, hfirst⟩
      simp only [mapError_ne_panic_iff, map_ne_panic_iff, ne_eq, recv_eq_panic_iff]
      omega

/-! ## Start-up -/

/-- start-up gets past its TLS material exactly where the trust anchor loads, if one is named -/
theorem tlsContextFor_client_iff {client : ClientConfig} :
    (∃ tlsContext, tlsContextFor env (.client client) = .ok tlsContext) ↔
      AnchorLoads env (client.tls.map (·.trustAnchorPath)) := by
  cases htls : client.tls with
  | none => simp [AnchorLoads, tlsContextFor, htls]
  | some tls =>
    cases hbuilt : fromClientConfig env ⟨tls.trustAnchorPath⟩ with
    | error err => simp [AnchorLoads, tlsContextFor, htls, hbuilt, Except.map]
    | ok handle => simp [AnchorLoads, tlsContextFor, htls, hbuilt, Except.map]

/-- and then there is a gateway exactly where there is a trust anchor and the URL can be reached -/
theorem buildClientGateway_iff {startup : ApplicationRunResult} {client : ClientConfig}
    (hmode : startup.startup.config.runtimeMode = .client client)
    (hcontext : startup.startup.tlsContext = none ↔ client.tls = none) :
    (∃ gateway, buildClientGateway endpoints startup = .ok gateway) ↔
      Reachable endpoints client.remoteWssUrl (client.tls.map (·.trustAnchorPath)) := by
  simp only [buildClientGateway_eq_ok_iff hmode]
  constructor
  · rintro ⟨gateway, hasks⟩
    obtain ⟨host, port, later, hhost, hport, hlookup, -⟩ := hasks.resolves
    refine ⟨?_, ⟨host, port, gateway.serverAddr, later, hhost, hport, hlookup⟩, ⟨gateway.websocketUri, hasks.uri⟩⟩
    rw [Ne, Option.map_eq_none_iff, ← hcontext, hasks.context]
    exact Option.some_ne_none gateway.tlsContext
  · rintro ⟨hanchor, ⟨host, port, addr, later, hhost, hport, hlookup⟩, uri, huri⟩
    rw [Ne, Option.map_eq_none_iff, ← hcontext] at hanchor
    obtain ⟨handle, hhandle⟩ := Option.ne_none_iff_exists'.1 hanchor
    exact ⟨⟨addr, (client.tls.bind (·.serverNameOverride)).getD host, uri, startup.startup.config.authToken, handle,
      startup.startup.authPolicy⟩, ⟨host, port, later, hhost, hport, hlookup, rfl⟩, huri, rfl, hhandle, rfl⟩

theorem client_of_args {listenAddr : SocketAddr} {remoteWssUrl : Url} {path name : Option String}
    {runtimeMode : RuntimeMode} (h : runtimeModeFrom (.client listenAddr remoteWssUrl path name) = .ok runtimeMode) :
    ∃ client, runtimeMode = .client client ∧ client.remoteWssUrl = remoteWssUrl ∧
      client.tls.map (·.trustAnchorPath) = path := by
  simp only [runtimeModeFrom] at h
  split_ifs at h
  cases h
  exact ⟨_, rfl, rfl, by cases path <;> rfl⟩

/-- a client that has started: its requests by its arguments -/
theorem startMode_client_iff (endpoints : Endpoints) (first : Except String (Option Recvmsg)) {parsed : CliArgs}
    {client : ClientConfig} {result : ApplicationRunResult} (hpending : parsed.maxPendingIntents.toNat ≠ 0)
    (hconfig : result.startup.config = assemble parsed (.client client))
    (htls : tlsContextFor env (.client client) = .ok result.startup.tlsContext) :
    startMode endpoints first result ≠ .error .panic ↔ parsed.maxPendingIntents.toNat < 2 ^ 61 ∧
      (Reachable endpoints client.remoteWssUrl (client.tls.map (·.trustAnchorPath)) →
        parsed.maxSessions.toNat < 2 ^ 61 ∧
          parsed.irohConnectTimeoutSecs.toNat + parsed.wssConnectTimeoutSecs.toNat + 1 < 2 ^ 64) := by
  have hmode : result.startup.config.runtimeMode = .client client := by rw [hconfig]; rfl
  have hsides := contextOf_tlsContextFor htls
  have hcontext : result.startup.tlsContext = none ↔ client.tls = none := by
    cases hhandle : result.startup.tlsContext with
    | none =>
      rw [hhandle] at hsides
      exact iff_of_true rfl hsides
    | some handle =>
      rw [hhandle] at hsides
      exact iff_of_false (Option.some_ne_none handle) hsides.1
  unfold startMode
  rw [hmode]
  simp only [map_ne_panic_iff]
  have hiroh : result.startup.config.timeouts.irohConnectTimeout = fromSecs parsed.irohConnectTimeoutSecs := by
    rw [hconfig]
    rfl
  have hwss : result.startup.config.timeouts.wssConnectTimeout = fromSecs parsed.wssConnectTimeoutSecs := by
    rw [hconfig]
    rfl
  rw [buildClientRuntime_ne_panic_iff hmode (by rw [hconfig]; exact hpending) hiroh hwss,
    buildClientGateway_iff hmode hcontext, hconfig]
  rfl

theorem startMode_server_ne_panic (endpoints : Endpoints) (first : Except String (Option Recvmsg)) {server : ServerConfig}
    {result : ApplicationRunResult} (hmode : result.startup.config.runtimeMode = .server server) :
    startMode endpoints first result ≠ .error .panic := by
  rw [startMode, hmode]
  exact lift_ne_panic _

theorem startMode_live (endpoints : Endpoints) (first : Except String (Option Recvmsg)) {live : OrigDstLiveConfig}
    {result : ApplicationRunResult} (hmode : result.startup.config.runtimeMode = .origDstLive live) :
    startMode endpoints first result = receiveFirst first live := by
  rw [startMode, hmode]

/-- what a program that has started is configured with -/
theorem config_of_runFrom {config : AppConfig} (hload : loadConfigFrom tryParseFrom args = .ok config)
    {result : ApplicationRunResult} (hrun : runFrom tryParseFrom env args = .ok result) :
    result.startup.config = config ∧ tlsContextFor env config.runtimeMode = .ok result.startup.tlsContext := by
  obtain ⟨config', tlsContext, hload', htls, -, hconfig, -, -, -, hcontext, -⟩ := startedWith_of_runFrom hrun
  obtain rfl : config = config' := Except.ok.inj (hload.symm.trans hload')
  rw [hcontext]
  exact ⟨hconfig, htls⟩

/-- of an accepted configuration only the TLS context can fail -/
theorem exists_runFrom_iff (env : Env) {config : AppConfig} (hload : loadConfigFrom tryParseFrom args = .ok config) :
    (∃ result, runFrom tryParseFrom env args = .ok result) ↔
      ∃ tlsContext, tlsContextFor env config.runtimeMode = .ok tlsContext := by
  rw [runFrom_of_load env hload]
  cases tlsContextFor env config.runtimeMode <;> simp [Except.mapError, Except.bind]

/-- **Start-up is in range** exactly when the numbers that it comes to use stay under what they are used for; no check says
they do. -/
theorem startup_in_range_iff {parsed : CliArgs} {config : AppConfig} (hparsed : tryParseFrom args = .ok parsed)
    (hload : loadConfigFrom tryParseFrom args = .ok config) (env : Env) (endpoints : Endpoints)
    (first : Except String (Option Recvmsg)) :
    startUp tryParseFrom env endpoints first args ≠ .error .panic ↔ ArgumentsFit env endpoints first parsed := by
  have haccepted := accepted_of_load hload
  obtain ⟨value, hvalue, htry⟩ := loadConfigFrom_eq_ok.1 hload
  obtain rfl : parsed = value := Except.ok.inj (hparsed.symm.trans hvalue)
  obtain ⟨-, runtimeMode, hmode, rfl⟩ := tryFrom_eq_ok.1 htry
  have hruns := exists_runFrom_iff env hload
  unfold startUp ArgumentsFit
  simp only [lift_bind_ne_panic_iff, mapError_eq_ok_iff]
  cases hargs : parsed.mode with
  | client listenAddr remoteWssUrl tlsTrustAnchorPath tlsServerNameOverride =>
    obtain ⟨client, rfl, rfl, rfl⟩ := client_of_args (hargs ▸ hmode)
    have hone : ∀ result, runFrom tryParseFrom env args = .ok result → _ := fun result hrun =>
      (config_of_runFrom hload hrun).elim (startMode_client_iff endpoints first haccepted.pending)
    simp only
    rw [← tlsContextFor_client_iff]
    constructor
    · intro h htls
      obtain ⟨result, hrun⟩ := hruns.2 htls
      exact (hone result hrun).1 (h result hrun)
    · intro h result hrun
      exact (hone result hrun).2 (h (hruns.1 ⟨result, hrun⟩))
  | server listenAddr tlsCertPath tlsKeyPath =>
    obtain ⟨server, rfl⟩ := server_of_runtimeModeFrom (hargs ▸ hmode)
    refine iff_of_true ?_ trivial
    intro result hrun
    exact startMode_server_ne_panic endpoints first (congrArg (·.runtimeMode) (config_of_runFrom hload hrun).1)
  | origdstLive listenerAddr payloadCapacityBytes operatorUid preserveBaselineProxyAddr transparentSocketMode =>
    obtain ⟨live, rfl, rfl, -⟩ := live_of_runtimeModeFrom (hargs ▸ hmode)
    have hone : ∀ result, runFrom tryParseFrom env args = .ok result →
        startMode endpoints first result = receiveFirst first live := fun result hrun =>
      startMode_live endpoints first (congrArg (·.runtimeMode) (config_of_runFrom hload hrun).1)
    obtain ⟨started, hrun⟩ := hruns.2 ⟨none, rfl⟩
    simp only
    rw [← receiveFirst_ne_panic_iff]
    constructor
    · intro h
      rw [← hone started hrun]
      exact h started hrun
    · intro h result hrun
      rw [hone result hrun]
      exact h

/-! ## Arguments that do not fit -/

/-- a client with a trust anchor and every default, but for its session limit -/
def anchoredArgs (maxSessions : UInt64) : CliArgs :=
  { clientArgs maxSessions 1000 with
    mode := .client (.v4 ⟨127, 0, 0, 1⟩ 1080) ⟨"wss", "//gateway.example/"⟩ (some "anchor.pem") none }

theorem load_anchoredArgs {maxSessions : UInt64} (hsessions : maxSessions.toNat ≠ 0) (args : List String) :
    ∃ config, loadConfigFrom (fun _ => .ok (anchoredArgs maxSessions)) args = .ok config := by
  have hdefaults : (clientArgs maxSessions 1000).Valid := clientArgs_valid hsessions (by decide)
  have hvalid : (anchoredArgs maxSessions).Valid := ⟨hdefaults.token, hdefaults.positive, hdefaults.ordering⟩
  exact ⟨_, loadConfigFrom_eq_ok.2 ⟨_, rfl, tryFrom_eq_ok.2 ⟨hvalid, _, rfl, rfl⟩⟩⟩

/-- a client with the default limits does not panic: it loads its trust anchor and has a gateway -/
theorem default_client_in_range :
    startUp (fun _ => .ok (anchoredArgs 256)) oneCertificate oneAddress (.ok none) [] ≠ .error .panic := by
  obtain ⟨config, hload⟩ := @load_anchoredArgs 256 (by decide) []
  have hfits : ArgumentsFit oneCertificate oneAddress (.ok none) (anchoredArgs 256) :=
    fun _ => ⟨by decide, fun _ => ⟨by decide, by decide⟩⟩
  exact (startup_in_range_iff rfl hload oneCertificate oneAddress (.ok none)).2 hfits

/-- **A session limit past the permits of a semaphore** passes every check, and start-up panics on it: the trust anchor
loads, the gateway is built, and then the association registry is. -/
theorem huge_session_limit_panics : ¬ ∀ (tryParseFrom : List String → Except String CliArgs) (args : List String)
    (config : AppConfig) (env : Env) (endpoints : Endpoints) (first : Except String (Option Recvmsg)),
    loadConfigFrom tryParseFrom args = .ok config →
      startUp tryParseFrom env endpoints first args ≠ .error .panic := by
  intro h
  obtain ⟨config, hload⟩ := @load_anchoredArgs 18446744073709551615 (by decide) []
  have hpanic : startUp (fun _ => .ok (anchoredArgs 18446744073709551615)) oneCertificate oneAddress (.ok none) [] =
      .error .panic := rfl
  exact h _ [] config oneCertificate oneAddress (.ok none) hload hpanic

end N0wss.Cli
