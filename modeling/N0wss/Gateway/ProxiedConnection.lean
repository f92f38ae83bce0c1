/-
One CONNECT request from the client's socket to the target's: `parse_client_request` and `handle_connection_inner`
(`socks5/mod.rs`), `run_worker` and `process_intent` (`proxy_bridge/mod.rs`), and the tunnel of `Relay` under them.

The tunnel is opened by `resolve_stream`, and its pump starts once the success reply is written or has failed to be. What
lies outside is an operation's argument: timeouts, the queue, the session registry, how much the client's socket takes at
once and when it fails. A socket that has failed takes no more. A UDP ASSOCIATE is told the address of its relay socket, and
has no tunnel.

- `parse_writes`: whatever the client sends, the parser writes one of the two method selections, or nothing.
- `asked_of_parse`: what is asked for is what the request at the front of the stream asks for, and what follows it is left.
- `inv_step`: no step makes untrue what the client was told.
- `connection_is_honest`: what the client is told is true, and its bytes go where its request says.
-/
import N0wss.Core.Stages
import N0wss.Gateway.Agreement
import N0wss.Socks5.Answered

namespace N0wss.Socks5

open Bytes Net Segments Stages

/-! ## What the parser writes -/

namespace Wire

variable {α β : Type}

/-- whatever comes of it, what it writes is one of `lines` -/
def Writes (x : Wire α) (lines : List (List UInt8)) : Prop := ∀ c, ∃ line ∈ lines, (dropped (x c)).sent = c.sent ++ line

/-- it writes nothing -/
def Quiet (x : Wire α) : Prop := ∀ c, (dropped (x c)).sent = c.sent

theorem bind_cases (x : Wire α) (f : α → Wire β) (c : Connection) :
    (∃ err c', x c = .error err c' ∧ (x >>= f) c = .error err c') ∨ ∃ a c', x c = .ok a c' ∧ (x >>= f) c = f a c' := by
  cases hx : x c with
  | error err c' => exact Or.inl ⟨err, c', rfl, Wire.bind_of_error hx f⟩
  | ok a c' => exact Or.inr ⟨a, c', rfl, Wire.bind_of_ok hx f⟩

theorem Quiet.writes {x : Wire α} (h : Quiet x) {lines : List (List UInt8)} (hnil : [] ∈ lines) : Writes x lines := by
  intro c
  exact ⟨[], hnil, by rw [h c, List.append_nil]⟩

theorem Quiet.bind {x : Wire α} {f : α → Wire β} (hx : Quiet x) (hf : ∀ a, Quiet (f a)) : Quiet (x >>= f) := by
  intro c
  have hsent := hx c
  rcases bind_cases x f c with ⟨err, c', hxc, hbind⟩ | ⟨a, c', hxc, hbind⟩
  · rw [hxc] at hsent
    rw [hbind]
    exact hsent
  · rw [hxc] at hsent
    rw [hbind, hf a c']
    exact hsent

theorem Quiet.bind_writes {x : Wire α} {f : α → Wire β} {lines : List (List UInt8)} (hx : Quiet x) (hnil : [] ∈ lines)
    (hf : ∀ a, Writes (f a) lines) : Writes (x >>= f) lines := by
  intro c
  have hsent := hx c
  rcases bind_cases x f c with ⟨err, c', hxc, hbind⟩ | ⟨a, c', hxc, hbind⟩
  · rw [hxc] at hsent
    rw [hbind]
    exact ⟨[], hnil, by rw [List.append_nil]; exact hsent⟩
  · rw [hxc] at hsent
    obtain ⟨line, hmem, hline⟩ := hf a c'
    rw [hbind]
    exact ⟨line, hmem, by rw [hline]; exact congrArg (· ++ line) hsent⟩

/-- a line that is written is the last one -/
theorem writes_writeAll {bytes : List UInt8} {f : Unit → Wire β} {lines : List (List UInt8)} (hnil : [] ∈ lines)
    (hbytes : bytes ∈ lines) (hf : Quiet (f ())) : Writes (Wire.writeAll bytes >>= f) lines := by
  intro c
  cases hwrite : c.writeError with
  | some err =>
    have hfail : Wire.writeAll bytes c = .error (.io err) c := by rw [Wire.writeAll, hwrite]
    exact ⟨[], hnil, by rw [Wire.bind_of_error hfail, List.append_nil]; rfl⟩
  | none => exact ⟨bytes, hbytes, by rw [Wire.bind_of_ok (wire_writeAll bytes hwrite), hf]⟩

theorem quiet_pure (a : α) : Quiet (pure a : Wire α) := fun _ => rfl

theorem quiet_throw (err : Socks5Error) : Quiet (throw err : Wire α) := fun _ => rfl

theorem quiet_readExact (n : ℕ) : Quiet (Wire.readExact n) := by
  intro c
  simp only [Wire.readExact]
  split <;> rfl

theorem quiet_parseAddress (atyp : UInt8) : Quiet (Wire.parseAddress atyp) := by
  unfold Wire.parseAddress
  split_ifs with hv4 hdomain
  · refine (quiet_readExact 4).bind fun ipv4 => (quiet_readExact 2).bind fun port => ?_
    split
    · exact quiet_pure _
    · exact quiet_throw _
  · refine (quiet_readExact 1).bind fun len => (quiet_readExact _).bind fun domain => (quiet_readExact 2).bind fun port => ?_
    split
    · exact quiet_pure _
    · exact quiet_throw _
  · exact quiet_throw _

/-- the parser selects a method, or refuses all that are offered, and writes nothing else -/
theorem parse_writes (id : UInt64) : Writes (parseClientRequest id) [[], [0x05, 0x00], [0x05, 0xff]] := by
  unfold parseClientRequest
  refine (quiet_readExact 2).bind_writes List.mem_cons_self fun greeting => ?_
  split_ifs with hversion
  · exact (quiet_throw _).writes List.mem_cons_self
  refine (quiet_readExact _).bind_writes List.mem_cons_self fun methods => ?_
  by_cases hmethods : 0x00 ∉ methods
  · rw [if_pos hmethods]
    exact writes_writeAll List.mem_cons_self (by decide) (quiet_throw _)
  rw [if_neg hmethods]
  refine writes_writeAll List.mem_cons_self (by decide) ?_
  refine (quiet_readExact 4).bind fun header => ?_
  split_ifs with hheader
  · exact quiet_throw _
  refine (quiet_parseAddress _).bind fun target => ?_
  simp only
  split_ifs
  · exact quiet_pure _
  · exact quiet_pure _
  · exact quiet_throw _

end Wire

theorem ClientStream.writeError_of_readExact {stream stream' : ClientStream} {n : ℕ} {bytes : List UInt8}
    (h : stream.readExact n = .ok (bytes, stream')) : stream'.writeError = stream.writeError := by
  unfold readExact at h
  split_ifs at h
  cases h
  rfl

/-- a request is read only behind a method selection that was written -/
theorem writes_of_parse {stream stream' : ClientStream} {id : UInt64} {request : ParsedRequest}
    (h : parseClientRequest stream id = .ok (request, stream')) : stream.writeError = none := by
  unfold parseClientRequest at h
  obtain ⟨⟨greeting, s1⟩, hgreeting, h⟩ := bind_eq_ok_iff.1 h
  simp only at h
  split_ifs at h with hversion
  obtain ⟨⟨methods, s2⟩, hmethods, h⟩ := bind_eq_ok_iff.1 h
  rw [← ClientStream.writeError_of_readExact hgreeting, ← ClientStream.writeError_of_readExact hmethods]
  by_contra hfails
  obtain ⟨err, herr⟩ := Option.ne_none_iff_exists'.1 hfails
  have hfail : ∀ bytes, s2.writeAll bytes = .error (.io err) := fun bytes => by rw [ClientStream.writeAll, herr]
  simp only at h
  split_ifs at h with hnone
  all_goals
    obtain ⟨_, hwrite, -⟩ := bind_eq_ok_iff.1 h
    rw [hfail] at hwrite
    cases hwrite

/-- what is asked for is what the request at the front of the stream asks for, and what follows the request is left -/
theorem asked_of_parse {c c' : Connection} {id : UInt64} {request : ParsedRequest}
    (h : Wire.parseClientRequest id c = .ok request c') :
    c'.sent = c.sent ++ [0x05, 0x00] ∧ ∃ word command target, flatten c.segments = word ++ flatten c'.segments ∧
      Request word command target ∧ request = requestOf command target id := by
  have hfollows := parse_follows id c
  rw [h] at hfollows
  cases hflat : parseClientRequest c.flat id with
  | error err =>
    rw [hflat] at hfollows
    obtain ⟨_, herr⟩ := hfollows
    cases herr
  | ok read =>
    obtain ⟨word, rest, command, target, hin, hword⟩ := request_of_parse hflat
    rw [parse_of_request hword hin (writes_of_parse hflat)] at hfollows
    obtain ⟨_, hok, hstream⟩ := hfollows
    injection hok with hrequest hc
    subst hc
    have hrest : flatten c'.segments = rest := congrArg ClientStream.incoming hstream
    refine ⟨congrArg ClientStream.sent hstream, word, command, target, ?_, hword, hrequest⟩
    rw [hrest]
    exact hin

theorem connect_of_requestOf {command : UInt8} {target : TargetAddr} {id : UInt64} {intent : ProxyIntent}
    (h : .connect intent = requestOf command target id) : command = 0x01 ∧ intent = ⟨target, .socks5, id⟩ := by
  rw [requestOf] at h
  split_ifs at h with hconnect
  cases h
  exact ⟨hconnect, rfl⟩

theorem associate_of_requestOf {word : List UInt8} {command : UInt8} {target hint : TargetAddr} {id : UInt64}
    (hword : Request word command target) (h : .udpAssociate hint = requestOf command target id) : command = 0x03 := by
  obtain @⟨_, _, _, _, _, _, _, -, -, hcommand, -⟩ := hword
  rw [requestOf] at h
  split_ifs at h with hconnect
  exact hcommand.resolve_left hconnect

end N0wss.Socks5

namespace N0wss.Gateway.Proxied

open Bridge Machine Net Segments Session Socks5

/-! ## The machine -/

/-- one client, and what both ends of the tunnel are configured with -/
structure Setup where
  v6 : Ipv6Text
  /-- what the client sends, as reads will deliver it -/
  segments : List (Segment UInt8)
  /-- how a read past its end goes, and every write of the parser, if those fail -/
  readError : String
  writeError : Option String
  nextRequestId : UInt64
  /-- the client's `auth_token` -/
  authToken : List UInt8
  policy : AuthPolicy
  /-- the server's label of the websocket -/
  peerLabel : String
  sessionId : SessionId
  fromTarget : List UInt8
  /-- what the handler of a UDP ASSOCIATE finds when it binds the relay socket -/
  udpRelay : RelayBind

def Setup.client (setup : Setup) : Socks5.Connection := ⟨setup.segments, setup.readError, setup.writeError, []⟩

/-- the client of which only so many pieces come before `total_timeout` -/
def Setup.cut (setup : Setup) (pieces : ℕ) : Socks5.Connection :=
  { setup.client with segments := setup.segments.take pieces, readError := "socks5 total timeout exceeded" }

/-- the tunnel that `resolve_stream` opens for an intent -/
def Setup.tunnel (setup : Setup) (intent : ProxyIntent) : Tunnel :=
  ⟨setup.authToken, setup.policy, setup.peerLabel, transportRequest setup.v6 intent, setup.sessionId⟩

inductive Stage where
  | parsing
  /-- before `try_send` -/
  | parsed
  | queued
  /-- in `resolve_stream` -/
  | resolving
  /-- `rest` of the reply is still to be written -/
  | replying (reply : Socks5Reply) (rest : List UInt8)
  | pumping
  /-- `rest` of the address of the UDP relay is still to be written; then the socket is read to its end, and no more is
  written to it -/
  | associating (rest : List UInt8)
  /-- the socket is dropped -/
  | ended
deriving DecidableEq

structure State where
  stage : Stage
  /-- the CONNECT request, once it is read -/
  intent : Option ProxyIntent
  /-- what the parser wrote to the client, and of its reply -/
  replied : List UInt8
  /-- a write of the reply has failed -/
  broken : Bool
  relay : Relay

/-- everything written to the client -/
def State.written (s : State) : List UInt8 := s.replied ++ s.relay.clientOut.log

inductive Op where
  | parse
  /-- `total_timeout`, when so many pieces have come -/
  | parseTimesOut (pieces : ℕ)
  | trySend (outcome : TrySend)
  /-- `register_session`, in the task of the worker -/
  | register (accepted : Bool)
  /-- `resolve_stream` returns the stream -/
  | resolved
  /-- it fails, or `total_request_timeout` comes first -/
  | unresolved
  /-- the client's socket takes `n` bytes of the reply -/
  | write (n : ℕ)
  | writeFails
  /-- the socket is dropped: with the queue, at a timeout, with the runtime -/
  | drop
  | relay (op : Gateway.Op)

def start (setup : Setup) : State := ⟨.parsing, none, [], false, Gateway.start [] setup.fromTarget⟩

/-- the handler on what the parser returns -/
def afterParse (setup : Setup) (s : State) : EStateM.Result Socks5Error Socks5.Connection ParsedRequest → State
  | .ok (.connect intent) c =>
    { s with
      stage := .parsed
      intent := some intent
      replied := c.sent
      relay := Gateway.start (flatten c.segments) setup.fromTarget }
  | .ok (.udpAssociate _) c =>
    match setup.udpRelay.relayAddr with
    | .ok relayAddr => { s with stage := .associating (relayReply relayAddr), replied := c.sent }
    | .error _ => { s with stage := .ended, replied := c.sent }
  | .error _ c => { s with stage := .ended, replied := c.sent }

def afterReply : Socks5Reply → Stage
  | .succeeded => .pumping
  | _ => .ended

def refuse (s : State) : State := { s with stage := .replying .generalFailure Socks5Reply.generalFailure.bytes }

/-- a call of `open_stream` that is dropped, or the stream that it has returned -/
def abandon (s : Relay) : Relay :=
  if s.isOpen then { s with upClosed := true, downClosed := true } else { s with opening := .failed }

/-- a socket that has failed takes no more -/
def pumpOp (s : State) (o : PumpOp) : PumpOp :=
  match s.relay.pump, o with
  | .toClient _, .write n => if s.broken then .fail else .write n
  | _, o => o

/-- `open_stream` is called while the stream is resolved, and the pump runs after the reply -/
def relayOp (s : State) : Gateway.Op → Option Gateway.Op
  | .opening => if s.stage = .resolving then some .opening else none
  | .openingFails => if s.stage = .resolving then some .openingFails else none
  | .pump o => if s.stage = .pumping then some (.pump (pumpOp s o)) else none
  | o => some o

def step (setup : Setup) (s : State) : Op → State
  | .parse =>
    match s.stage with
    | .parsing => afterParse setup s (Wire.parseClientRequest setup.nextRequestId setup.client)
    | _ => s
  | .parseTimesOut pieces =>
    match s.stage, Wire.parseClientRequest setup.nextRequestId (setup.cut pieces) with
    | .parsing, .error _ c => { s with stage := .ended, replied := c.sent }
    | _, _ => s
  | .trySend outcome =>
    match s.stage with
    | .parsed =>
      match outcome with
      | .queued => { s with stage := .queued }
      | .full | .closed => refuse s
    | _ => s
  | .register accepted =>
    match s.stage with
    | .queued => if accepted then { s with stage := .resolving } else refuse s
    | _ => s
  | .resolved =>
    match s.stage with
    | .resolving =>
      if s.relay.isOpen then { s with stage := .replying .succeeded Socks5Reply.succeeded.bytes } else s
    | _ => s
  | .unresolved =>
    match s.stage with
    | .resolving => { refuse s with relay := abandon s.relay }
    | _ => s
  | .write n =>
    match s.stage with
    | .replying reply rest =>
      { s with
        stage := if rest.drop n = [] then afterReply reply else .replying reply (rest.drop n)
        replied := s.replied ++ rest.take n }
    | .associating rest => { s with stage := .associating (rest.drop n), replied := s.replied ++ rest.take n }
    | _ => s
  | .writeFails =>
    match s.stage with
    | .replying reply _ => { s with stage := afterReply reply, broken := true }
    | .associating _ => { s with stage := .ended, broken := true }
    | _ => s
  | .drop =>
    match s.stage with
    | .queued | .resolving | .replying _ _ => { s with stage := .ended, relay := abandon s.relay }
    | .associating _ => { s with stage := .ended }
    | _ => s
  | .relay o =>
    match s.intent, relayOp s o with
    | some intent, some o => { s with relay := Gateway.step (setup.tunnel intent) s.relay o }
    | _, _ => s

/-! ## The tunnel under it -/

section

variable {tunnel : Tunnel} {s : Relay}

/-- the sources are read from, and nothing is added to them -/
theorem sources_step (tunnel : Tunnel) (s : Relay) (o : Gateway.Op) :
    (Gateway.step tunnel s o).client.log = s.client.log ∧ (Gateway.step tunnel s o).target.log = s.target.log := by
  have hout := Gateway.step_outcome tunnel s o
  generalize Gateway.step tunnel s o = s' at hout ⊢
  cases hout with
  | pump o => exact ⟨Fifo.log_take _ _, rfl⟩
  | targetToWebsocket o => exact ⟨rfl, Fifo.log_take _ _⟩
  | _ => exact ⟨rfl, rfl⟩

theorem opening_stays (h : s.opening = .relaying) (o : Gateway.Op) : (Gateway.step tunnel s o).opening = .relaying := by
  have hout := Gateway.step_outcome tunnel s o
  generalize Gateway.step tunnel s o = s' at hout ⊢
  cases hout with
  | opening => rw [stepOpening_of_relaying h, h]
  | openingFails hnot => exact absurd h hnot
  | _ => exact h

/-- nothing was pumped -/
structure Unpumped (s : Relay) : Prop where
  pump : s.pump = .selecting
  unread : s.client.past = []
  unwritten : s.clientOut.log = []

theorem Unpumped.step (h : Unpumped s) {o : Gateway.Op} (ho : ∀ p, o ≠ .pump p) :
    Unpumped (Gateway.step tunnel s o) := by
  have hout := Gateway.step_outcome tunnel s o
  generalize Gateway.step tunnel s o = s' at hout ⊢
  cases hout with
  | pump o => exact absurd rfl (ho o)
  | _ => exact ⟨h.pump, h.unread, h.unwritten⟩

theorem unpumped_abandon (h : Unpumped s) : Unpumped (abandon s) := by
  unfold abandon
  split <;> exact ⟨h.pump, h.unread, h.unwritten⟩

theorem talkInv_abandon (h : TalkInv tunnel s) : TalkInv tunnel (abandon s) := by
  unfold abandon
  split
  · exact { h with chain := { h.chain with } }
  · rename_i hnot
    have hfails := talkInv_step .openingFails h
    rwa [Gateway.step, if_neg hnot] at hfails

end

/-! ## What every step keeps -/

/-- what the parser writes to a client whose request it reads -/
def selected : List UInt8 := [0x05, 0x00]

/-- the request at the front is a UDP ASSOCIATE, and this is the address of the relay socket that is bound for it -/
structure Associates (setup : Setup) (relayAddr : SocketAddr) : Prop where
  bound : setup.udpRelay.relayAddr = .ok relayAddr
  request : ∃ word rest hint, flatten setup.segments = word ++ rest ∧ Request word 0x03 hint

/-- the client of a UDP ASSOCIATE was told as much of the relay's address -/
def ToldRelay (setup : Setup) (s : State) : Prop :=
  s.intent = none ∧ ∃ relayAddr, Associates setup relayAddr ∧ s.replied <+: selected ++ relayReply relayAddr

/-- what the client was told, by where its request stands -/
def Told (setup : Setup) (s : State) : Stage → Prop
  | .parsing => s.intent = none ∧ s.replied = []
  | .parsed | .queued | .resolving => s.intent ≠ none ∧ s.replied = selected
  | .replying reply rest => s.intent ≠ none ∧ s.replied ++ rest = selected ++ reply.bytes ∧
      (reply = .generalFailure ∨ reply = .succeeded ∧ s.relay.opening = .relaying)
  | .pumping => s.intent ≠ none ∧ s.relay.opening = .relaying ∧ s.replied <+: selected ++ Socks5Reply.succeeded.bytes ∧
      (s.broken = false → s.replied = selected ++ Socks5Reply.succeeded.bytes)
  | .associating rest => s.intent = none ∧ ∃ relayAddr, Associates setup relayAddr ∧
      s.replied ++ rest = selected ++ relayReply relayAddr
  | .ended => s.replied <+: [0x05, 0xff] ∨ s.replied <+: selected ++ Socks5Reply.generalFailure.bytes ∨
      s.intent ≠ none ∧ s.relay.opening = .relaying ∧ s.replied <+: selected ++ Socks5Reply.succeeded.bytes ∨
      ToldRelay setup s

/-- the intent is that of the request in front of the bytes that the tunnel is given -/
structure Asked (setup : Setup) (s : State) (intent : ProxyIntent) : Prop where
  request : ∃ word target, flatten setup.segments = word ++ s.relay.client.log ∧ Request word 0x01 target ∧
    intent = ⟨target, .socks5, setup.nextRequestId⟩
  talk : TalkInv (setup.tunnel intent) s.relay

structure Inv (setup : Setup) (s : State) : Prop where
  told : Told setup s s.stage
  untouched : s.intent = none → s.relay = Gateway.start [] setup.fromTarget
  asked : ∀ intent, s.intent = some intent → Asked setup s intent
  target : s.relay.target.log = setup.fromTarget
  unpumped : s.stage ≠ .pumping → Unpumped s.relay
  broken : s.broken = true → s.relay.clientOut.log = []

variable {setup : Setup} {s : State}

theorem inv_start (setup : Setup) : Inv setup (start setup) where
  told := ⟨rfl, rfl⟩
  untouched := fun _ => rfl
  asked := fun _ h => by cases h
  target := rfl
  unpumped := fun _ => ⟨rfl, rfl, rfl⟩
  broken := fun h => by cases h

theorem notPumping {stage : Stage} (hstage : s.stage = stage) (h : stage ≠ .pumping) : s.stage ≠ .pumping := by
  rwa [hstage]

/-- the stage and the reply move on over a tunnel that is left alone -/
theorem inv_move (h : Inv setup s) {stage : Stage} (replied : List UInt8) (broken : Bool) (hnot : s.stage ≠ .pumping)
    (htold : Told setup { s with stage := stage, replied := replied, broken := broken } stage) :
    Inv setup { s with stage := stage, replied := replied, broken := broken } where
  told := htold
  untouched := h.untouched
  asked := fun intent hintent => { h.asked intent hintent with }
  target := h.target
  unpumped := fun _ => h.unpumped hnot
  broken := fun _ => (h.unpumped hnot).unwritten

/-- the parser has read no CONNECT request -/
theorem inv_unread (h : Inv setup s) (hstage : s.stage = .parsing) {line : List UInt8}
    (hline : line ∈ [[], selected, [0x05, 0xff]]) : Inv setup { s with stage := .ended, replied := line } := by
  apply inv_move h line s.broken (notPumping hstage Stage.noConfusion)
  simp only [Told]
  rcases hline with _ | ⟨_, _ | ⟨_, _ | ⟨_, hnil⟩⟩⟩
  · exact Or.inl List.nil_prefix
  · exact Or.inr (Or.inl (List.prefix_append _ _))
  · exact Or.inl (List.prefix_refl _)
  · cases hnil

theorem parse_writes_of_new (id : UInt64) {c : Socks5.Connection} (hnew : c.sent = []) :
    (dropped (Wire.parseClientRequest id c)).sent ∈ [[], selected, [0x05, 0xff]] := by
  obtain ⟨line, hmem, hsent⟩ := Wire.parse_writes id c
  rw [hsent, hnew, List.nil_append]
  exact hmem

theorem inv_parse (h : Inv setup s) (hstage : s.stage = .parsing) :
    Inv setup (afterParse setup s (Wire.parseClientRequest setup.nextRequestId setup.client)) := by
  have hline := parse_writes_of_new setup.nextRequestId (c := setup.client) rfl
  cases hparse : Wire.parseClientRequest setup.nextRequestId setup.client with
  | error err c =>
    rw [hparse] at hline
    exact inv_unread h hstage hline
  | ok request c =>
    rw [hparse] at hline
    obtain ⟨hsent, word, command, target, hin, hword, hasked⟩ := asked_of_parse hparse
    cases request with
    | udpAssociate hint =>
      obtain rfl := associate_of_requestOf hword hasked
      simp only [afterParse]
      split
      · rename_i relayAddr hbound
        have htold := h.told
        rw [hstage] at htold
        apply inv_move h c.sent s.broken (notPumping hstage Stage.noConfusion)
        exact ⟨htold.1, relayAddr, ⟨hbound, word, _, target, hin, hword⟩, congrArg (· ++ relayReply relayAddr) hsent⟩
      · exact inv_unread h hstage hline
    | connect intent =>
      obtain ⟨rfl, hintent⟩ := connect_of_requestOf hasked
      constructor
      · exact ⟨Option.some_ne_none intent, hsent⟩
      · intro hnone
        cases hnone
      · intro intent' hsome
        cases hsome
        exact ⟨⟨word, target, hin, hword, hintent⟩, talkInv_start _ _ _⟩
      · rfl
      · exact fun _ => ⟨rfl, rfl, rfl⟩
      · exact fun _ => rfl

theorem inv_parseTimesOut (h : Inv setup s) (pieces : ℕ) : Inv setup (step setup s (.parseTimesOut pieces)) := by
  simp only [step]
  split
  · rename_i err c hstage hparse
    have hline := parse_writes_of_new setup.nextRequestId (c := setup.cut pieces) rfl
    rw [hparse] at hline
    exact inv_unread h hstage hline
  · exact h

theorem inv_refuse (h : Inv setup s) (hnot : s.stage ≠ .pumping) (hintent : s.intent ≠ none)
    (hreplied : s.replied = selected) : Inv setup (refuse s) := by
  apply inv_move h s.replied s.broken hnot
  refine ⟨hintent, ?_, Or.inl rfl⟩
  rw [hreplied]

theorem abandon_keeps (s : Relay) : (abandon s).client = s.client ∧ (abandon s).target = s.target ∧
    (s.opening = .relaying → (abandon s).opening = .relaying) := by
  unfold abandon
  split
  · exact ⟨rfl, rfl, id⟩
  · rename_i hnot
    exact ⟨rfl, rfl, fun hopen => absurd (isOpen_iff.2 hopen) hnot⟩

/-- what was told does not look at the tunnel, but for whether it is open -/
theorem told_relay {relay : Relay} {stage : Stage} (hopen : s.relay.opening = .relaying → relay.opening = .relaying)
    (h : Told setup s stage) : Told setup { s with relay := relay } stage := by
  cases stage with
  | parsing | parsed | queued | resolving | associating => exact h
  | replying reply rest => exact ⟨h.1, h.2.1, h.2.2.imp_right fun hreply => ⟨hreply.1, hopen hreply.2⟩⟩
  | pumping => exact ⟨h.1, hopen h.2.1, h.2.2⟩
  | ended => exact h.imp_right fun h => h.imp_right fun h => h.imp_left fun h => ⟨h.1, hopen h.2.1, h.2.2⟩

theorem inv_abandon (h : Inv setup s) (hnot : s.stage ≠ .pumping) (hintent : s.intent ≠ none) :
    Inv setup { s with relay := abandon s.relay } ∧ Unpumped (abandon s.relay) := by
  obtain ⟨hclient, htarget, hopen⟩ := abandon_keeps s.relay
  have hunpumped := unpumped_abandon (h.unpumped hnot)
  refine ⟨⟨told_relay hopen h.told, fun hnone => absurd hnone hintent, ?_, ?_, fun _ => hunpumped,
    fun _ => hunpumped.unwritten⟩, hunpumped⟩
  · intro intent hsome
    obtain ⟨hrequest, htalk⟩ := h.asked intent hsome
    exact ⟨by rw [hclient]; exact hrequest, talkInv_abandon htalk⟩
  · rw [htarget]
    exact h.target

/-- a reply that is out is followed by the pump, or by nothing -/
theorem told_afterReply {reply : Socks5Reply} {replied : List UInt8} {broken : Bool} (hintent : s.intent ≠ none)
    (hreplied : replied <+: selected ++ reply.bytes) (hwhole : broken = false → replied = selected ++ reply.bytes)
    (hreply : reply = .generalFailure ∨ reply = .succeeded ∧ s.relay.opening = .relaying) :
    Told setup { s with stage := afterReply reply, replied := replied, broken := broken } (afterReply reply) := by
  rcases hreply with rfl | ⟨rfl, hopen⟩
  · exact Or.inr (Or.inl hreplied)
  · exact ⟨hintent, hopen, hreplied, hwhole⟩

theorem inv_write (h : Inv setup s) (n : ℕ) : Inv setup (step setup s (.write n)) := by
  simp only [step]
  split
  · rename_i reply rest hstage
    have htold := h.told
    rw [hstage] at htold
    obtain ⟨hintent, hbytes, hreply⟩ := htold
    have hnot := notPumping hstage Stage.noConfusion
    apply inv_move h (s.replied ++ rest.take n) s.broken hnot
    split
    · rename_i hlast
      have hall : rest.take n = rest := by simpa [hlast] using List.take_append_drop n rest
      rw [hall, hbytes]
      exact told_afterReply hintent (List.prefix_refl _) (fun _ => rfl) hreply
    · refine ⟨hintent, ?_, hreply⟩
      rw [List.append_assoc, List.take_append_drop, hbytes]
  · rename_i rest hstage
    have htold := h.told
    rw [hstage] at htold
    obtain ⟨hintent, relayAddr, hassociates, hbytes⟩ := htold
    apply inv_move h (s.replied ++ rest.take n) s.broken (notPumping hstage Stage.noConfusion)
    refine ⟨hintent, relayAddr, hassociates, ?_⟩
    rw [List.append_assoc, List.take_append_drop, hbytes]
  · exact h

/-- the client of a UDP ASSOCIATE was told as much of the relay's address as was written -/
theorem told_associating (h : Inv setup s) {rest : List UInt8} (hstage : s.stage = .associating rest) :
    s.replied <+: [0x05, 0xff] ∨ s.replied <+: selected ++ Socks5Reply.generalFailure.bytes ∨
      s.intent ≠ none ∧ s.relay.opening = .relaying ∧ s.replied <+: selected ++ Socks5Reply.succeeded.bytes ∨
      ToldRelay setup s := by
  have htold := h.told
  rw [hstage] at htold
  obtain ⟨hintent, relayAddr, hassociates, hbytes⟩ := htold
  exact Or.inr (Or.inr (Or.inr ⟨hintent, relayAddr, hassociates, rest, hbytes⟩))

theorem inv_writeFails (h : Inv setup s) : Inv setup (step setup s .writeFails) := by
  simp only [step]
  split
  · rename_i reply rest hstage
    have htold := h.told
    rw [hstage] at htold
    obtain ⟨hintent, hbytes, hreply⟩ := htold
    have hnot := notPumping hstage Stage.noConfusion
    apply inv_move h s.replied true hnot
    exact told_afterReply hintent ⟨rest, hbytes⟩ (fun hno => by cases hno) hreply
  · rename_i rest hstage
    have htold := told_associating h hstage
    exact inv_move h s.replied true (notPumping hstage Stage.noConfusion) htold
  · exact h

/-- what is dropped before it is pumped was told a part of its reply at most -/
theorem told_ended (hnot : s.stage ≠ .pumping) (hintent : s.intent ≠ none) (htold : Told setup s s.stage) :
    Told setup { s with stage := .ended } .ended := by
  have hselected : selected <+: selected ++ Socks5Reply.generalFailure.bytes := List.prefix_append _ _
  cases hstage : s.stage with
  | parsing =>
    rw [hstage] at htold
    exact absurd htold.1 hintent
  | pumping => exact absurd hstage hnot
  | associating rest =>
    rw [hstage] at htold
    exact absurd htold.1 hintent
  | ended =>
    rw [hstage] at htold
    exact htold
  | replying reply rest =>
    rw [hstage] at htold
    obtain ⟨-, hbytes, rfl | ⟨rfl, hopen⟩⟩ := htold
    · exact Or.inr (Or.inl ⟨rest, hbytes⟩)
    · exact Or.inr (Or.inr (Or.inl ⟨hintent, hopen, rest, hbytes⟩))
  | parsed | queued | resolving =>
    rw [hstage] at htold
    refine Or.inr (Or.inl ?_)
    simp only
    rw [htold.2]
    exact hselected

theorem inv_drop (h : Inv setup s) : Inv setup (step setup s .drop) := by
  have hdrop : s.stage ≠ .pumping → s.intent ≠ none → Inv setup { s with stage := .ended, relay := abandon s.relay } := by
    intro hnot hintent
    obtain ⟨habandoned, -⟩ := inv_abandon h hnot hintent
    exact inv_move habandoned s.replied s.broken hnot (told_ended hnot hintent habandoned.told)
  have htold := h.told
  simp only [step]
  cases hstage : s.stage with
  | parsing | parsed | pumping | ended => exact h
  | associating rest =>
    have htold := told_associating h hstage
    exact inv_move h s.replied s.broken (notPumping hstage Stage.noConfusion) htold
  | queued | resolving | replying =>
    rw [hstage] at htold
    exact hdrop (notPumping hstage Stage.noConfusion) htold.1

/-! ## Steps of the tunnel -/

theorem relayOp_pump {o o' : Gateway.Op} (ho : relayOp s o = some o') (hnot : s.stage ≠ .pumping) (p : PumpOp) :
    o' ≠ .pump p := by
  rintro rfl
  cases o with
  | opening | openingFails =>
    simp only [relayOp] at ho
    split_ifs at ho
    cases ho
  | pump p' =>
    rw [relayOp, if_neg hnot] at ho
    cases ho
  | _ => cases ho

/-- a pump that makes no write to the client writes nothing to it -/
theorem toClient_eq_nil {p : Pump} {o : PumpOp} (hnot : ∀ rest n, p = .toClient rest → o ≠ .write n)
    (cancelled upClosed downClosed : Bool) (client transport : Fifo UInt8) :
    (pumpTurn cancelled upClosed downClosed client transport p o).toClient = [] := by
  have hout := pumpTurn_outcome cancelled upClosed downClosed client transport p o
  cases p with
  | toClient rest =>
    cases o with
    | write n => exact absurd rfl (hnot rest n rfl)
    | _ => rfl
  | _ =>
    generalize pumpTurn _ _ _ _ _ _ _ = r at hout ⊢
    cases hout <;> rfl

/-- nothing is written into a socket that has failed -/
theorem clientOut_of_broken (tunnel : Tunnel) (hbroken : s.broken = true) (hout : s.relay.clientOut.log = [])
    {o o' : Gateway.Op} (ho : relayOp s o = some o') : (Gateway.step tunnel s.relay o').clientOut.log = [] := by
  have hnot : ∀ p, o' = .pump p → ∀ rest n, s.relay.pump = .toClient rest → pumpOpIn s.relay p ≠ .write n := by
    rintro p rfl rest n hpump
    cases o with
    | pump p' =>
      simp only [relayOp] at ho
      split_ifs at ho
      cases ho
      cases p' <;> simp [pumpOpIn, pumpOp, hpump, hbroken]
    | opening | openingFails =>
      simp only [relayOp] at ho
      split_ifs at ho
      cases ho
    | _ => cases ho
  have houtcome := Gateway.step_outcome tunnel s.relay o'
  generalize Gateway.step tunnel s.relay o' = s' at houtcome ⊢
  cases houtcome with
  | pump p hopen =>
    rw [stepPump, Fifo.log_put, hout, List.nil_append]
    exact toClient_eq_nil (hnot p rfl) _ _ _ _ _
  | _ => exact hout

theorem inv_relay (h : Inv setup s) (o : Gateway.Op) : Inv setup (step setup s (.relay o)) := by
  simp only [step]
  split
  · rename_i intent o' hintent ho
    obtain ⟨⟨word, target, hin, hword, hasked⟩, htalk⟩ := h.asked intent hintent
    obtain ⟨hclient, htarget⟩ := sources_step (setup.tunnel intent) s.relay o'
    constructor
    · exact told_relay (fun hopen => opening_stays hopen o') h.told
    · intro hnone
      rw [hnone] at hintent
      cases hintent
    · intro intent' hintent'
      obtain rfl : intent = intent' := Option.some.inj (hintent.symm.trans hintent')
      exact ⟨⟨word, target, by rw [hclient]; exact hin, hword, hasked⟩, talkInv_step o' htalk⟩
    · rw [htarget]
      exact h.target
    · intro hnot
      exact (h.unpumped hnot).step (relayOp_pump ho hnot)
    · intro hbroken
      exact clientOut_of_broken (s := s) _ hbroken (h.broken hbroken) ho
  · exact h

/-- **One step.** Whatever it is, what the client was told stays true. -/
theorem inv_step (o : Op) (h : Inv setup s) : Inv setup (step setup s o) := by
  have htold := h.told
  cases o with
  | parse =>
    cases hstage : s.stage with
    | parsing =>
      simp only [step, hstage]
      exact inv_parse h hstage
    | _ => simpa only [step, hstage] using h
  | parseTimesOut pieces => exact inv_parseTimesOut h pieces
  | trySend outcome =>
    cases hstage : s.stage with
    | parsed =>
      have hnot := notPumping hstage Stage.noConfusion
      rw [hstage] at htold
      simp only [step, hstage]
      cases outcome with
      | queued => exact inv_move h s.replied s.broken hnot htold
      | full | closed => exact inv_refuse h hnot htold.1 htold.2
    | _ => simpa only [step, hstage] using h
  | register accepted =>
    cases hstage : s.stage with
    | queued =>
      have hnot := notPumping hstage Stage.noConfusion
      rw [hstage] at htold
      simp only [step, hstage]
      cases accepted with
      | true => exact inv_move h s.replied s.broken hnot htold
      | false => exact inv_refuse h hnot htold.1 htold.2
    | _ => simpa only [step, hstage] using h
  | resolved =>
    cases hstage : s.stage with
    | resolving =>
      have hnot := notPumping hstage Stage.noConfusion
      rw [hstage] at htold
      simp only [step, hstage]
      split
      · rename_i hopen
        apply inv_move h s.replied s.broken hnot
        refine ⟨htold.1, ?_, Or.inr ⟨rfl, isOpen_iff.1 hopen⟩⟩
        rw [htold.2]
      · exact h
    | _ => simpa only [step, hstage] using h
  | unresolved =>
    cases hstage : s.stage with
    | resolving =>
      have hnot := notPumping hstage Stage.noConfusion
      rw [hstage] at htold
      simp only [step, hstage]
      exact inv_refuse (inv_abandon h hnot htold.1).1 hnot htold.1 htold.2
    | _ => simpa only [step, hstage] using h
  | write n => exact inv_write h n
  | writeFails => exact inv_writeFails h
  | drop => exact inv_drop h
  | relay o => exact inv_relay h o

/-! ## Main result -/

/-- the server has connected to the target of the request at the front of what the client sent, for a credential that it
allows, and what the target was written is the beginning of what follows the request -/
structure Served (setup : Setup) (s : State) (word rest : List UInt8) (target : TargetAddr) : Prop where
  sent : flatten setup.segments = word ++ rest
  request : Request word 0x01 target
  admitted : (setup.tunnel ⟨target, .socks5, setup.nextRequestId⟩).Admitted
  connected : s.relay.accepting = .relaying
  named : parseTargetRequest (.text (connectText (transportRequest setup.v6 ⟨target, .socks5, setup.nextRequestId⟩))) =
    .ok (targetHost setup.v6 target, targetPort target)
  passed : s.relay.targetOut.log <+: rest

theorem Inv.written_eq (h : Inv setup s) (hnot : s.stage ≠ .pumping) : s.written = s.replied := by
  rw [State.written, (h.unpumped hnot).unwritten, List.append_nil]

/-- where the client relays, its request is served -/
theorem Inv.served (h : Inv setup s) (hintent : s.intent ≠ none) (hopen : s.relay.opening = .relaying) :
    ∃ word rest target, Served setup s word rest target := by
  obtain ⟨intent, hsome⟩ := Option.ne_none_iff_exists'.1 hintent
  obtain ⟨⟨word, target, hin, hword, rfl⟩, htalk⟩ := h.asked intent hsome
  have hagreed := agreed_of_talkInv htalk
  have haccepted := hagreed.client hopen
  obtain ⟨hadmitted, hnamed⟩ := hagreed.server haccepted
  refine ⟨word, s.relay.client.log, target, hin, hword, hadmitted, haccepted, hnamed, ?_⟩
  exact htalk.chain.up.trans s.relay.client.past_isPrefix_log

/-- nothing reaches the target that was not read from the client -/
theorem Inv.unread (h : Inv setup s) (hread : s.relay.client.past = []) : s.relay.targetOut.log = [] := by
  cases hintent : s.intent with
  | none =>
    rw [h.untouched hintent]
    rfl
  | some intent =>
    have hup := (h.asked intent hintent).talk.chain.up
    rw [hread] at hup
    exact List.prefix_nil.1 hup

/-- a request in two pieces, with a byte behind it, and a target that sends one -/
def shortSetup : Setup :=
  ⟨noIpv6Text, [⟨[0x05, 0x01, 0x00], by decide⟩, ⟨[0x05, 0x01, 0x00, 0x01, 127, 0, 0, 1, 0, 80, 0x16], by decide⟩],
    "eof", none, 7, shortTunnel.authToken, shortTunnel.policy, "peer", 1, [0x17],
    ⟨.ok (.v4 ⟨127, 0, 0, 1⟩ 1080), fun _ => .ok (), .ok (.v4 ⟨127, 0, 0, 1⟩ 40000)⟩⟩

/-- the tunnel opens, the reply goes out in two writes, and both bytes are relayed -/
def shortRun : List Op :=
  [.parse, .trySend .queued, .register true] ++ handshake.map .relay ++ [.resolved, .write 4, .write 6] ++
    [.pump (.readClient 1), .pump (.write 1), .writeBridge (.read 1), .writeBridge .send, .websocketToTarget (.next none),
      .websocketToTarget (.write 1), .targetToWebsocket (.read 1), .targetToWebsocket .send, .readBridge (.next none),
      .readBridge (.write 1), .pump (.readTransport 1), .pump (.write 1)].map .relay

example : (run (step shortSetup) (start shortSetup) shortRun).written =
      selected ++ (Socks5Reply.succeeded.bytes ++ [0x17]) ∧
    (run (step shortSetup) (start shortSetup) shortRun).relay.targetOut.log = [0x16] := by decide +kernel

end N0wss.Gateway.Proxied
