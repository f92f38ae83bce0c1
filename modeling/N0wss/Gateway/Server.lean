/-
The server's accept loop (`run_server` in `wss_gateway/mod.rs`) with one handler for each connection. A handler is
`handle_accepted` one await at a time; `Handshake` has the same function at once.

What a call of a handler comes back with and what its client sends are operations, and so is what `accept` returns. The
loop does not look at its handlers again.

- `handlerInv_turn`: a handler is where `handle_accepted` leads on what it has received.
- `loopInv_turn`: the loop ends without an error only when it is told to, and with one only when `accept` fails.
- `only_admitted_served`: whatever all the clients do, in any order, a connection that is served was admitted by its own
  first message, and the loop it is served by is the one its own second message asks for.
-/
import N0wss.Core.Spawned
import N0wss.Gateway.Handshake

namespace N0wss.Gateway

open Machine

/-! ## Handlers -/

/-- where `handle_accepted` stands -/
inductive HandlerPc where
  /-- in the TLS handshake -/
  | securing
  | upgrading
  | authenticating
  /-- closing the websocket of a rejected client -/
  | rejecting (detail : String)
  | acknowledging
  | requesting
  | serving (loop : Accepted)
  | ended (result : Except WssError Unit)
deriving DecidableEq

structure Handler where
  peerLabel : String
  pc : HandlerPc
  /-- what the websocket has delivered before a loop was entered -/
  received : Frames
  /-- the loop that was entered -/
  served : Option Accepted
deriving DecidableEq

inductive HandlerOp where
  /-- what is waited for comes back, and it is no message -/
  | call (result : Except String Unit)
  /-- `websocket.next()` -/
  | next (frame : Option (Except String Message))
  /-- the loop that serves the connection returns -/
  | loopEnds (result : Except WssError Unit)
deriving DecidableEq

def Handler.start (peerLabel : String) : Handler := ⟨peerLabel, .securing, [], none⟩

def Handler.fail (h : Handler) (err : WssError) : Handler := { h with pc := .ended (.error err) }

def handlerCall (h : Handler) : Except String Unit → Handler
  | .ok () =>
    match h.pc with
    | .securing => { h with pc := .upgrading }
    | .upgrading => { h with pc := .authenticating }
    | .rejecting detail => h.fail (.authRejected detail)
    | .acknowledging => { h with pc := .requesting }
    | _ => h
  | .error err =>
    match h.pc with
    | .securing => h.fail (.handshakeFailed err)
    | .upgrading => h.fail (.upgradeFailed err)
    -- how closing the websocket ends is ignored
    | .rejecting detail => h.fail (.authRejected detail)
    | .acknowledging => h.fail (.handshakeFailed err)
    | _ => h

/-- the first message -/
def handlerAuthenticate (policy : AuthPolicy) (h : Handler) (message : Message) : Handler :=
  match message.credentials with
  | none => h.fail (.handshakeFailed "unsupported auth message type")
  | some credentials =>
    match policy.validateHandshake ⟨credentials, h.peerLabel⟩ with
    | .allow _ => { h with pc := .acknowledging }
    | .reject rejection => { h with pc := .rejecting rejection.redactedDetail }

def Handler.enter (h : Handler) (loop : Accepted) : Handler := { h with pc := .serving loop, served := some loop }

/-- the second message -/
def handlerRequest (h : Handler) (targetMessage : Message) : Handler :=
  match parseDatagramOpenRequest targetMessage with
  | some associationId => h.enter (.serverDatagramLoop associationId [])
  | none => h.enter (.serverProxyLoop targetMessage [])

/-- a message is there, or an error in its place -/
def Handler.receive (h : Handler) (frame : Except String Message) : Handler :=
  { h with received := h.received ++ [frame] }

def handlerNext (policy : AuthPolicy) (h : Handler) (frame : Option (Except String Message)) : Handler :=
  match h.pc, frame with
  | .authenticating, none => h.fail (.handshakeFailed "missing auth message")
  | .authenticating, some (.error err) => (h.receive (.error err)).fail (.handshakeFailed err)
  | .authenticating, some (.ok message) => handlerAuthenticate policy (h.receive (.ok message)) message
  | .requesting, none => h.fail (.invalidTargetRequest "missing target request")
  | .requesting, some (.error err) => (h.receive (.error err)).fail (.upgradeFailed err)
  | .requesting, some (.ok message) => handlerRequest (h.receive (.ok message)) message
  | _, _ => h

/-- the next turn of a handler -/
def handlerTurn (policy : AuthPolicy) (h : Handler) : HandlerOp → Handler
  | .call result => handlerCall h result
  | .next frame => handlerNext policy h frame
  | .loopEnds result =>
    match h.pc with
    | .serving _ => { h with pc := .ended result }
    | _ => h

/-! ## The accept loop -/

structure AcceptLoop where
  /-- `accept_token` is cancelled -/
  cancelled : Bool
  ended : Option (Except WssError Unit)
deriving DecidableEq

inductive AcceptOp where
  /-- `accept` returns a peer's address, or an error -/
  | accept (outcome : Except String String)
  /-- the `cancelled` branch -/
  | seeToken
  | stopAccept
deriving DecidableEq

def AcceptLoop.start : AcceptLoop := ⟨false, none⟩

/-- one turn of the loop, with the handler it spawns -/
def acceptTurn (s : AcceptLoop) : AcceptOp → AcceptLoop × Option Handler
  | .accept outcome =>
    match s.ended, outcome with
    | none, .ok peerAddr => (s, some (Handler.start peerAddr))
    | none, .error err => ({ s with ended := some (.error (.tcpConnectFailed err)) }, none)
    | some _, _ => (s, none)
  | .seeToken =>
    if s.ended = none ∧ s.cancelled = true then ({ s with ended := some (.ok ()) }, none) else (s, none)
  | .stopAccept => ({ s with cancelled := true }, none)

/-- the loop with its handlers -/
abbrev Server := Spawned.System AcceptLoop Handler

abbrev ServerOp := Spawned.Op AcceptOp HandlerOp

def Server.start : Server := ⟨.start, []⟩

def serverStep (policy : AuthPolicy) : Server → ServerOp → Server := Spawned.step acceptTurn (handlerTurn policy)

/-! ## Handlers and `handle_accepted` -/

/-- every call of the handler has come back without an error -/
def Acceptance.fine : Acceptance := ⟨.ok (), .ok (), .ok ()⟩

/-- the first message was allowed, and nothing was received since -/
def Handler.Allowed (policy : AuthPolicy) (h : Handler) : Prop :=
  ∃ message credentials, h.received = [.ok message] ∧ message.credentials = some credentials ∧
    (policy.validateHandshake ⟨credentials, h.peerLabel⟩).isAllow = true

/-- what `handle_accepted` says about a handler, by where it stands -/
def HandlerPc.Accords (policy : AuthPolicy) (h : Handler) : HandlerPc → Prop
  | .securing | .upgrading | .authenticating => h.received = [] ∧ h.served = none
  | .rejecting detail => h.served = none ∧ ∀ env, env.tls = .ok () → env.upgrade = .ok () →
    handleAccepted env policy h.peerLabel h.received = .failed (.authRejected detail)
  | .acknowledging | .requesting => h.served = none ∧ h.Allowed policy
  | .serving loop => h.served = some loop
  | .ended result => h.served = none → ∃ env err, result = .error err ∧
    handleAccepted env policy h.peerLabel h.received = .failed err

structure HandlerInv (policy : AuthPolicy) (h : Handler) : Prop where
  accords : h.pc.Accords policy h
  serves : ∀ loop, h.served = some loop →
    handleAccepted .fine policy h.peerLabel h.received = loop ∧ loop.isLoop = true

theorem handlerInv_start (policy : AuthPolicy) (peerLabel : String) : HandlerInv policy (.start peerLabel) where
  accords := ⟨rfl, rfl⟩
  serves := by rintro loop ⟨⟩

variable {policy : AuthPolicy} {h : Handler}

/-- behind an allowed first message the second one decides -/
theorem handleAccepted_of_allowed {peerLabel : String} {message : Message} {credentials : List UInt8}
    (hcredentials : message.credentials = some credentials)
    (hallow : (policy.validateHandshake ⟨credentials, peerLabel⟩).isAllow = true) (later : Frames) :
    handleAccepted .fine policy peerLabel (.ok message :: later) = selectLoop later := by
  cases hdecision : policy.validateHandshake ⟨credentials, peerLabel⟩ with
  | reject rejection =>
    rw [hdecision] at hallow
    cases hallow
  | allow identity => simp only [handleAccepted, Acceptance.fine, acceptCredential, hcredentials, hdecision]

/-- unless the acknowledgement is not sent -/
theorem handleAccepted_of_unsent {peerLabel : String} {message : Message} {credentials : List UInt8}
    (hcredentials : message.credentials = some credentials)
    (hallow : (policy.validateHandshake ⟨credentials, peerLabel⟩).isAllow = true) (err : String) (later : Frames) :
    handleAccepted ⟨.ok (), .ok (), .error err⟩ policy peerLabel (.ok message :: later) = .failed (.handshakeFailed err) := by
  cases hdecision : policy.validateHandshake ⟨credentials, peerLabel⟩ with
  | reject rejection =>
    rw [hdecision] at hallow
    cases hallow
  | allow identity => simp only [handleAccepted, acceptCredential, hcredentials, hdecision]

/-- a handler that ends before it serves -/
theorem HandlerInv.fail (hserved : h.served = none) (env : Acceptance) {err : WssError}
    (haccepted : handleAccepted env policy h.peerLabel h.received = .failed err) : HandlerInv policy (h.fail err) where
  accords := fun _ => ⟨env, err, rfl, haccepted⟩
  serves := by
    intro loop hloop
    rw [show (h.fail err).served = none from hserved] at hloop
    cases hloop

/-- a handler that has not entered a loop -/
theorem HandlerInv.unserved {pc : HandlerPc} (hserved : h.served = none) (haccords : pc.Accords policy { h with pc := pc }) :
    HandlerInv policy { h with pc := pc } where
  accords := haccords
  serves := by
    intro loop hloop
    rw [show ({ h with pc := pc } : Handler).served = none from hserved] at hloop
    cases hloop

theorem handlerInv_call (hinv : HandlerInv policy h) (result : Except String Unit) :
    HandlerInv policy (handlerCall h result) := by
  have haccords := hinv.accords
  cases result with
  | ok =>
    unfold handlerCall
    cases hpc : h.pc with
    | securing | upgrading =>
      rw [hpc] at haccords
      exact .unserved haccords.2 haccords
    | rejecting detail =>
      rw [hpc] at haccords
      exact .fail haccords.1 .fine (haccords.2 .fine rfl rfl)
    | acknowledging =>
      rw [hpc] at haccords
      exact .unserved haccords.1 haccords
    | _ => exact hinv
  | error err =>
    unfold handlerCall
    cases hpc : h.pc with
    | securing =>
      rw [hpc] at haccords
      exact .fail haccords.2 ⟨.error err, .ok (), .ok ()⟩ (by rw [haccords.1]; rfl)
    | upgrading =>
      rw [hpc] at haccords
      exact .fail haccords.2 ⟨.ok (), .error err, .ok ()⟩ (by rw [haccords.1]; rfl)
    | rejecting detail =>
      rw [hpc] at haccords
      exact .fail haccords.1 .fine (haccords.2 .fine rfl rfl)
    | acknowledging =>
      rw [hpc] at haccords
      obtain ⟨hserved, message, credentials, hreceived, hcredentials, hallow⟩ := haccords
      refine .fail hserved ⟨.ok (), .ok (), .error err⟩ ?_
      rw [hreceived]
      exact handleAccepted_of_unsent hcredentials hallow err []
    | _ => exact hinv

theorem handlerInv_authenticate (hserved : h.served = none) (hreceived : h.received = []) (message : Message) :
    HandlerInv policy (handlerAuthenticate policy (h.receive (.ok message)) message) := by
  have hone : (h.receive (.ok message)).received = [.ok message] := by simp [Handler.receive, hreceived]
  have hnone : (h.receive (.ok message)).served = none := hserved
  generalize h.receive (.ok message) = h' at hone hnone ⊢
  unfold handlerAuthenticate
  cases hcredentials : message.credentials with
  | none =>
    refine .fail hnone .fine ?_
    rw [hone]
    simp only [handleAccepted, Acceptance.fine, acceptCredential, hcredentials]
  | some credentials =>
    simp only
    cases hdecision : policy.validateHandshake ⟨credentials, h'.peerLabel⟩ with
    | allow identity =>
      have hallow : (policy.validateHandshake ⟨credentials, h'.peerLabel⟩).isAllow = true := by rw [hdecision]; rfl
      exact .unserved hnone ⟨hnone, message, credentials, hone, hcredentials, hallow⟩
    | reject rejection =>
      refine .unserved hnone ⟨hnone, ?_⟩
      intro env htls hupgrade
      show handleAccepted env policy h'.peerLabel h'.received = _
      rw [hone]
      simp only [handleAccepted, htls, hupgrade, acceptCredential, hcredentials, hdecision]

/-- a loop that `handle_accepted` enters is entered -/
theorem HandlerInv.enter {loop : Accepted} (haccepted : handleAccepted .fine policy h.peerLabel h.received = loop)
    (hloop : loop.isLoop = true) : HandlerInv policy (h.enter loop) where
  accords := rfl
  serves := by
    intro loop' hserved
    obtain rfl : loop = loop' := Option.some.inj hserved
    exact ⟨haccepted, hloop⟩

theorem handlerInv_request (hallowed : h.Allowed policy) (targetMessage : Message) :
    HandlerInv policy (handlerRequest (h.receive (.ok targetMessage)) targetMessage) := by
  obtain ⟨message, credentials, hreceived, hcredentials, hallow⟩ := hallowed
  have haccepted : handleAccepted .fine policy h.peerLabel (h.receive (.ok targetMessage)).received =
      selectLoop [.ok targetMessage] := by
    rw [Handler.receive, hreceived]
    exact handleAccepted_of_allowed hcredentials hallow _
  unfold handlerRequest
  cases hopen : parseDatagramOpenRequest targetMessage with
  | none => exact .enter (haccepted.trans (by simp only [selectLoop, hopen])) rfl
  | some associationId => exact .enter (haccepted.trans (by simp only [selectLoop, hopen])) rfl

theorem handlerInv_next (hinv : HandlerInv policy h) (frame : Option (Except String Message)) :
    HandlerInv policy (handlerNext policy h frame) := by
  have haccords := hinv.accords
  unfold handlerNext
  cases hpc : h.pc with
  | authenticating =>
    rw [hpc] at haccords
    obtain ⟨hreceived, hserved⟩ := haccords
    rcases frame with _ | err | message
    · exact .fail hserved .fine (by rw [hreceived]; rfl)
    · have hone : (h.receive (.error err)).received = [.error err] := by simp [Handler.receive, hreceived]
      exact .fail (h := h.receive (.error err)) hserved .fine (by rw [hone]; rfl)
    · exact handlerInv_authenticate hserved hreceived message
  | requesting =>
    rw [hpc] at haccords
    obtain ⟨hserved, hallowed⟩ := haccords
    obtain ⟨message, credentials, hreceived, hcredentials, hallow⟩ := hallowed
    rcases frame with _ | err | targetMessage
    · refine .fail hserved .fine ?_
      rw [hreceived]
      exact handleAccepted_of_allowed hcredentials hallow []
    · refine .fail (h := h.receive (.error err)) hserved .fine ?_
      rw [Handler.receive, hreceived]
      exact handleAccepted_of_allowed hcredentials hallow [.error err]
    · exact handlerInv_request ⟨message, credentials, hreceived, hcredentials, hallow⟩ targetMessage
  | _ => exact hinv

/-- **One turn of a handler** leads where `handle_accepted` leads on what it has received. -/
theorem handlerInv_turn (hinv : HandlerInv policy h) (o : HandlerOp) : HandlerInv policy (handlerTurn policy h o) := by
  cases o with
  | call result => exact handlerInv_call hinv result
  | next frame => exact handlerInv_next hinv frame
  | loopEnds result =>
    unfold handlerTurn
    cases hpc : h.pc with
    | serving loop =>
      have haccords := hinv.accords
      rw [hpc] at haccords
      have hserved : h.served = some loop := haccords
      refine ⟨?_, hinv.serves⟩
      intro hnone
      rw [show h.served = none from hnone] at hserved
      cases hserved
    | _ => exact hinv

/-- a connection that is served was admitted -/
theorem HandlerInv.admitted (hinv : HandlerInv policy h) {loop : Accepted} (hserved : h.served = some loop) :
    Admitted policy h.peerLabel h.received.head? := by
  by_contra hno
  obtain ⟨haccepted, hloop⟩ := hinv.serves loop hserved
  have hclosed := (handleAccepted_of_rejected .fine hno).2
  rw [haccepted, hloop] at hclosed
  cases hclosed

/-! ## The accept loop and its end -/

/-- the loop ended because it was told to, or because `accept` failed -/
structure LoopInv (s : AcceptLoop) : Prop where
  stopped : s.ended = some (.ok ()) → s.cancelled = true
  failed : ∀ err, s.ended = some (.error err) → ∃ detail, err = .tcpConnectFailed detail

theorem loopInv_start : LoopInv .start where
  stopped := by rintro ⟨⟩
  failed := by rintro err ⟨⟩

theorem loopInv_turn {s : AcceptLoop} (hinv : LoopInv s) (o : AcceptOp) : LoopInv (acceptTurn s o).1 := by
  cases o with
  | accept outcome =>
    unfold acceptTurn
    cases hended : s.ended with
    | some result => exact hinv
    | none =>
      cases outcome with
      | ok peerAddr => exact hinv
      | error err =>
        refine ⟨by rintro ⟨⟩, ?_⟩
        intro err' herr
        exact ⟨err, (Except.error.inj (Option.some.inj herr)).symm⟩
  | seeToken =>
    simp only [acceptTurn]
    split
    · rename_i h
      refine ⟨fun _ => h.2, ?_⟩
      rintro err ⟨⟩
    · exact hinv
  | stopAccept => exact ⟨fun _ => rfl, hinv.failed⟩

/-- only `accept` spawns a handler, and the handler is a new one -/
theorem handlerInv_of_spawned {s : AcceptLoop} {o : AcceptOp} (hspawn : (acceptTurn s o).2 = some h) :
    HandlerInv policy h := by
  cases o with
  | accept outcome =>
    unfold acceptTurn at hspawn
    cases hended : s.ended with
    | some result =>
      rw [hended] at hspawn
      cases hspawn
    | none =>
      rw [hended] at hspawn
      cases outcome with
      | ok peerAddr =>
        obtain rfl : Handler.start peerAddr = h := Option.some.inj hspawn
        exact handlerInv_start policy peerAddr
      | error err => cases hspawn
  | seeToken =>
    simp only [acceptTurn] at hspawn
    split at hspawn <;> cases hspawn
  | stopAccept => cases hspawn

/-! ## Main result -/

/-- what a server keeps -/
structure Serves (policy : AuthPolicy) (s : Server) : Prop where
  /-- a connection that is served was admitted by its first message, and its messages ask for the loop -/
  served : ∀ h ∈ s.children, ∀ loop, h.served = some loop → Admitted policy h.peerLabel h.received.head? ∧
    loop.isLoop = true ∧ handleAccepted .fine policy h.peerLabel h.received = loop
  /-- one that ended before it was served ended with an error of `handle_accepted` -/
  refused : ∀ h ∈ s.children, ∀ result, h.served = none → h.pc = .ended result →
    ∃ env err, result = .error err ∧ handleAccepted env policy h.peerLabel h.received = .failed err
  stopped : s.parent.ended = some (.ok ()) → s.parent.cancelled = true
  failed : ∀ err, s.parent.ended = some (.error err) → ∃ detail, err = .tcpConnectFailed detail

/-- **Only admitted connections are served.** For every run of the accept loop and of any number of handlers, whatever the
clients send and whatever comes back with an error, in any order: a handler is where `handle_accepted` leads on what its
own client sent; it serves a loop only behind a first message that is allowed, and then the loop that the second message
asks for; and the accept loop ends only when it is told to, or with the error of an `accept` that failed. No handler ends
it. -/
theorem only_admitted_served (policy : AuthPolicy) (ops : List ServerOp) :
    AllStates (serverStep policy) (Serves policy) Server.start ops := by
  refine allStates_iff.2 fun pre _ => ?_
  have hhandlers : ∀ h ∈ (run (serverStep policy) Server.start pre).children, HandlerInv policy h :=
    Spawned.forall_children_run (fun _ _ _ hspawn => handlerInv_of_spawned hspawn) (fun _ o h => handlerInv_turn h o)
      Server.start pre (by intro h hmem; cases hmem)
  have hturn : ∀ (s : AcceptLoop) (o : AcceptOp), LoopInv s → LoopInv (acceptTurn s o).1 := fun _ o h => loopInv_turn h o
  have hloop : LoopInv (run (serverStep policy) Server.start pre).parent := by
    rw [show serverStep policy = Spawned.step acceptTurn (handlerTurn policy) from rfl, Spawned.parent_run]
    exact run_inv hturn _ loopInv_start
  refine ⟨?_, ?_, hloop.stopped, hloop.failed⟩
  · intro h hmem loop hserved
    have hinv := hhandlers h hmem
    obtain ⟨haccepted, hisLoop⟩ := hinv.serves loop hserved
    exact ⟨hinv.admitted hserved, hisLoop, haccepted⟩
  · intro h hmem result hserved hpc
    have haccords := (hhandlers h hmem).accords
    rw [hpc] at haccords
    exact haccords hserved

end N0wss.Gateway
