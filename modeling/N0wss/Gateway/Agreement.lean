/-
The handshake from both ends (`open_stream` with `authenticate_websocket`, and `handle_accepted` with the opening of
`server_proxy_loop`, in `wss_gateway/mod.rs`): what an end that relays may rely on, and that neither end waits for the
other for ever. The machine is that of `Relay`, with every step of every task.

- `talkInv_step`: each end has only said its own lines, and each line only in answer to the one before it.
- `relays_only_agreed`: whatever fails, an end that relays relays what both ends agreed on.
- `deadlock_free`: as long as the handshake is not over, one of the ends has a step to make.
- `handshake_completes_iff`: where nothing breaks the connection, both ends relay in the end if and only if the credential
  is allowed, the request names a target and the target is there.
-/
import N0wss.Core.Fair
import N0wss.Gateway.RelayEnd

namespace N0wss.Gateway

open Bridge Machine Session

variable {tunnel : Tunnel} {s : Relay}

/-! ## What is said -/

/-- what the client says before it relays -/
def clientLines (tunnel : Tunnel) : List Message := [.binary tunnel.authToken, .text (connectText tunnel.request)]

def serverLines : List Message := [.text "ok", .text "connected"]

/-- the client's credential is allowed -/
def Tunnel.Admitted (tunnel : Tunnel) : Prop := tunnel.admits (.binary tunnel.authToken) = true

/-- the client's request opens a proxied stream -/
def Tunnel.Requests (tunnel : Tunnel) : Prop := (Message.text (connectText tunnel.request)).requestsTarget = true

instance (tunnel : Tunnel) : Decidable tunnel.Admitted := inferInstanceAs (Decidable (_ = true))

instance (tunnel : Tunnel) : Decidable tunnel.Requests := inferInstanceAs (Decidable (_ = true))

/-- each end has only said its own lines, and each line only where it was its turn -/
structure TalkInv (tunnel : Tunnel) (s : Relay) : Prop where
  chain : ChainInv tunnel s
  said : s.upWire.log.take 2 <+: clientLines tunnel
  answered : s.downWire.log.take 2 <+: serverLines
  admitted : s.accepting = .allowed ∨ s.downWire.log ≠ [] → tunnel.Admitted
  requested : s.accepting = .connecting ∨ 2 ≤ s.downWire.log.length → tunnel.Requests
  relaying : 2 ≤ s.downWire.log.length → s.accepting = .relaying
  clientUnread : s.opening ≠ .relaying → s.client.past = []
  targetUnread : s.accepting ≠ .relaying → s.target.past = []

theorem talkInv_start (tunnel : Tunnel) (fromClient fromTarget : List UInt8) :
    TalkInv tunnel (start fromClient fromTarget) where
  chain := chainInv_start tunnel fromClient fromTarget
  said := List.nil_prefix
  answered := List.nil_prefix
  admitted := by
    intro h
    rcases h with h | h
    · cases h
    · exact absurd rfl h
  requested := by
    intro h
    rcases h with h | h
    · cases h
    · exact absurd h (Nat.not_succ_le_zero 1)
  relaying := fun h => absurd h (Nat.not_succ_le_zero 1)
  clientUnread := fun _ => rfl
  targetUnread := fun _ => rfl

/-! ## Lines on a wire -/

section Lines

variable {wire : Fifo Message} {log lines : List Message} {m : Message}

/-- the next message of the script, put where it belongs -/
theorem lines_put (h : log.take 2 <+: lines) (hlength : log.length < 2) (hm : lines[log.length]? = some m) :
    (log ++ [m]).take 2 <+: lines := by
  have hlog : log.take 2 = log := List.take_of_length_le (by omega)
  have hput : (log ++ [m]).take 2 = log ++ [m] := by
    apply List.take_of_length_le
    rw [List.length_append, List.length_singleton]
    omega
  rw [hlog] at h
  rw [hput]
  rcases h with ⟨rest, rfl⟩
  rw [List.getElem?_append_right le_rfl, Nat.sub_self] at hm
  cases rest with
  | nil => cases hm
  | cons m' rest =>
    cases hm
    exact ⟨rest, by simp⟩

/-- the next message to be taken is the next one of the script -/
theorem head_of_lines (h : wire.log.take 2 <+: lines) {later : List Message} (hq : wire.queued = m :: later)
    (hpast : wire.past.length < 2) : lines[wire.past.length]? = some m := by
  have hlog : wire.log[wire.past.length]? = some m := by
    rw [Fifo.log, hq, List.getElem?_append_right le_rfl, Nat.sub_self, List.getElem?_cons_zero]
  have htake : (wire.log.take 2)[wire.past.length]? = some m := by
    rw [List.getElem?_take_of_lt hpast, hlog]
  rcases h with ⟨rest, rfl⟩
  obtain ⟨hlt, _⟩ := List.getElem?_eq_some_iff.1 htake
  rw [List.getElem?_append_left hlt, htake]

end Lines

/-! ## Steps -/

/-- what moves no end, and adds to a wire only what comes after the script -/
theorem talkInv_frame {s' : Relay} (h : TalkInv tunnel s) (hchain : ChainInv tunnel s')
    (hopening : s'.opening = s.opening) (haccepting : s'.accepting = s.accepting)
    (hup : s'.upWire.log = s.upWire.log ∨ s.opening = .relaying ∧ s.upWire.log <+: s'.upWire.log)
    (hdown : s'.downWire.log = s.downWire.log ∨ s.accepting = .relaying ∧ s.downWire.log <+: s'.downWire.log)
    (hclient : s'.client = s.client ∨ s.opening = .relaying) (htarget : s'.target = s.target ∨ s.accepting = .relaying) :
    TalkInv tunnel s' := by
  have hsent : s.accepting = .relaying → 2 ≤ s.downWire.log.length := by
    intro ho
    have hok := h.chain.accepting
    rw [ho] at hok
    exact hok.2
  have hanswer : s'.downWire.log.take 2 = s.downWire.log.take 2 ∧
      (2 ≤ s'.downWire.log.length → 2 ≤ s.downWire.log.length) ∧ (s'.downWire.log ≠ [] → s.downWire.log ≠ []) := by
    rcases hdown with hsame | ⟨ho, more, hmore⟩
    · rw [hsame]
      exact ⟨rfl, id, id⟩
    · rw [← hmore, List.take_append_of_le_length (hsent ho)]
      refine ⟨rfl, fun _ => hsent ho, fun _ hnil => ?_⟩
      have hlength := hsent ho
      rw [hnil] at hlength
      cases hlength
  have hsay : s'.upWire.log.take 2 = s.upWire.log.take 2 := by
    rcases hup with hsame | ⟨ho, more, hmore⟩
    · rw [hsame]
    · have hok := h.chain.opening
      rw [ho] at hok
      rw [← hmore, List.take_append_of_le_length hok.1]
  obtain ⟨htake, hlength, hne⟩ := hanswer
  constructor
  · exact hchain
  · rw [hsay]
    exact h.said
  · rw [htake]
    exact h.answered
  · rw [haccepting]
    exact fun hor => h.admitted (hor.imp_right hne)
  · rw [haccepting]
    exact fun hor => h.requested (hor.imp_right hlength)
  · rw [haccepting]
    exact fun hlong => h.relaying (hlength hlong)
  · rw [hopening]
    intro ho
    rw [hclient.resolve_right ho]
    exact h.clientUnread ho
  · rw [haccepting]
    intro ho
    rw [htarget.resolve_right ho]
    exact h.targetUnread ho

theorem talkInv_stepOpening (h : TalkInv tunnel s) : TalkInv tunnel (stepOpening tunnel s) := by
  have hchain := chainInv_stepOpening h.chain
  have hok := h.chain.opening
  by_cases hrelaying : s.opening = .relaying
  · rwa [stepOpening_of_relaying hrelaying]
  -- the client has read nothing yet, whatever this step is
  have hunread := h.clientUnread hrelaying
  have hsaid : (stepOpening tunnel s).upWire.log.take 2 <+: clientLines tunnel := by
    simp only [stepOpening, Fifo.log_put]
    cases ho : s.opening with
    | connecting | acked =>
      simp only [ho, OpeningOk] at hok
      exact lines_put h.said (by omega) (by rw [hok.1]; rfl)
    | authSent | connectSent =>
      simp only [openingTurn]
      split <;> simpa using h.said
    | relaying => exact absurd ho hrelaying
    | failed => simpa [openingTurn] using h.said
  exact { h with
    chain := hchain
    said := hsaid
    answered := by rw [stepOpening, Fifo.log_take]; exact h.answered
    admitted := by rw [stepOpening, Fifo.log_take]; exact h.admitted
    requested := by rw [stepOpening, Fifo.log_take]; exact h.requested
    relaying := by rw [stepOpening, Fifo.log_take]; exact h.relaying
    clientUnread := fun _ => hunread }

section Accepting

variable {connected : Bool} {a : Accepting} {n : ℕ} {m : Message}

/-- the server says nothing -/
theorem talkInv_quiet (h : TalkInv tunnel s) (hnot : s.accepting ≠ .relaying)
    (hturn : acceptingTurn tunnel connected s.upWire s.accepting = (a, n, []))
    (hadmitted : a = .allowed → tunnel.Admitted) (hrequested : a = .connecting → tunnel.Requests) :
    TalkInv tunnel (stepAccepting tunnel connected s) := by
  have hchain := chainInv_stepAccepting h.chain connected
  have hunread := h.targetUnread hnot
  have hshort : ¬2 ≤ s.downWire.log.length := fun hlong => hnot (h.relaying hlong)
  rw [stepAccepting, hturn] at hchain ⊢
  rw [Fifo.put_nil] at hchain ⊢
  exact { h with
    chain := hchain
    said := by rw [Fifo.log_take]; exact h.said
    admitted := fun hor => hor.elim hadmitted fun hne => h.admitted (Or.inr hne)
    requested := fun hor => hor.elim hrequested fun hlong => absurd hlong hshort
    relaying := fun hlong => absurd hlong hshort
    targetUnread := fun _ => hunread }

/-- the server says its next line -/
theorem talkInv_line (h : TalkInv tunnel s) (hnot : s.accepting ≠ .relaying)
    (hturn : acceptingTurn tunnel connected s.upWire s.accepting = (a, n, [m]))
    (hm : serverLines[s.downWire.log.length]? = some m) (hadmitted : tunnel.Admitted) (ha : a ≠ .connecting)
    (hsecond : s.downWire.log.length = 1 → tunnel.Requests ∧ a = .relaying) :
    TalkInv tunnel (stepAccepting tunnel connected s) := by
  have hchain := chainInv_stepAccepting h.chain connected
  have hunread := h.targetUnread hnot
  have hshort : ¬2 ≤ s.downWire.log.length := fun hlong => hnot (h.relaying hlong)
  have hlength : 2 ≤ (s.downWire.log ++ [m]).length → s.downWire.log.length = 1 := by
    rw [List.length_append, List.length_singleton]
    omega
  rw [stepAccepting, hturn] at hchain ⊢
  exact { h with
    chain := hchain
    said := by rw [Fifo.log_take]; exact h.said
    answered := by rw [Fifo.log_put]; exact lines_put h.answered (by omega) hm
    admitted := fun _ => hadmitted
    requested := by
      rw [Fifo.log_put]
      exact fun hor => (hsecond (hlength (hor.resolve_left ha))).1
    relaying := by
      rw [Fifo.log_put]
      exact fun hlong => (hsecond (hlength hlong)).2
    targetUnread := fun _ => hunread }

theorem talkInv_stepAccepting (h : TalkInv tunnel s) (connected : Bool) :
    TalkInv tunnel (stepAccepting tunnel connected s) := by
  have hok := h.chain.accepting
  by_cases hrelaying : s.accepting = .relaying
  · rwa [stepAccepting_of_relaying hrelaying]
  cases ho : s.accepting with
  | authenticating =>
    simp only [ho, AcceptingOk] at hok
    cases hq : s.upWire.queued with
    | nil =>
      have hturn : acceptingTurn tunnel connected s.upWire s.accepting = (.authenticating, 0, []) := by
        simp only [ho, acceptingTurn, hq]
      exact talkInv_quiet h hrelaying hturn (fun h => by cases h) (fun h => by cases h)
    | cons m later =>
      have hm := head_of_lines h.said hq (by omega)
      rw [hok.1] at hm
      cases hm
      have hturn : acceptingTurn tunnel connected s.upWire s.accepting =
          (if tunnel.admits (.binary tunnel.authToken) then .allowed else .failed, 1, []) := by
        simp only [ho, acceptingTurn, hq]
      apply talkInv_quiet h hrelaying hturn
      · intro hallowed
        split at hallowed
        · assumption
        · cases hallowed
      · intro hconnecting
        split at hconnecting <;> cases hconnecting
  | allowed =>
    simp only [ho, AcceptingOk] at hok
    have hturn : acceptingTurn tunnel connected s.upWire s.accepting = (.requesting, 0, [.text "ok"]) := by
      simp only [ho, acceptingTurn]
    have hfirst : serverLines[s.downWire.log.length]? = some (.text "ok") := by
      rw [hok.2]
      rfl
    exact talkInv_line h hrelaying hturn hfirst (h.admitted (Or.inl ho)) (fun h => by cases h)
      (fun hone => absurd hone (by omega))
  | requesting =>
    simp only [ho, AcceptingOk] at hok
    cases hq : s.upWire.queued with
    | nil =>
      have hturn : acceptingTurn tunnel connected s.upWire s.accepting = (.requesting, 0, []) := by
        simp only [ho, acceptingTurn, hq]
      exact talkInv_quiet h hrelaying hturn (fun h => by cases h) (fun h => by cases h)
    | cons m later =>
      have hm := head_of_lines h.said hq (by omega)
      rw [hok.1] at hm
      cases hm
      have hturn : acceptingTurn tunnel connected s.upWire s.accepting =
          (if (Message.text (connectText tunnel.request)).requestsTarget then .connecting else .failed, 1, []) := by
        simp only [ho, acceptingTurn, hq]
      apply talkInv_quiet h hrelaying hturn
      · intro hallowed
        split at hallowed <;> cases hallowed
      · intro hconnecting
        split at hconnecting
        · assumption
        · cases hconnecting
  | connecting =>
    simp only [ho, AcceptingOk] at hok
    cases connected with
    | true =>
      have hturn : acceptingTurn tunnel true s.upWire s.accepting = (.relaying, 0, [.text "connected"]) := by
        simp only [ho, acceptingTurn, ite_true]
      have hsecond : serverLines[s.downWire.log.length]? = some (.text "connected") := by
        rw [hok.2]
        rfl
      have hadmitted : tunnel.Admitted := by
        apply h.admitted
        right
        intro hnil
        rw [hnil] at hok
        cases hok.2
      exact talkInv_line h hrelaying hturn hsecond hadmitted (fun h => by cases h)
        (fun _ => ⟨h.requested (Or.inl ho), rfl⟩)
    | false =>
      have hturn : acceptingTurn tunnel false s.upWire s.accepting = (.failed, 0, []) := by
        simp only [ho, acceptingTurn, Bool.false_eq_true, ite_false]
      exact talkInv_quiet h hrelaying hturn (fun h => by cases h) (fun h => by cases h)
  | relaying => exact absurd ho hrelaying
  | failed =>
    have hturn : acceptingTurn tunnel connected s.upWire s.accepting = (.failed, 0, []) := by
      simp only [ho, acceptingTurn]
    exact talkInv_quiet h hrelaying hturn (fun h => by cases h) (fun h => by cases h)

end Accepting

/-- **One step.** No step of any task says a line that is not its turn. -/
theorem talkInv_step (o : Op) (h : TalkInv tunnel s) : TalkInv tunnel (step tunnel s o) := by
  have hchain := chainInv_step o h.chain
  have hout := step_outcome tunnel s o
  generalize step tunnel s o = s' at hchain hout ⊢
  cases hout with
  | idle => exact h
  | opening => exact talkInv_stepOpening h
  | openingFails hnot => exact { h with chain := hchain, clientUnread := fun _ => h.clientUnread hnot }
  | accepting connected => exact talkInv_stepAccepting h connected
  | acceptingFails hnot =>
    have hshort : ¬2 ≤ s.downWire.log.length := fun hlong => hnot (h.relaying hlong)
    exact { h with
      chain := hchain
      admitted := fun hor => h.admitted (Or.inr (hor.resolve_left (fun h => by cases h)))
      requested := fun hor => h.requested (Or.inr (hor.resolve_left (fun h => by cases h)))
      relaying := fun hlong => absurd hlong hshort
      targetUnread := fun _ => h.targetUnread hnot }
  | pump o hopen => exact talkInv_frame h hchain rfl rfl (Or.inl rfl) (Or.inl rfl) (Or.inr hopen) (Or.inl rfl)
  | writeBridge o hopen =>
    have hup := Fifo.log_put s.upWire (sendTurn s.upClosed (!s.readBridge.sawClose) s.upPipe s.writeBridge o).messages
    exact talkInv_frame h hchain rfl rfl (Or.inr ⟨hopen, _, hup.symm⟩) (Or.inl rfl) (Or.inl rfl) (Or.inl rfl)
  | readBridge o hopen =>
    exact talkInv_frame h hchain rfl rfl (Or.inl rfl) (Or.inl (Fifo.log_take _ _)) (Or.inl rfl) (Or.inl rfl)
  | websocketToTarget o haccepted =>
    exact talkInv_frame h hchain rfl rfl (Or.inl (Fifo.log_take _ _)) (Or.inl rfl) (Or.inl rfl) (Or.inl rfl)
  | targetToWebsocket o haccepted =>
    have hdown :=
      Fifo.log_put s.downWire (sendTurn true (!s.websocketToTarget.sawClose) s.target s.targetToWebsocket o).messages
    exact talkInv_frame h hchain rfl rfl (Or.inl rfl) (Or.inr ⟨haccepted, _, hdown.symm⟩) (Or.inl rfl) (Or.inr haccepted)
  | cancel | cancelWriteBridge | cancelReadBridge | dropLocal | dropBridge =>
    exact talkInv_frame h hchain rfl rfl (Or.inl rfl) (Or.inl rfl) (Or.inl rfl) (Or.inl rfl)
  | putUp o m hopen hm =>
    have hup := Fifo.log_put s.upWire [m]
    exact talkInv_frame h hchain rfl rfl (Or.inr ⟨hopen, _, hup.symm⟩) (Or.inl rfl) (Or.inl rfl) (Or.inl rfl)
  | putDown o m haccepted hm =>
    have hdown := Fifo.log_put s.downWire [m]
    exact talkInv_frame h hchain rfl rfl (Or.inl rfl) (Or.inr ⟨haccepted, _, hdown.symm⟩) (Or.inl rfl) (Or.inl rfl)

/-! ## Agreement -/

/-- a text that is read as a target is read as the target it was written for -/
theorem parseTargetRequest_of_requests (h : tunnel.Requests) :
    parseTargetRequest (.text (connectText tunnel.request)) =
      .ok (tunnel.request.targetHost, tunnel.request.targetPort) := by
  have hread : (parseTargetRequest (.text (connectText tunnel.request))).toBool = true := by
    simp only [Tunnel.Requests, Message.requestsTarget, Bool.and_eq_true] at h
    exact h.2
  by_cases hspace : ' ' ∈ tunnel.request.targetHost.toList
  · rw [parseTargetRequest_of_space hspace] at hread
    cases hread
  · by_cases hblank : Text.trim tunnel.request.targetHost.toList = []
    · rw [parseTargetRequest_of_blank hblank] at hread
      cases hread
    · exact parseTargetRequest_connectText hspace hblank

/-- where an end relays, the other end agreed to it; where it does not, it has touched nothing -/
structure Agreed (tunnel : Tunnel) (s : Relay) : Prop where
  /-- the server relays before the client does -/
  client : s.opening = .relaying → s.accepting = .relaying
  /-- and only for an allowed credential, to the client's own target -/
  server : s.accepting = .relaying → tunnel.Admitted ∧
    parseTargetRequest (.text (connectText tunnel.request)) =
      .ok (tunnel.request.targetHost, tunnel.request.targetPort)
  clientUntouched : s.opening ≠ .relaying → s.client.past = [] ∧ s.clientOut.log = []
  targetUntouched : s.accepting ≠ .relaying → s.target.past = [] ∧ s.targetOut.log = []

theorem TalkInv.sent (h : TalkInv tunnel s) (ho : s.accepting = .relaying) : 2 ≤ s.downWire.log.length := by
  have hok := h.chain.accepting
  rw [ho] at hok
  exact hok.2

theorem agreed_of_talkInv (h : TalkInv tunnel s) : Agreed tunnel s where
  client := by
    intro ho
    have hok := h.chain.opening
    rw [ho] at hok
    have hpast := s.downWire.past_isPrefix_log.length_le
    exact h.relaying (hok.2.trans hpast)
  server := by
    intro ho
    have hsent := h.sent ho
    have hne : s.downWire.log ≠ [] := by
      intro hnil
      rw [hnil] at hsent
      cases hsent
    exact ⟨h.admitted (Or.inr hne), parseTargetRequest_of_requests (h.requested (Or.inr hsent))⟩
  clientUntouched := by
    intro ho
    refine ⟨h.clientUnread ho, ?_⟩
    have hnone : s.clientOut.log <+: [] :=
      calc s.clientOut.log
        _ <+: s.downPipe.past := h.chain.pumpDown.isPrefix
        _ <+: s.downPipe.log := s.downPipe.past_isPrefix_log
        _ <+: afterOpening s.downWire.past := h.chain.readBridge.isPrefix
        _ = [] := afterOpening_of_short (h.chain.opening.short ho).2
    exact List.prefix_nil.1 hnone
  targetUntouched := by
    intro ho
    refine ⟨h.targetUnread ho, ?_⟩
    have hnone : s.targetOut.log <+: [] :=
      calc s.targetOut.log
        _ <+: afterOpening s.upWire.past := h.chain.websocketToTarget.isPrefix
        _ = [] := afterOpening_of_short (h.chain.accepting.short ho).1
    exact List.prefix_nil.1 hnone

/-- **An end that relays relays what both ends agreed on.** For every two streams of bytes and every interleaving of the
steps of all tasks at both ends, whatever fails or is cancelled, in every state: the client relays only where the server
does; the server relays only for a credential that it allows, to exactly the host and port of the client's request; and an
end that does not relay has read and written nothing of either stream. -/
theorem relays_only_agreed (tunnel : Tunnel) (fromClient fromTarget : List UInt8) (ops : List Op) :
    AllStates (step tunnel) (Agreed tunnel) (start fromClient fromTarget) ops := by
  apply allStates_iff.2
  intro pre _
  exact agreed_of_talkInv (run_inv (fun s o h => talkInv_step o h) pre (talkInv_start tunnel fromClient fromTarget))

/-! ## Progress -/

/-- the next step of `open_stream` moves it -/
def ClientReady (tunnel : Tunnel) (s : Relay) : Prop := (openingTurn tunnel s.downWire s.opening).1 ≠ s.opening

/-- the next step of the server moves it -/
def ServerReady (tunnel : Tunnel) (s : Relay) : Prop := (acceptingTurn tunnel true s.upWire s.accepting).1 ≠ s.accepting

/-- nothing breaks the connection, and the target is there all along or not at all -/
def Undisturbed (reachable : Bool) : Op → Prop
  | .openingFails | .acceptingFails => False
  | .accepting connected => connected = reachable
  | _ => True

def Opening.left : Opening → ℕ
  | .connecting => 4
  | .authSent => 3
  | .acked => 2
  | .connectSent => 1
  | .relaying | .failed => 0

def Accepting.left : Accepting → ℕ
  | .authenticating => 4
  | .allowed => 3
  | .requesting => 2
  | .connecting => 1
  | .relaying | .failed => 0

/-- the steps the handshake still has to make, unless the server has refused it -/
def left (s : Relay) : ℕ := if s.accepting = .failed then 0 else s.opening.left + s.accepting.left

theorem left_le (s : Relay) : left s ≤ s.opening.left + s.accepting.left := by
  rw [left]
  split_ifs
  · exact Nat.zero_le _
  · exact le_rfl

theorem left_of_ne_zero (h : left s ≠ 0) : s.accepting ≠ .failed ∧ left s = s.opening.left + s.accepting.left := by
  rw [left] at h ⊢
  split_ifs at h ⊢ with hfailed
  · exact absurd rfl h
  · exact ⟨hfailed, rfl⟩

theorem openingTurn_left (tunnel : Tunnel) (wire : Fifo Message) (o : Opening) :
    (openingTurn tunnel wire o).1.left ≤ o.left ∧
      ((openingTurn tunnel wire o).1 ≠ o → (openingTurn tunnel wire o).1.left < o.left) := by
  cases o with
  | connecting | acked => simp [openingTurn, Opening.left]
  | authSent | connectSent =>
    cases hq : wire.queued with
    | nil => simp [openingTurn, hq]
    | cons m later =>
      simp only [openingTurn, hq]
      split <;> decide
  | relaying | failed => simp [openingTurn]

theorem acceptingTurn_left (tunnel : Tunnel) (connected : Bool) (wire : Fifo Message) (o : Accepting) :
    (acceptingTurn tunnel connected wire o).1.left ≤ o.left ∧
      ((acceptingTurn tunnel true wire o).1 ≠ o → (acceptingTurn tunnel connected wire o).1.left < o.left) := by
  cases o with
  | allowed => simp [acceptingTurn, Accepting.left]
  | authenticating | requesting =>
    cases hq : wire.queued with
    | nil => simp [acceptingTurn, hq]
    | cons m later =>
      simp only [acceptingTurn, hq]
      split <;> decide
  | connecting => cases connected <;> simp [acceptingTurn, Accepting.left]
  | relaying | failed => simp [acceptingTurn]

/-- what is not a step of the client's handshake leaves it where it is, and takes no message from it -/
theorem opening_of_others (tunnel : Tunnel) (s : Relay) {o : Op} (hstep : o ≠ .opening) (hfails : o ≠ .openingFails) :
    (step tunnel s o).opening = s.opening ∧
      (s.opening ≠ .relaying → s.downWire.queued <+: (step tunnel s o).downWire.queued) := by
  have hout := step_outcome tunnel s o
  generalize step tunnel s o = s' at hout ⊢
  cases hout with
  | opening => exact absurd rfl hstep
  | openingFails => exact absurd rfl hfails
  | accepting | targetToWebsocket | putDown => exact ⟨rfl, fun _ => List.prefix_append _ _⟩
  | readBridge o hopen => exact ⟨rfl, fun hnot => absurd hopen hnot⟩
  | _ => exact ⟨rfl, fun _ => List.prefix_refl _⟩

/-- and the same of the server -/
theorem accepting_of_others (tunnel : Tunnel) (s : Relay) {o : Op} (hstep : ∀ connected, o ≠ .accepting connected)
    (hfails : o ≠ .acceptingFails) :
    (step tunnel s o).accepting = s.accepting ∧
      (s.accepting ≠ .relaying → s.upWire.queued <+: (step tunnel s o).upWire.queued) := by
  have hout := step_outcome tunnel s o
  generalize step tunnel s o = s' at hout ⊢
  cases hout with
  | accepting connected => exact absurd rfl (hstep connected)
  | acceptingFails => exact absurd rfl hfails
  | opening | writeBridge | putUp => exact ⟨rfl, fun _ => List.prefix_append _ _⟩
  | websocketToTarget o haccepted => exact ⟨rfl, fun hnot => absurd haccepted hnot⟩
  | _ => exact ⟨rfl, fun _ => List.prefix_refl _⟩

/-- a client that can go on can still go on when more messages have come -/
theorem clientReady_of_prefix {s' : Relay} (h : ClientReady tunnel s) (hsame : s'.opening = s.opening)
    (hmore : s.downWire.queued <+: s'.downWire.queued) : ClientReady tunnel s' := by
  rw [ClientReady, hsame]
  rw [ClientReady] at h
  cases ho : s.opening with
  | connecting | acked => simp [openingTurn]
  | authSent | connectSent =>
    cases hq : s.downWire.queued with
    | nil => simp [openingTurn, hq, ho] at h
    | cons m later =>
      rw [hq] at hmore
      rcases hmore with ⟨more, hmore⟩
      simp only [openingTurn, ← hmore, List.cons_append]
      split <;> simp
  | relaying | failed => simp [openingTurn, ho] at h

theorem serverReady_of_prefix {s' : Relay} (h : ServerReady tunnel s) (hsame : s'.accepting = s.accepting)
    (hmore : s.upWire.queued <+: s'.upWire.queued) : ServerReady tunnel s' := by
  rw [ServerReady, hsame]
  rw [ServerReady] at h
  cases ho : s.accepting with
  | allowed | connecting => simp [acceptingTurn]
  | authenticating | requesting =>
    cases hq : s.upWire.queued with
    | nil => simp [acceptingTurn, hq, ho] at h
    | cons m later =>
      rw [hq] at hmore
      rcases hmore with ⟨more, hmore⟩
      simp only [acceptingTurn, ← hmore, List.cons_append]
      split <;> simp
  | relaying | failed => simp [acceptingTurn, ho] at h

/-- what holds of a handshake that nothing disturbs -/
structure QuietInv (tunnel : Tunnel) (reachable : Bool) (s : Relay) : Prop where
  talk : TalkInv tunnel s
  client : s.opening ≠ .failed
  refused : s.accepting = .failed → ¬(tunnel.Admitted ∧ tunnel.Requests ∧ reachable = true)
  reached : s.accepting = .relaying → reachable = true

/-- the client hears the answer that it waits for -/
theorem opening_not_failed (h : TalkInv tunnel s) (hclient : s.opening ≠ .failed) :
    (openingTurn tunnel s.downWire s.opening).1 ≠ .failed := by
  have hok := h.chain.opening
  cases ho : s.opening with
  | connecting | acked | relaying => simp [openingTurn]
  | authSent | connectSent =>
    simp only [ho, OpeningOk] at hok
    cases hq : s.downWire.queued with
    | nil => simp [openingTurn, hq]
    | cons m later =>
      have hm := head_of_lines h.answered hq (by omega)
      rw [hok.2] at hm
      cases hm
      simp [openingTurn, hq, Message.isAck]
  | failed => exact absurd ho hclient

/-- the server ends a handshake for one of three reasons -/
theorem accepting_refused (h : TalkInv tunnel s) {reachable : Bool}
    (hrefused : s.accepting = .failed → ¬(tunnel.Admitted ∧ tunnel.Requests ∧ reachable = true))
    (hfailed : (acceptingTurn tunnel reachable s.upWire s.accepting).1 = .failed) :
    ¬(tunnel.Admitted ∧ tunnel.Requests ∧ reachable = true) := by
  have hok := h.chain.accepting
  intro hall
  rcases hall with ⟨hadmitted, hrequests, hreachable⟩
  cases ho : s.accepting with
  | allowed | relaying => simp [acceptingTurn, ho] at hfailed
  | authenticating =>
    simp only [ho, AcceptingOk] at hok
    cases hq : s.upWire.queued with
    | nil => simp [acceptingTurn, ho, hq] at hfailed
    | cons m later =>
      have hm := head_of_lines h.said hq (by omega)
      rw [hok.1] at hm
      cases hm
      have hadmits : tunnel.admits (.binary tunnel.authToken) = true := hadmitted
      simp [acceptingTurn, ho, hq, hadmits] at hfailed
  | requesting =>
    simp only [ho, AcceptingOk] at hok
    cases hq : s.upWire.queued with
    | nil => simp [acceptingTurn, ho, hq] at hfailed
    | cons m later =>
      have hm := head_of_lines h.said hq (by omega)
      rw [hok.1] at hm
      cases hm
      have hopens : (Message.text (connectText tunnel.request)).requestsTarget = true := hrequests
      simp [acceptingTurn, ho, hq, hopens] at hfailed
  | connecting => simp [acceptingTurn, ho, hreachable] at hfailed
  | failed => exact hrefused ho ⟨hadmitted, hrequests, hreachable⟩

/-- the server relays once it has reached the target -/
theorem reached_of_turn {reachable : Bool} (hreached : s.accepting = .relaying → reachable = true)
    (hrelaying : (acceptingTurn tunnel reachable s.upWire s.accepting).1 = .relaying) : reachable = true := by
  cases ho : s.accepting with
  | connecting =>
    by_contra hnot
    simp [acceptingTurn, ho, hnot] at hrelaying
  | relaying => exact hreached ho
  | allowed | failed => simp [acceptingTurn, ho] at hrelaying
  | authenticating | requesting =>
    simp only [acceptingTurn, ho] at hrelaying
    split at hrelaying
    · cases hrelaying
    · split at hrelaying <;> cases hrelaying

theorem quietInv_step {reachable : Bool} (o : Op) (h : QuietInv tunnel reachable s) (ho : Undisturbed reachable o) :
    QuietInv tunnel reachable (step tunnel s o) := by
  have htalk := talkInv_step o h.talk
  by_cases hopening : o = .opening
  · subst hopening
    exact ⟨htalk, opening_not_failed h.talk h.client, h.refused, h.reached⟩
  by_cases haccepting : ∃ connected, o = .accepting connected
  · rcases haccepting with ⟨connected, rfl⟩
    have hconnected : connected = reachable := ho
    subst hconnected
    exact ⟨htalk, h.client, accepting_refused h.talk h.refused, reached_of_turn h.reached⟩
  have hfails : o ≠ .openingFails ∧ o ≠ .acceptingFails := by
    constructor <;> rintro rfl <;> exact ho
  have hclient := (opening_of_others tunnel s hopening hfails.1).1
  have hserver := (accepting_of_others tunnel s (fun c hc => haccepting ⟨c, hc⟩) hfails.2).1
  exact ⟨htalk, by rw [hclient]; exact h.client, by rw [hserver]; exact h.refused, by rw [hserver]; exact h.reached⟩

/-- a client that cannot go on waits for a message that has not come, or relays -/
theorem client_waits (h : ¬ClientReady tunnel s) (hclient : s.opening ≠ .failed) :
    s.opening = .relaying ∨ (s.opening = .authSent ∨ s.opening = .connectSent) ∧ s.downWire.queued = [] := by
  cases ho : s.opening with
  | connecting | acked => exact absurd (by simp [ClientReady, openingTurn, ho]) h
  | authSent | connectSent =>
    right
    refine ⟨by simp, ?_⟩
    by_contra hne
    rcases List.exists_cons_of_ne_nil hne with ⟨m, later, hq⟩
    apply h
    simp only [ClientReady, openingTurn, ho, hq]
    split <;> simp
  | relaying => exact Or.inl rfl
  | failed => exact absurd ho hclient

theorem server_waits (h : ¬ServerReady tunnel s) (hserver : s.accepting ≠ .failed) :
    s.accepting = .relaying ∨ (s.accepting = .authenticating ∨ s.accepting = .requesting) ∧ s.upWire.queued = [] := by
  cases ho : s.accepting with
  | allowed | connecting => exact absurd (by simp [ServerReady, acceptingTurn, ho]) h
  | authenticating | requesting =>
    right
    refine ⟨by simp, ?_⟩
    by_contra hne
    rcases List.exists_cons_of_ne_nil hne with ⟨m, later, hq⟩
    apply h
    simp only [ServerReady, acceptingTurn, ho, hq]
    split <;> simp
  | relaying => exact Or.inl rfl
  | failed => exact absurd ho hserver

/-- **Neither end waits for ever.** As long as the handshake is not over, one of the two ends can go on. -/
theorem deadlock_free (h : TalkInv tunnel s) (hclient : s.opening ≠ .failed) (hleft : left s ≠ 0) :
    ClientReady tunnel s ∨ ServerReady tunnel s := by
  obtain ⟨hserver, hsum⟩ := left_of_ne_zero hleft
  by_contra hstuck
  obtain ⟨hclientStuck, hserverStuck⟩ := not_or.1 hstuck
  have hopening := h.chain.opening
  have haccepting := h.chain.accepting
  rcases client_waits hclientStuck hclient with ho | ⟨ho, hdown⟩
  · have ha := (agreed_of_talkInv h).client ho
    apply hleft
    rw [hsum, ho, ha]
    rfl
  · rw [Fifo.past_eq_log hdown] at hopening
    rcases server_waits hserverStuck hserver with ha | ⟨ha, hup⟩
    · -- the server has said both lines, and the client has taken at most one
      have hsent := h.sent ha
      rcases ho with ho | ho <;> simp only [ho, OpeningOk] at hopening <;> omega
    · -- each end has taken all that the other has said, and each has the other's turn to wait for
      rw [Fifo.past_eq_log hup] at haccepting
      rcases ho with ho | ho <;> rcases ha with ha | ha <;>
        simp only [ho, OpeningOk] at hopening <;> simp only [ha, AcceptingOk] at haccepting <;> omega

/-- a server that has refused does so for good -/
theorem refused_stays (h : s.accepting = .failed) (o : Op) : (step tunnel s o).accepting = .failed := by
  have hout := step_outcome tunnel s o
  generalize step tunnel s o = s' at hout ⊢
  cases hout with
  | accepting connected => simp [stepAccepting, acceptingTurn, h]
  | acceptingFails => rfl
  | _ => exact h

/-- a step leaves no more to do than there was, and less if it is a step of an end that can go on -/
theorem parts_step (tunnel : Tunnel) (s : Relay) {reachable : Bool} {o : Op} (ho : Undisturbed reachable o) :
    ((step tunnel s o).opening.left ≤ s.opening.left ∧ (step tunnel s o).accepting.left ≤ s.accepting.left) ∧
      (ClientReady tunnel s → o = .opening → (step tunnel s o).opening.left < s.opening.left) ∧
      (ServerReady tunnel s → (∃ connected, o = .accepting connected) →
        (step tunnel s o).accepting.left < s.accepting.left) := by
  by_cases hopening : o = .opening
  · subst hopening
    obtain ⟨hle, hlt⟩ := openingTurn_left tunnel s.downWire s.opening
    refine ⟨⟨hle, le_rfl⟩, fun hready _ => hlt hready, ?_⟩
    intro _ hother
    rcases hother with ⟨connected, hother⟩
    cases hother
  by_cases haccepting : ∃ connected, o = .accepting connected
  · rcases haccepting with ⟨connected, rfl⟩
    obtain ⟨hle, hlt⟩ := acceptingTurn_left tunnel connected s.upWire s.accepting
    refine ⟨⟨le_rfl, hle⟩, ?_, fun hready _ => hlt hready⟩
    intro _ hother
    cases hother
  have hfails : o ≠ .openingFails ∧ o ≠ .acceptingFails := by
    constructor <;> rintro rfl <;> exact ho
  have hclient := (opening_of_others tunnel s hopening hfails.1).1
  have hserver := (accepting_of_others tunnel s (fun c hc => haccepting ⟨c, hc⟩) hfails.2).1
  rw [hclient, hserver]
  exact ⟨⟨le_rfl, le_rfl⟩, fun _ hother => absurd hother hopening, fun _ hother => absurd hother haccepting⟩

theorem left_step_le {reachable : Bool} {o : Op} (ho : Undisturbed reachable o) :
    left (step tunnel s o) ≤ left s := by
  by_cases hfailed : s.accepting = .failed
  · rw [left, if_pos (refused_stays hfailed o)]
    exact Nat.zero_le _
  · obtain ⟨⟨hopening, haccepting⟩, _⟩ := parts_step tunnel s ho
    calc left (step tunnel s o)
      _ ≤ (step tunnel s o).opening.left + (step tunnel s o).accepting.left := left_le _
      _ ≤ s.opening.left + s.accepting.left := Nat.add_le_add hopening haccepting
      _ = left s := (if_neg hfailed).symm

section Fairness

variable {reachable : Bool} {r : LongRun (step tunnel)}

/-- **The handshake goes on.** In a fair run that nothing disturbs, less is left to do some time later. -/
theorem left_falls (hinv : ∀ n, QuietInv tunnel reachable (r.state n)) (hquiet : ∀ n, Undisturbed reachable (r.ops n))
    (hclient : r.WeakFair (ClientReady tunnel) fun _ o => o = .opening)
    (hserver : r.WeakFair (ServerReady tunnel) fun _ o => ∃ connected, o = .accepting connected) {m : ℕ}
    (hleft : left (r.state m) ≠ 0) : ∃ k, m ≤ k ∧ left (r.state k) < left (r.state m) := by
  have hle : ∀ k, m ≤ k → left (r.state k) ≤ left (r.state m) :=
    fun k hk => LongRun.le_of_falling (fun i _ => left_step_le (hquiet i)) le_rfl hk
  -- a step that makes one of the two parts smaller makes the rest smaller
  have hless : ∀ k, m ≤ k → (step tunnel (r.state k) (r.ops k)).opening.left < (r.state k).opening.left ∨
      (step tunnel (r.state k) (r.ops k)).accepting.left < (r.state k).accepting.left →
      left (r.state (k + 1)) < left (r.state m) := by
    intro k hk hparts
    have hnext : left (r.state (k + 1)) ≤ left (r.state k) := left_step_le (hquiet k)
    have hbefore := hle k hk
    by_cases hsame : left (r.state k) = left (r.state m)
    · obtain ⟨_, hsum⟩ := left_of_ne_zero (s := r.state k) (by omega)
      obtain ⟨⟨hopening, haccepting⟩, _⟩ := parts_step tunnel (r.state k) (hquiet k)
      have hbound : left (r.state (k + 1)) ≤ _ := left_le (step tunnel (r.state k) (r.ops k))
      omega
    · omega
  rcases deadlock_free (hinv m).talk (hinv m).client hleft with hready | hready
  · apply hclient.reaches_of_stays (Q := fun t => left t < left (r.state m)) hready
    · intro k hk hnow
      by_cases hopening : r.ops k = .opening
      · right
        exact hless k hk (Or.inl ((parts_step tunnel (r.state k) (hquiet k)).2.1 hnow hopening))
      · left
        have hfails : r.ops k ≠ .openingFails := by
          intro hfails
          have hbroken := hquiet k
          rw [hfails] at hbroken
          exact hbroken
        obtain ⟨hsame, hmore⟩ := opening_of_others tunnel (r.state k) hopening hfails
        apply clientReady_of_prefix hnow hsame (hmore _)
        intro hrelaying
        rw [ClientReady, hrelaying] at hnow
        exact hnow rfl
    · intro k hk hnow htaken
      exact hless k hk (Or.inl ((parts_step tunnel (r.state k) (hquiet k)).2.1 hnow htaken))
  · apply hserver.reaches_of_stays (Q := fun t => left t < left (r.state m)) hready
    · intro k hk hnow
      by_cases haccepting : ∃ connected, r.ops k = .accepting connected
      · right
        exact hless k hk (Or.inr ((parts_step tunnel (r.state k) (hquiet k)).2.2 hnow haccepting))
      · left
        have hfails : r.ops k ≠ .acceptingFails := by
          intro hfails
          have hbroken := hquiet k
          rw [hfails] at hbroken
          exact hbroken
        obtain ⟨hsame, hmore⟩ :=
          accepting_of_others tunnel (r.state k) (fun c hc => haccepting ⟨c, hc⟩) hfails
        apply serverReady_of_prefix hnow hsame (hmore _)
        intro hrelaying
        rw [ServerReady, hrelaying] at hnow
        exact hnow rfl
    · intro k hk hnow htaken
      exact hless k hk (Or.inr ((parts_step tunnel (r.state k) (hquiet k)).2.2 hnow htaken))

/-- an end that relays goes on to -/
theorem relaying_stays (h : s.opening = .relaying ∧ s.accepting = .relaying) (o : Op) :
    (step tunnel s o).opening = .relaying ∧ (step tunnel s o).accepting = .relaying := by
  have hout := step_outcome tunnel s o
  generalize step tunnel s o = s' at hout ⊢
  cases hout with
  | opening => rwa [stepOpening_of_relaying h.1]
  | openingFails hnot => exact absurd h.1 hnot
  | accepting connected => rwa [stepAccepting_of_relaying h.2]
  | acceptingFails hnot => exact absurd h.2 hnot
  | _ => exact h

/-- **The handshake ends, and well if and only if it should.** In a run of all tasks at both ends in which each end makes
the next step of its handshake some time if it can go on, nothing breaks the connection before the end relays, and the
target is there all along or not at all: both ends relay from some time on if and only if the credential is allowed, the
request names a target and the target is there; and else the server has refused the connection from some time on. -/
theorem handshake_completes_iff {fromClient fromTarget : List UInt8} (hstart : r.start = start fromClient fromTarget)
    (hquiet : ∀ n, Undisturbed reachable (r.ops n))
    (hclient : r.WeakFair (ClientReady tunnel) fun _ o => o = .opening)
    (hserver : r.WeakFair (ServerReady tunnel) fun _ o => ∃ connected, o = .accepting connected) :
    ((∃ n, ∀ m, n ≤ m → (r.state m).opening = .relaying ∧ (r.state m).accepting = .relaying) ↔
      tunnel.Admitted ∧ tunnel.Requests ∧ reachable = true) ∧
    (¬(tunnel.Admitted ∧ tunnel.Requests ∧ reachable = true) →
      ∃ n, ∀ m, n ≤ m → (r.state m).accepting = .failed) := by
  have hbegin : QuietInv tunnel reachable r.start := by
    rw [hstart]
    constructor
    · exact talkInv_start tunnel fromClient fromTarget
    all_goals
      intro h
      cases h
  have hinv : ∀ n, QuietInv tunnel reachable (r.state n) :=
    fun n => r.state_inv (C := fun _ o => Undisturbed reachable o) (fun s o => quietInv_step o) hbegin hquiet n
  obtain ⟨n, _, hzero⟩ := LongRun.exists_zero (r := r) (f := left) (n := 0)
    (fun m _ hleft => left_falls hinv hquiet hclient hserver hleft)
  -- with nothing left to do, the server has refused or both ends relay
  have hend : (r.state n).accepting = .failed ∨
      (r.state n).opening = .relaying ∧ (r.state n).accepting = .relaying := by
    by_cases hfailed : (r.state n).accepting = .failed
    · exact Or.inl hfailed
    · right
      rw [left, if_neg hfailed] at hzero
      obtain ⟨hopening, haccepting⟩ := Nat.add_eq_zero_iff.1 hzero
      have hclient := (hinv n).client
      cases ho : (r.state n).opening <;> cases ha : (r.state n).accepting <;>
        simp_all [Opening.left, Accepting.left]
  -- a server that relays has found all three
  have hall : ∀ k, (r.state k).accepting = .relaying → tunnel.Admitted ∧ tunnel.Requests ∧ reachable = true := by
    intro k ha
    have htalk := (hinv k).talk
    have hsent := htalk.sent ha
    refine ⟨?_, htalk.requested (Or.inr hsent), (hinv k).reached ha⟩
    apply htalk.admitted
    right
    intro hnil
    rw [hnil] at hsent
    cases hsent
  constructor
  · constructor
    · intro hboth
      obtain ⟨k, hk⟩ := hboth
      exact hall k (hk k le_rfl).2
    · intro hgood
      rcases hend with hfailed | hboth
      · exact absurd hgood ((hinv n).refused hfailed)
      · exact ⟨n, fun m hm => r.stays (P := fun t => t.opening = .relaying ∧ t.accepting = .relaying)
          (fun s o h => relaying_stays h o) hboth hm⟩
  · intro hbad
    rcases hend with hfailed | hboth
    · exact ⟨n, fun m hm => r.stays (P := fun t => t.accepting = .failed) (fun s o h => refused_stays h o) hfailed hm⟩
    · exact absurd (hall n hboth.2) hbad

end Fairness

/-- the handshake of `handshake`, after which nothing happens -/
def shortRun : LongRun (step shortTunnel) := LongRun.scripted (step shortTunnel) (start [] []) handshake .opening

/-- both ends relay, for good -/
theorem handshake_opens :
    ∃ n, ∀ m, n ≤ m → (shortRun.state m).opening = .relaying ∧ (shortRun.state m).accepting = .relaying := by
  have hboth : (shortRun.state 8).opening = .relaying ∧ (shortRun.state 8).accepting = .relaying := by decide
  have hsettles : LongRun.Settles shortRun 8 .opening := by
    apply LongRun.settles_scripted (by decide)
    exact stepOpening_of_relaying hboth.1
  have hquiet : ∀ n, Undisturbed true (shortRun.ops n) := by
    intro n
    have hall : ∀ o ∈ Op.opening :: handshake, Undisturbed true o := by simp [handshake, Undisturbed]
    exact hall _ (LongRun.mem_scripted (start [] []) handshake .opening n)
  refine (handshake_completes_iff rfl hquiet ?_ ?_).1.2 ⟨by decide, by decide, rfl⟩
  · exact LongRun.weakFair_of_settled hsettles fun _ => rfl
  · apply LongRun.weakFair_of_settled hsettles
    intro hready
    rw [ServerReady, hboth.2] at hready
    exact absurd rfl hready

end N0wss.Gateway
