/-
All UDP ASSOCIATE sessions of a client, with the datagram bridge as their runtime target: the sessions of
`Socks5.UdpSession` and the one registry of associations their relay loops share.

A session that relays a datagram gets an association. Nothing in the program closes it when the session ends.

- `inv_stepSystem`: as long as only sessions without an association end, every association belongs to a live session that was
  given it.
- `associations_live`: in every run of that kind each association is of a live session, there are no more of them than
  live sessions, and none is refused below `max_associations` live sessions.
- `association_outlives_session`: one slot, one session that relayed one datagram and ended, and the next is refused.
-/
import N0wss.Core.Stages
import N0wss.Session.DatagramManager
import N0wss.Socks5.UdpSession

namespace N0wss.Socks5

open Datagram Machine Net Session

/-! ## Sessions and associations -/

structure TrackedSession where
  session : UdpSession
  /-- history: the client whose datagrams were given an association -/
  client : Option SocketAddr
deriving DecidableEq

/-- the handler has returned and the relay task has ended -/
def TrackedSession.isOver (t : TrackedSession) : Bool := t.session.handler.isReturned && t.session.taskEnded

def TrackedSession.isLive (t : TrackedSession) : Bool := !t.isOver

structure UdpSystem where
  sessions : List TrackedSession
  associations : UdpAssociationRegistry

def UdpSystem.liveSessions (s : UdpSystem) : ℕ := (s.sessions.filter TrackedSession.isLive).length

inductive UdpOp where
  /-- a session starts, on a relay address that no live session is bound to -/
  | start (relayAddr : SocketAddr) (clientHint : TargetAddr)
  /-- a step of the i-th session that is not a received datagram -/
  | session (i : ℕ) (op : SessionOp)
  /-- the i-th session's relay loop receives a datagram; `dispatch` is what the transport returns for it -/
  | datagram (i : ℕ) (packet : Received) (now : Instant) (dispatch : Except String Unit)

/-- the relay loop of a session hands a datagram to the bridge -/
def relayDatagram (t : TrackedSession) (associations : UdpAssociationRegistry) (packet : Received) (now : Instant)
    (dispatch : Except String Unit) : TrackedSession × UdpAssociationRegistry :=
  match t.session.task with
  | some (.loop (.running expectedSource)) =>
    match forwardOf t.session.relayAddr expectedSource packet with
    | .error _ => ({ t with session := t.session.relay (.received packet) (.ok ()) }, associations)
    | .ok call =>
      let ensured := ensureOutboundAssociation associations call.relayAddr call.expectedClientAddr now
      let forwarded := forwardRuntimeDatagram (fun _ => dispatch) associations call.relayAddr call.expectedClientAddr
        call.target call.payload now
      (⟨t.session.relay (.received packet) forwarded.1,
          if ensured.1.isOk then some call.expectedClientAddr else t.client⟩, forwarded.2)
  | _ => (t, associations)

/-- what a step does to one session -/
def stepTracked (v6 : Ipv6Text) (t : TrackedSession) : SessionOp → TrackedSession
  | .relay (.received _) _ => t
  | op => { t with session := (t.session.step v6 op).1 }

def stepSystem (v6 : Ipv6Text) (s : UdpSystem) : UdpOp → UdpSystem
  | .start relayAddr clientHint =>
    if s.sessions.any fun t => t.isLive && t.session.relayAddr == relayAddr then s
    else { s with sessions := s.sessions ++ [⟨.start relayAddr clientHint true, none⟩] }
  | .session i op =>
    match s.sessions[i]? with
    | some t => { s with sessions := s.sessions.set i (stepTracked v6 t op) }
    | none => s
  | .datagram i packet now dispatch =>
    match s.sessions[i]? with
    | some t =>
      let relayed := relayDatagram t s.associations packet now dispatch
      ⟨s.sessions.set i relayed.1, relayed.2⟩
    | none => s

def initSystem (maxAssociations : ℕ) : UdpSystem := ⟨[], SlotStore.new maxAssociations⟩

/-! ## The invariant -/

/-- a relay loop that still runs serves the client whose datagrams it was given an association for -/
def TrackedSession.Serves (t : TrackedSession) : Prop :=
  ∀ client expectedSource, t.client = some client → t.session.task = some (.loop (.running expectedSource)) →
    expectedSource = some client

/-- a live session has this relay address and was given an association for this client -/
def UdpSystem.Owner (s : UdpSystem) (relayAddr client : SocketAddr) : Prop :=
  ∃ t ∈ s.sessions, t.isLive = true ∧ t.session.relayAddr = relayAddr ∧ t.client = some client

/-- sessions that are over were never given an association -/
def UdpSystem.NoneLeftBehind (s : UdpSystem) : Prop := ∀ t ∈ s.sessions, t.isOver = true → t.client = none

instance (s : UdpSystem) : Decidable s.NoneLeftBehind := inferInstanceAs (Decidable (∀ t ∈ s.sessions, _))

structure SystemInv (maxAssociations : ℕ) (s : UdpSystem) : Prop where
  serves : ∀ t ∈ s.sessions, t.Serves
  owned : Owned s.Owner maxAssociations s.associations

/-! ## One session -/

variable (v6 : Ipv6Text)

/-- what a session's step keeps: its address, its history, and that a running loop was running with the same source -/
structure Keeps (t t' : TrackedSession) : Prop where
  relayAddr : t'.session.relayAddr = t.session.relayAddr
  client : ∀ client, t.client = some client → t'.client = some client
  serves : t.Serves → t'.Serves

theorem Keeps.refl (t : TrackedSession) : Keeps t t := ⟨rfl, fun _ => id, id⟩

theorem relayAddr_step (s : UdpSession) (op : SessionOp) : (s.step v6 op).1.relayAddr = s.relayAddr := by
  cases op with
  | relay input handOff => exact relayAddr_relay s input handOff
  | join =>
    simp only [UdpSession.step]
    split
    · unfold UdpSession.endJoin
      split <;> rfl
    · rfl
  | controlRead read =>
    simp only [UdpSession.step, UdpSession.endControl]
    repeat' split
    all_goals rfl
  | _ =>
    simp only [UdpSession.step]
    repeat' split
    all_goals rfl

/-- a loop that runs after a step which is no received datagram ran before, with the same source -/
theorem running_of_step {s : UdpSession} {op : SessionOp} (hop : ∀ packet handOff, op ≠ .relay (.received packet) handOff)
    {expectedSource : Option SocketAddr} (h : (s.step v6 op).1.task = some (.loop (.running expectedSource))) :
    s.task = some (.loop (.running expectedSource)) := by
  cases op with
  | relay input handOff =>
    simp only [UdpSession.step, UdpSession.relay] at h
    split at h
    · rename_i status htask
      split at h
      · exact h
      · -- the loop made a turn: cancelled and failed receives end it
        cases status with
        | ended result => cases h
        | running source =>
          cases input with
          | received packet => exact absurd rfl (hop packet handOff)
          | receiveError detail => cases h
          | cancelled => cases h
    · exact h
  | panic detail =>
    simp only [UdpSession.step] at h
    split at h
    · cases h
    · exact h
  | join =>
    simp only [UdpSession.step] at h
    split at h
    · unfold UdpSession.endJoin at h
      split at h <;> exact h
    · exact h
  | controlRead read =>
    simp only [UdpSession.step, UdpSession.endControl] at h
    repeat' split at h
    all_goals exact h
  | totalTimeout =>
    simp only [UdpSession.step] at h
    split at h <;> exact h

theorem keeps_stepTracked (t : TrackedSession) (op : SessionOp) : Keeps t (stepTracked v6 t op) := by
  by_cases hop : ∃ packet handOff, op = .relay (.received packet) handOff
  · obtain ⟨packet, handOff, rfl⟩ := hop
    exact Keeps.refl t
  · have hne : ∀ packet handOff, op ≠ .relay (.received packet) handOff := fun packet handOff heq =>
      hop ⟨packet, handOff, heq⟩
    have hstep : stepTracked v6 t op = { t with session := (t.session.step v6 op).1 } := by
      unfold stepTracked
      split
      · exact absurd rfl (hne _ _)
      · rfl
    rw [hstep]
    exact ⟨relayAddr_step v6 t.session op, fun _ => id, fun hserves client source hclient htask =>
      hserves client source hclient (running_of_step v6 hne htask)⟩

theorem forwardOf_eq_ok {relayAddr : SocketAddr} {expectedSource : Option SocketAddr} {packet : Received} {call : Forward}
    (h : forwardOf relayAddr expectedSource packet = .ok call) :
    call.relayAddr = relayAddr ∧ call.expectedClientAddr = expectedSource.getD packet.source := by
  obtain ⟨envelope, -, h⟩ := Stages.bind_eq_ok_iff.1 h
  cases h
  exact ⟨rfl, rfl⟩

/-- a loop that runs on after a datagram handed it over without an error -/
theorem task_relay_received {s : UdpSession} {expectedSource expectedSource' : Option SocketAddr} {packet : Received}
    {call : Forward} {handOff : Except UdpAssociateError Unit} (htask : s.task = some (.loop (.running expectedSource)))
    (hcall : forwardOf s.relayAddr expectedSource packet = .ok call)
    (h : (s.relay (.received packet) handOff).task = some (.loop (.running expectedSource'))) :
    handOff = .ok () ∧ expectedSource' = some call.expectedClientAddr := by
  have hinput : ¬(LoopInput.received packet = .cancelled ∧ s.cancelled = false) := fun hc => by cases hc.1
  simp only [UdpSession.relay, htask, if_neg hinput, relayTurn, hcall] at h
  cases handOff with
  | error err => cases h
  | ok u => cases h; exact ⟨rfl, rfl⟩

theorem keeps_relayDatagram (t : TrackedSession) (hserves : t.Serves) (associations : UdpAssociationRegistry)
    (packet : Received) (now : Instant) (dispatch : Except String Unit) :
    Keeps t (relayDatagram t associations packet now dispatch).1 := by
  unfold relayDatagram
  split
  · rename_i expectedSource htask
    split
    · -- a packet that does not parse ends the loop
      rename_i err hcall
      refine ⟨relayAddr_relay .., fun _ => id, fun _ client source _ hrunning => ?_⟩
      have hinput : ¬(LoopInput.received packet = .cancelled ∧ t.session.cancelled = false) := fun hc => by cases hc.1
      simp only [UdpSession.relay, htask, if_neg hinput, relayTurn, hcall] at hrunning
      cases hrunning
    · rename_i call hcall
      have hclient := (forwardOf_eq_ok hcall).2
      refine ⟨relayAddr_relay .., ?_, ?_⟩
      · intro client hhad
        -- the loop serves the client it was given an association for, so it is the same one
        rw [hserves client expectedSource hhad htask, Option.getD_some] at hclient
        simp only [hclient, hhad, ite_self]
      · intro _ client source hgiven hrunning
        obtain ⟨hhandOff, rfl⟩ := task_relay_received htask hcall hrunning
        have hensured := ensured_of_forwardRuntimeDatagram hhandOff
        simp only [hensured, if_true] at hgiven
        exact hgiven
  · exact Keeps.refl t

/-- the registry stays owned if the client that the session is now given an association for is an owner -/
theorem owned_relayDatagram {owner : SocketAddr → SocketAddr → Prop} {slots : ℕ} {associations : UdpAssociationRegistry}
    (h : Owned owner slots associations) (t : TrackedSession) (packet : Received) (now : Instant)
    (dispatch : Except String Unit)
    (howner : ∀ client, (relayDatagram t associations packet now dispatch).1.client = some client →
      owner t.session.relayAddr client) :
    Owned owner slots (relayDatagram t associations packet now dispatch).2 := by
  unfold relayDatagram at howner ⊢
  split
  · split
    · exact h
    · rename_i expectedSource htask _ call hcall
      simp only [htask, hcall] at howner
      refine owned_forwardRuntimeDatagram h _ _ _ ?_
      intro hensured
      rw [(forwardOf_eq_ok hcall).1]
      exact howner _ (if_pos hensured)
  · exact h

/-! ## The step -/

theorem mem_set_of_get {t u : TrackedSession} {sessions : List TrackedSession} {i : ℕ} (hi : sessions[i]? = some t)
    (t' : TrackedSession) (hu : u ∈ sessions) : u ∈ sessions.set i t' ∨ u = t := by
  obtain ⟨j, hj⟩ := List.mem_iff_getElem?.1 hu
  by_cases hij : i = j
  · subst hij
    exact Or.inr (Option.some.inj (hj.symm.trans hi))
  · exact Or.inl (List.mem_iff_getElem?.2 ⟨j, by rw [List.getElem?_set_ne hij, hj]⟩)

/-- who owned an association owns it still, when one session makes a step and none is left behind -/
theorem owner_set {s : UdpSystem} {i : ℕ} {t t' : TrackedSession} {associations : UdpAssociationRegistry}
    (hi : s.sessions[i]? = some t) (hkeeps : Keeps t t')
    (hleft : UdpSystem.NoneLeftBehind ⟨s.sessions.set i t', associations⟩) {relayAddr client : SocketAddr}
    (h : s.Owner relayAddr client) : UdpSystem.Owner ⟨s.sessions.set i t', associations⟩ relayAddr client := by
  obtain ⟨u, hu, hlive, hrelay, hclient⟩ := h
  have ht' : t' ∈ s.sessions.set i t' :=
    List.mem_set (List.getElem?_eq_some_iff.1 hi).1 t'
  rcases mem_set_of_get hi t' hu with hmem | rfl
  · exact ⟨u, hmem, hlive, hrelay, hclient⟩
  · have hclient' := hkeeps.client client hclient
    refine ⟨t', ht', ?_, hkeeps.relayAddr.trans hrelay, hclient'⟩
    by_contra hnot
    have hover : t'.isOver = true := by simpa [TrackedSession.isLive] using hnot
    rw [hleft t' ht' hover] at hclient'
    cases hclient'

theorem serves_set {s : UdpSystem} {i : ℕ} {t t' : TrackedSession} (hi : s.sessions[i]? = some t)
    (hserves : ∀ u ∈ s.sessions, u.Serves) (hkeeps : Keeps t t') : ∀ u ∈ s.sessions.set i t', u.Serves := by
  apply forall_mem_set hserves i
  exact hkeeps.serves (hserves t (List.mem_of_getElem? hi))

theorem inv_initSystem (maxAssociations : ℕ) : SystemInv maxAssociations (initSystem maxAssociations) :=
  ⟨fun _ ht => absurd ht List.not_mem_nil, owned_new _ _⟩

theorem inv_stepSystem {maxAssociations : ℕ} {s : UdpSystem} (h : SystemInv maxAssociations s) {o : UdpOp}
    (ho : (stepSystem v6 s o).NoneLeftBehind) : SystemInv maxAssociations (stepSystem v6 s o) := by
  cases o with
  | start relayAddr clientHint =>
    simp only [stepSystem]
    split_ifs
    · exact h
    · refine ⟨?_, h.owned.imp ?_⟩
      · intro t ht
        rcases List.mem_append.1 ht with ht | ht
        · exact h.serves t ht
        · obtain rfl := List.mem_singleton.1 ht
          intro client source hclient
          cases hclient
      · intro relay client howner
        obtain ⟨t, ht, hrest⟩ := howner
        exact ⟨t, List.mem_append_left _ ht, hrest⟩
  | session i op =>
    simp only [stepSystem] at ho ⊢
    cases hi : s.sessions[i]? with
    | none => exact h
    | some t =>
      rw [hi] at ho
      have hkeeps := keeps_stepTracked v6 t op
      exact ⟨serves_set hi h.serves hkeeps, h.owned.imp fun relay client => owner_set hi hkeeps ho⟩
  | datagram i packet now dispatch =>
    simp only [stepSystem] at ho ⊢
    cases hi : s.sessions[i]? with
    | none => exact h
    | some t =>
      rw [hi] at ho
      have hkeeps := keeps_relayDatagram t (h.serves t (List.mem_of_getElem? hi)) s.associations packet now dispatch
      refine ⟨serves_set hi h.serves hkeeps, owned_relayDatagram (h.owned.imp fun relay client =>
        owner_set hi hkeeps ho) t packet now dispatch ?_⟩
      intro client hgiven
      -- the session that was just given its association is not over
      have ht' := List.mem_set (List.getElem?_eq_some_iff.1 hi).1 (relayDatagram t s.associations packet now dispatch).1
      refine ⟨_, ht', ?_, hkeeps.relayAddr, hgiven⟩
      by_contra hnot
      have hover : (relayDatagram t s.associations packet now dispatch).1.isOver = true := by
        simpa [TrackedSession.isLive] using hnot
      have hnone := ho _ ht' hover
      rw [hgiven] at hnone
      cases hnone

/-! ## What the invariant gives -/

/-- every association has a live session of its own, so there are no more of them than live sessions -/
theorem count_le_liveSessions {maxAssociations : ℕ} {s : UdpSystem} (h : SystemInv maxAssociations s) :
    s.associations.associationCount ≤ s.liveSessions := by
  have hnonempty : Nonempty TrackedSession := ⟨⟨⟨.v4 ⟨0, 0, 0, 0⟩ 0, .reading, none, false⟩, none⟩⟩
  have howner : ∀ id, id ∈ s.associations.entries.keys → ∃ t record, s.associations.get id = some record ∧
      t ∈ s.sessions ∧ t.isLive = true ∧ t.session.relayAddr = record.relayAddr ∧
        t.client = some record.expectedClientAddr := by
    intro id hid
    obtain ⟨record, hget⟩ := Option.isSome_iff_exists.1 (AList.lookup_isSome.2 hid)
    obtain ⟨t, ht⟩ := h.owned.owned id record hget
    exact ⟨t, record, hget, ht⟩
  choose! sessionOf recordOf hget hmem hlive hrelay hclient using howner
  have hinj : ∀ id, id ∈ s.associations.entries.keys → ∀ id', id' ∈ s.associations.entries.keys →
      sessionOf id = sessionOf id' → id = id' := by
    intro id hid id' hid' hsame
    refine (h.owned.distinct id id' _ _ (hget id hid) (hget id' hid') ⟨?_, ?_⟩).symm
    · rw [← hrelay id hid, ← hrelay id' hid', hsame]
    · have hclients := (hclient id hid).symm.trans ((congrArg _ hsame).trans (hclient id' hid'))
      exact (Option.some.inj hclients).symm
  have hnodup : (s.associations.entries.keys.map sessionOf).Nodup := (AList.keys_nodup _).map_on hinj
  have hsub : s.associations.entries.keys.map sessionOf ⊆ s.sessions.filter TrackedSession.isLive := by
    intro t ht
    obtain ⟨id, hid, rfl⟩ := List.mem_map.1 ht
    exact List.mem_filter.2 ⟨hmem id hid, hlive id hid⟩
  calc s.associations.associationCount = (s.associations.entries.keys.map sessionOf).length := (List.length_map _).symm
    _ ≤ (s.sessions.filter TrackedSession.isLive).length := (hnodup.subperm hsub).length_le

/-- a refusal means that every slot is an association's -/
theorem full_of_refused {maxAssociations : ℕ} {s : UdpSystem} (h : SystemInv maxAssociations s)
    {relayAddr client : SocketAddr} {now : Instant}
    (hrefused : (ensureOutboundAssociation s.associations relayAddr client now).1 = .error .associationLimitReached) :
    maxAssociations ≤ s.liveSessions := by
  rcases ensureOutboundAssociation_cases s.associations relayAddr client now with
    ⟨id, opened, hensure⟩ | ⟨-, -, opened, hensure⟩ | ⟨hfree, -⟩
  · rw [hensure] at hrefused; cases hrefused
  · rw [hensure] at hrefused; cases hrefused
  · have hconserved : s.associations.count + s.associations.free = maxAssociations := h.owned.conserved
    calc maxAssociations = s.associations.count := by rw [← hconserved, hfree, Nat.add_zero]
      _ ≤ s.liveSessions := count_le_liveSessions h

/-! ## Main result -/

/-- every association is of a live session, there are no more than live sessions, and a refusal means that
`maxAssociations` sessions are live -/
def AssociationsLive (maxAssociations : ℕ) (s : UdpSystem) : Prop :=
  (∀ id record, s.associations.get id = some record →
    ∃ t ∈ s.sessions, t.isLive = true ∧ t.session.relayAddr = record.relayAddr) ∧
  s.associations.associationCount ≤ s.liveSessions ∧
  ∀ relayAddr client now,
    (ensureOutboundAssociation s.associations relayAddr client now).1 = .error .associationLimitReached →
      maxAssociations ≤ s.liveSessions

/-- **Associations of live sessions.** In every run of any number of sessions in no state of which a session that was given
an association is over. -/
theorem associations_live (maxAssociations : ℕ) {ops : List UdpOp}
    (h : AllStates (stepSystem v6) UdpSystem.NoneLeftBehind (initSystem maxAssociations) ops) :
    AllStates (stepSystem v6) (AssociationsLive maxAssociations) (initSystem maxAssociations) ops := by
  have hlive : ∀ s, SystemInv maxAssociations s → AssociationsLive maxAssociations s := by
    intro s hs
    refine ⟨?_, count_le_liveSessions hs, fun relay client now => full_of_refused hs⟩
    intro id record hget
    obtain ⟨t, ht, hislive, hrelay, -⟩ := hs.owned.owned id record hget
    exact ⟨t, ht, hislive, hrelay⟩
  exact allStates_of_inv (fun s o hs ho => inv_stepSystem v6 hs ho) hlive (inv_initSystem maxAssociations)
    (allStates_iff_allSteps.1 h).2

theorem relayedDatagram_fits : ([0, 0, 0, 1, 8, 8, 8, 8, 0, 53, 0xCA, 0xFE] : List UInt8).length ≤ 65535 := by decide

/-- a session that relays one datagram, and ends when its control connection does -/
def relayAndEnd : List UdpOp :=
  [.start (.v4 ⟨127, 0, 0, 1⟩ 1081) (.ip (.v4 ⟨0, 0, 0, 0⟩ 0)),
    .datagram 0 ⟨[0, 0, 0, 1, 8, 8, 8, 8, 0, 53, 0xCA, 0xFE], .v4 ⟨127, 0, 0, 1⟩ 50000, relayedDatagram_fits⟩ 7 (.ok ()),
    .session 0 (.controlRead (.ok 0)), .session 0 (.relay .cancelled (.ok ())), .session 0 .join]

/-- up to the session's end the associations are those of live sessions -/
theorem associations_live_before_end :
    AllStates (stepSystem ⟨fun _ => [], fun _ => none⟩) (AssociationsLive 1) (initSystem 1) (relayAndEnd.take 4) :=
  associations_live ⟨fun _ => [], fun _ => none⟩ 1 (by decide)

/-- **An association outlives its session.** With one slot, after the session ended: no session is live, one association
is open, and another session's first datagram is refused. -/
theorem association_outlives_session :
    let s := run (stepSystem ⟨fun _ => [], fun _ => none⟩) (initSystem 1) relayAndEnd
    s.liveSessions = 0 ∧ s.associations.associationCount = 1 ∧
      (ensureOutboundAssociation s.associations (.v4 ⟨127, 0, 0, 1⟩ 1082) (.v4 ⟨127, 0, 0, 1⟩ 50001) 9).1 =
        .error .associationLimitReached ∧
      ¬AllStates (stepSystem ⟨fun _ => [], fun _ => none⟩) (AssociationsLive 1) (initSystem 1) relayAndEnd := by
  intro s
  have hlive : s.liveSessions = 0 := by decide
  have hcount : s.associations.associationCount = 1 := by decide
  refine ⟨hlive, hcount, by decide, ?_⟩
  intro hall
  have hle : s.associations.associationCount ≤ s.liveSessions := hall.last.2.1
  rw [hlive, hcount] at hle
  exact absurd hle (by decide)

end N0wss.Socks5
