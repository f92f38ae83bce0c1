/-
What a rejected datagram leaves behind (`accept_outbound_datagram` in `session/datagram_manager.rs`). The association
comes first, then the envelope's contract, then the outbound target.

- `acceptOutboundDatagram_congr`: the outbound target is called with `outboundCalls` and with nothing else.
- `acceptOutboundDatagram_cases`: the three ways a call ends, each with the registry it leaves.
- `rejected_datagram_leaves`: without a free slot nothing changes; an envelope that breaks the contract leaves the
  association of its endpoints, opened or touched, and nothing else. Neither reaches the target.
- `rejected_datagram_opens`: a datagram without a target name opens an association.
-/
import N0wss.Session.DatagramManager

namespace N0wss.Session

open Datagram Net UdpAssociationRegistry

variable {reg reg' : UdpAssociationRegistry} {relayAddr expectedClientAddr : SocketAddr} {now : Instant}
  {target : DatagramTarget} {payload : List UInt8} {dispatch dispatch' : DatagramEnvelope → Except String Unit}

/-! ## Calls of the target -/

/-- what `accept_outbound_datagram` calls the outbound target with -/
def outboundCalls (reg : UdpAssociationRegistry) (relayAddr expectedClientAddr : SocketAddr) (target : DatagramTarget)
    (payload : List UInt8) (now : Instant) : List DatagramEnvelope :=
  match outboundEnvelope reg relayAddr expectedClientAddr target payload now with
  | (.error _, _) => []
  | (.ok envelope, reg) =>
    match reg.touchAssociation envelope.associationId now with
    | (.error _, _) => []
    | (.ok (), _) => [envelope]

/-- **Nothing else is passed on.** Two targets that answer these calls alike cannot be told apart. -/
theorem acceptOutboundDatagram_congr
    (h : ∀ envelope ∈ outboundCalls reg relayAddr expectedClientAddr target payload now,
      dispatch envelope = dispatch' envelope) :
    acceptOutboundDatagram dispatch reg relayAddr expectedClientAddr target payload now =
      acceptOutboundDatagram dispatch' reg relayAddr expectedClientAddr target payload now := by
  unfold outboundCalls at h
  unfold acceptOutboundDatagram forwardOutboundDatagram forwardDatagram
  cases henvelope : outboundEnvelope reg relayAddr expectedClientAddr target payload now with
  | mk outcome reg' =>
    cases outcome with
    | error err => rfl
    | ok envelope =>
      simp only [henvelope] at h ⊢
      cases htouch : reg'.touchAssociation envelope.associationId now with
      | mk touched reg'' =>
        cases touched with
        | error err => rfl
        | ok _ =>
          simp only [htouch] at h
          rw [h envelope (List.mem_singleton.2 rfl)]

/-! ## The association -/

/-- the association of these endpoints is touched, and nothing else happens -/
def Touched (relayAddr expectedClientAddr : SocketAddr) (now : Instant) (reg reg' : UdpAssociationRegistry) : Prop :=
  ∃ id record, reg.findByEndpoints relayAddr expectedClientAddr = some (id, record) ∧
    reg'.get id = some { record with lastActivity := now } ∧ (∀ id', id' ≠ id → reg'.get id' = reg.get id') ∧
    reg'.free = reg.free ∧ reg'.next = reg.next

/-- one association is opened for these endpoints, and nothing else happens; an entry it displaces frees its slot -/
def Opened (relayAddr expectedClientAddr : SocketAddr) (now : Instant) (reg reg' : UdpAssociationRegistry) : Prop :=
  reg.findByEndpoints relayAddr expectedClientAddr = none ∧ reg.free ≠ 0 ∧
    reg'.get reg.next = some ⟨relayAddr, expectedClientAddr, now⟩ ∧
    (∀ id', id' ≠ reg.next → reg'.get id' = reg.get id') ∧
    reg'.free = (if (reg.get reg.next).isSome then reg.free else reg.free - 1) ∧ reg'.next = reg.next + 1

theorem next_update (reg : UdpAssociationRegistry) (id : DatagramAssociationId)
    (f : UdpAssociationRecord → UdpAssociationRecord) : (reg.update id f).next = reg.next := by
  unfold SlotStore.update
  split <;> rfl

/-- the association is found or opened, or there is no slot for it -/
theorem ensureOutboundAssociation_leaves (reg : UdpAssociationRegistry) (relayAddr expectedClientAddr : SocketAddr)
    (now : Instant) :
    (∃ opened reg', ensureOutboundAssociation reg relayAddr expectedClientAddr now = (.ok opened, reg') ∧
      (Touched relayAddr expectedClientAddr now reg reg' ∨ Opened relayAddr expectedClientAddr now reg reg')) ∨
    ensureOutboundAssociation reg relayAddr expectedClientAddr now = (.error .associationLimitReached, reg) := by
  cases hfind : reg.findByEndpoints relayAddr expectedClientAddr with
  | some found =>
    obtain ⟨id, record⟩ := found
    have hget := (findByEndpoints_eq_some hfind).1
    have hensure : ensureOutboundAssociation reg relayAddr expectedClientAddr now =
        (.ok (id, { record with lastActivity := now }),
          reg.update id fun record => { record with lastActivity := now }) := by
      simp only [ensureOutboundAssociation, hfind, touchAssociation_of_get hget]
    refine Or.inl ⟨_, _, hensure, Or.inl ?_⟩
    refine ⟨id, record, hfind, ?_, ?_, SlotStore.free_update reg id _, next_update reg id _⟩
    · rw [SlotStore.get_update_self, hget]
      rfl
    · intro id' hne
      exact SlotStore.get_update_of_ne hne _
  | none =>
    simp only [ensureOutboundAssociation, hfind, openManagedAssociation]
    cases hopen : reg.openAssociation relayAddr expectedClientAddr now with
    | mk outcome reg' =>
      cases outcome with
      | error err =>
        obtain ⟨-, rfl⟩ := openAssociation_eq_error hopen
        exact Or.inr rfl
      | ok opened =>
        obtain ⟨hfree, -, hrecord, rfl⟩ := openAssociation_eq_ok hopen
        rw [hrecord]
        refine Or.inl ⟨_, _, rfl, Or.inr ⟨hfind, hfree, SlotStore.get_insert_self _ _, ?_, ?_, rfl⟩⟩
        · intro id' hne
          exact SlotStore.get_insert_of_ne hne _
        · cases htaken : reg.get reg.next with
          | none =>
            have hfresh : SlotStore.get { reg with free := reg.free - 1 } reg.next = none := htaken
            exact SlotStore.free_insert_of_fresh hfresh _
          | some displaced =>
            have hdisplaced : SlotStore.get { reg with free := reg.free - 1 } reg.next = some displaced := htaken
            exact (SlotStore.free_insert_of_taken hdisplaced _).trans (Nat.succ_pred_eq_of_ne_zero hfree)

/-! ## How a call ends -/

/-- a call ends at the association, at the contract, or with what the target says -/
theorem acceptOutboundDatagram_cases (dispatch : DatagramEnvelope → Except String Unit) (reg : UdpAssociationRegistry)
    (relayAddr expectedClientAddr : SocketAddr) (target : DatagramTarget) (payload : List UInt8) (now : Instant) :
    (acceptOutboundDatagram dispatch reg relayAddr expectedClientAddr target payload now =
        (.error .associationLimitReached, reg) ∧
      outboundCalls reg relayAddr expectedClientAddr target payload now = []) ∨
    (∃ err reg', acceptOutboundDatagram dispatch reg relayAddr expectedClientAddr target payload now =
        (.error (.contractViolation err), reg') ∧
      outboundCalls reg relayAddr expectedClientAddr target payload now = [] ∧
      (Touched relayAddr expectedClientAddr now reg reg' ∨ Opened relayAddr expectedClientAddr now reg reg')) ∨
    (∃ envelope reg', outboundCalls reg relayAddr expectedClientAddr target payload now = [envelope] ∧
      acceptOutboundDatagram dispatch reg relayAddr expectedClientAddr target payload now =
        (((dispatch envelope).mapError DatagramSessionError.dispatchFailed).map fun _ => envelope, reg')) := by
  rcases ensureOutboundAssociation_leaves reg relayAddr expectedClientAddr now with
    ⟨⟨id, record⟩, reg', hensure, hleaves⟩ | hensure
  · have hget := (ensureOutboundAssociation_eq_ok hensure).1
    cases hvalid : (DatagramEnvelope.mk id expectedClientAddr target payload).validate with
    | error err =>
      refine Or.inr (Or.inl ⟨err, reg', ?_, ?_, hleaves⟩)
      · simp only [acceptOutboundDatagram, outboundEnvelope, hensure, hvalid]
      · simp only [outboundCalls, outboundEnvelope, hensure, hvalid]
    | ok _ =>
      refine Or.inr (Or.inr ⟨⟨id, expectedClientAddr, target, payload⟩,
        reg'.update id fun record => { record with lastActivity := now }, ?_, ?_⟩)
      · simp only [outboundCalls, outboundEnvelope, hensure, hvalid, touchAssociation_of_get hget]
      · simp only [acceptOutboundDatagram, outboundEnvelope, hensure, hvalid, forwardOutboundDatagram,
          forwardDatagram, touchAssociation_of_get hget]
        cases dispatch ⟨id, expectedClientAddr, target, payload⟩ <;> rfl
  · refine Or.inl ⟨?_, ?_⟩
    · simp only [acceptOutboundDatagram, outboundEnvelope, hensure]
    · simp only [outboundCalls, outboundEnvelope, hensure]

/-- **A rejected datagram** does not reach the target. Without a free slot it leaves no trace; if its envelope breaks the
contract it leaves the association of its endpoints, opened or touched, and no other trace. -/
theorem rejected_datagram_leaves (dispatch : DatagramEnvelope → Except String Unit) (reg : UdpAssociationRegistry)
    (relayAddr expectedClientAddr : SocketAddr) (target : DatagramTarget) (payload : List UInt8) (now : Instant)
    {err : DatagramSessionError} {reg' : UdpAssociationRegistry}
    (h : acceptOutboundDatagram dispatch reg relayAddr expectedClientAddr target payload now = (.error err, reg')) :
    (err = .associationLimitReached →
      reg' = reg ∧ outboundCalls reg relayAddr expectedClientAddr target payload now = []) ∧
    (∀ broken, err = .contractViolation broken →
      outboundCalls reg relayAddr expectedClientAddr target payload now = [] ∧
      (Touched relayAddr expectedClientAddr now reg reg' ∨ Opened relayAddr expectedClientAddr now reg reg')) := by
  rcases acceptOutboundDatagram_cases dispatch reg relayAddr expectedClientAddr target payload now with
    ⟨haccept, hcalls⟩ | ⟨broken, reg'', haccept, hcalls, hleaves⟩ | ⟨envelope, reg'', -, haccept⟩
  · obtain ⟨herr, rfl⟩ := Prod.mk.inj (haccept.symm.trans h)
    obtain rfl := Except.error.inj herr
    exact ⟨fun _ => ⟨rfl, hcalls⟩, nofun⟩
  · obtain ⟨herr, rfl⟩ := Prod.mk.inj (haccept.symm.trans h)
    obtain rfl := Except.error.inj herr
    exact ⟨nofun, fun _ _ => ⟨hcalls, hleaves⟩⟩
  · obtain ⟨herr, -⟩ := Prod.mk.inj (haccept.symm.trans h)
    cases hdispatch : dispatch envelope with
    | error detail =>
      rw [hdispatch] at herr
      obtain rfl := Except.error.inj herr
      exact ⟨nofun, nofun⟩
    | ok _ =>
      rw [hdispatch] at herr
      cases herr

/-! ## What is left -/

def localRelay : SocketAddr := .v4 ⟨127, 0, 0, 1⟩ 40000

def localClient : SocketAddr := .v4 ⟨127, 0, 0, 1⟩ 50000

def otherClient : SocketAddr := .v4 ⟨127, 0, 0, 1⟩ 50001

/-- the one slot is taken by the association of `localClient` -/
def takenRegistry : UdpAssociationRegistry := (ensureOutboundAssociation (SlotStore.new 1) localRelay localClient 3).2

/-- another client's datagram leaves it as it is; one without a name for its target touches its own association -/
theorem rejected_datagrams_taken :
    ((acceptOutboundDatagram (fun _ => .ok ()) takenRegistry localRelay otherClient (.domain "example.org" 53) [1, 2] 7).2 =
        takenRegistry ∧
      outboundCalls takenRegistry localRelay otherClient (.domain "example.org" 53) [1, 2] 7 = []) ∧
    outboundCalls takenRegistry localRelay localClient (.domain "" 53) [1, 2] 7 = [] ∧
      Touched localRelay localClient 7 takenRegistry
        (acceptOutboundDatagram (fun _ => .ok ()) takenRegistry localRelay localClient (.domain "" 53) [1, 2] 7).2 := by
  have hother := rejected_datagram_leaves (fun _ => .ok ()) takenRegistry localRelay otherClient (.domain "example.org" 53)
    [1, 2] 7 rfl
  have hown := rejected_datagram_leaves (fun _ => .ok ()) takenRegistry localRelay localClient (.domain "" 53) [1, 2] 7 rfl
  obtain ⟨hcalls, htouched | hopened⟩ := hown.2 .emptyDomainTarget rfl
  · exact ⟨hother.1 rfl, hcalls, htouched⟩
  · exact absurd hopened.1 (by decide)

/-- **A rejected datagram opens an association:** its target has no name, and a slot and an id are gone. -/
theorem rejected_datagram_opens : ¬ ∀ (dispatch : DatagramEnvelope → Except String Unit) (reg : UdpAssociationRegistry)
    (relayAddr expectedClientAddr : SocketAddr) (target : DatagramTarget) (payload : List UInt8) (now : Instant)
    (broken : DatagramError) (reg' : UdpAssociationRegistry),
    acceptOutboundDatagram dispatch reg relayAddr expectedClientAddr target payload now =
      (.error (.contractViolation broken), reg') →
    reg'.next = reg.next ∧ reg'.free = reg.free ∧ ∀ id, reg'.get id = reg.get id := by
  intro h
  have hsame := h (fun _ => .ok ()) (SlotStore.new 8) localRelay localClient (.domain "" 53) [] 7 .emptyDomainTarget _ rfl
  exact absurd hsame.1 (by decide)

end N0wss.Session
