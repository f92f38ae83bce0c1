/-
The datagram session manager (`session/datagram_manager.rs`): one call per datagram that a relay loop hands over. It
finds or opens the association of the two endpoints, builds the envelope, and passes it to the outbound target.

The outbound target is an input: what it returns for the envelope it is given. Calls do not overlap here.

- `ensureOutboundAssociation_eq_ok`: afterwards the registry has an association with these endpoints under the id returned.
- `outboundEnvelope_eq_ok`: the envelope that is passed on, and what the registry knows about it.
- `Owned`: associations belong to somebody, one for each pair of endpoints. `owned_forwardRuntimeDatagram`: a call keeps
  it so, whatever its outcome.
-/
import N0wss.Session.UdpRegistry
import N0wss.Socks5.UdpAssociate

namespace N0wss.Session

open Datagram Net Socks5 UdpAssociationRegistry

inductive DatagramSessionError where
  | associationLimitReached
  | associationNotFound (associationId : DatagramAssociationId)
  | contractViolation (err : DatagramError)
  | dispatchFailed (detail : String)
deriving DecidableEq, Repr

def mapNotFound : UdpAssociationNotFound → DatagramSessionError
  | .missing associationId => .associationNotFound associationId

/-! ## Outbound -/

def openManagedAssociation (reg : UdpAssociationRegistry) (relayAddr expectedClientAddr : SocketAddr) (now : Instant) :
    Except DatagramSessionError (DatagramAssociationId × UdpAssociationRecord) × UdpAssociationRegistry :=
  match reg.openAssociation relayAddr expectedClientAddr now with
  | (.error .atCapacity, reg) => (.error .associationLimitReached, reg)
  | (.ok opened, reg) => (.ok opened, reg)

def ensureOutboundAssociation (reg : UdpAssociationRegistry) (relayAddr expectedClientAddr : SocketAddr)
    (now : Instant) :
    Except DatagramSessionError (DatagramAssociationId × UdpAssociationRecord) × UdpAssociationRegistry :=
  match reg.findByEndpoints relayAddr expectedClientAddr with
  | some (associationId, record) =>
    match reg.touchAssociation associationId now with
    | (.error err, reg) => (.error (mapNotFound err), reg)
    | (.ok (), reg) => (.ok (associationId, { record with lastActivity := now }), reg)
  | none => openManagedAssociation reg relayAddr expectedClientAddr now

/-- `accept_outbound_datagram` up to its dispatch -/
def outboundEnvelope (reg : UdpAssociationRegistry) (relayAddr expectedClientAddr : SocketAddr)
    (target : DatagramTarget) (payload : List UInt8) (now : Instant) :
    Except DatagramSessionError DatagramEnvelope × UdpAssociationRegistry :=
  match ensureOutboundAssociation reg relayAddr expectedClientAddr now with
  | (.error err, reg) => (.error err, reg)
  | (.ok (associationId, _), reg) =>
    let envelope : DatagramEnvelope := ⟨associationId, expectedClientAddr, target, payload⟩
    match envelope.validate with
    | .error err => (.error (.contractViolation err), reg)
    | .ok () => (.ok envelope, reg)

/-- touches the datagram's association and hands it to one of the manager's targets -/
def forwardDatagram (dispatch : DatagramEnvelope → Except String Unit) (reg : UdpAssociationRegistry)
    (envelope : DatagramEnvelope) (now : Instant) : Except DatagramSessionError Unit × UdpAssociationRegistry :=
  match reg.touchAssociation envelope.associationId now with
  | (.error err, reg) => (.error (mapNotFound err), reg)
  | (.ok (), reg) =>
    match dispatch envelope with
    | .error detail => (.error (.dispatchFailed detail), reg)
    | .ok () => (.ok (), reg)

def forwardOutboundDatagram (outboundTarget : DatagramEnvelope → Except String Unit) (reg : UdpAssociationRegistry)
    (envelope : DatagramEnvelope) (now : Instant) : Except DatagramSessionError Unit × UdpAssociationRegistry :=
  forwardDatagram outboundTarget reg envelope now

def forwardInboundDatagram (inboundTarget : DatagramEnvelope → Except String Unit) (reg : UdpAssociationRegistry)
    (envelope : DatagramEnvelope) (now : Instant) : Except DatagramSessionError Unit × UdpAssociationRegistry :=
  forwardDatagram inboundTarget reg envelope now

def acceptOutboundDatagram (dispatch : DatagramEnvelope → Except String Unit) (reg : UdpAssociationRegistry)
    (relayAddr expectedClientAddr : SocketAddr) (target : DatagramTarget) (payload : List UInt8) (now : Instant) :
    Except DatagramSessionError DatagramEnvelope × UdpAssociationRegistry :=
  match outboundEnvelope reg relayAddr expectedClientAddr target payload now with
  | (.error err, reg) => (.error err, reg)
  | (.ok envelope, reg) =>
    match forwardOutboundDatagram dispatch reg envelope now with
    | (.error err, reg) => (.error err, reg)
    | (.ok (), reg) => (.ok envelope, reg)

def mapRuntimeBridgeError : DatagramSessionError → UdpAssociateError
  | .contractViolation inner => .datagramContract inner
  | .associationLimitReached => .io "udp association limit reached"
  | .associationNotFound associationId => .io ("udp association not found: " ++ toString associationId)
  | .dispatchFailed message => .io message

/-- `DatagramRuntimeBridge::forward_runtime_datagram` -/
def forwardRuntimeDatagram (dispatch : DatagramEnvelope → Except String Unit) (reg : UdpAssociationRegistry)
    (relayAddr expectedClientAddr : SocketAddr) (target : DatagramTarget) (payload : List UInt8) (now : Instant) :
    Except UdpAssociateError Unit × UdpAssociationRegistry :=
  match acceptOutboundDatagram dispatch reg relayAddr expectedClientAddr target payload now with
  | (.error err, reg) => (.error (mapRuntimeBridgeError err), reg)
  | (.ok _, reg) => (.ok (), reg)

/-! ## What a call leaves in the registry -/

variable {reg reg' : UdpAssociationRegistry} {relayAddr expectedClientAddr : SocketAddr} {now : Instant}
  {id : DatagramAssociationId} {record : UdpAssociationRecord}

theorem openManagedAssociation_eq_ok
    (h : openManagedAssociation reg relayAddr expectedClientAddr now = (.ok (id, record), reg')) :
    reg.openAssociation relayAddr expectedClientAddr now = (.ok (id, record), reg') := by
  unfold openManagedAssociation at h
  split at h
  · cases h
  · rename_i opened reg'' hopen
    cases h
    exact hopen

/-- **An association is there.** Found or opened, it has the endpoints that were asked for. -/
theorem ensureOutboundAssociation_eq_ok
    (h : ensureOutboundAssociation reg relayAddr expectedClientAddr now = (.ok (id, record), reg')) :
    reg'.get id = some record ∧ HasEndpoints relayAddr expectedClientAddr record := by
  unfold ensureOutboundAssociation at h
  cases hfind : reg.findByEndpoints relayAddr expectedClientAddr with
  | some found =>
    obtain ⟨associationId, old⟩ := found
    obtain ⟨hget, hrelay, hclient⟩ := findByEndpoints_eq_some hfind
    simp only [hfind, touchAssociation_of_get hget, Prod.mk.injEq, Except.ok.injEq] at h
    obtain ⟨⟨rfl, rfl⟩, rfl⟩ := h
    refine ⟨?_, hrelay, hclient⟩
    rw [SlotStore.get_update_self, hget, Option.map_some]
  | none =>
    simp only [hfind] at h
    obtain ⟨-, rfl, rfl, rfl⟩ := openAssociation_eq_ok (openManagedAssociation_eq_ok h)
    exact ⟨SlotStore.get_insert_self _ _, rfl, rfl⟩

/-- the envelope that is passed on: its association has the endpoints, and the rest is as it came -/
theorem outboundEnvelope_eq_ok {target : DatagramTarget} {payload : List UInt8} {envelope : DatagramEnvelope}
    (h : outboundEnvelope reg relayAddr expectedClientAddr target payload now = (.ok envelope, reg')) :
    envelope.relayClientAddr = expectedClientAddr ∧ envelope.target = target ∧ envelope.payload = payload ∧
      ∃ record, reg'.get envelope.associationId = some record ∧ HasEndpoints relayAddr expectedClientAddr record := by
  unfold outboundEnvelope at h
  split at h
  · cases h
  · rename_i associationId record reg'' hensure
    simp only at h
    split at h
    · cases h
    · cases h
      exact ⟨rfl, rfl, rfl, record, ensureOutboundAssociation_eq_ok hensure⟩

/-! ## Who the associations belong to -/

/-- what a call does to find or open its association -/
theorem ensureOutboundAssociation_cases (reg : UdpAssociationRegistry) (relayAddr expectedClientAddr : SocketAddr)
    (now : Instant) :
    (∃ id opened, (ensureOutboundAssociation reg relayAddr expectedClientAddr now) =
        (.ok opened, (reg.touchAssociation id now).2)) ∨
      (reg.findByEndpoints relayAddr expectedClientAddr = none ∧ reg.free ≠ 0 ∧
        ∃ opened, (ensureOutboundAssociation reg relayAddr expectedClientAddr now) =
          (.ok opened, (SlotStore.insert { reg with free := reg.free - 1 } ⟨relayAddr, expectedClientAddr, now⟩).2)) ∨
      (reg.free = 0 ∧
        ensureOutboundAssociation reg relayAddr expectedClientAddr now = (.error .associationLimitReached, reg)) := by
  unfold ensureOutboundAssociation
  cases hfind : reg.findByEndpoints relayAddr expectedClientAddr with
  | some found =>
    obtain ⟨associationId, old⟩ := found
    have hget := (findByEndpoints_eq_some hfind).1
    refine Or.inl ⟨associationId, (associationId, { old with lastActivity := now }), ?_⟩
    simp only [touchAssociation_of_get hget]
  | none =>
    refine Or.inr ?_
    simp only [openManagedAssociation]
    cases hopen : reg.openAssociation relayAddr expectedClientAddr now with
    | mk outcome reg' =>
      cases outcome with
      | error err =>
        obtain ⟨hfree, rfl⟩ := openAssociation_eq_error hopen
        exact Or.inr ⟨hfree, rfl⟩
      | ok opened =>
        obtain ⟨hfree, -, hrecord, hreg⟩ := openAssociation_eq_ok hopen
        exact Or.inl ⟨trivial, hfree, opened, by rw [hreg, hrecord]⟩

/-- every association's endpoints are somebody's, no two associations have the same, and every slot is accounted for -/
structure Owned (owner : SocketAddr → SocketAddr → Prop) (slots : ℕ) (reg : UdpAssociationRegistry) : Prop where
  owned : ∀ id record, reg.get id = some record → owner record.relayAddr record.expectedClientAddr
  distinct : ∀ id id' record record', reg.get id = some record → reg.get id' = some record' →
    HasEndpoints record.relayAddr record.expectedClientAddr record' → id' = id
  conserved : SlotStore.Conserved slots reg

variable {owner owner' : SocketAddr → SocketAddr → Prop} {slots : ℕ}

theorem Owned.imp (h : Owned owner slots reg) (himp : ∀ relay client, owner relay client → owner' relay client) :
    Owned owner' slots reg := { h with owned := fun id record hget => himp _ _ (h.owned id record hget) }

theorem owned_new (owner : SocketAddr → SocketAddr → Prop) (slots : ℕ) : Owned owner slots (SlotStore.new slots) where
  owned id record hget := by rw [SlotStore.get_new] at hget; cases hget
  distinct id id' record record' hget := by rw [SlotStore.get_new] at hget; cases hget
  conserved := SlotStore.conserved_new slots

theorem owned_touchAssociation (h : Owned owner slots reg) (touched : DatagramAssociationId) (now : Instant) :
    Owned owner slots (reg.touchAssociation touched now).2 where
  owned id record hget := by
    obtain ⟨old, hold, hrelay, hclient⟩ := get_touchAssociation hget
    exact hrelay ▸ hclient ▸ h.owned id old hold
  distinct id id' record record' hget hget' hsame := by
    obtain ⟨old, hold, hrelay, hclient⟩ := get_touchAssociation hget
    obtain ⟨old', hold', hrelay', hclient'⟩ := get_touchAssociation hget'
    refine h.distinct id id' old old' hold hold' ⟨?_, ?_⟩
    · rw [hrelay', hsame.1, hrelay]
    · rw [hclient', hsame.2, hclient]
  conserved := by
    unfold touchAssociation
    split
    · exact h.conserved
    · exact SlotStore.conserved_update h.conserved touched _

/-- an association for endpoints that have none yet -/
theorem owned_insert (h : Owned owner slots reg) (hfind : reg.findByEndpoints relayAddr expectedClientAddr = none)
    (hfree : reg.free ≠ 0) (howner : owner relayAddr expectedClientAddr) (now : Instant) :
    Owned owner slots (SlotStore.insert { reg with free := reg.free - 1 } ⟨relayAddr, expectedClientAddr, now⟩).2 := by
  set record : UdpAssociationRecord := ⟨relayAddr, expectedClientAddr, now⟩
  set reserved : UdpAssociationRegistry := { reg with free := reg.free - 1 }
  have hnew : (reserved.insert record).2.get reserved.next = some record := SlotStore.get_insert_self reserved record
  have hold : ∀ id, id ≠ reserved.next → (reserved.insert record).2.get id = reg.get id := fun id hne =>
    SlotStore.get_insert_of_ne hne record
  refine ⟨?_, ?_, SlotStore.conserved_insert h.conserved hfree record⟩
  · intro id r hget
    by_cases hid : id = reserved.next
    · obtain rfl : record = r := Option.some.inj (by rw [← hnew, ← hid, hget])
      exact howner
    · exact h.owned id r (by rw [← hold id hid, hget])
  · intro id id' r r' hget hget' hsame
    by_cases hid : id = reserved.next <;> by_cases hid' : id' = reserved.next
    · rw [hid, hid']
    · -- an older association with the new one's endpoints would have been found
      obtain rfl : record = r := Option.some.inj (by rw [← hnew, ← hid, hget])
      exact absurd hsame (findByEndpoints_eq_none hfind (by rw [← hold id' hid', hget']))
    · obtain rfl : record = r' := Option.some.inj (by rw [← hnew, ← hid', hget'])
      exact absurd ⟨hsame.1.symm, hsame.2.symm⟩ (findByEndpoints_eq_none hfind (by rw [← hold id hid, hget]))
    · exact h.distinct id id' r r' (by rw [← hold id hid, hget]) (by rw [← hold id' hid', hget']) hsame

theorem owned_ensureOutboundAssociation (h : Owned owner slots reg)
    (howner : (ensureOutboundAssociation reg relayAddr expectedClientAddr now).1.isOk = true →
      owner relayAddr expectedClientAddr) :
    Owned owner slots (ensureOutboundAssociation reg relayAddr expectedClientAddr now).2 := by
  rcases ensureOutboundAssociation_cases reg relayAddr expectedClientAddr now with
    ⟨id, opened, hensure⟩ | ⟨hfind, hfree, opened, hensure⟩ | ⟨-, hensure⟩
  · rw [hensure]; exact owned_touchAssociation h id now
  · rw [hensure] at howner ⊢
    exact owned_insert h hfind hfree (howner rfl) now
  · rw [hensure]; exact h

/-- **A call keeps the registry owned.** Its association, if it got one, has to be somebody's. -/
theorem owned_forwardRuntimeDatagram (h : Owned owner slots reg) (dispatch : DatagramEnvelope → Except String Unit)
    (target : DatagramTarget) (payload : List UInt8)
    (howner : (ensureOutboundAssociation reg relayAddr expectedClientAddr now).1.isOk = true →
      owner relayAddr expectedClientAddr) :
    Owned owner slots (forwardRuntimeDatagram dispatch reg relayAddr expectedClientAddr target payload now).2 := by
  have hensured := owned_ensureOutboundAssociation h howner
  have henvelope : Owned owner slots (outboundEnvelope reg relayAddr expectedClientAddr target payload now).2 := by
    unfold outboundEnvelope
    split
    · rename_i hensure; rw [hensure] at hensured; exact hensured
    · rename_i hensure
      rw [hensure] at hensured
      simp only
      split <;> exact hensured
  have htouched : ∀ reg' envelope, Owned owner slots reg' →
      Owned owner slots (forwardOutboundDatagram dispatch reg' envelope now).2 := fun reg' envelope hreg' => by
    have htouch := owned_touchAssociation hreg' envelope.associationId now
    unfold forwardOutboundDatagram forwardDatagram
    split
    · rename_i hres; rw [hres] at htouch; exact htouch
    · rename_i hres
      rw [hres] at htouch
      split <;> exact htouch
  unfold forwardRuntimeDatagram acceptOutboundDatagram
  cases hsend : outboundEnvelope reg relayAddr expectedClientAddr target payload now with
  | mk sent reg' =>
    rw [hsend] at henvelope
    cases sent with
    | error err => exact henvelope
    | ok envelope =>
      have hforwarded := htouched reg' envelope henvelope
      simp only
      cases hforward : forwardOutboundDatagram dispatch reg' envelope now with
      | mk outcome reg'' =>
        rw [hforward] at hforwarded
        cases outcome <;> exact hforwarded

/-- a call that succeeds got an association -/
theorem ensured_of_forwardRuntimeDatagram {dispatch : DatagramEnvelope → Except String Unit} {target : DatagramTarget}
    {payload : List UInt8} {u : Unit}
    (h : (forwardRuntimeDatagram dispatch reg relayAddr expectedClientAddr target payload now).1 = .ok u) :
    (ensureOutboundAssociation reg relayAddr expectedClientAddr now).1.isOk = true := by
  cases hensure : ensureOutboundAssociation reg relayAddr expectedClientAddr now with
  | mk outcome reg' =>
    cases outcome with
    | ok opened => rfl
    | error err =>
      simp only [forwardRuntimeDatagram, acceptOutboundDatagram, outboundEnvelope, hensure] at h
      cases h

/-- a call whose envelope is passed on successfully -/
theorem forwardRuntimeDatagram_of_dispatched {dispatch : DatagramEnvelope → Except String Unit} {target : DatagramTarget}
    {payload : List UInt8} {envelope : DatagramEnvelope}
    (hsend : outboundEnvelope reg relayAddr expectedClientAddr target payload now = (.ok envelope, reg'))
    (hdispatch : dispatch envelope = .ok ()) :
    (forwardRuntimeDatagram dispatch reg relayAddr expectedClientAddr target payload now).1 = .ok () := by
  obtain ⟨-, -, -, record, hget, -⟩ := outboundEnvelope_eq_ok hsend
  simp only [forwardRuntimeDatagram, acceptOutboundDatagram, hsend, forwardOutboundDatagram, forwardDatagram,
    touchAssociation_of_get hget, hdispatch]

end N0wss.Session
