/-
The registry of UDP associations (`session/udp_registry.rs`): one slot an association, from the first datagram of a client
until somebody closes it or it is reaped as idle.

- `openAssociation_eq_ok`, `findByEndpoints_eq_some`: what an opened and a found association tell.
- `endpoints_of_get`: an operation that does not draw an association's id leaves its endpoints as they are, as long as it
  leaves the association there at all.
-/
import N0wss.Core.Machine
import N0wss.Core.SlotStore
import N0wss.Datagram.Contract
import N0wss.Session.State

namespace N0wss.Session

open Datagram Machine Net

structure UdpAssociationRecord where
  relayAddr : SocketAddr
  expectedClientAddr : SocketAddr
  lastActivity : Instant
deriving DecidableEq, Repr

inductive UdpAssociationLimitReached where
  | atCapacity
deriving DecidableEq, Repr

inductive UdpAssociationNotFound where
  | missing (associationId : DatagramAssociationId)
deriving DecidableEq, Repr

abbrev UdpAssociationRegistry := SlotStore UdpAssociationRecord

namespace UdpAssociationRegistry

/-! ## Operations -/

def associationCount (reg : UdpAssociationRegistry) : ℕ := reg.count

def availableSlots (reg : UdpAssociationRegistry) : ℕ := reg.free

def openAssociation (reg : UdpAssociationRegistry) (relayAddr expectedClientAddr : SocketAddr) (now : Instant) :
    Except UdpAssociationLimitReached (DatagramAssociationId × UdpAssociationRecord) × UdpAssociationRegistry :=
  match reg.tryReserve with
  | none => (.error .atCapacity, reg)
  | some reserved =>
    let record : UdpAssociationRecord := ⟨relayAddr, expectedClientAddr, now⟩
    (.ok ((reserved.insert record).1, record), (reserved.insert record).2)

/-- the endpoints of a record -/
def HasEndpoints (relayAddr expectedClientAddr : SocketAddr) (record : UdpAssociationRecord) : Prop :=
  record.relayAddr = relayAddr ∧ record.expectedClientAddr = expectedClientAddr

instance (relayAddr expectedClientAddr : SocketAddr) (record : UdpAssociationRecord) :
    Decidable (HasEndpoints relayAddr expectedClientAddr record) := inferInstanceAs (Decidable (_ ∧ _))

def findByEndpoints (reg : UdpAssociationRegistry) (relayAddr expectedClientAddr : SocketAddr) :
    Option (DatagramAssociationId × UdpAssociationRecord) :=
  reg.find fun record => decide (HasEndpoints relayAddr expectedClientAddr record)

def touchAssociation (reg : UdpAssociationRegistry) (associationId : DatagramAssociationId) (now : Instant) :
    Except UdpAssociationNotFound Unit × UdpAssociationRegistry :=
  match reg.get associationId with
  | none => (.error (.missing associationId), reg)
  | some _ => (.ok (), reg.update associationId fun record => { record with lastActivity := now })

def closeAssociation (reg : UdpAssociationRegistry) (associationId : DatagramAssociationId) :
    Except UdpAssociationNotFound UdpAssociationRecord × UdpAssociationRegistry :=
  match reg.get associationId with
  | none => (.error (.missing associationId), reg)
  | some record => (.ok record, (reg.remove associationId).2)

def reapIdle (reg : UdpAssociationRegistry) (maxIdle : Duration) (now : Instant) :
    List DatagramAssociationId × UdpAssociationRegistry :=
  reg.retain fun _ record => decide (now - record.lastActivity ≤ maxIdle)

/-! ## What they do to an association -/

variable {reg reg' : UdpAssociationRegistry} {relayAddr expectedClientAddr : SocketAddr} {now : Instant}
  {id : DatagramAssociationId} {record : UdpAssociationRecord}

theorem openAssociation_eq_ok (h : reg.openAssociation relayAddr expectedClientAddr now = (.ok (id, record), reg')) :
    reg.free ≠ 0 ∧ id = reg.next ∧ record = ⟨relayAddr, expectedClientAddr, now⟩ ∧
      reg' = (SlotStore.insert { reg with free := reg.free - 1 } record).2 := by
  unfold openAssociation at h
  split at h
  · cases h
  · rename_i reserved hreserved
    obtain ⟨hfree, rfl⟩ := SlotStore.tryReserve_eq_some.1 hreserved
    cases h
    exact ⟨hfree, rfl, rfl, rfl⟩

theorem openAssociation_eq_error {err : UdpAssociationLimitReached}
    (h : reg.openAssociation relayAddr expectedClientAddr now = (.error err, reg')) : reg.free = 0 ∧ reg' = reg := by
  unfold openAssociation at h
  split at h
  · rename_i hnone
    cases h
    exact ⟨SlotStore.tryReserve_eq_none.1 hnone, rfl⟩
  · cases h

theorem findByEndpoints_eq_some (h : reg.findByEndpoints relayAddr expectedClientAddr = some (id, record)) :
    reg.get id = some record ∧ HasEndpoints relayAddr expectedClientAddr record := by
  obtain ⟨hget, hends⟩ := SlotStore.get_of_find h
  exact ⟨hget, of_decide_eq_true hends⟩

theorem findByEndpoints_eq_none (h : reg.findByEndpoints relayAddr expectedClientAddr = none)
    (hget : reg.get id = some record) : ¬HasEndpoints relayAddr expectedClientAddr record :=
  of_decide_eq_false (SlotStore.not_of_find_eq_none h hget)

theorem touchAssociation_of_get (hget : reg.get id = some record) :
    reg.touchAssociation id now = (.ok (), reg.update id fun record => { record with lastActivity := now }) := by
  simp only [touchAssociation, hget]

/-- a touched association keeps its endpoints, and so does every other -/
theorem get_touchAssociation {id' : DatagramAssociationId} {record' : UdpAssociationRecord}
    (hget : (reg.touchAssociation id now).2.get id' = some record') :
    ∃ record, reg.get id' = some record ∧ HasEndpoints record'.relayAddr record'.expectedClientAddr record := by
  cases hold : reg.get id with
  | none =>
    simp only [touchAssociation, hold] at hget
    exact ⟨record', hget, rfl, rfl⟩
  | some record =>
    rw [touchAssociation_of_get hold] at hget
    by_cases hid : id' = id
    · subst hid
      rw [SlotStore.get_update_self, hold] at hget
      obtain rfl := Option.some.inj hget
      exact ⟨record, hold, rfl, rfl⟩
    · rw [SlotStore.get_update_of_ne hid] at hget
      exact ⟨record', hget, rfl, rfl⟩

/-! ## Runs of operations -/

inductive RegistryOp where
  | openAssociation (relayAddr expectedClientAddr : SocketAddr) (now : Instant)
  | touchAssociation (associationId : DatagramAssociationId) (now : Instant)
  | closeAssociation (associationId : DatagramAssociationId)
  | reapIdle (maxIdle : Duration) (now : Instant)
deriving DecidableEq, Repr

def step (reg : UdpAssociationRegistry) : RegistryOp → UdpAssociationRegistry
  | .openAssociation relayAddr expectedClientAddr now => (reg.openAssociation relayAddr expectedClientAddr now).2
  | .touchAssociation associationId now => (reg.touchAssociation associationId now).2
  | .closeAssociation associationId => (reg.closeAssociation associationId).2
  | .reapIdle maxIdle now => (reg.reapIdle maxIdle now).2

/-- the step opens no association under this id; the ids of a counter come round after 2^64 of them -/
def NotDrawn (id : DatagramAssociationId) (reg : UdpAssociationRegistry) : RegistryOp → Prop
  | .openAssociation _ _ _ => reg.next ≠ id
  | _ => True

/-- under this id there is an association with these endpoints, or none -/
def Belongs (id : DatagramAssociationId) (relayAddr expectedClientAddr : SocketAddr) (reg : UdpAssociationRegistry) :
    Prop :=
  ∀ record, reg.get id = some record → HasEndpoints relayAddr expectedClientAddr record

theorem belongs_step (h : Belongs id relayAddr expectedClientAddr reg) {op : RegistryOp} (hop : NotDrawn id reg op) :
    Belongs id relayAddr expectedClientAddr (step reg op) := by
  intro record hget
  cases op with
  | openAssociation relay client now =>
    cases hopen : reg.openAssociation relay client now with
    | mk outcome reg' =>
      simp only [step, hopen] at hget
      cases outcome with
      | error err => exact h record (by rwa [(openAssociation_eq_error hopen).2] at hget)
      | ok opened =>
        obtain ⟨-, -, -, rfl⟩ := openAssociation_eq_ok hopen
        have hne : id ≠ SlotStore.next { reg with free := reg.free - 1 } := fun hid => hop hid.symm
        rw [SlotStore.get_insert_of_ne hne] at hget
        exact h record hget
  | touchAssociation touched now =>
    obtain ⟨old, hold, hends⟩ := get_touchAssociation hget
    obtain ⟨hrelay, hclient⟩ := h old hold
    exact ⟨hends.1.symm.trans hrelay, hends.2.symm.trans hclient⟩
  | closeAssociation closed =>
    simp only [step, closeAssociation] at hget
    cases hclosed : reg.get closed with
    | none => rw [hclosed] at hget; exact h record hget
    | some old =>
      rw [hclosed] at hget
      by_cases hid : id = closed
      · subst hid
        rw [SlotStore.get_remove_self] at hget
        cases hget
      · rw [SlotStore.get_remove_of_ne hid] at hget
        exact h record hget
  | reapIdle maxIdle now => exact h record (SlotStore.get_of_get_retain hget)

/-- **An association that stays keeps its endpoints.** Whatever is opened, touched, closed or reaped in between. -/
theorem endpoints_of_get (h : Belongs id relayAddr expectedClientAddr reg) {ops : List RegistryOp}
    (hops : AllSteps step (NotDrawn id) reg ops) (hget : (run step reg ops).get id = some record) :
    HasEndpoints relayAddr expectedClientAddr record := by
  have hstep : ∀ reg op, Belongs id relayAddr expectedClientAddr reg → NotDrawn id reg op →
      Belongs id relayAddr expectedClientAddr (step reg op) := fun _ _ hs ho => belongs_step hs ho
  exact run_inv_of_allSteps hstep h hops record hget

end UdpAssociationRegistry

end N0wss.Session
