/-
Who owns an endpoint pair when calls overlap (`session/datagram_manager.rs`, `session/udp_registry.rs`):
`ensure_outbound_association` and `accept_outbound_datagram` calls, closing and reaping, interleaved at every section of the
registry. Looking up, touching, taking a permit, drawing an id and filing are sections of their own, and nothing holds the
registry in between.

- `exclusive_step_iff`: what one step has to find for the property to stay.
- `one_owner_iff`: no two associations share their endpoints, and calls return what they are asked for, in every state of
  a run if and only if every touch finds the association its lookup found and every filing finds nobody else there.
- `two_owners`: two calls that look up before either files leave two associations.
-/
import N0wss.Core.SharedStore
import N0wss.Session.DatagramManager

namespace N0wss.Session.Ownership

open Datagram Machine Net UdpAssociationRegistry

/-! ## The calls -/

/-- where a call stands -/
inductive Pc where
  | lookUp
  /-- the lookup found this association; before its touch -/
  | touch (associationId : DatagramAssociationId) (record : UdpAssociationRecord)
  /-- the lookup found none; before the permit -/
  | reserve
  /-- a permit in hand; before the id -/
  | draw
  /-- a permit in hand and an id; before the map -/
  | file (associationId : DatagramAssociationId)
  /-- `ensure_outbound_association` has returned; `held` is what was filed under the id it returned -/
  | returned (result : Except DatagramSessionError (DatagramAssociationId × UdpAssociationRecord))
      (held : Option UdpAssociationRecord)
  /-- the envelope is valid; before the touch of `forward_outbound_datagram` -/
  | forward (envelope : DatagramEnvelope)
  /-- waiting for the outbound target -/
  | dispatch (envelope : DatagramEnvelope)
  | accepted (result : Except DatagramSessionError DatagramEnvelope)

structure Call where
  relayAddr : SocketAddr
  expectedClientAddr : SocketAddr
  now : Instant
  /-- the datagram of an `accept_outbound_datagram` call -/
  datagram : Option (DatagramTarget × List UInt8)
  pc : Pc

structure Owners where
  registry : UdpAssociationRegistry
  /-- permits of entries that were taken out, not given back yet -/
  inHand : ℕ
  calls : List Call

inductive Op where
  | ensureOutboundAssociation (relayAddr expectedClientAddr : SocketAddr) (now : Instant)
  | acceptOutboundDatagram (relayAddr expectedClientAddr : SocketAddr) (target : DatagramTarget) (payload : List UInt8)
      (now : Instant)
  | closeAssociation (associationId : DatagramAssociationId)
  | reapIdle (maxIdle : Duration) (now : Instant)
  /-- a call that took entries out gives one permit back -/
  | giveBack
  /-- call `i` runs its next section -/
  | step (i : ℕ)
  /-- the outbound target that call `i` waits for answers -/
  | dispatched (i : ℕ) (outcome : Except String Unit)

def start (maxAssociations : ℕ) : Owners := ⟨.new maxAssociations, 0, []⟩

/-- what `accept_outbound_datagram` does with the association it got -/
def acceptFor (expectedClientAddr : SocketAddr) (datagram : DatagramTarget × List UInt8) :
    Except DatagramSessionError (DatagramAssociationId × UdpAssociationRecord) → Pc
  | .error err => .accepted (.error err)
  | .ok (associationId, _) =>
    let envelope : DatagramEnvelope := ⟨associationId, expectedClientAddr, datagram.1, datagram.2⟩
    match envelope.validate with
    | .error err => .accepted (.error (.contractViolation err))
    | .ok () => .forward envelope

/-- the next section of a call: the registry, the permits it leaves in hand, and where it stands then -/
def runSection (reg : UdpAssociationRegistry) (call : Call) : UdpAssociationRegistry × ℕ × Pc :=
  match call.pc with
  | .lookUp =>
    match reg.findByEndpoints call.relayAddr call.expectedClientAddr with
    | some (associationId, record) => (reg, 0, .touch associationId record)
    | none => (reg, 0, .reserve)
  | .touch associationId record =>
    match reg.touchAssociation associationId call.now with
    | (.error err, reg) => (reg, 0, .returned (.error (mapNotFound err)) none)
    | (.ok (), reg) =>
      (reg, 0, .returned (.ok (associationId, { record with lastActivity := call.now })) (reg.get associationId))
  | .reserve =>
    match reg.tryReserve with
    | none => (reg, 0, .returned (.error .associationLimitReached) none)
    | some reg => (reg, 0, .draw)
  | .draw => (reg.draw.2, 0, .file reg.draw.1)
  | .file associationId =>
    let record : UdpAssociationRecord := ⟨call.relayAddr, call.expectedClientAddr, call.now⟩
    ((reg.file associationId record).2, (reg.file associationId record).1,
      .returned (.ok (associationId, record)) ((reg.file associationId record).2.get associationId))
  | .returned result held =>
    match call.datagram with
    | none => (reg, 0, .returned result held)
    | some datagram => (reg, 0, acceptFor call.expectedClientAddr datagram result)
  | .forward envelope =>
    match reg.touchAssociation envelope.associationId call.now with
    | (.error err, reg) => (reg, 0, .accepted (.error (mapNotFound err)))
    | (.ok (), reg) => (reg, 0, .dispatch envelope)
  | .dispatch envelope => (reg, 0, .dispatch envelope)
  | .accepted result => (reg, 0, .accepted result)

/-- how the answer of the outbound target takes a waiting call on -/
def answer (outcome : Except String Unit) : Pc → Pc
  | .dispatch envelope =>
    match outcome with
    | .error detail => .accepted (.error (.dispatchFailed detail))
    | .ok () => .accepted (.ok envelope)
  | pc => pc

def step (s : Owners) : Op → Owners
  | .ensureOutboundAssociation relayAddr expectedClientAddr now =>
    { s with calls := s.calls ++ [⟨relayAddr, expectedClientAddr, now, none, .lookUp⟩] }
  | .acceptOutboundDatagram relayAddr expectedClientAddr target payload now =>
    { s with calls := s.calls ++ [⟨relayAddr, expectedClientAddr, now, some (target, payload), .lookUp⟩] }
  | .closeAssociation associationId =>
    match s.registry.takeOut associationId with
    | (some _, registry) => { s with registry, inHand := s.inHand + 1 }
    | (none, _) => s
  | .reapIdle maxIdle now =>
    let sifted := s.registry.sift fun _ record => decide (now - record.lastActivity ≤ maxIdle)
    { s with registry := sifted.2, inHand := s.inHand + sifted.1.length }
  | .giveBack => if s.inHand = 0 then s else { s with registry := s.registry.release, inHand := s.inHand - 1 }
  | .step i =>
    match s.calls[i]? with
    | none => s
    | some call =>
      { registry := (runSection s.registry call).1
        inHand := s.inHand + (runSection s.registry call).2.1
        calls := s.calls.set i { call with pc := (runSection s.registry call).2.2 } }
  | .dispatched i outcome =>
    match s.calls[i]? with
    | none => s
    | some call => { s with calls := s.calls.set i { call with pc := answer outcome call.pc } }

/-! ## One owner for each pair of endpoints -/

/-- no two live associations have the same endpoints -/
def DistinctEndpoints (reg : UdpAssociationRegistry) : Prop :=
  ∀ id id' record record', reg.get id = some record → reg.get id' = some record' →
    HasEndpoints record.relayAddr record.expectedClientAddr record' → id' = id

/-- a call that has its association got one for its endpoints, as it is filed; it fails for want of a slot only -/
def Answers (call : Call) : Prop :=
  match call.pc with
  | .returned (.ok (_, record)) held =>
    held = some record ∧ HasEndpoints call.relayAddr call.expectedClientAddr record
  | .returned (.error err) _ => err = .associationLimitReached
  | _ => True

structure Exclusive (s : Owners) : Prop where
  distinct : DistinctEndpoints s.registry
  answers : ∀ call ∈ s.calls, Answers call

/-- what a call finds when its section runs: a touch, the association its lookup found; a filing, nobody with these endpoints
under another id -/
def Clear (reg : UdpAssociationRegistry) (call : Call) : Prop :=
  match call.pc with
  | .touch associationId _ => ∃ record, reg.get associationId = some record ∧
      HasEndpoints call.relayAddr call.expectedClientAddr record
  | .file associationId => ∀ id record, reg.get id = some record →
      HasEndpoints call.relayAddr call.expectedClientAddr record → id = associationId
  | _ => True

def Undisturbed (s : Owners) : Op → Prop
  | .step i => ∀ call, s.calls[i]? = some call → Clear s.registry call
  | _ => True

/-- what a lookup found has the endpoints that were looked up -/
def FoundOwn (s : Owners) : Prop :=
  ∀ call ∈ s.calls, ∀ id record, call.pc = .touch id record →
    HasEndpoints call.relayAddr call.expectedClientAddr record

/-! ## Steps -/

theorem distinctEndpoints_of_fewer {reg reg' : UdpAssociationRegistry} (h : DistinctEndpoints reg)
    (hget : ∀ id record, reg'.get id = some record →
      ∃ old, reg.get id = some old ∧ HasEndpoints record.relayAddr record.expectedClientAddr old) :
    DistinctEndpoints reg' := by
  intro id id' record record' hid hid' hsame
  obtain ⟨old, hold, hrelay, hclient⟩ := hget id record hid
  obtain ⟨old', hold', hrelay', hclient'⟩ := hget id' record' hid'
  refine h id id' old old' hold hold' ⟨?_, ?_⟩
  · rw [hrelay', hsame.1, hrelay]
  · rw [hclient', hsame.2, hclient]

theorem distinctEndpoints_touch {reg : UdpAssociationRegistry} (h : DistinctEndpoints reg) (id : DatagramAssociationId)
    (now : Instant) : DistinctEndpoints (reg.touchAssociation id now).2 :=
  distinctEndpoints_of_fewer h fun _ _ hget => get_touchAssociation hget

/-- an association that is filed shares its endpoints with nobody exactly when nobody had them -/
theorem distinctEndpoints_file_iff {reg : UdpAssociationRegistry} (h : DistinctEndpoints reg) (id : DatagramAssociationId)
    (record : UdpAssociationRecord) :
    DistinctEndpoints (reg.file id record).2 ↔
      ∀ id' record', reg.get id' = some record' →
        HasEndpoints record.relayAddr record.expectedClientAddr record' → id' = id := by
  have hself := SlotStore.get_file_self reg id record
  constructor
  · intro hfiled id' record' hget hsame
    by_contra hne
    have hother := (SlotStore.get_file_of_ne hne record).trans hget
    exact hne (hfiled id id' record record' hself hother hsame)
  · intro hnobody a b ra rb ha hb hsame
    by_cases hida : a = id
    · subst hida
      obtain rfl : record = ra := Option.some.inj (hself.symm.trans ha)
      by_cases hidb : b = a
      · exact hidb
      · rw [SlotStore.get_file_of_ne hidb] at hb
        exact hnobody b rb hb hsame
    · rw [SlotStore.get_file_of_ne hida] at ha
      by_cases hidb : b = id
      · subst hidb
        obtain rfl : record = rb := Option.some.inj (hself.symm.trans hb)
        exact (hnobody a ra ha ⟨hsame.1.symm, hsame.2.symm⟩).symm
      · rw [SlotStore.get_file_of_ne hidb] at hb
        exact h a b ra rb ha hb hsame

/-- one call moved on: the others answer as before -/
theorem exclusive_set_iff {s : Owners} (h : Exclusive s) {i : ℕ} {call : Call} (hcall : s.calls[i]? = some call)
    (reg : UdpAssociationRegistry) (inHand : ℕ) (pc : Pc) :
    Exclusive ⟨reg, inHand, s.calls.set i { call with pc }⟩ ↔ DistinctEndpoints reg ∧ Answers { call with pc } := by
  constructor
  · intro hnext
    exact ⟨hnext.distinct, hnext.answers _ (List.mem_set (List.getElem?_eq_some_iff.1 hcall).1 _)⟩
  · rintro ⟨hdistinct, hanswers⟩
    exact ⟨hdistinct, forall_mem_set h.answers i hanswers⟩

theorem foundOwn_set {s : Owners} (h : FoundOwn s) {i : ℕ} {call : Call} (reg : UdpAssociationRegistry) (inHand : ℕ)
    {pc : Pc} (hpc : ∀ id record, pc = .touch id record →
      HasEndpoints call.relayAddr call.expectedClientAddr record) :
    FoundOwn ⟨reg, inHand, s.calls.set i { call with pc }⟩ := by
  exact forall_mem_set h i hpc

/-- what a lookup found has its endpoints, and no other section sets out to touch -/
theorem touch_of_runSection {reg : UdpAssociationRegistry} {call : Call} {id : DatagramAssociationId}
    {record : UdpAssociationRecord} (h : (runSection reg call).2.2 = .touch id record) :
    HasEndpoints call.relayAddr call.expectedClientAddr record := by
  unfold runSection at h
  split at h
  · split at h
    · rename_i hfind
      cases h
      exact (findByEndpoints_eq_some hfind).2
    · cases h
  · split at h <;> cases h
  · split at h <;> cases h
  · cases h
  · cases h
  · rename_i result held hpc
    split at h
    · cases h
    · unfold acceptFor at h
      split at h
      · cases h
      · simp only at h
        split at h <;> cases h
  · split at h <;> cases h
  · cases h
  · cases h

/-- a touch succeeds on the association that was found, and returns it as it is, exactly when it is still there -/
theorem answers_touch_iff {reg : UdpAssociationRegistry} {call : Call} {id : DatagramAssociationId}
    {record : UdpAssociationRecord} (hpc : call.pc = .touch id record)
    (hown : HasEndpoints call.relayAddr call.expectedClientAddr record) :
    Answers { call with pc := (runSection reg call).2.2 } ↔
      ∃ old, reg.get id = some old ∧ HasEndpoints call.relayAddr call.expectedClientAddr old := by
  cases hget : reg.get id with
  | none =>
    simp only [runSection, hpc, touchAssociation, hget, Answers, mapNotFound, reduceCtorEq, false_and, exists_false]
  | some old =>
    simp only [runSection, hpc, touchAssociation_of_get hget, Answers, SlotStore.get_update_self, hget, Option.map_some,
      Option.some.injEq, exists_eq_left']
    constructor
    · rintro ⟨hsame, hends⟩
      obtain ⟨hrelay, hclient, -⟩ := UdpAssociationRecord.mk.inj hsame
      exact ⟨hrelay.trans hown.1, hclient.trans hown.2⟩
    · rintro ⟨hrelay, hclient⟩
      refine ⟨?_, hown⟩
      rw [hrelay, hclient, hown.1, hown.2]

/-- a section that neither touches nor files finds nothing in its way -/
theorem clear_of_quiet {reg : UdpAssociationRegistry} {call : Call} (htouch : ∀ id record, call.pc ≠ .touch id record)
    (hfile : ∀ id, call.pc ≠ .file id) : Clear reg call := by
  unfold Clear
  split
  · rename_i id record hpc
    exact absurd hpc (htouch id record)
  · rename_i id hpc
    exact absurd hpc (hfile id)
  · trivial

/-- and it keeps the endpoints apart -/
theorem runSection_quiet {reg : UdpAssociationRegistry} {call : Call} (hdistinct : DistinctEndpoints reg)
    (hanswers : Answers call) (htouch : ∀ id record, call.pc ≠ .touch id record) (hfile : ∀ id, call.pc ≠ .file id) :
    DistinctEndpoints (runSection reg call).1 ∧ Answers { call with pc := (runSection reg call).2.2 } := by
  cases hpc : call.pc with
  | touch id record => exact absurd hpc (htouch id record)
  | file id => exact absurd hpc (hfile id)
  | lookUp =>
    simp only [runSection, hpc]
    split
    · exact ⟨hdistinct, trivial⟩
    · exact ⟨hdistinct, trivial⟩
  | reserve =>
    simp only [runSection, hpc]
    cases hstore : reg.tryReserve with
    | none => exact ⟨hdistinct, rfl⟩
    | some store =>
      obtain ⟨-, rfl⟩ := SlotStore.tryReserve_eq_some.1 hstore
      exact ⟨hdistinct, trivial⟩
  | returned result held =>
    simp only [runSection, hpc]
    split
    · rename_i hdatagram
      rw [← hpc]
      exact ⟨hdistinct, hanswers⟩
    · rename_i datagram hdatagram
      refine ⟨hdistinct, ?_⟩
      unfold acceptFor
      split
      · trivial
      · simp only
        split <;> trivial
  | forward envelope =>
    have h := distinctEndpoints_touch hdistinct envelope.associationId call.now
    simp only [runSection, hpc]
    split
    · rename_i heq; rw [heq] at h; exact ⟨h, trivial⟩
    · rename_i heq; rw [heq] at h; exact ⟨h, trivial⟩
  | draw | dispatch | accepted =>
    simp only [runSection, hpc]
    exact ⟨hdistinct, trivial⟩

/-- **One section.** It keeps the endpoints apart and answers as it should exactly when it is not disturbed. -/
theorem runSection_iff {reg : UdpAssociationRegistry} {call : Call} (hdistinct : DistinctEndpoints reg)
    (hanswers : Answers call)
    (hown : ∀ id record, call.pc = .touch id record → HasEndpoints call.relayAddr call.expectedClientAddr record) :
    DistinctEndpoints (runSection reg call).1 ∧ Answers { call with pc := (runSection reg call).2.2 } ↔
      Clear reg call := by
  cases hpc : call.pc with
  | touch id record =>
    have htouched : DistinctEndpoints (runSection reg call).1 := by
      have h := distinctEndpoints_touch hdistinct id call.now
      simp only [runSection, hpc]
      split
      · rename_i heq; rw [heq] at h; exact h
      · rename_i heq; rw [heq] at h; exact h
    have hclear : Clear reg call ↔
        ∃ old, reg.get id = some old ∧ HasEndpoints call.relayAddr call.expectedClientAddr old := by
      simp only [Clear, hpc]
    rw [hclear, answers_touch_iff hpc (hown id record hpc)]
    exact ⟨And.right, fun h => ⟨htouched, h⟩⟩
  | file id =>
    have hclear : Clear reg call ↔ ∀ id' record', reg.get id' = some record' →
        HasEndpoints call.relayAddr call.expectedClientAddr record' → id' = id := by
      simp only [Clear, hpc]
    rw [hclear]
    simp only [runSection, hpc]
    rw [distinctEndpoints_file_iff hdistinct]
    exact ⟨And.left, fun h => ⟨h, SlotStore.get_file_self _ _ _, rfl, rfl⟩⟩
  | lookUp | reserve | draw | returned | forward | dispatch | accepted =>
    have htouch : ∀ id record, call.pc ≠ .touch id record := by simp [hpc]
    have hfile : ∀ id, call.pc ≠ .file id := by simp [hpc]
    exact iff_of_true (runSection_quiet hdistinct hanswers htouch hfile) (clear_of_quiet htouch hfile)

theorem answers_answer {call : Call} (h : Answers call) (outcome : Except String Unit) :
    Answers { call with pc := answer outcome call.pc } := by
  cases hpc : call.pc with
  | dispatch envelope => cases outcome <;> exact trivial
  | returned result held => simp only [Answers, hpc] at h ⊢; exact h
  | lookUp => exact trivial
  | touch id record => exact trivial
  | reserve => exact trivial
  | draw => exact trivial
  | file id => exact trivial
  | forward envelope => exact trivial
  | accepted result => exact trivial

theorem answer_eq_touch {outcome : Except String Unit} {pc : Pc} {id : DatagramAssociationId}
    {record : UdpAssociationRecord} (h : answer outcome pc = .touch id record) : pc = .touch id record := by
  unfold answer at h
  split at h
  · split at h <;> cases h
  · exact h

/-- **What one step has to find.** -/
theorem exclusive_step_iff {s : Owners} (h : Exclusive s) (hown : FoundOwn s) (o : Op) :
    Exclusive (step s o) ↔ Undisturbed s o := by
  have hstarts : ∀ call : Call, call.pc = .lookUp → Exclusive { s with calls := s.calls ++ [call] } := by
    intro call hpc
    have hanswers : Answers call := by rw [Answers, hpc]; trivial
    exact ⟨h.distinct, forall_mem_concat h.answers hanswers⟩
  have hfewer : ∀ (reg : UdpAssociationRegistry) (inHand : ℕ),
      (∀ id record, reg.get id = some record → s.registry.get id = some record) →
      Exclusive { s with registry := reg, inHand } := fun reg inHand hget =>
    ⟨distinctEndpoints_of_fewer h.distinct fun id record hid => ⟨record, hget id record hid, rfl, rfl⟩, h.answers⟩
  cases o with
  | ensureOutboundAssociation relayAddr expectedClientAddr now => exact iff_of_true (hstarts _ rfl) trivial
  | acceptOutboundDatagram relayAddr expectedClientAddr target payload now => exact iff_of_true (hstarts _ rfl) trivial
  | closeAssociation id =>
    refine iff_of_true ?_ trivial
    simp only [step]
    split
    · rename_i record registry htaken
      obtain ⟨-, rfl⟩ := Prod.mk.inj htaken
      refine hfewer _ _ fun id' record' hget => ?_
      by_cases hid : id' = id
      · subst hid
        have hnone := SlotStore.get_takeOut_self s.registry id'
        exact absurd (hnone.symm.trans hget) (by simp)
      · exact (SlotStore.get_takeOut_of_ne hid).symm.trans hget
    · exact h
  | reapIdle maxIdle now =>
    refine iff_of_true (hfewer _ _ fun id record hget => ?_) trivial
    have hsifted := (SlotStore.get_sift s.registry _ id).symm.trans hget
    exact (Option.filter_eq_some_iff.1 hsifted).1
  | giveBack =>
    refine iff_of_true ?_ trivial
    simp only [step]
    split_ifs
    · exact h
    · exact hfewer _ _ fun _ _ hget => hget
  | step i =>
    cases hcall : s.calls[i]? with
    | none =>
      refine iff_of_true (by simp only [step, hcall]; exact h) fun call hsome => ?_
      rw [hcall] at hsome
      cases hsome
    | some call =>
      have hmem := List.mem_of_getElem? hcall
      have hiff := runSection_iff h.distinct (h.answers call hmem) (hown call hmem)
      simp only [step, hcall]
      rw [exclusive_set_iff h hcall, hiff]
      constructor
      · intro hclear call' hcall'
        rw [hcall] at hcall'
        obtain rfl := Option.some.inj hcall'
        exact hclear
      · intro hundisturbed
        exact hundisturbed call hcall
  | dispatched i outcome =>
    refine iff_of_true ?_ trivial
    cases hcall : s.calls[i]? with
    | none => simp only [step, hcall]; exact h
    | some call =>
      simp only [step, hcall]
      have hanswers := answers_answer (h.answers call (List.mem_of_getElem? hcall)) outcome
      exact (exclusive_set_iff h hcall _ _ _).2 ⟨h.distinct, hanswers⟩

theorem foundOwn_step {s : Owners} (h : FoundOwn s) (o : Op) : FoundOwn (step s o) := by
  have hstarts : ∀ call : Call, call.pc = .lookUp → FoundOwn { s with calls := s.calls ++ [call] } := by
    intro call hpc other hother id record htouch
    rcases List.mem_append.1 hother with hother | hother
    · exact h other hother id record htouch
    · rw [List.mem_singleton.1 hother, hpc] at htouch
      cases htouch
  cases o with
  | ensureOutboundAssociation relayAddr expectedClientAddr now => exact hstarts _ rfl
  | acceptOutboundDatagram relayAddr expectedClientAddr target payload now => exact hstarts _ rfl
  | closeAssociation id =>
    simp only [step]
    split
    · exact h
    · exact h
  | reapIdle maxIdle now => exact h
  | giveBack =>
    simp only [step]
    split_ifs
    · exact h
    · exact h
  | step i =>
    cases hcall : s.calls[i]? with
    | none => simp only [step, hcall]; exact h
    | some call =>
      simp only [step, hcall]
      exact foundOwn_set h _ _ fun id record htouch => touch_of_runSection htouch
  | dispatched i outcome =>
    cases hcall : s.calls[i]? with
    | none => simp only [step, hcall]; exact h
    | some call =>
      simp only [step, hcall]
      refine foundOwn_set h _ _ fun id record htouch => ?_
      exact h call (List.mem_of_getElem? hcall) id record (answer_eq_touch htouch)

/-! ## Runs -/

theorem exclusive_start (maxAssociations : ℕ) : Exclusive (start maxAssociations) where
  distinct id id' record record' hget := by simp [start] at hget
  answers call hcall := absurd hcall List.not_mem_nil

/-- **One owner for each pair of endpoints.** In every state of a run, no two associations share their endpoints, a call
that got an association got one for its endpoints, and a call fails for want of a slot only, if and only if no section of
the run was disturbed. -/
theorem one_owner_iff (maxAssociations : ℕ) (ops : List Op) :
    AllStates step Exclusive (start maxAssociations) ops ↔ AllSteps step Undisturbed (start maxAssociations) ops := by
  have hkeeps : ∀ s o, Exclusive s ∧ FoundOwn s → Undisturbed s o → Exclusive (step s o) ∧ FoundOwn (step s o) :=
    fun s o hs ho => ⟨(exclusive_step_iff hs.1 hs.2 o).2 ho, foundOwn_step hs.2 o⟩
  have hiff : ∀ s o, Exclusive s ∧ FoundOwn s → (Exclusive (step s o) ↔ Undisturbed s o) := fun s o hs =>
    exclusive_step_iff hs.1 hs.2 o
  have hown : FoundOwn (start maxAssociations) := fun call hcall => absurd hcall List.not_mem_nil
  rw [allStates_iff_allSteps, allSteps_iff_of_step hkeeps hiff ⟨exclusive_start maxAssociations, hown⟩]
  exact and_iff_right (exclusive_start maxAssociations)

/-- two calls for the same endpoints look up before either files: both file, under ids of their own -/
theorem two_owners :
    ¬∀ maxAssociations ops, AllStates step Exclusive (start maxAssociations) ops := by
  intro h
  let relayAddr : SocketAddr := .v4 ⟨127, 0, 0, 1⟩ 1081
  let client : SocketAddr := .v4 ⟨127, 0, 0, 1⟩ 50000
  let ops : List Op := [.ensureOutboundAssociation relayAddr client 0, .ensureOutboundAssociation relayAddr client 0,
    .step 0, .step 1, .step 0, .step 0, .step 0, .step 1, .step 1, .step 1]
  have hlast : Exclusive (run step (start 2) ops) := (h 2 ops).last
  have hsame := hlast.distinct 1 2 ⟨relayAddr, client, 0⟩ ⟨relayAddr, client, 0⟩ (by decide) (by decide) ⟨rfl, rfl⟩
  exact absurd hsame (by decide)

end N0wss.Session.Ownership
