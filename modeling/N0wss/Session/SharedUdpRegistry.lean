/-
The registry of UDP associations under overlapping calls (`session/udp_registry.rs`), interleaved at every section: taking
the permit, drawing the id, filing, looking up, touching, taking out, giving a permit back.

Looking up, searching and touching are one section each, and so what they do is what `UdpRegistry` says of the map as it
stands.

- `association_bookkeeping_exact`: slots are conserved, ids increase for as long as the counter does not wrap, and each
  operation does and reports exactly what it should.
- `ids_come_round`: past 2^64 associations an id is drawn again.
-/
import N0wss.Core.SharedStore
import N0wss.Session.UdpRegistry

namespace N0wss.Session.SharedUdpRegistry

open Datagram Machine Net UdpAssociationRegistry

/-! ## The registry and the calls on it -/

abbrev SharedAssociations := SharedStore UdpAssociationRecord

inductive Op where
  | openAssociation (relayAddr expectedClientAddr : SocketAddr) (now : Instant)
  | get (associationId : DatagramAssociationId)
  | findByEndpoints (relayAddr expectedClientAddr : SocketAddr)
  | touchAssociation (associationId : DatagramAssociationId) (now : Instant)
  | closeAssociation (associationId : DatagramAssociationId)
  | reapIdle (maxIdle : Duration) (now : Instant)
  /-- call `i` runs its next section -/
  | step (i : ℕ)
deriving DecidableEq

def start (maxAssociations : ℕ) : SharedAssociations := SharedStore.start maxAssociations

/-- `open_association` up to the permit; nothing that follows can fail -/
def beginOpen (s : SharedAssociations) (relayAddr expectedClientAddr : SocketAddr) (now : Instant) :
    Except UdpAssociationLimitReached SharedAssociations :=
  match s.openWith ⟨relayAddr, expectedClientAddr, now⟩ with
  | none => .error .atCapacity
  | some s => .ok s

def keeps (maxIdle : Duration) (now : Instant) (record : UdpAssociationRecord) : Bool :=
  decide (now - record.lastActivity ≤ maxIdle)

/-- the ids `reap_idle` returns -/
def reaped (s : SharedAssociations) (maxIdle : Duration) (now : Instant) : List DatagramAssociationId :=
  (s.store.sift fun _ record => keeps maxIdle now record).1

/-- the sections of the shared store that an operation starts with -/
def storeOps : Op → List (SharedStore.Op UdpAssociationRecord)
  | .openAssociation relayAddr expectedClientAddr now => [.openWith ⟨relayAddr, expectedClientAddr, now⟩]
  | .get _ | .findByEndpoints _ _ => []
  | .touchAssociation associationId now => [.update associationId fun record => { record with lastActivity := now }]
  | .closeAssociation associationId => [.remove associationId]
  | .reapIdle maxIdle now => [.sift fun _ record => keeps maxIdle now record]
  | .step i => [.step i]

def step (s : SharedAssociations) (o : Op) : SharedAssociations := run SharedStore.step s (storeOps o)

def Op.isOpen : Op → Bool
  | .openAssociation _ _ _ => true
  | .get _ | .findByEndpoints _ _ | .touchAssociation _ _ | .closeAssociation _ | .reapIdle _ _ | .step _ => false

/-! ## The slots -/

theorem run_storeOps (s : SharedAssociations) (ops : List Op) :
    run step s ops = run SharedStore.step s (ops.flatMap storeOps) := by
  induction ops generalizing s with
  | nil => rfl
  | cons o ops ih => rw [List.flatMap_cons, run_append, run_cons, ih]; rfl

theorem countP_storeOps (ops : List Op) : (ops.flatMap storeOps).countP SharedStore.Op.isOpening = ops.countP Op.isOpen := by
  induction ops with
  | nil => rfl
  | cons o ops ih =>
    rw [List.flatMap_cons, List.countP_append, List.countP_cons, ih, Nat.add_comm]
    cases o <;> rfl

/-- permits are taken for calls only, never set aside -/
theorem guards_step {s : SharedAssociations} (h : s.guards = 0) (o : Op) : (step s o).guards = 0 := by
  cases o with
  | openAssociation relayAddr expectedClientAddr now =>
    simp only [step, storeOps, run_cons, run_nil, SharedStore.step, SharedStore.openWith]
    cases s.store.tryReserve with
    | none => exact h
    | some store => exact h
  | get id => exact h
  | findByEndpoints relayAddr expectedClientAddr => exact h
  | touchAssociation id now => exact h
  | closeAssociation id =>
    simp only [step, storeOps, run_cons, run_nil, SharedStore.step, SlotStore.takeOut]
    split <;> exact h
  | reapIdle maxIdle now => exact h
  | step i =>
    simp only [step, storeOps, run_cons, run_nil, SharedStore.step, SharedStore.stepCall]
    split <;> exact h

theorem guards_run (maxAssociations : ℕ) (ops : List Op) : (run step (start maxAssociations) ops).guards = 0 := by
  have hstep : ∀ (s : SharedAssociations) (o : Op), s.guards = 0 → (step s o).guards = 0 := fun _ o hs => guards_step hs o
  exact run_inv hstep ops rfl

/-! ## What one operation does -/

/-- `open_association` fails exactly when there is no slot, and then changes nothing -/
def OpensExactly (s : SharedAssociations) : Prop :=
  ∀ relayAddr expectedClientAddr now,
    (beginOpen s relayAddr expectedClientAddr now = .error .atCapacity ↔ availableSlots s.store = 0) ∧
      (availableSlots s.store = 0 → step s (.openAssociation relayAddr expectedClientAddr now) = s)

/-- a search finds an association with the endpoints, under its id and as it is, in whatever order the map is gone through;
it finds none only where there is none -/
def FindsExactly (s : SharedAssociations) : Prop :=
  ∀ reg : UdpAssociationRegistry, (∀ id, reg.get id = s.store.get id) → ∀ relayAddr expectedClientAddr,
    ((reg.findByEndpoints relayAddr expectedClientAddr).isSome ↔
      ∃ id record, s.store.get id = some record ∧ HasEndpoints relayAddr expectedClientAddr record) ∧
    ∀ id record, reg.findByEndpoints relayAddr expectedClientAddr = some (id, record) →
      s.store.get id = some record ∧ HasEndpoints relayAddr expectedClientAddr record

/-- a touch changes the last activity of one record, and fails exactly where there is none -/
def TouchesExactly (s : SharedAssociations) : Prop :=
  ∀ id now,
    ((touchAssociation s.store id now).1 = .error (.missing id) ↔ s.store.get id = none) ∧
      (step s (.touchAssociation id now)).store = (touchAssociation s.store id now).2 ∧
      (step s (.touchAssociation id now)).store.get id =
        (s.store.get id).map (fun record => { record with lastActivity := now }) ∧
      (∀ id', id' ≠ id → (step s (.touchAssociation id now)).store.get id' = s.store.get id') ∧
      (step s (.touchAssociation id now)).store.free = s.store.free ∧
      (step s (.touchAssociation id now)).store.next = s.store.next ∧
      (step s (.touchAssociation id now)).calls = s.calls

/-- closing returns the record, takes that association out and frees one slot; where there is none it does nothing -/
def ClosesExactly (s : SharedAssociations) : Prop :=
  ∀ id,
    (∀ record, s.store.get id = some record →
      (closeAssociation s.store id).1 = .ok record ∧
        (step s (.closeAssociation id)).store.get id = none ∧
        (∀ id', id' ≠ id → (step s (.closeAssociation id)).store.get id' = s.store.get id') ∧
        associationCount (step s (.closeAssociation id)).store + 1 = associationCount s.store ∧
        availableSlots (run step s [.closeAssociation id, .step s.calls.length]).store = availableSlots s.store + 1) ∧
      (s.store.get id = none →
        (closeAssociation s.store id).1 = .error (.missing id) ∧ step s (.closeAssociation id) = s)

/-- reaping takes out, and returns, exactly the associations idle for longer than the bound, and frees their slots; an
association touched within the bound stays -/
def ReapsExactly (s : SharedAssociations) : Prop :=
  ∀ maxIdle now,
    (reaped s maxIdle now).Nodup ∧
      (∀ id, id ∈ reaped s maxIdle now ↔
        ∃ record, s.store.get id = some record ∧ maxIdle < now - record.lastActivity) ∧
      (∀ id, (step s (.reapIdle maxIdle now)).store.get id =
        if id ∈ reaped s maxIdle now then none else s.store.get id) ∧
      associationCount (step s (.reapIdle maxIdle now)).store + (reaped s maxIdle now).length =
        associationCount s.store ∧
      availableSlots (run step (step s (.reapIdle maxIdle now))
          (List.replicate (reaped s maxIdle now).length (.step s.calls.length))).store =
        availableSlots s.store + (reaped s maxIdle now).length ∧
      ∀ id touched, now - touched ≤ maxIdle → id ∉ reaped (step s (.touchAssociation id touched)) maxIdle now

theorem opensExactly (s : SharedAssociations) : OpensExactly s := by
  intro relayAddr expectedClientAddr now
  cases hstore : s.store.tryReserve with
  | none =>
    have hfree : availableSlots s.store = 0 := SlotStore.tryReserve_eq_none.1 hstore
    simp only [beginOpen, step, storeOps, run_cons, run_nil, SharedStore.step, SharedStore.openWith, hstore,
      Option.map_none, Option.getD_none, hfree, true_and, implies_true]
  | some store =>
    have hfree : availableSlots s.store ≠ 0 := (SlotStore.tryReserve_eq_some.1 hstore).1
    refine ⟨⟨fun h => ?_, fun h => absurd h hfree⟩, fun h => absurd h hfree⟩
    simp only [beginOpen, SharedStore.openWith, hstore, Option.map_some] at h
    cases h

theorem findsExactly (s : SharedAssociations) : FindsExactly s := by
  intro reg hreg relayAddr expectedClientAddr
  have hfound : ∀ id record, reg.findByEndpoints relayAddr expectedClientAddr = some (id, record) →
      s.store.get id = some record ∧ HasEndpoints relayAddr expectedClientAddr record := by
    intro id record hfind
    obtain ⟨hget, hends⟩ := findByEndpoints_eq_some hfind
    exact ⟨(hreg id).symm.trans hget, hends⟩
  refine ⟨⟨fun hsome => ?_, ?_⟩, hfound⟩
  · obtain ⟨⟨id, record⟩, hfind⟩ := Option.isSome_iff_exists.1 hsome
    exact ⟨id, record, hfound id record hfind⟩
  · rintro ⟨id, record, hget, hends⟩
    by_contra hnone
    have hfind : reg.findByEndpoints relayAddr expectedClientAddr = none := by simpa using hnone
    exact findByEndpoints_eq_none hfind ((hreg id).trans hget) hends

theorem touchesExactly (s : SharedAssociations) : TouchesExactly s := by
  intro id now
  refine ⟨?_, ?_, SlotStore.get_update_self _ _ _, fun id' hid => SlotStore.get_update_of_ne hid _,
    SlotStore.free_update _ _ _, SharedStore.next_update _ _ _, rfl⟩
  · cases hget : s.store.get id with
    | none => simp [touchAssociation, hget]
    | some record => simp [touchAssociation, hget]
  · cases hget : s.store.get id with
    | none =>
      have hsame := SlotStore.update_of_none hget fun record : UdpAssociationRecord => { record with lastActivity := now }
      simp only [step, storeOps, run_cons, run_nil, SharedStore.step, hsame, touchAssociation, hget]
    | some record => rw [touchAssociation_of_get hget]; rfl

theorem closesExactly (s : SharedAssociations) : ClosesExactly s := by
  refine fun id => ⟨fun record hget => ?_, fun hget => ?_⟩
  · have hclose : step s (.closeAssociation id) =
        { s with store := (s.store.takeOut id).2, calls := s.calls ++ [.release 1 none] } := by
      simp only [step, storeOps, run_cons, run_nil, SharedStore.step, SlotStore.takeOut, hget]
    have hcall : (step s (.closeAssociation id)).calls[s.calls.length]? = some (.release 1 none) := by
      rw [hclose]; exact List.getElem?_concat_length
    refine ⟨by simp only [closeAssociation, hget], ?_, fun id' hid => ?_, ?_, ?_⟩
    · rw [hclose]; exact SlotStore.get_takeOut_self _ _
    · rw [hclose]; exact SlotStore.get_takeOut_of_ne hid
    · rw [hclose]; exact SlotStore.count_takeOut_of_get hget
    · have hreleased := SharedStore.run_release hcall
      rw [run_cons, run_storeOps]
      exact (congrArg (fun s => availableSlots s.store) hreleased).trans (by rw [hclose])
  · refine ⟨by simp only [closeAssociation, hget], ?_⟩
    simp only [step, storeOps, run_cons, run_nil, SharedStore.step, SlotStore.takeOut, hget]

theorem mem_reaped {s : SharedAssociations} {maxIdle : Duration} {now : Instant} {id : DatagramAssociationId} :
    id ∈ reaped s maxIdle now ↔ ∃ record, s.store.get id = some record ∧ maxIdle < now - record.lastActivity := by
  simp only [reaped, SlotStore.mem_sift, keeps, decide_eq_false_iff_not, not_le]

theorem run_steps (s : SharedAssociations) (n i : ℕ) :
    run step s (List.replicate n (.step i)) = run SharedStore.step s (List.replicate n (.step i)) := by
  rw [run_storeOps]
  congr 1
  induction n with
  | zero => rfl
  | succ n ih => rw [List.replicate_succ, List.replicate_succ, List.flatMap_cons, ih]; rfl

theorem reapsExactly (s : SharedAssociations) : ReapsExactly s := by
  intro maxIdle now
  refine ⟨SlotStore.nodup_sift _ _, fun id => mem_reaped, fun id => ?_,
    s.store.count_sift fun _ record => keeps maxIdle now record, ?_, fun id touched hrecent => ?_⟩
  · have hget : (step s (.reapIdle maxIdle now)).store.get id = (s.store.get id).filter (keeps maxIdle now) :=
      SlotStore.get_sift s.store (fun _ record => keeps maxIdle now record) id
    rw [hget]
    cases hold : s.store.get id with
    | none => rw [ite_self]; rfl
    | some record =>
      by_cases hidle : maxIdle < now - record.lastActivity
      · have hdrop : keeps maxIdle now record = false := decide_eq_false (not_le.2 hidle)
        rw [if_pos (mem_reaped.2 ⟨record, hold, hidle⟩), Option.filter_some, hdrop]
        rfl
      · have hkeep : keeps maxIdle now record = true := decide_eq_true (not_lt.1 hidle)
        have hout : id ∉ reaped s maxIdle now := by
          rw [mem_reaped]
          rintro ⟨other, hother, hidle'⟩
          rw [hold] at hother
          obtain rfl := Option.some.inj hother
          exact hidle hidle'
        rw [if_neg hout, Option.filter_some, hkeep]
        rfl
  · have hcall : (step s (.reapIdle maxIdle now)).calls[s.calls.length]? =
        some (.release (reaped s maxIdle now).length none) := List.getElem?_concat_length
    rw [run_steps, SharedStore.run_release hcall]
    rfl
  · rw [mem_reaped]
    rintro ⟨record, hget, hidle⟩
    rw [(touchesExactly s id touched).2.2.1] at hget
    obtain ⟨old, -, rfl⟩ := Option.map_eq_some_iff.1 hget
    exact absurd hrecent (not_le.2 hidle)

/-! ## The registry over runs -/

/-- **Association bookkeeping is exact.** For every run of the registry. Ids increase as long as fewer than 2^64
associations are opened. -/
theorem association_bookkeeping_exact (maxAssociations : ℕ) (ops : List Op) :
    let s := run step (start maxAssociations) ops
    (s.Quiescent → associationCount s.store + availableSlots s.store = maxAssociations) ∧
      (ops.countP Op.isOpen < 2 ^ 64 →
        s.drawn.Pairwise (· < ·) ∧ s.returned.Nodup ∧ s.returned ⊆ s.drawn) ∧
      (∀ more, s.drawn <+: (run step s more).drawn) ∧
      OpensExactly s ∧ FindsExactly s ∧ TouchesExactly s ∧ ClosesExactly s ∧ ReapsExactly s := by
  intro s
  have hrun : s = run SharedStore.step (SharedStore.start maxAssociations) (ops.flatMap storeOps) :=
    run_storeOps (start maxAssociations) ops
  have hconserved : SharedStore.Conserved maxAssociations s := by rw [hrun]; exact SharedStore.conserved_run _
  have hcounted : SharedStore.Counted s := by rw [hrun]; exact SharedStore.counted_run maxAssociations _
  refine ⟨fun hquiet => ?_, fun hfew => ?_, fun more => ?_, opensExactly s, findsExactly s, touchesExactly s,
    closesExactly s, reapsExactly s⟩
  · have hheld := SharedStore.permitsHeld_of_quiescent hquiet
    have hguards : s.guards = 0 := guards_run maxAssociations ops
    unfold SharedStore.Conserved at hconserved
    simp only [associationCount, availableSlots]
    omega
  · have hdrawn : s.drawn.length < 2 ^ 64 := by
      have hle := SharedStore.length_drawn_le (α := UdpAssociationRecord) maxAssociations (ops.flatMap storeOps)
      rw [countP_storeOps] at hle
      rw [hrun]
      omega
    have hincreasing := hcounted.increasing hdrawn
    exact ⟨hincreasing, hcounted.nodup_returned hincreasing, fun id hid => hcounted.mem_drawn hid⟩
  · rw [run_storeOps]
    exact SharedStore.drawn_run s _

/-- one slot: an association opened, found by a second call, and touched -/
theorem opened_association_bookkeeping :
    let relayAddr : SocketAddr := .v4 ⟨127, 0, 0, 1⟩ 1081
    let client : SocketAddr := .v4 ⟨127, 0, 0, 1⟩ 50000
    let s := run step (start 1) [.openAssociation relayAddr client 7, .step 0, .step 0, .findByEndpoints relayAddr client,
      .touchAssociation 1 9]
    associationCount s.store + availableSlots s.store = 1 ∧ s.drawn.Pairwise (· < ·) ∧
      s.store.get 1 = some ⟨relayAddr, client, 9⟩ := by
  intro relayAddr client s
  obtain ⟨hconserved, hids, -⟩ := association_bookkeeping_exact 1 [.openAssociation relayAddr client 7, .step 0, .step 0,
    .findByEndpoints relayAddr client, .touchAssociation 1 9]
  exact ⟨hconserved (by decide), (hids (by decide)).1, by decide⟩

/-! ## Past the last id -/

/-- an association opened under the `n`-th id and closed again -/
def openAndClose (n : ℕ) : List Op :=
  [.openAssociation (.v4 ⟨127, 0, 0, 1⟩ 1081) (.v4 ⟨127, 0, 0, 1⟩ 50000) 0, .step (2 * n), .step (2 * n),
    .closeAssociation (SharedStore.ordinal n), .step (2 * n + 1)]

def rounds (n : ℕ) : List Op := (List.range n).flatMap openAndClose

/-- empty again after every round, the counter one further -/
structure AfterRounds (n : ℕ) (s : SharedAssociations) : Prop where
  store : s.store = ⟨∅, 1, SharedStore.ordinal n⟩
  calls : s.calls.length = 2 * n
  drawn : s.drawn = (List.range n).map SharedStore.ordinal

theorem afterRounds_openAndClose {n : ℕ} {s : SharedAssociations} (h : AfterRounds n s) :
    AfterRounds (n + 1) (run step s (openAndClose n)) := by
  obtain ⟨store, guards, calls, drawn⟩ := s
  obtain ⟨hstore, hcalls, hdrawn⟩ := h
  simp only at hstore hcalls hdrawn
  subst hstore hdrawn
  have hlast : ∀ call : SharedStore.Call UdpAssociationRecord, (calls ++ [call])[2 * n]? = some call := fun call => by
    rw [← hcalls]; exact List.getElem?_concat_length
  have hset : ∀ call call' : SharedStore.Call UdpAssociationRecord,
      (calls ++ [call]).set (2 * n) call' = calls ++ [call'] := fun call call' => by
    rw [← hcalls]; simp
  have hnext : ∀ call call' : SharedStore.Call UdpAssociationRecord, (calls ++ [call] ++ [call'])[2 * n + 1]? = some call' :=
    fun call call' => by
      have hlength : (calls ++ [call]).length = 2 * n + 1 := by simp [hcalls]
      rw [← hlength]; exact List.getElem?_concat_length
  have hget : ∀ record : UdpAssociationRecord, SlotStore.get ⟨AList.insert (SharedStore.ordinal n) record ∅, 0,
      SharedStore.ordinal n + 1⟩ (SharedStore.ordinal n) = some record := fun record => AList.lookup_insert _
  have hopened : run step ⟨⟨∅, 1, SharedStore.ordinal n⟩, guards, calls, (List.range n).map SharedStore.ordinal⟩
      ((openAndClose n).take 3) =
      ⟨⟨AList.insert (SharedStore.ordinal n) ⟨.v4 ⟨127, 0, 0, 1⟩ 1081, .v4 ⟨127, 0, 0, 1⟩ 50000, 0⟩ ∅, 0,
          SharedStore.ordinal n + 1⟩, guards, calls ++ [.release 0 (some (SharedStore.ordinal n))],
        (List.range n).map SharedStore.ordinal ++ [SharedStore.ordinal n]⟩ := by
    simp [openAndClose, step, storeOps, SharedStore.step, SharedStore.openWith, SlotStore.tryReserve,
      SharedStore.stepCall, hlast, hset, SlotStore.draw, SlotStore.file]
  have hsplit : openAndClose n = (openAndClose n).take 3 ++
      [.closeAssociation (SharedStore.ordinal n), .step (2 * n + 1)] := rfl
  rw [hsplit, run_append, hopened]
  simp only [run_cons, run_nil, step, storeOps, SharedStore.step, SlotStore.takeOut, hget, SharedStore.stepCall, hnext]
  refine ⟨?_, ?_, ?_⟩
  · simp only [SlotStore.release, SharedStore.ordinal_succ]
    congr 1
    exact AList.ext (List.kerase_cons_eq rfl)
  · simp [hcalls]; omega
  · rw [List.range_succ, List.map_append, List.map_singleton]

theorem afterRounds_run (n : ℕ) : AfterRounds n (run step (start 1) (rounds n)) := by
  induction n with
  | zero => exact ⟨rfl, rfl, rfl⟩
  | succ n ih =>
    rw [rounds, List.range_succ, List.flatMap_append, run_append, List.flatMap_singleton]
    exact afterRounds_openAndClose ih

/-- **Ids come round.** After 2^64 associations, opened and closed one after the other, the next one has an id that was
used before. -/
theorem ids_come_round :
    ¬∀ maxAssociations ops, (run step (start maxAssociations) ops).drawn.Pairwise (· < ·) ∧
      (run step (start maxAssociations) ops).drawn.Nodup := by
  intro h
  have hdrawn := (afterRounds_run (2 ^ 64 + 1)).drawn
  have hnodup := (h 1 (rounds (2 ^ 64 + 1))).2
  rw [hdrawn] at hnodup
  have hinjective := List.inj_on_of_nodup_map hnodup
  have hsame : SharedStore.ordinal 0 = SharedStore.ordinal (2 ^ 64) := by decide
  have hzero := hinjective (List.mem_range.2 (by decide)) (List.mem_range.2 (by decide)) hsame
  exact absurd hzero (by decide)

end N0wss.Session.SharedUdpRegistry
