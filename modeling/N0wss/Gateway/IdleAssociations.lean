/-
Which associations `reap_idle` takes for idle (`session/udp_registry.rs`), over runs of outbound datagrams, replies on both
inbound paths, and reaping. An outbound datagram and `forward_inbound_datagram` touch the association; the gateway's
handler (`ClientDatagramInboundTarget::handle_inbound` in `cli/mod.rs`) looks it up and sends.

- `inv_step`: an association's last activity is its latest touch.
- `used_kept_iff`: no association in use is reaped exactly where every reply of the gateway's handler comes with a touch.
- `answered_association_reaped`: an association that gets replies, and sends nothing, is reaped.
-/
import N0wss.Gateway.ReplyOwner
import N0wss.Session.RejectedDatagram

namespace N0wss.Gateway.IdleAssociations

open Datagram Machine Net Session Socks5 UdpAssociationRegistry

variable {Socket : Type} (v6 : Ipv6Text)

/-! ## Runs -/

inductive Op (Socket : Type) where
  /-- `DatagramRuntimeBridge::forward_runtime_datagram`, with what the outbound target says -/
  | outbound (relayAddr expectedClientAddr : SocketAddr) (target : DatagramTarget) (payload : List UInt8)
    (dispatch : DatagramEnvelope → Except String Unit) (now : Instant)
  /-- `ClientDatagramInboundTarget::handle_inbound`, with the relay sockets and how sending the packet ends -/
  | handleInbound (relaySockets : UdpRelaySocketRegistry Socket) (envelope : DatagramEnvelope)
    (sendTo : Delivery Socket → Except String Unit) (now : Instant)
  /-- `DatagramSessionManager::forward_inbound_datagram`, with what the inbound target says -/
  | forwardInbound (envelope : DatagramEnvelope) (dispatch : DatagramEnvelope → Except String Unit) (now : Instant)
  | reapIdle (maxIdle : Duration) (now : Instant)

def Op.time : Op Socket → Instant
  | .outbound _ _ _ _ _ now | .handleInbound _ _ _ now | .forwardInbound _ _ now | .reapIdle _ now => now

/-- something that happened to an association, and when -/
structure Use where
  id : DatagramAssociationId
  time : Instant
deriving DecidableEq, Repr

structure World where
  registry : UdpAssociationRegistry
  /-- the time of the last call -/
  clock : Instant
  /-- the associations that a call opened or touched -/
  touched : List Use
  /-- the associations that the gateway's handler delivered a datagram for -/
  delivered : List Use
  /-- the associations that a datagram was accepted or delivered for, on any path -/
  used : List Use

def start (slots : ℕ) : World := ⟨SlotStore.new slots, 0, [], [], []⟩

def logIf (happened : Bool) (log : List Use) (u : Use) : List Use := if happened then log ++ [u] else log

def stepOutbound (w : World) (relayAddr expectedClientAddr : SocketAddr) (target : DatagramTarget)
    (payload : List UInt8) (dispatch : DatagramEnvelope → Except String Unit) (now : Instant) : World :=
  let after := forwardRuntimeDatagram dispatch w.registry relayAddr expectedClientAddr target payload now
  match (ensureOutboundAssociation w.registry relayAddr expectedClientAddr now).1 with
  | .error _ => { w with registry := after.2, clock := now }
  | .ok (id, _) =>
    { w with registry := after.2
             clock := now
             touched := w.touched ++ [⟨id, now⟩]
             used := logIf after.1.isOk w.used ⟨id, now⟩ }

/-- the packet was sent -/
def isDelivered (result : Await (Except String Unit)) : Bool := (result.map fun r => r.2.isOk).getD false

def stepHandleInbound (w : World) (relaySockets : UdpRelaySocketRegistry Socket) (envelope : DatagramEnvelope)
    (sendTo : Delivery Socket → Except String Unit) (now : Instant) : World :=
  let after := ClientDatagramInboundTarget.handleInbound v6 (fun delivery => some (0, sendTo delivery))
    ⟨w.registry, relaySockets⟩ envelope
  let happened := isDelivered after.1.result
  { w with registry := after.2.registry
           clock := now
           delivered := logIf happened w.delivered ⟨envelope.associationId, now⟩
           used := logIf happened w.used ⟨envelope.associationId, now⟩ }

def stepForwardInbound (w : World) (envelope : DatagramEnvelope) (dispatch : DatagramEnvelope → Except String Unit)
    (now : Instant) : World :=
  let after := forwardInboundDatagram dispatch w.registry envelope now
  { w with registry := after.2
           clock := now
           touched := logIf (w.registry.get envelope.associationId).isSome w.touched ⟨envelope.associationId, now⟩
           used := logIf after.1.isOk w.used ⟨envelope.associationId, now⟩ }

def step (w : World) : Op Socket → World
  | .outbound relayAddr expectedClientAddr target payload dispatch now =>
    stepOutbound w relayAddr expectedClientAddr target payload dispatch now
  | .handleInbound relaySockets envelope sendTo now => stepHandleInbound v6 w relaySockets envelope sendTo now
  | .forwardInbound envelope dispatch now => stepForwardInbound w envelope dispatch now
  | .reapIdle maxIdle now => { w with registry := (w.registry.reapIdle maxIdle now).2, clock := now }

/-- the clock does not go back -/
def InOrder (w : World) (o : Op Socket) : Prop := w.clock ≤ o.time

/-- where the step reaps, it leaves every association that was used within the bound -/
def KeepsUsed (w : World) : Op Socket → Prop
  | .reapIdle maxIdle now => ∀ u ∈ w.used, now - u.time ≤ maxIdle → u.id ∉ (w.registry.reapIdle maxIdle now).1
  | _ => True

/-- where the step reaps, every association that the gateway's handler delivered for within the bound, and that is still
there, was touched within it too -/
def TouchedToo (w : World) : Op Socket → Prop
  | .reapIdle maxIdle now => ∀ u ∈ w.delivered, now - u.time ≤ maxIdle → (w.registry.get u.id).isSome = true →
      ∃ t ∈ w.touched, t.id = u.id ∧ now - t.time ≤ maxIdle
  | _ => True

/-! ## Activity -/

/-- the association is there and was active at `now`, and the others are as they were -/
def Refreshed (id : DatagramAssociationId) (now : Instant) (reg reg' : UdpAssociationRegistry) : Prop :=
  (∃ record, reg'.get id = some record ∧ record.lastActivity = now) ∧ ∀ id', id' ≠ id → reg'.get id' = reg.get id'

variable {reg reg' reg'' : UdpAssociationRegistry} {id : DatagramAssociationId} {now : Instant}

theorem Refreshed.trans (h : Refreshed id now reg reg') (h' : Refreshed id now reg' reg'') : Refreshed id now reg reg'' :=
  ⟨h'.1, fun id' hne => (h'.2 id' hne).trans (h.2 id' hne)⟩

theorem refreshed_touchAssociation (now : Instant) {record : UdpAssociationRecord} (hget : reg.get id = some record) :
    Refreshed id now reg (reg.touchAssociation id now).2 := by
  rw [touchAssociation_of_get hget]
  refine ⟨⟨{ record with lastActivity := now }, ?_, rfl⟩, fun id' hne => SlotStore.get_update_of_ne hne _⟩
  rw [SlotStore.get_update_self, hget]
  rfl

theorem refreshed_ensureOutboundAssociation {relayAddr expectedClientAddr : SocketAddr} {record : UdpAssociationRecord}
    (h : ensureOutboundAssociation reg relayAddr expectedClientAddr now = (.ok (id, record), reg')) :
    Refreshed id now reg reg' := by
  unfold ensureOutboundAssociation at h
  cases hfind : reg.findByEndpoints relayAddr expectedClientAddr with
  | some found =>
    obtain ⟨found, old⟩ := found
    have hget := (findByEndpoints_eq_some hfind).1
    have htouched := refreshed_touchAssociation now hget
    rw [touchAssociation_of_get hget] at htouched
    simp only [hfind, touchAssociation_of_get hget, Prod.mk.injEq, Except.ok.injEq] at h
    obtain ⟨⟨rfl, -⟩, rfl⟩ := h
    exact htouched
  | none =>
    simp only [hfind] at h
    obtain ⟨-, rfl, rfl, rfl⟩ := openAssociation_eq_ok (openManagedAssociation_eq_ok h)
    exact ⟨⟨_, SlotStore.get_insert_self _ _, rfl⟩, fun id' hne => SlotStore.get_insert_of_ne hne _⟩

/-- an outbound datagram that has an association leaves it active, whatever becomes of the datagram -/
theorem refreshed_forwardRuntimeDatagram {relayAddr expectedClientAddr : SocketAddr} {record : UdpAssociationRecord}
    (h : ensureOutboundAssociation reg relayAddr expectedClientAddr now = (.ok (id, record), reg'))
    (dispatch : DatagramEnvelope → Except String Unit) (target : DatagramTarget) (payload : List UInt8) :
    Refreshed id now reg
      (forwardRuntimeDatagram dispatch reg relayAddr expectedClientAddr target payload now).2 := by
  have hensured := refreshed_ensureOutboundAssociation h
  have hget := (ensureOutboundAssociation_eq_ok h).1
  have htouched := refreshed_touchAssociation now hget
  rw [touchAssociation_of_get hget] at htouched
  cases hvalid : (DatagramEnvelope.mk id expectedClientAddr target payload).validate with
  | error err =>
    simp only [forwardRuntimeDatagram, acceptOutboundDatagram, outboundEnvelope, h, hvalid]
    exact hensured
  | ok _ =>
    simp only [forwardRuntimeDatagram, acceptOutboundDatagram, outboundEnvelope, h, hvalid, forwardOutboundDatagram,
      forwardDatagram, touchAssociation_of_get hget]
    cases dispatch ⟨id, expectedClientAddr, target, payload⟩ with
    | error detail => exact hensured.trans htouched
    | ok _ => exact hensured.trans htouched

/-- and one that has none changes nothing -/
theorem forwardRuntimeDatagram_of_no_association {relayAddr expectedClientAddr : SocketAddr}
    {err : DatagramSessionError}
    (h : (ensureOutboundAssociation reg relayAddr expectedClientAddr now).1 = .error err)
    (dispatch : DatagramEnvelope → Except String Unit) (target : DatagramTarget) (payload : List UInt8) :
    (forwardRuntimeDatagram dispatch reg relayAddr expectedClientAddr target payload now).2 = reg ∧
      (forwardRuntimeDatagram dispatch reg relayAddr expectedClientAddr target payload now).1.isOk = false := by
  rcases ensureOutboundAssociation_leaves reg relayAddr expectedClientAddr now with
    ⟨opened, reg', hensure, -⟩ | hensure
  · rw [hensure] at h
    cases h
  · have hafter : forwardRuntimeDatagram dispatch reg relayAddr expectedClientAddr target payload now =
        (.error (mapRuntimeBridgeError .associationLimitReached), reg) := by
      simp only [forwardRuntimeDatagram, acceptOutboundDatagram, outboundEnvelope, hensure]
    rw [hafter]
    exact ⟨rfl, rfl⟩

theorem refreshed_forwardInboundDatagram {envelope : DatagramEnvelope} {record : UdpAssociationRecord}
    (hget : reg.get envelope.associationId = some record) (dispatch : DatagramEnvelope → Except String Unit) :
    Refreshed envelope.associationId now reg (forwardInboundDatagram dispatch reg envelope now).2 := by
  have htouched := refreshed_touchAssociation now hget
  rw [touchAssociation_of_get hget] at htouched
  simp only [forwardInboundDatagram, forwardDatagram, touchAssociation_of_get hget]
  cases dispatch envelope with
  | error detail => exact htouched
  | ok _ => exact htouched

/-! ## The invariant -/

theorem mem_logIf {happened : Bool} {log : List Use} {u v : Use} :
    u ∈ logIf happened log v ↔ u ∈ log ∨ happened = true ∧ u = v := by
  cases happened <;> simp [logIf]

/-- an association's last activity is its latest touch; whatever was used was touched, or is a reply of the handler -/
structure Inv (w : World) : Prop where
  past : ∀ u ∈ w.touched, u.time ≤ w.clock
  latest : ∀ id record, w.registry.get id = some record →
    ⟨id, record.lastActivity⟩ ∈ w.touched ∧ ∀ u ∈ w.touched, u.id = id → u.time ≤ record.lastActivity
  uses : ∀ u ∈ w.used, u ∈ w.touched ∨ u ∈ w.delivered
  counted : ∀ u ∈ w.delivered, u ∈ w.used

theorem inv_start (slots : ℕ) : Inv (start slots) where
  past := nofun
  latest id record hget := by rw [start, SlotStore.get_new] at hget; cases hget
  uses := nofun
  counted := nofun

/-- nothing that is touched by the time of a step was touched after it -/
theorem time_le_of_touched {w : World} (h : Inv w) (hnow : w.clock ≤ now) {u : Use}
    (hu : u ∈ w.touched ++ [⟨id, now⟩]) : u.time ≤ now := by
  rcases List.mem_append.1 hu with hold | hnew
  · exact (h.past u hold).trans hnow
  · rw [List.mem_singleton.1 hnew]

/-- an association that is opened or touched at the time of the step -/
theorem inv_refreshed {w : World} (h : Inv w) {registry : UdpAssociationRegistry} (hnow : w.clock ≤ now)
    (hrefreshed : Refreshed id now w.registry registry) (happened : Bool) :
    Inv { w with registry := registry, clock := now, touched := w.touched ++ [⟨id, now⟩]
                 used := logIf happened w.used ⟨id, now⟩ } where
  past u hu := time_le_of_touched h hnow hu
  latest id' record hget := by
    obtain ⟨⟨active, hactive, htime⟩, hothers⟩ := hrefreshed
    by_cases hid : id' = id
    · subst hid
      obtain rfl : active = record := Option.some.inj (hactive.symm.trans hget)
      refine ⟨List.mem_append_right _ (by rw [htime]; exact List.mem_singleton_self _), fun u hu _ => ?_⟩
      rw [htime]
      exact time_le_of_touched h hnow hu
    · obtain ⟨hmem, hlatest⟩ := h.latest id' record ((hothers id' hid).symm.trans hget)
      refine ⟨List.mem_append_left _ hmem, fun u hu hsame => ?_⟩
      rcases List.mem_append.1 hu with hold | hnew
      · exact hlatest u hold hsame
      · rw [List.mem_singleton.1 hnew] at hsame
        exact absurd hsame.symm hid
  uses u hu := by
    rcases mem_logIf.1 hu with hold | ⟨-, rfl⟩
    · exact (h.uses u hold).imp_left (List.mem_append_left _)
    · exact Or.inl (List.mem_append_right _ (List.mem_singleton_self _))
  counted u hu := mem_logIf.2 (Or.inl (h.counted u hu))

/-- the clock moves on, and associations go -/
theorem inv_fewer {w : World} (h : Inv w) {registry : UdpAssociationRegistry} (hnow : w.clock ≤ now)
    (hfewer : ∀ id record, registry.get id = some record → w.registry.get id = some record) :
    Inv { w with registry := registry, clock := now } where
  past u hu := (h.past u hu).trans hnow
  latest id record hget := h.latest id record (hfewer id record hget)
  uses := h.uses
  counted := h.counted

theorem inv_stepHandleInbound {w : World} (h : Inv w) (hnow : w.clock ≤ now)
    (relaySockets : UdpRelaySocketRegistry Socket) (envelope : DatagramEnvelope)
    (sendTo : Delivery Socket → Except String Unit) :
    Inv (stepHandleInbound v6 w relaySockets envelope sendTo now) where
  past u hu := (h.past u hu).trans hnow
  latest id record hget := by
    simp only [stepHandleInbound, handleInbound_target] at hget
    exact h.latest id record hget
  uses u hu := by
    rcases mem_logIf.1 hu with hold | hnew
    · exact (h.uses u hold).imp_right fun hmem => mem_logIf.2 (Or.inl hmem)
    · exact Or.inr (mem_logIf.2 (Or.inr hnew))
  counted u hu := by
    rcases mem_logIf.1 hu with hold | hnew
    · exact mem_logIf.2 (Or.inl (h.counted u hold))
    · exact mem_logIf.2 (Or.inr hnew)

/-- **One step** keeps the last activity of every association its latest touch. -/
theorem inv_step {w : World} {o : Op Socket} (h : Inv w) (horder : InOrder w o) : Inv (step v6 w o) := by
  cases o with
  | outbound relayAddr expectedClientAddr target payload dispatch now =>
    simp only [step, stepOutbound]
    cases hensure : ensureOutboundAssociation w.registry relayAddr expectedClientAddr now with
    | mk outcome reg' =>
      cases outcome with
      | error err =>
        have hsame := forwardRuntimeDatagram_of_no_association (congrArg Prod.fst hensure) dispatch target payload
        exact inv_fewer h horder fun id record hget => by rwa [hsame.1] at hget
      | ok opened =>
        exact inv_refreshed h horder (refreshed_forwardRuntimeDatagram hensure dispatch target payload) _
  | handleInbound relaySockets envelope sendTo now => exact inv_stepHandleInbound v6 h horder relaySockets envelope sendTo
  | forwardInbound envelope dispatch now =>
    simp only [step, stepForwardInbound]
    cases hget : w.registry.get envelope.associationId with
    | none =>
      simp only [forwardInboundDatagram, forwardDatagram, touchAssociation, hget]
      exact inv_fewer h horder fun _ _ hold => hold
    | some record =>
      exact inv_refreshed h horder (refreshed_forwardInboundDatagram hget dispatch) _
  | reapIdle maxIdle now => exact inv_fewer h horder fun _ _ hget => SlotStore.get_of_get_retain hget

/-! ## Reaping -/

theorem mem_reapIdle {maxIdle : Duration} :
    id ∈ (reg.reapIdle maxIdle now).1 ↔ ∃ record, reg.get id = some record ∧ maxIdle < now - record.lastActivity := by
  unfold reapIdle
  rw [SlotStore.mem_retain]
  simp only [decide_eq_false_iff_not, Nat.not_le]

theorem keepsUsed_iff {w : World} (h : Inv w) (o : Op Socket) : KeepsUsed w o ↔ TouchedToo w o := by
  cases o with
  | outbound relayAddr expectedClientAddr target payload dispatch now => exact Iff.rfl
  | handleInbound relaySockets envelope sendTo now => exact Iff.rfl
  | forwardInbound envelope dispatch now => exact Iff.rfl
  | reapIdle maxIdle now =>
    constructor
    · intro hkeeps u hu hwithin hthere
      obtain ⟨record, hget⟩ := Option.isSome_iff_exists.1 hthere
      have hactive : now - record.lastActivity ≤ maxIdle := by
        by_contra hidle
        exact hkeeps u (h.counted u hu) hwithin (mem_reapIdle.2 ⟨record, hget, Nat.lt_of_not_le hidle⟩)
      exact ⟨_, (h.latest u.id record hget).1, rfl, hactive⟩
    · intro htouched u hu hwithin hreaped
      obtain ⟨record, hget, hidle⟩ := mem_reapIdle.1 hreaped
      obtain ⟨-, hlatest⟩ := h.latest u.id record hget
      -- a touch within the bound would have kept it
      have hno : ∀ t ∈ w.touched, t.id = u.id → ¬now - t.time ≤ maxIdle := fun t ht hsame htime => by
        have hle := hlatest t ht hsame
        exact absurd ((Nat.sub_le_sub_left hle now).trans htime) (Nat.not_le_of_lt hidle)
      rcases h.uses u hu with htouch | hdelivered
      · exact hno u htouch rfl hwithin
      · obtain ⟨t, ht, hsame, htime⟩ := htouched u hdelivered hwithin (by rw [hget]; rfl)
        exact hno t ht hsame htime

/-- **An association in use is not reaped,** on a clock that does not go back, exactly where every association that the
gateway's handler delivered for within the bound was also touched within it. -/
theorem used_kept_iff (slots : ℕ) {ops : List (Op Socket)} (hclock : AllSteps (step v6) InOrder (start slots) ops) :
    AllSteps (step v6) KeepsUsed (start slots) ops ↔ AllSteps (step v6) TouchedToo (start slots) ops :=
  allSteps_congr_of_inv (fun _ _ => inv_step v6) (fun _ o h _ => keepsUsed_iff h o) (inv_start slots) hclock

/-! ## An association that only gets replies -/

/-- a client that sends a datagram, and its relay socket -/
def relayAddr : SocketAddr := .v4 ⟨127, 0, 0, 1⟩ 40000

def clientAddr : SocketAddr := .v4 ⟨127, 0, 0, 1⟩ 50000

def resolver : DatagramTarget := .ip (.v4 ⟨8, 8, 8, 8⟩ 53)

def query (now : Instant) : Op ℕ := .outbound relayAddr clientAddr resolver [0xCA] (fun _ => .ok ()) now

def reply (now : Instant) : Op ℕ :=
  .handleInbound (UdpRelaySocketRegistry.register ∅ relayAddr 3) ⟨1, clientAddr, resolver, [0xBE]⟩ (fun _ => .ok ()) now

instance (w : World) (o : Op Socket) : Decidable (InOrder w o) := inferInstanceAs (Decidable (_ ≤ _))

/-- a client that goes on sending keeps its association -/
theorem sending_association_kept : AllSteps (step Ipv6.std) KeepsUsed (start 8)
    [query 0, reply 100, query 110, .reapIdle 50 120] := by
  have hclock : AllSteps (step Ipv6.std) InOrder (start 8) [query 0, reply 100, query 110, .reapIdle 50 120] := by decide
  refine (used_kept_iff Ipv6.std 8 hclock).2 ⟨trivial, trivial, trivial, ?_, trivial⟩
  intro u hu _ _
  obtain rfl : u = ⟨1, 100⟩ := List.mem_singleton.1 hu
  exact ⟨⟨1, 110⟩, by decide, rfl, by decide⟩

/-- **An association that is answered is reaped:** its last reply is 20 ago and the bound is 50, but it has sent nothing for
120. -/
theorem answered_association_reaped : ¬ ∀ (v6 : Ipv6Text) (slots : ℕ) (ops : List (Op ℕ)),
    AllSteps (step v6) InOrder (start slots) ops → AllSteps (step v6) KeepsUsed (start slots) ops := by
  intro h
  have hclock : AllSteps (step Ipv6.std) InOrder (start 8) [query 0, reply 100, .reapIdle 50 120] := by decide
  have hkeeps := (h Ipv6.std 8 _ hclock).2.2.1 ⟨1, 100⟩ (by decide) (by decide)
  exact absurd hkeeps (by decide)

end N0wss.Gateway.IdleAssociations
