/-
The relay loop of one UDP ASSOCIATE session (`run_udp_relay_runtime_loop` in `socks5/udp_associate.rs`): receive, parse,
hand over, and again. What is received and what the hand-over returns are inputs.

Both the parser's error and the hand-over's end the loop, with a `?` each.

- `isRunning_iff`: the loop is still running after some datagrams exactly when all of them were accepted.
- `relay_loop_survives_iff`: it goes on through datagrams that are not for it, and forwards the others as if they had
  not come, if and only if there were none.
- `foreign_datagram_ends_loop`: one empty datagram from another process, and the client's own are not forwarded.
-/
import N0wss.Core.Machine
import N0wss.Socks5.UdpAssociate

namespace N0wss.Socks5

open Datagram Net

/-! ## The loop -/

def hintedClientAddr : TargetAddr → Option SocketAddr
  | .ip addr => if !addr.ip.isUnspecified && addr.port != 0 then some addr else none
  | .domain _ _ => none

/-- one call of `forward_runtime_datagram` -/
structure Forward where
  relayAddr : SocketAddr
  expectedClientAddr : SocketAddr
  target : DatagramTarget
  payload : List UInt8
deriving DecidableEq, Repr

inductive LoopStatus where
  | running (expectedSource : Option SocketAddr)
  | ended (result : Except UdpAssociateError Unit)
deriving DecidableEq

def LoopStatus.isRunning : LoopStatus → Bool
  | .running _ => true
  | .ended _ => false

inductive LoopInput where
  | received (packet : Received)
  | receiveError (detail : String)
  | cancelled
deriving DecidableEq

/-- from a received packet to the call that hands it over -/
def forwardOf (relayAddr : SocketAddr) (expectedSource : Option SocketAddr) (packet : Received) :
    Except UdpAssociateError Forward := do
  let learnedSource := expectedSource.getD packet.source
  let envelope ← parseUdpDatagram packet.source learnedSource packet.bytes 0
  .ok ⟨relayAddr, learnedSource, envelope.target, envelope.payload⟩

/-- one turn, and the call it makes; `handOff` is what that call returns -/
def relayTurn (relayAddr : SocketAddr) (handOff : Except UdpAssociateError Unit) :
    LoopStatus → LoopInput → LoopStatus × Option Forward
  | .ended result, _ => (.ended result, none)
  | .running _, .cancelled => (.ended (.ok ()), none)
  | .running _, .receiveError detail => (.ended (.error (.io detail)), none)
  | .running expectedSource, .received packet =>
    match forwardOf relayAddr expectedSource packet with
    | .error err => (.ended (.error err), none)
    | .ok call =>
      match handOff with
      | .error err => (.ended (.error err), some call)
      | .ok () => (.running (some call.expectedClientAddr), some call)

/-! ## Runs without cancellation or receive error -/

/-- a datagram, and what handing it over would return -/
structure Arrival where
  packet : Received
  handOff : Except UdpAssociateError Unit
deriving DecidableEq

/-- where the loop is after some arrivals -/
def statusAfter (relayAddr : SocketAddr) (status : LoopStatus) (arrivals : List Arrival) : LoopStatus :=
  Machine.run (fun status a => (relayTurn relayAddr a.handOff status (.received a.packet)).1) status arrivals

/-- the call made for each arrival, if one was -/
def forwards (relayAddr : SocketAddr) : LoopStatus → List Arrival → List (Option Forward)
  | _, [] => []
  | status, a :: arrivals =>
    (relayTurn relayAddr a.handOff status (.received a.packet)).2 ::
      forwards relayAddr (relayTurn relayAddr a.handOff status (.received a.packet)).1 arrivals

/-- the loop as it starts -/
def relayLoop (clientHint : TargetAddr) : LoopStatus := .running (hintedClientAddr clientHint)

/-! ## Accepted datagrams -/

/-- from this source the packet parses, and handing it over succeeds -/
def Accepted (source : SocketAddr) (a : Arrival) : Prop :=
  (parseUdpDatagram a.packet.source source a.packet.bytes 0).isOk = true ∧ a.handOff = .ok ()

instance (source : SocketAddr) (a : Arrival) : Decidable (Accepted source a) := inferInstanceAs (Decidable (_ ∧ _))

theorem relayTurn_of_accepted (relayAddr : SocketAddr) {expectedSource : Option SocketAddr} {a : Arrival}
    (h : Accepted (expectedSource.getD a.packet.source) a) :
    (relayTurn relayAddr a.handOff (.running expectedSource) (.received a.packet)).1 =
      .running (some (expectedSource.getD a.packet.source)) := by
  obtain ⟨hparse, hhandOff⟩ := h
  cases henvelope : parseUdpDatagram a.packet.source (expectedSource.getD a.packet.source) a.packet.bytes 0 with
  | error err => rw [henvelope] at hparse; cases hparse
  | ok envelope => simp only [relayTurn, forwardOf, henvelope, hhandOff, bind, Except.bind]

theorem relayTurn_of_not_accepted (relayAddr : SocketAddr) {expectedSource : Option SocketAddr} {a : Arrival}
    (h : ¬Accepted (expectedSource.getD a.packet.source) a) :
    (relayTurn relayAddr a.handOff (.running expectedSource) (.received a.packet)).1.isRunning = false := by
  cases hparse : parseUdpDatagram a.packet.source (expectedSource.getD a.packet.source) a.packet.bytes 0 with
  | error err => simp only [relayTurn, forwardOf, hparse, bind, Except.bind, LoopStatus.isRunning]
  | ok envelope =>
    cases hhandOff : a.handOff with
    | error err => simp only [relayTurn, forwardOf, hparse, bind, Except.bind, LoopStatus.isRunning]
    | ok u => exact absurd ⟨by rw [hparse]; rfl, hhandOff⟩ h

theorem statusAfter_ended (relayAddr : SocketAddr) (result : Except UdpAssociateError Unit) (arrivals : List Arrival) :
    statusAfter relayAddr (.ended result) arrivals = .ended result := by
  induction arrivals with
  | nil => rfl
  | cons a arrivals ih => exact ih

theorem isRunning_statusAfter_of_not_running (relayAddr : SocketAddr) {status : LoopStatus}
    (h : status.isRunning = false) (arrivals : List Arrival) :
    (statusAfter relayAddr status arrivals).isRunning = false := by
  cases status with
  | running expectedSource => cases h
  | ended result => rw [statusAfter_ended]; rfl

/-- the source that a loop serves: the one it knows, or the first it hears from -/
def servedSource (expectedSource : Option SocketAddr) (arrivals : List Arrival) : Option SocketAddr :=
  expectedSource.or (arrivals.head?.map fun a => a.packet.source)

theorem servedSource_cons (expectedSource : Option SocketAddr) (a : Arrival) (arrivals : List Arrival) :
    servedSource expectedSource (a :: arrivals) = some (expectedSource.getD a.packet.source) := by
  cases expectedSource with
  | none => rfl
  | some source => rfl

/-- **The loop runs on exactly as long as everything is accepted.** -/
theorem isRunning_iff (relayAddr : SocketAddr) (expectedSource : Option SocketAddr) (arrivals : List Arrival) :
    (statusAfter relayAddr (.running expectedSource) arrivals).isRunning = true ↔
      ∀ source ∈ servedSource expectedSource arrivals, ∀ a ∈ arrivals, Accepted source a := by
  induction arrivals generalizing expectedSource with
  | nil => simp [statusAfter, LoopStatus.isRunning]
  | cons a arrivals ih =>
    set source := expectedSource.getD a.packet.source with hsource
    have hserved : servedSource expectedSource (a :: arrivals) = some source := servedSource_cons _ _ _
    simp only [hserved, Option.mem_def, Option.some.injEq, forall_eq', List.forall_mem_cons]
    have hcons : statusAfter relayAddr (.running expectedSource) (a :: arrivals) =
        statusAfter relayAddr (relayTurn relayAddr a.handOff (.running expectedSource) (.received a.packet)).1
          arrivals := rfl
    rw [hcons]
    by_cases ha : Accepted source a
    · have hserved' : servedSource (some source) arrivals = some source := rfl
      rw [relayTurn_of_accepted relayAddr ha, ih, hserved']
      simp only [Option.mem_def, Option.some.injEq, forall_eq', ha, true_and]
    · have hended := isRunning_statusAfter_of_not_running relayAddr (relayTurn_of_not_accepted relayAddr ha) arrivals
      rw [hended]
      exact ⟨nofun, fun h => absurd h.1 ha⟩

/-! ## Datagrams among others -/

/-- those whose mark is not set -/
def others {α : Type} (inserted : List Bool) (l : List α) : List α :=
  ((inserted.zip l).filter fun p => !p.1).map Prod.snd

/-- every marked datagram is one that the parser or the hand-over rejects, given the source learned from the others -/
def InsertedRejected : Option SocketAddr → List (Bool × Arrival) → Prop
  | _, [] => True
  | expectedSource, (true, a) :: rest =>
    ¬Accepted (expectedSource.getD a.packet.source) a ∧ InsertedRejected expectedSource rest
  | expectedSource, (false, a) :: rest =>
    InsertedRejected
      (if Accepted (expectedSource.getD a.packet.source) a then some (expectedSource.getD a.packet.source)
        else expectedSource)
      rest

theorem others_of_none_inserted {α : Type} {inserted : List Bool} {l : List α} (hlen : inserted.length = l.length)
    (h : ∀ mark ∈ inserted, mark = false) : others inserted l = l := by
  induction inserted generalizing l with
  | nil =>
    obtain rfl : l = [] := List.length_eq_zero_iff.1 hlen.symm
    rfl
  | cons mark inserted ih =>
    cases l with
    | nil => cases hlen
    | cons x l =>
      obtain rfl := h mark List.mem_cons_self
      have htail := ih (Nat.succ.inj hlen) fun m hm => h m (List.mem_cons_of_mem _ hm)
      simp only [others, List.zip_cons_cons, List.filter_cons, Bool.not_false, if_true, List.map_cons] at htail ⊢
      rw [htail]

/-- where everything is accepted, nothing was inserted -/
theorem none_inserted {expectedSource : Option SocketAddr} {arrivals : List Arrival} {inserted : List Bool}
    (hlen : inserted.length = arrivals.length)
    (haccepted : ∀ source ∈ servedSource expectedSource arrivals, ∀ a ∈ arrivals, Accepted source a)
    (h : InsertedRejected expectedSource (inserted.zip arrivals)) : ∀ mark ∈ inserted, mark = false := by
  induction arrivals generalizing expectedSource inserted with
  | nil =>
    obtain rfl : inserted = [] := List.length_eq_zero_iff.1 hlen
    nofun
  | cons a arrivals ih =>
    cases inserted with
    | nil => cases hlen
    | cons mark inserted =>
      set source := expectedSource.getD a.packet.source with hsource
      have hserved : servedSource expectedSource (a :: arrivals) = some source := servedSource_cons _ _ _
      have hall : ∀ b ∈ a :: arrivals, Accepted source b := haccepted source hserved
      have ha : Accepted source a := hall a List.mem_cons_self
      cases mark with
      | true => exact absurd ha h.1
      | false =>
        have hrest : InsertedRejected (some source) (inserted.zip arrivals) := by
          simpa only [List.zip_cons_cons, InsertedRejected, ← hsource, if_pos ha] using h
        have htail : ∀ s ∈ servedSource (some source) arrivals, ∀ b ∈ arrivals, Accepted s b := by
          intro s hs b hb
          obtain rfl : source = s := Option.some.inj hs
          exact hall b (List.mem_cons_of_mem a hb)
        intro m hm
        rcases List.mem_cons.1 hm with rfl | hm
        · rfl
        · exact ih (Nat.succ.inj hlen) htail hrest m hm

/-! ## Main result -/

/-- after these datagrams the loop still runs, and whichever of them are taken to be inserted, each of the others was
forwarded as it is without them -/
def SurvivesBadInput (relayAddr : SocketAddr) (clientHint : TargetAddr) (arrivals : List Arrival) : Prop :=
  (statusAfter relayAddr (relayLoop clientHint) arrivals).isRunning = true ∧
    ∀ inserted : List Bool, inserted.length = arrivals.length →
      InsertedRejected (hintedClientAddr clientHint) (inserted.zip arrivals) →
        others inserted (forwards relayAddr (relayLoop clientHint) arrivals) =
          forwards relayAddr (relayLoop clientHint) (others inserted arrivals)

theorem length_forwards (relayAddr : SocketAddr) (status : LoopStatus) (arrivals : List Arrival) :
    (forwards relayAddr status arrivals).length = arrivals.length := by
  induction arrivals generalizing status with
  | nil => rfl
  | cons a arrivals ih => simp only [forwards, List.length_cons, ih]

/-- **The loop and bad input.** The loop survives the datagrams it receives, and forwards all but the inserted ones as if
those had not come, if and only if every one of them is from the source the loop serves, parses, and is handed over
without an error. -/
theorem relay_loop_survives_iff (relayAddr : SocketAddr) (clientHint : TargetAddr) (arrivals : List Arrival) :
    SurvivesBadInput relayAddr clientHint arrivals ↔
      ∀ source ∈ servedSource (hintedClientAddr clientHint) arrivals, ∀ a ∈ arrivals, Accepted source a := by
  constructor
  · rintro ⟨hrunning, -⟩
    exact (isRunning_iff relayAddr _ arrivals).1 hrunning
  · intro haccepted
    refine ⟨(isRunning_iff relayAddr _ arrivals).2 haccepted, ?_⟩
    intro inserted hlen hrejected
    have hnone := none_inserted hlen haccepted hrejected
    rw [others_of_none_inserted hlen hnone,
      others_of_none_inserted (hlen.trans (length_forwards relayAddr _ arrivals).symm) hnone]

/-- an empty datagram from another process, and the client's first -/
def foreignThenOwn : List Arrival :=
  [⟨⟨[], .v4 ⟨127, 0, 0, 1⟩ 6000, by decide⟩, .ok ()⟩,
    ⟨⟨[0, 0, 0, 1, 8, 8, 8, 8, 0, 53, 0xCA, 0xFE], .v4 ⟨127, 0, 0, 1⟩ 50000, by decide⟩, .ok ()⟩]

/-- **One bad datagram ends the loop.** Without the foreign datagram the client's own is forwarded; behind it, nothing is. -/
theorem foreign_datagram_ends_loop :
    let relayAddr : SocketAddr := .v4 ⟨127, 0, 0, 1⟩ 1081
    let clientHint : TargetAddr := .ip (.v4 ⟨0, 0, 0, 0⟩ 0)
    InsertedRejected (hintedClientAddr clientHint) ([true, false].zip foreignThenOwn) ∧
      forwards relayAddr (relayLoop clientHint) (others [true, false] foreignThenOwn) =
        [some ⟨relayAddr, .v4 ⟨127, 0, 0, 1⟩ 50000, .ip (.v4 ⟨8, 8, 8, 8⟩ 53), [0xCA, 0xFE]⟩] ∧
      others [true, false] (forwards relayAddr (relayLoop clientHint) foreignThenOwn) = [none] ∧
      ¬SurvivesBadInput relayAddr clientHint foreignThenOwn := by
  intro relayAddr clientHint
  have hrejected : InsertedRejected (hintedClientAddr clientHint) ([true, false].zip foreignThenOwn) :=
    ⟨by decide, trivial⟩
  refine ⟨hrejected, by decide, by decide, ?_⟩
  rintro ⟨hrunning, -⟩
  exact absurd hrunning (by decide)

end N0wss.Socks5
