/-
Whom one relay loop serves (`run_udp_relay_runtime_loop` in `socks5/udp_associate.rs`), over every sequence of turns:
packets from any source, receive errors, cancellation, and any outcome of handing a packet over.

The source is learned from the first packet, unless the control request named it, and kept once that packet was accepted.

- `callsOf_ended`: a loop that has ended hands nothing over.
- `exists_prefix_forwarded`: the calls made are, in order, the packets of a prefix, each parsed as the source's own.
- `relay_serves_one_source`: the same from the start of the loop, with the one source spelled out.
-/
import N0wss.Core.Stages
import N0wss.Socks5.RelayLoop

namespace N0wss.Socks5

open Datagram Net

/-! ## Turns -/

/-- what one turn of the loop waits for, and what handing a packet over would return -/
structure Turn where
  input : LoopInput
  handOff : Except UdpAssociateError Unit
deriving DecidableEq

def LoopInput.packet : LoopInput → Option Received
  | .received packet => some packet
  | .receiveError _ => none
  | .cancelled => none

/-- the packets that come in, in order -/
def packetsOf (turns : List Turn) : List Received := turns.filterMap fun t => t.input.packet

/-- the calls of `forward_runtime_datagram`, in order -/
def callsOf (relayAddr : SocketAddr) : LoopStatus → List Turn → List Forward
  | _, [] => []
  | status, t :: turns =>
    (relayTurn relayAddr t.handOff status t.input).2.toList ++
      callsOf relayAddr (relayTurn relayAddr t.handOff status t.input).1 turns

/-- this packet came from this source, and this call is the packet as it parses -/
def ForwardedAs (relayAddr source : SocketAddr) (packet : Received) (call : Forward) : Prop :=
  packet.source = source ∧
    ∃ envelope, parseUdpDatagram packet.source source packet.bytes 0 = .ok envelope ∧
      call = ⟨relayAddr, source, envelope.target, envelope.payload⟩

theorem callsOf_ended (relayAddr : SocketAddr) (result : Except UdpAssociateError Unit) (turns : List Turn) :
    callsOf relayAddr (.ended result) turns = [] := by
  induction turns with
  | nil => rfl
  | cons t turns ih => exact ih

theorem forwardOf_forwardedAs {relayAddr : SocketAddr} {expectedSource : Option SocketAddr} {packet : Received}
    {call : Forward} (h : forwardOf relayAddr expectedSource packet = .ok call) :
    ForwardedAs relayAddr (expectedSource.getD packet.source) packet call := by
  obtain ⟨envelope, hparse, hcall⟩ := Stages.bind_eq_ok_iff.1 h
  cases hcall
  obtain ⟨address, haccepted⟩ := parseUdpDatagram_eq_ok hparse
  exact ⟨haccepted.owned, envelope, hparse, rfl⟩

theorem expectedClientAddr_of_forwarded {relayAddr source : SocketAddr} {packets : List Received} {calls : List Forward}
    (h : List.Forall₂ (ForwardedAs relayAddr source) packets calls) {call : Forward} (hcall : call ∈ calls) :
    call.expectedClientAddr = source := by
  induction h with
  | nil => cases hcall
  | cons hfirst hrest ih =>
    rcases List.mem_cons.1 hcall with rfl | hcall
    · obtain ⟨-, envelope, -, rfl⟩ := hfirst
      rfl
    · exact ih hcall

/-- **The calls are the packets of a prefix.** For the source the loop knows, or else the first it hears from. -/
theorem exists_prefix_forwarded (relayAddr source : SocketAddr) {expectedSource : Option SocketAddr} {turns : List Turn}
    (hsource : ∀ s ∈ expectedSource.or ((packetsOf turns).head?.map fun packet => packet.source), s = source) :
    ∃ n, List.Forall₂ (ForwardedAs relayAddr source) ((packetsOf turns).take n)
      (callsOf relayAddr (.running expectedSource) turns) := by
  induction turns generalizing expectedSource with
  | nil => exact ⟨0, List.Forall₂.nil⟩
  | cons t turns ih =>
    obtain ⟨input, handOff⟩ := t
    cases input with
    | cancelled => exact ⟨0, by rw [callsOf, relayTurn, callsOf_ended]; exact List.Forall₂.nil⟩
    | receiveError detail => exact ⟨0, by rw [callsOf, relayTurn, callsOf_ended]; exact List.Forall₂.nil⟩
    | received packet =>
      have hlearned : expectedSource.getD packet.source = source := by
        cases expectedSource with
        | none => exact hsource packet.source rfl
        | some s => exact hsource s rfl
      cases hcall : forwardOf relayAddr expectedSource packet with
      | error err => exact ⟨0, by simp only [callsOf, relayTurn, hcall, callsOf_ended]; exact List.Forall₂.nil⟩
      | ok call =>
        have hforwarded : ForwardedAs relayAddr source packet call := hlearned ▸ forwardOf_forwardedAs hcall
        have hclient : call.expectedClientAddr = source := by
          obtain ⟨-, envelope, -, rfl⟩ := hforwarded
          rfl
        cases handOff with
        | error err =>
          refine ⟨1, ?_⟩
          simp only [callsOf, relayTurn, hcall, callsOf_ended]
          exact List.Forall₂.cons hforwarded List.Forall₂.nil
        | ok u =>
          -- from here on the source is known
          have hrest : ∀ s ∈ (some source).or ((packetsOf turns).head?.map fun packet => packet.source), s = source := by
            intro s hs
            exact (Option.some.inj hs).symm
          obtain ⟨n, hn⟩ := ih hrest
          refine ⟨n + 1, ?_⟩
          simp only [callsOf, relayTurn, hcall, hclient]
          exact List.Forall₂.cons hforwarded hn

/-! ## Main result -/

theorem hintedClientAddr_of_specified {addr : SocketAddr} (hip : addr.ip.isUnspecified = false) (hport : addr.port ≠ 0) :
    hintedClientAddr (.ip addr) = some addr := by
  simp [hintedClientAddr, hip, hport]

theorem hintedClientAddr_of_not_specified {clientHint : TargetAddr}
    (h : ∀ addr, clientHint = .ip addr → addr.ip.isUnspecified = true ∨ addr.port = 0) :
    hintedClientAddr clientHint = none := by
  cases clientHint with
  | domain domain port => rfl
  | ip addr =>
    rcases h addr rfl with hip | hport
    · simp [hintedClientAddr, hip]
    · simp [hintedClientAddr, hport]

/-- **One source.** Whatever comes in and however handing over ends, there is one address that every call carries as the
expected client, and that every packet handed over came from: the one the control request named, if it is a specified
address with a port, else the source of the first packet. The calls are, in order, the packets of a prefix of what came
in, each with the target and the payload it parses to. -/
theorem relay_serves_one_source (relayAddr : SocketAddr) (clientHint : TargetAddr) (turns : List Turn) :
    ∃ source,
      (∀ addr, clientHint = .ip addr → addr.ip.isUnspecified = false → addr.port ≠ 0 → source = addr) ∧
      ((∀ addr, clientHint = .ip addr → addr.ip.isUnspecified = true ∨ addr.port = 0) →
        ∀ first ∈ (packetsOf turns).head?, source = first.source) ∧
      (∀ call ∈ callsOf relayAddr (relayLoop clientHint) turns, call.expectedClientAddr = source) ∧
      ∃ n, List.Forall₂ (ForwardedAs relayAddr source) ((packetsOf turns).take n)
        (callsOf relayAddr (relayLoop clientHint) turns) := by
  set served := (hintedClientAddr clientHint).or ((packetsOf turns).head?.map fun packet => packet.source) with hserved
  -- with no hint and no packet there is no call either, and any address will do
  set source := served.getD relayAddr with hsource
  have hone : ∀ s ∈ served, s = source := by
    intro s hs
    rw [hsource, Option.mem_def.1 hs, Option.getD_some]
  obtain ⟨n, hn⟩ := exists_prefix_forwarded relayAddr source hone
  refine ⟨source, ?_, ?_, ?_, n, hn⟩
  · rintro addr rfl hip hport
    exact (hone addr (by rw [hserved, hintedClientAddr_of_specified hip hport]; rfl)).symm
  · intro hnot first hfirst
    refine (hone first.source ?_).symm
    rw [hserved, hintedClientAddr_of_not_specified hnot, Option.mem_def.1 hfirst]
    rfl
  · intro call hcall
    exact expectedClientAddr_of_forwarded hn hcall

end N0wss.Socks5
