/-
Calls that can be cancelled while they wait. A call takes turns; what a turn does may depend on whether the call's token is
cancelled, and the token is cancelled at any point between two turns. The log has the cancellation and what the turns did.

- `Respects`: whatever a call does after its cancellation is fine.
- `respects_iff`: every log of a run respects its cancellation exactly where every turn that is taken after it does.
-/
import N0wss.Core.Machine

namespace N0wss.Cancellable

open Machine

variable {σ α ε : Type*}

inductive Event (ε : Type*) where
  | cancelled
  | did (e : ε)
deriving DecidableEq, Repr

inductive Op (α : Type*) where
  | cancel
  | turn (o : α)
deriving DecidableEq, Repr

structure Call (σ ε : Type*) where
  pc : σ
  cancelled : Bool
  log : List (Event ε)

/-! ## Runs -/

section
variable (turn : Bool → σ → α → σ × List ε)

def step (s : Call σ ε) : Op α → Call σ ε
  | .cancel => if s.cancelled then s else { s with cancelled := true, log := s.log ++ [.cancelled] }
  | .turn o =>
    let taken := turn s.cancelled s.pc o
    { s with pc := taken.1, log := s.log ++ taken.2.map Event.did }

def start (pc : σ) : Call σ ε := ⟨pc, false, []⟩

end

/-- what comes after the cancellation -/
def afterCancel : List (Event ε) → List (Event ε)
  | [] => []
  | .cancelled :: log => log
  | .did _ :: log => afterCancel log

def Respects (fine : ε → Prop) (log : List (Event ε)) : Prop := ∀ e, .did e ∈ afterCancel log → fine e

/-- where the step is a turn after the cancellation, what it does is fine -/
def TurnsFine (turn : Bool → σ → α → σ × List ε) (fine : ε → Prop) (s : Call σ ε) : Op α → Prop
  | .cancel => True
  | .turn o => s.cancelled = true → ∀ e ∈ (turn true s.pc o).2, fine e

variable {turn : Bool → σ → α → σ × List ε} {fine : ε → Prop}

theorem afterCancel_of_mem {log : List (Event ε)} (h : .cancelled ∈ log) (more : List (Event ε)) :
    afterCancel (log ++ more) = afterCancel log ++ more := by
  induction log with
  | nil => cases h
  | cons e log ih =>
    cases e with
    | cancelled => rfl
    | did e =>
      have hmem : .cancelled ∈ log := by simpa using h
      exact ih hmem

theorem afterCancel_of_not_mem {log : List (Event ε)} (h : .cancelled ∉ log) (more : List (Event ε)) :
    afterCancel (log ++ more) = afterCancel more := by
  induction log with
  | nil => rfl
  | cons e log ih =>
    cases e with
    | cancelled => exact absurd List.mem_cons_self h
    | did e => exact ih fun hmem => h (List.mem_cons_of_mem _ hmem)

/-! ## One turn -/

/-- the token is cancelled where the log says so, and the log respects that -/
structure Inv (fine : ε → Prop) (s : Call σ ε) : Prop where
  logged : s.cancelled = true ↔ .cancelled ∈ s.log
  respects : Respects fine s.log

theorem inv_start (pc : σ) : Inv fine (start pc : Call σ ε) := ⟨by simp [start], nofun⟩

theorem logged_step {s : Call σ ε} (h : s.cancelled = true ↔ .cancelled ∈ s.log) (o : Op α) :
    (step turn s o).cancelled = true ↔ .cancelled ∈ (step turn s o).log := by
  cases o with
  | cancel =>
    simp only [step]
    split_ifs with hcancelled
    · exact h
    · simp
  | turn o =>
    have hturn : .cancelled ∉ (turn s.cancelled s.pc o).2.map Event.did := by simp
    simp only [step, List.mem_append, hturn, or_false]
    exact h

/-- **One step** respects the cancellation exactly where its turn does. -/
theorem respects_step_iff {s : Call σ ε} (h : Inv fine s) (o : Op α) :
    Respects fine (step turn s o).log ↔ TurnsFine turn fine s o := by
  cases o with
  | cancel =>
    refine iff_of_true ?_ trivial
    simp only [step]
    split_ifs with hcancelled
    · exact h.respects
    · -- nothing has happened since
      have hnone : .cancelled ∉ s.log := fun hmem => hcancelled (h.logged.2 hmem)
      intro e he
      rw [afterCancel_of_not_mem hnone] at he
      cases he
  | turn o =>
    simp only [step, TurnsFine]
    cases hcancelled : s.cancelled with
    | true =>
      have hmem := h.logged.1 hcancelled
      unfold Respects
      rw [afterCancel_of_mem hmem]
      constructor
      · intro hrespects _ e he
        exact hrespects e (List.mem_append_right _ (List.mem_map_of_mem he))
      · intro hfine e he
        rcases List.mem_append.1 he with hold | hnew
        · exact h.respects e hold
        · obtain ⟨e', he', heq⟩ := List.mem_map.1 hnew
          cases heq
          exact hfine rfl e he'
    | false =>
      have hnone : .cancelled ∉ s.log := fun hmem => by
        have htrue := h.logged.2 hmem
        rw [hcancelled] at htrue
        cases htrue
      have hturn : .cancelled ∉ (turn false s.pc o).2.map Event.did := by simp
      refine iff_of_true (fun e he => ?_) nofun
      rw [afterCancel_of_not_mem hnone, ← List.append_nil (List.map _ _), afterCancel_of_not_mem hturn] at he
      cases he

/-- **A run respects its cancellation,** whenever it comes, exactly where every turn after it does. -/
theorem respects_iff (pc : σ) (ops : List (Op α)) :
    AllStates (step turn) (fun s => Respects fine s.log) (start pc) ops ↔
      AllSteps (step turn) (TurnsFine turn fine) (start pc) ops := by
  have hstep : ∀ (s : Call σ ε) (o : Op α), Inv fine s → TurnsFine turn fine s o → Inv fine (step turn s o) :=
    fun s o h ho => ⟨logged_step h.logged o, (respects_step_iff h o).2 ho⟩
  rw [allStates_iff_allSteps, allSteps_iff_of_step hstep (fun _ o h => respects_step_iff h o) (inv_start pc)]
  exact and_iff_right nofun

end N0wss.Cancellable
