/-
The burst detector under overlapping calls (`record_burst` and `reset_peak` in `obs/mod.rs`). A call reads the clock, then
takes the lock for all it counts, and pushes its log line when it has released the lock; each of these is a step of its own.

- `underLock_eq`: a call that is not interrupted does what `recordBurst` does.
- `sharedInv_step`: the sections under the lock, in their order, are the calls of one thread.
- `overlapping_calls_are_sequential`: so that nothing is lost or counted twice, and the logs keep their distance.
- `recentRejections_between`, `overlapping_calls_count`: a call that waits for the lock miscounts its window by no more than
  the longest wait.
-/
import N0wss.Obs.BurstDetector

namespace N0wss.Obs.SharedDetector

open Config Machine Window
open Session (Instant Duration)

/-! ## The detector and the calls on it -/

/-- all of `record_burst` but the push: what it returns, its log line, the detector -/
def underLock (detector : BurstDetectorHandle) (now : Instant) (event : BurstEvent) :
    BurstObservation × LogLine × BurstDetectorHandle :=
  let (observation, after) := recordBurst detector now event
  let line : LogLine := ⟨observation.recentRejections, detector.inner.config.alertWindow, observation.totalRejected,
    observation.peakRatePerSec, event.queueCapacity⟩
  (observation, line, { after with logSink := detector.logSink })

/-- where a call of `record_burst` stands -/
inductive Call where
  /-- it has read the clock -/
  | waiting (now : Instant) (event : BurstEvent)
  /-- it has released the lock, before the log sink -/
  | logging (observation : BurstObservation) (line : LogLine)
  | returned (observation : BurstObservation)
deriving DecidableEq

structure Shared where
  clock : Instant
  detector : BurstDetectorHandle
  calls : List Call
  /-- the sections under the lock, in order -/
  sections : List Op

inductive Act where
  | tick (elapsed : Duration)
  /-- a call of `record_burst` starts and reads the clock -/
  | recordBurst (event : BurstEvent)
  | resetPeak
  /-- call `i` runs its next section -/
  | step (i : ℕ)

def start (config : BurstDetectionConfig) (clock : Instant) : Shared := ⟨clock, initObservability config, [], []⟩

def stepCall (s : Shared) (i : ℕ) : Shared :=
  match s.calls[i]? with
  | some (.waiting now event) =>
    let (observation, line, detector) := underLock s.detector now event
    { s with
      detector
      calls := s.calls.set i (if observation.emittedLog then .logging observation line else .returned observation)
      sections := s.sections ++ [.recordBurst now event] }
  | some (.logging observation line) =>
    { s with
      detector := { s.detector with logSink := s.detector.logSink ++ [line] }
      calls := s.calls.set i (.returned observation) }
  | some (.returned _) | none => s

def act (s : Shared) : Act → Shared
  | .tick elapsed => { s with clock := s.clock + elapsed }
  | .recordBurst event => { s with calls := s.calls ++ [.waiting s.clock event] }
  | .resetPeak => { s with detector := resetPeak s.detector, sections := s.sections ++ [.resetPeak] }
  | .step i => stepCall s i

/-- the line a call is about to push -/
def Call.line : Call → Option LogLine
  | .logging _ line => some line
  | .waiting _ _ | .returned _ => none

/-- what a call that has had the lock returns -/
def Call.observation : Call → Option BurstObservation
  | .logging observation _ | .returned observation => some observation
  | .waiting _ _ => none

/-! ## In the order of the lock -/

/-- the detector of one thread that makes the calls in this order -/
def sequential (config : BurstDetectionConfig) (sections : List Op) : World :=
  run Obs.step (Obs.start config) sections

/-- what the calls of a run returned -/
def observations (outcomes : List Outcome) : List BurstObservation :=
  outcomes.filterMap fun
    | .recorded _ observation => some observation
    | .peakReset => none

theorem sequential_concat (config : BurstDetectionConfig) (sections : List Op) (o : Op) :
    sequential config (sections ++ [o]) = Obs.step (sequential config sections) o := by
  rw [sequential, run_append]
  rfl

/-- without the push, and with it where a log is due -/
theorem underLock_eq (detector : BurstDetectorHandle) (now : Instant) (event : BurstEvent) :
    recordBurst detector now event =
      ((underLock detector now event).1,
        { (underLock detector now event).2.2 with
          logSink := detector.logSink ++
            if (underLock detector now event).1.emittedLog then [(underLock detector now event).2.1] else [] }) := by
  cases hlog : (recordBurst detector now event).1.emittedLog with
  | true =>
    have hsink : (recordBurst detector now event).2.logSink =
        detector.logSink ++ [(underLock detector now event).2.1] := if_pos hlog
    simp only [underLock, hlog, if_true] at hsink ⊢
    rw [← hsink]
  | false =>
    have hsink : (recordBurst detector now event).2.logSink = detector.logSink :=
      if_neg (Bool.not_eq_true _ ▸ hlog)
    simp only [underLock, hlog, Bool.false_eq_true, if_false, List.append_nil] at hsink ⊢
    rw [← hsink]

/-- `record_burst` reads and writes nothing of the log sink but to push -/
theorem underLock_congr {d d' : BurstDetectorHandle} (hinner : d.inner = d'.inner) (hmetrics : d.metrics = d'.metrics)
    (now : Instant) (event : BurstEvent) :
    (underLock d now event).1 = (underLock d' now event).1 ∧ (underLock d now event).2.1 = (underLock d' now event).2.1 ∧
      (underLock d now event).2.2.inner = (underLock d' now event).2.2.inner ∧
      (underLock d now event).2.2.metrics = (underLock d' now event).2.2.metrics := by
  obtain ⟨inner, metrics, logSink⟩ := d
  obtain ⟨inner', metrics', logSink'⟩ := d'
  obtain rfl : inner = inner' := hinner
  obtain rfl : metrics = metrics' := hmetrics
  exact ⟨rfl, rfl, rfl, rfl⟩

/-- what the steps so far come to, in the order of the lock -/
structure SharedInv (config : BurstDetectionConfig) (s : Shared) : Prop where
  inner : s.detector.inner = (sequential config s.sections).detector.inner
  metrics : s.detector.metrics = (sequential config s.sections).detector.metrics
  /-- every log line is in the sink, or some call is about to push it -/
  lines : (s.detector.logSink ++ s.calls.filterMap Call.line).Perm (sequential config s.sections).detector.logSink
  answers : (s.calls.filterMap Call.observation).Perm (observations (sequential config s.sections).outcomes)

theorem sharedInv_start (config : BurstDetectionConfig) (clock : Instant) : SharedInv config (start config clock) where
  inner := rfl
  metrics := rfl
  lines := List.Perm.refl _
  answers := List.Perm.refl _

variable {config : BurstDetectionConfig} {s : Shared}

theorem sharedInv_recordBurst (h : SharedInv config s) (event : BurstEvent) :
    SharedInv config (act s (.recordBurst event)) where
  inner := h.inner
  metrics := h.metrics
  lines := by
    have hpending : [Call.waiting s.clock event].filterMap Call.line = [] := rfl
    rw [act, List.filterMap_append, hpending, List.append_nil]
    exact h.lines
  answers := by
    have hpending : [Call.waiting s.clock event].filterMap Call.observation = [] := rfl
    rw [act, List.filterMap_append, hpending, List.append_nil]
    exact h.answers

theorem sharedInv_resetPeak (h : SharedInv config s) : SharedInv config (act s .resetPeak) := by
  have hsequential : sequential config (act s .resetPeak).sections = Obs.step (sequential config s.sections) .resetPeak :=
    sequential_concat config s.sections .resetPeak
  constructor
  · rw [hsequential]
    simp only [act, Obs.step, resetPeak, h.inner]
  · rw [hsequential]
    simp only [act, Obs.step, resetPeak, h.metrics]
  · rw [hsequential]
    exact h.lines
  · rw [hsequential]
    simpa [act, Obs.step, observations] using h.answers

/-- the section under the lock -/
theorem sharedInv_waiting (h : SharedInv config s) {i : ℕ} {now : Instant} {event : BurstEvent}
    (hcall : s.calls[i]? = some (.waiting now event)) : SharedInv config (stepCall s i) := by
  obtain ⟨hobservation, hline, hinner, hmetrics⟩ := underLock_congr h.inner h.metrics now event
  -- the one thread, with the observation and the line that this call has
  have hsequential := sequential_concat config s.sections (.recordBurst now event)
  simp only [Obs.step, underLock_eq, ← hobservation, ← hline] at hsequential
  have hstep : stepCall s i =
      { s with
        detector := (underLock s.detector now event).2.2
        calls := s.calls.set i (if (underLock s.detector now event).1.emittedLog
          then .logging (underLock s.detector now event).1 (underLock s.detector now event).2.1
          else .returned (underLock s.detector now event).1)
        sections := s.sections ++ [.recordBurst now event] } := by
    rw [stepCall, hcall]
  rw [hstep]
  generalize (underLock s.detector now event).1 = observation at hsequential ⊢
  generalize (underLock s.detector now event).2.1 = line at hsequential ⊢
  constructor
  · rw [hsequential]
    exact hinner
  · rw [hsequential]
    exact hmetrics
  · rw [hsequential]
    change (s.detector.logSink ++ _).Perm _
    cases hlog : observation.emittedLog with
    | true =>
      simp only [if_true]
      have hpending := filterMap_set_perm Call.line hcall rfl (b := .logging observation line) rfl
      have hlast : (s.detector.logSink ++ line :: s.calls.filterMap Call.line).Perm
          ((s.detector.logSink ++ s.calls.filterMap Call.line) ++ [line]) := by
        rw [List.append_assoc]
        exact (List.perm_append_singleton line _).symm.append_left _
      exact (hpending.append_left _).trans (hlast.trans (h.lines.append_right _))
    | false =>
      have hpending := filterMap_set_of_eq Call.line hcall (b := .returned observation) rfl
      simp only [Bool.false_eq_true, if_false, List.append_nil, hpending]
      exact h.lines
  · rw [hsequential]
    have hreturns : Call.observation (if observation.emittedLog then .logging observation line
        else .returned observation) = some observation := by
      split <;> rfl
    have hanswers := filterMap_set_perm Call.observation hcall rfl hreturns
    refine hanswers.trans ((h.answers.cons _).trans ?_)
    simp only [observations, List.filterMap_append]
    exact (List.perm_append_singleton observation _).symm

/-- the push -/
theorem sharedInv_logging (h : SharedInv config s) {i : ℕ} {observation : BurstObservation} {line : LogLine}
    (hcall : s.calls[i]? = some (.logging observation line)) : SharedInv config (stepCall s i) := by
  have hstep : stepCall s i =
      { s with
        detector := { s.detector with logSink := s.detector.logSink ++ [line] }
        calls := s.calls.set i (.returned observation) } := by
    rw [stepCall, hcall]
  have hpending := filterMap_perm_set Call.line hcall rfl (b := .returned observation) rfl
  have hsame := filterMap_set_of_eq Call.observation hcall (b := .returned observation) rfl
  rw [hstep]
  constructor
  · exact h.inner
  · exact h.metrics
  · change ((s.detector.logSink ++ [line]) ++ _).Perm _
    rw [List.append_assoc]
    exact (hpending.symm.append_left _).trans h.lines
  · simp only [hsame]
    exact h.answers

/-- **One step.** A section under the lock is a call of the one thread, and nothing else is. -/
theorem sharedInv_step (a : Act) (h : SharedInv config s) : SharedInv config (act s a) := by
  cases a with
  | tick elapsed => exact ⟨h.inner, h.metrics, h.lines, h.answers⟩
  | recordBurst event => exact sharedInv_recordBurst h event
  | resetPeak => exact sharedInv_resetPeak h
  | step i =>
    cases hcall : s.calls[i]? with
    | none =>
      rw [act, stepCall, hcall]
      exact h
    | some call =>
      cases call with
      | waiting now event => exact sharedInv_waiting h hcall
      | logging observation line => exact sharedInv_logging h hcall
      | returned observation =>
        rw [act, stepCall, hcall]
        exact h

theorem sharedInv_run (config : BurstDetectionConfig) (clock : Instant) (acts : List Act) :
    SharedInv config (run act (start config clock) acts) :=
  run_inv (fun _ a h => sharedInv_step a h) acts (sharedInv_start config clock)

/-! ## What that says of overlapping calls -/

theorem observations_concat (outcomes : List Outcome) (now : Instant) (observation : BurstObservation) :
    observations (outcomes ++ [.recorded now observation]) = observations outcomes ++ [observation] := by
  simp [observations]

/-- the totals go up by one with every call -/
theorem totals_sequential (config : BurstDetectionConfig) (sections : List Op) :
    (observations (sequential config sections).outcomes).map BurstObservation.totalRejected =
      (List.range (Obs.calls sections).length).map fun k => UInt64.ofNat (k + 1) := by
  induction sections using List.reverseRecOn with
  | nil => rfl
  | append_singleton sections o ih =>
    cases o with
    | resetPeak =>
      have hsame : observations (sequential config (sections ++ [.resetPeak])).outcomes =
          observations (sequential config sections).outcomes := by
        rw [sequential_concat]
        simp [Obs.step, observations]
      rw [hsame, ih, calls_append, calls_reset, List.append_nil]
    | recordBurst now event =>
      have hnext : (sequential config (sections ++ [.recordBurst now event])).outcomes =
          (sequential config sections).outcomes ++ [.recorded now (observed config sections now event)] := by
        rw [sequential_concat]
        rfl
      have htotal : (observed config sections now event).totalRejected = UInt64.ofNat ((Obs.calls sections).length + 1) := by
        rw [UInt64.ofNat_add, ← (rep_run config sections).total]
        rfl
      rw [hnext, observations_concat, List.map_append, ih, calls_append, calls_record, List.length_append,
        List.length_singleton, List.range_succ, List.map_append, List.map_singleton, List.map_singleton, htotal]

/-- an interval that is not zero does not fit into a clock that has gone back -/
theorem add_le_of_interval {interval now last log : ℕ} (hinterval : interval ≠ 0) (hlong : interval ≤ now - last)
    (hle : log ≤ last) : log + interval ≤ now := by omega

/-- logs keep their distance on any clock -/
theorem logs_apart_anyhow (hinterval : config.minLogInterval ≠ 0) (sections : List Op) :
    (logs config sections).Pairwise fun earlier later => earlier + config.minLogInterval ≤ later := by
  induction sections using List.reverseRecOn with
  | nil => exact List.Pairwise.nil
  | append_singleton sections o ih =>
    cases o with
    | resetPeak =>
      have hsame : logs config (sections ++ [.resetPeak]) = logs config sections := by
        simp [logs, run_append, Obs.step]
      rw [hsame]
      exact ih
    | recordBurst now event =>
      have hlogs : logs config (sections ++ [.recordBurst now event]) =
          logs config sections ++ if (observed config sections now event).emittedLog then [now] else [] := by
        rw [← logTimes_recorded, logs, logs, ← logTimes_append, run_append]
        rfl
      rw [hlogs]
      split_ifs with hlog
      swap
      · rw [List.append_nil]
        exact ih
      rw [List.pairwise_append]
      refine ⟨ih, by simp, ?_⟩
      intro log hmem later hlater
      rw [List.mem_singleton.1 hlater]
      have hrep := rep_run config sections
      have hdue : shouldLog (run Obs.step (Obs.start config) sections).detector.inner now
        (observed config sections now event).recentRejections = true := hlog
      obtain ⟨last, hlast⟩ := Option.ne_none_iff_exists'.1 (List.getLast?_eq_none_iff.not.2 (List.ne_nil_of_mem hmem))
      have hsorted : (logs config sections).Pairwise (· ≤ ·) := ih.imp fun {a b} hab => (Nat.le_add_right a _).trans hab
      have hle := le_last_of_sorted hsorted hlast log hmem
      rw [shouldLog, hrep.kept, hrep.lastLog, Bool.and_eq_true] at hdue
      have hlong := hdue.2
      rw [logs] at hlast
      simp only [hlast, Option.map_some, Option.getD_some, decide_eq_true_eq] at hlong
      exact add_le_of_interval hinterval hlong hle

/-- what the calls that have had the lock come to, whatever order they came in -/
structure Sequential (config : BurstDetectionConfig) (s : Shared) : Prop extends SharedInv config s where
  /-- every rejection is counted once -/
  counted : ((s.calls.filterMap Call.observation).map BurstObservation.totalRejected).Perm
    ((List.range (Obs.calls s.sections).length).map fun k => UInt64.ofNat (k + 1))
  apart : (logs config s.sections).Pairwise fun earlier later => earlier + config.minLogInterval ≤ later

/-- **Overlapping calls are sequential.** For every interleaving of any number of calls of `record_burst` and `reset_peak`
and of the clock, with reading the clock, the section under the lock and the push of the log line as steps of their own, in
every state: counters, gauges and what the calls have returned are those of one thread that makes the calls in the order of
their locks; the totals returned are 1, 2 and so on, each once; every line that this thread logs is in the sink or about to
be pushed, once; and any two logs are the interval apart, although a call may take the lock with an older time than the one
before it. -/
theorem overlapping_calls_are_sequential (hinterval : config.minLogInterval ≠ 0) (clock : Instant) (acts : List Act) :
    AllStates act (Sequential config) (start config clock) acts := by
  apply allStates_iff.2
  intro pre _
  have hinv := sharedInv_run config clock pre
  refine ⟨hinv, ?_, logs_apart_anyhow hinterval _⟩
  rw [← totals_sequential config]
  exact hinv.answers.map _

/-- two calls, of which the later one takes the lock first -/
def crossing : List Act :=
  [.recordBurst ⟨128⟩, .tick 5, .recordBurst ⟨128⟩, .step 1, .step 0, .resetPeak, .step 1, .step 0]

/-- they are counted once each -/
theorem crossing_calls_sequential :
    AllStates act (Sequential (clientConfig 256 1000).burstDetection)
      (start (clientConfig 256 1000).burstDetection 1000000000) crossing :=
  overlapping_calls_are_sequential (by decide) _ _

/-! ## How far a call miscounts -/

/-- the calls so far, but for `slack` at the far end of the window -/
def atLeast (config : BurstDetectionConfig) (slack : Duration) (times : List Instant) (now : Instant) : ℕ :=
  times.countP fun t => now + slack ≤ t + config.alertWindow

def atMost (config : BurstDetectionConfig) (slack : Duration) (times : List Instant) (now : Instant) : ℕ :=
  times.countP fun t => now ≤ t + config.alertWindow + slack

/-- calls that take the lock out of order by no more than `slack` -/
theorem recentRejections_between {sections : List Op} {now : Instant} {event : BurstEvent} {slack : Duration}
    (hskewed : (Obs.calls sections ++ [now]).Pairwise fun earlier later => earlier ≤ later + slack)
    (hpast : ∀ t ∈ Obs.calls sections ++ [now], config.alertWindow ≤ t) (hfew : (Obs.calls sections).length + 1 < 2 ^ 64) :
    atLeast config slack (Obs.calls sections ++ [now]) now ≤
        (observed config sections now event).recentRejections.toNat ∧
      (observed config sections now event).recentRejections.toNat ≤
        atMost config slack (Obs.calls sections ++ [now]) now := by
  have hrep := rep_run config sections
  set times := Obs.calls sections ++ [now] with htimes
  have hvalue : (observed config sections now event).recentRejections =
      UInt64.ofNat (pushes (cutoff config.alertWindow) times).length := by
    rw [htimes, pushes_concat, ← hrep.recent]
    show UInt64.ofNat (push (cutoff (run Obs.step (Obs.start config) sections).detector.inner.config.alertWindow) _
      now).length = _
    rw [hrep.kept]
  have hlength : (pushes (cutoff config.alertWindow) times).length < 2 ^ 64 := by
    have htotal : times.length = (Obs.calls sections).length + 1 := by
      rw [htimes, List.length_append, List.length_singleton]
    have hle : (pushes (cutoff config.alertWindow) times).length ≤ times.length := (pushes_sublist times).length_le
    exact (hle.trans_eq htotal).trans_lt hfew
  rw [hvalue, UInt64.toNat_ofNat', Nat.mod_eq_of_lt hlength]
  have hnow : now ∈ times := by simp [htimes]
  have hlatest : ∀ t ∈ times, t ≤ now + slack := by
    intro t ht
    rcases List.mem_append.1 ht with hmem | hmem
    · exact (List.pairwise_append.1 hskewed).2.2 t hmem now (by simp)
    · rw [List.mem_singleton.1 hmem]
      exact Nat.le_add_right _ _
  constructor
  · rw [atLeast, List.countP_eq_length_filter]
    refine (filter_sublist_pushes fun t ht hkept u hu => ?_).length_le
    have hu' := hlatest u hu
    rw [cutoff_of_le (hpast u hu)]
    simp only [decide_eq_true_eq] at hkept
    exact Nat.sub_le_of_le_add (hu'.trans hkept)
  · have hall : ∀ t ∈ pushes (cutoff config.alertWindow) times, decide (now ≤ t + config.alertWindow + slack) = true := by
      intro t ht
      have hcutoff := cutoff_le_of_mem_pushes hskewed ht
      rw [cutoff_of_le (hpast now hnow)] at hcutoff
      have hle := Nat.le_add_of_sub_le hcutoff
      rw [Nat.add_right_comm] at hle
      exact decide_eq_true hle
    rw [atMost, List.countP_eq_length_filter, ← List.filter_eq_self.2 hall]
    exact ((pushes_sublist times).filter _).length_le

/-- the time that a call has read which takes the lock in this step -/
def lockedAt (s : Shared) : Act → Option Instant
  | .step i =>
    match s.calls[i]? with
    | some (.waiting now _) => some now
    | _ => none
  | _ => none

/-- no call takes the lock later than `wait` after it has read the clock -/
def Prompt (wait : Duration) (s : Shared) (a : Act) : Prop := ∀ now ∈ lockedAt s a, s.clock ≤ now + wait

instance (wait : Duration) (s : Shared) (a : Act) : Decidable (Prompt wait s a) :=
  inferInstanceAs (Decidable (∀ now ∈ lockedAt s a, s.clock ≤ now + wait))

/-- what a call that takes the lock in this step returns lies between the two counts -/
def CountsWithin (config : BurstDetectionConfig) (slack : Duration) (s : Shared) (a : Act) : Prop :=
  ∀ i now event, a = .step i → s.calls[i]? = some (.waiting now event) →
    atLeast config slack (Obs.calls s.sections ++ [now]) now ≤
        (underLock s.detector now event).1.recentRejections.toNat ∧
      (underLock s.detector now event).1.recentRejections.toNat ≤
        atMost config slack (Obs.calls s.sections ++ [now]) now

/-- the times that calls have read, where none waits longer than `wait` -/
structure WaitInv (first : Instant) (wait : Duration) (s : Shared) : Prop where
  waiting : ∀ now event, .waiting now event ∈ s.calls → first ≤ now ∧ now ≤ s.clock
  locked : ∀ t ∈ Obs.calls s.sections, first ≤ t ∧ t ≤ s.clock
  skewed : (Obs.calls s.sections).Pairwise fun earlier later => earlier ≤ later + wait
  clock : first ≤ s.clock

variable {first : Instant} {wait : Duration}

theorem waitInv_start (config : BurstDetectionConfig) (first : Instant) (wait : Duration) :
    WaitInv first wait (start config first) where
  waiting := fun _ _ h => by cases h
  locked := fun _ h => by cases h
  skewed := List.Pairwise.nil
  clock := le_rfl

/-- the calls in the order of their locks, with one that takes it now -/
theorem skewed_concat (h : WaitInv first wait s) {i : ℕ} {now : Instant} {event : BurstEvent}
    (hcall : s.calls[i]? = some (.waiting now event)) (hprompt : Prompt wait s (.step i)) :
    (Obs.calls s.sections ++ [now]).Pairwise fun earlier later => earlier ≤ later + wait := by
  have hlocked : lockedAt s (.step i) = some now := by simp only [lockedAt, hcall]
  rw [List.pairwise_append]
  refine ⟨h.skewed, List.pairwise_singleton _ _, ?_⟩
  intro t ht later hlater
  rw [List.mem_singleton.1 hlater]
  exact (h.locked t ht).2.trans (hprompt now hlocked)

theorem waitInv_step (a : Act) (h : WaitInv first wait s) (hprompt : Prompt wait s a) : WaitInv first wait (act s a) := by
  cases a with
  | tick elapsed =>
    have hmore : s.clock ≤ s.clock + elapsed := Nat.le_add_right _ _
    exact ⟨fun now event hmem => ⟨(h.waiting now event hmem).1, (h.waiting now event hmem).2.trans hmore⟩,
      fun t ht => ⟨(h.locked t ht).1, (h.locked t ht).2.trans hmore⟩, h.skewed, h.clock.trans hmore⟩
  | recordBurst event =>
    refine ⟨fun now event' hmem => ?_, h.locked, h.skewed, h.clock⟩
    rcases List.mem_append.1 hmem with hold | hnew
    · exact h.waiting now event' hold
    · cases List.mem_singleton.1 hnew
      exact ⟨h.clock, le_rfl⟩
  | resetPeak =>
    have hsame : Obs.calls (act s .resetPeak).sections = Obs.calls s.sections := by
      rw [act, calls_append, calls_reset, List.append_nil]
    exact ⟨h.waiting, by rw [hsame]; exact h.locked, by rw [hsame]; exact h.skewed, h.clock⟩
  | step i =>
    -- a call that moves on does not come to wait
    have hwaiting : ∀ call : Call, (∀ now event, call ≠ .waiting now event) → ∀ now event,
        Call.waiting now event ∈ s.calls.set i call → first ≤ now ∧ now ≤ s.clock := by
      intro call hnot now event hmem
      rcases List.mem_or_eq_of_mem_set hmem with hold | hnew
      · exact h.waiting now event hold
      · exact absurd hnew.symm (hnot now event)
    cases hcall : s.calls[i]? with
    | none =>
      rw [act, stepCall, hcall]
      exact h
    | some call =>
      cases call with
      | returned observation =>
        rw [act, stepCall, hcall]
        exact h
      | logging observation line =>
        rw [act, stepCall, hcall]
        exact ⟨hwaiting _ (fun now event => Call.noConfusion), h.locked, h.skewed, h.clock⟩
      | waiting now event =>
        have hskewed := skewed_concat h hcall hprompt
        have hcalls : Obs.calls (s.sections ++ [.recordBurst now event]) = Obs.calls s.sections ++ [now] := by
          rw [calls_append, calls_record]
        have hlocked : ∀ t ∈ Obs.calls s.sections ++ [now], first ≤ t ∧ t ≤ s.clock := by
          intro t ht
          rcases List.mem_append.1 ht with hold | hnew
          · exact h.locked t hold
          · rw [List.mem_singleton.1 hnew]
            exact h.waiting now event (List.mem_of_getElem? hcall)
        rw [act, stepCall, hcall]
        refine ⟨hwaiting _ ?_, by rw [hcalls]; exact hlocked, by rw [hcalls]; exact hskewed, h.clock⟩
        intro now' event'
        split <;> exact Call.noConfusion

/-- a step locks once at most -/
theorem length_calls_le (s : Shared) (acts : List Act) :
    (Obs.calls (run act s acts).sections).length ≤ (Obs.calls s.sections).length + acts.length := by
  induction acts generalizing s with
  | nil => exact le_rfl
  | cons a acts ih =>
    have hstep : (Obs.calls (act s a).sections).length ≤ (Obs.calls s.sections).length + 1 := by
      cases a with
      | tick | recordBurst => exact Nat.le_succ _
      | resetPeak => simp [act]
      | step i =>
        simp only [act, stepCall]
        split <;> simp
    rw [run_cons, List.length_cons]
    exact (ih _).trans (by omega)

/-- **Overlapping calls miscount by no more than they wait.** For every interleaving of calls in which none takes the lock
later than `wait` after it has read the clock, past the first window: what a call returns is at least the number of calls
so far, in the order of their locks, that lie in its window shortened by `wait`, and at most the number of those in its
window lengthened by `wait`. Where no call waits it is the window's number. -/
theorem overlapping_calls_count (hpast : config.alertWindow ≤ first) {acts : List Act}
    (hprompt : AllSteps act (Prompt wait) (start config first) acts) (hfew : acts.length < 2 ^ 64) :
    AllSteps act (CountsWithin config wait) (start config first) acts := by
  by_contra hnot
  obtain ⟨pre, a, post, rfl, hno⟩ := exists_of_not_allSteps hnot
  obtain ⟨hbefore, hnow, -⟩ := allSteps_append.1 hprompt
  have hwait := run_inv_of_allSteps (fun s a h hp => waitInv_step a h hp) (waitInv_start config first wait) hbefore
  have hinv := sharedInv_run config first pre
  have hlength := length_calls_le (start config first) pre
  generalize run act (start config first) pre = s at hno hnow hwait hinv hlength
  apply hno
  rintro i now event rfl hcall
  have hlocked : ∀ t ∈ Obs.calls s.sections ++ [now], config.alertWindow ≤ t := by
    intro t ht
    rcases List.mem_append.1 ht with hold | hnew
    · exact hpast.trans (hwait.locked t hold).1
    · rw [List.mem_singleton.1 hnew]
      exact hpast.trans (hwait.waiting now event (List.mem_of_getElem? hcall)).1
  have hroom : (Obs.calls s.sections).length + 1 < 2 ^ 64 := by
    have hnone : (Obs.calls (start config first).sections).length = 0 := rfl
    simp only [List.length_append, List.length_cons] at hfew
    omega
  have hsame : (underLock s.detector now event).1 = observed config s.sections now event :=
    (underLock_congr hinv.inner hinv.metrics now event).1
  rw [hsame]
  exact recentRejections_between (skewed_concat hwait hcall hnow) hlocked hroom

/-- the earlier of two calls that cross waits five nanoseconds -/
theorem crossing_calls_count :
    AllSteps act (Prompt 5) (start (clientConfig 256 1000).burstDetection 1000000000) crossing ∧
      AllSteps act (CountsWithin (clientConfig 256 1000).burstDetection 5)
        (start (clientConfig 256 1000).burstDetection 1000000000) crossing := by
  have hprompt : AllSteps act (Prompt 5) (start (clientConfig 256 1000).burstDetection 1000000000) crossing := by decide
  exact ⟨hprompt, overlapping_calls_count (by decide) hprompt (by decide)⟩

end N0wss.Obs.SharedDetector
