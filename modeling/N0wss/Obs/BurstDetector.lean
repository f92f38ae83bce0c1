/-
The burst detector (`obs/mod.rs`): how many intents were rejected within the alert window, the peak of that number since
it was last reset, and a log that is not repeated too soon.

Instants are in nanoseconds from the earliest one that can be represented, so that `checked_sub` fails exactly below it.
The clock is an input of each call. A log line is the values that are formatted into it.

- `rep_run`: what a run leaves in the detector, on any clock, in terms of what its calls returned.
- `detector_counts_window`: on a clock that does not go back, every call returns what the definition of the window says.
- `total_wraps`: the total of the calls is one of 64 bits.
- `ring_bounded_iff`: the deque stays within the ring exactly where the calls alive do; `ring_overrun`: they need not.
-/
import N0wss.Config.Load
import N0wss.Core.Machine
import N0wss.Core.Window

namespace N0wss.Obs

open Config Machine Window
open Session (Instant Duration)

/-! ## State -/

structure BurstEvent where
  queueCapacity : UInt64
deriving DecidableEq, Repr

structure BurstObservation where
  recentRejections : UInt64
  totalRejected : UInt64
  peakRatePerSec : UInt64
  emittedLog : Bool
deriving DecidableEq, Repr

/-- the gauges of `ProxyMetricsInner` that the detector writes -/
structure ProxyMetrics where
  intentsRejectedQueueFull : UInt64
  intentQueueLen : UInt64
  intentQueueCapacity : UInt64
  peakRatePerSec : UInt64
deriving DecidableEq, Repr

structure BurstDetectorState where
  config : BurstDetectionConfig
  recentRejections : List Instant
  lastLogAt : Option Instant
  totalRejected : UInt64
  peakRatePerSec : UInt64
deriving DecidableEq, Repr

/-- the values of a log line -/
structure LogLine where
  recentRejections : UInt64
  windowSecs : Duration
  totalRejected : UInt64
  peakRatePerSec : UInt64
  queueCapacity : UInt64
deriving DecidableEq, Repr

structure BurstDetectorHandle where
  inner : BurstDetectorState
  metrics : ProxyMetrics
  logSink : List LogLine
deriving DecidableEq, Repr

def ProxyMetrics.new : ProxyMetrics := ⟨0, 0, 0, 0⟩

/-- the detector of `init_observability` -/
def initObservability (config : BurstDetectionConfig) : BurstDetectorHandle :=
  ⟨⟨config, [], none, 0, 0⟩, ProxyMetrics.new, []⟩

/-! ## Calls -/

/-- `Instant::checked_sub` -/
def checkedSub (now : Instant) (duration : Duration) : Option Instant :=
  if duration ≤ now then some (now - duration) else none

/-- what is dropped at `now` lies before it -/
def cutoff (alertWindow : Duration) (now : Instant) : Instant := (checkedSub now alertWindow).getD now

def shouldLog (state : BurstDetectorState) (now : Instant) (recentRejections : UInt64) : Bool :=
  decide (state.config.alertThreshold ≤ recentRejections) &&
    (state.lastLogAt.map fun lastLogAt => decide (state.config.minLogInterval ≤ now - lastLogAt)).getD true

def recordBurst (detector : BurstDetectorHandle) (now : Instant) (event : BurstEvent) :
    BurstObservation × BurstDetectorHandle :=
  let state := detector.inner
  let total := state.totalRejected + 1
  let recent := push (cutoff state.config.alertWindow) state.recentRejections now
  let recentRejections := UInt64.ofNat recent.length
  let peak := max state.peakRatePerSec recentRejections
  let emittedLog := shouldLog state now recentRejections
  let metrics : ProxyMetrics :=
    ⟨detector.metrics.intentsRejectedQueueFull + 1, event.queueCapacity, event.queueCapacity, peak⟩
  let line : LogLine := ⟨recentRejections, state.config.alertWindow, total, peak, event.queueCapacity⟩
  (⟨recentRejections, total, peak, emittedLog⟩,
    ⟨⟨state.config, recent, if emittedLog then some now else state.lastLogAt, total, peak⟩, metrics,
      if emittedLog then detector.logSink ++ [line] else detector.logSink⟩)

def resetPeak (detector : BurstDetectorHandle) : BurstDetectorHandle :=
  { detector with
    inner := { detector.inner with peakRatePerSec := 0 }
    metrics := { detector.metrics with peakRatePerSec := 0 } }

/-! ## Runs -/

inductive Op where
  | recordBurst (now : Instant) (event : BurstEvent)
  | resetPeak
deriving DecidableEq, Repr

/-- what a call returned, and when -/
inductive Outcome where
  | recorded (now : Instant) (observation : BurstObservation)
  | peakReset
deriving DecidableEq, Repr

structure World where
  detector : BurstDetectorHandle
  outcomes : List Outcome
deriving DecidableEq, Repr

def step (w : World) : Op → World
  | .recordBurst now event =>
    let (observation, detector) := recordBurst w.detector now event
    ⟨detector, w.outcomes ++ [.recorded now observation]⟩
  | .resetPeak => ⟨resetPeak w.detector, w.outcomes ++ [.peakReset]⟩

def start (config : BurstDetectionConfig) : World := ⟨initObservability config, []⟩

/-- the times of the calls of `record_burst` -/
def calls (ops : List Op) : List Instant :=
  ops.filterMap fun
    | .recordBurst now _ => some now
    | .resetPeak => none

/-- the times of the calls that emitted a log -/
def logTimes (outcomes : List Outcome) : List Instant :=
  outcomes.filterMap fun
    | .recorded now observation => if observation.emittedLog then some now else none
    | .peakReset => none

/-- the largest number of recent rejections that a call returned since the last reset; 0 if there was none -/
def peakSinceReset (outcomes : List Outcome) : ℕ :=
  outcomes.foldl (fun peak outcome =>
    match outcome with
    | .recorded _ observation => max peak observation.recentRejections.toNat
    | .peakReset => 0) 0

@[simp] theorem calls_nil : calls [] = [] := rfl

@[simp] theorem calls_append (a b : List Op) : calls (a ++ b) = calls a ++ calls b := List.filterMap_append

@[simp] theorem calls_record (now : Instant) (event : BurstEvent) : calls [.recordBurst now event] = [now] := rfl

@[simp] theorem calls_reset : calls [.resetPeak] = [] := rfl

@[simp] theorem logTimes_append (a b : List Outcome) : logTimes (a ++ b) = logTimes a ++ logTimes b :=
  List.filterMap_append

theorem logTimes_recorded (now : Instant) (observation : BurstObservation) :
    logTimes [.recorded now observation] = if observation.emittedLog then [now] else [] := by
  cases h : observation.emittedLog <;> simp [logTimes, h]

@[simp] theorem logTimes_reset : logTimes [.peakReset] = [] := rfl

@[simp] theorem peakSinceReset_recorded (outcomes : List Outcome) (now : Instant) (observation : BurstObservation) :
    peakSinceReset (outcomes ++ [.recorded now observation]) =
      max (peakSinceReset outcomes) observation.recentRejections.toNat := by
  simp [peakSinceReset]

@[simp] theorem peakSinceReset_reset (outcomes : List Outcome) : peakSinceReset (outcomes ++ [.peakReset]) = 0 := by
  simp [peakSinceReset]

/-! ## What a run leaves -/

/-- the detector after a run, by what its calls returned -/
structure Rep (config : BurstDetectionConfig) (ops : List Op) (w : World) : Prop where
  kept : w.detector.inner.config = config
  recent : w.detector.inner.recentRejections = pushes (cutoff config.alertWindow) (calls ops)
  total : w.detector.inner.totalRejected = UInt64.ofNat (calls ops).length
  rejected : w.detector.metrics.intentsRejectedQueueFull = UInt64.ofNat (calls ops).length
  peak : w.detector.inner.peakRatePerSec.toNat = peakSinceReset w.outcomes
  mirrored : w.detector.metrics.peakRatePerSec = w.detector.inner.peakRatePerSec
  lastLog : w.detector.inner.lastLogAt = (logTimes w.outcomes).getLast?
  lines : w.detector.logSink.length = (logTimes w.outcomes).length
  logged : (logTimes w.outcomes).Sublist (calls ops)

theorem rep_start (config : BurstDetectionConfig) : Rep config [] (start config) := by
  constructor <;> rfl

theorem ofNat_length_concat {α : Type} (xs : List α) (x : α) :
    UInt64.ofNat (xs ++ [x]).length = UInt64.ofNat xs.length + 1 := by
  rw [List.length_append, List.length_singleton, UInt64.ofNat_add]
  rfl

theorem toNat_max (a b : UInt64) : (max a b).toNat = max a.toNat b.toNat := by
  show (if a ≤ b then b else a).toNat = _
  split_ifs with h
  · rw [max_eq_right (UInt64.le_iff_toNat_le.1 h)]
  · rw [max_eq_left (Nat.le_of_not_le fun hle => h (UInt64.le_iff_toNat_le.2 hle))]

theorem rep_recordBurst {config : BurstDetectionConfig} {ops : List Op} {w : World} (h : Rep config ops w)
    (now : Instant) (event : BurstEvent) :
    Rep config (ops ++ [.recordBurst now event]) (step w (.recordBurst now event)) := by
  obtain ⟨hkept, hrecent, htotal, hrejected, hpeak, -, hlast, hlines, hlogged⟩ := h
  have houtcomes : (step w (.recordBurst now event)).outcomes =
      w.outcomes ++ [.recorded now (recordBurst w.detector now event).1] := rfl
  have hlastLogAt : (step w (.recordBurst now event)).detector.inner.lastLogAt =
      if (recordBurst w.detector now event).1.emittedLog then some now else w.detector.inner.lastLogAt := rfl
  refine ⟨hkept, ?_, ?_, ?_, ?_, rfl, ?_, ?_, ?_⟩
  · show push (cutoff w.detector.inner.config.alertWindow) w.detector.inner.recentRejections now = _
    rw [hkept, hrecent, calls_append, calls_record, pushes_concat]
  · show w.detector.inner.totalRejected + 1 = _
    rw [htotal, calls_append, calls_record, ofNat_length_concat]
  · show w.detector.metrics.intentsRejectedQueueFull + 1 = _
    rw [hrejected, calls_append, calls_record, ofNat_length_concat]
  · rw [houtcomes, peakSinceReset_recorded, ← hpeak]
    exact toNat_max _ _
  · rw [hlastLogAt, houtcomes, logTimes_append, logTimes_recorded]
    split_ifs <;> simp [hlast]
  · rw [houtcomes, logTimes_append, logTimes_recorded]
    show (if (recordBurst w.detector now event).1.emittedLog then w.detector.logSink ++ [_] else _).length = _
    split_ifs <;> simp [hlines]
  · rw [houtcomes, logTimes_append, logTimes_recorded, calls_append, calls_record]
    split_ifs
    · exact hlogged.append (List.Sublist.refl _)
    · exact hlogged.append (List.nil_sublist _)

theorem rep_resetPeak {config : BurstDetectionConfig} {ops : List Op} {w : World} (h : Rep config ops w) :
    Rep config (ops ++ [.resetPeak]) (step w .resetPeak) := by
  obtain ⟨hkept, hrecent, htotal, hrejected, -, -, hlast, hlines, hlogged⟩ := h
  constructor <;> simp [step, resetPeak, *]

/-- **What a run leaves** in the detector, on any clock. -/
theorem rep_run (config : BurstDetectionConfig) (ops : List Op) : Rep config ops (run step (start config) ops) := by
  induction ops using List.reverseRecOn with
  | nil => exact rep_start config
  | append_singleton ops op ih =>
    rw [run_append, run_cons, run_nil]
    cases op with
    | recordBurst now event => exact rep_recordBurst ih now event
    | resetPeak => exact rep_resetPeak ih

/-! ## The window -/

/-- a clock that does not go back, past the window, with at most a ring of calls in any window -/
structure Clock (config : BurstDetectionConfig) (ops : List Op) : Prop where
  sorted : (calls ops).Pairwise (· ≤ ·)
  representable : ∀ t ∈ calls ops, config.alertWindow ≤ t
  fits : ∀ t, (calls ops).countP (fun u => t ≤ u ∧ u ≤ t + config.alertWindow) ≤ config.ringCapacity.toNat

/-- the calls so far within the window that ends at `now` -/
def inWindow (config : BurstDetectionConfig) (times : List Instant) (now : Instant) : ℕ :=
  times.countP fun t => now - config.alertWindow ≤ t

theorem cutoff_of_le {alertWindow now : ℕ} (h : alertWindow ≤ now) : cutoff alertWindow now = now - alertWindow := by
  simp [cutoff, checkedSub, h]

/-- past the window, the calls alive are those of the window -/
theorem length_live_eq_inWindow {config : BurstDetectionConfig} {times : List Instant} {now : Instant}
    (hsorted : (times ++ [now]).Pairwise (· ≤ ·)) (hpast : ∀ t ∈ times ++ [now], config.alertWindow ≤ t) :
    (live (cutoff config.alertWindow) (times ++ [now])).length = inWindow config (times ++ [now]) now := by
  have hcutoffs : ((times ++ [now]).map (cutoff config.alertWindow)).Pairwise (· ≤ ·) := by
    rw [List.pairwise_map]
    refine hsorted.imp_of_mem fun {a b} ha hb hab => ?_
    rw [cutoff_of_le (hpast a ha), cutoff_of_le (hpast b hb)]
    exact Nat.sub_le_sub_right hab _
  rw [live_concat_eq_filter hcutoffs, cutoff_of_le (hpast now (by simp)), inWindow, List.countP_eq_length_filter]

/-- a window holds no more than the ring, so that its number is not cut off -/
theorem inWindow_lt {config : BurstDetectionConfig} {ops : List Op} {now : Instant} {event : BurstEvent}
    (h : Clock config (ops ++ [.recordBurst now event])) :
    inWindow config (calls ops ++ [now]) now < 2 ^ 64 := by
  have hcalls : calls (ops ++ [.recordBurst now event]) = calls ops ++ [now] := by simp
  have hsorted := h.sorted
  have hpast : config.alertWindow ≤ now := h.representable now (by simp)
  rw [hcalls] at hsorted
  have hle : ∀ t ∈ calls ops ++ [now], t ≤ now := by
    intro t ht
    rcases List.mem_append.1 ht with hmem | hmem
    · exact (List.pairwise_append.1 hsorted).2.2 t hmem now (by simp)
    · exact (List.mem_singleton.1 hmem).le
  calc inWindow config (calls ops ++ [now]) now
      ≤ (calls ops ++ [now]).countP
          (fun u => now - config.alertWindow ≤ u ∧ u ≤ now - config.alertWindow + config.alertWindow) := by
        refine List.countP_mono_left fun t ht hin => ?_
        have htn := hle t ht
        simp only [decide_eq_true_eq] at hin ⊢
        exact ⟨hin, htn.trans (Nat.sub_add_cancel hpast).ge⟩
    _ ≤ config.ringCapacity.toNat := hcalls ▸ h.fits (now - config.alertWindow)
    _ < 2 ^ 64 := config.ringCapacity.toNat_lt

/-- what a call after `before` returns -/
def observed (config : BurstDetectionConfig) (before : List Op) (now : Instant) (event : BurstEvent) :
    BurstObservation := (recordBurst (run step (start config) before).detector now event).1

/-- the logs that a run emitted -/
def logs (config : BurstDetectionConfig) (ops : List Op) : List Instant :=
  logTimes (run step (start config) ops).outcomes

theorem recentRejections_observed {config : BurstDetectionConfig} {before : List Op} {now : Instant}
    {event : BurstEvent} (h : Clock config (before ++ [.recordBurst now event])) :
    (observed config before now event).recentRejections.toNat = inWindow config (calls before ++ [now]) now := by
  have hrep := rep_run config before
  have hcalls : calls (before ++ [.recordBurst now event]) = calls before ++ [now] := by simp
  have hpush : (push (cutoff config.alertWindow) (pushes (cutoff config.alertWindow) (calls before)) now).length =
      inWindow config (calls before ++ [now]) now := by
    rw [← pushes_concat, pushes_eq_live (hcalls ▸ h.sorted)]
    exact length_live_eq_inWindow (hcalls ▸ h.sorted) (hcalls ▸ h.representable)
  have hvalue : (observed config before now event).recentRejections =
      UInt64.ofNat (inWindow config (calls before ++ [now]) now) := by
    rw [← hpush, ← hrep.recent]
    show UInt64.ofNat (push (cutoff (run step (start config) before).detector.inner.config.alertWindow) _ now).length = _
    rw [hrep.kept]
  rw [hvalue, UInt64.toNat_ofNat', Nat.mod_eq_of_lt (inWindow_lt h)]

theorem totalRejected_observed (config : BurstDetectionConfig) (before : List Op) (now : Instant) (event : BurstEvent) :
    (observed config before now event).totalRejected.toNat = (calls before ++ [now]).length % 2 ^ 64 := by
  have hvalue : (observed config before now event).totalRejected =
      UInt64.ofNat (calls before ++ [now]).length := by
    rw [ofNat_length_concat, ← (rep_run config before).total]
    rfl
  rw [hvalue, UInt64.toNat_ofNat']

theorem peakRate_observed (config : BurstDetectionConfig) (before : List Op) (now : Instant) (event : BurstEvent) :
    (observed config before now event).peakRatePerSec.toNat =
      max (peakSinceReset (run step (start config) before).outcomes)
        (observed config before now event).recentRejections.toNat := by
  rw [← (rep_run config before).peak]
  exact toNat_max _ _

/-! ## Logs -/

theorem le_last_of_sorted {xs : List ℕ} (h : xs.Pairwise (· ≤ ·)) {last : ℕ} (hlast : xs.getLast? = some last) :
    ∀ x ∈ xs, x ≤ last := by
  obtain ⟨ys, rfl⟩ := List.getLast?_eq_some_iff.1 hlast
  intro x hx
  rcases List.mem_append.1 hx with hmem | hmem
  · exact (List.pairwise_append.1 h).2.2 x hmem last (by simp)
  · exact (List.mem_singleton.1 hmem).le

/-- a log comes when the threshold is reached and the last one is long enough ago -/
theorem emittedLog_observed {config : BurstDetectionConfig} {before : List Op} {now : Instant} {event : BurstEvent}
    (hsorted : (calls before ++ [now]).Pairwise (· ≤ ·)) :
    (observed config before now event).emittedLog = true ↔
      config.alertThreshold.toNat ≤ (observed config before now event).recentRejections.toNat ∧
        ∀ log ∈ logs config before, log + config.minLogInterval ≤ now := by
  have hrep := rep_run config before
  have hlogged : ∀ log ∈ logs config before, log ≤ now := fun log hlog =>
    (List.pairwise_append.1 hsorted).2.2 log (hrep.logged.subset hlog) now (by simp)
  have hlogs : (logs config before).Pairwise (· ≤ ·) :=
    ((List.pairwise_append.1 hsorted).1).sublist hrep.logged
  have hlast : (((logs config before).getLast?.map fun last => decide (config.minLogInterval ≤ now - last)).getD true
      = true) ↔ ∀ log ∈ logs config before, log + config.minLogInterval ≤ now := by
    cases hl : (logs config before).getLast? with
    | none => simp [List.getLast?_eq_none_iff.1 hl]
    | some last =>
      have hmem : last ∈ logs config before := List.mem_of_getLast? hl
      have hnow := hlogged last hmem
      simp only [Option.map_some, Option.getD_some, decide_eq_true_eq]
      constructor
      · intro hinterval log hlog
        calc log + config.minLogInterval ≤ last + config.minLogInterval :=
            Nat.add_le_add_right (le_last_of_sorted hlogs hl log hlog) _
          _ ≤ now := Nat.add_comm last _ ▸ Nat.add_le_of_le_sub hnow hinterval
      · intro hall
        exact Nat.le_sub_of_add_le (Nat.add_comm last _ ▸ hall last hmem)
  have hvalue : (observed config before now event).emittedLog = shouldLog (run step (start config) before).detector.inner
      now (observed config before now event).recentRejections := rfl
  rw [← hlast, ← UInt64.le_iff_toNat_le, hvalue, shouldLog, hrep.kept, hrep.lastLog, Bool.and_eq_true, decide_eq_true_eq,
    logs]

/-- any two logs are apart -/
theorem logs_apart {config : BurstDetectionConfig} {ops : List Op} (hsorted : (calls ops).Pairwise (· ≤ ·)) :
    (logs config ops).Pairwise fun earlier later => earlier + config.minLogInterval ≤ later := by
  induction ops using List.reverseRecOn with
  | nil => exact List.Pairwise.nil
  | append_singleton ops op ih =>
    have hpre : (calls ops).Pairwise (· ≤ ·) := by
      rw [calls_append] at hsorted
      exact (List.pairwise_append.1 hsorted).1
    cases op with
    | resetPeak =>
      have hsame : logs config (ops ++ [.resetPeak]) = logs config ops := by
        simp [logs, run_append, step]
      rw [hsame]
      exact ih hpre
    | recordBurst now event =>
      have hlogs : logs config (ops ++ [.recordBurst now event]) =
          logs config ops ++ if (observed config ops now event).emittedLog then [now] else [] := by
        rw [← logTimes_recorded, logs, logs, ← logTimes_append, run_append]
        rfl
      rw [hlogs]
      split_ifs with hlog
      · rw [List.pairwise_append]
        refine ⟨ih hpre, by simp, ?_⟩
        intro log hmem later hlater
        rw [List.mem_singleton.1 hlater]
        rw [calls_append, calls_record] at hsorted
        exact ((emittedLog_observed hsorted).1 hlog).2 log hmem
      · rw [List.append_nil]
        exact ih hpre

/-! ## Exactness -/

/-- a call returns what the window, the calls, the peak and the logs so far say -/
structure Exact (config : BurstDetectionConfig) (before : List Op) (now : Instant) (observation : BurstObservation) :
    Prop where
  recent : observation.recentRejections.toNat = inWindow config (calls before ++ [now]) now
  total : observation.totalRejected.toNat = (calls before ++ [now]).length % 2 ^ 64
  peak : observation.peakRatePerSec.toNat =
    max (peakSinceReset (run step (start config) before).outcomes) observation.recentRejections.toNat
  log : observation.emittedLog = true ↔ config.alertThreshold.toNat ≤ inWindow config (calls before ++ [now]) now ∧
    ∀ log ∈ logs config before, log + config.minLogInterval ≤ now

/-- **The detector counts its window**: every call of a run, the gauge after each, and the logs of the whole run. The
configuration need not be an accepted one. -/
theorem detector_counts_window {config : BurstDetectionConfig} {ops : List Op} (hclock : Clock config ops) :
    (∀ before now event after, ops = before ++ .recordBurst now event :: after →
      Exact config before now (observed config before now event)) ∧
    (∀ before, before <+: ops → (run step (start config) before).detector.metrics.peakRatePerSec.toNat =
      peakSinceReset (run step (start config) before).outcomes) ∧
    (logs config ops).Pairwise fun earlier later => earlier + config.minLogInterval ≤ later := by
  refine ⟨?_, ?_, logs_apart hclock.sorted⟩
  · rintro before now event after rfl
    have hcalls : calls (before ++ .recordBurst now event :: after) =
        calls (before ++ [.recordBurst now event]) ++ calls after := by
      rw [← calls_append, List.append_assoc, List.singleton_append]
    have hpre : Clock config (before ++ [.recordBurst now event]) := by
      obtain ⟨hsorted, hrepresentable, hfits⟩ := hclock
      rw [hcalls] at hsorted hrepresentable hfits
      refine ⟨(List.pairwise_append.1 hsorted).1, fun t ht => hrepresentable t (List.mem_append_left _ ht), fun t => ?_⟩
      exact (List.countP_append ▸ hfits t).trans' (Nat.le_add_right _ _)
    have hrecent := recentRejections_observed hpre
    have hsorted : (calls before ++ [now]).Pairwise (· ≤ ·) := by simpa using hpre.sorted
    refine ⟨hrecent, totalRejected_observed config before now event, peakRate_observed config before now event, ?_⟩
    rw [← hrecent]
    exact emittedLog_observed hsorted
  · intro before _
    have hrep := rep_run config before
    rw [hrep.mirrored, hrep.peak]

/-- two calls of one window, and the peak reset -/
def twoCalls : List Op := [.recordBurst 2000000000 ⟨128⟩, .recordBurst 2400000000 ⟨128⟩, .resetPeak]

/-- the call after them finds the second one still in its window, and the peak is theirs -/
theorem detector_counts_window_after_reset :
    (observed (clientConfig 256 1000).burstDetection twoCalls 3200000000 ⟨128⟩).peakRatePerSec.toNat = 2 := by
  have hcalls : calls (twoCalls ++ [.recordBurst 3200000000 ⟨128⟩]) = [2000000000, 2400000000, 3200000000] := rfl
  have hclock : Clock (clientConfig 256 1000).burstDetection (twoCalls ++ [.recordBurst 3200000000 ⟨128⟩]) := by
    refine ⟨by rw [hcalls]; decide, by rw [hcalls]; decide, fun t => ?_⟩
    rw [hcalls]
    exact List.countP_le_length.trans (by decide)
  have hexact := (detector_counts_window hclock).1 twoCalls 3200000000 ⟨128⟩ [] rfl
  rw [hexact.peak, hexact.recent]
  decide

/-! ## The total wraps -/

/-- calls at a fixed pace, the first one a second after the earliest instant -/
def paced (n : ℕ) : List Op := (List.range n).map fun k => .recordBurst (1000000000 + k * 400000000 : ℕ) ⟨128⟩

theorem calls_paced (n : ℕ) : calls (paced n) = (List.range n).map fun k => (1000000000 + k * 400000000 : ℕ) := by
  simp [calls, paced, List.filterMap_map]

theorem clock_paced (n : ℕ) : Clock (clientConfig 256 1000).burstDetection (paced n) := by
  have hgap : (calls (paced n)).Pairwise fun a b => a + 400000000 ≤ b := by
    rw [calls_paced, List.pairwise_map]
    refine List.pairwise_lt_range.imp fun {a b} hab => ?_
    show (1000000000 + a * 400000000 + 400000000 : ℕ) ≤ 1000000000 + b * 400000000
    omega
  refine ⟨hgap.imp fun {a b} h => (Nat.le_add_right a _).trans h, ?_, fun t => ?_⟩
  · intro t ht
    rw [calls_paced] at ht
    obtain ⟨k, -, rfl⟩ := List.mem_map.1 ht
    exact Nat.le_add_right _ _
  · exact (countP_le_of_gap (by decide) hgap t _).trans (by decide)

/-- **After 2^64 calls the total is 0 again.** -/
theorem total_wraps : ¬ ∀ (tryParseFrom : List String → Except String CliArgs) (args : List String) (config : AppConfig)
    (ops : List Op), loadConfigFrom tryParseFrom args = .ok config → Clock config.burstDetection ops →
    ∀ before now event after, ops = before ++ .recordBurst now event :: after →
      (observed config.burstDetection before now event).totalRejected.toNat = (calls before ++ [now]).length := by
  intro h
  have hsucc : (2 ^ 64 - 1) + 1 = 2 ^ 64 := by norm_num
  generalize 2 ^ 64 - 1 = n at hsucc
  have hlast : paced (n + 1) = paced n ++ [.recordBurst (1000000000 + n * 400000000) ⟨128⟩] := by
    simp [paced, List.range_succ]
  have hload : loadConfigFrom (fun _ => .ok (clientArgs 256 1000)) [] = .ok (clientConfig 256 1000) :=
    load_clientArgs (by decide) (by decide) []
  have htotal := h _ _ _ (paced (n + 1)) hload (clock_paced (n + 1)) (paced n) _ _ [] hlast
  have hlength : (calls (paced n) ++ [1000000000 + n * 400000000]).length = 2 ^ 64 := by
    simp [calls_paced, hsucc]
  rw [totalRejected_observed, hlength] at htotal
  exact absurd htotal (by decide)

/-! ## The ring -/

/-- a client with a ring of one -/
def smallRing : AppConfig := clientConfig 256 1

/-- **The ring bounds the deque** in every state of a run exactly where it bounds the calls that are still alive: those
that lie before no cutoff of their own or of a later call. Past the window these are the calls of the window. -/
theorem ring_bounded_iff {config : BurstDetectionConfig} {ops : List Op} (hsorted : (calls ops).Pairwise (· ≤ ·)) :
    AllStates step (fun w => w.detector.inner.recentRejections.length ≤ config.ringCapacity.toNat) (start config) ops ↔
    ∀ before, before <+: ops →
      (live (cutoff config.alertWindow) (calls before)).length ≤ config.ringCapacity.toNat := by
  have hpre : ∀ before, before <+: ops → (run step (start config) before).detector.inner.recentRejections =
      live (cutoff config.alertWindow) (calls before) := by
    rintro before ⟨after, rfl⟩
    rw [calls_append] at hsorted
    rw [(rep_run _ before).recent, pushes_eq_live (List.pairwise_append.1 hsorted).1]
  rw [allStates_iff]
  constructor
  · intro h before hbefore
    rw [← hpre before hbefore]
    exact h before hbefore
  · intro h before hbefore
    rw [hpre before hbefore]
    exact h before hbefore

/-- four calls, of which no window holds more than two -/
def spacedCalls : List Op :=
  [.recordBurst 2000000000 ⟨128⟩, .recordBurst 2600000000 ⟨128⟩, .recordBurst 3200000000 ⟨128⟩,
    .recordBurst 3700000000 ⟨128⟩]

/-- they stay within a ring of two, since the first two leave as the others come -/
theorem ring_bounded_spaced :
    AllStates step
        (fun w => w.detector.inner.recentRejections.length ≤ (clientConfig 256 2).burstDetection.ringCapacity.toNat)
        (start (clientConfig 256 2).burstDetection) spacedCalls ∧
      (run step (start (clientConfig 256 2).burstDetection) spacedCalls).detector.inner.recentRejections =
        [3200000000, 3700000000] := by
  have hsorted : (calls spacedCalls).Pairwise (· ≤ ·) := by decide
  have hlive : ∀ before ∈ spacedCalls.inits, (live (cutoff (clientConfig 256 2).burstDetection.alertWindow)
      (calls before)).length ≤ (clientConfig 256 2).burstDetection.ringCapacity.toNat := by decide
  exact ⟨(ring_bounded_iff hsorted).2 fun before hbefore => hlive before ((List.mem_inits _ _).2 hbefore), by decide⟩

/-- **A flood overruns the ring**: two rejections at one instant, in a ring of one. -/
theorem ring_overrun : ¬ ∀ (tryParseFrom : List String → Except String CliArgs) (args : List String) (config : AppConfig)
    (ops : List Op), loadConfigFrom tryParseFrom args = .ok config → (calls ops).Pairwise (· ≤ ·) →
    AllStates step (fun w => w.detector.inner.recentRejections.length ≤ config.burstDetection.ringCapacity.toNat)
      (start config.burstDetection) ops := by
  intro h
  have hload : loadConfigFrom (fun _ => .ok (clientArgs 256 1)) [] = .ok smallRing :=
    load_clientArgs (by decide) (by decide) []
  have hbounded := h _ _ _ [.recordBurst 2000000000 ⟨128⟩, .recordBurst 2000000000 ⟨128⟩]
    hload (by decide)
  have hlast := allStates_iff.1 hbounded _ List.prefix_rfl
  exact absurd hlast (by decide)

end N0wss.Obs
