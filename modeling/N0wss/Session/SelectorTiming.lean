/-
How long a stream may take to open (`session/transport_selector.rs`), with the selector that `run_client_mode` builds
(`cli/mod.rs`).

The token of the call is cancelled at some time or never. A `select!` that finds both of its branches ready at the same
instant takes either one, which is an input; so is what each carrier does. The turns of `Cancellation` are not told apart
here: an attempt has the time of its end (`attemptWithTimeoutPoll_end`).

- `attempt_spec`: how an attempt ends, and when.
- `selects_inner`: how the two attempts end together.
- `selection_bounded`: a stream opens or fails within both timeouts and not after its token; the safety timeout has the
  last word only where it is shorter than both.
- `openStreamUnder_none`: without a cancelled token this is the selector of the streams.
- `client_streams_over_wss`: with the client's own selector every stream is one of the WSS carrier.
-/
import N0wss.Config.Load
import N0wss.Session.Cancellation

namespace N0wss.Session

open Cancellation (AttemptOutcome attemptWithTimeoutPoll)

variable {ε : Type}

/-! ## Attempts under a token -/

def timeoutText (timeout : Duration) : String := "timeout after " ++ toString (asMillis timeout) ++ "ms"

/-- what the end of the carrier means; `isCancelled` is what the token says by then -/
def attemptEnd (timeout : Duration) (isCancelled : Bool) : Option (Except String TransportKind) → AttemptOutcome
  | some (.ok kind) => .resolved kind
  | some (.error err) => if isCancelled then .cancelled else .failed err
  | none => .failed (timeoutText timeout)

/-- the carrier's branch of the `select!`, polled at its end -/
theorem attemptWithTimeoutPoll_end (timeout : Duration) (isCancelled : Bool) (deadline : Instant)
    (outcome : Option (Except String TransportKind)) :
    attemptWithTimeoutPoll timeout isCancelled deadline (.adapter outcome) deadline =
      some (attemptEnd timeout isCancelled outcome) := by
  rcases outcome with _ | err | kind
  · exact if_pos le_rfl
  · rfl
  · rfl

/-- `attempt_with_timeout`; the token is cancelled at `cancelAt`, and `tokenFirst` says which branch is taken when both
are ready at once -/
def attemptUnder (cancelAt : Option ℕ) (tokenFirst : Bool) (timeout : Duration)
    (adapter : Timed ε (Except String TransportKind)) : Done ε AttemptOutcome :=
  let attempt := adapter.timeout timeout
  match cancelAt with
  | none => attempt.map (attemptEnd timeout false)
  | some c =>
    if c < attempt.time ∨ c = attempt.time ∧ tokenFirst then ⟨attempt.events.filter (·.1 ≤ c), c, .cancelled⟩
    else attempt.map (attemptEnd timeout (c ≤ attempt.time))

/-- what the second attempt means, once the first has failed -/
def secondOutcome (irohErr : String) : AttemptOutcome → Except TransportSelectError TransportKind
  | .resolved kind => .ok kind
  | .cancelled => .error .cancelled
  | .failed wssErr => .error (.allFailed (some irohErr) (some wssErr))

/-- `open_stream_inner`; the second attempt has the rest of the time until the token is cancelled -/
def openStreamInnerUnder (config : TransportSelectorConfig) (cancelAt : Option ℕ) (ties : Bool × Bool)
    (iroh wss : Timed ε (Except String TransportKind)) : Timed ε (Except TransportSelectError TransportKind) :=
  if cancelAt = some 0 then Timed.now (.error .cancelled)
  else
    let first := attemptUnder cancelAt ties.1 config.irohTimeout iroh
    first.toTimed.bind fun
      | .resolved kind => Timed.now (.ok kind)
      | .cancelled => Timed.now (.error .cancelled)
      | .failed irohErr =>
        ((attemptUnder (cancelAt.map (· - first.time)) ties.2 config.wssTimeout wss).map (secondOutcome irohErr)).toTimed

/-- what is left of a result once the safety timeout is up -/
def safetyResult : Option (Except TransportSelectError TransportKind) → Except TransportSelectError TransportKind
  | some result => result
  | none => .error .contractViolation

/-- `open_stream` -/
def openStreamUnder (config : TransportSelectorConfig) (cancelAt : Option ℕ) (ties : Bool × Bool)
    (iroh wss : Timed ε (Except String TransportKind)) : Done ε (Except TransportSelectError TransportKind) :=
  ((openStreamInnerUnder config cancelAt ties iroh wss).timeout config.safetyTimeout).map safetyResult

/-! ## How an attempt ends -/

variable {cancelAt : Option ℕ} {tokenFirst : Bool} {timeout : Duration}
variable {adapter : Timed ε (Except String TransportKind)}

/-- the carrier gives up at `n`, or the time is up with nothing from it -/
def GaveUp (timeout : Duration) (adapter : Timed ε (Except String TransportKind)) (n : ℕ) (err : String) : Prop :=
  n ≤ timeout ∧ (adapter.result = some (n, .error err) ∨
    n = timeout ∧ err = timeoutText timeout ∧ ∀ d a, adapter.result = some (d, a) → timeout < d)

/-- how an attempt may end, and when -/
structure Attempted (cancelAt : Option ℕ) (timeout : Duration) (adapter : Timed ε (Except String TransportKind))
    (time : ℕ) (outcome : AttemptOutcome) : Prop where
  bounded : time ≤ timeout
  prompt : ∀ c, cancelAt = some c → time ≤ c
  cancelled : outcome = .cancelled → cancelAt = some time
  resolved : ∀ kind, outcome = .resolved kind → adapter.result = some (time, .ok kind)
  failed : ∀ err, outcome = .failed err → GaveUp timeout adapter time err

/-- the token is first -/
theorem attempted_cancelled {c : ℕ} (hle : c ≤ timeout) : Attempted (some c) timeout adapter c .cancelled where
  bounded := hle
  prompt _ hc := (Option.some.inj hc).le
  cancelled _ := rfl
  resolved _ h := by cases h
  failed _ h := by cases h

/-- the carrier is first, or the time is up; `isCancelled` can be true only where the token has been cancelled by then -/
theorem attempted_end {isCancelled : Bool} (htoken : isCancelled = true → cancelAt = some (adapter.timeout timeout).time)
    (hprompt : ∀ c, cancelAt = some c → (adapter.timeout timeout).time ≤ c) :
    Attempted cancelAt timeout adapter (adapter.timeout timeout).time
      (attemptEnd timeout isCancelled (adapter.timeout timeout).value) := by
  rcases Timed.in_time_or_late timeout adapter with ⟨d, a, hresult, hle⟩ | hlate
  · rw [Timed.timeout_of_le hresult hle] at htoken hprompt ⊢
    cases a with
    | ok kind =>
      refine ⟨hle, hprompt, fun h => ?_, fun kind' h => ?_, fun err h => ?_⟩
      · cases h
      · cases h
        exact hresult
      · cases h
    | error err =>
      cases isCancelled with
      | true =>
        refine ⟨hle, hprompt, fun _ => htoken rfl, fun kind h => ?_, fun err' h => ?_⟩
        · cases h
        · cases h
      | false =>
        refine ⟨hle, hprompt, fun h => ?_, fun kind h => ?_, fun err' h => ?_⟩
        · cases h
        · cases h
        · cases h
          exact ⟨hle, Or.inl hresult⟩
  · rw [Timed.timeout_of_late hlate] at hprompt ⊢
    refine ⟨le_rfl, hprompt, fun h => ?_, fun kind h => ?_, fun err h => ?_⟩
    · cases h
    · cases h
    · cases h
      exact ⟨le_rfl, Or.inr ⟨rfl, rfl, hlate⟩⟩

theorem time_timeout_le (limit : ℕ) (t : Timed ε (Except String TransportKind)) : (t.timeout limit).time ≤ limit := by
  rcases Timed.in_time_or_late limit t with ⟨d, a, hresult, hle⟩ | hlate
  · rw [Timed.timeout_of_le hresult hle]
    exact hle
  · rw [Timed.timeout_of_late hlate]

theorem attempt_spec (cancelAt : Option ℕ) (tokenFirst : Bool) (timeout : Duration)
    (adapter : Timed ε (Except String TransportKind)) :
    Attempted cancelAt timeout adapter (attemptUnder cancelAt tokenFirst timeout adapter).time
      (attemptUnder cancelAt tokenFirst timeout adapter).value := by
  have hbound := time_timeout_le timeout adapter
  cases cancelAt with
  | none =>
    refine attempted_end (fun h => ?_) (fun c h => ?_)
    · cases h
    · cases h
  | some c =>
    simp only [attemptUnder]
    split_ifs with hfirst
    · exact attempted_cancelled (by omega)
    · have hle : (adapter.timeout timeout).time ≤ c := by omega
      refine attempted_end (fun h => ?_) (fun c' h => ?_)
      · exact congrArg some (le_antisymm (of_decide_eq_true h) hle)
      · obtain rfl := Option.some.inj h
        exact hle

theorem attemptEnd_eq_resolved {isCancelled : Bool} {value : Option (Except String TransportKind)}
    {kind : TransportKind} :
    attemptEnd timeout isCancelled value = .resolved kind ↔ value = some (.ok kind) := by
  rcases value with _ | err | kind'
  · simp [attemptEnd]
  · cases isCancelled <;> simp [attemptEnd]
  · simp [attemptEnd]

/-- an attempt has a stream exactly when the carrier has one in time, and before the token or together with it -/
theorem attempt_resolved_iff {kind : TransportKind} :
    (attemptUnder cancelAt tokenFirst timeout adapter).value = .resolved kind ↔
      ∃ m, adapter.result = some (m, .ok kind) ∧ m ≤ timeout ∧
        ∀ c, cancelAt = some c → m < c ∨ m = c ∧ tokenFirst = false := by
  cases cancelAt with
  | none => simp [attemptUnder, attemptEnd_eq_resolved, Timed.timeout_eq_some]
  | some c =>
    simp only [attemptUnder, Option.some.injEq, forall_eq']
    split_ifs with hfirst
    · refine iff_of_false (fun h => by cases h) ?_
      rintro ⟨m, hresult, hle, hc⟩
      rw [Timed.timeout_of_le hresult hle] at hfirst
      rcases hfirst with hlt | ⟨heq, htie⟩
      · have : c < m := hlt
        omega
      · rw [htie] at hc
        have : c = m := heq
        rcases hc with hlt | ⟨-, hfalse⟩
        · omega
        · cases hfalse
    · rw [Done.value_map, attemptEnd_eq_resolved, Timed.timeout_eq_some]
      refine exists_congr fun m => and_congr_right fun hresult => (and_iff_left_of_imp fun hle => ?_).symm
      rw [Timed.timeout_of_le hresult hle] at hfirst
      obtain ⟨hlate, htie⟩ := not_or.1 hfirst
      rcases (not_lt.1 hlate : m ≤ c).lt_or_eq with hlt | heq
      · exact Or.inl hlt
      · exact Or.inr ⟨heq, Bool.eq_false_iff.2 fun h => htie ⟨heq.symm, h⟩⟩

/-! ## How a stream is opened -/

variable {config : TransportSelectorConfig} {ties : Bool × Bool} {iroh wss : Timed ε (Except String TransportKind)}

/-- how the two attempts may end together, and when -/
structure Selected (config : TransportSelectorConfig) (cancelAt : Option ℕ)
    (iroh wss : Timed ε (Except String TransportKind)) (time : ℕ) (result : Except TransportSelectError TransportKind) :
    Prop where
  bounded : time ≤ config.irohTimeout + config.wssTimeout
  prompt : ∀ c, cancelAt = some c → time ≤ c
  cancelled : result = .error .cancelled → cancelAt = some time
  opened : ∀ kind, result = .ok kind →
    iroh.result = some (time, .ok kind) ∧ time ≤ config.irohTimeout ∨
      ∃ n irohErr m, GaveUp config.irohTimeout iroh n irohErr ∧ wss.result = some (m, .ok kind) ∧
        m ≤ config.wssTimeout ∧ time = n + m
  failed : ∀ irohErr wssErr, result = .error (.allFailed irohErr wssErr) →
    ∃ n e m e', irohErr = some e ∧ wssErr = some e' ∧ GaveUp config.irohTimeout iroh n e ∧
      GaveUp config.wssTimeout wss m e' ∧ time = n + m
  kept : result ≠ .error .contractViolation

/-- the token is first, in either attempt or before them -/
theorem selected_cancelled {time : ℕ} (hle : time ≤ config.irohTimeout + config.wssTimeout) (hc : cancelAt = some time) :
    Selected config cancelAt iroh wss time (.error .cancelled) := by
  refine ⟨hle, fun c hc' => ?_, fun _ => hc, fun kind h => ?_, fun irohErr wssErr h => ?_, fun h => ?_⟩
  · rw [hc] at hc'
    exact (Option.some.inj hc').le
  · cases h
  · cases h
  · cases h

/-- the first attempt has a stream -/
theorem selected_first {time : ℕ} {kind : TransportKind}
    (h : Attempted cancelAt config.irohTimeout iroh time (.resolved kind)) :
    Selected config cancelAt iroh wss time (.ok kind) := by
  refine ⟨h.bounded.trans (Nat.le_add_right _ _), h.prompt, fun hr => ?_, fun kind' hr => ?_,
    fun irohErr wssErr hr => ?_, fun hr => ?_⟩
  · cases hr
  · cases hr
    exact Or.inl ⟨h.resolved kind rfl, h.bounded⟩
  · cases hr
  · cases hr

/-- the second attempt starts where the first has failed, and the token has gone that far too -/
theorem selected_second {n m : ℕ} {irohErr : String} {outcome : AttemptOutcome}
    (hfirst : Attempted cancelAt config.irohTimeout iroh n (.failed irohErr))
    (hsecond : Attempted (cancelAt.map (· - n)) config.wssTimeout wss m outcome) :
    Selected config cancelAt iroh wss (n + m) (secondOutcome irohErr outcome) := by
  have hbound := Nat.add_le_add hfirst.bounded hsecond.bounded
  have hgave := hfirst.failed irohErr rfl
  have hprompt : ∀ c, cancelAt = some c → n + m ≤ c := by
    intro c hc
    have hn := hfirst.prompt c hc
    have hm := hsecond.prompt (c - n) (by rw [hc, Option.map_some])
    omega
  cases outcome with
  | resolved kind =>
    refine ⟨hbound, hprompt, fun h => ?_, fun kind' h => ?_, fun e e' h => ?_, fun h => ?_⟩
    · cases h
    · cases h
      exact Or.inr ⟨n, irohErr, m, hgave, hsecond.resolved kind rfl, hsecond.bounded, rfl⟩
    · cases h
    · cases h
  | cancelled =>
    apply selected_cancelled hbound
    obtain ⟨c, hc, hm⟩ := Option.map_eq_some_iff.1 (hsecond.cancelled rfl)
    have hn := hfirst.prompt c hc
    rw [hc, ← hm, Nat.add_sub_cancel' hn]
  | failed wssErr =>
    refine ⟨hbound, hprompt, fun h => ?_, fun kind h => ?_, fun e e' h => ?_, fun h => ?_⟩
    · cases h
    · cases h
    · cases h
      exact ⟨n, irohErr, m, wssErr, rfl, rfl, hgave, hsecond.failed wssErr rfl, rfl⟩
    · cases h

/-- the two attempts always end -/
theorem selects_inner (config : TransportSelectorConfig) (cancelAt : Option ℕ) (ties : Bool × Bool)
    (iroh wss : Timed ε (Except String TransportKind)) :
    ∃ time result, (openStreamInnerUnder config cancelAt ties iroh wss).result = some (time, result) ∧
      Selected config cancelAt iroh wss time result := by
  by_cases hzero : cancelAt = some 0
  · refine ⟨0, .error .cancelled, ?_, selected_cancelled (Nat.zero_le _) hzero⟩
    simp only [openStreamInnerUnder, if_pos hzero, Timed.result_now]
  · have hfirst := attempt_spec cancelAt ties.1 config.irohTimeout iroh
    simp only [openStreamInnerUnder, if_neg hzero]
    generalize attemptUnder cancelAt ties.1 config.irohTimeout iroh = first at hfirst ⊢
    obtain ⟨events, n, outcome⟩ := first
    rw [Timed.bind_of_some (Done.result_toTimed _)]
    cases outcome with
    | resolved kind => exact ⟨n, .ok kind, rfl, selected_first hfirst⟩
    | cancelled =>
      exact ⟨n, .error .cancelled, rfl,
        selected_cancelled (hfirst.bounded.trans (Nat.le_add_right _ _)) (hfirst.cancelled rfl)⟩
    | failed irohErr =>
      exact ⟨_, _, rfl, selected_second hfirst (attempt_spec (cancelAt.map (· - n)) ties.2 config.wssTimeout wss)⟩

/-- **Bounded.** A stream opens, fails or is cancelled within the two timeouts and never after its token: from the first
carrier, or from the second once the first has given up. The safety timeout has the last word only where it is shorter
than both timeouts together, and then not after the token either. -/
theorem selection_bounded (config : TransportSelectorConfig) (cancelAt : Option ℕ) (ties : Bool × Bool)
    (iroh wss : Timed ε (Except String TransportKind)) :
    (openStreamUnder config cancelAt ties iroh wss).time ≤ config.safetyTimeout ∧
      (Selected config cancelAt iroh wss (openStreamUnder config cancelAt ties iroh wss).time
          (openStreamUnder config cancelAt ties iroh wss).value ∨
        (openStreamUnder config cancelAt ties iroh wss).value = .error .contractViolation ∧
          (openStreamUnder config cancelAt ties iroh wss).time = config.safetyTimeout ∧
          config.safetyTimeout < config.irohTimeout + config.wssTimeout ∧
          ∀ c, cancelAt = some c → config.safetyTimeout < c) := by
  obtain ⟨time, result, hinner, hselected⟩ := selects_inner config cancelAt ties iroh wss
  simp only [openStreamUnder]
  by_cases hle : time ≤ config.safetyTimeout
  · rw [Timed.timeout_of_le hinner hle]
    exact ⟨hle, Or.inl hselected⟩
  · have hlate : ∀ d a, (openStreamInnerUnder config cancelAt ties iroh wss).result = some (d, a) →
        config.safetyTimeout < d := by
      intro d a h
      rw [hinner] at h
      cases h
      exact not_le.1 hle
    rw [Timed.timeout_of_late hlate]
    have hlt := not_le.1 hle
    exact ⟨le_rfl, Or.inr ⟨rfl, rfl, hlt.trans_le hselected.bounded,
      fun c hc => hlt.trans_le (hselected.prompt c hc)⟩⟩

/-! ## A token that is never cancelled -/

def outcomeOf : Except String TransportKind → AttemptOutcome
  | .ok kind => .resolved kind
  | .error err => .failed err

theorem attemptUnder_none (tokenFirst : Bool) (timeout : Duration) (adapter : Timed ε (Except String TransportKind)) :
    attemptUnder none tokenFirst timeout adapter = (attemptWithTimeout timeout adapter).map outcomeOf := by
  have hvalue : ∀ value, attemptEnd timeout false value = outcomeOf (attemptOutcome timeout value) := by
    rintro (_ | err | kind) <;> rfl
  simp only [attemptWithTimeout, attemptUnder, Done.map, hvalue]

theorem openStreamInnerUnder_none (config : TransportSelectorConfig) (ties : Bool × Bool)
    (iroh wss : Timed ε (Except String TransportKind)) :
    openStreamInnerUnder config none ties iroh wss = openStreamInner config iroh wss := by
  simp only [openStreamInnerUnder, openStreamInner, attemptUnder_none, Option.map_none, reduceCtorEq, if_false]
  generalize attemptWithTimeout config.irohTimeout iroh = first
  generalize attemptWithTimeout config.wssTimeout wss = second
  obtain ⟨events, n, kind | irohErr⟩ := first
  · obtain ⟨events', m, kind | wssErr⟩ := second
    · rfl
    · rfl
  · rfl

/-- the selector of the streams that nobody cancels -/
theorem openStreamUnder_none (config : TransportSelectorConfig) (ties : Bool × Bool)
    (iroh wss : Timed ε (Except String TransportKind)) :
    openStreamUnder config none ties iroh wss = openStream config iroh wss := by
  rw [openStreamUnder, openStream, openStreamInnerUnder_none]
  generalize (openStreamInner config iroh wss).timeout config.safetyTimeout = attempts
  obtain ⟨events, n, _ | result⟩ := attempts
  · rfl
  · rfl

/-! ## The client's selector -/

/-- the selector's timeouts in `run_client_mode` -/
def clientSelectorConfig (timeouts : Config.TimeoutConfig) : TransportSelectorConfig where
  irohTimeout := timeouts.irohConnectTimeout
  wssTimeout := timeouts.wssConnectTimeout
  safetyTimeout := timeouts.irohConnectTimeout + timeouts.wssConnectTimeout + Config.fromSecs 1

def unavailableText : String := "iroh runtime transport is not configured for this launch"

/-- `UnavailableTransportAdapter`'s `open_stream` -/
def unavailableOpenStream : Timed ε (Except String TransportKind) := Timed.now (.error unavailableText)

/-- the first attempt is over before the token can be cancelled -/
theorem attempt_unavailable {cancelAt : Option ℕ} (hzero : cancelAt ≠ some 0) (tokenFirst : Bool) (timeout : Duration) :
    attemptUnder cancelAt tokenFirst timeout (unavailableOpenStream : Timed ε _) = ⟨[], 0, .failed unavailableText⟩ := by
  have htimeout : (unavailableOpenStream : Timed ε _).timeout timeout = ⟨[], 0, some (.error unavailableText)⟩ :=
    Timed.timeout_of_le rfl (Nat.zero_le _)
  cases cancelAt with
  | none => rw [attemptUnder, htimeout]; rfl
  | some c =>
    have hc : c ≠ 0 := fun h => hzero (congrArg some h)
    have hfirst : ¬(c < 0 ∨ c = 0 ∧ tokenFirst = true) := by omega
    have hlate : decide (c ≤ 0) = false := decide_eq_false (by omega)
    simp only [attemptUnder, htimeout, if_neg hfirst, hlate]
    rfl

/-- the first attempt takes no time, and the safety timeout is never up -/
theorem client_open (timeouts : Config.TimeoutConfig) (cancelAt : Option ℕ) (ties : Bool × Bool)
    (wss : Timed ε (Except String TransportKind)) :
    openStreamUnder (clientSelectorConfig timeouts) cancelAt ties unavailableOpenStream wss =
      if cancelAt = some 0 then ⟨[], 0, .error .cancelled⟩
      else (attemptUnder cancelAt ties.2 timeouts.wssConnectTimeout wss).map (secondOutcome unavailableText) := by
  split_ifs with hzero
  · rw [openStreamUnder, openStreamInnerUnder, if_pos hzero, Timed.timeout_of_le rfl (Nat.zero_le _)]
    rfl
  · have hbound := (attempt_spec cancelAt ties.2 timeouts.wssConnectTimeout wss).bounded
    have htoken : cancelAt.map (· - 0) = cancelAt := Option.map_id'
    simp only [openStreamUnder, openStreamInnerUnder, if_neg hzero, attempt_unavailable hzero, clientSelectorConfig,
      htoken]
    generalize attemptUnder cancelAt ties.2 timeouts.wssConnectTimeout wss = second at hbound ⊢
    obtain ⟨events, m, outcome⟩ := second
    rw [Timed.bind_of_some (Done.result_toTimed _)]
    have hle : m ≤ timeouts.irohConnectTimeout + timeouts.wssConnectTimeout + Config.fromSecs 1 := by
      have hm : m ≤ timeouts.wssConnectTimeout := hbound
      omega
    simp only [Timed.delay_zero]
    rw [Timed.timeout_of_le rfl hle]
    rfl

theorem secondOutcome_eq_ok {irohErr : String} {outcome : AttemptOutcome} {kind : TransportKind} :
    secondOutcome irohErr outcome = .ok kind ↔ outcome = .resolved kind := by
  cases outcome <;> simp [secondOutcome]

/-- **The client's streams.** Every stream of the client is one of the WSS carrier, and opens exactly when that carrier
has it in time and the token lets it; whatever else it ends with, it has ended when the time of the WSS carrier is up,
with the token cancelled right then or with a text for either carrier. -/
theorem client_streams_over_wss (timeouts : Config.TimeoutConfig) (cancelAt : Option ℕ) (ties : Bool × Bool)
    (wss : Timed ε (Except String TransportKind)) :
    let opening := openStreamUnder (clientSelectorConfig timeouts) cancelAt ties unavailableOpenStream wss
    opening.time ≤ timeouts.wssConnectTimeout ∧
      (∀ kind, opening.value = .ok kind ↔
        ∃ m, wss.result = some (m, .ok kind) ∧ m ≤ timeouts.wssConnectTimeout ∧
          ∀ c, cancelAt = some c → 0 < c ∧ (m < c ∨ m = c ∧ ties.2 = false)) ∧
      ∀ err, opening.value = .error err →
        err = .cancelled ∧ cancelAt = some opening.time ∨
          ∃ wssErr, err = .allFailed (some unavailableText) (some wssErr) ∧
            GaveUp timeouts.wssConnectTimeout wss opening.time wssErr := by
  intro opening
  have hopening : opening = _ := client_open timeouts cancelAt ties wss
  clear_value opening
  subst hopening
  split_ifs with hzero
  · refine ⟨Nat.zero_le _, fun kind => iff_of_false (fun h => by cases h) ?_, fun err h => ?_⟩
    · rintro ⟨m, -, -, htoken⟩
      exact absurd (htoken 0 hzero).1 (lt_irrefl 0)
    · cases h
      exact Or.inl ⟨rfl, hzero⟩
  · have hspec := attempt_spec cancelAt ties.2 timeouts.wssConnectTimeout wss
    refine ⟨hspec.bounded, fun kind => ?_, fun err h => ?_⟩
    · rw [Done.value_map, secondOutcome_eq_ok, attempt_resolved_iff]
      refine exists_congr fun m => and_congr_right fun _ => and_congr_right fun _ => forall₂_congr fun c hc => ?_
      exact (and_iff_right (Nat.pos_of_ne_zero fun h => hzero (by rw [hc, h]))).symm
    · generalize attemptUnder cancelAt ties.2 timeouts.wssConnectTimeout wss = second at hspec h ⊢
      obtain ⟨events, m, kind | _ | wssErr⟩ := second
      · cases h
      · cases h
        exact Or.inl ⟨rfl, hspec.cancelled rfl⟩
      · cases h
        exact Or.inr ⟨wssErr, rfl, hspec.failed wssErr rfl⟩

end N0wss.Session
