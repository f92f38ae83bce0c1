/-
Computations that take time. One has a log of what happens on the way, and a result; both carry the time, counted from
its start. It may never be done, and a timeout around it cuts it off.

- `andThen`: the next one starts when the one before it is done, and not at all after an error. `andThen_eq_ok`: how a
  sequence succeeds. `mem_events_andThen`: what happens in it.
- `timeout`: the result, or nothing once the time is up, so that it is always done (`Done`). `timeout_eq_some`: the result
  is there exactly when the computation is done in time. `of_mem_timeout`: what is left of the log.
-/
import Mathlib.Tactic

namespace N0wss

/-- the result of something that is waited for, and how long it takes; `none` where it never comes -/
abbrev Await (α : Type*) := Option (ℕ × α)

structure Timed (ε α : Type*) where
  events : List (ℕ × ε)
  result : Await α

/-- a computation that is done at some time -/
structure Done (ε α : Type*) where
  events : List (ℕ × ε)
  time : ℕ
  value : α

namespace Done

variable {ε α β : Type*}

def map (f : α → β) (t : Done ε α) : Done ε β := ⟨t.events, t.time, f t.value⟩

def toTimed (t : Done ε α) : Timed ε α := ⟨t.events, some (t.time, t.value)⟩

@[simp] theorem value_map (f : α → β) (t : Done ε α) : (t.map f).value = f t.value := rfl

@[simp] theorem events_map (f : α → β) (t : Done ε α) : (t.map f).events = t.events := rfl

@[simp] theorem events_toTimed (t : Done ε α) : t.toTimed.events = t.events := rfl

@[simp] theorem result_toTimed (t : Done ε α) : t.toTimed.result = some (t.time, t.value) := rfl

end Done

namespace Timed

variable {ε α β γ : Type*}

/-! ## Steps -/

/-- done at once -/
def now (a : α) : Timed ε α := ⟨[], some (0, a)⟩

def await (a : Await α) : Timed ε α := ⟨[], a⟩

def emit (e : ε) : Timed ε Unit := ⟨[(0, e)], some (0, ())⟩

def map (f : α → β) (t : Timed ε α) : Timed ε β := ⟨t.events, t.result.map fun r => (r.1, f r.2)⟩

/-- the same under other names for what happens -/
def mapEvents {ε' : Type*} (f : ε → ε') (t : Timed ε α) : Timed ε' α := ⟨t.events.map fun e => (e.1, f e.2), t.result⟩

/-- the same, started later -/
def delay (d : ℕ) (t : Timed ε α) : Timed ε α :=
  ⟨t.events.map fun e => (d + e.1, e.2), t.result.map fun r => (d + r.1, r.2)⟩

def bind (t : Timed ε α) (f : α → Timed ε β) : Timed ε β :=
  match t.result with
  | none => ⟨t.events, none⟩
  | some (d, a) => ⟨t.events ++ ((f a).delay d).events, ((f a).delay d).result⟩

/-- what comes after a success; an error is passed on -/
def next (f : α → Timed ε (Except γ β)) : Except γ α → Timed ε (Except γ β)
  | .error err => now (.error err)
  | .ok a => f a

def andThen (t : Timed ε (Except γ α)) (f : α → Timed ε (Except γ β)) : Timed ε (Except γ β) := t.bind (next f)

/-- the result is taken if it is there when the time is up -/
def timeout (limit : ℕ) (t : Timed ε α) : Done ε (Option α) :=
  match t.result with
  | some (d, a) => if d ≤ limit then ⟨t.events, d, some a⟩ else ⟨t.events.filter (·.1 ≤ limit), limit, none⟩
  | none => ⟨t.events.filter (·.1 ≤ limit), limit, none⟩

/-! ## Results -/

@[simp] theorem result_now (a : α) : (now a : Timed ε α).result = some (0, a) := rfl

@[simp] theorem result_await (a : Await α) : (await a : Timed ε α).result = a := rfl

@[simp] theorem result_emit (e : ε) : (emit e).result = some (0, ()) := rfl

@[simp] theorem result_map (f : α → β) (t : Timed ε α) :
    (t.map f).result = t.result.map fun r => (r.1, f r.2) := rfl

@[simp] theorem result_mapEvents {ε' : Type*} (f : ε → ε') (t : Timed ε α) : (t.mapEvents f).result = t.result := rfl

@[simp] theorem delay_zero (t : Timed ε α) : t.delay 0 = t := by
  obtain ⟨events, result⟩ := t
  simp [delay]

theorem bind_of_some {t : Timed ε α} {f : α → Timed ε β} {d : ℕ} {a : α} (h : t.result = some (d, a)) :
    t.bind f = ⟨t.events ++ ((f a).delay d).events, ((f a).delay d).result⟩ := by
  rw [bind, h]

theorem bind_of_none {t : Timed ε α} {f : α → Timed ε β} (h : t.result = none) : t.bind f = ⟨t.events, none⟩ := by
  rw [bind, h]

theorem bind_eq_some {t : Timed ε α} {f : α → Timed ε β} {n : ℕ} {b : β} :
    (t.bind f).result = some (n, b) ↔
      ∃ d a m, t.result = some (d, a) ∧ (f a).result = some (m, b) ∧ n = d + m := by
  cases h : t.result with
  | none => simp [bind_of_none h]
  | some r =>
    obtain ⟨d, a⟩ := r
    rw [bind_of_some h]
    simp only [delay, Option.map_eq_some_iff, Prod.exists, Prod.mk.injEq, Option.some.injEq]
    constructor
    · rintro ⟨m, b, hf, rfl, rfl⟩
      exact ⟨d, a, m, ⟨rfl, rfl⟩, hf, rfl⟩
    · rintro ⟨_, _, m, ⟨rfl, rfl⟩, hf, rfl⟩
      exact ⟨m, b, hf, rfl, rfl⟩

/-- a sequence succeeds when both parts do, one after the other -/
theorem andThen_eq_ok {t : Timed ε (Except γ α)} {f : α → Timed ε (Except γ β)} {n : ℕ} {b : β} :
    (t.andThen f).result = some (n, .ok b) ↔
      ∃ d a m, t.result = some (d, .ok a) ∧ (f a).result = some (m, .ok b) ∧ n = d + m := by
  rw [andThen, bind_eq_some]
  constructor
  · rintro ⟨d, _ | a, m, ht, hf, hn⟩
    · cases hf
    · exact ⟨d, a, m, ht, hf, hn⟩
  · rintro ⟨d, a, m, ht, hf, hn⟩
    exact ⟨d, .ok a, m, ht, hf, hn⟩

theorem map_eq_some {f : α → β} {t : Timed ε α} {n : ℕ} {b : β} :
    (t.map f).result = some (n, b) ↔ ∃ a, t.result = some (n, a) ∧ f a = b := by
  rw [result_map, Option.map_eq_some_iff]
  constructor
  · rintro ⟨⟨m, a⟩, ht, hm⟩
    obtain ⟨rfl, rfl⟩ := Prod.mk.inj hm
    exact ⟨a, ht, rfl⟩
  · rintro ⟨a, ht, rfl⟩
    exact ⟨(n, a), ht, rfl⟩

/-! ## What happens -/

@[simp] theorem events_now (a : α) : (now a : Timed ε α).events = [] := rfl

@[simp] theorem events_await (a : Await α) : (await a : Timed ε α).events = [] := rfl

@[simp] theorem events_emit (e : ε) : (emit e).events = [(0, e)] := rfl

@[simp] theorem events_map (f : α → β) (t : Timed ε α) : (t.map f).events = t.events := rfl

theorem mem_events_mapEvents {ε' : Type*} {f : ε → ε'} {t : Timed ε α} {n : ℕ} {e : ε'} :
    (n, e) ∈ (t.mapEvents f).events ↔ ∃ e₀, (n, e₀) ∈ t.events ∧ f e₀ = e := by
  simp only [mapEvents, List.mem_map, Prod.exists, Prod.mk.injEq]
  constructor
  · rintro ⟨_, e₀, hmem, rfl, rfl⟩
    exact ⟨e₀, hmem, rfl⟩
  · rintro ⟨e₀, hmem, rfl⟩
    exact ⟨n, e₀, hmem, rfl, rfl⟩

theorem mem_events_bind {t : Timed ε α} {f : α → Timed ε β} {n : ℕ} {e : ε} :
    (n, e) ∈ (t.bind f).events ↔
      (n, e) ∈ t.events ∨ ∃ d a m, t.result = some (d, a) ∧ (m, e) ∈ (f a).events ∧ n = d + m := by
  cases h : t.result with
  | none => simp [bind_of_none h]
  | some r =>
    obtain ⟨d, a⟩ := r
    rw [bind_of_some h, List.mem_append]
    apply or_congr_right
    simp only [delay, List.mem_map, Prod.exists, Prod.mk.injEq, Option.some.injEq]
    constructor
    · rintro ⟨m, e, hmem, rfl, rfl⟩
      exact ⟨d, a, m, ⟨rfl, rfl⟩, hmem, rfl⟩
    · rintro ⟨_, _, m, ⟨rfl, rfl⟩, hmem, rfl⟩
      exact ⟨m, e, hmem, rfl, rfl⟩

/-- what happens in a sequence: in its first part, or after that in its second -/
theorem mem_events_andThen {t : Timed ε (Except γ α)} {f : α → Timed ε (Except γ β)} {n : ℕ} {e : ε} :
    (n, e) ∈ (t.andThen f).events ↔
      (n, e) ∈ t.events ∨ ∃ d a m, t.result = some (d, .ok a) ∧ (m, e) ∈ (f a).events ∧ n = d + m := by
  rw [andThen, mem_events_bind]
  apply or_congr_right
  constructor
  · rintro ⟨d, _ | a, m, ht, hf, hn⟩
    · cases hf
    · exact ⟨d, a, m, ht, hf, hn⟩
  · rintro ⟨d, a, m, ht, hf, hn⟩
    exact ⟨d, .ok a, m, ht, hf, hn⟩

/-! ## Timeouts -/

theorem timeout_of_le {limit d : ℕ} {t : Timed ε α} {a : α} (h : t.result = some (d, a)) (hle : d ≤ limit) :
    t.timeout limit = ⟨t.events, d, some a⟩ := by
  simp only [timeout, h, if_pos hle]

/-- not done in time -/
theorem timeout_of_late {limit : ℕ} {t : Timed ε α} (h : ∀ d a, t.result = some (d, a) → limit < d) :
    t.timeout limit = ⟨t.events.filter (·.1 ≤ limit), limit, none⟩ := by
  cases hresult : t.result with
  | none => simp only [timeout, hresult]
  | some r =>
    obtain ⟨d, a⟩ := r
    have hlate : ¬d ≤ limit := not_le.2 (h d a hresult)
    simp only [timeout, hresult, if_neg hlate]

/-- in time or not -/
theorem in_time_or_late (limit : ℕ) (t : Timed ε α) :
    (∃ d a, t.result = some (d, a) ∧ d ≤ limit) ∨ ∀ d a, t.result = some (d, a) → limit < d := by
  by_cases h : ∃ d a, t.result = some (d, a) ∧ d ≤ limit
  · exact Or.inl h
  · refine Or.inr fun d a hresult => ?_
    by_contra hle
    exact h ⟨d, a, hresult, not_lt.1 hle⟩

/-- **In time.** A timeout has the result exactly when the computation is done by then. -/
theorem timeout_eq_some {limit : ℕ} {t : Timed ε α} {a : α} :
    (t.timeout limit).value = some a ↔ ∃ d, t.result = some (d, a) ∧ d ≤ limit := by
  rcases in_time_or_late limit t with ⟨d, b, hresult, hle⟩ | hlate
  · rw [timeout_of_le hresult hle, hresult]
    simp only [Option.some.injEq, Prod.mk.injEq]
    constructor
    · rintro rfl
      exact ⟨d, ⟨rfl, rfl⟩, hle⟩
    · rintro ⟨_, ⟨_, rfl⟩, _⟩
      rfl
  · rw [timeout_of_late hlate]
    constructor
    · intro h
      cases h
    · rintro ⟨d, hresult, hle⟩
      exact absurd (hlate d a hresult) (not_lt.2 hle)

theorem of_mem_timeout {limit n : ℕ} {t : Timed ε α} {e : ε} (h : (n, e) ∈ (t.timeout limit).events) :
    (n, e) ∈ t.events := by
  rcases in_time_or_late limit t with ⟨d, a, hresult, hle⟩ | hlate
  · rwa [timeout_of_le hresult hle] at h
  · rw [timeout_of_late hlate] at h
    exact (List.mem_filter.1 h).1

end Timed

end N0wss
