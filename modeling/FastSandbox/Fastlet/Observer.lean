import FastSandbox.Fastlet.Types

/-!
# The memory observer

The observer samples the memory of a Fastlet and publishes the resource admission state, with two
counters against flapping. What it publishes is stated here over the history of its samples, the
newest first; `Tied` ties the counters and the OOM baseline to that history.
-/

namespace FastSandbox.ResourceAdmission

open Nat

open Fastlet (AdmissionState)

/-- The ratios are exact here. -/
structure Sample where
  (memoryCurrentBytes memoryLimitBytes oomKills : ℕ)
  (memoryPSIAvg10 hostAvailableRatio : ℚ)
  hostMemoryObserved : Bool

/-- A configuration that passes `Validate`. -/
structure Config where
  (highWatermark lowWatermark psiAvg10Threshold nodeLowWatermark nodeRecoveryWatermark : ℚ)
  (highSamples recoverySamples : ℕ)
  watermarks : 0 < highWatermark ∧ highWatermark ≤ 1 ∧ 0 ≤ lowWatermark ∧
    lowWatermark < highWatermark
  samples : 0 < highSamples ∧ 0 < recoverySamples ∧ 0 ≤ psiAvg10Threshold
  node : 0 ≤ nodeLowWatermark ∧ nodeLowWatermark ≤ nodeRecoveryWatermark ∧ nodeRecoveryWatermark ≤ 1

inductive AdmissionReason
  | none
  | telemetryMissing
  | fastletOOMEvent
  | hostMemoryPressure
  | fastletMemoryPSI
  | fastletMemoryHighWatermark
deriving DecidableEq

/-- The observer starts in the state that `Run` publishes first. -/
structure Observer where
  state : AdmissionState := .unknown
  reason : AdmissionReason := .telemetryMissing
  (highSamples recoverySamples lastOOMKills : ℕ := 0)
  initialized : Bool := false

/-- `transition`, with a setter that does not fail, and what it publishes. -/
def Observer.transition (o : Observer) (state : AdmissionState) (reason : AdmissionReason) :
    Observer × Option AdmissionState :=
  if o.state = state ∧ o.reason = reason then (o, none) else ({ o with state, reason }, some state)

namespace Config

variable (cfg : Config) (s : Sample)

/-- The sample that was read, unless the read failed or the sample cannot be used. -/
def valid (reading : Option Sample) : Option Sample :=
  reading.filter fun s => s.memoryLimitBytes ≠ 0 ∧
    (0 < cfg.nodeLowWatermark ∨ 0 < cfg.nodeRecoveryWatermark → s.hostMemoryObserved)

abbrev hostPressure : Prop := 0 < cfg.nodeLowWatermark ∧ s.hostAvailableRatio ≤ cfg.nodeLowWatermark

abbrev psiPressure : Prop := 0 < cfg.psiAvg10Threshold ∧ cfg.psiAvg10Threshold ≤ s.memoryPSIAvg10

abbrev high : Prop := cfg.highWatermark ≤ (s.memoryCurrentBytes : ℚ) / s.memoryLimitBytes

/-- Low memory use, with enough memory on the host. -/
abbrev low : Prop :=
  (s.memoryCurrentBytes : ℚ) / s.memoryLimitBytes ≤ cfg.lowWatermark ∧
    (cfg.nodeRecoveryWatermark = 0 ∨ cfg.nodeRecoveryWatermark ≤ s.hostAvailableRatio)

/-- One `observe`, and what it publishes. -/
def observe (o : Observer) (reading : Option Sample) : Observer × Option AdmissionState :=
  match cfg.valid reading with
  | none =>
    let moved := o.transition .unknown .telemetryMissing
    ({ moved.1 with highSamples := 0, recoverySamples := 0 }, moved.2)
  | some s =>
    let sampled := { o with initialized := true, lastOOMKills := s.oomKills }
    let reset := { sampled with highSamples := 0, recoverySamples := 0 }
    if o.initialized ∧ o.lastOOMKills < s.oomKills then reset.transition .blocked .fastletOOMEvent
    else if cfg.hostPressure s then reset.transition .blocked .hostMemoryPressure
    else if cfg.psiPressure s then reset.transition .blocked .fastletMemoryPSI
    else if cfg.high s then
      let o := { reset with highSamples := o.highSamples + 1 }
      if cfg.highSamples ≤ o.highSamples then o.transition .blocked .fastletMemoryHighWatermark
      else (o, none)
    else if cfg.low s then
      let counted := { reset with recoverySamples := o.recoverySamples + 1 }
      if !o.initialized ∨ cfg.recoverySamples ≤ counted.recoverySamples then
        counted.transition .open .none
      else (counted, none)
    else (reset, none)

/-- The observer after a history of readings, the newest first. -/
def run : List (Option Sample) → Observer
  | [] => {}
  | reading :: history => (cfg.observe (run history) reading).1

/-! ## What the history says -/

/-- The last valid sample, across any telemetry gap. -/
def lastValid (history : List (Option Sample)) : Option Sample := history.findSome? cfg.valid

/-- How many readings in a row, up to now, are valid with the property. -/
def streak (P : Sample → Prop) [DecidablePred P] (history : List (Option Sample)) : ℕ :=
  (history.takeWhile fun reading => (cfg.valid reading).any (P ·)).length

def oomIncreased (history : List (Option Sample)) : Prop :=
  ∃ before ∈ cfg.lastValid history, before.oomKills < s.oomKills

end Config

variable {cfg : Config} {history : List (Option Sample)} {o : Observer}

/-- The counters and the baseline are those of the history. -/
structure Tied (cfg : Config) (history : List (Option Sample)) (o : Observer) : Prop where
  baseline : cfg.lastValid history = none ∧ o.initialized = false ∨
    o.initialized ∧ ∃ s ∈ cfg.lastValid history, s.oomKills = o.lastOOMKills
  recovery : o.recoverySamples ≤ cfg.streak cfg.low history
  high : o.state = .open → o.highSamples = cfg.streak cfg.high history

theorem transition_fst (o : Observer) (state : AdmissionState) (reason : AdmissionReason) :
    (o.transition state reason).1 = { o with state, reason } := by
  unfold Observer.transition
  split_ifs with h
  · rw [← h.1, ← h.2]
  · rfl

variable {reading : Option Sample} {s : Sample}

theorem streak_some (P : Sample → Prop) [DecidablePred P] (hs : cfg.valid reading = some s)
    (history : List (Option Sample)) :
    cfg.streak P (reading :: history) = if P s then cfg.streak P history + 1 else 0 := by
  unfold Config.streak
  by_cases hP : P s
  · simp [hs, hP]
  · simp [hs, hP]

theorem Tied.oom (h : Tied cfg history o) :
    o.initialized ∧ o.lastOOMKills < s.oomKills ↔ cfg.oomIncreased s history := by
  unfold Config.oomIncreased
  rcases h.baseline with ⟨hn, hin⟩ | ⟨hin, before, hb, hk⟩
  · simp [hn, hin]
  · rw [Option.mem_def.1 hb]
    simp [hin, hk]

theorem Tied.sampled (hs : cfg.valid reading = some s) (hin : o.initialized)
    (hk : s.oomKills = o.lastOOMKills)
    (hr : o.recoverySamples ≤ if cfg.low s then cfg.streak cfg.low history + 1 else 0)
    (hh : o.state = .open →
      o.highSamples = if cfg.high s then cfg.streak cfg.high history + 1 else 0) :
    Tied cfg (reading :: history) o where
  baseline := .inr ⟨hin, s, by simp [Config.lastValid, hs], hk⟩
  recovery := by rwa [streak_some _ hs]
  high := by rwa [streak_some _ hs]

theorem Tied.observe (h : Tied cfg history o) (reading : Option Sample) :
    Tied cfg (reading :: history) (cfg.observe o reading).1 := by
  unfold Config.observe
  cases hs : cfg.valid reading with
  | none =>
    dsimp only
    rw [transition_fst]
    refine ⟨?_, zero_le _, nofun⟩
    simpa [Config.lastValid, hs] using h.baseline
  | some s =>
    have hb : ∀ reason high, Tied cfg (reading :: history)
        ⟨.blocked, reason, high, 0, s.oomKills, true⟩ := fun _ _ =>
      .sampled hs rfl rfl (zero_le _) nofun
    simp only [apply_ite Prod.fst, transition_fst]
    split_ifs with _ _ _ hh _ hl
    any_goals exact hb _ _
    · refine .sampled hs rfl rfl (zero_le _) fun ho => ?_
      rw [if_pos hh, ← h.high ho]
    · refine .sampled hs rfl rfl ?_ fun _ => (if_neg hh).symm
      rw [if_pos hl]
      exact succ_le_succ h.recovery
    · refine .sampled hs rfl rfl ?_ fun _ => (if_neg hh).symm
      rw [if_pos hl]
      exact succ_le_succ h.recovery
    · exact .sampled hs rfl rfl (zero_le _) fun _ => (if_neg hh).symm

/-- **The observer.** OPEN is published only on a first valid sample that is low, or on enough low
samples in a row. From OPEN, BLOCKED is published exactly on OOM kills, pressure or enough high
samples in a row. Every change of the state is published: BLOCKED on OOM kills since the last valid
sample, and UNKNOWN on an invalid one, with both counters at zero, unless that was the state. -/
theorem observer_publishes (cfg : Config) (history : List (Option Sample))
    (reading : Option Sample) : let before := cfg.run history
    let (after, published) := cfg.observe before reading
    (published = some .open →
      (∃ s ∈ cfg.valid reading, cfg.lastValid history = none ∧ cfg.low s) ∨
        cfg.recoverySamples ≤ cfg.streak cfg.low (reading :: history)) ∧
    (before.state = .open → (published = some .blocked ↔ ∃ s ∈ cfg.valid reading,
      cfg.oomIncreased s history ∨ cfg.hostPressure s ∨ cfg.psiPressure s ∨
        cfg.highSamples ≤ cfg.streak cfg.high (reading :: history))) ∧
    (published = some after.state ∨ published = none ∧ after.state = before.state) ∧
    (∀ s ∈ cfg.valid reading, cfg.oomIncreased s history → after.state = .blocked ∧
      (published = some .blocked ∨ published = none ∧ before.state = .blocked)) ∧
    (cfg.valid reading = none → after.state = .unknown ∧
      (published = some .unknown ∨ published = none ∧ before.state = .unknown) ∧
      after.highSamples = 0 ∧ after.recoverySamples = 0) := by
  have h : Tied cfg history (cfg.run history) := by
    induction history with
    | nil => exact ⟨.inl ⟨rfl, rfl⟩, zero_le _, nofun⟩
    | cons reading history ih => exact ih.observe reading
  generalize cfg.run history = o at h ⊢
  unfold Config.observe
  cases hs : cfg.valid reading with
  | none => grind [Observer.transition]
  | some s =>
    have hl := streak_some cfg.low hs history
    have hu := streak_some cfg.high hs history
    have ho := h.oom (s := s)
    have hr := h.recovery
    have hh := h.high
    have hb := h.baseline
    have hpos := cfg.samples.1
    simp only [Option.mem_some_iff, exists_eq_left', forall_eq']
    split_ifs
    all_goals grind [Observer.transition]

end FastSandbox.ResourceAdmission
