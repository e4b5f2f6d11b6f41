import VenusEvcharger.AutoInputHelper.CapacityUpsert
import VenusEvcharger.Energy.Models
import VenusEvcharger.Library.Rounding
import VenusEvcharger.Library.Run
import VenusEvcharger.Library.Streak

/-!
# The capacity recheck of the native helper

After its start the helper compares the capacity that it derives from fresh measurements with the configured one. An
estimate that several observations in a row confirm is written into the configuration, once. The observations confirm
a common candidate, the first of their streak; what is written is the last one.

Scope: the arithmetic of finite floats is exact. What the file system answers is part of an observation.
-/

namespace VenusEvcharger.AutoInputHelper

open Library

/-! ## Estimates -/

/-- `REQUIRED_STABLE_SAMPLES`. -/
def requiredStableSamples : Nat := 3

/-- `AMP_HOUR_TOLERANCE`. -/
def ampHourTolerance : ℚ := 1 / 1000

/-- `WATT_HOUR_TOLERANCE`. -/
def wattHourTolerance : ℚ := 1 / 10

/-- `VOLTAGE_TOLERANCE`. -/
def voltageTolerance : ℚ := 1 / 1000

/-- `MAX_WRITE_ATTEMPTS`. -/
def maxWriteAttempts : Nat := 3

/-- `WRITE_RETRY_SECONDS`. -/
def writeRetrySeconds : ℚ := 60

/-- `saturating_add(1)` of an 8-bit counter. -/
def saturatingIncrement8 (n : Nat) : Nat := min (n + 1) (2 ^ 8 - 1)

/-- `close`. -/
def close (left right tolerance : ℚ) : Bool := |left - right| < tolerance

/-- The native `CapacityEstimate`. -/
@[ext]
structure CapacityEstimate where
  sourceId : String
  usableCapacityWh : ℚ
  installedCapacityAh : ℚ
  nominalVoltageV : ℚ
  cellCount : Nat
  capacityWh_pos : 0 < usableCapacityWh
  capacityAh_pos : 0 < installedCapacityAh
  voltage_pos : 0 < nominalVoltageV
  cellCount_pos : 0 < cellCount

instance : DecidableEq CapacityEstimate := fun _ _ => decidable_of_iff _ CapacityEstimate.ext_iff.symm

namespace CapacityEstimate

/-- `CapacityEstimate::new`: there is no estimate of values that are not finite and positive. -/
def new (sourceId : String) (usableCapacityWh installedCapacityAh nominalVoltageV : PyFloat) (cellCount : Nat) :
    Option CapacityEstimate :=
  match usableCapacityWh, installedCapacityAh, nominalVoltageV with
  | .fin wh, .fin ah, .fin voltage =>
    if h : (0 < wh ∧ 0 < ah ∧ 0 < voltage) ∧ 0 < cellCount then
      some ⟨sourceId, wh, ah, voltage, cellCount, h.1.1, h.1.2.1, h.1.2.2, h.2⟩
    else none
  | _, _, _ => none

/-- `stable_with`. -/
def stableWith (candidate estimate : CapacityEstimate) : Bool :=
  candidate.sourceId = estimate.sourceId &&
    close candidate.installedCapacityAh estimate.installedCapacityAh ampHourTolerance &&
    close candidate.usableCapacityWh estimate.usableCapacityWh wattHourTolerance &&
    close candidate.nominalVoltageV estimate.nominalVoltageV voltageTolerance &&
    candidate.cellCount = estimate.cellCount

theorem stableWith_self (estimate : CapacityEstimate) : estimate.stableWith estimate = true := by
  simp [stableWith, close, ampHourTolerance, wattHourTolerance, voltageTolerance]

end CapacityEstimate

/-! ## The write -/

/-- `f64::round`: to the nearest integer, and a tie away from zero. -/
def roundAway (value : ℚ) : Int := if 0 ≤ value then ⌊value + 1 / 2⌋ else -⌊-value + 1 / 2⌋

/-- The three digits of `value:.3` behind the point. -/
def threeDigits (n : Nat) : List Char :=
  let digits := (Nat.repr n).toList
  List.replicate (3 - digits.length) '0' ++ digits

/-- `number_text`. -/
def numberText (value : ℚ) : String :=
  if close value (roundAway value) (1 / 1000) then toString (roundAway value)
  else
    let thousandths := roundHalfEven (value * 1000)
    let sign := if value < 0 then ['-'] else []
    let whole := (Nat.repr (thousandths.natAbs / 1000)).toList
    let rendered := sign ++ whole ++ '.' :: threeDigits (thousandths.natAbs % 1000)
    String.ofList ((rendered.rdropWhile (· == '0')).rdropWhile (· == '.'))

example : numberText (10241 / 1000) = "10.241" := by decide +kernel

/-- `estimated_capacity_values`. -/
def estimatedCapacityValues (estimate : CapacityEstimate) : List (String × String) :=
  let stem :=
    if estimate.sourceId = "primary_battery" then "AutoBatteryCapacityEstimated"
    else "AutoEnergySource." ++ estimate.sourceId ++ ".CapacityEstimated"
  [(stem ++ "Wh", numberText estimate.usableCapacityWh), (stem ++ "Ah", numberText estimate.installedCapacityAh),
    (stem ++ "NominalVoltage", numberText estimate.nominalVoltageV),
    (stem ++ "CellCount", toString estimate.cellCount)]

/-- What the file system answers: the text that is read, and the result of the atomic replacement. -/
structure ConfigurationFile where
  text : Except String (List Char)
  replaced : Except String Unit

/-- `persist_estimate`: whether the configuration was written. -/
def persistEstimate (file : ConfigurationFile) (estimate : CapacityEstimate) : Except String Bool := do
  let text ← file.text
  let updated := upsertDefaultValues (estimatedCapacityValues estimate) text
  if updated = text then return false
  file.replaced
  return true

/-! ## The recheck -/

/-- `PersistenceOutcome`. -/
inductive PersistenceOutcome where
  | pending
  | unchanged
  | written
  | disabled
deriving DecidableEq

/-- The native `CapacityPersistence`. -/
structure CapacityPersistence where
  sourceId : String
  configuredAh : Option ℚ
  notBeforeMonotonic : ℚ
  candidate : Option CapacityEstimate
  stableSamples : Nat
  writeAttempts : Nat
  nextWriteAttemptMonotonic : ℚ
  complete : Bool
  enabled : Bool

/-- One call of `observe`. -/
structure Observation where
  estimate : Option CapacityEstimate
  monotonic : ℚ
  file : ConfigurationFile

/-- One call of `persist_estimate`. -/
structure WriteAttempt where
  estimate : CapacityEstimate
  monotonic : ℚ
  result : Except String Bool

/-- The configuration was written. -/
def WriteAttempt.written (attempt : WriteAttempt) : Bool :=
  match attempt.result with
  | .ok written => written
  | .error _ => false

namespace CapacityPersistence

/-- `CapacityPersistence::new`. -/
def new (gatewayEnergySource : Option EnergySourceDefinition) (startupMonotonic : ℚ) : CapacityPersistence :=
  let enabled := gatewayEnergySource.any fun source => source.capacityAutoEstimate && source.usableCapacityWh.isNone
  { sourceId := gatewayEnergySource.elim "" (·.sourceId)
    configuredAh := gatewayEnergySource.bind (·.estimatedCapacityAh)
    notBeforeMonotonic := startupMonotonic + gatewayEnergySource.elim 0 (·.capacityStartupRecheckSeconds)
    candidate := none
    stableSamples := 0
    writeAttempts := 0
    nextWriteAttemptMonotonic := 0
    complete := !enabled
    enabled := enabled }

/-- The candidate and its samples after an estimate of the configured source. -/
def counted (p : CapacityPersistence) (estimate : CapacityEstimate) : CapacityPersistence :=
  if p.candidate.any (·.stableWith estimate) then { p with stableSamples := saturatingIncrement8 p.stableSamples }
  else { p with candidate := some estimate, stableSamples := 1 }

/-- The part of `observe` in front of `persist_estimate`: its outcome, or the estimate that it persists. -/
def considered (p : CapacityPersistence) (estimate : Option CapacityEstimate) (monotonic : ℚ) :
    CapacityPersistence × (PersistenceOutcome ⊕ CapacityEstimate) :=
  if !p.enabled then (p, .inl .disabled)
  else if p.complete then (p, .inl .unchanged)
  else
    match estimate.filter (·.sourceId = p.sourceId) with
    | none => ({ p with candidate := none, stableSamples := 0 }, .inl .pending)
    | some estimate =>
      let p := p.counted estimate
      if p.stableSamples < requiredStableSamples ∨ monotonic < p.notBeforeMonotonic ∨
          monotonic < p.nextWriteAttemptMonotonic then
        (p, .inl .pending)
      else if p.configuredAh.any (close · estimate.installedCapacityAh ampHourTolerance) then
        ({ p with complete := true }, .inl .unchanged)
      else (p, .inr estimate)

/-- The part of `observe` behind `persist_estimate`. -/
def settled (p : CapacityPersistence) (monotonic : ℚ) :
    Except String Bool → CapacityPersistence × Except String PersistenceOutcome
  | .ok written => ({ p with complete := true }, .ok (if written then .written else .unchanged))
  | .error message =>
    let writeAttempts := saturatingIncrement8 p.writeAttempts
    ({ p with
        writeAttempts := writeAttempts
        nextWriteAttemptMonotonic := monotonic + writeRetrySeconds
        complete := p.complete || decide (maxWriteAttempts ≤ writeAttempts) }, .error message)

/-- `observe`. -/
def observe (p : CapacityPersistence) (o : Observation) :
    CapacityPersistence × Except String PersistenceOutcome :=
  match p.considered o.estimate o.monotonic with
  | (p, .inl outcome) => (p, .ok outcome)
  | (p, .inr estimate) => p.settled o.monotonic (persistEstimate o.file estimate)

/-- The call of `persist_estimate` that an observation makes. -/
def attempted (p : CapacityPersistence) (o : Observation) : Option WriteAttempt :=
  match (p.considered o.estimate o.monotonic).2 with
  | .inl _ => none
  | .inr estimate => some ⟨estimate, o.monotonic, persistEstimate o.file estimate⟩

end CapacityPersistence

/-- A process: its recheck, what it has observed and what it has tried to write, the newest first. -/
structure RecheckRun where
  persistence : CapacityPersistence
  history : List Observation
  attempts : List WriteAttempt

namespace RecheckRun

/-- A process that starts. -/
def start (gatewayEnergySource : Option EnergySourceDefinition) (startupMonotonic : ℚ) : RecheckRun :=
  ⟨.new gatewayEnergySource startupMonotonic, [], []⟩

/-- One observation. -/
def step (s : RecheckRun) (o : Observation) : RecheckRun where
  persistence := (s.persistence.observe o).1
  history := o :: s.history
  attempts := (s.persistence.attempted o).toList ++ s.attempts

end RecheckRun

/-! ## What an observation does -/

/-- The observation is an estimate of the source within the tolerances of the candidate. -/
def confirms (candidate : CapacityEstimate) (sourceId : String) (o : Observation) : Bool :=
  o.estimate.any fun estimate => estimate.sourceId = sourceId && candidate.stableWith estimate

namespace CapacityPersistence

/-- The candidate and its samples after an observation. -/
def tracked (p : CapacityPersistence) (estimate : Option CapacityEstimate) : CapacityPersistence :=
  match estimate.filter (·.sourceId = p.sourceId) with
  | none => { p with candidate := none, stableSamples := 0 }
  | some estimate => p.counted estimate

theorem counted_eq (p : CapacityPersistence) (estimate : CapacityEstimate) : p.counted estimate =
    { p with candidate := (p.counted estimate).candidate, stableSamples := (p.counted estimate).stableSamples } := by
  unfold counted
  split <;> rfl

/-- Counting changes the candidate and its samples only. -/
theorem tracked_eq (p : CapacityPersistence) (estimate : Option CapacityEstimate) : p.tracked estimate =
    { p with candidate := (p.tracked estimate).candidate, stableSamples := (p.tracked estimate).stableSamples } := by
  unfold tracked
  split
  · rfl
  · exact counted_eq p _

variable {p : CapacityPersistence}

theorem considered_inert (h : p.enabled = false ∨ p.complete = true)
    (estimate : Option CapacityEstimate) (monotonic : ℚ) :
    ∃ outcome, p.considered estimate monotonic = (p, .inl outcome) := by
  unfold considered
  cases henabled : p.enabled with
  | false => exact ⟨.disabled, rfl⟩
  | true =>
    have hcomplete : p.complete = true := h.resolve_left (by simp [henabled])
    exact ⟨.unchanged, by simp [hcomplete]⟩

/-- An open recheck counts; it goes on, finds its capacity configured, or asks for a write. -/
theorem considered_open (henabled : p.enabled = true) (hopen : p.complete = false)
    (estimate : Option CapacityEstimate) (monotonic : ℚ) :
    (∃ outcome, p.considered estimate monotonic = (p.tracked estimate, .inl outcome)) ∨
    (∃ outcome, p.considered estimate monotonic = ({ p.tracked estimate with complete := true }, .inl outcome)) ∨
    ∃ x, estimate = some x ∧ x.sourceId = p.sourceId ∧ p.considered estimate monotonic = (p.tracked estimate, .inr x) ∧
      requiredStableSamples ≤ (p.tracked estimate).stableSamples ∧ p.notBeforeMonotonic ≤ monotonic ∧
      p.nextWriteAttemptMonotonic ≤ monotonic ∧
      p.configuredAh.any (close · x.installedCapacityAh ampHourTolerance) = false := by
  unfold considered tracked
  simp only [henabled, hopen, Bool.not_true, Bool.false_eq_true, if_false]
  cases hfilter : estimate.filter (·.sourceId = p.sourceId) with
  | none => exact .inl ⟨_, rfl⟩
  | some x =>
    obtain ⟨hestimate, hsource⟩ := Option.filter_eq_some_iff.mp hfilter
    have hconfigured : (p.counted x).configuredAh = p.configuredAh := by rw [counted_eq]
    have hbefore : (p.counted x).notBeforeMonotonic = p.notBeforeMonotonic := by rw [counted_eq]
    have hnext : (p.counted x).nextWriteAttemptMonotonic = p.nextWriteAttemptMonotonic := by rw [counted_eq]
    dsimp only
    rw [hconfigured, hbefore, hnext]
    split
    · exact .inl ⟨_, rfl⟩
    · rename_i hready
      rw [not_or, not_or, not_lt, not_lt, not_lt] at hready
      split
      · exact .inr (.inl ⟨_, rfl⟩)
      · rename_i hdiffers
        exact .inr (.inr ⟨x, hestimate, of_decide_eq_true hsource, rfl, hready.1, hready.2.1, hready.2.2,
          Bool.eq_false_iff.mpr hdiffers⟩)

/-- The samples that were counted confirm the candidate, which was observed. -/
def Confirmed (p : CapacityPersistence) (history : List Observation) : Prop :=
  ∀ candidate, p.candidate = some candidate →
    p.stableSamples ≤ streak (confirms candidate p.sourceId) history ∧ ∃ o ∈ history, o.estimate = some candidate

theorem Confirmed.tracked {history : List Observation} (h : Confirmed p history) (o : Observation) :
    Confirmed (p.tracked o.estimate) (o :: history) := by
  intro candidate hcandidate
  have hsourceId : (p.tracked o.estimate).sourceId = p.sourceId := by rw [tracked_eq]
  rw [hsourceId, streak_cons]
  unfold CapacityPersistence.tracked at *
  cases hfilter : o.estimate.filter (·.sourceId = p.sourceId) with
  | none =>
    rw [hfilter] at hcandidate
    nomatch hcandidate
  | some x =>
    rw [hfilter] at hcandidate
    dsimp only at hcandidate ⊢
    obtain ⟨hestimate, hsource⟩ := Option.filter_eq_some_iff.mp hfilter
    unfold counted at hcandidate ⊢
    split at hcandidate
    · -- the estimate is within the tolerances of the candidate
      rename_i hstable
      obtain ⟨hstreak, o', ho', heq⟩ := h candidate hcandidate
      rw [if_pos hstable]
      rw [show p.candidate = some candidate from hcandidate, Option.any_some] at hstable
      have hconfirms : confirms candidate p.sourceId o = true := by
        rw [confirms, hestimate, Option.any_some, hstable, Bool.and_true]
        exact hsource
      rw [if_pos hconfirms]
      refine ⟨?_, o', List.mem_cons_of_mem _ ho', heq⟩
      show saturatingIncrement8 p.stableSamples ≤ _
      unfold saturatingIncrement8
      omega
    · -- the estimate is the new candidate
      rename_i hunstable
      rw [if_neg hunstable]
      obtain rfl : x = candidate := Option.some.inj hcandidate
      have hconfirms : confirms x p.sourceId o = true := by
        rw [confirms, hestimate, Option.any_some, x.stableWith_self, Bool.and_true]
        exact hsource
      rw [if_pos hconfirms]
      refine ⟨?_, o, List.mem_cons_self, hestimate⟩
      show 1 ≤ _
      omega

/-- What `observe` does to an open recheck, and the attempt that it makes. -/
theorem observe_open (henabled : p.enabled = true) (hopen : p.complete = false) (o : Observation) :
    (p.attempted o = none ∧ ((p.observe o).1 = p.tracked o.estimate ∨
      (p.observe o).1 = { p.tracked o.estimate with complete := true })) ∨
    ∃ x, o.estimate = some x ∧ x.sourceId = p.sourceId ∧
      p.attempted o = some ⟨x, o.monotonic, persistEstimate o.file x⟩ ∧
      (p.observe o).1 = ((p.tracked o.estimate).settled o.monotonic (persistEstimate o.file x)).1 ∧
      requiredStableSamples ≤ (p.tracked o.estimate).stableSamples ∧ p.notBeforeMonotonic ≤ o.monotonic ∧
      p.nextWriteAttemptMonotonic ≤ o.monotonic ∧
      p.configuredAh.any (close · x.installedCapacityAh ampHourTolerance) = false := by
  unfold observe attempted
  rcases considered_open henabled hopen o.estimate o.monotonic with
    ⟨outcome, heq⟩ | ⟨outcome, heq⟩ | ⟨x, hestimate, hsource, heq, hready⟩
  · rw [heq]
    exact .inl ⟨rfl, .inl rfl⟩
  · rw [heq]
    exact .inl ⟨rfl, .inr rfl⟩
  · rw [heq]
    exact .inr ⟨x, hestimate, hsource, rfl, rfl, hready⟩

/-- A recheck that is disabled or complete neither changes nor writes. -/
theorem observe_inert (h : p.enabled = false ∨ p.complete = true) (o : Observation) :
    (p.observe o).1 = p ∧ p.attempted o = none := by
  obtain ⟨outcome, heq⟩ := considered_inert h o.estimate o.monotonic
  unfold observe attempted
  rw [heq]
  exact ⟨rfl, rfl⟩

/-- What the settings of the recheck are. -/
def settings (p : CapacityPersistence) : String × Option ℚ × ℚ × Bool :=
  (p.sourceId, p.configuredAh, p.notBeforeMonotonic, p.enabled)

theorem settings_tracked (p : CapacityPersistence) (estimate : Option CapacityEstimate) :
    (p.tracked estimate).settings = p.settings := by
  rw [tracked_eq]
  rfl

theorem settings_settled (p : CapacityPersistence) (monotonic : ℚ) (result : Except String Bool) :
    (p.settled monotonic result).1.settings = p.settings := by
  cases result <;> rfl

theorem settings_observe (p : CapacityPersistence) (o : Observation) : (p.observe o).1.settings = p.settings := by
  by_cases hinert : p.enabled = false ∨ p.complete = true
  · rw [(observe_inert hinert o).1]
  · rw [not_or, Bool.not_eq_false, Bool.not_eq_true] at hinert
    rcases observe_open hinert.1 hinert.2 o with ⟨-, heq | heq⟩ | ⟨x, -, -, -, heq, -⟩
    · rw [heq, settings_tracked]
    · rw [heq]
      exact settings_tracked p o.estimate
    · rw [heq, settings_settled, settings_tracked]

end CapacityPersistence

/-! ## Runs -/

namespace RecheckRun

open CapacityPersistence

/-- An open process: all its attempts have failed, and the next one waits for the delay. -/
structure Waiting (s : RecheckRun) : Prop where
  confirmed : s.persistence.Confirmed s.history
  counted : s.persistence.writeAttempts = s.attempts.length
  few : s.attempts.length < maxWriteAttempts
  failed : ∀ a ∈ s.attempts, a.written = false
  delayed : ∀ a ∈ s.attempts, a.monotonic + writeRetrySeconds ≤ s.persistence.nextWriteAttemptMonotonic

/-- The attempts of a process. -/
structure Sound (s : RecheckRun) : Prop where
  waiting : s.persistence.complete = false → s.Waiting
  bounded : s.attempts.length ≤ maxWriteAttempts
  once : s.attempts.countP (·.written) ≤ 1
  apart : s.attempts.Pairwise fun later earlier => earlier.monotonic + writeRetrySeconds ≤ later.monotonic
  disabled : s.persistence.enabled = false → s.persistence.complete = true

theorem sound_start (gatewayEnergySource : Option EnergySourceDefinition) (startupMonotonic : ℚ) :
    (start gatewayEnergySource startupMonotonic).Sound where
  waiting := fun _ => {
    confirmed := fun _ hcandidate => nomatch hcandidate
    counted := rfl
    few := Nat.zero_lt_succ _
    failed := fun _ ha => nomatch ha
    delayed := fun _ ha => nomatch ha }
  bounded := Nat.zero_le _
  once := Nat.zero_le _
  apart := .nil
  disabled := fun h => by
    rw [show (start gatewayEnergySource startupMonotonic).persistence.complete =
      !(start gatewayEnergySource startupMonotonic).persistence.enabled from rfl, h]
    rfl

variable {s : RecheckRun}

theorem Sound.open_enabled (h : s.Sound) (hopen : s.persistence.complete = false) :
    s.persistence.enabled = true := by
  cases henabled : s.persistence.enabled with
  | true => rfl
  | false =>
    rw [h.disabled henabled] at hopen
    nomatch hopen

/-- The settings stay. -/
theorem enabled_step (s : RecheckRun) (o : Observation) :
    (s.step o).persistence.enabled = s.persistence.enabled :=
  congrArg (·.2.2.2) (settings_observe s.persistence o)

theorem attempts_step_of_none {o : Observation} (h : s.persistence.attempted o = none) :
    (s.step o).attempts = s.attempts := by
  rw [step, h]
  rfl

/-- After a failed attempt the process is open when it has attempts left. -/
theorem Waiting.failedAttempt (h : s.Waiting) {o : Observation} {x : CapacityEstimate}
    (hattempts : (s.step o).attempts = ⟨x, o.monotonic, persistEstimate o.file x⟩ :: s.attempts)
    (hnext : s.persistence.nextWriteAttemptMonotonic ≤ o.monotonic)
    (hstate : (s.step o).persistence =
      ((s.persistence.tracked o.estimate).settled o.monotonic (persistEstimate o.file x)).1)
    {message : String} (hresult : persistEstimate o.file x = .error message)
    (hopen : (s.step o).persistence.complete = false) : (s.step o).Waiting := by
  rw [hresult] at hstate
  have hcount : (s.persistence.tracked o.estimate).writeAttempts = s.attempts.length := by
    rw [tracked_eq, ← h.counted]
  have hfew : ¬ maxWriteAttempts ≤ saturatingIncrement8 s.attempts.length := by
    rw [hstate] at hopen
    rw [← hcount]
    exact of_decide_eq_false (Bool.or_eq_false_iff.mp hopen).2
  have hless := h.few
  have hlength : (s.step o).attempts.length = s.attempts.length + 1 := by rw [hattempts, List.length_cons]
  have hincrement : saturatingIncrement8 s.attempts.length = s.attempts.length + 1 := by
    unfold saturatingIncrement8 maxWriteAttempts at *
    omega
  have hdelay : (0 : ℚ) ≤ writeRetrySeconds := by norm_num [writeRetrySeconds]
  refine ⟨?_, ?_, by omega, ?_, ?_⟩
  · rw [hstate]
    exact h.confirmed.tracked o
  · rw [hstate, hlength, ← hincrement, ← hcount]
    rfl
  · rw [hattempts, List.forall_mem_cons]
    exact ⟨by rw [WriteAttempt.written, hresult], h.failed⟩
  · rw [hattempts, List.forall_mem_cons, hstate]
    refine ⟨le_refl _, fun a ha => ?_⟩
    calc a.monotonic + writeRetrySeconds ≤ s.persistence.nextWriteAttemptMonotonic := h.delayed a ha
      _ ≤ o.monotonic := hnext
      _ ≤ o.monotonic + writeRetrySeconds := le_add_of_nonneg_right hdelay

/-- An attempt comes after the delay, and it is the first one that may succeed. -/
theorem Sound.attempt (h : s.Sound) (hopen : s.persistence.complete = false) {o : Observation}
    {x : CapacityEstimate}
    (hattempted : s.persistence.attempted o = some ⟨x, o.monotonic, persistEstimate o.file x⟩)
    (hnext : s.persistence.nextWriteAttemptMonotonic ≤ o.monotonic)
    (hstate : (s.step o).persistence =
      ((s.persistence.tracked o.estimate).settled o.monotonic (persistEstimate o.file x)).1) :
    (s.step o).Sound := by
  have hwaiting := h.waiting hopen
  have hless := hwaiting.few
  have hattempts : (s.step o).attempts = ⟨x, o.monotonic, persistEstimate o.file x⟩ :: s.attempts := by
    rw [step, hattempted]
    rfl
  have hnone : s.attempts.countP (·.written) = 0 := by
    rw [List.countP_eq_zero]
    intro a ha
    rw [hwaiting.failed a ha]
    exact Bool.false_ne_true
  refine ⟨fun hstill => ?_, ?_, ?_, ?_, fun hdisabled => ?_⟩
  · cases hresult : persistEstimate o.file x with
    | ok written =>
      rw [hstate, hresult] at hstill
      nomatch hstill
    | error message => exact hwaiting.failedAttempt hattempts hnext hstate hresult hstill
  · rw [hattempts, List.length_cons]
    omega
  · rw [hattempts, List.countP_cons, hnone]
    split <;> omega
  · rw [hattempts]
    exact List.pairwise_cons.mpr ⟨fun a ha => (hwaiting.delayed a ha).trans hnext, h.apart⟩
  · rw [enabled_step, h.open_enabled hopen] at hdisabled
    nomatch hdisabled

theorem sound_step (h : s.Sound) (o : Observation) : (s.step o).Sound := by
  cases hcomplete : s.persistence.complete with
  | true =>
    obtain ⟨hstate, hnone⟩ := observe_inert (.inr hcomplete) o
    have hpersistence : (s.step o).persistence = s.persistence := hstate
    rw [← hpersistence] at hcomplete
    refine ⟨fun hopen => absurd hopen (by simp [hcomplete]), ?_, ?_, ?_, fun _ => hcomplete⟩
    all_goals rw [attempts_step_of_none hnone]
    · exact h.bounded
    · exact h.once
    · exact h.apart
  | false =>
    have henabled := h.open_enabled hcomplete
    rcases observe_open henabled hcomplete o with
      ⟨hnone, hstate⟩ | ⟨x, -, -, hattempted, hstate, -, -, hnext, -⟩
    · have hwaiting := h.waiting hcomplete
      refine ⟨fun hopen => ?_, ?_, ?_, ?_, fun hdisabled => ?_⟩
      · have hkept : (s.step o).persistence = s.persistence.tracked o.estimate := by
          rcases hstate with heq | heq
          · exact heq
          · rw [show (s.step o).persistence = _ from heq] at hopen
            nomatch hopen
        refine ⟨?_, ?_, ?_, ?_, ?_⟩
        · rw [hkept]
          exact hwaiting.confirmed.tracked o
        all_goals rw [attempts_step_of_none hnone]
        · rw [hkept, tracked_eq]
          exact hwaiting.counted
        · exact hwaiting.few
        · exact hwaiting.failed
        · rw [hkept, tracked_eq]
          exact hwaiting.delayed
      · rw [attempts_step_of_none hnone]
        exact h.bounded
      · rw [attempts_step_of_none hnone]
        exact h.once
      · rw [attempts_step_of_none hnone]
        exact h.apart
      · rw [enabled_step, henabled] at hdisabled
        nomatch hdisabled
    · exact h.attempt hcomplete hattempted hnext hstate

section

variable (gatewayEnergySource : Option EnergySourceDefinition) (startupMonotonic : ℚ)
  (observations : List Observation)

theorem sound_run : (run step (start gatewayEnergySource startupMonotonic) observations).Sound :=
  @run_invariant _ _ step Sound (fun _ o h => sound_step h o) _ (sound_start gatewayEnergySource startupMonotonic)
    observations

theorem settings_run : (run step (start gatewayEnergySource startupMonotonic) observations).persistence.settings =
    (CapacityPersistence.new gatewayEnergySource startupMonotonic).settings :=
  @run_invariant _ _ step
    (fun s => s.persistence.settings = (CapacityPersistence.new gatewayEnergySource startupMonotonic).settings)
    (fun s o h => (settings_observe s.persistence o).trans h) _ rfl observations

end

theorem history_run (s : RecheckRun) (observations : List Observation) :
    (run step s observations).history = observations.reverse ++ s.history := by
  induction observations generalizing s with
  | nil => rfl
  | cons o observations ih =>
    rw [run_cons, ih, List.reverse_cons, List.append_assoc]
    rfl

theorem attempts_run_of_complete (h : s.persistence.complete = true)
    (observations : List Observation) : (run step s observations).attempts = s.attempts := by
  have hstep (t : RecheckRun) (o : Observation) (ht : t.persistence.complete = true ∧ t.attempts = s.attempts) :
      (t.step o).persistence.complete = true ∧ (t.step o).attempts = s.attempts := by
    obtain ⟨hstate, hnone⟩ := observe_inert (.inr ht.1) o
    refine ⟨?_, (attempts_step_of_none hnone).trans ht.2⟩
    rw [show (t.step o).persistence = t.persistence from hstate]
    exact ht.1
  exact (run_invariant hstep ⟨h, rfl⟩ observations).2

end RecheckRun

/-- The attempt writes an estimate of the source that the last observations confirm, after the startup recheck time, and
that is not configured yet. -/
structure WriteAttempt.Justified (attempt : WriteAttempt) (definition : EnergySourceDefinition) (startupMonotonic : ℚ)
    (history : List Observation) : Prop where
  latest : ∃ o ∈ history.head?, o.estimate = some attempt.estimate ∧ attempt.monotonic = o.monotonic ∧
    attempt.result = persistEstimate o.file attempt.estimate
  source : attempt.estimate.sourceId = definition.sourceId
  confirmed : ∃ candidate, (∃ o ∈ history, o.estimate = some candidate) ∧
    HeldForLast (confirms candidate definition.sourceId) requiredStableSamples history
  startup : startupMonotonic + definition.capacityStartupRecheckSeconds ≤ attempt.monotonic
  changed : ∀ configured ∈ definition.estimatedCapacityAh,
    close configured attempt.estimate.installedCapacityAh ampHourTolerance = false

namespace RecheckRun

open CapacityPersistence

theorem justified_of_attempted (gatewayEnergySource : Option EnergySourceDefinition) (startupMonotonic : ℚ)
    (before : List Observation) (o : Observation) {attempt : WriteAttempt}
    (hattempt : (run step (start gatewayEnergySource startupMonotonic) before).persistence.attempted o = some attempt) :
    ∃ definition ∈ gatewayEnergySource, attempt.Justified definition startupMonotonic
      (o :: (run step (start gatewayEnergySource startupMonotonic) before).history) := by
  have hsound := sound_run gatewayEnergySource startupMonotonic before
  have hsettings := settings_run gatewayEnergySource startupMonotonic before
  generalize run step (start gatewayEnergySource startupMonotonic) before = s at *
  have hopen : s.persistence.complete = false := by
    by_contra hcomplete
    rw [(observe_inert (.inr (Bool.not_eq_false _ ▸ hcomplete)) o).2] at hattempt
    nomatch hattempt
  have henabled := hsound.open_enabled hopen
  rcases observe_open henabled hopen o with
    ⟨hnone, -⟩ | ⟨x, hestimate, hsource, hattempted, -, hstable, hbefore, -, hdiffers⟩
  · rw [hnone] at hattempt
    nomatch hattempt
  · rw [hattempted, Option.some.injEq] at hattempt
    subst hattempt
    simp only [settings, Prod.mk.injEq] at hsettings
    obtain ⟨hid, hconfigured, hnotBefore, hsame⟩ := hsettings
    rw [henabled] at hsame
    cases gatewayEnergySource with
    | none => nomatch hsame
    | some definition =>
      refine ⟨definition, rfl, ⟨o, rfl, hestimate, rfl, rfl⟩, hsource.trans hid, ?_, ?_, ?_⟩
      · have hconfirmed := (hsound.waiting hopen).confirmed.tracked o
        cases hcandidate : (s.persistence.tracked o.estimate).candidate with
        | none =>
          -- an estimate of the source always leaves a candidate
          unfold tracked counted at hcandidate
          rw [hestimate, Option.filter_some, if_pos (decide_eq_true hsource)] at hcandidate
          dsimp only at hcandidate
          split at hcandidate
          · rename_i hany
            rw [hcandidate] at hany
            nomatch hany
          · nomatch hcandidate
        | some candidate =>
          obtain ⟨hstreak, hseen⟩ := hconfirmed candidate hcandidate
          refine ⟨candidate, hseen, le_streak_iff.mp (hstable.trans ?_)⟩
          rw [tracked_eq] at hstreak
          rw [← show s.persistence.sourceId = definition.sourceId from hid]
          exact hstreak
      · rw [hnotBefore] at hbefore
        exact hbefore
      · intro configured hmem
        have hsome : s.persistence.configuredAh = some configured := hconfigured.trans hmem
        rw [hsome, Option.any_some] at hdiffers
        exact hdiffers

end RecheckRun

/-- The recheck writes one confirmed estimate at most: it succeeds once, it tries three times at most and waits between
its attempts, each attempt is justified by the observations, and nothing is written once it is complete. -/
theorem capacity_recheck_disciplined (gatewayEnergySource : Option EnergySourceDefinition) (startupMonotonic : ℚ)
    (observations : List Observation) :
    let after := run RecheckRun.step (.start gatewayEnergySource startupMonotonic)
    (after observations).attempts.countP (·.written) ≤ 1 ∧
      (after observations).attempts.length ≤ maxWriteAttempts ∧
      ((after observations).attempts.Pairwise fun later earlier =>
        earlier.monotonic + writeRetrySeconds ≤ later.monotonic) ∧
      (∀ before o rest, observations = before ++ o :: rest → ∀ attempt ∈ (after before).persistence.attempted o,
        ∃ definition ∈ gatewayEnergySource, attempt.Justified definition startupMonotonic (o :: before.reverse)) ∧
      (∀ before rest, observations = before ++ rest → (after before).persistence.complete = true →
        (after observations).attempts = (after before).attempts) := by
  intro after
  have hsound := RecheckRun.sound_run gatewayEnergySource startupMonotonic observations
  refine ⟨hsound.once, hsound.bounded, hsound.apart, ?_, ?_⟩
  · intro before o rest _ attempt hattempt
    have hjustified := RecheckRun.justified_of_attempted gatewayEnergySource startupMonotonic before o hattempt
    rwa [RecheckRun.history_run, show (RecheckRun.start gatewayEnergySource startupMonotonic).history = [] from rfl,
      List.append_nil] at hjustified
  · rintro before rest rfl hcomplete
    show RecheckRun.attempts (run _ _ (before ++ rest)) = _
    rw [run_append]
    exact RecheckRun.attempts_run_of_complete hcomplete rest

end VenusEvcharger.AutoInputHelper
