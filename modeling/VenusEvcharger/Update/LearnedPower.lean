import VenusEvcharger.Library.Rounding
import VenusEvcharger.Library.Run

/-!
# Learning the charging power

`LearningController` learns the power of a charging car from samples in an early window of a session, and compares a
stable value with the power and voltage of later sessions.

Scope: the attributes hold values of their types, and float arithmetic is exact up to the rounding that the code asks
for. The confidence and the texts that only explain the state, the log lines, and whether a call changed something are
left out.
-/

namespace VenusEvcharger

open Library

/-- `LEARNED_CHARGE_POWER_STATES`. -/
inductive LearningState where
  | unknown
  | learning
  | stable
  | stale
deriving DecidableEq

/-- `LEARNED_CHARGE_POWER_PHASES`. -/
inductive LearnedPhase where
  | l1
  | l2
  | l3
  | threePhase
deriving DecidableEq

theorem fifth_pos : (0 : ℚ) < 1 / 5 := by norm_num

theorem fifth_le_one : (1 / 5 : ℚ) ≤ 1 := by norm_num

/-- `AutoLearnChargePowerPolicy` after `clamp`. -/
structure LearnChargePowerPolicy where
  enabled : Bool
  minWatts : ℚ
  alpha : ℚ
  startDelaySeconds : ℚ
  windowSeconds : ℚ
  maxAgeSeconds : ℚ
  alpha_pos : 0 < alpha
  alpha_le_one : alpha ≤ 1

/-- The `learned_charge_power_…` attributes. -/
structure LearnedPower where
  state : LearningState
  watts : Option ℚ
  updatedAt : Option ℚ
  learningSince : Option ℚ
  sampleCount : Nat
  phase : Option LearnedPhase
  voltage : Option ℚ
  mismatchSessions : Nat
  checkedSessionStartedAt : Option ℚ
  stabilityScore : ℚ

/-- `_normalized_learning_power_value`. -/
def roundTenth (value : ℚ) : ℚ := roundTo 10 value

/-- `normalized_learning_score`. -/
def normalizedLearningScore (value : ℚ) : ℚ := roundTo 1000 (max 0 (min 1 value))

namespace LearnedPower

/-- `LEARNED_POWER_STABLE_MIN_SAMPLES`. -/
def stableMinSamples : Nat := 3

/-- `LEARNED_POWER_STABLE_MIN_SECONDS`. -/
def stableMinSeconds : ℚ := 15

/-- `LEARNED_POWER_STABLE_TOLERANCE_RATIO`. -/
def stableToleranceRatio : ℚ := 8 / 100

/-- `LEARNED_POWER_SIGNATURE_MISMATCH_SESSIONS`. -/
def signatureMismatchSessions : Nat := 2

/-- `_MIN_STABLE_LEARNING_SCORE`. -/
def minStableLearningScore : ℚ := 65 / 100

/-- `_learning_stability_tolerance`. -/
def stabilityTolerance (referencePower : ℚ) : ℚ := max 150 (|referencePower| * stableToleranceRatio)

/-- `_voltage_signature_tolerance`. -/
def voltageTolerance (referenceVoltage : ℚ) : ℚ := max 10 (|referenceVoltage| * stableToleranceRatio)

/-- `_set_learning_tracking`; the stability score stays unless one is given. -/
def setTracking (next : LearnedPower) : LearnedPower :=
  { next with watts := next.watts.map roundTenth, voltage := next.voltage.map roundTenth }

/-- `_clear_learning_tracking`. -/
def clear (learned : LearnedPower) : LearnedPower :=
  setTracking ⟨.unknown, none, none, none, 0, none, none, 0, none, learned.stabilityScore⟩

/-- `_stored_positive_learned_charge_power`. -/
def storedPositive (learned : LearnedPower) : Option ℚ := (learned.watts.map roundTenth).filter fun power => 0 < power

/-- Whether `_phase_change_reset` resets. -/
def phaseChanged (stored current : Option LearnedPhase) : Bool :=
  match stored, current with
  | some stored, some current => decide (stored ≠ current)
  | _, _ => false

/-- `_is_learned_charge_power_stale`. -/
def isStale (learned : LearnedPower) (policy : LearnChargePowerPolicy) (now : ℚ) : Bool :=
  if policy.maxAgeSeconds ≤ 0 then false
  else
    match learned.updatedAt with
    | none => true
    | some updatedAt => decide (policy.maxAgeSeconds < now - updatedAt)

/-- `_apply_stable_learning`. -/
def applyStable (learned : LearnedPower) (power : ℚ) (updatedAt : Option ℚ) (phase : Option LearnedPhase)
    (voltage : Option ℚ) (mismatchSessions : Nat) (checkedSessionStartedAt : Option ℚ) (stabilityScore : ℚ) :
    LearnedPower :=
  setTracking ⟨.stable, some power, updatedAt, none, max stableMinSamples learned.sampleCount, phase, voltage,
    mismatchSessions, checkedSessionStartedAt, stabilityScore⟩

/-! ## Before the decision of a cycle -/

/-- `refresh_learned_charge_power_state`. -/
def refresh (learned : LearnedPower) (policy : LearnChargePowerPolicy) (phase : Option LearnedPhase) (now : ℚ) :
    LearnedPower :=
  match learned.storedPositive with
  | none => learned.clear
  | some power =>
    if phaseChanged learned.phase phase then learned.clear
    else if learned.isStale policy now then
      setTracking { learned with
        state := .stale, watts := some power, learningSince := none, sampleCount := 0
        stabilityScore := normalizedLearningScore learned.stabilityScore }
    else if learned.state = .unknown ∧ learned.updatedAt ≠ none then
      learned.applyStable power learned.updatedAt (learned.phase <|> phase) learned.voltage learned.mismatchSessions
        learned.checkedSessionStartedAt (normalizedLearningScore learned.stabilityScore)
    else if learned.state = .stale then learned
    else setTracking { learned with watts := some power, phase := learned.phase <|> phase }

/-- `_stable_learned_power`. -/
def stablePower (learned : LearnedPower) : Option ℚ :=
  if learned.state = .stable then learned.watts.filter fun power => 0 < power else none

/-- What is measured before the decision. -/
structure Measurement where
  policy : LearnChargePowerPolicy
  phase : Option LearnedPhase
  relayOn : Bool
  power : ℚ
  voltage : ℚ
  confirmed : Bool
  now : ℚ

/-- `_current_learning_voltage_signature`. -/
def voltageSignature (voltage : ℚ) (lastVoltage : Option ℚ) : Option ℚ :=
  if 0 < voltage then some voltage else lastVoltage.filter fun last => 0 < last

/-- `_eligible_signature_session_started_at`. -/
def eligibleSession (learned : LearnedPower) (chargingStartedAt : Option ℚ) (m : Measurement) : Option ℚ :=
  match chargingStartedAt with
  | none => none
  | some startedAt =>
    if m.relayOn = true ∧ m.policy.startDelaySeconds ≤ m.now - startedAt ∧
      learned.checkedSessionStartedAt ≠ some startedAt then some startedAt else none

/-- Whether `_signature_mismatch_reasons` finds a reason. -/
def signatureMismatch (learned : LearnedPower) (power : ℚ) (lastVoltage : Option ℚ) (m : Measurement) : Bool :=
  (match learned.voltage, voltageSignature m.voltage lastVoltage with
    | some stored, some current => decide (voltageTolerance stored < |current - stored|)
    | _, _ => false) || decide (stabilityTolerance power < |m.power - power|)

/-- What `reconcile_learned_charge_power_signature` finds out. -/
inductive SignatureStep where
  | unchecked
  | phaseReset
  | checked (startedAt power : ℚ) (mismatch : Bool)
deriving DecidableEq

/-- The checks of `reconcile_learned_charge_power_signature`. -/
def signatureStep (learned : LearnedPower) (chargingStartedAt lastVoltage : Option ℚ) (m : Measurement) :
    SignatureStep :=
  match learned.stablePower with
  | none => .unchecked
  | some power =>
    if m.confirmed = false then .unchecked
    else if phaseChanged learned.phase m.phase then .phaseReset
    else
      match learned.eligibleSession chargingStartedAt m with
      | none => .unchecked
      | some startedAt => .checked startedAt power (learned.signatureMismatch power lastVoltage m)

/-- `reconcile_learned_charge_power_signature`. -/
def reconcile (learned : LearnedPower) (phase : Option LearnedPhase) : SignatureStep → LearnedPower
  | .unchecked => learned
  | .phaseReset => learned.clear
  | .checked startedAt power mismatch =>
    if mismatch = true ∧ signatureMismatchSessions ≤ learned.mismatchSessions + 1 then learned.clear
    else
      learned.applyStable power learned.updatedAt (learned.phase <|> phase) learned.voltage
        (if mismatch then learned.mismatchSessions + 1 else 0) (some startedAt) learned.stabilityScore

/-! ## At the end of a cycle -/

/-- What is known at the end of a cycle. -/
structure Outcome where
  policy : LearnChargePowerPolicy
  phase : Option LearnedPhase
  phaseVoltage : Bool
  maxCurrent : ℚ
  relayOn : Bool
  status : Int
  power : ℚ
  voltage : ℚ
  confirmed : Bool
  now : ℚ

/-- `window_status`. -/
inductive WindowStatus where
  | waiting
  | expired
  | ready (startedAt : ℚ)

/-- `LearningEngine.window_status`. -/
def windowStatus (chargingStartedAt : Option ℚ) (policy : LearnChargePowerPolicy) (now : ℚ) : WindowStatus :=
  match chargingStartedAt with
  | none => .waiting
  | some startedAt =>
    if now - startedAt < policy.startDelaySeconds then .waiting
    else if 0 < policy.windowSeconds ∧ policy.startDelaySeconds + policy.windowSeconds < now - startedAt then .expired
    else .ready startedAt

/-- `math.sqrt(3.0)`. -/
def sqrtThree : ℚ := 3900231685776981 / 2251799813685248

/-- `_plausible_learning_power_max`. -/
def plausibleMax (o : Outcome) (lastVoltage : Option ℚ) : ℚ :=
  let voltage :=
    if 0 < o.voltage then o.voltage
    else match lastVoltage with
      | some last => if last = 0 then 230 else last
      | none => 230
  let threePhase := decide (o.phase = some .threePhase)
  let effectiveVoltage := if threePhase = true ∧ o.phaseVoltage = false then voltage / sqrtThree else voltage
  max o.maxCurrent 0 * effectiveVoltage * (if threePhase then 3 else 1) * (11 / 10)

/-- What `update_learned_charge_power` does with a measurement, up to an accepted sample. -/
inductive LearningStep where
  | keep
  | clear
  | reject
  | sample (startedAt : ℚ)
deriving DecidableEq

/-- `_learning_session_result`, and the plausibility of the sample. -/
def learningStep (learned : LearnedPower) (chargingStartedAt lastVoltage : Option ℚ) (o : Outcome) : LearningStep :=
  if o.policy.enabled = false ∨ o.confirmed = false then .keep
  else if o.relayOn = false ∨ o.status ≠ 2 then if learned.state = .learning then .clear else .keep
  else
    match windowStatus chargingStartedAt o.policy o.now with
    | .waiting => .keep
    | .expired => if learned.state = .learning then .clear else .keep
    | .ready startedAt =>
      if o.power < o.policy.minWatts ∨ plausibleMax o lastVoltage < o.power then .reject else .sample startedAt

/-- `sample_stability_score`. -/
def sampleStabilityScore (power previous : ℚ) : ℚ :=
  normalizedLearningScore (1 - |power - previous| / stabilityTolerance previous)

/-- `combined_stability_score`. -/
def combinedStabilityScore (previous sample : ℚ) : ℚ :=
  let previous := normalizedLearningScore previous
  if previous ≤ 0 then normalizedLearningScore sample
  else normalizedLearningScore (previous * (7 / 10) + normalizedLearningScore sample * (3 / 10))

/-- `adaptive_stable_seconds`. -/
def adaptiveStableSeconds (stabilityScore : ℚ) : ℚ :=
  let score := normalizedLearningScore stabilityScore
  if 9 / 10 ≤ score then max 1 (stableMinSeconds * (1 / 2))
  else if score < 75 / 100 then stableMinSeconds * (125 / 100)
  else stableMinSeconds

/-- `stable_ready`. -/
def stableReady (sampleCount : Nat) (learningSpan stabilityScore : ℚ) : Bool :=
  decide (stableMinSamples ≤ sampleCount) && decide (adaptiveStableSeconds stabilityScore ≤ learningSpan) &&
    decide (normalizedLearningScore minStableLearningScore ≤ normalizedLearningScore stabilityScore)

/-- `smoothed_values`, the power. -/
def smoothedPower (alpha previous power : ℚ) : ℚ := previous + alpha * (power - previous)

/-- `smoothed_values`, the voltage signature. -/
def smoothedVoltage (alpha : ℚ) (previous current : Option ℚ) : Option ℚ :=
  match current with
  | none => previous
  | some current =>
    match previous with
    | none => some current
    | some previous => if previous ≤ 0 then some current else some (previous + alpha * (current - previous))

/-- `_restart_learning_sample`. -/
def restart (phase : Option LearnedPhase) (voltage : Option ℚ) (power now : ℚ) : LearnedPower :=
  setTracking ⟨.learning, some power, some now, some now, 1, phase, voltage, 0, none, normalizedLearningScore 1⟩

/-- What an accepted sample does: learning starts anew, the stable value is smoothed, or learning goes on. -/
inductive SampleEffect where
  | restart
  | refresh (previous : ℚ)
  | advance (previous : ℚ) (stable : Bool)
deriving DecidableEq

/-- The learning span and the combined score of `_apply_learning_progress`. -/
def progress (learned : LearnedPower) (previous power now : ℚ) : ℚ × ℚ :=
  (now - learned.learningSince.getD now,
    combinedStabilityScore learned.stabilityScore (sampleStabilityScore power previous))

/-- The branches of `_apply_learning_sample` and `_apply_learning_progress`. -/
def sampleEffect (learned : LearnedPower) (policy : LearnChargePowerPolicy) (power now : ℚ) : SampleEffect :=
  match learned.watts with
  | none => .restart
  | some previous =>
    if learned.state = .unknown ∨ learned.state = .stale ∨ previous ≤ 0 ∨ learned.isStale policy now = true then .restart
    else if learned.state = .stable then .refresh previous
    else if sampleStabilityScore power previous ≤ 0 then .restart
    else
      let (span, score) := learned.progress previous power now
      .advance previous (stableReady (max 1 learned.sampleCount + 1) span score)

/-- `_apply_learning_sample`. -/
def applySample (learned : LearnedPower) (o : Outcome) (voltage : Option ℚ) (startedAt : ℚ) :
    SampleEffect → LearnedPower
  | .restart => restart o.phase voltage o.power o.now
  | .refresh previous =>
    learned.applyStable (smoothedPower o.policy.alpha previous o.power) (some o.now) o.phase
      (smoothedVoltage o.policy.alpha learned.voltage voltage) 0 (some startedAt)
      (normalizedLearningScore (sampleStabilityScore o.power previous))
  | .advance previous true =>
    learned.applyStable (smoothedPower o.policy.alpha previous o.power) (some o.now) o.phase
      (smoothedVoltage o.policy.alpha learned.voltage voltage) 0 (some startedAt)
      (normalizedLearningScore (learned.progress previous o.power o.now).2)
  | .advance previous false =>
    setTracking ⟨.learning, some (smoothedPower o.policy.alpha previous o.power), some o.now,
      some (learned.learningSince.getD o.now), max 1 learned.sampleCount + 1, o.phase,
      smoothedVoltage o.policy.alpha learned.voltage voltage, 0, none,
      normalizedLearningScore (learned.progress previous o.power o.now).2⟩

/-- `update_learned_charge_power`. -/
def update (learned : LearnedPower) (o : Outcome) (lastVoltage : Option ℚ) : LearningStep → LearnedPower
  | .keep => learned
  | .clear => learned.clear
  | .reject => { learned with stabilityScore := normalizedLearningScore 0 }
  | .sample startedAt =>
    learned.applySample o (voltageSignature o.voltage lastVoltage) startedAt
      (learned.sampleEffect o.policy o.power o.now)

/-! ## What the branches need -/

variable {learned : LearnedPower} {chargingStartedAt : Option ℚ}

/-- A sample is accepted in the session that goes on. -/
theorem chargingStartedAt_of_sample {lastVoltage : Option ℚ} {o : Outcome}
    {startedAt : ℚ} (h : learned.learningStep chargingStartedAt lastVoltage o = .sample startedAt) :
    chargingStartedAt = some startedAt := by
  rw [learningStep] at h
  split at h
  · nomatch h
  · split at h
    · split at h <;> exact nomatch h
    · cases hcharging : chargingStartedAt with
      | none =>
        rw [hcharging, windowStatus] at h
        nomatch h
      | some started =>
        rw [hcharging, windowStatus] at h
        split at h
        · nomatch h
        · split at h <;> exact nomatch h
        · rename_i ready hwindow
          split at h
          · nomatch h
          · split at hwindow
            · nomatch hwindow
            · split at hwindow
              · nomatch hwindow
              · cases hwindow
                cases h
                rfl

theorem sampleEffect_advance {policy : LearnChargePowerPolicy} {power now previous : ℚ}
    {stable : Bool} (h : learned.sampleEffect policy power now = .advance previous stable) :
    learned.state = .learning ∧ learned.watts = some previous ∧ ¬ sampleStabilityScore power previous ≤ 0 ∧
      stable = stableReady (max 1 learned.sampleCount + 1) (learned.progress previous power now).1
        (learned.progress previous power now).2 := by
  rw [sampleEffect] at h
  cases hwatts : learned.watts with
  | none =>
    rw [hwatts] at h
    nomatch h
  | some watts =>
    rw [hwatts] at h
    dsimp only at h
    split at h
    · nomatch h
    · rename_i hgoes
      split at h
      · nomatch h
      · rename_i hstable
        split at h
        · nomatch h
        · rename_i hscore
          cases h
          refine ⟨?_, rfl, hscore, rfl⟩
          cases hstate : learned.state with
          | unknown => exact absurd (.inl hstate) hgoes
          | learning => rfl
          | stable => exact absurd hstate hstable
          | stale => exact absurd (.inr (.inl hstate)) hgoes

theorem sampleEffect_refresh {policy : LearnChargePowerPolicy} {power now previous : ℚ}
    (h : learned.sampleEffect policy power now = .refresh previous) :
    learned.state = .stable ∧ learned.watts = some previous := by
  rw [sampleEffect] at h
  cases hwatts : learned.watts with
  | none =>
    rw [hwatts] at h
    nomatch h
  | some watts =>
    rw [hwatts] at h
    dsimp only at h
    split at h
    · nomatch h
    · split at h
      · rename_i hstable
        cases h
        exact ⟨hstable, rfl⟩
      · split at h <;> exact nomatch h

theorem of_eligibleSession {m : Measurement} {startedAt : ℚ}
    (h : learned.eligibleSession chargingStartedAt m = some startedAt) :
    chargingStartedAt = some startedAt ∧ learned.checkedSessionStartedAt ≠ some startedAt := by
  cases chargingStartedAt with
  | none => exact nomatch h
  | some started =>
    rw [eligibleSession] at h
    split at h
    · rename_i hopen
      cases h
      exact ⟨rfl, hopen.2.2⟩
    · nomatch h

theorem signatureStep_checked {lastVoltage : Option ℚ} {m : Measurement}
    {startedAt power : ℚ} {mismatch : Bool}
    (h : learned.signatureStep chargingStartedAt lastVoltage m = .checked startedAt power mismatch) :
    learned.state = .stable ∧ chargingStartedAt = some startedAt ∧ learned.checkedSessionStartedAt ≠ some startedAt := by
  rw [signatureStep, stablePower] at h
  by_cases hstable : learned.state = .stable
  · refine ⟨hstable, ?_⟩
    rw [if_pos hstable] at h
    split at h
    · nomatch h
    · split at h
      · nomatch h
      · split at h
        · nomatch h
        · split at h
          · nomatch h
          · rename_i started heligible
            cases h
            exact of_eligibleSession heligible
  · rw [if_neg hstable] at h
    nomatch h

end LearnedPower

/-! ## Cycles -/

/-- The attributes that the cycles share. -/
structure LearningService where
  learned : LearnedPower
  chargingStartedAt : Option ℚ
  lastVoltage : Option ℚ

/-- The steps of the update cycles: the learning before the decision, the session state that is published, by an
offline cycle too, and the learning at the end. -/
inductive LearningEvent where
  | beforeDecision (measurement : LearnedPower.Measurement)
  | publish (status : Int) (now : ℚ)
  | learn (outcome : LearnedPower.Outcome)

namespace LearningService

open LearnedPower

section

variable (s : LearningService)

/-- The voltage that is remembered. -/
def seenVoltage (voltage : ℚ) : Option ℚ := if 0 < voltage then some voltage else s.lastVoltage

/-- The state after `refresh_learned_charge_power_state`. -/
def refreshed (m : Measurement) : LearnedPower := s.learned.refresh m.policy m.phase m.now

/-- What the reconciliation of a cycle finds out. -/
def check (m : Measurement) : SignatureStep :=
  (s.refreshed m).signatureStep s.chargingStartedAt (s.seenVoltage m.voltage) m

/-- `_refresh_learning_before_decision`. -/
def beforeDecision (m : Measurement) : LearningService :=
  { s with learned := (s.refreshed m).reconcile m.phase (s.check m), lastVoltage := s.seenVoltage m.voltage }

/-- `session_state_from_status`. -/
def publish (status : Int) (now : ℚ) : LearningService :=
  { s with chargingStartedAt := if status = 2 then some (s.chargingStartedAt.getD now) else none }

/-- What becomes of the measurement at the end of a cycle. -/
def learning (o : Outcome) : LearningStep := s.learned.learningStep s.chargingStartedAt s.lastVoltage o

/-- `update_learned_charge_power` on the service. -/
def learn (o : Outcome) : LearningService :=
  { s with learned := s.learned.update o s.lastVoltage (s.learning o) }

end

end LearningService

end VenusEvcharger
