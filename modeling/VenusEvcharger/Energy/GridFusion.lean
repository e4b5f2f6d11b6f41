import VenusEvcharger.Python.Value
import Mathlib.Algebra.Order.Ring.WithTop

/-!
# Fusion of two grid measurements

`GridMeasurementFusion` selects between a primary and a backup measurement of the grid power. It holds the
last primary value for a short time, fails over after some unusable samples, returns after some usable ones,
and takes the larger import while the two disagree.

Scope: the arithmetic of finite floats is exact. Limits may be infinite, measurements may carry any float.
What a failed call has already changed stays changed.
-/

namespace VenusEvcharger

/-- A limit of the configuration, finite or infinite. -/
abbrev Limit := WithTop ℚ

/-- A `GridFusionConfig` that has passed `_validate_grid_fusion_config`. -/
structure GridFusionConfig where
  enabled : Bool
  primarySourceId : String
  backupSourceId : String
  primaryMaxAgeSeconds : Limit
  backupMaxAgeSeconds : Limit
  minimumConfidence : ℚ
  failoverSamples : Nat
  recoverySamples : Nat
  failoverHoldSeconds : Limit
  mismatchAbsoluteWatts : Limit
  mismatchRelative : Limit
  mismatchSamples : Nat
  futureToleranceSeconds : Limit
  /-- Grid fusion requires a primary source id. -/
  primarySourceId_ne : enabled = true → strip primarySourceId ≠ ""
  /-- Grid fusion requires a backup source id. -/
  backupSourceId_ne : strip backupSourceId ≠ ""
  /-- Grid fusion sample thresholds must be positive. -/
  samples_pos : 1 ≤ failoverSamples ∧ 1 ≤ recoverySamples ∧ 1 ≤ mismatchSamples
  /-- Grid fusion freshness limits must be non-negative. -/
  ages_nonneg : 0 ≤ primaryMaxAgeSeconds ∧ 0 ≤ backupMaxAgeSeconds
  /-- Grid fusion minimum confidence must be between zero and one. -/
  minimumConfidence_mem : 0 ≤ minimumConfidence ∧ minimumConfidence ≤ 1
  /-- Grid fusion time tolerances must be non-negative. -/
  tolerances_nonneg : 0 ≤ failoverHoldSeconds ∧ 0 ≤ futureToleranceSeconds
  /-- Grid fusion mismatch tolerances must be non-negative. -/
  mismatch_nonneg : 0 ≤ mismatchAbsoluteWatts ∧ 0 ≤ mismatchRelative

/-! ## Measurements -/

/-- An available `TimestampedMeasurement`; the timestamps are finite and non-negative. -/
structure Observation where
  value : PyFloat
  capturedAt : ℚ
  observedMonotonic : ℚ
  timestamps_nonneg : 0 ≤ capturedAt ∧ 0 ≤ observedMonotonic

/-- A `GridMeasurement`. -/
structure GridMeasurement where
  sourceId : String
  measurement : Option Observation
  online : Bool
  confidence : PyFloat

/-- `TimestampedMeasurement.fresh`. -/
def Observation.fresh (o : Observation) (monotonicAt : ℚ) (maxAgeSeconds futureToleranceSeconds : Limit) :
    Bool :=
  decide (((o.observedMonotonic - monotonicAt : ℚ) : Limit) ≤ futureToleranceSeconds) &&
    decide (((monotonicAt - o.observedMonotonic : ℚ) : Limit) ≤ maxAgeSeconds)

/-- `TimestampedMeasurement.age_seconds`. -/
def GridMeasurement.ageSeconds (m : GridMeasurement) (monotonicAt : ℚ) : Option ℚ :=
  m.measurement.map fun o => max 0 (monotonicAt - o.observedMonotonic)

/-- `GridMeasurement.is_usable`. -/
def GridMeasurement.isUsable (m : GridMeasurement) (monotonicAt : ℚ) (maxAgeSeconds : Limit)
    (minimumConfidence : ℚ) (futureToleranceSeconds : Limit) : Bool :=
  match m.measurement with
  | none => false
  | some o =>
    m.online && o.value.isFinite && m.confidence.isFinite &&
      o.fresh monotonicAt maxAgeSeconds futureToleranceSeconds &&
      (PyFloat.fin minimumConfidence).le m.confidence

/-- The `state` of a result. -/
inductive GridFusionState where
  | primary
  | primaryHeld
  | primaryEmergency
  | backup
  | backupRecovery
  | disagreement
  | unavailable
deriving DecidableEq

/-- A `GridFusionResult`. -/
structure GridFusionResult where
  measurement : Option Observation
  selectedSourceId : String
  state : GridFusionState
  confidence : PyFloat
  primaryValid : Bool
  backupValid : Bool
  primaryAgeSeconds : Option ℚ
  backupAgeSeconds : Option ℚ
  differenceWatts : Option ℚ
  toleranceWatts : Option Limit
  primaryInvalidSamples : Nat
  primaryRecoverySamples : Nat
  mismatchSamples : Nat

/-- What a call can raise. -/
inductive FusionError where
  /-- `_last_primary` is read before it was set. -/
  | attributeError
  | assertionError
deriving DecidableEq

/-- The attributes of a `GridMeasurementFusion`; `lastPrimary` is `none` until the attribute is set. -/
structure GridMeasurementFusion where
  activeSourceId : Option String
  primaryInvalidSamples : Nat
  primaryRecoverySamples : Nat
  mismatchSamples : Nat
  lastPrimary : Option GridMeasurement

/-- A new fusion. -/
def GridMeasurementFusion.start : GridMeasurementFusion := ⟨none, 0, 0, 0, none⟩

/-- The arguments of `resolve`. -/
structure FusionCall where
  primary : GridMeasurement
  backup : GridMeasurement
  monotonicAt : ℚ

namespace GridFusionConfig

/-- The primary is usable in the call. -/
def primaryUsable (cfg : GridFusionConfig) (c : FusionCall) : Bool :=
  c.primary.isUsable c.monotonicAt cfg.primaryMaxAgeSeconds cfg.minimumConfidence cfg.futureToleranceSeconds

/-- The backup is usable in the call. -/
def backupUsable (cfg : GridFusionConfig) (c : FusionCall) : Bool :=
  c.backup.isUsable c.monotonicAt cfg.backupMaxAgeSeconds cfg.minimumConfidence cfg.futureToleranceSeconds

/-- The limit of `_held_primary`. -/
def holdLimit (cfg : GridFusionConfig) : Limit := cfg.primaryMaxAgeSeconds + cfg.failoverHoldSeconds

/-- `_mismatch_tolerance`. -/
def mismatchTolerance (cfg : GridFusionConfig) (primaryPower backupPower : ℚ) : Limit :=
  max cfg.mismatchAbsoluteWatts (cfg.mismatchRelative * ((max |primaryPower| |backupPower| : ℚ) : Limit))

end GridFusionConfig

namespace GridMeasurementFusion

/-! ## Selection -/

/-- `_activate_primary`. -/
def activatePrimary (f : GridMeasurementFusion) (cfg : GridFusionConfig) : GridMeasurementFusion :=
  { f with
    activeSourceId := some cfg.primarySourceId
    primaryInvalidSamples := 0
    primaryRecoverySamples := 0 }

/-- `_activate_backup`. -/
def activateBackup (f : GridMeasurementFusion) (cfg : GridFusionConfig) : GridMeasurementFusion :=
  { f with
    activeSourceId := some cfg.backupSourceId
    primaryInvalidSamples := 0
    primaryRecoverySamples := 0 }

/-- `_record_primary`. -/
def recordPrimary (f : GridMeasurementFusion) (primary : GridMeasurement) (primaryValid : Bool) :
    GridMeasurementFusion :=
  if primaryValid then { f with lastPrimary := some primary } else f

/-- `_held_primary`. -/
def heldPrimary (f : GridMeasurementFusion) (cfg : GridFusionConfig) (monotonicAt : ℚ) :
    Except FusionError (Option GridMeasurement) :=
  match f.lastPrimary with
  | none => .error .attributeError
  | some last =>
    match last.measurement with
    | none => .error .assertionError
    | some o =>
      .ok (if ((monotonicAt - o.observedMonotonic : ℚ) : Limit) ≤ cfg.holdLimit then some last else none)

/-- What a selection returns: the measurement with its state. -/
abbrev Selection := Option GridMeasurement × GridFusionState

section

variable (f : GridMeasurementFusion) (cfg : GridFusionConfig) (c : FusionCall) (primaryValid backupValid : Bool)

/-- `_select_initial`. -/
def selectInitial : GridMeasurementFusion × Selection :=
  if primaryValid then (f.activatePrimary cfg, some c.primary, .primary)
  else if backupValid then (f.activateBackup cfg, some c.backup, .backup)
  else (f, none, .unavailable)

/-- `_select_while_primary`. -/
def selectWhilePrimary : GridMeasurementFusion × Except FusionError Selection :=
  if primaryValid then ({ f with primaryInvalidSamples := 0 }, .ok (some c.primary, .primary))
  else
    let f := { f with primaryInvalidSamples := f.primaryInvalidSamples + 1 }
    match f.heldPrimary cfg c.monotonicAt with
    | .error e => (f, .error e)
    | .ok held =>
      if f.primaryInvalidSamples < cfg.failoverSamples ∧ held.isSome then (f, .ok (held, .primaryHeld))
      else if backupValid then (f.activateBackup cfg, .ok (some c.backup, .backup))
      else (f, .ok (none, .unavailable))

/-- `_select_while_backup`. -/
def selectWhileBackup : GridMeasurementFusion × Selection :=
  let f := { f with primaryRecoverySamples := if primaryValid then f.primaryRecoverySamples + 1 else 0 }
  if primaryValid && decide (cfg.recoverySamples ≤ f.primaryRecoverySamples) then
    (f.activatePrimary cfg, some c.primary, .primary)
  else if backupValid then (f, some c.backup, if primaryValid then .backupRecovery else .backup)
  else if primaryValid then (f, some c.primary, .primaryEmergency)
  else (f, none, .unavailable)

/-- `_select_measurement`. -/
def selectMeasurement : GridMeasurementFusion × Except FusionError Selection :=
  if cfg.enabled then
    match f.activeSourceId with
    | none =>
      let (f, selection) := f.selectInitial cfg c primaryValid backupValid
      (f, .ok selection)
    | some active =>
      if active = cfg.primarySourceId then f.selectWhilePrimary cfg c primaryValid backupValid
      else
        let (f, selection) := f.selectWhileBackup cfg c primaryValid backupValid
        (f, .ok selection)
  else (f, .ok (if backupValid then (some c.backup, .backup) else (none, .unavailable)))

end

/-! ## Plausibility -/

/-- The power of a measurement, where the code asserts that there is one. The callers have found the
measurement usable, and a usable one is finite. -/
def power (m : GridMeasurement) : Except FusionError ℚ :=
  match m.measurement.map Observation.value with
  | some (.fin power) => .ok power
  | _ => .error .assertionError

/-- `_plausibility`. -/
def plausibility (f : GridMeasurementFusion) (cfg : GridFusionConfig) (c : FusionCall)
    (primaryValid backupValid : Bool) :
    GridMeasurementFusion × Except FusionError (Option (ℚ × Limit)) :=
  if primaryValid && backupValid then
    match power c.primary, power c.backup with
    | .ok primaryPower, .ok backupPower =>
      let difference := |primaryPower - backupPower|
      let tolerance := cfg.mismatchTolerance primaryPower backupPower
      ({ f with mismatchSamples := if tolerance < (difference : Limit) then f.mismatchSamples + 1 else 0 },
        .ok (some (difference, tolerance)))
    | .error e, _ => (f, .error e)
    | _, .error e => (f, .error e)
  else ({ f with mismatchSamples := 0 }, .ok none)

/-- `min` of two floats: the second one only where it is smaller. -/
def minFloat (a b : PyFloat) : PyFloat := if b.lt a then b else a

/-- `_conservative_measurement`. -/
def conservativeMeasurement (primary backup : GridMeasurement) : Except FusionError GridMeasurement :=
  match power primary, power backup, primary.measurement, backup.measurement with
  | .ok primaryPower, .ok backupPower, some p, some b =>
    .ok {
      sourceId := "conservative"
      measurement := some {
        value := .fin (max primaryPower backupPower)
        capturedAt := min p.capturedAt b.capturedAt
        observedMonotonic := min p.observedMonotonic b.observedMonotonic
        timestamps_nonneg := ⟨le_min p.timestamps_nonneg.1 b.timestamps_nonneg.1,
          le_min p.timestamps_nonneg.2 b.timestamps_nonneg.2⟩ }
      online := true
      confidence := minFloat (minFloat primary.confidence backup.confidence) (.fin (1 / 2)) }
  | _, _, _, _ => .error .assertionError

/-- `_apply_disagreement_limit`. -/
def applyDisagreementLimit (f : GridMeasurementFusion) (cfg : GridFusionConfig) (c : FusionCall)
    (selection : Selection) (primaryValid backupValid : Bool) : Except FusionError Selection :=
  if primaryValid && backupValid && decide (cfg.mismatchSamples ≤ f.mismatchSamples) then
    match conservativeMeasurement c.primary c.backup with
    | .ok m => .ok (some m, .disagreement)
    | .error e => .error e
  else .ok selection

/-! ## `resolve` -/

/-- `_result`. -/
def result (f : GridMeasurementFusion) (c : FusionCall) (selection : Selection)
    (plausibility : Option (ℚ × Limit)) (primaryValid backupValid : Bool) : GridFusionResult where
  measurement := selection.1.bind (·.measurement)
  selectedSourceId := (selection.1.map (·.sourceId)).getD ""
  state := selection.2
  confidence := match selection.1 with
    | none => .fin 0
    | some selected => selected.confidence
  primaryValid := primaryValid
  backupValid := backupValid
  primaryAgeSeconds := c.primary.ageSeconds c.monotonicAt
  backupAgeSeconds := c.backup.ageSeconds c.monotonicAt
  differenceWatts := plausibility.map (·.1)
  toleranceWatts := plausibility.map (·.2)
  primaryInvalidSamples := f.primaryInvalidSamples
  primaryRecoverySamples := f.primaryRecoverySamples
  mismatchSamples := f.mismatchSamples

/-- `resolve`. -/
def resolve (f : GridMeasurementFusion) (cfg : GridFusionConfig) (c : FusionCall) :
    GridMeasurementFusion × Except FusionError GridFusionResult :=
  let primaryValid := cfg.primaryUsable c
  let backupValid := cfg.backupUsable c
  let f := f.recordPrimary c.primary primaryValid
  match f.selectMeasurement cfg c primaryValid backupValid with
  | (f, .error e) => (f, .error e)
  | (f, .ok selection) =>
    match f.plausibility cfg c primaryValid backupValid with
    | (f, .error e) => (f, .error e)
    | (f, .ok plausibility) =>
      match f.applyDisagreementLimit cfg c selection primaryValid backupValid with
      | .error e => (f, .error e)
      | .ok selection => (f, .ok (f.result c selection plausibility primaryValid backupValid))

end GridMeasurementFusion

/-! ## Usable measurements -/

/-- Both are usable, and they differ by more than the tolerance. -/
def GridFusionConfig.disagrees (cfg : GridFusionConfig) (c : FusionCall) : Bool :=
  match GridMeasurementFusion.power c.primary, GridMeasurementFusion.power c.backup with
  | .ok primaryPower, .ok backupPower =>
    cfg.primaryUsable c && cfg.backupUsable c &&
      decide (cfg.mismatchTolerance primaryPower backupPower < (|primaryPower - backupPower| : ℚ))
  | _, _ => false

/-- Only usable measurements disagree. -/
theorem usable_of_disagrees {cfg : GridFusionConfig} {c : FusionCall} (h : cfg.disagrees c = true) :
    cfg.primaryUsable c = true ∧ cfg.backupUsable c = true := by
  unfold GridFusionConfig.disagrees at h
  split at h
  · simp only [Bool.and_eq_true] at h
    exact h.1
  · exact absurd h Bool.false_ne_true

theorem GridMeasurement.available_of_isUsable {m : GridMeasurement} {at' : ℚ} {maxAge tolerance : Limit}
    {confidence : ℚ} (h : m.isUsable at' maxAge confidence tolerance = true) :
    ∃ o power, m.measurement = some o ∧ o.value = .fin power := by
  unfold isUsable at h
  cases hmeasurement : m.measurement with
  | none => simp [hmeasurement] at h
  | some o =>
    cases hvalue : o.value with
    | fin power => exact ⟨o, power, rfl, hvalue⟩
    | nan | negInf | posInf => simp [hmeasurement, hvalue, PyFloat.isFinite] at h

namespace GridMeasurementFusion

theorem power_of_isUsable {m : GridMeasurement} {at' : ℚ} {maxAge tolerance : Limit} {confidence : ℚ}
    (h : m.isUsable at' maxAge confidence tolerance = true) : ∃ watts, power m = .ok watts := by
  obtain ⟨o, watts, hmeasurement, hvalue⟩ := m.available_of_isUsable h
  exact ⟨watts, by simp [power, hmeasurement, hvalue]⟩

/-- The conservative combination of two usable measurements exists. -/
theorem conservative_of_isUsable {cfg : GridFusionConfig} {c : FusionCall}
    (hprimary : cfg.primaryUsable c = true) (hbackup : cfg.backupUsable c = true) :
    ∃ m o, conservativeMeasurement c.primary c.backup = .ok m ∧ m.measurement = some o := by
  obtain ⟨p, x, hp, hx⟩ := c.primary.available_of_isUsable hprimary
  obtain ⟨b, y, hb, hy⟩ := c.backup.available_of_isUsable hbackup
  simp [conservativeMeasurement, power, hp, hx, hb, hy]

/-- The fusion after the mismatch counter was advanced. -/
def counted (f : GridMeasurementFusion) (cfg : GridFusionConfig) (c : FusionCall) : GridMeasurementFusion :=
  { f with mismatchSamples := if cfg.disagrees c then f.mismatchSamples + 1 else 0 }

/-- The plausibility check of a call never fails, and counts the disagreement. -/
theorem plausibility_eq (f : GridMeasurementFusion) (cfg : GridFusionConfig) (c : FusionCall) :
    ∃ checked, f.plausibility cfg c (cfg.primaryUsable c) (cfg.backupUsable c) =
      (f.counted cfg c, .ok checked) := by
  unfold plausibility counted
  by_cases husable : cfg.primaryUsable c = true ∧ cfg.backupUsable c = true
  · obtain ⟨hprimary, hbackup⟩ := husable
    obtain ⟨x, hx⟩ := power_of_isUsable hprimary
    obtain ⟨y, hy⟩ := power_of_isUsable hbackup
    simp [GridFusionConfig.disagrees, hprimary, hbackup, hx, hy]
  · have hagree : cfg.disagrees c = false := by
      cases hdisagrees : cfg.disagrees c with
      | false => rfl
      | true => exact absurd (usable_of_disagrees hdisagrees) husable
    refine ⟨none, ?_⟩
    rw [if_neg (by simpa using husable), hagree]
    rfl

theorem applyDisagreementLimit_eq (f : GridMeasurementFusion) {cfg : GridFusionConfig} {c : FusionCall}
    (selection : Selection) (hcounted : 1 ≤ f.mismatchSamples → cfg.disagrees c = true) :
    (f.mismatchSamples < cfg.mismatchSamples ∧
      f.applyDisagreementLimit cfg c selection (cfg.primaryUsable c) (cfg.backupUsable c) = .ok selection) ∨
    (cfg.mismatchSamples ≤ f.mismatchSamples ∧ ∃ m, conservativeMeasurement c.primary c.backup = .ok m ∧
      f.applyDisagreementLimit cfg c selection (cfg.primaryUsable c) (cfg.backupUsable c) =
        .ok (some m, .disagreement)) := by
  unfold applyDisagreementLimit
  rcases Nat.lt_or_ge f.mismatchSamples cfg.mismatchSamples with hlt | hge
  · exact .inl ⟨hlt, if_neg (by simp [hlt])⟩
  · have hpos := cfg.samples_pos.2.2
    obtain ⟨hprimary, hbackup⟩ := usable_of_disagrees (hcounted (hpos.trans hge))
    obtain ⟨m, -, hm, -⟩ := conservative_of_isUsable hprimary hbackup
    exact .inr ⟨hge, m, hm, by simp [hprimary, hbackup, hge, hm]⟩

end GridMeasurementFusion

end VenusEvcharger
