import VenusEvcharger.Energy.GridFusion

/-!
# Grid fusion of the native helper

The native helper selects between the primary and the backup measurement with a `GridMeasurementFusion` of its
own. A native measurement has no invariant, its ages are signed, and its counters are 32 bits wide and saturate.
The state texts are those of the Python fusion.

Scope: the arithmetic of finite floats is exact.
-/

namespace VenusEvcharger.AutoInputHelper

/-- The largest 32-bit counter. -/
def u32Max : Nat := 2 ^ 32 - 1

/-- `saturating_add(1)`. -/
def saturatingIncrement (n : Nat) : Nat := min (n + 1) u32Max

/-- The native `GridFusionConfig`. -/
structure GridFusionConfig where
  enabled : Bool
  primarySourceId : String
  backupSourceId : String
  primaryMaxAgeSeconds : Limit
  backupMaxAgeSeconds : Limit
  minimumConfidence : ℚ
  failoverSamples : Nat
  recoverySamples : Nat
  failoverHoldSeconds : Limit
  mismatchAbsoluteWatts : Limit
  mismatchRelative : Limit
  mismatchSamples : Nat
  futureToleranceSeconds : Limit
  /-- The thresholds are 32-bit numbers. -/
  samples_le : failoverSamples ≤ u32Max ∧ recoverySamples ≤ u32Max ∧ mismatchSamples ≤ u32Max

/-- The native `GridMeasurement`. -/
structure GridMeasurement where
  sourceId : String
  powerW : Option PyFloat
  capturedAt : Option PyFloat
  observedMonotonic : Option PyFloat
  online : Bool
  confidence : PyFloat

/-- `GridMeasurement::usable`. -/
def GridMeasurement.usable (m : GridMeasurement) (monotonic : ℚ) (maxAge : Limit) (minimumConfidence : ℚ)
    (futureTolerance : Limit) : Bool :=
  match m.powerW, m.capturedAt, m.observedMonotonic with
  | some power, some captured, some (.fin observed) =>
    m.online && power.isFinite && captured.isFinite && m.confidence.isFinite &&
      (PyFloat.fin minimumConfidence).le m.confidence &&
      decide ((observed : Limit) ≤ (monotonic : Limit) + futureTolerance) &&
      decide (((monotonic - observed : ℚ) : Limit) ≤ maxAge)
  | _, _, _ => false

/-- `GridMeasurement::age`: signed. -/
def GridMeasurement.age (m : GridMeasurement) (monotonic : ℚ) : Option ℚ :=
  match m.observedMonotonic with
  | some (.fin observed) => some (monotonic - observed)
  | _ => none

/-- The native `GridFusionResult`. -/
structure GridFusionResult where
  measurement : Option GridMeasurement
  selectedSourceId : String
  state : GridFusionState
  confidence : PyFloat
  primaryValid : Bool
  backupValid : Bool
  primaryAgeSeconds : Option ℚ
  backupAgeSeconds : Option ℚ
  differenceWatts : Option ℚ
  toleranceWatts : Option Limit
  primaryInvalidSamples : Nat
  primaryRecoverySamples : Nat
  mismatchSamples : Nat

/-- The native `GridMeasurementFusion`. -/
structure GridMeasurementFusion where
  activeSourceId : Option String
  lastPrimary : Option GridMeasurement
  primaryInvalidSamples : Nat
  primaryRecoverySamples : Nat
  mismatchSamples : Nat

/-- The arguments of a native `resolve`. -/
structure FusionCall where
  primary : GridMeasurement
  backup : GridMeasurement
  monotonic : ℚ

/-- What a selection returns: the measurement with its state. -/
abbrev Selection := Option GridMeasurement × GridFusionState

/-- `f64::min`: a number is preferred. -/
def f64Min (a b : PyFloat) : PyFloat :=
  if a = .nan then b else if b = .nan then a else if b.lt a then b else a

/-- `f64::max`: a number is preferred. -/
def f64Max (a b : PyFloat) : PyFloat :=
  if a = .nan then b else if b = .nan then a else if a.lt b then b else a

/-- `conservative`. -/
def conservative (primary backup : GridMeasurement) : Option GridMeasurement := do
  let primaryPower ← primary.powerW
  let backupPower ← backup.powerW
  let primaryCaptured ← primary.capturedAt
  let backupCaptured ← backup.capturedAt
  let primaryObserved ← primary.observedMonotonic
  let backupObserved ← backup.observedMonotonic
  return {
    sourceId := "conservative"
    powerW := some (f64Max primaryPower backupPower)
    capturedAt := some (f64Min primaryCaptured backupCaptured)
    observedMonotonic := some (f64Min primaryObserved backupObserved)
    online := true
    confidence := f64Min (f64Min primary.confidence backup.confidence) (.fin (1 / 2)) }

namespace GridFusionConfig

/-- The primary is usable in the call. -/
def primaryUsable (cfg : GridFusionConfig) (c : FusionCall) : Bool :=
  c.primary.usable c.monotonic cfg.primaryMaxAgeSeconds cfg.minimumConfidence cfg.futureToleranceSeconds

/-- The backup is usable in the call. -/
def backupUsable (cfg : GridFusionConfig) (c : FusionCall) : Bool :=
  c.backup.usable c.monotonic cfg.backupMaxAgeSeconds cfg.minimumConfidence cfg.futureToleranceSeconds

end GridFusionConfig

namespace GridMeasurementFusion

/-- `GridMeasurementFusion::new`. -/
def new : GridMeasurementFusion := ⟨none, none, 0, 0, 0⟩

section

variable (f : GridMeasurementFusion) (cfg : GridFusionConfig)

/-- `activate_primary`. -/
def activatePrimary : GridMeasurementFusion :=
  { f with
    activeSourceId := some cfg.primarySourceId
    primaryInvalidSamples := 0
    primaryRecoverySamples := 0 }

/-- `activate_backup`. -/
def activateBackup : GridMeasurementFusion :=
  { f with
    activeSourceId := some cfg.backupSourceId
    primaryInvalidSamples := 0
    primaryRecoverySamples := 0 }

/-- `held_primary`: nothing is held before there was a primary. -/
def heldPrimary (monotonic : ℚ) : Option GridMeasurement :=
  match f.lastPrimary with
  | none => none
  | some primary =>
    match primary.observedMonotonic with
    | some (.fin observed) =>
      if ((monotonic - observed : ℚ) : Limit) ≤ cfg.primaryMaxAgeSeconds + cfg.failoverHoldSeconds then
        some primary
      else none
    | _ => none

/-- `select_initial`. -/
def selectInitial (c : FusionCall)
    (primaryValid backupValid : Bool) : GridMeasurementFusion × Selection :=
  if primaryValid then (f.activatePrimary cfg, some c.primary, .primary)
  else if backupValid then (f.activateBackup cfg, some c.backup, .backup)
  else (f, none, .unavailable)

/-- `select_primary`: the held value is only looked up below the failover threshold. -/
def selectPrimary (c : FusionCall)
    (primaryValid backupValid : Bool) : GridMeasurementFusion × Selection :=
  if primaryValid then ({ f with primaryInvalidSamples := 0 }, some c.primary, .primary)
  else
    let f := { f with primaryInvalidSamples := saturatingIncrement f.primaryInvalidSamples }
    let fallback :=
      if backupValid then (f.activateBackup cfg, some c.backup, .backup) else (f, none, .unavailable)
    if f.primaryInvalidSamples < cfg.failoverSamples then
      match f.heldPrimary cfg c.monotonic with
      | some held => (f, some held, .primaryHeld)
      | none => fallback
    else fallback

/-- `select_backup`. -/
def selectBackup (c : FusionCall)
    (primaryValid backupValid : Bool) : GridMeasurementFusion × Selection :=
  let f := { f with
    primaryRecoverySamples := if primaryValid then saturatingIncrement f.primaryRecoverySamples else 0 }
  if primaryValid && decide (cfg.recoverySamples ≤ f.primaryRecoverySamples) then
    (f.activatePrimary cfg, some c.primary, .primary)
  else if backupValid then (f, some c.backup, if primaryValid then .backupRecovery else .backup)
  else if primaryValid then (f, some c.primary, .primaryEmergency)
  else (f, none, .unavailable)

/-- `select`. -/
def select (c : FusionCall)
    (primaryValid backupValid : Bool) : GridMeasurementFusion × Selection :=
  if cfg.enabled then
    match f.activeSourceId with
    | none => f.selectInitial cfg c primaryValid backupValid
    | some active =>
      if active = cfg.primarySourceId then f.selectPrimary cfg c primaryValid backupValid
      else f.selectBackup cfg c primaryValid backupValid
  else (f, if backupValid then (some c.backup, .backup) else (none, .unavailable))

/-- `plausibility`. Both powers are finite where both measurements are usable. -/
def plausibility (c : FusionCall)
    (primaryValid backupValid : Bool) : GridMeasurementFusion × Option ℚ × Option Limit :=
  if !primaryValid || !backupValid then ({ f with mismatchSamples := 0 }, none, none)
  else
    match c.primary.powerW, c.backup.powerW with
    | some (.fin primaryPower), some (.fin backupPower) =>
      let difference := |primaryPower - backupPower|
      let scale := max |primaryPower| |backupPower|
      let tolerance := max cfg.mismatchAbsoluteWatts (cfg.mismatchRelative * (scale : Limit))
      ({ f with
          mismatchSamples :=
            if tolerance < (difference : Limit) then saturatingIncrement f.mismatchSamples else 0 },
        some difference, some tolerance)
    | _, _ => (f, none, none)

/-- `resolve`. -/
def resolve (c : FusionCall) :
    GridMeasurementFusion × GridFusionResult :=
  let primaryValid := cfg.primaryUsable c
  let backupValid := cfg.backupUsable c
  let f := if primaryValid then { f with lastPrimary := some c.primary } else f
  let (f, selection) := f.select cfg c primaryValid backupValid
  let (f, difference, tolerance) := f.plausibility cfg c primaryValid backupValid
  let selection :=
    if primaryValid && backupValid && decide (cfg.mismatchSamples ≤ f.mismatchSamples) then
      (conservative c.primary c.backup, .disagreement)
    else selection
  (f, {
    measurement := selection.1
    selectedSourceId := (selection.1.map (·.sourceId)).getD ""
    state := selection.2
    confidence := (selection.1.map (·.confidence)).getD (.fin 0)
    primaryValid := primaryValid
    backupValid := backupValid
    primaryAgeSeconds := c.primary.age c.monotonic
    backupAgeSeconds := c.backup.age c.monotonic
    differenceWatts := difference
    toleranceWatts := tolerance
    primaryInvalidSamples := f.primaryInvalidSamples
    primaryRecoverySamples := f.primaryRecoverySamples
    mismatchSamples := f.mismatchSamples })

end

end GridMeasurementFusion

end VenusEvcharger.AutoInputHelper
