import VenusEvcharger.AutoInputHelper.Aggregate
import VenusEvcharger.Energy.Learning
import VenusEvcharger.Library.Run

/-!
# The learning profile of the native helper

The native `update_learning_profile`, over the profiles and the samples of the Python helper. `update_agrees_iff` says
for which samples both compute the same profile.
-/

namespace VenusEvcharger.AutoInputHelper

open Library

/-! ## The update -/

def u64Max : Nat := 18446744073709551615

structure SourceMetrics where
  direction : EnergyDirection
  active : Bool
  chargePowerW : Option ℚ
  dischargePowerW : Option ℚ
  acPowerW : Option ℚ
  pvInputPowerW : Option ℚ
  gridImportW : Option ℚ
  gridExportW : Option ℚ

def activePowerThresholdW : ℚ := 50

def gridActivityThresholdW : ℚ := 100

def positive (value : Option ℚ) : Option ℚ := value.filter (0 < ·)

/-- `source_metrics`. -/
def sourceMetrics (source : EnergySourceSnapshot) : SourceMetrics :=
  let direction : EnergyDirection :=
    match source.netBatteryPowerW with
    | some value =>
      if value ≤ -activePowerThresholdW then .charge
      else if activePowerThresholdW ≤ value then .discharge
      else .idle
    | none => .idle
  { direction
    active := direction = .charge || direction = .discharge ||
      ([source.acPowerW, source.pvInputPowerW].filterMap id).any (activePowerThresholdW ≤ |·|)
    chargePowerW := source.chargePowerW
    dischargePowerW := source.dischargePowerW
    acPowerW := source.acPowerW.map (|·|)
    pvInputPowerW := positive source.pvInputPowerW
    gridImportW := positive source.gridInteractionW
    gridExportW := positive (source.gridInteractionW.map fun value => max (-value) 0) }

/-- `increment_if`; the counters are `u64`. -/
def incrementIf (value : Nat) (condition : Bool) : Nat := min (value + condition.toNat) u64Max

/-- `max_optional`. -/
def maxOptional (current candidate : Option ℚ) : Option ℚ :=
  match current, candidate with
  | some left, some right => some (max left right)
  | none, value | value, none => value

/-- `min_optional`. -/
def minOptional (current candidate : Option ℚ) : Option ℚ :=
  match current, candidate with
  | some left, some right => some (min left right)
  | none, value | value, none => value

/-- `rolling_average`: without a candidate there is no average. -/
def rollingAverage (current : Option ℚ) (count : Nat) (candidate : Option ℚ) : Option ℚ :=
  candidate.map fun candidate =>
    match current with
    | none => candidate
    | some value => (value * countAsF64 count + candidate) / (countAsF64 count + 1)

/-- `pair_delta`. -/
def pairDelta (current average : Option ℚ) : Option ℚ :=
  current.bind fun current => average.map fun average => |current - average|

section

variable (profile : EnergyLearningProfile) (metrics : SourceMetrics)

/-- `direction_changed`. -/
def directionChanged (direction : EnergyDirection) : Bool :=
  (direction = .charge || direction = .discharge) &&
    (profile.lastDirection = .charge || profile.lastDirection = .discharge) && profile.lastDirection != direction

/-- `activation_response_delay`. -/
def activationResponseDelay (changed : Bool) (now : ℚ) : Option ℚ :=
  if ¬ metrics.active then none
  else if ¬ profile.lastActive then profile.lastInactiveAt.map fun value => max (now - value) 0
  else if changed then profile.lastChangeAt.map fun value => max (now - value) 0
  else none

/-- `smoothing_delta`. -/
def smoothingDelta : Option ℚ :=
  match metrics.direction with
  | .charge => pairDelta metrics.chargePowerW profile.averageActiveChargePowerW
  | .discharge => pairDelta metrics.dischargePowerW profile.averageActiveDischargePowerW
  | .idle => none

/-- `update_averages`. -/
def updateAverages (responseDelay smoothingDelta : Option ℚ) : EnergyLearningProfile :=
  { profile with
    averageActiveChargePowerW := if metrics.direction = .charge then
        rollingAverage profile.averageActiveChargePowerW profile.chargeSampleCount metrics.chargePowerW
      else profile.averageActiveChargePowerW
    averageActiveDischargePowerW := if metrics.direction = .discharge then
        rollingAverage profile.averageActiveDischargePowerW profile.dischargeSampleCount metrics.dischargePowerW
      else profile.averageActiveDischargePowerW
    averageActivePowerDeltaW :=
      rollingAverage profile.averageActivePowerDeltaW profile.smoothingSampleCount smoothingDelta
    typicalResponseDelaySeconds :=
      rollingAverage profile.typicalResponseDelaySeconds profile.responseSampleCount responseDelay }

/-- `update_grid_counts`. -/
def updateGridCounts : EnergyLearningProfile :=
  let importing := metrics.gridImportW.any (gridActivityThresholdW ≤ ·)
  let exporting := metrics.gridExportW.any (gridActivityThresholdW ≤ ·)
  { profile with
    importSupportSampleCount :=
      incrementIf profile.importSupportSampleCount (metrics.direction = .discharge && importing)
    importChargeSampleCount := incrementIf profile.importChargeSampleCount (metrics.direction = .charge && importing)
    exportChargeSampleCount := incrementIf profile.exportChargeSampleCount (metrics.direction = .charge && exporting)
    exportDischargeSampleCount :=
      incrementIf profile.exportDischargeSampleCount (metrics.direction = .discharge && exporting)
    exportIdleSampleCount := incrementIf profile.exportIdleSampleCount (metrics.direction = .idle && exporting) }

/-- `update_period_counts`, with the period of the time. -/
def updatePeriodCounts (period : SamplePeriod) : EnergyLearningProfile :=
  let day : Bool := period = .day
  { profile with
    dayActiveSampleCount := incrementIf profile.dayActiveSampleCount (metrics.active && day)
    nightActiveSampleCount := incrementIf profile.nightActiveSampleCount (metrics.active && !day)
    dayChargeSampleCount := incrementIf profile.dayChargeSampleCount (metrics.direction = .charge && day)
    nightChargeSampleCount := incrementIf profile.nightChargeSampleCount (metrics.direction = .charge && !day)
    dayDischargeSampleCount := incrementIf profile.dayDischargeSampleCount (metrics.direction = .discharge && day)
    nightDischargeSampleCount :=
      incrementIf profile.nightDischargeSampleCount (metrics.direction = .discharge && !day) }

/-- `update_counts`. -/
def updateCounts (responseDelay smoothingDelta : Option ℚ) (period : SamplePeriod) : EnergyLearningProfile :=
  let counted := { profile with
    sampleCount := min (profile.sampleCount + 1) u64Max
    activeSampleCount := incrementIf profile.activeSampleCount metrics.active
    chargeSampleCount := incrementIf profile.chargeSampleCount (metrics.direction = .charge)
    dischargeSampleCount := incrementIf profile.dischargeSampleCount (metrics.direction = .discharge) }
  let counted := updatePeriodCounts (updateGridCounts counted metrics) metrics period
  { counted with
    responseSampleCount := incrementIf counted.responseSampleCount responseDelay.isSome
    smoothingSampleCount := incrementIf counted.smoothingSampleCount smoothingDelta.isSome }

/-- `update_observations`. -/
def updateObservations (source : EnergySourceSnapshot) : EnergyLearningProfile :=
  { profile with
    observedMaxChargePowerW := maxOptional profile.observedMaxChargePowerW metrics.chargePowerW
    observedMaxDischargePowerW := maxOptional profile.observedMaxDischargePowerW metrics.dischargePowerW
    observedMaxAcPowerW := maxOptional profile.observedMaxAcPowerW metrics.acPowerW
    observedMaxPvInputPowerW := maxOptional profile.observedMaxPvInputPowerW metrics.pvInputPowerW
    observedMaxGridImportW := maxOptional profile.observedMaxGridImportW metrics.gridImportW
    observedMaxGridExportW := maxOptional profile.observedMaxGridExportW metrics.gridExportW
    observedMinDischargeSoc := if metrics.direction = .discharge then
        minOptional profile.observedMinDischargeSoc source.soc
      else profile.observedMinDischargeSoc
    observedMaxChargeSoc := if metrics.direction = .charge then maxOptional profile.observedMaxChargeSoc source.soc
      else profile.observedMaxChargeSoc }

/-- `update_activity_markers`. -/
def updateActivityMarkers (changed : Bool) (now : ℚ) : EnergyLearningProfile :=
  { profile with
    directionChangeCount := incrementIf profile.directionChangeCount changed
    lastDirection := metrics.direction
    lastActive := metrics.active
    lastActiveAt := if metrics.active then some now else profile.lastActiveAt
    lastInactiveAt := if metrics.active then profile.lastInactiveAt else some now
    lastChangeAt := some now }

/-- `update_learning_profile`: incorporate one newly observed source sample into its learning profile. -/
def updateLearningProfile (x : EnergySample) : EnergyLearningProfile :=
  let metrics := sourceMetrics x.source
  let changed := directionChanged profile metrics.direction
  let responseDelay := activationResponseDelay profile metrics changed x.now
  let smoothing := smoothingDelta profile metrics
  -- the averages are updated before the counts that they use
  let profile := updateAverages profile metrics responseDelay smoothing
  let profile := updateCounts profile metrics responseDelay smoothing x.period
  let profile := updateObservations profile metrics x.source
  updateActivityMarkers profile metrics changed x.now

end

end VenusEvcharger.AutoInputHelper
