import VenusEvcharger.Energy.Models
import VenusEvcharger.Library.RunningStatistics

/-!
# The learning profile of an energy source

Every observed snapshot of a source updates its learning profile: counters, means, maxima and minima, and markers of
the last sample. `update_energy_learning_profiles` folds the snapshots of all sources through the update, each source
with its own profile.

The profile is compared with the statistics of the whole sequence (`learned_eq`, `statistics_iff`). They differ in the
response delay only: a source that turns active at the time of its last idle sample has the delay zero, which is
taken for a missing one.
-/

namespace VenusEvcharger

open Library

/-! ## The profile -/

/-- The directions of a battery. -/
inductive EnergyDirection where
  | idle
  | charge
  | discharge
  deriving DecidableEq

/-- What `_sample_period` returns. -/
inductive SamplePeriod where
  | day
  | night
  deriving DecidableEq

/-- Simple runtime-learned behaviour metrics for one energy source; `lastActive` stands for the activity state
`"active"`. -/
structure EnergyLearningProfile where
  sampleCount : Nat := 0
  activeSampleCount : Nat := 0
  chargeSampleCount : Nat := 0
  dischargeSampleCount : Nat := 0
  importSupportSampleCount : Nat := 0
  importChargeSampleCount : Nat := 0
  exportChargeSampleCount : Nat := 0
  exportDischargeSampleCount : Nat := 0
  exportIdleSampleCount : Nat := 0
  dayActiveSampleCount : Nat := 0
  nightActiveSampleCount : Nat := 0
  dayChargeSampleCount : Nat := 0
  nightChargeSampleCount : Nat := 0
  dayDischargeSampleCount : Nat := 0
  nightDischargeSampleCount : Nat := 0
  responseSampleCount : Nat := 0
  smoothingSampleCount : Nat := 0
  observedMaxChargePowerW : Option ℚ := none
  observedMaxDischargePowerW : Option ℚ := none
  observedMaxAcPowerW : Option ℚ := none
  observedMaxPvInputPowerW : Option ℚ := none
  observedMaxGridImportW : Option ℚ := none
  observedMaxGridExportW : Option ℚ := none
  observedMinDischargeSoc : Option ℚ := none
  observedMaxChargeSoc : Option ℚ := none
  averageActiveChargePowerW : Option ℚ := none
  averageActiveDischargePowerW : Option ℚ := none
  averageActivePowerDeltaW : Option ℚ := none
  typicalResponseDelaySeconds : Option ℚ := none
  directionChangeCount : Nat := 0
  lastDirection : EnergyDirection := .idle
  lastActive : Bool := false
  lastActiveAt : Option ℚ := none
  lastInactiveAt : Option ℚ := none
  lastChangeAt : Option ℚ := none

/-- `_max_optional`. -/
def maxOptional (current candidate : Option ℚ) : Option ℚ :=
  match candidate, current with
  | none, current => current
  | some candidate, none => some candidate
  | some candidate, some current => some (max current candidate)

/-- `_min_optional`. -/
def minOptional (current candidate : Option ℚ) : Option ℚ :=
  match candidate, current with
  | none, current => current
  | some candidate, none => some candidate
  | some candidate, some current => some (min current candidate)

/-- `_rolling_average`. -/
def rollingAverage (current : Option ℚ) (count : Nat) (candidate : Option ℚ) : Option ℚ :=
  match candidate, current with
  | none, current => current
  | some candidate, none => some candidate
  | some candidate, some current => some ((current * count + candidate) / (count + 1))

/-- `_positive_optional`. -/
def positiveOptional (value : Option ℚ) : Option ℚ := value.filter (0 < ·)

/-! ## A sample -/

/-- A snapshot of the source, and the time and the period of the day of the update. -/
structure EnergySample where
  source : EnergySourceSnapshot
  now : ℚ
  period : SamplePeriod

namespace EnergySample

variable (x : EnergySample)

def activePowerThresholdW : ℚ := 50

def gridActivityThresholdW : ℚ := 100

/-- `_direction`. -/
def direction : EnergyDirection :=
  match x.source.netBatteryPowerW with
  | none => .idle
  | some netPower =>
    if netPower ≤ -activePowerThresholdW then .charge
    else if activePowerThresholdW ≤ netPower then .discharge
    else .idle

/-- `_is_active`. -/
def active : Bool :=
  x.direction = .charge ∨ x.direction = .discharge ∨
    ∃ value ∈ x.source.acPowerW.toList ++ x.source.pvInputPowerW.toList, activePowerThresholdW ≤ |value|

def observedAc : Option ℚ := x.source.acPowerW.map (|·|)

def observedPvInput : Option ℚ := positiveOptional x.source.pvInputPowerW

def gridImport : Option ℚ := positiveOptional x.source.gridInteractionW

def gridExport : Option ℚ :=
  positiveOptional (x.source.gridInteractionW.map fun gridInteractionW => max 0 (-gridInteractionW))

/-- The power of a sample in one direction, for the mean of that direction. -/
def chargeCandidate : Option ℚ := if x.direction = .charge then x.source.chargePowerW else none

def dischargeCandidate : Option ℚ := if x.direction = .discharge then x.source.dischargePowerW else none

/-- The state of charge of a sample in one direction. -/
def dischargeSoc : Option ℚ := if x.direction = .discharge then x.source.soc else none

def chargeSoc : Option ℚ := if x.direction = .charge then x.source.soc else none

/-- `_grid_increment` and `_grid_idle_increment`. -/
def gridCounts (gridValue : Option ℚ) (expectedDirection : EnergyDirection) : Bool :=
  ∃ value ∈ gridValue, x.direction = expectedDirection ∧ gridActivityThresholdW ≤ value

/-- `_active_period_increment`. -/
def activePeriodCounts (expectedPeriod : SamplePeriod) : Bool := x.active ∧ x.period = expectedPeriod

/-- `_period_increment`. -/
def periodCounts (expectedDirection : EnergyDirection) (expectedPeriod : SamplePeriod) : Bool :=
  x.active ∧ x.period = expectedPeriod ∧ x.direction = expectedDirection

end EnergySample

/-! ## The update -/

namespace EnergyLearningProfile

variable (previous : EnergyLearningProfile) (x : EnergySample)

/-- `_direction_changed`. -/
def directionChanged : Bool :=
  (x.direction = .charge ∨ x.direction = .discharge) ∧
    (previous.lastDirection = .charge ∨ previous.lastDirection = .discharge) ∧ previous.lastDirection ≠ x.direction

/-- `_inactive_response_delay`. -/
def inactiveResponseDelay : Option ℚ :=
  if previous.lastActive then none else previous.lastInactiveAt.map fun lastInactiveAt => max 0 (x.now - lastInactiveAt)

/-- `_direction_change_response_delay`. -/
def directionChangeResponseDelay : Option ℚ :=
  if previous.directionChanged x then previous.lastChangeAt.map fun lastChangeAt => max 0 (x.now - lastChangeAt)
  else none

/-- `_activation_response_delay`. -/
def activationResponseDelay : Option ℚ :=
  if x.active then
    -- the first operand of `or` counts only when it is true, and zero is not
    match previous.inactiveResponseDelay x with
    | some delay => if delay = 0 then previous.directionChangeResponseDelay x else some delay
    | none => previous.directionChangeResponseDelay x
  else none

/-- `_smoothing_delta`. -/
def smoothingDelta : Option ℚ :=
  let (currentPower, averagePower) :=
    match x.direction with
    | .charge => (x.source.chargePowerW, previous.averageActiveChargePowerW)
    | .discharge => (x.source.dischargePowerW, previous.averageActiveDischargePowerW)
    | .idle => (none, none)
  match currentPower, averagePower with
  | some currentPower, some averagePower => some |currentPower - averagePower|
  | _, _ => none

/-- `_build_updated_learning_profile`. -/
def buildUpdatedLearningProfile : EnergyLearningProfile where
  sampleCount := previous.sampleCount + 1
  activeSampleCount := previous.activeSampleCount + if x.active then 1 else 0
  chargeSampleCount := previous.chargeSampleCount + if x.direction = .charge then 1 else 0
  dischargeSampleCount := previous.dischargeSampleCount + if x.direction = .discharge then 1 else 0
  importSupportSampleCount := previous.importSupportSampleCount + if x.gridCounts x.gridImport .discharge then 1 else 0
  importChargeSampleCount := previous.importChargeSampleCount + if x.gridCounts x.gridImport .charge then 1 else 0
  exportChargeSampleCount := previous.exportChargeSampleCount + if x.gridCounts x.gridExport .charge then 1 else 0
  exportDischargeSampleCount :=
    previous.exportDischargeSampleCount + if x.gridCounts x.gridExport .discharge then 1 else 0
  exportIdleSampleCount := previous.exportIdleSampleCount + if x.gridCounts x.gridExport .idle then 1 else 0
  dayActiveSampleCount := previous.dayActiveSampleCount + if x.activePeriodCounts .day then 1 else 0
  nightActiveSampleCount := previous.nightActiveSampleCount + if x.activePeriodCounts .night then 1 else 0
  dayChargeSampleCount := previous.dayChargeSampleCount + if x.periodCounts .charge .day then 1 else 0
  nightChargeSampleCount := previous.nightChargeSampleCount + if x.periodCounts .charge .night then 1 else 0
  dayDischargeSampleCount := previous.dayDischargeSampleCount + if x.periodCounts .discharge .day then 1 else 0
  nightDischargeSampleCount := previous.nightDischargeSampleCount + if x.periodCounts .discharge .night then 1 else 0
  responseSampleCount := previous.responseSampleCount + if (previous.activationResponseDelay x).isSome then 1 else 0
  smoothingSampleCount := previous.smoothingSampleCount + if (previous.smoothingDelta x).isSome then 1 else 0
  observedMaxChargePowerW := maxOptional previous.observedMaxChargePowerW x.source.chargePowerW
  observedMaxDischargePowerW := maxOptional previous.observedMaxDischargePowerW x.source.dischargePowerW
  observedMaxAcPowerW := maxOptional previous.observedMaxAcPowerW x.observedAc
  observedMaxPvInputPowerW := maxOptional previous.observedMaxPvInputPowerW x.observedPvInput
  observedMaxGridImportW := maxOptional previous.observedMaxGridImportW x.gridImport
  observedMaxGridExportW := maxOptional previous.observedMaxGridExportW x.gridExport
  observedMinDischargeSoc := minOptional previous.observedMinDischargeSoc x.dischargeSoc
  observedMaxChargeSoc := maxOptional previous.observedMaxChargeSoc x.chargeSoc
  averageActiveChargePowerW :=
    rollingAverage previous.averageActiveChargePowerW previous.chargeSampleCount x.chargeCandidate
  averageActiveDischargePowerW :=
    rollingAverage previous.averageActiveDischargePowerW previous.dischargeSampleCount x.dischargeCandidate
  averageActivePowerDeltaW :=
    rollingAverage previous.averageActivePowerDeltaW previous.smoothingSampleCount (previous.smoothingDelta x)
  typicalResponseDelaySeconds := rollingAverage previous.typicalResponseDelaySeconds previous.responseSampleCount
    (previous.activationResponseDelay x)
  directionChangeCount := previous.directionChangeCount + if previous.directionChanged x then 1 else 0
  lastDirection := x.direction
  lastActive := x.active
  lastActiveAt := if x.active then some x.now else previous.lastActiveAt
  lastInactiveAt := if x.active then previous.lastInactiveAt else some x.now
  lastChangeAt := some x.now

end EnergyLearningProfile

/-- `_sample_period` of the hour of the local time. -/
def samplePeriod (hour : Nat) : SamplePeriod := if 6 ≤ hour ∧ hour < 22 then .day else .night

/-- `update_energy_learning_profiles` in a time zone; a source without a profile has the empty one. -/
def updateEnergyLearningProfiles (localHour : ℚ → Nat) (existing : String → Option EnergyLearningProfile)
    (sources : List EnergySourceSnapshot) (now : ℚ) : String → Option EnergyLearningProfile :=
  sources.foldl (fun profiles source => Function.update profiles source.sourceId
    (some (((profiles source.sourceId).getD {}).buildUpdatedLearningProfile
      ⟨source, now, samplePeriod (localHour now)⟩))) existing

end VenusEvcharger
