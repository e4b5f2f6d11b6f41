import VenusEvcharger.Core.ConfirmedRelay

/-!
# The Auto relay decision

`AutoDecisionWorkflow.auto_decide_relay` decides once per update whether the relay should be on. The
exits are taken in the order of the source: mode, enable flag and cutover; grid freshness and
recovery; the scheduled-night window; battery SOC; missing inputs; averaging; warm-up and manual
override; and at last the start or stop conditions with their timers.

Scope: readings and settings are finite. Inputs of a tick are the readings, the clock, the daytime and
night windows, the smoothing factor, the battery adjustment of the averaged surplus, and the surplus
thresholds. Metrics, the audit log and the persistence of the runtime state are left out.
-/

namespace VenusEvcharger

/-- The reasons that `set_health` is called with; some of them are also keys of a delayed stop. -/
inductive HealthReason where
  | disabled
  | modeTransition
  | gridMissing
  | waitingGridRecovery
  | batterySocMissing
  | batterySocMissingAllowed
  | inputsMissing
  | averaging
  | warmup
  | manualOverride
  | running
  | nightLock
  | autoStop
  | autoStopSoc
  | autoStopGrid
  | autoStopSurplus
  | autostartDisabled
  | autoStart
  | waitingOfftime
  | waitingDaytime
  | waitingSurplus
  | waitingGrid
  | waitingSoc
  | waiting
  | scheduledNightCharge
deriving DecidableEq

/-- One entry of the averaging buffer. -/
structure AutoSample where
  takenAt : ℚ
  surplusPower : ℚ
  gridPower : ℚ

/-- The thresholds of the Auto policy that the decision reads. -/
structure AutoPolicy where
  minSoc : ℚ
  resumeSoc : ℚ
  startMaxGridImportWatts : ℚ
  stopGridImportWatts : ℚ
  gridRecoveryStartSeconds : ℚ
  stopSurplusDelaySeconds : ℚ

/-- The service attributes of the Auto decision. -/
structure AutoService where
  virtualMode : Nat
  virtualEnable : Bool
  virtualAutostart : Bool
  autoModeCutoverPending : Bool
  ignoreMinOfftimeOnce : Bool
  autoStartConditionSince : Option ℚ
  autoStopConditionSince : Option ℚ
  autoStopConditionReason : Option HealthReason
  gridRecoveryRequired : Bool
  gridRecoverySince : Option ℚ
  autoSamples : List AutoSample
  stopSmoothedSurplusPower : Option ℚ
  stopSmoothedGridPower : Option ℚ
  lastHealthReason : Option HealthReason
  lastGridAt : Option ℚ
  relayLastChangedAt : Option ℚ
  relayLastOffAt : Option ℚ
  startedAt : ℚ
  manualOverrideUntil : ℚ
  confirmed : ConfirmedRelay
  pendingRelayCommand : Option Bool
  relaySyncRequestedAt : Option ℚ
  autoPolicy : AutoPolicy
  autoAllowWithoutBatterySoc : Bool
  autoNightLockStop : Bool
  autoGridMissingStopSeconds : ℚ
  autoMinRuntimeSeconds : ℚ
  autoMinOfftimeSeconds : ℚ
  autoStartDelaySeconds : ℚ
  autoStopDelaySeconds : ℚ
  autoStartupWarmupSeconds : ℚ
  /-- Clamped to be non-negative when the configuration is validated. -/
  autoAverageWindowSeconds : ℚ≥0

/-- The inputs of one tick. -/
structure AutoTick where
  now : ℚ
  /-- The clock when the cutover is checked, which reads it a second time. -/
  cutoverNow : ℚ
  relayOn : Bool
  pvPower : Option ℚ
  batterySoc : Option ℚ
  gridPower : Option ℚ
  /-- `is_within_auto_daytime_window`. -/
  daytimeWindowOpen : Bool
  /-- `night_boost_active` of the schedule at this time. -/
  nightBoostActive : Bool
  /-- The smoothing factor of `_adaptive_stop_alpha`. -/
  stopAlpha : ℚ
  /-- The battery-adjusted surplus for a smoothed surplus. -/
  batteryAdjustedSurplus : ℚ → ℚ
  /-- The start and stop thresholds of `_surplus_thresholds_for_soc`. -/
  surplusThresholds : ℚ → ℚ × ℚ

namespace AutoService

/-! ## Samples and tracking -/

section

variable (s : AutoService)

def setHealth (reason : HealthReason) : AutoService :=
  { s with lastHealthReason := some reason }

def clearAutoSamples : AutoService :=
  { s with
    autoSamples := []
    stopSmoothedSurplusPower := none
    stopSmoothedGridPower := none }

def resetAutoState : AutoService :=
  clearAutoSamples
    { s with
      autoStartConditionSince := none
      autoStopConditionSince := none
      autoStopConditionReason := none }

def clearAutoStartTracking (clearSamples : Bool) : AutoService :=
  let s := { s with autoStartConditionSince := none }
  if clearSamples then s.clearAutoSamples else s

def clearAutoStopTracking : AutoService :=
  { s with
    autoStopConditionSince := none
    autoStopConditionReason := none }

/-- `clear_auto_decision_tracking`. -/
def clearAutoDecisionTracking : AutoService :=
  { s with
    autoStartConditionSince := none
    autoStopConditionSince := none
    autoStopConditionReason := none }

/-- `_idle_result_with_health`: it clears the start timer and leaves the stop timer. -/
def idleResultWithHealth (reason : HealthReason) : AutoService × Bool :=
  ((s.clearAutoStartTracking false).setHealth reason, false)

/-- `_running_result_with_health`: it clears the stop timer and leaves the start timer. -/
def runningResultWithHealth (reason : HealthReason) : AutoService × Bool :=
  (s.clearAutoStopTracking.setHealth reason, true)

end

def getAvailableSurplusWatts (pvPower gridPower : ℚ) : ℚ :=
  min (max 0 pvPower) (max 0 (-gridPower))

def addAutoSample (s : AutoService) (now surplusPower gridPower : ℚ) : AutoService :=
  { s with
    autoSamples := (s.autoSamples ++ [AutoSample.mk now surplusPower gridPower]).dropWhile
      fun sample => decide (sample.takenAt < now - s.autoAverageWindowSeconds) }

def averageAutoMetric (s : AutoService) (field : AutoSample → ℚ) : Option ℚ :=
  if s.autoSamples.isEmpty then none
  else some ((s.autoSamples.map field).sum / s.autoSamples.length)

def smoothMetric (previous : Option ℚ) (current alpha : ℚ) : ℚ :=
  match previous with
  | none => current
  | some previous => previous + alpha * (current - previous)

section

variable (s : AutoService)

/-- `_smoothed_decision_metrics`: only the metrics of a running relay are smoothed. -/
def smoothedDecisionMetrics (relayOn : Bool) (surplus grid alpha : ℚ) :
    AutoService × ℚ × ℚ :=
  if relayOn then
    let surplus := smoothMetric s.stopSmoothedSurplusPower surplus alpha
    let grid := smoothMetric s.stopSmoothedGridPower grid alpha
    ({ s with
        stopSmoothedSurplusPower := some surplus
        stopSmoothedGridPower := some grid }, surplus, grid)
  else
    ({ s with
        stopSmoothedSurplusPower := none
        stopSmoothedGridPower := none }, surplus, grid)

/-- `update_average_metrics`: the surplus and the grid power to decide with. -/
def updateAverageMetrics (tick : AutoTick) (pvPower gridPower : ℚ) :
    AutoService × Option (ℚ × ℚ) :=
  let s := s.addAutoSample tick.now (getAvailableSurplusWatts pvPower gridPower) gridPower
  match s.averageAutoMetric (·.surplusPower), s.averageAutoMetric (·.gridPower) with
  | some surplus, some grid =>
    let (s, surplus, grid) := s.smoothedDecisionMetrics tick.relayOn surplus grid tick.stopAlpha
    (s, some (tick.batteryAdjustedSurplus surplus, grid))
  | _, _ => (s, none)

/-- `scheduled_night_charge_active`: mode 2 is the scheduled mode. -/
def scheduledNightChargeActive (tick : AutoTick) : Bool :=
  decide (s.virtualMode = 2) && tick.nightBoostActive

/-- `mode_uses_auto_logic`. -/
def modeUsesAutoLogic : Bool := decide (s.virtualMode = 1 ∨ s.virtualMode = 2)

/-! ## Runtime gates

A gate returns `none` (`NO_RELAY_DECISION`) when the decision goes on. -/

def minimumRuntimeElapsed (now : ℚ) : Bool :=
  match s.relayLastChangedAt with
  | none => true
  | some changedAt => decide (s.autoMinRuntimeSeconds ≤ now - changedAt)

def minimumOfftimeElapsed (now : ℚ) : Bool :=
  if s.ignoreMinOfftimeOnce then true
  else
    match s.relayLastOffAt with
    | none => true
    | some offAt => decide (s.autoMinOfftimeSeconds ≤ now - offAt)

def gridRecentlyRead (tick : AutoTick) : Bool :=
  match s.lastGridAt with
  | none => tick.gridPower.isSome
  | some readAt => decide (tick.now - readAt ≤ s.autoGridMissingStopSeconds)

def resetModeCutover : AutoService :=
  { s with
    autoModeCutoverPending := false
    ignoreMinOfftimeOnce := false }

def completeModeCutover : AutoService :=
  { s with
    autoModeCutoverPending := false
    ignoreMinOfftimeOnce := true }

def handleNonAutoMode (relayOn : Bool) : AutoService × Bool :=
  (s.resetAutoState.resetModeCutover, relayOn)

def handleDisabledMode : AutoService × Bool :=
  (s.resetAutoState.resetModeCutover.setHealth .disabled, false)

def cutoverRelayOffConfirmed (tick : AutoTick) : Bool :=
  s.confirmed.cutoverConfirmedOff tick.relayOn s.pendingRelayCommand s.relaySyncRequestedAt
    tick.cutoverNow

def handleCutoverPending (tick : AutoTick) : AutoService × Option Bool :=
  if !s.autoModeCutoverPending then (s, none)
  else
    let s := s.resetAutoState
    if !s.cutoverRelayOffConfirmed tick then (s.setHealth .modeTransition, some false)
    else (s.completeModeCutover, none)

/-- `resolve_battery_soc`: the SOC to decide with, or the decision when it is missing. -/
def resolveBatterySoc (tick : AutoTick) : AutoService × Except Bool ℚ :=
  match tick.batterySoc.filter fun soc => decide (0 ≤ soc ∧ soc ≤ 100) with
  | some soc => (s, .ok soc)
  | none =>
    if s.autoAllowWithoutBatterySoc then
      (s.setHealth .batterySocMissingAllowed, .ok s.autoPolicy.resumeSoc)
    else (s.resetAutoState.setHealth .batterySocMissing, .error tick.relayOn)

/-- `_reset_stop_tracking` with `_stop_tracking_needs_reset`: `none` when the timer goes on. -/
def resetStopTracking (now : ℚ) (key : HealthReason) : Option AutoService :=
  if s.autoStopConditionSince.isNone ||
      (match s.autoStopConditionReason with | none => false | some current => current ≠ key) then
    some { s with
      autoStopConditionSince := some now
      autoStopConditionReason := some key }
  else none

def ensureStopTrackingReason (key : HealthReason) : AutoService :=
  { s with autoStopConditionReason := some (s.autoStopConditionReason.getD key) }

/-- `_pending_stop_or_running` with `_arm_or_fire_stop`: arm or keep the timer of the stop key and
stop once the delay is over. -/
def pendingStopOrRunning (now : ℚ) (stopReason runningReason : HealthReason)
    (delaySeconds : Option ℚ) (stopKey : Option HealthReason) : AutoService × Bool :=
  let key := stopKey.getD stopReason
  match s.resetStopTracking now key with
  | some armed => (armed.setHealth runningReason, true)
  | none =>
    let s := s.ensureStopTrackingReason key
    match s.autoStopConditionSince with
    | some since =>
      if now - since < delaySeconds.getD s.autoStopDelaySeconds then (s.setHealth runningReason, true)
      else (s.setHealth stopReason, false)
    | none => (s.setHealth runningReason, true)

def handleGridMissing (tick : AutoTick) : AutoService × Bool :=
  let s := s.clearAutoStartTracking true
  let s := { s with gridRecoveryRequired := true, gridRecoverySince := none }
  if !tick.relayOn then s.idleResultWithHealth .gridMissing
  else if !s.minimumRuntimeElapsed tick.now then s.runningResultWithHealth .gridMissing
  else s.pendingStopOrRunning tick.now .gridMissing .gridMissing none none

def gridRecoveryWaitDecision (tick : AutoTick) : AutoService × Option Bool :=
  if tick.relayOn then (s, none)
  else ((s.clearAutoStartTracking false).setHealth .waitingGridRecovery, some false)

def handleGridRecoveryStartGate (tick : AutoTick) : AutoService × Option Bool :=
  if !s.gridRecoveryRequired then (s, none)
  else
    let recoverySeconds := s.autoPolicy.gridRecoveryStartSeconds
    if recoverySeconds ≤ 0 then
      ({ s with gridRecoverySince := some tick.now, gridRecoveryRequired := false }, none)
    else
      match s.gridRecoverySince with
      | some since =>
        if tick.now - since < recoverySeconds then s.gridRecoveryWaitDecision tick
        else ({ s with gridRecoveryRequired := false }, none)
      | none => { s with gridRecoverySince := some tick.now }.gridRecoveryWaitDecision tick

def policyStopReason (batterySoc : ℚ) (gridPower : Option ℚ) :
    Option HealthReason :=
  if batterySoc < s.autoPolicy.minSoc then some .autoStop
  else
    match gridPower with
    | some grid => if s.autoPolicy.stopGridImportWatts ≤ grid then some .autoStop else none
    | none => none

/-- `_known_missing_input_stop_reason`: the night lock stops here when it is configured, at any time
of day, or when the window is closed. -/
def knownMissingInputStopReason (batterySoc : ℚ) (gridPower : Option ℚ)
    (daytimeWindowOpen : Bool) : Option HealthReason :=
  if s.autoNightLockStop || !daytimeWindowOpen then some .nightLock
  else s.policyStopReason batterySoc gridPower

def handleMissingInputs (tick : AutoTick) (batterySoc : ℚ) : AutoService × Bool :=
  let s := s.clearAutoStartTracking true
  if !tick.relayOn then s.idleResultWithHealth .inputsMissing
  else
    match s.knownMissingInputStopReason batterySoc tick.gridPower tick.daytimeWindowOpen with
    | some reason =>
      if !s.minimumRuntimeElapsed tick.now then s.runningResultWithHealth .inputsMissing
      else s.pendingStopOrRunning tick.now reason .inputsMissing none none
    | none => s.runningResultWithHealth .inputsMissing

def handleCommonRuntimeGates (tick : AutoTick) : AutoService × Option Bool :=
  if tick.now - s.startedAt < s.autoStartupWarmupSeconds then
    (s.resetAutoState.setHealth .warmup, some tick.relayOn)
  else if tick.now < s.manualOverrideUntil then
    (s.resetAutoState.setHealth .manualOverride, some tick.relayOn)
  else (s, none)

/-! ## Start and stop -/

def policyRelayOnStopReason (tick : AutoTick) (surplus grid batterySoc : ℚ) :
    Option HealthReason :=
  if batterySoc < s.autoPolicy.minSoc then some .autoStopSoc
  else if s.autoPolicy.stopGridImportWatts ≤ grid then some .autoStopGrid
  else if surplus ≤ (tick.surplusThresholds batterySoc).2 then some .autoStopSurplus
  else none

def relayOnStopReason (tick : AutoTick) (surplus grid batterySoc : ℚ) :
    Option HealthReason :=
  if !s.minimumRuntimeElapsed tick.now then none
  else if s.autoNightLockStop && !tick.daytimeWindowOpen then some .nightLock
  else s.policyRelayOnStopReason tick surplus grid batterySoc

/-- The delay that `handle_relay_on` passes for a stop reason. -/
def relayOnStopDelay (stopReason : HealthReason) : Option ℚ :=
  if stopReason = .autoStopSurplus then some s.autoPolicy.stopSurplusDelaySeconds else none

def handleRelayOn (tick : AutoTick) (surplus grid batterySoc : ℚ) :
    AutoService × Bool :=
  let s := { s with autoStartConditionSince := none }
  match s.relayOnStopReason tick surplus grid batterySoc with
  | none => s.runningResultWithHealth .running
  | some stopReason =>
    let reported :=
      if stopReason ∈ [.autoStopSurplus, .autoStopGrid, .autoStopSoc] then .autoStop else stopReason
    s.pendingStopOrRunning tick.now reported .running (s.relayOnStopDelay stopReason)
      (some stopReason)

def relayOffStartConditionsMet (tick : AutoTick) (surplus grid batterySoc : ℚ) :
    Bool :=
  s.minimumOfftimeElapsed tick.now && tick.daytimeWindowOpen &&
    decide ((tick.surplusThresholds batterySoc).1 ≤ surplus) &&
    decide (grid ≤ s.autoPolicy.startMaxGridImportWatts) &&
    decide (s.autoPolicy.resumeSoc ≤ batterySoc)

/-- `_arm_or_fire_start`: the timer stays armed when it fires. -/
def armOrFireStart (now : ℚ) : AutoService × Bool :=
  match s.autoStartConditionSince with
  | none => ({ s with autoStartConditionSince := some now }, false)
  | some since =>
    if s.autoStartDelaySeconds ≤ now - since then
      ({ s with ignoreMinOfftimeOnce := false }.setHealth .autoStart, true)
    else (s, false)

def waitingHealthReason (tick : AutoTick) (surplus grid batterySoc : ℚ) :
    HealthReason :=
  if !s.minimumOfftimeElapsed tick.now then .waitingOfftime
  else if !tick.daytimeWindowOpen then .waitingDaytime
  else if surplus < (tick.surplusThresholds batterySoc).1 then .waitingSurplus
  else if s.autoPolicy.startMaxGridImportWatts < grid then .waitingGrid
  else if batterySoc < s.autoPolicy.resumeSoc then .waitingSoc
  else .waiting

def handleRelayOff (tick : AutoTick) (surplus grid batterySoc : ℚ) :
    AutoService × Bool :=
  let s := { s with autoStopConditionSince := none }
  if !s.virtualAutostart then s.idleResultWithHealth .autostartDisabled
  else if s.relayOffStartConditionsMet tick surplus grid batterySoc then s.armOrFireStart tick.now
  else
    ((s.clearAutoStartTracking false).setHealth (s.waitingHealthReason tick surplus grid batterySoc),
      false)

/-- `_scheduled_night_blocked_health`. -/
def scheduledNightBlockedHealth (now : ℚ) : Option HealthReason :=
  if !s.virtualAutostart then some .autostartDisabled
  else if !s.minimumOfftimeElapsed now then some .waitingOfftime
  else none

def scheduledNightDecision (tick : AutoTick) : AutoService × Bool :=
  match s.handleCommonRuntimeGates tick with
  | (s, some decision) => (s, decision)
  | (s, none) =>
    if tick.relayOn then s.clearAutoDecisionTracking.runningResultWithHealth .scheduledNightCharge
    else
      match s.scheduledNightBlockedHealth tick.now with
      | some blocked => s.idleResultWithHealth blocked
      | none => s.clearAutoDecisionTracking.runningResultWithHealth .scheduledNightCharge

/-! ## The decision -/

def preAverageModeDecision (tick : AutoTick) : AutoService × Option Bool :=
  if !s.modeUsesAutoLogic then
    let (s, decision) := s.handleNonAutoMode tick.relayOn
    (s, some decision)
  else if !s.virtualEnable then
    let (s, decision) := s.handleDisabledMode
    (s, some decision)
  else s.handleCutoverPending tick

def preAverageInputGateDecision (tick : AutoTick) : AutoService × Option Bool :=
  if s.scheduledNightChargeActive tick then (s, none)
  else if !s.gridRecentlyRead tick then
    let (s, decision) := s.handleGridMissing tick
    (s, some decision)
  else s.handleGridRecoveryStartGate tick

/-- `_decision_from_averages`. -/
def decisionFromAverages (tick : AutoTick) (surplus grid batterySoc : ℚ) :
    AutoService × Bool :=
  match s.handleCommonRuntimeGates tick with
  | (s, some decision) => (s, decision)
  | (s, none) =>
    if tick.relayOn then s.handleRelayOn tick surplus grid batterySoc
    else s.handleRelayOff tick surplus grid batterySoc

/-- The decision once the mode, the grid and the SOC have let it pass. -/
def decisionFromInputs (tick : AutoTick) (batterySoc : ℚ) : AutoService × Bool :=
  match tick.pvPower, tick.gridPower with
  | some pvPower, some gridPower =>
    match s.updateAverageMetrics tick pvPower gridPower with
    | (s, some (surplus, grid)) => s.decisionFromAverages tick surplus grid batterySoc
    | (s, none) => (s.setHealth .averaging, tick.relayOn)
  | _, _ => s.handleMissingInputs tick batterySoc

/-- `auto_decide_relay`. -/
def autoDecideRelay (tick : AutoTick) : AutoService × Bool :=
  match s.preAverageModeDecision tick with
  | (s, some decision) => (s, decision)
  | (s, none) =>
    match s.preAverageInputGateDecision tick with
    | (s, some decision) => (s, decision)
    | (s, none) =>
      if s.scheduledNightChargeActive tick then s.scheduledNightDecision tick
      else
        match s.resolveBatterySoc tick with
        | (s, .error decision) => (s, decision)
        | (s, .ok batterySoc) => s.decisionFromInputs tick batterySoc

end

end AutoService

end VenusEvcharger
