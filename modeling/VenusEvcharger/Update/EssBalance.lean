import VenusEvcharger.Python.Value

/-!
# The ESS balance bias

`VictronEssBalanceExecutor` steers the grid setpoint of a Victron system. While the bias tracks, the
setpoint is the base setpoint plus the output of a PID controller. When tracking is blocked, the base
setpoint is restored. Writes go through the gateway, are limited in their rate, and may be rejected.

Scope: setpoints and clock readings are finite, and so is a source count. The learning profile, the
output of the controller and the ends of the two safety holds are inputs of a call; learning,
telemetry, tuning and the metrics other than the reason and the activity are left out.
-/

namespace VenusEvcharger

open Library

/-- The settings of the bias. -/
structure EssConfig where
  enabled : Bool
  sourceId : String
  supportMode : String
  activationMode : String
  baseSetpointW : ℚ
  minUpdateSeconds : ℚ

/-- What the activation gate reads of a learning profile. -/
structure EssLearningProfile where
  siteRegime : String
  reservePhase : String

/-- `EssSetpointIntent`. -/
inductive EssSetpointIntent where
  | tracking
  | restore
deriving DecidableEq

/-- A setpoint that was handed to the gateway. -/
structure EssWrite where
  setpointW : ℚ
  intent : EssSetpointIntent
  writtenAt : ℚ
  accepted : Bool
deriving DecidableEq

/-- One call of `apply_victron_ess_balance_bias`: the service attributes it reads, the output of the
PID controller, and whether the gateway accepts a setpoint. -/
structure EssCall where
  now : ℚ
  autoModeActive : Bool
  config : EssConfig
  cluster : CommandPayload
  profile : EssLearningProfile
  overshootCooldownUntil : Option ℚ
  oscillationLockoutUntil : Option ℚ
  pidOutputW : ℚ
  gatewayAccepts : Bool

/-- The service attributes that the bias keeps, and every setpoint handed to the gateway. -/
structure EssState where
  lastWriteAt : Option ℚ
  lastSetpointW : Option ℚ
  writes : List EssWrite

/-- The metrics of a call. -/
structure EssMetrics where
  reason : String
  active : Bool

/-! ## Sources -/

section

variable [PyLib]

/-- `_normalized_text`. -/
def normalizedText (value : Option Value) : String := strip (orText value)

/-- `_victron_ess_balance_cluster_sources`. -/
def essClusterSources (cluster : CommandPayload) : List CommandPayload :=
  match cluster.get? "battery_sources" with
  | some (.list values) => values.filterMap fun value => stringMapping (some value)
  | _ => []

/-- `_victron_ess_balance_source`: the source, or the reason why there is none. -/
def essBalanceSource (cluster : CommandPayload) (config : EssConfig) :
    Except String CommandPayload :=
  let sources := essClusterSources cluster
  let configured := strip config.sourceId
  if configured ≠ "" then
    match sources.find? fun source =>
        decide (normalizedText (source.get? "source_id") = configured) with
    | some source => .ok source
    | none => .error "victron-source-not-found"
  else
    match sources.filter fun source =>
        decide (lower (normalizedText
          (source.get? "discharge_balance_control_connector_type")) = "dbus") with
    | [source] => .ok source
    | [] => .error "victron-source-not-detected"
    | _ => .error "victron-source-ambiguous"

/-- `_victron_ess_balance_source_support_allowed`. -/
def essSourceSupportAllowed (source : CommandPayload) (config : EssConfig) : Bool :=
  let support := lower (normalizedText (source.get? "discharge_balance_control_support"))
  if lower (strip config.supportMode) = "supported_only" then decide (support ∈ ["supported", ""])
  else decide (support ∈ ["supported", "experimental", ""])

/-- `_victron_ess_balance_activation_mode`. -/
def essActivationMode (config : EssConfig) : String :=
  let mode := lower (strip config.activationMode)
  if mode ∈ ["export_only", "above_reserve_band", "export_and_above_reserve_band"] then mode
  else "always"

/-- `_victron_ess_balance_activation_allowed`. -/
def essActivationAllowed (profile : EssLearningProfile) (config : EssConfig) : Bool :=
  let mode := essActivationMode config
  if mode = "always" then true
  else
    (if mode ∈ ["export_only", "export_and_above_reserve_band"] then
        decide (strip profile.siteRegime = "export")
      else true) &&
    (if mode ∈ ["above_reserve_band", "export_and_above_reserve_band"] then
        decide (strip profile.reservePhase = "above_reserve_band")
      else true)

/-! ## What blocks tracking -/

/-- `_victron_ess_balance_cluster_state`. -/
def essClusterState (call : EssCall) : Except String CommandPayload :=
  if !call.autoModeActive then .error "auto-mode-inactive"
  else
    match (call.cluster.get? "battery_discharge_balance_eligible_source_count").bind Value.number? with
    | some (.fin count) =>
      if count < 2 then .error "insufficient-eligible-sources" else .ok call.cluster
    | _ => .error "insufficient-eligible-sources"

/-- `_victron_ess_balance_resolved_source_state`. -/
def essResolvedSourceState (source : CommandPayload) (config : EssConfig) :
    Except String CommandPayload :=
  let offline := match source.get? "online" with
    | none | some .null => false
    | some online => !online.truthy
  if offline then .error "victron-source-offline"
  else if ((source.get? "discharge_balance_error_w").bind Value.number?).isNone then
    .error "victron-source-error-missing"
  else if !essSourceSupportAllowed source config then .error "victron-source-support-blocked"
  else .ok source

/-- A hold that has not run out. -/
def holdActive (until? : Option ℚ) (now : ℚ) : Bool :=
  match until? with
  | some time => decide (now < time)
  | none => false

/-- `_victron_ess_balance_safety_block_reason` and the activation gate behind it. -/
def essProfileState (call : EssCall) : Except String Unit :=
  if holdActive call.overshootCooldownUntil call.now then .error "overshoot-cooldown-active"
  else if holdActive call.oscillationLockoutUntil call.now then .error "oscillation-lockout-active"
  else if !essActivationAllowed call.profile call.config then .error "activation-mode-blocked"
  else .ok ()

/-- `_prepare_victron_ess_balance_tracking_state`: nothing, or the reason that blocks tracking. -/
def essPrepareTrackingState (call : EssCall) : Except String Unit := do
  let cluster ← essClusterState call
  let source ← essBalanceSource cluster call.config
  let _ ← essResolvedSourceState source call.config
  essProfileState call

end

/-! ## Writing -/

namespace EssState

/-- `should_write`: not within the minimum interval after the last write, and not within one watt of
the last setpoint. -/
def shouldWrite (s : EssState) (config : EssConfig) (now setpointW : ℚ) : Bool :=
  let limited := match s.lastWriteAt with
    | some time => decide (now - time < max 0 config.minUpdateSeconds)
    | none => false
  if limited then false
  else
    match s.lastSetpointW with
    | none => true
    | some last => decide (1 ≤ |setpointW - last|)

/-- `write_setpoint`, with what the caller records when the gateway accepts. -/
def writeSetpoint (s : EssState) (setpointW : ℚ) (intent : EssSetpointIntent) (now : ℚ)
    (accepted : Bool) : EssState :=
  let s := { s with writes := s.writes ++ [⟨setpointW, intent, now, accepted⟩] }
  if accepted then
    { s with
      lastWriteAt := some now
      lastSetpointW := if intent = .tracking then some setpointW else none }
  else s

/-- `_apply_victron_ess_balance_tracking`. -/
def applyTracking (s : EssState) (call : EssCall) : EssState × EssMetrics :=
  let setpointW := call.config.baseSetpointW + call.pidOutputW
  if s.shouldWrite call.config call.now setpointW then
    (s.writeSetpoint setpointW .tracking call.now call.gatewayAccepts,
      if call.gatewayAccepts then ⟨"applied", true⟩ else ⟨"write-failed", false⟩)
  else if s.lastSetpointW.isSome then (s, ⟨"holding", true⟩)
  else (s, ⟨"tracking", false⟩)

/-- `_restore_victron_ess_balance_base_setpoint`. -/
def restoreBaseSetpoint (s : EssState) (call : EssCall) (reason : String) : EssState × EssMetrics :=
  if s.lastSetpointW.isNone then (s, ⟨reason, false⟩)
  else if !s.shouldWrite call.config call.now call.config.baseSetpointW then
    (s, ⟨reason ++ "-holding", true⟩)
  else
    (s.writeSetpoint call.config.baseSetpointW .restore call.now call.gatewayAccepts,
      if call.gatewayAccepts then ⟨reason ++ "-restored", false⟩
      else ⟨reason ++ "-restore-failed", true⟩)

/-- `apply_victron_ess_balance_bias`. -/
def applyBias [PyLib] (s : EssState) (call : EssCall) : EssState × EssMetrics :=
  if !call.config.enabled then
    -- `_disable_victron_ess_balance` publishes the metrics and resets the controller.
    (s, ⟨"disabled", false⟩)
  else
    match essPrepareTrackingState call with
    | .error reason => s.restoreBaseSetpoint call reason
    | .ok () => s.applyTracking call

end EssState

end VenusEvcharger
