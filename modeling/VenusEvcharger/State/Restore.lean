import VenusEvcharger.State.RuntimeState

/-!
# Restoring the runtime state

`RuntimeStateRestorer` and `VictronEssRuntimeRestorer`: a document is applied to the attributes one group after the
other. A field that the document leaves out keeps the attribute, and a value that cannot be used is normalised. The
conversions that this takes raise on two kinds of value only, an infinite float where an integer is wanted and an integer
beyond the float range where a float is wanted, so whether `restore` returns is a condition on the fields it reads.
-/

namespace VenusEvcharger.State

open Library

/-- `string_key_items(value)`: the entries of an object, and nothing for other values. -/
def stringKeyItems : Value → JsonObject
  | .obj es => es
  | _ => []

variable [PyRuntime]

/-! ## `RuntimeStateRestorer` -/

/-- `_restore_basic_runtime_state`. -/
def restoreBasicRuntimeState (basic : BasicAttrs) (state : JsonObject) : Except PyError BasicAttrs := do
  let virtualMode ← normalizeMode (state.get "mode" (.int basic.virtualMode))
  let virtualAutostart ← coerceRuntimeInt (state.get "autostart") basic.virtualAutostart
  let virtualEnable ← coerceRuntimeInt (state.get "enable") basic.virtualEnable
  let virtualStartstop ← coerceRuntimeInt (state.get "startstop") basic.virtualStartstop
  let manualOverrideUntil ← coerceRuntimeFloat (state.get "manual_override_until") basic.manualOverrideUntil
  let cutover ← coerceRuntimeInt (state.get "auto_mode_cutover_pending") (if basic.autoModeCutoverPending then 1 else 0)
  return { virtualMode, virtualAutostart, virtualEnable, virtualStartstop, manualOverrideUntil
           autoModeCutoverPending := cutover ≠ 0
           ignoreMinOfftimeOnce := false }

/-- `_restore_learned_charge_power_state`. -/
def restoreLearnedChargePowerState (learned : LearnedAttrs) (state : JsonObject) (now : ℚ) :
    Except PyError LearnedAttrs := do
  let watts ← nonNegativeFloatOrNone (state.get "learned_charge_power_watts" (ofFloat? learned.watts))
  let updatedAt ← optionalPastTime (state.get "learned_charge_power_updated_at" (ofFloat? learned.updatedAt)) now
  let learningSince ←
    optionalPastTime (state.get "learned_charge_power_learning_since" (ofFloat? learned.learningSince)) now
  let sampleCount ← nonNegativeInt (state.get "learned_charge_power_sample_count" (.int learned.sampleCount))
  let voltage ← nonNegativeFloatOrNone (state.get "learned_charge_power_voltage" (ofFloat? learned.voltage))
  let signatureMismatchSessions ←
    nonNegativeInt
      (state.get "learned_charge_power_signature_mismatch_sessions" (.int learned.signatureMismatchSessions))
  let signatureCheckedSessionStartedAt ←
    optionalPastTime
      (state.get "learned_charge_power_signature_checked_session_started_at"
        (ofFloat? learned.signatureCheckedSessionStartedAt)) now
  return { watts, updatedAt, learningSince, sampleCount, voltage, signatureMismatchSessions
           signatureCheckedSessionStartedAt
           state := learnedChargePowerState (state.get "learned_charge_power_state" (.str learned.state.text))
           phase := learnedChargePowerPhase
             (state.get "learned_charge_power_phase" (ofText? (learned.phase.map LearnedPhase.text))) }

/-- `_normalized_phase_switch_mismatch_counts`. -/
def normalizedPhaseSwitchMismatchCounts (rawCounts : Value) (default : PhaseSelection) :
    Except PyError (Dict PhaseSelection Nat) :=
  (stringKeyItems rawCounts).foldlM (fun counts raw => do
    let count ← nonNegativeInt raw.2
    return counts.set (phaseSelection (.str raw.1) default) count) Dict.empty

/-- The last step of `_restore_phase_switch_runtime_state`: a switch without state or selection is dropped. -/
def clearIdleSwitch (phase : PhaseAttrs) : PhaseAttrs :=
  if phase.state = none ∨ phase.pendingSelection = none then
    { phase with
      pendingSelection := none
      state := none
      requestedAt := none
      stableUntil := none
      resumeRelay := false }
  else phase

/-- `_restore_phase_switch_runtime_state`. -/
def restorePhaseSwitchRuntimeState (phase : PhaseAttrs) (state : JsonObject) (now : ℚ) : Except PyError PhaseAttrs := do
  let supported := State.supportedPhaseSelections
    (state.get "supported_phase_selections" (supportedPhasesValue phase.supportedPhaseSelections))
  let requested := phaseSelection
    (state.get "requested_phase_selection" (.str (phaseText phase.requestedPhaseSelection))) supported.first
  let selection (key : String) (attr : Option PhaseSelection) : Option PhaseSelection :=
    optionalPhaseSelection (state.get key (ofText? (attr.map phaseText))) requested
  let requestedAt ← optionalPastTime (state.get "phase_switch_requested_at" (ofFloat? phase.requestedAt)) now
  let stableUntil ← optionalFloat (state.get "phase_switch_stable_until" (ofFloat? phase.stableUntil))
  let resumeRelay ← coerceRuntimeInt (state.get "phase_switch_resume_relay") (if phase.resumeRelay then 1 else 0)
  let mismatchCounts ←
    normalizedPhaseSwitchMismatchCounts
      (state.get "phase_switch_mismatch_counts" (countsValue phaseText phase.mismatchCounts)) requested
  let lastMismatchAt ← optionalPastTime (state.get "phase_switch_last_mismatch_at" (ofFloat? phase.lastMismatchAt)) now
  let lockoutAt ← optionalPastTime (state.get "phase_switch_lockout_at" (ofFloat? phase.lockoutAt)) now
  let lockoutUntil ← optionalFloat (state.get "phase_switch_lockout_until" (ofFloat? phase.lockoutUntil))
  return clearIdleSwitch
    { supportedPhaseSelections := supported
      requestedPhaseSelection := requested
      activePhaseSelection :=
        phaseSelection (state.get "active_phase_selection" (.str (phaseText phase.activePhaseSelection))) requested
      pendingSelection := selection "phase_switch_pending_selection" phase.pendingSelection
      state := phaseSwitchState (state.get "phase_switch_state" (ofText? (phase.state.map switchStateText)))
      requestedAt, stableUntil, mismatchCounts, lastMismatchAt, lockoutAt, lockoutUntil
      resumeRelay := resumeRelay ≠ 0
      lastMismatchSelection := selection "phase_switch_last_mismatch_selection" phase.lastMismatchSelection
      lockoutSelection := selection "phase_switch_lockout_selection" phase.lockoutSelection
      lockoutReason := orText (some (state.get "phase_switch_lockout_reason" (.str phase.lockoutReason))) }

/-- The two reasons that are restored. -/
def contactorFault (reason : String) : Option ContactorFault :=
  if reason = "contactor-suspected-open" then some .suspectedOpen
  else if reason = "contactor-suspected-welded" then some .suspectedWelded
  else none

/-- `RuntimeStateRestorer._normalized_contactor_fault_counts`. -/
def normalizedContactorFaultCounts (rawCounts : Value) : Except PyError (Dict ContactorFault Nat) :=
  (stringKeyItems rawCounts).foldlM (fun counts raw =>
    match contactorFault (strip raw.1) with
    | none => .ok counts
    | some reason => counts.set reason <$> nonNegativeInt raw.2) Dict.empty

/-- `_normalized_contactor_fault_reason`. -/
def normalizedContactorFaultReason : Value → Option ContactorFault
  | .str reason => contactorFault (strip reason)
  | _ => none

/-- `_restore_contactor_runtime_state`. -/
def restoreContactorRuntimeState (contactor : ContactorAttrs) (state : JsonObject) (now : ℚ) :
    Except PyError ContactorAttrs := do
  let faultCounts ←
    normalizedContactorFaultCounts (state.get "contactor_fault_counts" (countsValue faultText contactor.faultCounts))
  let faultActiveSince ←
    optionalPastTime (state.get "contactor_fault_active_since" (ofFloat? contactor.faultActiveSince)) now
  let lockoutAt ← optionalPastTime (state.get "contactor_lockout_at" (ofFloat? contactor.lockoutAt)) now
  return { faultCounts, faultActiveSince, lockoutAt
           faultActiveReason := normalizedContactorFaultReason
             (state.get "contactor_fault_active_reason" (ofText? (contactor.faultActiveReason.map faultText)))
           lockoutReason := normalizedContactorFaultReason
             (state.get "contactor_lockout_reason" (.str ((contactor.lockoutReason.map faultText).getD "")))
           lockoutSource := orText (some (state.get "contactor_lockout_source" (.str contactor.lockoutSource))) }

/-- `_restore_relay_runtime_state`. -/
def restoreRelayRuntimeState (relay : RelayAttrs) (state : JsonObject) (now : ℚ) : Except PyError RelayAttrs := do
  let relayLastChangedAt ←
    optionalPastTime (state.get "relay_last_changed_at" (ofFloat? relay.relayLastChangedAt)) now
  let relayLastOffAt ← optionalPastTime (state.get "relay_last_off_at" (ofFloat? relay.relayLastOffAt)) now
  return { relayLastChangedAt, relayLastOffAt }

/-! ## `VictronEssRuntimeRestorer` -/

/-- `_valid_victron_ess_balance_schema_version`. -/
def validSchemaVersion (payload : JsonObject) : Except PyError Bool :=
  (fun version => version = 1 || version = 2) <$> nonNegativeInt (payload.get "schema_version")

/-- `_victron_ess_balance_payload_matches_topology`. -/
def payloadMatchesTopology (topology : EssTopology) (payload : JsonObject) : Bool :=
  let sourceId := strip (orText (some (payload.get "source_id" (.str topology.sourceId))))
  match payload.get "topology_key" with
  | .null => false
  | rawTopologyKey => strip rawTopologyKey.text = topology.runtimeTopologyKey sourceId

/-- `_normalized_victron_ess_balance_learning_text`. -/
def learningText (rawProfile : JsonObject) (key : String) (fallbackKey : Option String := none) : String :=
  match rawProfile.lookup key, fallbackKey with
  | some text, _ => orText (some text)
  | none, some fallbackKey => orText (rawProfile.lookup fallbackKey)
  | none, none => ""

/-- `_normalized_victron_ess_balance_learning_metric`. -/
def learningMetric (rawProfile : JsonObject) (key : String) (fallbackKey : Option String := none) :
    Except PyError (Option ℚ) :=
  match fallbackKey with
  | none => nonNegativeFloatOrNone (rawProfile.get key)
  | some fallbackKey => nonNegativeFloatOrNone (rawProfile.get key (rawProfile.get fallbackKey))

/-- `_normalized_victron_ess_balance_learning_phase`. -/
def learningPhase (rawProfile : JsonObject) (key fallback : String) : String :=
  if (rawProfile.get key).truthy then (rawProfile.get key).text else fallback

/-- `_normalized_victron_ess_balance_learning_profile`. -/
def normalizedLearningProfile (profileKey : String) (rawProfile : JsonObject) : Except PyError LearningProfile := do
  let delaySamples ← nonNegativeInt (rawProfile.get "delay_samples")
  let gainSamples ← nonNegativeInt (rawProfile.get "gain_samples")
  let responseDelaySeconds ← learningMetric rawProfile "response_delay_seconds" (some "typical_response_delay_seconds")
  let estimatedGain ← learningMetric rawProfile "estimated_gain" (some "effective_gain")
  let responseDelayMadSeconds ← learningMetric rawProfile "response_delay_mad_seconds"
  let gainMad ← learningMetric rawProfile "gain_mad"
  let overshootCount ← nonNegativeInt (rawProfile.get "overshoot_count")
  let settledCount ← nonNegativeInt (rawProfile.get "settled_count")
  let stabilityScore ← learningMetric rawProfile "stability_score"
  let regimeConsistencyScore ← learningMetric rawProfile "regime_consistency_score"
  let responseVarianceScore ← learningMetric rawProfile "response_variance_score"
  let reproducibilityScore ← learningMetric rawProfile "reproducibility_score"
  let safeRampRateWattsPerSecond ← learningMetric rawProfile "safe_ramp_rate_watts_per_second"
  let preferredBiasLimitWatts ← learningMetric rawProfile "preferred_bias_limit_watts"
  return { delaySamples, gainSamples, responseDelaySeconds, estimatedGain, responseDelayMadSeconds, gainMad
           overshootCount, settledCount, stabilityScore, regimeConsistencyScore, responseVarianceScore
           reproducibilityScore, safeRampRateWattsPerSecond, preferredBiasLimitWatts
           key := profileKey
           actionDirection := learningText rawProfile "action_direction"
           siteRegime := learningText rawProfile "site_regime" (some "direction")
           direction := learningText rawProfile "direction" (some "site_regime")
           dayPhase := learningText rawProfile "day_phase"
           reservePhase := learningText rawProfile "reserve_phase"
           evPhase := learningPhase rawProfile "ev_phase" "ev_idle"
           pvPhase := learningPhase rawProfile "pv_phase" "pv_weak"
           batteryLimitPhase := learningPhase rawProfile "battery_limit_phase" "mid_band" }

omit [PyRuntime] in
/-- The guards of `_normalized_victron_ess_balance_learning_profile_entry`: an entry without key or without object is
skipped. -/
def profileEntry (raw : String × Value) : Option (String × JsonObject) :=
  if strip raw.1 = "" then none
  else
    match raw.2 with
    | .obj rawProfile => some (strip raw.1, rawProfile)
    | _ => none

/-- `_normalized_victron_ess_balance_learning_profiles`. -/
def normalizedLearningProfiles (rawProfiles : JsonObject) : Except PyError (Dict String LearningProfile) :=
  (rawProfiles.filterMap profileEntry).foldlM (fun profiles entry =>
    profiles.set entry.1 <$> normalizedLearningProfile entry.1 entry.2) Dict.empty

/-- `_restore_victron_ess_balance_learning_state_payload`. -/
def restoreLearningStatePayload (topology : EssTopology) (profiles : Dict String LearningProfile) (payload : JsonObject) :
    Except PyError (Dict String LearningProfile) := do
  let valid ← validSchemaVersion payload
  if valid && payloadMatchesTopology topology payload then
    match payload.get "profiles" with
    | .obj rawProfiles => normalizedLearningProfiles rawProfiles
    | _ => return profiles
  else return profiles

/-- `_restore_victron_ess_balance_pid_value`. -/
def pidValue (payload : JsonObject) (key : String) : Except PyError ℚ :=
  (fun normalized => normalized.getD 0) <$> nonNegativeFloatOrNone (payload.get key)

/-- `_victron_ess_balance_activation_mode`. -/
def restoredActivationMode (tuning : TuningAttrs) (payload : JsonObject) : Option String :=
  match payload.get "activation_mode" (.str tuning.activationMode) with
  | .null => some "always"
  | rawMode =>
    let mode := lower (strip rawMode.text)
    if strip rawMode.text = "" then some "always"
    else if mode ∈ ["always", "export_only", "above_reserve_band", "export_and_above_reserve_band"] then some mode
    else none

/-- `_restore_victron_ess_balance_pid_tuning` and the activation mode. -/
def restorePidTuning (tuning : TuningAttrs) (payload : JsonObject) : Except PyError TuningAttrs := do
  let kp ← pidValue payload "kp"
  let ki ← pidValue payload "ki"
  let kd ← pidValue payload "kd"
  let deadbandWatts ← pidValue payload "deadband_watts"
  let maxAbsWatts ← pidValue payload "max_abs_watts"
  let rampRateWattsPerSecond ← pidValue payload "ramp_rate_watts_per_second"
  return { kp, ki, kd, deadbandWatts, maxAbsWatts, rampRateWattsPerSecond
           activationMode := (restoredActivationMode tuning payload).getD tuning.activationMode }

/-- The fields of `_restore_victron_ess_balance_auto_apply_state` and `_suspend_state` that concern automatic tuning. -/
def restoreAutoApplyState (autoApply : AutoApplyAttrs) (payload : JsonObject) : Except PyError AutoApplyAttrs := do
  let generation ← nonNegativeInt (payload.get "auto_apply_generation") autoApply.generation
  let observeUntil ← nonNegativeFloatOrNone (payload.get "auto_apply_observe_until")
  let lastAppliedAt ← nonNegativeFloatOrNone (payload.get "auto_apply_last_applied_at")
  let suspendUntil ← nonNegativeFloatOrNone (payload.get "auto_apply_suspend_until")
  return { generation, observeUntil, lastAppliedAt, suspendUntil
           lastAppliedParam := orText (payload.lookup "auto_apply_last_applied_param")
           suspendReason := orText (payload.lookup "auto_apply_suspend_reason") }

/-- The fields of `_restore_victron_ess_balance_auto_apply_state`, `_stable_tuning_state` and `_suspend_state` that
concern the lockouts and the stable tuning. -/
def restoreSafetyState (payload : JsonObject) : Except PyError SafetyAttrs := do
  let oscillationLockoutUntil ← nonNegativeFloatOrNone (payload.get "oscillation_lockout_until")
  let overshootCooldownUntil ← nonNegativeFloatOrNone (payload.get "overshoot_cooldown_until")
  let lastStableAt ← nonNegativeFloatOrNone (payload.get "last_stable_at")
  return { oscillationLockoutUntil, overshootCooldownUntil, lastStableAt
           oscillationLockoutReason := orText (payload.lookup "oscillation_lockout_reason")
           overshootCooldownReason := orText (payload.lookup "overshoot_cooldown_reason")
           lastStableTuning := stringKeyItems (payload.get "last_stable_tuning")
           lastStableProfileKey := orText (payload.lookup "last_stable_profile_key")
           conservativeTuning := stringKeyItems (payload.get "conservative_tuning")
           safeStateActive := (payload.get "safe_state_active").truthy
           safeStateReason := orText (payload.lookup "safe_state_reason") }

/-- `_restore_victron_ess_balance_adaptive_tuning_payload`. -/
def restoreAdaptiveTuningPayload (svc : RuntimeService) (payload : JsonObject) : Except PyError RuntimeService := do
  let valid ← validSchemaVersion payload
  if valid && payloadMatchesTopology svc.topology payload then
    let tuning ← restorePidTuning svc.tuning payload
    let autoApply ← restoreAutoApplyState svc.autoApply payload
    let safety ← restoreSafetyState payload
    return { svc with tuning, autoApply, safety }
  else return svc

/-- The learning state of `VictronEssRuntimeRestorer.restore_runtime_state`. -/
def restoreLearningState (svc : RuntimeService) (state : JsonObject) : Except PyError RuntimeService :=
  match state.get "victron_ess_balance_learning_state" with
  | .obj payload =>
    (fun learningProfiles => { svc with learningProfiles }) <$>
      restoreLearningStatePayload svc.topology svc.learningProfiles payload
  | _ => .ok svc

/-- The tuning state of `VictronEssRuntimeRestorer.restore_runtime_state`. -/
def restoreAdaptiveTuningState (svc : RuntimeService) (state : JsonObject) : Except PyError RuntimeService :=
  match state.get "victron_ess_balance_adaptive_tuning_state" with
  | .obj payload => restoreAdaptiveTuningPayload svc payload
  | _ => .ok svc

/-- `RuntimeStateRestorer.restore`. -/
def restore (svc : RuntimeService) (state : JsonObject) (now : ℚ) : Except PyError RuntimeService := do
  let basic ← restoreBasicRuntimeState svc.basic state
  let learned ← restoreLearnedChargePowerState svc.learned state now
  let phase ← restorePhaseSwitchRuntimeState svc.phase state now
  let contactor ← restoreContactorRuntimeState svc.contactor state now
  let relay ← restoreRelayRuntimeState svc.relay state now
  let svc ← restoreLearningState { svc with basic, learned, phase, contactor, relay } state
  restoreAdaptiveTuningState svc state

end VenusEvcharger.State
