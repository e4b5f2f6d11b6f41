import VenusEvcharger.State.Normalizer
import Mathlib.Data.List.Sort

/-!
# The volatile runtime state and its snapshot

The service attributes that `RuntimeStateSnapshotBuilder.build` writes to the runtime-state file, grouped as the builder
groups them, and the document it builds from them. `wall` is `time.time()`: the builder leaves out a timestamp that is
more than a second ahead of it.

Scope: an attribute has the type that all its writers give it. A learning profile never has the keys `sample_count`,
`typical_response_delay_seconds` and `effective_gain`, which the builder derives, so the builder's readings of these keys
are left out.
-/

namespace VenusEvcharger.State

open Library

/-- A JSON object as the persistence code reads it: no key stands twice. -/
abbrev JsonObject := List (String × Value)

/-- `state.get(key, default)`. -/
def JsonObject.get (state : JsonObject) (key : String) (default : Value := .null) : Value :=
  (state.lookup key).getD default

/-! ## Attributes -/

structure BasicAttrs where
  virtualMode : Nat
  virtualAutostart : Int
  virtualEnable : Int
  virtualStartstop : Int
  manualOverrideUntil : ℚ
  autoModeCutoverPending : Bool
  ignoreMinOfftimeOnce : Bool

structure RelayAttrs where
  relayLastChangedAt : Option ℚ
  relayLastOffAt : Option ℚ

structure LearnedAttrs where
  watts : Option ℚ
  updatedAt : Option ℚ
  state : LearnedState
  learningSince : Option ℚ
  sampleCount : Nat
  phase : Option LearnedPhase
  voltage : Option ℚ
  signatureMismatchSessions : Nat
  signatureCheckedSessionStartedAt : Option ℚ

structure PhaseAttrs where
  supportedPhaseSelections : SupportedPhases
  requestedPhaseSelection : PhaseSelection
  activePhaseSelection : PhaseSelection
  pendingSelection : Option PhaseSelection
  state : Option PhaseSwitchState
  requestedAt : Option ℚ
  stableUntil : Option ℚ
  resumeRelay : Bool
  mismatchCounts : Dict PhaseSelection Nat
  lastMismatchSelection : Option PhaseSelection
  lastMismatchAt : Option ℚ
  lockoutSelection : Option PhaseSelection
  lockoutReason : String
  lockoutAt : Option ℚ
  lockoutUntil : Option ℚ

structure ContactorAttrs where
  faultCounts : Dict ContactorFault Nat
  faultActiveReason : Option ContactorFault
  faultActiveSince : Option ℚ
  /-- `_contactor_lockout_reason`, where no fault is the empty text. -/
  lockoutReason : Option ContactorFault
  lockoutSource : String
  lockoutAt : Option ℚ

/-- One value of `_victron_ess_balance_learning_profiles`. -/
structure LearningProfile where
  key : String
  actionDirection : String
  siteRegime : String
  direction : String
  dayPhase : String
  reservePhase : String
  evPhase : String
  pvPhase : String
  batteryLimitPhase : String
  delaySamples : Nat
  gainSamples : Nat
  overshootCount : Nat
  settledCount : Nat
  responseDelaySeconds : Option ℚ
  estimatedGain : Option ℚ
  responseDelayMadSeconds : Option ℚ
  gainMad : Option ℚ
  stabilityScore : Option ℚ
  regimeConsistencyScore : Option ℚ
  responseVarianceScore : Option ℚ
  reproducibilityScore : Option ℚ
  safeRampRateWattsPerSecond : Option ℚ
  preferredBiasLimitWatts : Option ℚ

/-- The `auto_battery_discharge_balance_victron_bias_…` settings that are tuned at run time. -/
structure TuningAttrs where
  kp : ℚ
  ki : ℚ
  kd : ℚ
  deadbandWatts : ℚ
  maxAbsWatts : ℚ
  rampRateWattsPerSecond : ℚ
  activationMode : String

/-- The `_victron_ess_balance_…` attributes of automatic tuning. -/
structure AutoApplyAttrs where
  generation : Nat
  observeUntil : Option ℚ
  lastAppliedParam : String
  lastAppliedAt : Option ℚ
  suspendUntil : Option ℚ
  suspendReason : String

/-- The `_victron_ess_balance_…` attributes of the lockouts and of the stable tuning. -/
structure SafetyAttrs where
  oscillationLockoutUntil : Option ℚ
  oscillationLockoutReason : String
  overshootCooldownUntil : Option ℚ
  overshootCooldownReason : String
  lastStableTuning : JsonObject
  lastStableAt : Option ℚ
  lastStableProfileKey : String
  conservativeTuning : JsonObject
  safeStateActive : Bool
  safeStateReason : String

/-- The configuration that identifies the learning topology. -/
structure EssTopology where
  /-- `auto_battery_discharge_balance_victron_bias_source_id`. -/
  sourceId : String
  /-- `source_id` of each definition in `auto_energy_sources`. -/
  energySourceIds : List String

/-- The service, as far as the runtime-state file is concerned. -/
structure RuntimeService where
  basic : BasicAttrs
  relay : RelayAttrs
  learned : LearnedAttrs
  phase : PhaseAttrs
  contactor : ContactorAttrs
  topology : EssTopology
  learningProfiles : Dict String LearningProfile
  tuning : TuningAttrs
  autoApply : AutoApplyAttrs
  safety : SafetyAttrs
  /-- `_get_worker_snapshot()`. -/
  workerSnapshot : JsonObject
  /-- `_runtime_state_serialized`, by the document it is the text of. -/
  serialized : Option Value
  changedAt : Option ℚ

/-! ## The snapshot -/

/-- `ess_learning_topology_key`. -/
def essLearningTopologyKey (sourceId : String) (energySourceIds : List String) : String :=
  let ids := ((energySourceIds.map strip).filter (· ≠ "")).dedup.insertionSort (· ≤ ·)
  "victron-bias-learning/v3/source=" ++ strip sourceId ++ "/target=ess-grid-setpoint/energy=" ++ ",".intercalate ids

/-- `_victron_ess_balance_energy_ids`. -/
def EssTopology.energyIds (topology : EssTopology) : List String :=
  (topology.energySourceIds.map strip).filter (· ≠ "")

/-- `_victron_ess_balance_runtime_topology_key`. -/
def EssTopology.runtimeTopologyKey (topology : EssTopology) (sourceId : String) : String :=
  essLearningTopologyKey sourceId topology.energyIds

/-- `_base_runtime_state`. -/
def baseRuntimeState (svc : RuntimeService) : JsonObject :=
  [("mode", .int svc.basic.virtualMode),
    ("autostart", .int svc.basic.virtualAutostart),
    ("enable", .int svc.basic.virtualEnable),
    ("startstop", .int svc.basic.virtualStartstop),
    ("manual_override_until", .float (.fin svc.basic.manualOverrideUntil)),
    ("auto_mode_cutover_pending", .int (if svc.basic.autoModeCutoverPending then 1 else 0)),
    ("relay_last_changed_at", ofFloat? svc.relay.relayLastChangedAt),
    ("relay_last_off_at", ofFloat? svc.relay.relayLastOffAt)]

/-- `_learned_charge_power_runtime_state`. -/
def learnedChargePowerRuntimeState (svc : RuntimeService) : JsonObject :=
  [("learned_charge_power_watts", ofFloat? svc.learned.watts),
    ("learned_charge_power_updated_at", ofFloat? svc.learned.updatedAt),
    ("learned_charge_power_state", .str svc.learned.state.text),
    ("learned_charge_power_learning_since", ofFloat? svc.learned.learningSince),
    ("learned_charge_power_sample_count", .int svc.learned.sampleCount),
    ("learned_charge_power_phase", ofText? (svc.learned.phase.map LearnedPhase.text)),
    ("learned_charge_power_voltage", ofFloat? svc.learned.voltage),
    ("learned_charge_power_signature_mismatch_sessions", .int svc.learned.signatureMismatchSessions),
    ("learned_charge_power_signature_checked_session_started_at",
      ofFloat? svc.learned.signatureCheckedSessionStartedAt)]

/-- A list of supported phase selections. -/
def supportedPhasesValue (phases : SupportedPhases) : Value :=
  .list (phases.toList.map fun selection => .str (phaseText selection))

/-- `_phase_selection_runtime_state`. -/
def phaseSelectionRuntimeState (svc : RuntimeService) : JsonObject :=
  [("active_phase_selection", .str (phaseText svc.phase.activePhaseSelection)),
    ("requested_phase_selection", .str (phaseText svc.phase.requestedPhaseSelection)),
    ("supported_phase_selections", supportedPhasesValue svc.phase.supportedPhaseSelections)]

/-- `dict(counts)` with the texts of the keys. -/
def countsValue {κ : Type} (text : κ → String) (counts : Dict κ Nat) : Value :=
  .obj (counts.entries.map fun e => (text e.1, .int e.2))

/-- `_phase_switch_runtime_state`. -/
def phaseSwitchRuntimeState (svc : RuntimeService) (wall : ℚ) : JsonObject :=
  [("phase_switch_pending_selection", ofText? (svc.phase.pendingSelection.map phaseText)),
    ("phase_switch_state", ofText? (svc.phase.state.map switchStateText)),
    ("phase_switch_requested_at", ofFloat? (notFuture wall svc.phase.requestedAt)),
    ("phase_switch_stable_until", ofFloat? svc.phase.stableUntil),
    ("phase_switch_resume_relay", .int (if svc.phase.resumeRelay then 1 else 0)),
    ("phase_switch_mismatch_counts", countsValue phaseText svc.phase.mismatchCounts),
    ("phase_switch_last_mismatch_selection", ofText? (svc.phase.lastMismatchSelection.map phaseText)),
    ("phase_switch_last_mismatch_at", ofFloat? (notFuture wall svc.phase.lastMismatchAt)),
    ("phase_switch_lockout_selection", ofText? (svc.phase.lockoutSelection.map phaseText)),
    ("phase_switch_lockout_reason", .str svc.phase.lockoutReason),
    ("phase_switch_lockout_at", ofFloat? (notFuture wall svc.phase.lockoutAt)),
    ("phase_switch_lockout_until", ofFloat? svc.phase.lockoutUntil)]

/-- `_contactor_runtime_state`. -/
def contactorRuntimeState (svc : RuntimeService) (wall : ℚ) : JsonObject :=
  [("contactor_fault_counts", countsValue faultText svc.contactor.faultCounts),
    ("contactor_fault_active_reason", ofText? (svc.contactor.faultActiveReason.map faultText)),
    ("contactor_fault_active_since", ofFloat? (notFuture wall svc.contactor.faultActiveSince)),
    ("contactor_lockout_reason", .str ((svc.contactor.lockoutReason.map faultText).getD "")),
    ("contactor_lockout_source", .str svc.contactor.lockoutSource),
    ("contactor_lockout_at", ofFloat? (notFuture wall svc.contactor.lockoutAt))]

/-- The scalar fields of `_energy_runtime_state`: the key, the key in the worker snapshot and the default. -/
def energyFields : List (String × String × Value) :=
  [("combined_battery_soc", "battery_combined_soc", .null),
    ("combined_battery_usable_capacity_wh", "battery_combined_usable_capacity_wh", .null),
    ("combined_battery_charge_power_w", "battery_combined_charge_power_w", .null),
    ("combined_battery_discharge_power_w", "battery_combined_discharge_power_w", .null),
    ("combined_battery_net_power_w", "battery_combined_net_power_w", .null),
    ("combined_battery_ac_power_w", "battery_combined_ac_power_w", .null),
    ("combined_battery_pv_input_power_w", "battery_combined_pv_input_power_w", .null),
    ("combined_battery_grid_interaction_w", "battery_combined_grid_interaction_w", .null),
    ("combined_battery_headroom_charge_w", "battery_headroom_charge_w", .null),
    ("combined_battery_headroom_discharge_w", "battery_headroom_discharge_w", .null),
    ("expected_near_term_export_w", "expected_near_term_export_w", .null),
    ("expected_near_term_import_w", "expected_near_term_import_w", .null),
    ("battery_discharge_balance_mode", "battery_discharge_balance_mode", .null),
    ("battery_discharge_balance_target_distribution_mode", "battery_discharge_balance_target_distribution_mode", .null),
    ("battery_discharge_balance_error_w", "battery_discharge_balance_error_w", .null),
    ("battery_discharge_balance_max_abs_error_w", "battery_discharge_balance_max_abs_error_w", .null),
    ("battery_discharge_balance_total_discharge_w", "battery_discharge_balance_total_discharge_w", .null),
    ("battery_discharge_balance_eligible_source_count", "battery_discharge_balance_eligible_source_count", .int 0),
    ("battery_discharge_balance_active_source_count", "battery_discharge_balance_active_source_count", .int 0),
    ("battery_discharge_balance_control_candidate_count", "battery_discharge_balance_control_candidate_count", .int 0),
    ("battery_discharge_balance_control_ready_count", "battery_discharge_balance_control_ready_count", .int 0),
    ("battery_discharge_balance_supported_control_source_count",
      "battery_discharge_balance_supported_control_source_count", .int 0),
    ("battery_discharge_balance_experimental_control_source_count",
      "battery_discharge_balance_experimental_control_source_count", .int 0),
    ("combined_battery_average_confidence", "battery_average_confidence", .null),
    ("combined_battery_source_count", "battery_source_count", .int 0),
    ("combined_battery_online_source_count", "battery_online_source_count", .int 0),
    ("combined_battery_valid_soc_source_count", "battery_valid_soc_source_count", .int 0),
    ("combined_battery_battery_source_count", "battery_battery_source_count", .int 0),
    ("combined_battery_hybrid_inverter_source_count", "battery_hybrid_inverter_source_count", .int 0),
    ("combined_battery_inverter_source_count", "battery_inverter_source_count", .int 0)]

/-- `_energy_runtime_state`. -/
def energyRuntimeState (svc : RuntimeService) : JsonObject :=
  energyFields.map (fun field => (field.1, svc.workerSnapshot.get field.2.1 field.2.2)) ++
    [("combined_battery_sources",
        match svc.workerSnapshot.get "battery_sources" with
        | .list sources => .list sources
        | _ => .list []),
      ("combined_battery_learning_profiles",
        match svc.workerSnapshot.get "battery_learning_profiles" with
        | .obj profiles => .obj profiles
        | _ => .obj [])]

/-- `_victron_ess_balance_runtime_profile_sample_count`. -/
def LearningProfile.sampleCount (profile : LearningProfile) : Nat :=
  max (max profile.delaySamples profile.gainSamples) (profile.settledCount + profile.overshootCount)

/-- `_victron_ess_balance_runtime_profile_snapshot`. -/
def LearningProfile.snapshot (profileKey : String) (profile : LearningProfile) : JsonObject :=
  [("key", .str (if profile.key = "" then profileKey else profile.key)),
    ("action_direction", .str profile.actionDirection),
    ("site_regime", .str profile.siteRegime),
    ("direction", .str profile.direction),
    ("day_phase", .str profile.dayPhase),
    ("reserve_phase", .str profile.reservePhase),
    ("ev_phase", .str profile.evPhase),
    ("pv_phase", .str profile.pvPhase),
    ("battery_limit_phase", .str profile.batteryLimitPhase),
    ("sample_count", .int profile.sampleCount),
    ("delay_samples", .int profile.delaySamples),
    ("gain_samples", .int profile.gainSamples),
    ("overshoot_count", .int profile.overshootCount),
    ("settled_count", .int profile.settledCount),
    ("response_delay_seconds", ofFloat? profile.responseDelaySeconds),
    ("estimated_gain", ofFloat? profile.estimatedGain),
    ("response_delay_mad_seconds", ofFloat? profile.responseDelayMadSeconds),
    ("gain_mad", ofFloat? profile.gainMad),
    ("stability_score", ofFloat? profile.stabilityScore),
    ("typical_response_delay_seconds", ofFloat? profile.responseDelaySeconds),
    ("effective_gain", ofFloat? profile.estimatedGain),
    ("regime_consistency_score", ofFloat? profile.regimeConsistencyScore),
    ("response_variance_score", ofFloat? profile.responseVarianceScore),
    ("reproducibility_score", ofFloat? profile.reproducibilityScore),
    ("safe_ramp_rate_watts_per_second", ofFloat? profile.safeRampRateWattsPerSecond),
    ("preferred_bias_limit_watts", ofFloat? profile.preferredBiasLimitWatts)]

/-- `schema_version`, `topology_key` and `source_id`, with which both Victron payloads begin. -/
def topologyHeader (svc : RuntimeService) : JsonObject :=
  [("schema_version", .int 2),
    ("topology_key", .str (svc.topology.runtimeTopologyKey (strip svc.topology.sourceId))),
    ("source_id", .str (strip svc.topology.sourceId))]

/-- `profiles` of the learning state. -/
def profilesValue (profiles : Dict String LearningProfile) : Value :=
  .obj (profiles.entries.map fun e => (e.1, .obj (e.2.snapshot e.1)))

/-- `_victron_ess_balance_runtime_learning_state`. -/
def runtimeLearningState (svc : RuntimeService) : JsonObject :=
  topologyHeader svc ++ [("profiles", profilesValue svc.learningProfiles)]

/-- `_victron_ess_balance_runtime_tuning_payload`. -/
def runtimeTuningPayload (tuning : TuningAttrs) : JsonObject :=
  [("kp", .float (.fin tuning.kp)),
    ("ki", .float (.fin tuning.ki)),
    ("kd", .float (.fin tuning.kd)),
    ("deadband_watts", .float (.fin tuning.deadbandWatts)),
    ("max_abs_watts", .float (.fin tuning.maxAbsWatts)),
    ("ramp_rate_watts_per_second", .float (.fin tuning.rampRateWattsPerSecond)),
    ("activation_mode",
      .str (lower (strip (if tuning.activationMode = "" then "always" else tuning.activationMode))))]

/-- `_victron_ess_balance_runtime_auto_apply_payload`. -/
def runtimeAutoApplyPayload (autoApply : AutoApplyAttrs) : JsonObject :=
  [("auto_apply_generation", .int autoApply.generation),
    ("auto_apply_observe_until", ofFloat? autoApply.observeUntil),
    ("auto_apply_last_applied_param", .str (strip autoApply.lastAppliedParam)),
    ("auto_apply_last_applied_at", ofFloat? autoApply.lastAppliedAt),
    ("auto_apply_suspend_until", ofFloat? autoApply.suspendUntil),
    ("auto_apply_suspend_reason", .str (strip autoApply.suspendReason))]

/-- `_victron_ess_balance_runtime_safety_payload`. -/
def runtimeSafetyPayload (safety : SafetyAttrs) : JsonObject :=
  [("oscillation_lockout_until", ofFloat? safety.oscillationLockoutUntil),
    ("oscillation_lockout_reason", .str (strip safety.oscillationLockoutReason)),
    ("overshoot_cooldown_until", ofFloat? safety.overshootCooldownUntil),
    ("overshoot_cooldown_reason", .str (strip safety.overshootCooldownReason)),
    ("last_stable_tuning", .obj safety.lastStableTuning),
    ("last_stable_at", ofFloat? safety.lastStableAt),
    ("last_stable_profile_key", .str (strip safety.lastStableProfileKey)),
    ("conservative_tuning", .obj safety.conservativeTuning),
    ("safe_state_active", .bool safety.safeStateActive),
    ("safe_state_reason", .str (strip safety.safeStateReason))]

/-- `_victron_ess_balance_runtime_adaptive_tuning_state`. -/
def runtimeAdaptiveTuningState (svc : RuntimeService) : JsonObject :=
  topologyHeader svc ++ runtimeTuningPayload svc.tuning ++ runtimeAutoApplyPayload svc.autoApply ++
    runtimeSafetyPayload svc.safety

/-- The fields of the document that the service itself owns. -/
def ownRuntimeState (svc : RuntimeService) (wall : ℚ) : JsonObject :=
  baseRuntimeState svc ++ learnedChargePowerRuntimeState svc ++ phaseSelectionRuntimeState svc ++
    phaseSwitchRuntimeState svc wall ++ contactorRuntimeState svc wall ++
    [("victron_ess_balance_learning_state", .obj (runtimeLearningState svc)),
      ("victron_ess_balance_adaptive_tuning_state", .obj (runtimeAdaptiveTuningState svc))]

/-- `RuntimeStateSnapshotBuilder.build`: the fields of the service and those of the worker snapshot. -/
def build (svc : RuntimeService) (wall : ℚ) : JsonObject := ownRuntimeState svc wall ++ energyRuntimeState svc

end VenusEvcharger.State
