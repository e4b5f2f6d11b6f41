import VenusEvcharger.State.Restore

/-!
# When a document can be restored

`restore` returns exactly when no field that it reads holds a value beyond its conversions: no infinite float where an
integer is wanted, and no integer beyond the float range where a float is wanted. The Victron payloads count only when
their schema version and topology are those of the service.
-/

namespace VenusEvcharger.State

open Library

/-- The field is missing or holds no infinite float. -/
def IntField (state : JsonObject) (key : String) : Prop := ∀ v ∈ state.lookup key, v.HasInt

/-- The field is missing or holds no integer beyond the float range. -/
def FloatField (state : JsonObject) (key : String) : Prop := ∀ v ∈ state.lookup key, v.HasFloat

variable {state : JsonObject}

theorem hasInt_get {key : String} {default : Value} (h : default.HasInt) :
    (state.get key default).HasInt ↔ IntField state key := by
  unfold JsonObject.get IntField
  cases state.lookup key <;> simp [h]

theorem hasFloat_get {key : String} {default : Value} (h : default.HasFloat) :
    (state.get key default).HasFloat ↔ FloatField state key := by
  unfold JsonObject.get FloatField
  cases state.lookup key <;> simp [h]

@[simp] theorem hasFloat_ofFloat? (value : Option ℚ) : (ofFloat? value).HasFloat := by
  cases value <;> exact trivial

@[simp] theorem hasFloat_null : Value.null.HasFloat := trivial

@[simp] theorem hasInt_null : Value.null.HasInt := ⟨nofun, nofun⟩

@[simp] theorem hasInt_int (i : Int) : (Value.int i).HasInt := ⟨nofun, nofun⟩

variable [PyRuntime]

/-! ## One group after the other -/

theorem returns_restoreBasicRuntimeState (basic : BasicAttrs) (state : JsonObject) :
    Returns (restoreBasicRuntimeState basic state) ↔
      (∀ key ∈ ["mode", "autostart", "enable", "startstop", "auto_mode_cutover_pending"], IntField state key) ∧
        FloatField state "manual_override_until" := by
  simp only [restoreBasicRuntimeState, returns_bind, returns_pure, and_true, exists_and_right, exists_eq_ok,
    returns_normalizeMode, returns_coerceRuntimeInt, returns_coerceRuntimeFloat, hasInt_get (hasInt_int _),
    hasInt_get hasInt_null, hasFloat_get hasFloat_null, List.forall_mem_cons, List.not_mem_nil, false_imp_iff,
    implies_true]
  tauto

theorem returns_restoreLearnedChargePowerState (learned : LearnedAttrs) (state : JsonObject) (now : ℚ) :
    Returns (restoreLearnedChargePowerState learned state now) ↔
      (∀ key ∈ ["learned_charge_power_sample_count", "learned_charge_power_signature_mismatch_sessions"],
        IntField state key) ∧
      ∀ key ∈ ["learned_charge_power_watts", "learned_charge_power_updated_at", "learned_charge_power_learning_since",
        "learned_charge_power_voltage", "learned_charge_power_signature_checked_session_started_at"],
        FloatField state key := by
  simp only [restoreLearnedChargePowerState, returns_bind, returns_pure, and_true, exists_and_right, exists_eq_ok,
    returns_nonNegativeFloatOrNone, returns_optionalPastTime, returns_nonNegativeInt, hasInt_get (hasInt_int _),
    hasFloat_get (hasFloat_ofFloat? _), List.forall_mem_cons, List.not_mem_nil, false_imp_iff, implies_true]
  tauto

/-- The counts of an object are no infinite floats, as far as `counted` keys are concerned. -/
def CountsField (counted : String → Prop) (state : JsonObject) (key : String) : Prop :=
  ∀ v ∈ state.lookup key, ∀ e ∈ stringKeyItems v, counted e.1 → e.2.HasInt

omit [PyRuntime] in
theorem countsField_iff {κ : Type} (counted : String → Prop) (text : κ → String) (counts : Dict κ Nat)
    (state : JsonObject) (key : String) :
    (∀ e ∈ stringKeyItems (state.get key (countsValue text counts)), counted e.1 → e.2.HasInt) ↔
      CountsField counted state key := by
  unfold JsonObject.get CountsField
  cases state.lookup key with
  | some v => simp
  | none =>
    simp only [Option.getD_none, Option.mem_def, reduceCtorEq, false_imp_iff, implies_true, iff_true]
    intro e he _
    obtain ⟨entry, _, rfl⟩ := List.mem_map.mp he
    exact hasInt_int _

theorem returns_normalizedPhaseSwitchMismatchCounts (rawCounts : Value) (default : PhaseSelection) :
    Returns (normalizedPhaseSwitchMismatchCounts rawCounts default) ↔
      ∀ e ∈ stringKeyItems rawCounts, True → e.2.HasInt := by
  rw [normalizedPhaseSwitchMismatchCounts, returns_foldlM (P := fun e => True → e.2.HasInt)]
  intro counts raw _
  simp

theorem returns_normalizedContactorFaultCounts (rawCounts : Value) :
    Returns (normalizedContactorFaultCounts rawCounts) ↔
      ∀ e ∈ stringKeyItems rawCounts, (contactorFault (strip e.1)).isSome → e.2.HasInt := by
  rw [normalizedContactorFaultCounts, returns_foldlM (P := fun e => (contactorFault (strip e.1)).isSome → e.2.HasInt)]
  intro counts raw _
  cases contactorFault (strip raw.1) <;> simp

theorem returns_restorePhaseSwitchRuntimeState (phase : PhaseAttrs) (state : JsonObject) (now : ℚ) :
    Returns (restorePhaseSwitchRuntimeState phase state now) ↔
      (IntField state "phase_switch_resume_relay" ∧ CountsField (fun _ => True) state "phase_switch_mismatch_counts") ∧
      ∀ key ∈ ["phase_switch_requested_at", "phase_switch_stable_until", "phase_switch_last_mismatch_at",
        "phase_switch_lockout_at", "phase_switch_lockout_until"], FloatField state key := by
  simp only [restorePhaseSwitchRuntimeState, returns_bind, returns_pure, and_true, exists_and_right, exists_eq_ok,
    returns_optionalPastTime, returns_optionalFloat, returns_coerceRuntimeInt, hasInt_get hasInt_null,
    hasFloat_get (hasFloat_ofFloat? _), returns_normalizedPhaseSwitchMismatchCounts,
    countsField_iff (fun _ => True),
    List.forall_mem_cons, List.not_mem_nil, false_imp_iff, implies_true]
  tauto

theorem returns_restoreContactorRuntimeState (contactor : ContactorAttrs) (state : JsonObject) (now : ℚ) :
    Returns (restoreContactorRuntimeState contactor state now) ↔
      CountsField (fun key => (contactorFault (strip key)).isSome) state "contactor_fault_counts" ∧
      ∀ key ∈ ["contactor_fault_active_since", "contactor_lockout_at"], FloatField state key := by
  simp only [restoreContactorRuntimeState, returns_bind, returns_pure, and_true, exists_and_right, exists_eq_ok,
    returns_optionalPastTime, hasFloat_get (hasFloat_ofFloat? _), returns_normalizedContactorFaultCounts,
    countsField_iff (fun key => (contactorFault (strip key)).isSome = true),
    List.forall_mem_cons, List.not_mem_nil, false_imp_iff, implies_true]

theorem returns_restoreRelayRuntimeState (relay : RelayAttrs) (state : JsonObject) (now : ℚ) :
    Returns (restoreRelayRuntimeState relay state now) ↔
      ∀ key ∈ ["relay_last_changed_at", "relay_last_off_at"], FloatField state key := by
  simp only [restoreRelayRuntimeState, returns_bind, returns_pure, and_true, exists_and_right, exists_eq_ok,
    returns_optionalPastTime, hasFloat_get (hasFloat_ofFloat? _), List.forall_mem_cons, List.not_mem_nil,
    false_imp_iff, implies_true]

/-! ## The Victron payloads -/

/-- The payload is of a known schema version and of the service's topology. -/
def PayloadApplies (topology : EssTopology) (payload : JsonObject) : Prop :=
  validSchemaVersion payload = .ok true ∧ payloadMatchesTopology topology payload = true

/-- The conversions of a learning profile. -/
structure ProfileRestorable (rawProfile : JsonObject) : Prop where
  counts : ∀ key ∈ ["delay_samples", "gain_samples", "overshoot_count", "settled_count"], IntField rawProfile key
  metrics : ∀ key ∈ ["response_delay_mad_seconds", "gain_mad", "stability_score", "regime_consistency_score",
    "response_variance_score", "reproducibility_score", "safe_ramp_rate_watts_per_second",
    "preferred_bias_limit_watts"], FloatField rawProfile key
  responseDelay :
    (rawProfile.get "response_delay_seconds" (rawProfile.get "typical_response_delay_seconds")).HasFloat
  gain : (rawProfile.get "estimated_gain" (rawProfile.get "effective_gain")).HasFloat

theorem returns_normalizedLearningProfile (profileKey : String) (rawProfile : JsonObject) :
    Returns (normalizedLearningProfile profileKey rawProfile) ↔ ProfileRestorable rawProfile := by
  have h : ProfileRestorable rawProfile ↔ _ :=
    ⟨fun h => And.intro h.counts (And.intro h.metrics (And.intro h.responseDelay h.gain)),
      fun h => ⟨h.1, h.2.1, h.2.2.1, h.2.2.2⟩⟩
  rw [h]
  simp only [normalizedLearningProfile, learningMetric, returns_bind, returns_pure, and_true, exists_and_right,
    exists_eq_ok, returns_nonNegativeInt, returns_nonNegativeFloatOrNone, hasInt_get hasInt_null,
    hasFloat_get hasFloat_null, List.forall_mem_cons, List.not_mem_nil, false_imp_iff, implies_true]
  tauto

theorem returns_normalizedLearningProfiles (rawProfiles : JsonObject) :
    Returns (normalizedLearningProfiles rawProfiles) ↔
      ∀ entry ∈ rawProfiles.filterMap profileEntry, ProfileRestorable entry.2 := by
  rw [normalizedLearningProfiles, returns_foldlM (P := fun entry => ProfileRestorable entry.2)]
  intro profiles entry _
  rw [returns_map, returns_normalizedLearningProfile]

/-- The conversions of the learning payload. -/
structure LearningRestorable (topology : EssTopology) (payload : JsonObject) : Prop where
  version : IntField payload "schema_version"
  profiles : PayloadApplies topology payload → ∀ rawProfiles, payload.get "profiles" = .obj rawProfiles →
    ∀ entry ∈ rawProfiles.filterMap profileEntry, ProfileRestorable entry.2

theorem returns_validSchemaVersion (payload : JsonObject) :
    Returns (validSchemaVersion payload) ↔ IntField payload "schema_version" := by
  rw [validSchemaVersion, returns_map, returns_nonNegativeInt, hasInt_get hasInt_null]

theorem returns_restoreLearningStatePayload (topology : EssTopology) (profiles : Dict String LearningProfile)
    (payload : JsonObject) :
    Returns (restoreLearningStatePayload topology profiles payload) ↔ LearningRestorable topology payload := by
  have h : LearningRestorable topology payload ↔ _ :=
    ⟨fun h => And.intro h.version h.profiles, fun h => ⟨h.1, h.2⟩⟩
  rw [h, restoreLearningStatePayload, returns_bind, ← returns_validSchemaVersion]
  constructor
  · rintro ⟨valid, hvalid, hrest⟩
    refine ⟨⟨valid, hvalid⟩, fun ⟨happlies, hmatch⟩ rawProfiles hraw => ?_⟩
    obtain rfl : valid = true := by simpa [hvalid] using happlies
    rw [if_pos (by simpa using hmatch), hraw] at hrest
    exact (returns_normalizedLearningProfiles rawProfiles).mp hrest
  · rintro ⟨⟨valid, hvalid⟩, hprofiles⟩
    refine ⟨valid, hvalid, ?_⟩
    split
    · rename_i hcond
      obtain ⟨rfl, hmatch⟩ : valid = true ∧ payloadMatchesTopology topology payload = true := by simpa using hcond
      split
      · exact (returns_normalizedLearningProfiles _).mpr (hprofiles ⟨hvalid, hmatch⟩ _ ‹_›)
      · exact returns_pure _
    · exact returns_pure _

/-- The conversions of the tuning payload. -/
structure TuningRestorable (topology : EssTopology) (payload : JsonObject) : Prop where
  version : IntField payload "schema_version"
  generation : PayloadApplies topology payload → IntField payload "auto_apply_generation"
  floats : PayloadApplies topology payload → ∀ key ∈ ["kp", "ki", "kd", "deadband_watts", "max_abs_watts",
    "ramp_rate_watts_per_second", "auto_apply_observe_until", "auto_apply_last_applied_at", "auto_apply_suspend_until",
    "oscillation_lockout_until", "overshoot_cooldown_until", "last_stable_at"], FloatField payload key

theorem returns_restoreAdaptiveTuningPayload (svc : RuntimeService) (payload : JsonObject) :
    Returns (restoreAdaptiveTuningPayload svc payload) ↔ TuningRestorable svc.topology payload := by
  have h : TuningRestorable svc.topology payload ↔ _ :=
    ⟨fun h => And.intro h.version fun happlies => And.intro (h.generation happlies) (h.floats happlies),
      fun h => ⟨h.1, fun happlies => (h.2 happlies).1, fun happlies => (h.2 happlies).2⟩⟩
  have hpid : ∀ key, Returns (pidValue payload key) ↔ FloatField payload key := fun key => by
    rw [pidValue, returns_map, returns_nonNegativeFloatOrNone, hasFloat_get hasFloat_null]
  have hbody : Returns (do
        let tuning ← restorePidTuning svc.tuning payload
        let autoApply ← restoreAutoApplyState svc.autoApply payload
        let safety ← restoreSafetyState payload
        return { svc with tuning, autoApply, safety }) ↔
      IntField payload "auto_apply_generation" ∧
        ∀ key ∈ ["kp", "ki", "kd", "deadband_watts", "max_abs_watts", "ramp_rate_watts_per_second",
          "auto_apply_observe_until", "auto_apply_last_applied_at", "auto_apply_suspend_until",
          "oscillation_lockout_until", "overshoot_cooldown_until", "last_stable_at"], FloatField payload key := by
    simp only [restorePidTuning, restoreAutoApplyState, restoreSafetyState, returns_bind, returns_pure, and_true,
      exists_and_right, exists_eq_ok, hpid, returns_nonNegativeInt, returns_nonNegativeFloatOrNone,
      hasInt_get hasInt_null, hasFloat_get hasFloat_null, List.forall_mem_cons, List.not_mem_nil, false_imp_iff,
      implies_true]
    tauto
  rw [h, restoreAdaptiveTuningPayload, returns_bind, ← returns_validSchemaVersion, ← hbody]
  constructor
  · rintro ⟨valid, hvalid, hrest⟩
    refine ⟨⟨valid, hvalid⟩, fun hboth => ?_⟩
    obtain ⟨happlies, hmatch⟩ := hboth
    obtain rfl : valid = true := by simpa [hvalid] using happlies
    rwa [if_pos (by simpa using hmatch)] at hrest
  · rintro ⟨⟨valid, hvalid⟩, hbody⟩
    refine ⟨valid, hvalid, ?_⟩
    split
    · rename_i hcond
      obtain ⟨rfl, hmatch⟩ : valid = true ∧ payloadMatchesTopology svc.topology payload = true := by simpa using hcond
      exact hbody ⟨hvalid, hmatch⟩
    · exact returns_pure _

/-! ## The whole document -/

/-- Every value that `restore` converts has an integer or a float, as it is wanted. -/
structure Restorable (topology : EssTopology) (state : JsonObject) : Prop where
  ints : ∀ key ∈ ["mode", "autostart", "enable", "startstop", "auto_mode_cutover_pending",
    "learned_charge_power_sample_count", "learned_charge_power_signature_mismatch_sessions",
    "phase_switch_resume_relay"], IntField state key
  floats : ∀ key ∈ ["manual_override_until", "learned_charge_power_watts", "learned_charge_power_updated_at",
    "learned_charge_power_learning_since", "learned_charge_power_voltage",
    "learned_charge_power_signature_checked_session_started_at", "phase_switch_requested_at",
    "phase_switch_stable_until", "phase_switch_last_mismatch_at", "phase_switch_lockout_at",
    "phase_switch_lockout_until", "contactor_fault_active_since", "contactor_lockout_at", "relay_last_changed_at",
    "relay_last_off_at"], FloatField state key
  mismatchCounts : CountsField (fun _ => True) state "phase_switch_mismatch_counts"
  faultCounts : CountsField (fun key => (contactorFault (strip key)).isSome) state "contactor_fault_counts"
  learning : ∀ payload, state.get "victron_ess_balance_learning_state" = .obj payload →
    LearningRestorable topology payload
  tuning : ∀ payload, state.get "victron_ess_balance_adaptive_tuning_state" = .obj payload →
    TuningRestorable topology payload

theorem returns_restoreLearningState (svc : RuntimeService) (state : JsonObject) :
    Returns (restoreLearningState svc state) ↔
      ∀ payload, state.get "victron_ess_balance_learning_state" = .obj payload →
        LearningRestorable svc.topology payload := by
  unfold restoreLearningState
  split
  · rename_i payload hpayload
    rw [returns_map, returns_restoreLearningStatePayload]
    simp [hpayload]
  · rename_i hnone
    simp only [returns_ok, true_iff]
    exact fun payload hpayload => absurd hpayload (hnone payload)

theorem returns_restoreAdaptiveTuningState (svc : RuntimeService) (state : JsonObject) :
    Returns (restoreAdaptiveTuningState svc state) ↔
      ∀ payload, state.get "victron_ess_balance_adaptive_tuning_state" = .obj payload →
        TuningRestorable svc.topology payload := by
  unfold restoreAdaptiveTuningState
  split
  · rename_i payload hpayload
    rw [returns_restoreAdaptiveTuningPayload]
    simp [hpayload]
  · rename_i hnone
    simp only [returns_ok, true_iff]
    exact fun payload hpayload => absurd hpayload (hnone payload)

/-- The learning state is the only thing that its restorer writes. -/
theorem restoreLearningState_topology {svc svc' : RuntimeService}
    (h : restoreLearningState svc state = .ok svc') :
    svc' = { svc with learningProfiles := svc'.learningProfiles } := by
  unfold restoreLearningState at h
  split at h
  · obtain ⟨profiles, _, rfl⟩ := map_eq_ok.mp h
    rfl
  · cases h
    rfl

/-- The Victron payloads are restored one after the other. -/
theorem returns_restoreVictron (svc : RuntimeService) (state : JsonObject) :
    Returns (restoreLearningState svc state >>= fun svc => restoreAdaptiveTuningState svc state) ↔
      (∀ payload, state.get "victron_ess_balance_learning_state" = .obj payload →
        LearningRestorable svc.topology payload) ∧
      ∀ payload, state.get "victron_ess_balance_adaptive_tuning_state" = .obj payload →
        TuningRestorable svc.topology payload := by
  rw [← returns_restoreLearningState, returns_bind]
  constructor
  · rintro ⟨svc', hlearning, htuning⟩
    rw [returns_restoreAdaptiveTuningState, restoreLearningState_topology hlearning] at htuning
    exact ⟨⟨svc', hlearning⟩, htuning⟩
  · rintro ⟨⟨svc', hlearning⟩, htuning⟩
    refine ⟨svc', hlearning, (returns_restoreAdaptiveTuningState svc' state).mpr ?_⟩
    rwa [restoreLearningState_topology hlearning]

/-- `restore` returns exactly on the documents whose values it can convert. -/
theorem returns_restore (svc : RuntimeService) (state : JsonObject) (now : ℚ) :
    Returns (restore svc state now) ↔ Restorable svc.topology state := by
  have h : Restorable svc.topology state ↔ _ :=
    ⟨fun h => And.intro h.ints (And.intro h.floats (And.intro h.mismatchCounts (And.intro h.faultCounts
        (And.intro h.learning h.tuning)))),
      fun h => ⟨h.1, h.2.1, h.2.2.1, h.2.2.2.1, h.2.2.2.2.1, h.2.2.2.2.2⟩⟩
  rw [h]
  unfold restore
  simp only [returns_bind (f := fun _ => _ >>= _), returns_restoreVictron, exists_and_right, exists_eq_ok,
    returns_restoreBasicRuntimeState, returns_restoreLearnedChargePowerState, returns_restorePhaseSwitchRuntimeState,
    returns_restoreContactorRuntimeState, returns_restoreRelayRuntimeState, List.forall_mem_cons, List.not_mem_nil,
    false_imp_iff, implies_true, and_true]
  tauto

end VenusEvcharger.State
