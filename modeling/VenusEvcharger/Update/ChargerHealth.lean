import VenusEvcharger.Update.PmSnapshot

/-!
# Charger and contactor health

`ChargerHealthMonitor` names the fault that keeps the charger off in a cycle: the explicit switch
feedback, a latched contactor lockout, the contactor heuristics, the transport of the charger backend,
and the fault text of the charger.

Scope: the readbacks of a cycle are those of one instant. Of the status and fault texts the answer of the
token tests is kept.
-/

namespace VenusEvcharger

open ConfirmedRelay (positiveServiceFloat)

/-- The reasons of `_CHARGER_TRANSPORT_REASONS`. -/
inductive TransportReason where
  | busy
  | ownership
  | timeout
  | offline
  | response
  | error
deriving DecidableEq

/-- The two suspicions about the contactor. -/
inductive ContactorFault where
  | suspectedOpen
  | suspectedWelded
deriving DecidableEq

/-- The health reasons that override the wanted relay state. -/
inductive HealthOverride where
  | contactorInterlock
  | contactorFeedbackMismatch
  | contactorLockout (fault : ContactorFault)
  | contactorSuspected (fault : ContactorFault)
  | chargerTransport (reason : TransportReason)
  | chargerFault
deriving DecidableEq

/-- A fresh `SwitchState`. -/
structure SwitchReadback where
  feedbackClosed : Option Bool
  interlockOk : Option Bool

/-- A fresh `ChargerState`. -/
structure ChargerReadback where
  enabled : Option Bool
  phaseSelection : Option PhaseSelection
  actualCurrentAmps : Option ℚ
  powerW : Option ℚ
  /-- The status text has a charging token. -/
  statusCharging : Bool
  /-- `text_indicates_fault` of the fault text or the status text. -/
  faultIndicated : Bool

/-! ## Transport of the charger backend -/

/-- The last transport issue and the retry window, each with its time. -/
structure ChargerTransport where
  lastIssue : Option (TransportReason × ℚ)
  retryUntil : Option (TransportReason × ℚ)

/-- `clear_issue` and `clear_retry`. -/
def ChargerTransport.clear : ChargerTransport := ⟨none, none⟩

/-- `_charger_transport_max_age_seconds`. -/
def RelaySettings.chargerTransportMaxAgeSeconds (cfg : RelaySettings) : ℚ :=
  let fallback := min 2 (cfg.workerPollIntervalSeconds * 2)
  let fallback := match cfg.dbusLivePublishIntervalSeconds.bind (positiveServiceFloat ∘ some) with
    | some publish => min fallback (publish * 2)
    | none => fallback
  let fallback := match positiveServiceFloat (some cfg.autoShellySoftFailSeconds) with
    | some softFail => min fallback softFail
    | none => fallback
  max 1 fallback

/-- `_charger_transport_retry_delay_seconds`. -/
def RelaySettings.chargerTransportRetryDelaySeconds (cfg : RelaySettings) (reason : TransportReason) : ℚ :=
  let base := (cfg.autoDbusBackoffBaseSeconds.bind (positiveServiceFloat ∘ some)).getD 5
  let softFail := (positiveServiceFloat (some cfg.autoShellySoftFailSeconds)).getD 10
  match reason with
  | .busy => max 1 (min base 5)
  | .ownership => max 3 (base * 2)
  | .timeout => max 2 (min softFail (max (base * (3 / 2)) 2))
  | .offline => max 10 (max softFail (base * 4))
  | .response => max 3 (base * 2)
  | .error => max 2 (base * 2)

/-- `remember_issue` and `remember_retry`. -/
def ChargerTransport.rememberFailure (cfg : RelaySettings) (reason : TransportReason) (now : ℚ) :
    ChargerTransport :=
  ⟨some (reason, now), some (reason, now + cfg.chargerTransportRetryDelaySeconds reason)⟩

/-- `retry_active`. -/
def ChargerTransport.retryActive (t : ChargerTransport) (now : ℚ) : Bool :=
  match t.retryUntil with
  | none => false
  | some (_, until') => decide (now < until')

/-- `_active_charger_transport_health`: a fresh issue first, then the retry window. -/
def ChargerTransport.health (t : ChargerTransport) (cfg : RelaySettings) (now : ℚ) :
    Option HealthOverride :=
  match t.lastIssue.filter fun issue => decide (|now - issue.2| ≤ cfg.chargerTransportMaxAgeSeconds) with
  | some issue => some (.chargerTransport issue.1)
  | none => (t.retryUntil.filter fun retry => decide (now < retry.2)).map (.chargerTransport ·.1)

/-- `charger_health_override`. -/
def chargerHealthOverride (cfg : RelaySettings) (t : ChargerTransport) (charger : Option ChargerReadback)
    (now : ℚ) : Option HealthOverride :=
  match t.health cfg now with
  | some reason => some reason
  | none => if charger.any (·.faultIndicated) then some .chargerFault else none

/-! ## Contactor faults -/

/-- The runtime attributes `_contactor_*`. -/
structure ContactorVars where
  faultCounts : ContactorFault → Nat
  faultActiveReason : Option ContactorFault
  faultActiveSince : Option ℚ
  lockoutReason : Option ContactorFault
  suspectedOpenSince : Option ℚ
  suspectedWeldedSince : Option ℚ

namespace ContactorVars

/-- `_clear_contactor_fault_active_state`. -/
def clearFaultActiveState (c : ContactorVars) : ContactorVars :=
  { c with faultActiveReason := none, faultActiveSince := none }

/-- `_clear_contactor_suspicions`. -/
def clearSuspicions (c : ContactorVars) : ContactorVars :=
  { c.clearFaultActiveState with suspectedOpenSince := none, suspectedWeldedSince := none }

/-- `_active_contactor_lockout_health`. -/
def activeLockoutHealth (c : ContactorVars) : Option HealthOverride :=
  c.lockoutReason.map .contactorLockout

/-- `_activate_contactor_fault_reason`: the attributes and the time since which the fault is active. -/
def activateFaultReason (c : ContactorVars) (fault : ContactorFault) (now : ℚ) : ContactorVars × ℚ :=
  match c.faultActiveReason, c.faultActiveSince with
  | some active, some since => if active = fault then (c, since) else start
  | _, _ => start
where
  /-- A fault that was not active before is counted. -/
  start : ContactorVars × ℚ :=
    ({ c with
        faultCounts := fun f => if f = fault then c.faultCounts f + 1 else c.faultCounts f
        faultActiveReason := some fault
        faultActiveSince := some now }, now)

/-- `_remember_contactor_fault`. -/
def rememberFault (c : ContactorVars) (cfg : RelaySettings) (fault : ContactorFault) (now : ℚ) :
    ContactorVars × HealthOverride :=
  let (c, activeSince) := c.activateFaultReason fault now
  if 0 < cfg.autoContactorFaultLatchCount ∧ cfg.autoContactorFaultLatchCount ≤ c.faultCounts fault then
    ({ c with lockoutReason := some fault }, .contactorLockout fault)
  else if 0 < cfg.autoContactorFaultLatchSeconds ∧ cfg.autoContactorFaultLatchSeconds ≤ now - activeSince then
    ({ c with lockoutReason := some fault }, .contactorLockout fault)
  else (c, .contactorSuspected fault)

end ContactorVars

/-- `_switch_state_safety_override` for a fresh switch readback. -/
def switchFeedbackSafetyOverride (switch : Option SwitchReadback) (desiredRelay relayOn : Bool) :
    Option HealthOverride :=
  match switch with
  | none => none
  | some state =>
    if state.interlockOk = some false ∧ (desiredRelay || relayOn) then some .contactorInterlock
    else if state.feedbackClosed.any (· != relayOn) then some .contactorFeedbackMismatch
    else none

/-- A fault seen for the measured state alone is also seen with a wish. -/
theorem switchFeedbackSafetyOverride_isSome_of_relayOn {switch : Option SwitchReadback} {relayOn : Bool}
    (desiredRelay : Bool) (h : (switchFeedbackSafetyOverride switch relayOn relayOn).isSome) :
    (switchFeedbackSafetyOverride switch desiredRelay relayOn).isSome := by
  unfold switchFeedbackSafetyOverride at h ⊢
  cases switch with
  | none => exact h
  | some state =>
    cases relayOn with
    | true => simpa using h
    | false =>
      simp only [Bool.or_false, Bool.false_eq_true, and_false, ↓reduceIte] at h ⊢
      split
      · rfl
      · exact h

/-- The measured state of a cycle: `relay_on`, `power`, `current`, `pm_confirmed`. -/
structure RelayView where
  relayOn : Bool
  power : ℚ
  current : ℚ
  pmConfirmed : Bool

/-- `_contactor_power_threshold_w`. -/
def RelaySettings.contactorPowerThresholdW (cfg : RelaySettings) : ℚ :=
  (cfg.chargingThresholdWatts.map (max 100 ·)).getD 100

/-- `_contactor_current_threshold_a`. -/
def RelaySettings.contactorCurrentThresholdA (cfg : RelaySettings) : ℚ :=
  (cfg.minCurrent.map fun amps => max 1 (amps / 4)).getD 1

/-- `_charger_state_load_active`. -/
def chargerLoadActive (cfg : RelaySettings) (charger : Option ChargerReadback) : Bool :=
  charger.any fun state =>
    (state.powerW.any fun power => decide (cfg.contactorPowerThresholdW ≤ power)) ||
    (state.actualCurrentAmps.any fun amps => decide (cfg.contactorCurrentThresholdA ≤ amps))

/-- `_combined_load_active`. -/
def combinedLoadActive (cfg : RelaySettings) (view : RelayView) (charger : Option ChargerReadback) : Bool :=
  (view.pmConfirmed && (decide (cfg.contactorPowerThresholdW ≤ view.power) ||
    decide (cfg.contactorCurrentThresholdA ≤ view.current))) || chargerLoadActive cfg charger

/-- `_charger_state_requests_load`. -/
def chargerRequestsLoad (cfg : RelaySettings) (charger : Option ChargerReadback) : Bool :=
  chargerLoadActive cfg charger || charger.any (·.statusCharging)

/-- `_heuristic_condition_age`: the start of the condition and its age. -/
def heuristicConditionAge (since : Option ℚ) (conditionActive : Bool) (now : ℚ) : Option ℚ × Option ℚ :=
  if conditionActive then
    match since with
    | none => (some now, some 0)
    | some started => (some started, some (max 0 (now - started)))
  else (none, none)

namespace ContactorVars

/-- `_switch_feedback_heuristic_override`. -/
def heuristicOverride (c : ContactorVars) (cfg : RelaySettings) (view : RelayView)
    (charger : Option ChargerReadback) (now : ℚ) : ContactorVars × Option HealthOverride :=
  let load := combinedLoadActive cfg view charger
  let demand := chargerRequestsLoad cfg charger
  let (openSince, openAge) :=
    heuristicConditionAge c.suspectedOpenSince (view.relayOn && demand && !load) now
  let (weldedSince, weldedAge) :=
    heuristicConditionAge c.suspectedWeldedSince (!view.relayOn && load) now
  let c := { c with suspectedOpenSince := openSince, suspectedWeldedSince := weldedSince }
  let delay := max 0 cfg.autoShellySoftFailSeconds
  if weldedAge.any (decide <| delay ≤ ·) then
    let (c, reason) := c.rememberFault cfg .suspectedWelded now
    (c, some reason)
  else if openAge.any (decide <| delay ≤ ·) then
    let (c, reason) := c.rememberFault cfg .suspectedOpen now
    (c, some reason)
  else (c.clearFaultActiveState, none)

/-- `switch_feedback_health_override`: safety first, then a latched lockout, then the heuristics. -/
def switchFeedbackHealthOverride (c : ContactorVars) (cfg : RelaySettings) (switch : Option SwitchReadback)
    (charger : Option ChargerReadback) (desiredRelay : Bool) (view : RelayView) (now : ℚ) :
    ContactorVars × Option HealthOverride :=
  match switchFeedbackSafetyOverride switch desiredRelay view.relayOn with
  | some reason => (c.clearSuspicions, some reason)
  | none =>
    match c.activeLockoutHealth with
    | some reason => (c, some reason)
    | none => c.heuristicOverride cfg view charger now

/-- A safety override or a latched lockout always overrides the wanted state. -/
theorem switchFeedbackHealthOverride_isSome (c : ContactorVars) (cfg : RelaySettings)
    {switch : Option SwitchReadback} (charger : Option ChargerReadback) {desiredRelay : Bool}
    {view : RelayView} (now : ℚ)
    (h : (switchFeedbackSafetyOverride switch desiredRelay view.relayOn).isSome ∨
      c.activeLockoutHealth.isSome) :
    (c.switchFeedbackHealthOverride cfg switch charger desiredRelay view now).2.isSome := by
  unfold switchFeedbackHealthOverride
  cases hsafety : switchFeedbackSafetyOverride switch desiredRelay view.relayOn with
  | some reason => rfl
  | none =>
    simp only [hsafety, Option.isSome_none, Bool.false_eq_true, false_or] at h
    obtain ⟨reason, hreason⟩ := Option.isSome_iff_exists.mp h
    simp only [hreason, Option.isSome_some]

end ContactorVars

end VenusEvcharger
