import VenusEvcharger.Update.PhaseSwitch

/-!
# The relay part of one update cycle

`RuntimeCycleCoordinator.run` resolves the PM status, applies the startup target, advances the staged
phase switch, decides, lets a fault override the decision, lets Auto stage a phase change, and applies the
decision. Without a usable PM status the cycle only publishes the offline state.

Scope: learning, the ESS balance and the published measurements are left out. Another error than those
that the called component catches is not modelled.
-/

namespace VenusEvcharger

/-- What a cycle with a PM status decided, with the parts of the decision. -/
structure CycleReport where
  view : RelayView
  /-- The override of the staged phase switch. -/
  phaseSwitchOverride : Option Bool
  /-- The wanted relay state before faults are looked at. -/
  wantedRelay : Bool
  switchSafety : Option HealthOverride
  contactorLockout : Option HealthOverride
  switchHealth : Option HealthOverride
  chargerHealth : Option HealthOverride
  /-- The relay command that is pending when the decision is applied. -/
  pendingRelayState : Option Bool
  /-- The final decision. -/
  desiredRelay : Bool

/-- `extract_pm_measurements` and `pm_status_confirmed`. -/
def PmReading.view (pm : PmReading) : RelayView := ⟨pm.output, pm.apower, pm.current, pm.pmConfirmed⟩

namespace RelayService

open ConfirmedRelay (timestampAgeWithin)

/-! ## The startup target -/

section

variable (s : RelayService)

/-- `_apply_startup_manual_target`. Without a published placeholder the status of the cycle is changed to
the commanded state and stays marked as confirmed. -/
def applyPendingStartupTarget (cfg : RelaySettings) (target : Bool) (pm : PmReading)
    (i : CycleInput) : RelayService × PmReading :=
  let (s, result) := s.applyEnabledTarget cfg .startupTarget target i.now i.startupCall
  match result with
  | .raised _ => (s, pm)
  | .refused => (s, pm)
  | .applied =>
    let s := { s with control := { s.control with startupManualTarget := none } }
    if i.startupPublished then
      (s.publishLocalPmStatus true target i.now, (s.pm.publishLocalPmStatus target i.now).2)
    else (s, { pm with output := target, apower := 0, current := 0 })

/-- `apply_startup_manual_target`. -/
def applyStartupManualTarget (cfg : RelaySettings) (pm : PmReading) (i : CycleInput) :
    RelayService × PmReading :=
  match s.control.startupManualTarget with
  | none => (s, pm)
  | some target =>
    if s.autoModeActive then (s, pm)
    else if pm.output = target then
      ({ s with control := { s.control with startupManualTarget := none } }, pm)
    else s.applyPendingStartupTarget cfg target pm i

/-! ## The decision -/

/-- `_desired_relay_target`: outside Auto mode `decide_relay` hands the measured state back. -/
def desiredRelayTarget (view : RelayView) (override : Option Bool) (i : CycleInput) :
    Bool :=
  override.getD (if s.autoModeActive then i.autoDecision else view.relayOn)

/-- The write part of `apply_current_target`. -/
def applyCurrentTarget (cfg : RelaySettings) (desiredRelay : Bool) (i : CycleInput) :
    RelayService :=
  if desiredRelay && s.autoModeActive && !s.transport.retryActive i.now then
    match i.currentCall with
    | none => s
    | some .ok => { s with transport := .clear }
    | some (.failed none) => s
    | some (.failed (some reason)) => { s with transport := .rememberFailure cfg reason i.now }
  else s

/-- `_resolved_relay_decision` after the phase switch. -/
def resolveRelayDecision (cfg : RelaySettings) (view : RelayView)
    (override : Option Bool) (i : CycleInput) : RelayService × CycleReport :=
  let wanted := s.desiredRelayTarget view override i
  let health := s.contactor.switchFeedbackHealthOverride cfg i.switch i.charger wanted view i.now
  let lockout := s.contactor.activeLockoutHealth
  let chargerHealth := chargerHealthOverride cfg s.transport i.charger i.now
  let desired := wanted && health.2.isNone && chargerHealth.isNone
  let staged := { s with contactor := health.1 }.maybeApplyAutoPhaseSelection cfg desired view.relayOn i
  let desired := staged.2.getD desired
  (staged.1.applyCurrentTarget cfg desired i,
    { view := view
      phaseSwitchOverride := override
      wantedRelay := wanted
      switchSafety := switchFeedbackSafetyOverride i.switch wanted view.relayOn
      contactorLockout := lockout
      switchHealth := health.2
      chargerHealth := chargerHealth
      pendingRelayState := staged.1.queue.pendingRelayState
      desiredRelay := desired })

/-- `_relay_decision_noop`. -/
def relayDecisionNoop (desiredRelay relayOn : Bool) : Bool :=
  desiredRelay == relayOn || s.queue.relaySyncExpectedState == some desiredRelay

/-- `apply_relay_decision`: the relay state afterwards and whether it is confirmed. -/
def applyRelayDecision (cfg : RelaySettings) (desiredRelay relayOn pmConfirmed : Bool)
    (i : CycleInput) : RelayService × Bool × Bool :=
  if s.relayDecisionNoop desiredRelay relayOn then (s, relayOn, pmConfirmed)
  else
    let (s, result) := s.applyEnabledTarget cfg .relayDecision desiredRelay i.now i.decisionCall
    match result with
    | .applied => (s.publishLocalPmStatus i.decisionPublished desiredRelay i.now, desiredRelay, false)
    | .refused => (s, relayOn, pmConfirmed)
    | .raised none => (s, relayOn, pmConfirmed)
    | .raised (some reason) =>
      ({ s with transport := .rememberFailure cfg reason i.now }, relayOn, pmConfirmed)

/-- `_apply_relay_sync_health` and the start-stop display of `update_virtual_state`. -/
def finishCycle (relayOn relayConfirmed : Bool) (i : CycleInput) : RelayService :=
  { s with
    queue := s.queue.relaySyncHealthOverride relayOn relayConfirmed i.now
    control := if (i.charger.bind (·.enabled)).isSome then s.control
      else { s.control with virtualStartstop := relayOn } }

/-- The relay part of `publish_offline_update`: the display follows a fresh confirmed state, else off. -/
def publishOfflineUpdate (cfg : RelaySettings) (i : CycleInput) : RelayService :=
  let fresh := timestampAgeWithin s.pm.lastConfirmedPmStatusAt i.now cfg.relayStatusFreshnessSeconds
  let relayOn := fresh && s.pm.lastConfirmedPmStatus.any (·.output)
  if (i.charger.bind (·.enabled)).isSome then s
  else { s with control := { s.control with virtualStartstop := relayOn } }

/-! ## The cycle -/

/-- The first steps of a cycle: the PM status and the startup target. -/
def prepareOnlineUpdate (cfg : RelaySettings) (i : CycleInput) :
    RelayService × Option PmReading :=
  let resolved := s.pm.resolvePmStatusForUpdate cfg i.now
  let s := { s with pm := resolved.1 }
  match resolved.2 with
  | none => (s, none)
  | some pm =>
    let (s, pm) := s.applyStartupManualTarget cfg pm i
    (s, some pm)

/-- The cycle once the phase switch is done with its part. -/
def decideAndApply (cfg : RelaySettings) (pm : PmReading) (view : RelayView)
    (override : Option Bool) (i : CycleInput) : RelayService × CycleReport :=
  let (s, report) := s.resolveRelayDecision cfg view override i
  let (s, relayOn, relayConfirmed) :=
    s.applyRelayDecision cfg report.desiredRelay view.relayOn pm.pmConfirmed i
  (s.finishCycle relayOn relayConfirmed i, report)

/-- `RuntimeCycleCoordinator.run`. There is no report where the cycle takes no decision: without a PM
status, or after an error that leaves the cycle. -/
def runUpdateCycle (cfg : RelaySettings) (i : CycleInput) :
    RelayService × Option CycleReport :=
  match s.prepareOnlineUpdate cfg i with
  | (s, none) => (s.publishOfflineUpdate cfg i, none)
  | (s, some pm) =>
    let pass := s.orchestratePendingPhaseSwitch cfg pm pm.view i
    match pass.result with
    | none => (pass.service, none)
    | some (view, override) =>
      let (s, report) := pass.service.decideAndApply cfg pm view override i
      (s, some report)

end

/-! ## What the startup target does -/

section Startup

variable (s : RelayService) (cfg : RelaySettings) (pm : PmReading) (i : CycleInput)

/-- The startup target that this cycle still has to bring about. -/
def startupTargetDue : Option Bool :=
  s.control.startupManualTarget.filter fun target => !s.autoModeActive && pm.output != target

/-- The effects of bringing about a startup target. -/
def startupEffects : List RelayEffect :=
  match s.startupTargetDue pm with
  | some target => if s.issues cfg i.now then [cfg.commandEffect .startupTarget target] else []
  | none => []

theorem applyStartupManualTarget_cases :
    (s.startupTargetDue pm = none ∧ ∃ control : ControlVars,
      control.virtualMode = s.control.virtualMode ∧
      s.applyStartupManualTarget cfg pm i = ({ s with control := control }, pm)) ∨
    ∃ target, s.startupTargetDue pm = some target ∧
      s.applyStartupManualTarget cfg pm i = s.applyPendingStartupTarget cfg target pm i := by
  unfold applyStartupManualTarget startupTargetDue
  cases s.control.startupManualTarget with
  | none => exact .inl ⟨rfl, s.control, rfl, rfl⟩
  | some target =>
    cases s.autoModeActive with
    | true => exact .inl ⟨by simp, s.control, rfl, rfl⟩
    | false =>
      by_cases houtput : pm.output = target
      · exact .inl ⟨by simp [houtput], { s.control with startupManualTarget := none }, rfl,
          by simp [houtput]⟩
      · exact .inr ⟨target, by simp [Option.filter_some, houtput], by simp [houtput]⟩

/-- Applying the target sends its command, in the same mode and with the same phase variables. -/
theorem applyPendingStartupTarget_frame (target : Bool) :
    let after := (s.applyPendingStartupTarget cfg target pm i).1
    after.control.virtualMode = s.control.virtualMode ∧ after.phase = s.phase ∧
      after.contactor = s.contactor ∧
      after.queue = (if cfg.chargerEnableBackend then s.queue else .queueRelayCommand cfg target i.now) ∧
      after.log = s.log ++
        if s.issues cfg i.now then [cfg.commandEffect .startupTarget target] else [] := by
  have hcontrol := s.applyEnabledTarget_control cfg .startupTarget target i.now i.startupCall
  have hphase := s.applyEnabledTarget_phase cfg .startupTarget target i.now i.startupCall
  have hcontactor := s.applyEnabledTarget_contactor cfg .startupTarget target i.now i.startupCall
  have hqueue := s.applyEnabledTarget_queue cfg .startupTarget target i.now i.startupCall
  have hlog := s.applyEnabledTarget_log cfg .startupTarget target i.now i.startupCall
  unfold applyPendingStartupTarget
  cases hresult : (s.applyEnabledTarget cfg .startupTarget target i.now i.startupCall).2 with
  | raised reason => simp only [hresult, hcontrol, hphase, hcontactor, hqueue, hlog, and_self]
  | refused => simp only [hresult, hcontrol, hphase, hcontactor, hqueue, hlog, and_self]
  | applied =>
    simp only [hresult]
    split
    · simp [hqueue, hlog]
    · simp [hqueue, hlog]

/-- What the first steps of a cycle leave alone. -/
theorem applyStartupManualTarget_frame :
    let after := (s.applyStartupManualTarget cfg pm i).1
    after.control.virtualMode = s.control.virtualMode ∧ after.phase = s.phase ∧
      after.contactor = s.contactor ∧ after.log = s.log ++ s.startupEffects cfg pm i := by
  rcases s.applyStartupManualTarget_cases cfg pm i with ⟨hdue, control, hmode, hpair⟩ | ⟨target, hdue, hpair⟩
  · rw [hpair]
    exact ⟨hmode, rfl, rfl, by simp [startupEffects, hdue]⟩
  · rw [hpair]
    obtain ⟨hmode, hphase, hcontactor, -, hlog⟩ := s.applyPendingStartupTarget_frame cfg pm i target
    exact ⟨hmode, hphase, hcontactor, by rw [hlog, startupEffects, hdue]⟩

end Startup

/-! ## What a decision does -/

section Decision

variable (s : RelayService) (cfg : RelaySettings) (pm : PmReading) (view : RelayView)
  (override : Option Bool) (i : CycleInput)

@[simp] theorem applyCurrentTarget_control (desiredRelay : Bool) :
    (s.applyCurrentTarget cfg desiredRelay i).control = s.control := by
  unfold applyCurrentTarget
  split
  · split <;> rfl
  · rfl

@[simp] theorem applyCurrentTarget_phase (desiredRelay : Bool) :
    (s.applyCurrentTarget cfg desiredRelay i).phase = s.phase := by
  unfold applyCurrentTarget
  split
  · split <;> rfl
  · rfl

@[simp] theorem applyCurrentTarget_queue (desiredRelay : Bool) :
    (s.applyCurrentTarget cfg desiredRelay i).queue = s.queue := by
  unfold applyCurrentTarget
  split
  · split <;> rfl
  · rfl

@[simp] theorem applyCurrentTarget_log (desiredRelay : Bool) :
    (s.applyCurrentTarget cfg desiredRelay i).log = s.log := by
  unfold applyCurrentTarget
  split
  · split <;> rfl
  · rfl

/-- The contactor state does not matter to Auto staging. -/
theorem maybeApplyAutoPhaseSelection_step_of_contactor (contactor : ContactorVars)
    (desiredRelay relayOn : Bool) : s.AutoStep cfg relayOn i
      ({ s with contactor := contactor }.maybeApplyAutoPhaseSelection cfg desiredRelay relayOn i) := by
  have h := { s with contactor := contactor }.maybeApplyAutoPhaseSelection_step cfg desiredRelay relayOn i
  exact ⟨h.control_eq, h.queue_eq, h.transport_eq, h.override_off, h.resume_cases, h.log_eq⟩

/-- What resolving the decision leaves alone, and the phase application that it may make. -/
theorem resolveRelayDecision_frame :
    let after := (s.resolveRelayDecision cfg view override i).1
    after.control = s.control ∧ after.queue = s.queue ∧
      (after.phase.resumeRelay = true → s.phase.resumeRelay = true ∨ s.autoModeActive = true) ∧
      ∃ applied, s.AutoApplication cfg view.relayOn i applied ∧ after.log = s.log ++ applied := by
  have hstep := fun contactor desired =>
    s.maybeApplyAutoPhaseSelection_step_of_contactor cfg i contactor desired view.relayOn
  refine ⟨?_, ?_, ?_, ?_⟩
  · simp only [resolveRelayDecision, applyCurrentTarget_control]
    exact (hstep _ _).control_eq
  · simp only [resolveRelayDecision, applyCurrentTarget_queue]
    exact (hstep _ _).queue_eq
  · simp only [resolveRelayDecision, applyCurrentTarget_phase]
    exact (hstep _ _).resume_cases
  · simp only [resolveRelayDecision, applyCurrentTarget_log]
    exact (hstep _ _).log_eq

/-- The final decision switches on only what is wanted, with no fault in the way. -/
theorem wanted_of_desiredRelay
    (h : (s.resolveRelayDecision cfg view override i).2.desiredRelay = true) :
    let report := (s.resolveRelayDecision cfg view override i).2
    report.wantedRelay = true ∧ report.switchHealth = none ∧ report.chargerHealth = none := by
  simp only [resolveRelayDecision] at h ⊢
  rcases (s.maybeApplyAutoPhaseSelection_step_of_contactor cfg i _ _ view.relayOn).override_off
    with hnone | hoff
  · rw [hnone, Option.getD_none] at h
    simpa [and_assoc] using h
  · rw [hoff] at h
    cases h

theorem report_pendingRelayState :
    (s.resolveRelayDecision cfg view override i).2.pendingRelayState = s.queue.pendingRelayState := by
  have hqueue := (s.resolveRelayDecision_frame cfg view override i).2.1
  have heq : (s.resolveRelayDecision cfg view override i).2.pendingRelayState =
      (s.resolveRelayDecision cfg view override i).1.queue.pendingRelayState := by
    simp [resolveRelayDecision]
  rw [heq, hqueue]

variable (desiredRelay relayOn pmConfirmed : Bool)

@[simp] theorem applyRelayDecision_control :
    (s.applyRelayDecision cfg desiredRelay relayOn pmConfirmed i).1.control = s.control := by
  unfold applyRelayDecision
  split
  · rfl
  · cases hresult : (s.applyEnabledTarget cfg .relayDecision desiredRelay i.now i.decisionCall).2 with
    | applied => simp [hresult]
    | refused => simp [hresult]
    | raised reason => cases reason <;> simp [hresult]

@[simp] theorem applyRelayDecision_phase :
    (s.applyRelayDecision cfg desiredRelay relayOn pmConfirmed i).1.phase = s.phase := by
  unfold applyRelayDecision
  split
  · rfl
  · cases hresult : (s.applyEnabledTarget cfg .relayDecision desiredRelay i.now i.decisionCall).2 with
    | applied => simp [hresult]
    | refused => simp [hresult]
    | raised reason => cases reason <;> simp [hresult]

theorem applyRelayDecision_queue :
    (s.applyRelayDecision cfg desiredRelay relayOn pmConfirmed i).1.queue =
      if s.relayDecisionNoop desiredRelay relayOn || cfg.chargerEnableBackend then s.queue
      else .queueRelayCommand cfg desiredRelay i.now := by
  have hqueue := s.applyEnabledTarget_queue cfg .relayDecision desiredRelay i.now i.decisionCall
  unfold applyRelayDecision
  cases s.relayDecisionNoop desiredRelay relayOn with
  | true => rfl
  | false =>
    rw [Bool.false_or, ← hqueue]
    cases hresult : (s.applyEnabledTarget cfg .relayDecision desiredRelay i.now i.decisionCall).2 with
    | applied => simp [hresult]
    | refused => simp [hresult]
    | raised reason => cases reason <;> simp [hresult]

theorem applyRelayDecision_log :
    (s.applyRelayDecision cfg desiredRelay relayOn pmConfirmed i).1.log = s.log ++
      if !s.relayDecisionNoop desiredRelay relayOn && s.issues cfg i.now then
        [cfg.commandEffect .relayDecision desiredRelay] else [] := by
  have hlog := s.applyEnabledTarget_log cfg .relayDecision desiredRelay i.now i.decisionCall
  unfold applyRelayDecision
  cases s.relayDecisionNoop desiredRelay relayOn with
  | true => exact (List.append_nil _).symm
  | false =>
    rw [Bool.not_false, Bool.true_and, ← hlog]
    cases hresult : (s.applyEnabledTarget cfg .relayDecision desiredRelay i.now i.decisionCall).2 with
    | applied => simp [hresult]
    | refused => simp [hresult]
    | raised reason => cases reason <;> simp [hresult]

@[simp] theorem finishCycle_phase (relayConfirmed : Bool) :
    (s.finishCycle relayOn relayConfirmed i).phase = s.phase := rfl

@[simp] theorem finishCycle_log (relayConfirmed : Bool) :
    (s.finishCycle relayOn relayConfirmed i).log = s.log := rfl

@[simp] theorem finishCycle_mode (relayConfirmed : Bool) :
    (s.finishCycle relayOn relayConfirmed i).control.virtualMode = s.control.virtualMode := by
  unfold finishCycle
  simp only
  split <;> rfl

@[simp] theorem publishOfflineUpdate_mode :
    (s.publishOfflineUpdate cfg i).control.virtualMode = s.control.virtualMode := by
  unfold publishOfflineUpdate
  simp only
  split <;> rfl

@[simp] theorem publishOfflineUpdate_phase : (s.publishOfflineUpdate cfg i).phase = s.phase := by
  unfold publishOfflineUpdate
  simp only
  split <;> rfl

@[simp] theorem publishOfflineUpdate_queue : (s.publishOfflineUpdate cfg i).queue = s.queue := by
  unfold publishOfflineUpdate
  simp only
  split <;> rfl

@[simp] theorem publishOfflineUpdate_log : (s.publishOfflineUpdate cfg i).log = s.log := by
  unfold publishOfflineUpdate
  simp only
  split <;> rfl

@[simp] theorem decideAndApply_report :
    (s.decideAndApply cfg pm view override i).2 = (s.resolveRelayDecision cfg view override i).2 := rfl

theorem decideAndApply_log :
    ∃ applied command, s.AutoApplication cfg view.relayOn i applied ∧
      (command = [] ∨ command = [cfg.commandEffect .relayDecision
        (s.resolveRelayDecision cfg view override i).2.desiredRelay]) ∧
      (s.decideAndApply cfg pm view override i).1.log = s.log ++ applied ++ command := by
  obtain ⟨-, -, -, applied, happlied, hlog⟩ := s.resolveRelayDecision_frame cfg view override i
  have hdecision := (s.resolveRelayDecision cfg view override i).1.applyRelayDecision_log cfg i
    (s.resolveRelayDecision cfg view override i).2.desiredRelay view.relayOn pm.pmConfirmed
  rw [hlog] at hdecision
  refine ⟨applied, _, happlied, ?_, hdecision⟩
  split
  · exact .inr rfl
  · exact .inl rfl

/-- Deciding keeps the mode, and arms the resume latch in Auto mode only. -/
theorem decideAndApply_frame :
    let after := (s.decideAndApply cfg pm view override i).1
    after.control.virtualMode = s.control.virtualMode ∧
      (after.phase.resumeRelay = true → s.phase.resumeRelay = true ∨ s.autoModeActive = true) := by
  obtain ⟨hcontrol, -, hresume, -⟩ := s.resolveRelayDecision_frame cfg view override i
  refine ⟨?_, ?_⟩
  · simp only [decideAndApply, finishCycle_mode, applyRelayDecision_control, hcontrol]
  · simpa only [decideAndApply, finishCycle_phase, applyRelayDecision_phase] using hresume

/-- The command that is pending after the decision. -/
theorem decideAndApply_pending :
    (s.decideAndApply cfg pm view override i).1.queue.pendingRelayState =
      let desired := (s.resolveRelayDecision cfg view override i).2.desiredRelay
      if s.relayDecisionNoop desired view.relayOn || cfg.chargerEnableBackend then
        s.queue.pendingRelayState
      else some desired := by
  obtain ⟨-, hqueue, -⟩ := s.resolveRelayDecision_frame cfg view override i
  simp only [decideAndApply, finishCycle, RelayQueue.relaySyncHealthOverride_pending,
    applyRelayDecision_queue, relayDecisionNoop, hqueue, apply_ite RelayQueue.pendingRelayState,
    RelayQueue.queueRelayCommand_pending]
  rfl

end Decision

/-! ## The steps of a cycle -/

section

variable (s : RelayService) (cfg : RelaySettings) (i : CycleInput)

/-- The service once the PM status of a cycle is resolved. -/
def resolved : RelayService :=
  { s with pm := (s.pm.resolvePmStatusForUpdate cfg i.now).1 }

/-- The PM status that a cycle starts from. -/
def resolvedStatus : Option PmReading :=
  (s.pm.resolvePmStatusForUpdate cfg i.now).2

theorem prepareOnlineUpdate_eq :
    s.prepareOnlineUpdate cfg i =
      match s.resolvedStatus cfg i with
      | none => (s.resolved cfg i, none)
      | some pm => (((s.resolved cfg i).applyStartupManualTarget cfg pm i).1,
          some ((s.resolved cfg i).applyStartupManualTarget cfg pm i).2) := rfl

/-- The effects of the first steps of a cycle. -/
def preparationEffects : List RelayEffect :=
  match s.resolvedStatus cfg i with
  | none => []
  | some pm => s.startupEffects cfg pm i

/-- The first steps of a cycle only bring about the startup target. -/
theorem preparationEffects_origin :
    ∀ effect ∈ s.preparationEffects cfg i, effect.origin = some .startupTarget := by
  unfold preparationEffects startupEffects
  cases s.resolvedStatus cfg i with
  | none => simp
  | some pm =>
    simp only
    cases s.startupTargetDue pm with
    | none => simp
    | some target =>
      simp only
      split
      · simp
      · simp

end

theorem prepareOnlineUpdate_frame (s : RelayService) (cfg : RelaySettings) (i : CycleInput) :
    let after := (s.prepareOnlineUpdate cfg i).1
    after.control.virtualMode = s.control.virtualMode ∧ after.phase = s.phase ∧
      after.contactor = s.contactor ∧ after.log = s.log ++ s.preparationEffects cfg i := by
  rw [prepareOnlineUpdate_eq, preparationEffects]
  cases s.resolvedStatus cfg i with
  | none => exact ⟨rfl, rfl, rfl, (List.append_nil _).symm⟩
  | some pm => exact (s.resolved cfg i).applyStartupManualTarget_frame cfg pm i

/-- How a cycle ends: offline, by an error in the phase switch, or with a decision. -/
inductive CycleStep (s : RelayService) (cfg : RelaySettings) (i : CycleInput) :
    RelayService × Option CycleReport → Prop
  | offline (hpm : (s.prepareOnlineUpdate cfg i).2 = none) :
      CycleStep s cfg i ((s.prepareOnlineUpdate cfg i).1.publishOfflineUpdate cfg i, none)
  | left (pm : PmReading) (pass : SwitchPass) (hpm : (s.prepareOnlineUpdate cfg i).2 = some pm)
      (hstep : SwitchStep (s.prepareOnlineUpdate cfg i).1 cfg pm pm.view i pass)
      (hresult : pass.result = none) : CycleStep s cfg i (pass.service, none)
  | decided (pm : PmReading) (pass : SwitchPass) (view : RelayView) (override : Option Bool)
      (hpm : (s.prepareOnlineUpdate cfg i).2 = some pm)
      (hstep : SwitchStep (s.prepareOnlineUpdate cfg i).1 cfg pm pm.view i pass)
      (hresult : pass.result = some (view, override)) :
      CycleStep s cfg i ((pass.service.decideAndApply cfg pm view override i).1,
        some (pass.service.decideAndApply cfg pm view override i).2)

/-- Every cycle ends in one of these ways. -/
theorem runUpdateCycle_step (s : RelayService) (cfg : RelaySettings) (i : CycleInput) :
    CycleStep s cfg i (s.runUpdateCycle cfg i) := by
  unfold runUpdateCycle
  split
  · next service hprepare =>
    have h := @CycleStep.offline s cfg i (by rw [hprepare])
    rwa [hprepare] at h
  · next service pm hprepare =>
    have hpm : (s.prepareOnlineUpdate cfg i).2 = some pm := by rw [hprepare]
    have hstep := service.orchestrate_step cfg pm pm.view i
    have hservice : (s.prepareOnlineUpdate cfg i).1 = service := by rw [hprepare]
    rw [← hservice] at hstep ⊢
    simp only
    split
    · next hresult => exact .left pm _ hpm hstep hresult
    · next view override hresult => exact .decided pm _ view override hpm hstep hresult

/-- Where an effect of a cycle comes from. -/
inductive CycleEffect (s : RelayService) (cfg : RelaySettings) (i : CycleInput) : RelayEffect → Prop
  | startup (effect : RelayEffect) (hmem : effect ∈ s.preparationEffects cfg i) : CycleEffect s cfg i effect
  | staged (pm : PmReading) (applied : List RelayEffect) (effect : RelayEffect)
      (hpm : (s.prepareOnlineUpdate cfg i).2 = some pm)
      (happlied : (s.prepareOnlineUpdate cfg i).1.StagedApplication cfg pm.view i applied)
      (hmem : effect ∈ applied) : CycleEffect s cfg i effect
  | resume (pm : PmReading) (hpm : (s.prepareOnlineUpdate cfg i).2 = some pm)
      (hresume : (s.prepareOnlineUpdate cfg i).1.resumeIssues cfg pm pm.view i = true) :
      CycleEffect s cfg i (cfg.commandEffect .phaseSwitchResume true)
  | auto (pm : PmReading) (pass : SwitchPass) (view : RelayView) (override : Option Bool)
      (applied : List RelayEffect) (effect : RelayEffect)
      (hpm : (s.prepareOnlineUpdate cfg i).2 = some pm)
      (hstep : SwitchStep (s.prepareOnlineUpdate cfg i).1 cfg pm pm.view i pass)
      (hresult : pass.result = some (view, override))
      (happlied : pass.service.AutoApplication cfg view.relayOn i applied)
      (hmem : effect ∈ applied) : CycleEffect s cfg i effect
  | decision (on : Bool) : CycleEffect s cfg i (cfg.commandEffect .relayDecision on)

theorem runUpdateCycle_effect {s : RelayService} {cfg : RelaySettings} {i : CycleInput}
    (hlog : s.log = []) {effect : RelayEffect} (h : effect ∈ (s.runUpdateCycle cfg i).1.log) :
    CycleEffect s cfg i effect := by
  obtain ⟨-, -, -, hprepare⟩ := s.prepareOnlineUpdate_frame cfg i
  rw [hlog, List.nil_append] at hprepare
  have hpass : ∀ pm pass, (s.prepareOnlineUpdate cfg i).2 = some pm →
      SwitchStep (s.prepareOnlineUpdate cfg i).1 cfg pm pm.view i pass →
      effect ∈ pass.service.log → CycleEffect s cfg i effect := by
    intro pm pass hpm hstep hmem
    obtain ⟨applied, happlied, hpasslog⟩ := hstep.log
    rw [hpasslog, hprepare, List.mem_append, List.mem_append] at hmem
    rcases hmem with (hmem | hmem) | hmem
    · exact .startup effect hmem
    · exact .staged pm applied effect hpm happlied hmem
    · split at hmem
      · next hresume =>
        rw [List.mem_singleton.mp hmem]
        exact .resume pm hpm hresume
      · cases hmem
  have hcycle := s.runUpdateCycle_step cfg i
  generalize s.runUpdateCycle cfg i = ended at hcycle h
  cases hcycle with
  | offline hpm =>
    rw [publishOfflineUpdate_log, hprepare] at h
    exact .startup effect h
  | left pm pass hpm hstep hresult => exact hpass pm pass hpm hstep h
  | decided pm pass view override hpm hstep hresult =>
    obtain ⟨applied, command, happlied, hcommand, hdecided⟩ :=
      pass.service.decideAndApply_log cfg pm view override i
    rw [hdecided, List.mem_append, List.mem_append] at h
    rcases h with (h | h) | h
    · exact hpass pm pass hpm hstep h
    · exact .auto pm pass view override applied effect hpm hstep hresult happlied h
    · rcases hcommand with rfl | rfl
      · cases h
      · rw [List.mem_singleton.mp h]
        exact .decision _

/-- A cycle keeps the mode, and arms the resume latch in Auto mode only. -/
theorem runUpdateCycle_frame (s : RelayService) (cfg : RelaySettings) (i : CycleInput) :
    let after := (s.runUpdateCycle cfg i).1
    after.control.virtualMode = s.control.virtualMode ∧
      (after.phase.resumeRelay = true → s.phase.resumeRelay = true ∨ s.autoModeActive = true) := by
  obtain ⟨hmode, hphase, -, -⟩ := s.prepareOnlineUpdate_frame cfg i
  have hcycle := s.runUpdateCycle_step cfg i
  generalize s.runUpdateCycle cfg i = ended at hcycle
  cases hcycle with
  | offline hpm =>
    refine ⟨by simpa using hmode, fun h => .inl ?_⟩
    simpa [hphase] using h
  | left pm pass hpm hstep hresult =>
    obtain ⟨hpassmode, -, hlatch⟩ := hstep.frame
    exact ⟨hpassmode.trans hmode, fun h => .inl (hphase ▸ hlatch h)⟩
  | decided pm pass view override hpm hstep hresult =>
    obtain ⟨hpassmode, -, hlatch⟩ := hstep.frame
    obtain ⟨hdecided, hresume⟩ := pass.service.decideAndApply_frame cfg pm view override i
    refine ⟨hdecided.trans (hpassmode.trans hmode), fun h => ?_⟩
    rcases hresume h with hbefore | hauto
    · exact .inl (hphase ▸ hlatch hbefore)
    · refine .inr ?_
      rwa [autoModeActive, hpassmode, hmode] at hauto

end RelayService

end VenusEvcharger
