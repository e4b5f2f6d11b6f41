import VenusEvcharger.Update.RelayService

/-!
# The staged phase switch

A backend that needs a pause changes the phase selection in three steps: wait for the relay to be off,
apply, and wait for the readback. `PhaseSwitchCoordinator` advances the switch once per cycle,
`PhaseSwitchRecovery` ends it and resumes the relay, and `AutoPhaseSwitchController` stages switches of
Auto mode or applies them at once.

Scope: the Auto target selection, its delay and the outcomes of all calls are inputs of the cycle. Health
reports, warnings and metrics are left out.
-/

namespace VenusEvcharger

/-- What an update cycle reads from outside, and how the calls that it makes end. -/
structure CycleInput where
  now : ℚ
  charger : Option ChargerReadback
  switch : Option SwitchReadback
  /-- The answer of the Auto decision, which is asked for in Auto mode only. -/
  autoDecision : Bool
  /-- The target of `_auto_phase_target_selection`, when it differs from the current selection. -/
  autoPhaseTarget : Option PhaseSelection
  /-- `_auto_phase_switch_delay_seconds`. -/
  autoPhaseDelaySeconds : ℚ
  startupCall : CallOutcome
  startupPublished : Bool
  phaseApplied : Bool
  /-- `save_runtime_state` right after the staged selection was applied. -/
  phaseSaved : Bool
  resumeCall : CallOutcome
  resumePublished : Bool
  /-- `save_runtime_state` at the end of the switch. -/
  resumeSaved : Bool
  autoPhaseApplied : Bool
  stagePublished : Bool
  /-- The call of `apply_current_target`, when there is a new target. -/
  currentCall : Option CallOutcome
  decisionCall : CallOutcome
  decisionPublished : Bool

/-- A cycle without backend readbacks and Auto wishes, in which every call succeeds. -/
def CycleInput.calm (now : ℚ) : CycleInput where
  now := now
  charger := none
  switch := none
  autoDecision := false
  autoPhaseTarget := none
  autoPhaseDelaySeconds := 0
  startupCall := .ok
  startupPublished := true
  phaseApplied := true
  phaseSaved := true
  resumeCall := .ok
  resumePublished := true
  resumeSaved := true
  autoPhaseApplied := true
  stagePublished := true
  currentCall := none
  decisionCall := .ok
  decisionPublished := true

/-! ## Mismatch and lockout bookkeeping -/

namespace PhaseVars

section

variable (p : PhaseVars)

/-- `clear_phase_switch_state`. -/
def clearPhaseSwitchState : PhaseVars :=
  { p with
    pendingSelection := none
    state := none
    requestedAt := none
    stableUntil := none
    resumeRelay := false
    mismatchActive := false }

/-- `_stage_phase_switch` and `_queue_phase_switch_state`. -/
def stagePhaseSwitch (selection : PhaseSelection) (now : ℚ) (resumeRelay : Bool) :
    PhaseVars :=
  { p with
    requestedPhaseSelection := selection
    pendingSelection := some selection
    state := some .waitingRelayOff
    requestedAt := some now
    stableUntil := none
    resumeRelay := resumeRelay }

/-- `_clear_phase_switch_lockout`. -/
def clearPhaseSwitchLockout : PhaseVars :=
  { p with lockoutSelection := none, lockoutUntil := none }

/-- `_clear_phase_switch_mismatch_tracking` for one selection. -/
def clearPhaseSwitchMismatchTracking (selection : PhaseSelection) : PhaseVars :=
  let p := { p with
    mismatchActive := false
    mismatchCounts := fun other => if other = selection then 0 else p.mismatchCounts other }
  if p.lastMismatchSelection = some selection then
    { p with lastMismatchSelection := none, lastMismatchAt := none }
  else p

/-- `_clear_matching_phase_switch_lockout`. -/
def clearMatchingPhaseSwitchLockout (selection : PhaseSelection) : PhaseVars :=
  if p.lockoutSelection = some selection then p.clearPhaseSwitchLockout else p

/-- `_remember_phase_switch_mismatch`. -/
def rememberPhaseSwitchMismatch (selection : PhaseSelection) (now : ℚ) : PhaseVars :=
  { p with
    mismatchActive := true
    mismatchCounts := fun other =>
      if other = selection then p.mismatchCounts other + 1 else p.mismatchCounts other
    lastMismatchSelection := some selection
    lastMismatchAt := some now }

/-- `_engage_phase_switch_lockout`. -/
def engagePhaseSwitchLockout (cfg : RelaySettings) (selection : PhaseSelection) (now : ℚ) :
    PhaseVars :=
  if cfg.mismatchLockoutSeconds ≤ 0 then p.clearPhaseSwitchLockout
  else { p with
    lockoutSelection := some selection
    lockoutUntil := some (now + cfg.mismatchLockoutSeconds) }

/-- `_report_phase_switch_mismatch`. -/
def reportPhaseSwitchMismatch (cfg : RelaySettings) (selection : PhaseSelection) (now : ℚ) :
    PhaseVars :=
  let p := p.rememberPhaseSwitchMismatch selection now
  if 0 < cfg.mismatchLockoutCount ∧ cfg.mismatchLockoutCount ≤ p.mismatchCounts selection then
    p.engagePhaseSwitchLockout cfg selection now
  else p

/-- `_clear_auto_phase_candidate`. -/
def clearAutoPhaseCandidate : PhaseVars :=
  { p with autoTargetCandidate := none, autoTargetSince := none }

@[simp] theorem clearPhaseSwitchMismatchTracking_resumeRelay (selection : PhaseSelection) :
    (p.clearPhaseSwitchMismatchTracking selection).resumeRelay = p.resumeRelay := by
  unfold clearPhaseSwitchMismatchTracking
  simp only
  split <;> rfl

@[simp] theorem clearMatchingPhaseSwitchLockout_resumeRelay (selection : PhaseSelection) :
    (p.clearMatchingPhaseSwitchLockout selection).resumeRelay = p.resumeRelay := by
  unfold clearMatchingPhaseSwitchLockout
  split <;> rfl

@[simp] theorem engagePhaseSwitchLockout_resumeRelay (cfg : RelaySettings)
    (selection : PhaseSelection) (now : ℚ) :
    (p.engagePhaseSwitchLockout cfg selection now).resumeRelay = p.resumeRelay := by
  unfold engagePhaseSwitchLockout
  split <;> rfl

@[simp] theorem reportPhaseSwitchMismatch_resumeRelay (cfg : RelaySettings)
    (selection : PhaseSelection) (now : ℚ) :
    (p.reportPhaseSwitchMismatch cfg selection now).resumeRelay = p.resumeRelay := by
  unfold reportPhaseSwitchMismatch
  simp only
  split
  · exact engagePhaseSwitchLockout_resumeRelay _ cfg selection now
  · rfl

end

end PhaseVars

/-! ## Timing -/

/-- `_phase_switch_pause_seconds`. -/
def RelaySettings.pauseSeconds (cfg : RelaySettings) : ℚ :=
  (cfg.phaseSwitchPauseSeconds.map (max 0 ·)).getD 1

/-- `_phase_switch_stabilization_seconds`. -/
def RelaySettings.stabilizationSeconds (cfg : RelaySettings) : ℚ :=
  (cfg.phaseSwitchStabilizationSeconds.map (max 0 ·)).getD 2

/-- `_phase_switch_pause_elapsed`. -/
def PhaseVars.pauseElapsed (p : PhaseVars) (cfg : RelaySettings) (now : ℚ) : Bool :=
  p.requestedAt.all fun requested => decide (cfg.pauseSeconds ≤ now - requested)

/-- `_phase_switch_still_stabilizing`. -/
def PhaseVars.stillStabilizing (p : PhaseVars) (now : ℚ) : Bool :=
  p.stableUntil.any (decide <| now < ·)

/-- `_phase_switch_verification_deadline`. -/
def PhaseVars.verificationDeadline (p : PhaseVars) (cfg : RelaySettings) : Option ℚ :=
  let softFail := max 0 cfg.autoShellySoftFailSeconds
  match p.stableUntil with
  | some stable => some (stable + softFail)
  | none => p.requestedAt.map (· + cfg.pauseSeconds + cfg.stabilizationSeconds + softFail)

/-- `_phase_switch_verification_expired`. -/
def PhaseVars.verificationExpired (p : PhaseVars) (cfg : RelaySettings) (now : ℚ) : Bool :=
  (p.verificationDeadline cfg).any (decide <| · ≤ now)

/-- `_observed_phase_selection`: from the PM status, else from the charger readback. -/
def observedPhaseSelection (pm : PmReading) (i : CycleInput) : Option PhaseSelection :=
  match pm.phaseSelection with
  | some observed => some observed
  | none => i.charger.bind (·.phaseSelection)

/-! ## Ending a switch -/

/-- What the coordinator returns: the service, and the view of the relay with the override of the
decision. A failed save that nobody catches leaves the cycle, with no view. -/
structure SwitchPass where
  service : RelayService
  result : Option (RelayView × Option Bool)

namespace RelayService

section

variable (s : RelayService) (cfg : RelaySettings)

/-- `_resume_relay_after_phase_switch`. -/
def resumeRelayAfterPhaseSwitch (view : RelayView)
    (i : CycleInput) : SwitchPass :=
  let (s, result) := s.applyEnabledTarget cfg .phaseSwitchResume true i.now i.resumeCall
  let saved (view : RelayView) := if i.resumeSaved then some (view, none) else none
  match result with
  | .raised _ => ⟨s, saved view⟩
  | .refused => ⟨s, saved view⟩
  | .applied => ⟨s.publishLocalPmStatus i.resumePublished true i.now, saved ⟨true, 0, 0, false⟩⟩

/-- `_resume_after_phase_switch_pause`: in Auto mode the decision is only freed from its off-time, in
manual mode the relay is switched on again. -/
def resumeAfterPhaseSwitchPause (view : RelayView)
    (i : CycleInput) : SwitchPass :=
  let resumeRelay := s.phase.resumeRelay
  let s := { s with phase := s.phase.clearPhaseSwitchState }
  if resumeRelay then
    if s.autoModeActive then
      ⟨{ s with control := { s.control with ignoreMinOfftimeOnce := true } },
        if i.resumeSaved then some (view, none) else none⟩
    else s.resumeRelayAfterPhaseSwitch cfg view i
  else ⟨s, if i.resumeSaved then some (view, none) else none⟩

/-- `_abort_pending_phase_switch`. -/
def abortPendingPhaseSwitch (view : RelayView) (i : CycleInput) :
    SwitchPass :=
  { s with phase := { s.phase with requestedPhaseSelection := s.phase.activePhaseSelection } }
    |>.resumeAfterPhaseSwitchPause cfg view i

/-- `_abort_phase_switch_after_mismatch`; the fallback is the observed, else the active selection. -/
def abortPhaseSwitchAfterMismatch
    (observed : Option PhaseSelection) (view : RelayView) (i : CycleInput) : SwitchPass :=
  let fallback := observed.getD s.phase.activePhaseSelection
  { s with phase := { s.phase with
      requestedPhaseSelection := fallback
      activePhaseSelection := fallback }.clearAutoPhaseCandidate }
    |>.resumeAfterPhaseSwitchPause cfg view i

/-! ## `PhaseSwitchCoordinator` -/

/-- `_phase_switch_waiting_ready`. -/
def phaseSwitchWaitingReady (view : RelayView) (now : ℚ) : Bool :=
  !(view.relayOn || s.queue.pendingRelayState.isSome || !view.pmConfirmed) && s.phase.pauseElapsed cfg now

/-- `_orchestrate_waiting_phase_switch`; a failed save right after the selection was applied is caught
like a failed application. -/
def orchestrateWaitingPhaseSwitch (pending : PhaseSelection)
    (view : RelayView) (i : CycleInput) : SwitchPass :=
  if s.phaseSwitchWaitingReady cfg view i.now then
    let s := s.applyPhaseSelection cfg pending i.phaseApplied i.now
    if i.phaseApplied then
      let s := { s with phase := { s.phase with
        mismatchActive := false
        state := some .stabilizing
        stableUntil := some (i.now + cfg.stabilizationSeconds) } }
      if i.phaseSaved then ⟨s, some (⟨false, 0, 0, false⟩, some false)⟩
      else s.abortPendingPhaseSwitch cfg view i
    else s.abortPendingPhaseSwitch cfg view i
  else ⟨s, some (view, some false)⟩

/-- `_complete_stabilized_phase_switch`. -/
def completeStabilizedPhaseSwitch (pending : PhaseSelection)
    (view : RelayView) (i : CycleInput) : SwitchPass :=
  let phase := { s.phase with activePhaseSelection := pending }
  { s with phase := (phase.clearPhaseSwitchMismatchTracking pending).clearMatchingPhaseSwitchLockout pending }
    |>.resumeAfterPhaseSwitchPause cfg view i

/-- `_orchestrate_stabilizing_phase_switch`. -/
def orchestrateStabilizingPhaseSwitch (pending : PhaseSelection)
    (pm : PmReading) (view : RelayView) (i : CycleInput) : SwitchPass :=
  let observed := observedPhaseSelection pm i
  let s := { s with phase := { s.phase with
    activePhaseSelection := observed.getD s.phase.activePhaseSelection } }
  if s.phase.stillStabilizing i.now then ⟨s, some (⟨false, 0, 0, false⟩, some false)⟩
  else if observed = some pending then s.completeStabilizedPhaseSwitch cfg pending view i
  else if s.phase.verificationExpired cfg i.now then
    { s with phase := s.phase.reportPhaseSwitchMismatch cfg pending i.now }
      |>.abortPhaseSwitchAfterMismatch cfg observed view i
  else ⟨s, some (⟨false, 0, 0, false⟩, some false)⟩

/-- `orchestrate_pending_phase_switch`. -/
def orchestratePendingPhaseSwitch (pm : PmReading)
    (view : RelayView) (i : CycleInput) : SwitchPass :=
  match s.phase.pendingSelection, s.phase.state with
  | some pending, some .waitingRelayOff => s.orchestrateWaitingPhaseSwitch cfg pending view i
  | some pending, some .stabilizing => s.orchestrateStabilizingPhaseSwitch cfg pending pm view i
  | _, _ => ⟨{ s with phase := s.phase.clearPhaseSwitchState }, some (view, none)⟩

end

/-! ## `AutoPhaseSwitchController` -/

/-- `_auto_phase_candidate_ready`. -/
def autoPhaseCandidateReady (p : PhaseVars) (target : PhaseSelection) (delay now : ℚ) : PhaseVars × Bool :=
  if p.autoTargetCandidate = some target then
    match p.autoTargetSince with
    | none => ({ p with autoTargetSince := some now }, false)
    | some since => (p, decide (delay ≤ now - since))
  else ({ p with autoTargetCandidate := some target, autoTargetSince := some now }, false)

/-- `_phase_change_requires_staging`. -/
def phaseChangeRequiresStaging (s : RelayService) (cfg : RelaySettings) (relayOn : Bool) (now : ℚ) : Bool :=
  cfg.phaseSelectionRequiresPause &&
    (s.queue.pendingRelayState.isSome || (s.pm.freshConfirmedOutput cfg now).getD relayOn)

/-- `_apply_auto_phase_target`. -/
def applyAutoPhaseTarget (s : RelayService) (cfg : RelaySettings) (target : PhaseSelection)
    (desiredRelay relayOn : Bool) (i : CycleInput) : RelayService × Option Bool :=
  if s.phaseChangeRequiresStaging cfg relayOn i.now then
    let s := { s with phase := (s.phase.stagePhaseSwitch target i.now desiredRelay).clearAutoPhaseCandidate }
    (s.publishLocalPmStatus i.stagePublished false i.now, some false)
  else
    let s := s.applyPhaseSelection cfg target i.autoPhaseApplied i.now
    if i.autoPhaseApplied then
      let phase := s.phase.clearPhaseSwitchMismatchTracking target
      ({ s with phase := (phase.clearMatchingPhaseSwitchLockout target).clearAutoPhaseCandidate }, none)
    else ({ s with phase := s.phase.clearAutoPhaseCandidate }, none)

/-- `_auto_phase_switch_already_active`. -/
def phaseSwitchActive (s : RelayService) : Bool :=
  s.phase.pendingSelection.isSome && s.phase.state.isSome

/-- `maybe_apply_auto_phase_selection`. -/
def maybeApplyAutoPhaseSelection (s : RelayService) (cfg : RelaySettings) (desiredRelay relayOn : Bool)
    (i : CycleInput) : RelayService × Option Bool :=
  if s.autoModeActive then
    if s.phaseSwitchActive then (s, none)
    else
      match i.autoPhaseTarget with
      | none => ({ s with phase := s.phase.clearAutoPhaseCandidate }, none)
      | some target =>
        let (phase, ready) := autoPhaseCandidateReady s.phase target i.autoPhaseDelaySeconds i.now
        let s := { s with phase := phase }
        if ready then s.applyAutoPhaseTarget cfg target desiredRelay relayOn i else (s, none)
  else ({ s with phase := s.phase.clearAutoPhaseCandidate }, none)

/-! ## What a pass of the coordinator does -/

/-- The staged switch is completed or aborted in this cycle. -/
def phaseSwitchEnds (s : RelayService) (cfg : RelaySettings) (pm : PmReading) (view : RelayView)
    (i : CycleInput) : Bool :=
  match s.phase.pendingSelection, s.phase.state with
  | some _, some .waitingRelayOff =>
    s.phaseSwitchWaitingReady cfg view i.now && !(i.phaseApplied && i.phaseSaved)
  | some pending, some .stabilizing =>
    !s.phase.stillStabilizing i.now &&
      (observedPhaseSelection pm i == some pending || s.phase.verificationExpired cfg i.now)
  | _, _ => false

/-- The service after a pass that has not ended the switch: only the phase variables and the log differ. -/
def switchAdvanced (s : RelayService) (phase : PhaseVars) (applied : List RelayEffect) : RelayService :=
  { s with phase := phase, log := s.log ++ applied }

/-- The effects of applying a staged selection, with the evidence at that time. -/
def StagedApplication (s : RelayService) (cfg : RelaySettings) (view : RelayView) (i : CycleInput)
    (applied : List RelayEffect) : Prop :=
  applied = [] ∨ s.phase.state = some .waitingRelayOff ∧ s.phase.pendingSelection.isSome ∧
    s.phaseSwitchWaitingReady cfg view i.now = true ∧ ∃ selection,
      applied = [.applyPhaseSelection selection s.queue.pendingRelayState
        (s.pm.newestFreshOutput cfg i.now)]

theorem StagedApplication.of_mem {s : RelayService} {cfg : RelaySettings} {view : RelayView}
    {i : CycleInput} {applied : List RelayEffect} {effect : RelayEffect}
    (h : s.StagedApplication cfg view i applied) (hmem : effect ∈ applied) :
    s.phase.state = some .waitingRelayOff ∧ s.phase.pendingSelection.isSome ∧
      s.phaseSwitchWaitingReady cfg view i.now = true ∧ ∃ selection,
        effect = .applyPhaseSelection selection s.queue.pendingRelayState
          (s.pm.newestFreshOutput cfg i.now) := by
  rcases h with rfl | ⟨hstate, hpending, hready, selection, rfl⟩
  · cases hmem
  · exact ⟨hstate, hpending, hready, selection, List.mem_singleton.mp hmem⟩

/-- A pass finds no active switch, keeps the relay off for the switch, or ends it and resumes. -/
inductive SwitchStep (s : RelayService) (cfg : RelaySettings) (pm : PmReading) (view : RelayView)
    (i : CycleInput) : SwitchPass → Prop
  | inactive (phase : PhaseVars) (hresume : phase.resumeRelay = false)
      (hends : s.phaseSwitchEnds cfg pm view i = false) :
      SwitchStep s cfg pm view i ⟨s.switchAdvanced phase [], some (view, none)⟩
  | keepsOff (phase : PhaseVars) (applied : List RelayEffect) (after : RelayView)
      (happlied : s.StagedApplication cfg view i applied)
      (hresume : phase.resumeRelay = s.phase.resumeRelay)
      (hends : s.phaseSwitchEnds cfg pm view i = false) :
      SwitchStep s cfg pm view i ⟨s.switchAdvanced phase applied, some (after, some false)⟩
  | ends (phase : PhaseVars) (applied : List RelayEffect)
      (happlied : s.StagedApplication cfg view i applied)
      (hresume : phase.resumeRelay = s.phase.resumeRelay)
      (hends : s.phaseSwitchEnds cfg pm view i = true) :
      SwitchStep s cfg pm view i ((s.switchAdvanced phase applied).resumeAfterPhaseSwitchPause cfg view i)

theorem switchAdvanced_nil (s : RelayService) (phase : PhaseVars) :
    s.switchAdvanced phase [] = { s with phase := phase } := by
  simp [switchAdvanced]

section Constructors

variable {s : RelayService} {cfg : RelaySettings} {pm : PmReading} {view : RelayView} {i : CycleInput}

theorem SwitchStep.keepsOff_nil (phase : PhaseVars) (after : RelayView)
    (hresume : phase.resumeRelay = s.phase.resumeRelay)
    (hends : s.phaseSwitchEnds cfg pm view i = false) :
    SwitchStep s cfg pm view i ⟨{ s with phase := phase }, some (after, some false)⟩ := by
  rw [← switchAdvanced_nil]
  exact .keepsOff phase [] after (.inl rfl) hresume hends

theorem SwitchStep.ends_nil (phase : PhaseVars) (hresume : phase.resumeRelay = s.phase.resumeRelay)
    (hends : s.phaseSwitchEnds cfg pm view i = true) :
    SwitchStep s cfg pm view i ({ s with phase := phase }.resumeAfterPhaseSwitchPause cfg view i) := by
  rw [← switchAdvanced_nil]
  exact .ends phase [] (.inl rfl) hresume hends

end Constructors

section

variable (s : RelayService) (cfg : RelaySettings) (pm : PmReading) (view : RelayView)

theorem waiting_step
    (i : CycleInput) {pending : PhaseSelection} (hpending : s.phase.pendingSelection = some pending)
    (hstate : s.phase.state = some .waitingRelayOff) :
    SwitchStep s cfg pm view i (s.orchestrateWaitingPhaseSwitch cfg pending view i) := by
  unfold orchestrateWaitingPhaseSwitch
  have hends : s.phaseSwitchEnds cfg pm view i =
      (s.phaseSwitchWaitingReady cfg view i.now && !(i.phaseApplied && i.phaseSaved)) := by
    simp only [phaseSwitchEnds, hpending, hstate]
  by_cases hready : s.phaseSwitchWaitingReady cfg view i.now = true
  · rw [if_pos hready]
    rw [hready, Bool.true_and] at hends
    have happlied : s.StagedApplication cfg view i [.applyPhaseSelection pending
        s.queue.pendingRelayState (s.pm.newestFreshOutput cfg i.now)] :=
      .inr ⟨hstate, by rw [hpending]; rfl, hready, pending, rfl⟩
    cases happly : i.phaseApplied with
    | false =>
      simp only [happly, Bool.false_and, Bool.not_false] at hends
      simp only [Bool.false_eq_true, ↓reduceIte]
      exact .ends _ _ happlied rfl hends
    | true =>
      cases hsave : i.phaseSaved with
      | true =>
        simp only [happly, hsave, Bool.true_and, Bool.not_true] at hends
        simp only [↓reduceIte]
        exact .keepsOff _ _ _ happlied rfl hends
      | false =>
        simp only [happly, hsave, Bool.true_and, Bool.not_false] at hends
        simp only [↓reduceIte, Bool.false_eq_true]
        exact .ends _ _ happlied rfl hends
  · rw [if_neg hready]
    rw [Bool.not_eq_true] at hready
    rw [hready, Bool.false_and] at hends
    exact .keepsOff_nil s.phase view rfl hends

theorem stabilizing_step
    (i : CycleInput) {pending : PhaseSelection} (hpending : s.phase.pendingSelection = some pending)
    (hstate : s.phase.state = some .stabilizing) :
    SwitchStep s cfg pm view i (s.orchestrateStabilizingPhaseSwitch cfg pending pm view i) := by
  unfold orchestrateStabilizingPhaseSwitch
  have hends : s.phaseSwitchEnds cfg pm view i = (!s.phase.stillStabilizing i.now &&
      (observedPhaseSelection pm i == some pending || s.phase.verificationExpired cfg i.now)) := by
    simp only [phaseSwitchEnds, hpending, hstate]
  simp only
  split
  · next hstable =>
    rw [show s.phase.stillStabilizing i.now = true from hstable, Bool.not_true, Bool.false_and] at hends
    exact .keepsOff_nil _ _ rfl hends
  · next hstable =>
    rw [Bool.not_eq_true] at hstable
    rw [show s.phase.stillStabilizing i.now = false from hstable, Bool.not_false, Bool.true_and] at hends
    split
    · next hobserved =>
      rw [hobserved, beq_self_eq_true, Bool.true_or] at hends
      exact .ends_nil _ (by simp) hends
    · next hobserved =>
      rw [beq_eq_false_iff_ne.mpr hobserved, Bool.false_or] at hends
      split
      · next hexpired =>
        exact .ends_nil _ (by simp [PhaseVars.clearAutoPhaseCandidate]) (hends.trans hexpired)
      · next hexpired =>
        rw [Bool.not_eq_true] at hexpired
        exact .keepsOff_nil _ _ rfl (hends.trans hexpired)

theorem orchestrate_step
    (i : CycleInput) : SwitchStep s cfg pm view i (s.orchestratePendingPhaseSwitch cfg pm view i) := by
  unfold orchestratePendingPhaseSwitch
  split
  · next pending hpending hstate => exact s.waiting_step cfg pm view i hpending hstate
  · next pending hpending hstate => exact s.stabilizing_step cfg pm view i hpending hstate
  · next hwaiting hstabilizing =>
    have hends : s.phaseSwitchEnds cfg pm view i = false := by
      unfold phaseSwitchEnds
      split
      · next h h' => exact absurd h' (hwaiting _ h)
      · next h h' => exact absurd h' (hstabilizing _ h)
      · rfl
    rw [← switchAdvanced_nil]
    exact .inactive _ rfl hends

end

/-! ## What resuming does -/

section Resume

variable (s : RelayService) (cfg : RelaySettings) (view : RelayView) (i : CycleInput)

@[simp] theorem resumeRelayAfterPhaseSwitch_control :
    (s.resumeRelayAfterPhaseSwitch cfg view i).service.control = s.control := by
  unfold resumeRelayAfterPhaseSwitch
  cases hresult : (s.applyEnabledTarget cfg .phaseSwitchResume true i.now i.resumeCall).2 <;>
    simp [hresult]

@[simp] theorem resumeRelayAfterPhaseSwitch_phase :
    (s.resumeRelayAfterPhaseSwitch cfg view i).service.phase = s.phase := by
  unfold resumeRelayAfterPhaseSwitch
  cases hresult : (s.applyEnabledTarget cfg .phaseSwitchResume true i.now i.resumeCall).2 <;>
    simp [hresult]

@[simp] theorem resumeRelayAfterPhaseSwitch_contactor :
    (s.resumeRelayAfterPhaseSwitch cfg view i).service.contactor = s.contactor := by
  unfold resumeRelayAfterPhaseSwitch
  cases hresult : (s.applyEnabledTarget cfg .phaseSwitchResume true i.now i.resumeCall).2 <;>
    simp [hresult]

theorem resumeRelayAfterPhaseSwitch_queue :
    (s.resumeRelayAfterPhaseSwitch cfg view i).service.queue =
      if cfg.chargerEnableBackend then s.queue else .queueRelayCommand cfg true i.now := by
  have h := s.applyEnabledTarget_queue cfg .phaseSwitchResume true i.now i.resumeCall
  unfold resumeRelayAfterPhaseSwitch
  cases hresult : (s.applyEnabledTarget cfg .phaseSwitchResume true i.now i.resumeCall).2 <;>
    simpa [hresult] using h

theorem resumeRelayAfterPhaseSwitch_log :
    (s.resumeRelayAfterPhaseSwitch cfg view i).service.log = s.log ++
      if s.issues cfg i.now then [cfg.commandEffect .phaseSwitchResume true] else [] := by
  have h := s.applyEnabledTarget_log cfg .phaseSwitchResume true i.now i.resumeCall
  unfold resumeRelayAfterPhaseSwitch
  cases hresult : (s.applyEnabledTarget cfg .phaseSwitchResume true i.now i.resumeCall).2 <;>
    simpa [hresult] using h

/-- In the retry window of the charger backend the switch ends without a command. -/
theorem resumeRelayAfterPhaseSwitch_of_not_issues (h : s.issues cfg i.now = false) :
    s.resumeRelayAfterPhaseSwitch cfg view i =
      ⟨s, if i.resumeSaved then some (view, none) else none⟩ := by
  simp only [resumeRelayAfterPhaseSwitch, s.applyEnabledTarget_of_not_issues cfg _ _ _ _ h]

/-- Ending a switch either leaves the relay to the decision, or resumes it in manual mode. -/
theorem resumeAfterPhaseSwitchPause_cases :
    ((s.phase.resumeRelay = false ∨ s.autoModeActive = true) ∧ ∃ control : ControlVars,
      control.virtualMode = s.control.virtualMode ∧
      s.resumeAfterPhaseSwitchPause cfg view i =
        ⟨{ s with phase := s.phase.clearPhaseSwitchState, control := control },
          if i.resumeSaved then some (view, none) else none⟩) ∨
    s.phase.resumeRelay = true ∧ s.autoModeActive = false ∧
      s.resumeAfterPhaseSwitchPause cfg view i =
        { s with phase := s.phase.clearPhaseSwitchState }.resumeRelayAfterPhaseSwitch cfg view i := by
  unfold resumeAfterPhaseSwitchPause
  cases hresume : s.phase.resumeRelay with
  | false => exact .inl ⟨.inl rfl, s.control, rfl, by simp⟩
  | true =>
    have hmode : { s with phase := s.phase.clearPhaseSwitchState }.autoModeActive = s.autoModeActive := rfl
    cases hauto : s.autoModeActive with
    | true =>
      refine .inl ⟨.inr rfl, { s.control with ignoreMinOfftimeOnce := true }, rfl, ?_⟩
      simp only [hmode, hauto, ↓reduceIte]
    | false =>
      refine .inr ⟨rfl, rfl, ?_⟩
      simp only [hmode, hauto, ↓reduceIte, Bool.false_eq_true]

end Resume

/-! ## What a pass leaves behind -/

section Pass

variable {s : RelayService} {cfg : RelaySettings} {pm : PmReading} {view : RelayView} {i : CycleInput}
  {pass : SwitchPass}

/-- The pass ends a switch in manual mode and issues the command to switch on again. -/
def resumeIssues (s : RelayService) (cfg : RelaySettings) (pm : PmReading) (view : RelayView)
    (i : CycleInput) : Bool :=
  s.phaseSwitchEnds cfg pm view i && s.phase.resumeRelay && !s.autoModeActive && s.issues cfg i.now

section

variable (h : SwitchStep s cfg pm view i pass)
include h

/-- A pass applies at most the staged selection, and then resumes the relay. -/
theorem SwitchStep.log :
    ∃ applied, s.StagedApplication cfg view i applied ∧ pass.service.log = s.log ++ applied ++
      if s.resumeIssues cfg pm view i then [cfg.commandEffect .phaseSwitchResume true] else [] := by
  cases h with
  | inactive phase hresume hends => exact ⟨[], .inl rfl, by simp [resumeIssues, hends, switchAdvanced]⟩
  | keepsOff phase applied after happlied hresume hends =>
    exact ⟨applied, happlied, by simp [resumeIssues, hends, switchAdvanced]⟩
  | ends phase applied happlied hresume hends =>
    refine ⟨applied, happlied, ?_⟩
    have hissues : (s.switchAdvanced phase applied).issues cfg i.now = s.issues cfg i.now := rfl
    have hauto : (s.switchAdvanced phase applied).autoModeActive = s.autoModeActive := rfl
    have hlatch : (s.switchAdvanced phase applied).phase.resumeRelay = s.phase.resumeRelay := hresume
    rcases (s.switchAdvanced phase applied).resumeAfterPhaseSwitchPause_cases cfg view i with
      ⟨hreleased, control, -, heq⟩ | ⟨hlatched, hmanual, heq⟩
    · rw [heq]
      rw [hlatch, hauto] at hreleased
      have hno : s.resumeIssues cfg pm view i = false := by
        rcases hreleased with h | h <;> simp [resumeIssues, h]
      simp [hno, switchAdvanced]
    · rw [heq, resumeRelayAfterPhaseSwitch_log]
      rw [hlatch] at hlatched
      rw [hauto] at hmanual
      have hresumes : s.resumeIssues cfg pm view i = s.issues cfg i.now := by
        simp [resumeIssues, hends, hlatched, hmanual]
      rw [hresumes]
      rfl

/-- A pass never changes the mode or arms the resume latch. -/
theorem SwitchStep.frame :
    pass.service.control.virtualMode = s.control.virtualMode ∧
      pass.service.contactor = s.contactor ∧
      (pass.service.phase.resumeRelay = true → s.phase.resumeRelay = true) := by
  cases h with
  | inactive phase hresume hends =>
    exact ⟨rfl, rfl, fun h => absurd (hresume.symm.trans h) Bool.false_ne_true⟩
  | keepsOff phase applied after happlied hresume hends => exact ⟨rfl, rfl, fun h => hresume.symm.trans h⟩
  | ends phase applied happlied hresume hends =>
    rcases (s.switchAdvanced phase applied).resumeAfterPhaseSwitchPause_cases cfg view i with
      ⟨-, control, hmode, heq⟩ | ⟨-, -, heq⟩
    · rw [heq]
      exact ⟨hmode, rfl, fun h => absurd h Bool.false_ne_true⟩
    · rw [heq]
      simp [switchAdvanced, PhaseVars.clearPhaseSwitchState]

/-- Without a command to resume, the transport is as before and the view is only overridden to off. -/
theorem SwitchStep.quiet (hquiet : s.resumeIssues cfg pm view i = false) :
    pass.service.transport = s.transport ∧ ∀ after override, pass.result = some (after, override) →
      override = some false ∨ override = none ∧ after = view := by
  cases h with
  | inactive phase hresume hends =>
    refine ⟨rfl, fun after override hresult => .inr ?_⟩
    cases hresult
    exact ⟨rfl, rfl⟩
  | keepsOff phase applied shown happlied hresume hends =>
    refine ⟨rfl, fun after override hresult => .inl ?_⟩
    cases hresult
    rfl
  | ends phase applied happlied hresume hends =>
    have hsaved : ∀ (after : RelayView) (override : Option Bool),
        (if i.resumeSaved = true then some (view, none) else none) = some (after, override) →
        override = some false ∨ override = none ∧ after = view := by
      intro after override hresult
      simp only [Option.ite_none_right_eq_some, Option.some.injEq, Prod.mk.injEq] at hresult
      exact .inr ⟨hresult.2.2.symm, hresult.2.1.symm⟩
    rcases (s.switchAdvanced phase applied).resumeAfterPhaseSwitchPause_cases cfg view i with
      ⟨-, control, -, heq⟩ | ⟨hlatched, hmanual, heq⟩
    · rw [heq]
      exact ⟨rfl, hsaved⟩
    · have hlatch : s.phase.resumeRelay = true := hresume.symm.trans hlatched
      have hauto : s.autoModeActive = false := hmanual
      have hissues : s.issues cfg i.now = false := by
        simpa [resumeIssues, hends, hlatch, hauto] using hquiet
      rw [heq, resumeRelayAfterPhaseSwitch_of_not_issues]
      · exact ⟨rfl, hsaved⟩
      · exact hissues

end

end Pass

/-! ## What Auto staging does -/

section AutoPhase

variable (s : RelayService) (cfg : RelaySettings) (desiredRelay relayOn : Bool) (i : CycleInput)

/-- The effects of applying an Auto target at once, with the evidence at that time. -/
def AutoApplication (applied : List RelayEffect) : Prop :=
  applied = [] ∨ s.autoModeActive = true ∧ i.autoPhaseTarget.isSome ∧
    s.phaseChangeRequiresStaging cfg relayOn i.now = false ∧ ∃ selection,
      applied = [.applyPhaseSelection selection s.queue.pendingRelayState
        (s.pm.newestFreshOutput cfg i.now)]

variable {s cfg relayOn i} in
theorem AutoApplication.of_mem {applied : List RelayEffect} {effect : RelayEffect}
    (h : s.AutoApplication cfg relayOn i applied) (hmem : effect ∈ applied) :
    s.autoModeActive = true ∧ i.autoPhaseTarget.isSome ∧
      s.phaseChangeRequiresStaging cfg relayOn i.now = false ∧ ∃ selection,
        effect = .applyPhaseSelection selection s.queue.pendingRelayState
          (s.pm.newestFreshOutput cfg i.now) := by
  rcases h with rfl | ⟨hauto, htarget, hstaging, selection, rfl⟩
  · cases hmem
  · exact ⟨hauto, htarget, hstaging, selection, List.mem_singleton.mp hmem⟩

/-- Auto changes the phase variables, may publish the relay as off, and may apply a target. -/
structure AutoStep (after : RelayService × Option Bool) : Prop where
  control_eq : after.1.control = s.control
  queue_eq : after.1.queue = s.queue
  transport_eq : after.1.transport = s.transport
  override_off : after.2 = none ∨ after.2 = some false
  resume_cases : after.1.phase.resumeRelay = true → s.phase.resumeRelay = true ∨ s.autoModeActive = true
  log_eq : ∃ applied, s.AutoApplication cfg relayOn i applied ∧ after.1.log = s.log ++ applied

@[simp] theorem autoPhaseCandidateReady_resumeRelay (p : PhaseVars) (target : PhaseSelection)
    (delay now : ℚ) : (autoPhaseCandidateReady p target delay now).1.resumeRelay = p.resumeRelay := by
  unfold autoPhaseCandidateReady
  split
  · split <;> rfl
  · rfl

theorem applyAutoPhaseTarget_step {target : PhaseSelection} (hauto : s.autoModeActive = true)
    (htarget : i.autoPhaseTarget = some target) :
    s.AutoStep cfg relayOn i (s.applyAutoPhaseTarget cfg target desiredRelay relayOn i) := by
  unfold applyAutoPhaseTarget
  cases hstaging : s.phaseChangeRequiresStaging cfg relayOn i.now with
  | true =>
    exact {
      control_eq := by simp
      queue_eq := by simp
      transport_eq := by simp
      override_off := .inr rfl
      resume_cases := fun _ => .inr hauto
      log_eq := ⟨[], .inl rfl, by simp⟩ }
  | false =>
    have happlied : s.AutoApplication cfg relayOn i [.applyPhaseSelection target
        s.queue.pendingRelayState (s.pm.newestFreshOutput cfg i.now)] :=
      .inr ⟨hauto, by rw [htarget]; rfl, hstaging, target, rfl⟩
    cases happly : i.autoPhaseApplied with
    | true =>
      exact {
        control_eq := rfl
        queue_eq := rfl
        transport_eq := rfl
        override_off := .inl rfl
        resume_cases := fun _ => .inr hauto
        log_eq := ⟨_, happlied, rfl⟩ }
    | false =>
      exact {
        control_eq := rfl
        queue_eq := rfl
        transport_eq := rfl
        override_off := .inl rfl
        resume_cases := fun _ => .inr hauto
        log_eq := ⟨_, happlied, rfl⟩ }

/-- A step that changes the phase variables only, and not the resume latch. -/
theorem AutoStep.of_phase {s : RelayService} {cfg : RelaySettings} {relayOn : Bool} {i : CycleInput}
    (phase : PhaseVars) (hresume : phase.resumeRelay = s.phase.resumeRelay) :
    s.AutoStep cfg relayOn i ({ s with phase := phase }, none) where
  control_eq := rfl
  queue_eq := rfl
  transport_eq := rfl
  override_off := .inl rfl
  resume_cases := fun h => .inl (hresume.symm.trans h)
  log_eq := ⟨[], .inl rfl, (List.append_nil _).symm⟩

theorem maybeApplyAutoPhaseSelection_step :
    s.AutoStep cfg relayOn i (s.maybeApplyAutoPhaseSelection cfg desiredRelay relayOn i) := by
  unfold maybeApplyAutoPhaseSelection
  cases hauto : s.autoModeActive with
  | false => exact .of_phase _ rfl
  | true =>
    cases s.phaseSwitchActive with
    | true => exact .of_phase s.phase rfl
    | false =>
      cases htarget : i.autoPhaseTarget with
      | none => exact .of_phase _ rfl
      | some target =>
        simp only [↓reduceIte, Bool.false_eq_true]
        have hcandidate : ∀ phase : PhaseVars, phase.resumeRelay = s.phase.resumeRelay →
            s.AutoStep cfg relayOn i
              ({ s with phase := phase }.applyAutoPhaseTarget cfg target desiredRelay relayOn i) := by
          intro phase hresume
          have h := { s with phase := phase }.applyAutoPhaseTarget_step cfg desiredRelay relayOn i
            hauto htarget
          exact {
            control_eq := h.control_eq
            queue_eq := h.queue_eq
            transport_eq := h.transport_eq
            override_off := h.override_off
            resume_cases := fun h' => by
              rw [← hresume]
              exact h.resume_cases h'
            log_eq := h.log_eq }
        split
        · exact hcandidate _ (by simp)
        · exact .of_phase _ (by simp)

end AutoPhase

end RelayService

end VenusEvcharger
