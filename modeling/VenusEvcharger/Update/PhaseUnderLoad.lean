import VenusEvcharger.Control.RelayWrites
import VenusEvcharger.Library.Run

/-!
# Phase changes and the confirmed relay state

A backend that needs a pause must not change its phases under load. The staged switch, Auto and the
operator's command each look at other evidence that the relay is off. `phase_unloaded` says for which
steps that evidence is a fresh confirmed reading with no command pending.
-/

namespace VenusEvcharger

open Library

/-- A phase selection is applied with no relay command pending and the relay confirmed off. -/
def RelayEffect.unloaded : RelayEffect → Bool
  | .applyPhaseSelection _ pending confirmed => pending.isNone && confirmed == some false
  | _ => true

namespace RelayService

section Evidence

variable {s : RelayService} {cfg : RelaySettings} {i : CycleInput}

/-- The fresh confirmed reading that a cycle starts from is still the newest one. -/
def EvidenceKept (cfg : RelaySettings) (now : ℚ) (before after : RelayService) : Prop :=
  after.pm.freshConfirmedOutput cfg now = before.pm.freshConfirmedOutput cfg now ∧
    after.pm.WorkerRemembered cfg now

variable {after : RelayService}

/-- A published placeholder is no evidence, and takes none away. -/
theorem EvidenceKept.publish {now : ℚ} (h : EvidenceKept cfg now s after)
    (published relayOn : Bool) (at' : ℚ) :
    EvidenceKept cfg now s (after.publishLocalPmStatus published relayOn at') := by
  cases published with
  | true => exact ⟨h.1, after.pm.publishLocalPmStatus_workerRemembered cfg relayOn at' now⟩
  | false => exact h

theorem applyStartupManualTarget_status (pm : PmReading) (h : s.pm.WorkerRemembered cfg i.now) :
    EvidenceKept cfg i.now s (s.applyStartupManualTarget cfg pm i).1 ∧
      ((s.applyStartupManualTarget cfg pm i).2 = pm ∨
        (s.applyStartupManualTarget cfg pm i).2.pmConfirmed = false ∨
        ∃ target, s.startupTargetDue pm = some target ∧ s.issues cfg i.now = true ∧
          i.startupPublished = false ∧ (s.applyStartupManualTarget cfg pm i).2.output = target ∧
          (cfg.chargerEnableBackend = true ∧ i.startupCall = .ok ∨
            (s.applyStartupManualTarget cfg pm i).1.queue.pendingRelayState = some target)) := by
  rcases s.applyStartupManualTarget_cases cfg pm i with ⟨-, control, -, hpair⟩ | ⟨target, hdue, hpair⟩
  · rw [hpair]
    exact ⟨⟨rfl, h⟩, .inl rfl⟩
  · have hpm := s.applyEnabledTarget_pm cfg .startupTarget target i.now i.startupCall
    have happlied := s.issues_of_applied cfg .startupTarget target i.now i.startupCall
    have hkept : EvidenceKept cfg i.now s
        (s.applyEnabledTarget cfg .startupTarget target i.now i.startupCall).1 :=
      ⟨by rw [hpm], by rwa [hpm]⟩
    have hqueue := (s.applyPendingStartupTarget_frame cfg pm i target).2.2.2.1
    rw [hpair]
    unfold applyPendingStartupTarget at hqueue ⊢
    cases hresult : (s.applyEnabledTarget cfg .startupTarget target i.now i.startupCall).2 with
    | raised reason =>
      simp only [hresult, true_or, and_true]
      exact hkept
    | refused =>
      simp only [hresult, true_or, and_true]
      exact hkept
    | applied =>
      obtain ⟨hissues, hcall⟩ := happlied hresult
      simp only [hresult]
      split
      · exact ⟨hkept.publish true target i.now, .inr (.inl rfl)⟩
      · next hpublished =>
        rw [Bool.not_eq_true] at hpublished
        refine ⟨hkept, .inr (.inr ⟨target, hdue, hissues, hpublished, rfl, ?_⟩)⟩
        cases hbackend : cfg.chargerEnableBackend with
        | true => exact .inl ⟨rfl, hcall hbackend⟩
        | false =>
          simp only [hresult, hpublished, hbackend, Bool.false_eq_true, ↓reduceIte] at hqueue
          exact .inr (by rw [hqueue]; rfl)

variable (s cfg i) in
/-- The evidence of a cycle survives its first steps. -/
theorem prepareOnlineUpdate_evidence :
    EvidenceKept cfg i.now (s.resolved cfg i) (s.prepareOnlineUpdate cfg i).1 := by
  have hremembered : (s.resolved cfg i).pm.WorkerRemembered cfg i.now :=
    s.pm.resolve_workerRemembered cfg i.now
  rw [prepareOnlineUpdate_eq]
  cases s.resolvedStatus cfg i with
  | none => exact ⟨rfl, hremembered⟩
  | some pm => exact (applyStartupManualTarget_status pm hremembered).1

/-- Resuming the relay publishes a placeholder at most. -/
theorem EvidenceKept.resume (h : EvidenceKept cfg i.now s after)
    (view : RelayView) : EvidenceKept cfg i.now s (after.resumeRelayAfterPhaseSwitch cfg view i).service := by
  have hpm := after.applyEnabledTarget_pm cfg .phaseSwitchResume true i.now i.resumeCall
  have hkept : EvidenceKept cfg i.now s
      (after.applyEnabledTarget cfg .phaseSwitchResume true i.now i.resumeCall).1 :=
    ⟨by rw [hpm, h.1], by rw [hpm]; exact h.2⟩
  unfold resumeRelayAfterPhaseSwitch
  cases hresult : (after.applyEnabledTarget cfg .phaseSwitchResume true i.now i.resumeCall).2 with
  | raised reason => simpa only [hresult] using hkept
  | refused => simpa only [hresult] using hkept
  | applied => simpa only [hresult] using hkept.publish i.resumePublished true i.now

/-- The evidence of a cycle also survives the staged switch. -/
theorem SwitchStep.evidence {before : RelayService} {pm : PmReading} {view : RelayView}
    {pass : SwitchPass} (h : SwitchStep s cfg pm view i pass) (hbefore : EvidenceKept cfg i.now before s) :
    EvidenceKept cfg i.now before pass.service := by
  cases h with
  | inactive phase hresume hends => exact hbefore
  | keepsOff phase applied after happlied hresume hends => exact hbefore
  | ends phase applied happlied hresume hends =>
    rcases (s.switchAdvanced phase applied).resumeAfterPhaseSwitchPause_cases cfg view i with
      ⟨-, control, -, heq⟩ | ⟨-, -, heq⟩
    · rw [heq]
      exact hbefore
    · rw [heq]
      have hcleared : EvidenceKept cfg i.now before { s.switchAdvanced phase applied with
          phase := (s.switchAdvanced phase applied).phase.clearPhaseSwitchState } := hbefore
      exact hcleared.resume view

/-! ## When the evidence suffices -/

/-- A phase change may come due in the cycle: a staged one waits, or Auto has a target. -/
def phaseChangeDue (s : RelayService) (i : CycleInput) : Bool :=
  (s.phase.state == some .waitingRelayOff && s.phase.pendingSelection.isSome) ||
    (s.autoModeActive && i.autoPhaseTarget.isSome)

/-- The cycle takes the startup target "off" for the measured state: the charger backend has accepted it,
and the placeholder could not be published. -/
def startupUnverified (s : RelayService) (cfg : RelaySettings) (i : CycleInput) : Bool :=
  match s.resolvedStatus cfg i with
  | none => false
  | some pm => cfg.chargerEnableBackend && s.startupTargetDue pm == some false && s.issues cfg i.now &&
      i.startupCall == .ok && !i.startupPublished

/-- The operator's selection finds no pending command, and the snapshot of the worker is not older than the
remembered reading. -/
def operatorEvidence (s : RelayService) : Bool :=
  s.queue.pendingRelayState.isNone &&
    match s.pm.workerReading, s.pm.lastReading with
    | some worker, some last => decide (last.2 ≤ worker.2)
    | _, _ => true

theorem EvidenceKept.newest (h : EvidenceKept cfg i.now (s.resolved cfg i) after)
    {pm : PmReading} (hpm : s.resolvedStatus cfg i = some pm)
    (hfresh : ((s.resolved cfg i).pm.freshConfirmedOutput cfg i.now).isSome) :
    after.pm.newestFreshOutput cfg i.now = some pm.output := by
  obtain ⟨output, houtput⟩ := Option.isSome_iff_exists.mp hfresh
  rw [h.2.newestFreshOutput_eq, h.1, houtput]
  exact congrArg some (PmCaches.freshConfirmedOutput_of_resolve hpm houtput)

end Evidence

end RelayService

namespace RelaySystem

open RelayService
open ConfirmedRelay (timestampAgeWithin)

/-- No phase selection is applied under load in this step. -/
def PhaseUnloaded (cfg : RelaySettings) (s : RelaySystem) (event : RelayEvent) : Prop :=
  ∀ effect ∈ (s.step cfg event).service.log, effect.unloaded = true

/-- The evidence that a phase change needs in this step. -/
def PhaseEvidence (cfg : RelaySettings) (s : RelaySystem) (event : RelayEvent) : Prop :=
  match event with
  | .cycle i => s.service.phaseChangeDue i = true →
      ((s.service.resolved cfg i).pm.freshConfirmedOutput cfg i.now).isSome = true ∧
        s.service.startupUnverified cfg i = false
  | .command (.setPhaseSelection _) io =>
    s.service.relayMayBeOnForCutover cfg io.now = false → s.service.operatorEvidence = true
  | _ => True

instance (cfg : RelaySettings) (s : RelaySystem) (event : RelayEvent) :
    Decidable (s.PhaseUnloaded cfg event) :=
  inferInstanceAs (Decidable (∀ _ ∈ _, _))

instance (cfg : RelaySettings) (s : RelaySystem) : ∀ event, Decidable (s.PhaseEvidence cfg event)
  | .cycle _ => inferInstanceAs (Decidable (_ → _))
  | .command (.setPhaseSelection _) _ => inferInstanceAs (Decidable (_ → _))
  | .command (.setMode _) _ | .command (.setStartStop _) _ | .command (.setEnable _) _
  | .command (.resetPhaseLockout _) _ | .command (.resetContactorLockout _) _
  | .workerTake _ | .workerWrite _ _ | .workerFinalize _ _ | .workerTick _ | .workerRead _ _ =>
    isTrue trivial

section Steps

variable {cfg : RelaySettings} {s : RelayService} {i : CycleInput}

variable {effect : RelayEffect}

theorem staged_unloaded {pm : PmReading} {applied : List RelayEffect}
    (hpm : (s.prepareOnlineUpdate cfg i).2 = some pm)
    (happlied : (s.prepareOnlineUpdate cfg i).1.StagedApplication cfg pm.view i applied)
    (hmem : effect ∈ applied)
    (hfresh : ((s.resolved cfg i).pm.freshConfirmedOutput cfg i.now).isSome)
    (hstartup : s.startupUnverified cfg i = false) : effect.unloaded = true := by
  obtain ⟨-, -, hready, selection, rfl⟩ := happlied.of_mem hmem
  simp only [RelayService.phaseSwitchWaitingReady, PmReading.view, Bool.and_eq_true, Bool.not_eq_true',
    Bool.or_eq_false_iff, Bool.not_eq_false'] at hready
  obtain ⟨⟨⟨houtput, hpending⟩, hconfirmed⟩, -⟩ := hready
  have hkept := s.prepareOnlineUpdate_evidence cfg i
  rw [RelayService.prepareOnlineUpdate_eq] at hpm hpending hkept ⊢
  cases hstatus : s.resolvedStatus cfg i with
  | none =>
    rw [hstatus] at hpm
    cases hpm
  | some start =>
    simp only [hstatus] at hpm hpending hkept ⊢
    cases hpm
    have hnewest := hkept.newest hstatus hfresh
    have hstatus' := (s.resolved cfg i).applyStartupManualTarget_status start
      (s.pm.resolve_workerRemembered cfg i.now)
    rw [Option.isSome_eq_false_iff] at hpending
    rcases hstatus'.2 with hsame | hplaceholder | ⟨target, hdue, hissues, hpublished, htarget, hqueued⟩
    · rw [hsame] at houtput
      rw [hnewest, houtput, RelayEffect.unloaded, hpending]
      rfl
    · cases hplaceholder.symm.trans hconfirmed
    · rcases hqueued with ⟨hbackend, hcall⟩ | hqueued
      · have hoff : target = false := htarget.symm.trans houtput
        have hdue' : s.startupTargetDue start = some false := hdue.trans (congrArg some hoff)
        have hissues' : s.issues cfg i.now = true := hissues
        simp [RelayService.startupUnverified, hstatus, hbackend, hdue', hissues', hcall,
          hpublished] at hstartup
      · rw [hqueued] at hpending
        cases hpending

theorem auto_unloaded (hcfg : cfg.phaseSelectionRequiresPause = true) {pm : PmReading} {pass : SwitchPass}
    {view : RelayView} {applied : List RelayEffect}
    (hstep : SwitchStep (s.prepareOnlineUpdate cfg i).1 cfg pm pm.view i pass)
    (happlied : pass.service.AutoApplication cfg view.relayOn i applied) (hmem : effect ∈ applied)
    (hfresh : ((s.resolved cfg i).pm.freshConfirmedOutput cfg i.now).isSome) :
    effect.unloaded = true := by
  obtain ⟨-, -, hstaging, selection, rfl⟩ := happlied.of_mem hmem
  have hkept := hstep.evidence (s.prepareOnlineUpdate_evidence cfg i)
  obtain ⟨output, houtput⟩ := Option.isSome_iff_exists.mp hfresh
  rw [← hkept.1] at houtput
  simp only [RelayService.phaseChangeRequiresStaging, hcfg, Bool.true_and, Bool.or_eq_false_iff,
    houtput, Option.getD_some] at hstaging
  rw [hkept.2.newestFreshOutput_eq, houtput, hstaging.2, RelayEffect.unloaded]
  simpa using hstaging.1

/-- The window of the operator's evidence lies inside that of the cycle. -/
theorem relayStatusFreshnessSeconds_le (cfg : RelaySettings) (c : PmCaches) :
    cfg.relayStatusFreshnessSeconds ≤ (c.confirmedRelay cfg).maxAgeSeconds := by
  rw [c.maxAgeSeconds_of_settings cfg]
  exact max_le_max le_rfl (min_le_min_right _ (min_le_min_right _ (by norm_num)))

theorem timestampAgeWithin_mono {at' : Option ℚ} {now short long : ℚ} (hle : short ≤ long)
    (h : timestampAgeWithin at' now short = true) : timestampAgeWithin at' now long = true := by
  cases at' with
  | none => cases h
  | some at' =>
    simp only [timestampAgeWithin, Bool.and_eq_true, decide_eq_true_eq] at h ⊢
    exact ⟨h.1, h.2.trans hle⟩

/-- The evidence of the operator's command is the newest fresh confirmed reading. -/
theorem newest_of_cutover {c : PmCaches} {now : ℚ} {output : Bool}
    (hnewer : ∀ worker last, c.workerReading = some worker → c.lastReading = some last →
      last.2 ≤ worker.2) (h : c.cutoverOutput cfg now = some output) :
    c.newestFreshOutput cfg now = some output := by
  have hwindow := relayStatusFreshnessSeconds_le cfg c
  simp only [PmCaches.cutoverOutput] at h
  split at h
  · next worker hworker =>
    obtain ⟨hreading, hfresh⟩ := Option.filter_eq_some_iff.mp hworker
    have hfirst : freshReading (c.confirmedRelay cfg) c.workerReading now = some worker :=
      Option.filter_eq_some_iff.mpr ⟨hreading, timestampAgeWithin_mono hwindow hfresh⟩
    cases h
    simp only [PmCaches.newestFreshOutput, hfirst]
    split
    · next first last hsome hlast =>
      cases hsome
      have hle := hnewer _ _ hreading (Option.filter_eq_some_iff.mp hlast).1
      rw [if_neg (not_lt.mpr hle)]
    · next first hsome hnone =>
      cases hsome
      rfl
    · next hnone => cases hnone
  · next hstale =>
    obtain ⟨last, hfiltered, rfl⟩ := Option.map_eq_some_iff.mp h
    obtain ⟨hreading, hfresh⟩ := Option.filter_eq_some_iff.mp hfiltered
    have hlast : freshReading (c.confirmedRelay cfg) c.lastReading now = some last :=
      Option.filter_eq_some_iff.mpr ⟨hreading, timestampAgeWithin_mono hwindow hfresh⟩
    -- a worker reading that is fresh for the cycle would be fresh for the operator
    have hfirst : freshReading (c.confirmedRelay cfg) c.workerReading now = none := by
      cases hworker : freshReading (c.confirmedRelay cfg) c.workerReading now with
      | none => rfl
      | some worker =>
        obtain ⟨hreading', hage⟩ := Option.filter_eq_some_iff.mp hworker
        have hle := hnewer _ _ hreading' hreading
        simp only [timestampAgeWithin, Bool.and_eq_true, decide_eq_true_eq] at hage hfresh
        have hfresh' : timestampAgeWithin (some worker.2) now cfg.relayStatusFreshnessSeconds = true := by
          simp only [timestampAgeWithin, Bool.and_eq_true, decide_eq_true_eq]
          exact ⟨hage.1, by linarith [hfresh.2]⟩
        rw [Option.filter_eq_some_iff.mpr ⟨hreading', hfresh'⟩] at hstale
        cases hstale
    simp only [PmCaches.newestFreshOutput, hfirst, hlast, Option.map_some]

/-- The operator's selection is applied at once under a fresh confirmed reading. -/
theorem operator_unloaded {now : ℚ} {selection : PhaseSelection}
    (hoff : s.relayMayBeOnForCutover cfg now = false) (hevidence : s.operatorEvidence = true) :
    (RelayEffect.applyPhaseSelection selection s.queue.pendingRelayState
      (s.pm.newestFreshOutput cfg now)).unloaded = true := by
  simp only [operatorEvidence, Bool.and_eq_true] at hevidence
  obtain ⟨hpending, hnewer⟩ := hevidence
  have hcutover : s.pm.cutoverOutput cfg now = some false := by
    unfold relayMayBeOnForCutover at hoff
    split at hoff
    · cases hoff
    · cases houtput : s.pm.cutoverOutput cfg now with
      | none => simp [houtput] at hoff
      | some output => simpa [houtput] using hoff
  have hnewest : s.pm.newestFreshOutput cfg now = some false := by
    refine newest_of_cutover (fun worker last hworker hlast => ?_) hcutover
    simpa [hworker, hlast] using hnewer
  rw [hnewest, RelayEffect.unloaded, hpending]
  rfl

/-- An enable or disable command is no phase change. -/
theorem unloaded_of_origin {origin : CommandOrigin}
    (h : effect.origin = some origin) : effect.unloaded = true := by
  cases effect with
  | applyPhaseSelection selection pending confirmed => cases h
  | _ => rfl

/-- A cycle with the evidence for the phase change that may come due in it. -/
theorem cycle_unloaded (hcfg : cfg.phaseSelectionRequiresPause = true)
    (h : s.phaseChangeDue i = true → ((s.resolved cfg i).pm.freshConfirmedOutput cfg i.now).isSome ∧
      s.startupUnverified cfg i = false) (heffect : CycleEffect s cfg i effect) :
    effect.unloaded = true := by
  obtain ⟨hmode, hphase, -, -⟩ := s.prepareOnlineUpdate_frame cfg i
  cases heffect with
  | startup effect hmem => exact unloaded_of_origin (s.preparationEffects_origin cfg i effect hmem)
  | staged pm applied effect hpm happlied hmem =>
    obtain ⟨hstate, hpending, -, -⟩ := happlied.of_mem hmem
    rw [hphase] at hstate hpending
    obtain ⟨hfresh, hstartup⟩ := h (by simp [phaseChangeDue, hstate, hpending])
    exact staged_unloaded hpm happlied hmem hfresh hstartup
  | resume pm hpm hresume => exact unloaded_of_origin (cfg.commandEffect_origin _ _)
  | auto pm pass view override applied effect hpm hstep hresult happlied hmem =>
    obtain ⟨hauto, htarget, -, -⟩ := happlied.of_mem hmem
    have hauto' : s.autoModeActive = true := by
      rw [← hauto, autoModeActive, autoModeActive, hstep.frame.1, hmode]
    obtain ⟨hfresh, -⟩ := h (by simp [phaseChangeDue, hauto', htarget])
    exact auto_unloaded hcfg hstep happlied hmem hfresh
  | decision on => exact unloaded_of_origin (cfg.commandEffect_origin _ _)

theorem command_unloaded (hcfg : cfg.phaseSelectionRequiresPause = true) {command : RelayCommand}
    {io : CommandInput} {queue : RelayQueue} {log : List RelayEffect} {started : Bool}
    (hlog : s.log = []) (heffects : s.CommandEffects cfg command io queue log started)
    (h : ∀ selection, command = .setPhaseSelection selection →
      s.relayMayBeOnForCutover cfg io.now = false → s.operatorEvidence = true) :
    ∀ effect ∈ log, effect.unloaded = true := by
  cases heffects with
  | none => simp [hlog]
  | called on started hbackend => simp [hlog, RelayEffect.unloaded]
  | queued on hbackend => simp [hlog, RelayEffect.unloaded]
  | appliedPhase selection hcommand hdirect =>
    rw [hcfg, Bool.true_and] at hdirect
    simpa [hlog] using operator_unloaded hdirect (h selection hcommand hdirect)

end Steps

/-- A step with the evidence that its phase change needs applies none under load. -/
theorem phaseUnloaded_of_evidence {cfg : RelaySettings} (hcfg : cfg.phaseSelectionRequiresPause = true)
    (s : RelaySystem) (event : RelayEvent) (h : s.PhaseEvidence cfg event) : s.PhaseUnloaded cfg event := by
  by_cases hworker : event.isWorker = true
  · intro effect hmem
    obtain ⟨-, -, writes, hlog, hwrites⟩ := s.beginEvent.handle_worker_frame cfg hworker
    change effect ∈ (s.beginEvent.handle cfg event).service.log at hmem
    rw [hlog, beginEvent_log, List.nil_append] at hmem
    obtain ⟨on, rfl⟩ := hwrites effect hmem
    rfl
  · cases event with
    | cycle i =>
      intro effect hmem
      exact cycle_unloaded (s := s.beginEvent.service) hcfg h (runUpdateCycle_effect rfl hmem)
    | command command io =>
      have heffects := (s.beginEvent.service.handleControlCommand_step cfg io command).effects
      generalize (s.beginEvent.service.executeCommand cfg command io).externalSideEffectStarted =
        started at heffects
      refine command_unloaded hcfg rfl heffects fun selection hcommand hoff => ?_
      subst hcommand
      exact h hoff
    | _ => exact absurd rfl hworker

/-- For a backend that needs a pause, in every run whose phase changes have that evidence no phase
selection is applied under load. -/
theorem phase_unloaded (cfg : RelaySettings) (hcfg : cfg.phaseSelectionRequiresPause = true)
    (s : RelaySystem) (events : List RelayEvent) (h : Along (step cfg) (PhaseEvidence cfg) s events) :
    Along (step cfg) (PhaseUnloaded cfg) s events :=
  h.mono (phaseUnloaded_of_evidence hcfg)

/-- The phase switch of a running charger: it is staged, and the worker switches the relay off. -/
def stagedSwitch : List RelayEvent :=
  [.cycle (.calm 0), .command (.setPhaseSelection .p1p2) ⟨1, .ok, true, true, true, true, true⟩,
    .workerTake false, .workerWrite 2 .ok, .workerFinalize 2 true,
    .workerRead (some ⟨false, 0, 0, some .p1, true⟩) 2]

/-- The switch is applied while the reading is fresh. -/
theorem staged_switch_unloaded :
    Along (step .paused) (PhaseUnloaded .paused)
      ⟨(RelayService.initial 0 true).withReading true 0, .idle⟩ (stagedSwitch ++ [.cycle (.calm 3)]) :=
  phase_unloaded .paused rfl _ _ (by decide +kernel)

/-- The switch is also applied six seconds later, on the same reading. -/
theorem staged_switch_on_stale_reading :
    ¬ Along (step .paused) (PhaseUnloaded .paused)
      ⟨(RelayService.initial 0 true).withReading true 0, .idle⟩ (stagedSwitch ++ [.cycle (.calm 8)]) := by
  decide +kernel

end RelaySystem

end VenusEvcharger
