import VenusEvcharger.Control.RelayWrites
import VenusEvcharger.Library.Run

/-!
# A user stop and the phase switch

A staged phase switch remembers in `_phase_switch_resume_relay` that the relay has to be switched on again
at its end. A stop that the user asks for in between does not take this back. `stop_survives` says under
which commands no switch resumes the relay against a stop.
-/

namespace VenusEvcharger

open Library

namespace RelayService

section Origins

variable {s : RelayService} {cfg : RelaySettings} {i : CycleInput}

/-- Only a latched switch that ends in manual mode resumes the relay. -/
theorem CycleEffect.latched {effect : RelayEffect} (h : CycleEffect s cfg i effect)
    (horigin : effect.origin = some .phaseSwitchResume) :
    s.phase.resumeRelay = true ∧ s.autoModeActive = false := by
  cases h with
  | startup effect hmem =>
    rw [s.preparationEffects_origin cfg i effect hmem] at horigin
    cases horigin
  | staged pm applied effect hpm happlied hmem =>
    obtain ⟨-, -, -, selection, rfl⟩ := happlied.of_mem hmem
    cases horigin
  | resume pm hpm hresume =>
    obtain ⟨hmode, hphase, -, -⟩ := s.prepareOnlineUpdate_frame cfg i
    simp only [resumeIssues, hphase, autoModeActive, hmode, Bool.and_eq_true,
      Bool.not_eq_true'] at hresume
    exact ⟨hresume.1.1.2, hresume.1.2⟩
  | auto pm pass view override applied effect hpm hstep hresult happlied hmem =>
    obtain ⟨-, -, -, selection, rfl⟩ := happlied.of_mem hmem
    cases horigin
  | decision on =>
    rw [RelaySettings.commandEffect_origin] at horigin
    cases horigin

end Origins

end RelayService

/-! ## Runs with the user's last word -/

/-- The system, and whether the user's last accepted word on charging was a stop. -/
structure StopRun where
  system : RelaySystem
  stopped : Bool

/-- What a command says about charging: a stop, or a start or a mode that ends a stop. -/
def RelayCommand.asksStop : RelayCommand → Option Bool
  | .setStartStop on => some !on
  | .setEnable on => some !on
  | .setMode _ => some false
  | _ => none

theorem RelayService.CommandEffects.not_resume {s : RelayService} {cfg : RelaySettings}
    {command : RelayCommand} {io : CommandInput} {queue : RelayQueue} {log : List RelayEffect}
    {started : Bool} (h : s.CommandEffects cfg command io queue log started) (hlog : s.log = []) :
    ∀ effect ∈ log, effect.origin ≠ some .phaseSwitchResume := by
  cases h <;> simp [hlog, RelayEffect.origin]

namespace StopRun

/-- One step of the system; only an accepted command is the user's word. -/
def step (cfg : RelaySettings) (r : StopRun) (event : RelayEvent) : StopRun where
  system := r.system.step cfg event
  stopped := match event with
    | .command command io =>
      if r.system.commandStatus cfg command io = .rejected then r.stopped
      else command.asksStop.getD r.stopped
    | _ => r.stopped

/-- After a stop no phase switch resumes the relay in this step. -/
def StopSurvives (cfg : RelaySettings) (r : StopRun) (event : RelayEvent) : Prop :=
  r.stopped = true →
    ∀ effect ∈ (r.step cfg event).system.service.log, effect.origin ≠ some .phaseSwitchResume

/-- In manual mode an accepted stop finds no latched switch, and an accepted phase selection after a stop
is not staged. -/
def StopBeforeStaging (cfg : RelaySettings) (r : StopRun) (event : RelayEvent) : Prop :=
  match event with
  | .command command io =>
    r.system.commandStatus cfg command io ≠ .rejected → r.system.service.autoModeActive = false →
      (command.asksStop = some true → r.system.service.phase.resumeRelay = false) ∧
      (r.stopped = true → r.system.service.stagesPhaseSwitch cfg command io = false)
  | _ => True

instance (cfg : RelaySettings) (r : StopRun) (event : RelayEvent) :
    Decidable (r.StopSurvives cfg event) :=
  inferInstanceAs (Decidable (_ → _))

instance (cfg : RelaySettings) (r : StopRun) : ∀ event, Decidable (r.StopBeforeStaging cfg event)
  | .command _ _ => inferInstanceAs (Decidable (_ → _ → _))
  | .cycle _ | .workerTake _ | .workerWrite _ _ | .workerFinalize _ _ | .workerTick _ | .workerRead _ _ =>
    isTrue trivial

/-- In manual mode a stop finds no latched switch. -/
def Unlatched (r : StopRun) : Prop :=
  r.stopped = true → r.system.service.autoModeActive = false →
    r.system.service.phase.resumeRelay = false

theorem Unlatched.of_kept {r after : StopRun} (hr : r.Unlatched)
    (hstopped : after.stopped = true → r.stopped = true)
    (hmode : after.system.service.control.virtualMode = r.system.service.control.virtualMode)
    (hlatch : after.system.service.phase.resumeRelay = true →
      r.system.service.phase.resumeRelay = true ∨ r.system.service.autoModeActive = true) :
    after.Unlatched := by
  intro hstop hmanual
  have hbefore : r.system.service.autoModeActive = false :=
    (congrArg modeUsesAutoLogic hmode).symm.trans hmanual
  by_contra hresume
  rw [Bool.not_eq_false] at hresume
  rcases hlatch hresume with hlatched | hauto
  · exact Bool.false_ne_true ((hr (hstopped hstop) hbefore).symm.trans hlatched)
  · exact Bool.false_ne_true (hbefore.symm.trans hauto)

variable {cfg : RelaySettings}

theorem stagesPhaseSwitch_of_asksStop {s : RelayService} {command : RelayCommand}
    {io : CommandInput} {stop : Bool} (h : command.asksStop = some stop) :
    s.stagesPhaseSwitch cfg command io = false := by
  cases command with
  | setPhaseSelection selection => cases h
  | _ => rfl

/-- A permitted command keeps a stop free of latched switches. -/
theorem unlatched_command {r : StopRun} {command : RelayCommand} {io : CommandInput}
    (hr : r.Unlatched) (hok : r.StopBeforeStaging cfg (.command command io)) :
    (r.step cfg (.command command io)).Unlatched := by
  have hstep := r.system.beginEvent.service.handleControlCommand_step cfg io command
  by_cases hrejected : r.system.commandStatus cfg command io = .rejected
  · have hstopped : (r.step cfg (.command command io)).stopped = r.stopped := if_pos hrejected
    rcases r.system.beginEvent.service.handleControlCommand_cases cfg io command with
      ⟨-, hback⟩ | ⟨-, haccepted⟩
    · have hservice := congrArg Prod.fst hback
      exact hr.of_kept (fun h => hstopped.symm.trans h)
        (congrArg (·.control.virtualMode) hservice)
        fun h => .inl ((congrArg (·.phase.resumeRelay) hservice).symm.trans h)
    · exact absurd hrejected haccepted
  · have hstopped : (r.step cfg (.command command io)).stopped = command.asksStop.getD r.stopped :=
      if_neg hrejected
    intro hstop hmanual
    rw [hstopped] at hstop
    have hmode : (r.step cfg (.command command io)).system.service.control.virtualMode =
        r.system.service.control.virtualMode := by
      rcases hstep.mode_eq with hmode | ⟨mode, rfl⟩
      · exact hmode
      · cases hstop
    have hbefore : r.system.service.autoModeActive = false :=
      (congrArg modeUsesAutoLogic hmode).symm.trans hmanual
    obtain ⟨hstops, hstages⟩ := hok hrejected hbefore
    by_contra hresume
    rw [Bool.not_eq_false] at hresume
    cases hasks : command.asksStop with
    | none =>
      rw [hasks, Option.getD_none] at hstop
      rcases hstep.resume_cases hresume with hlatched | hstaged
      · exact Bool.false_ne_true ((hr hstop hbefore).symm.trans hlatched)
      · exact Bool.false_ne_true ((hstages hstop).symm.trans hstaged)
    | some stop =>
      rw [hasks, Option.getD_some] at hstop
      subst hstop
      rcases hstep.resume_cases hresume with hlatched | hstaged
      · exact Bool.false_ne_true ((hstops hasks).symm.trans hlatched)
      · exact Bool.false_ne_true ((stagesPhaseSwitch_of_asksStop hasks).symm.trans hstaged)

/-- Every permitted step keeps a stop free of latched switches. -/
theorem unlatched_step {r : StopRun} {event : RelayEvent} (hr : r.Unlatched)
    (hok : r.StopBeforeStaging cfg event) : (r.step cfg event).Unlatched := by
  by_cases hworker : event.isWorker = true
  · obtain ⟨hcontrol, hphase, -⟩ := r.system.beginEvent.handle_worker_frame cfg hworker
    have hstopped : (r.step cfg event).stopped = r.stopped := by
      cases event with
      | command command io => cases hworker
      | _ => rfl
    exact hr.of_kept (fun h => hstopped.symm.trans h) (congrArg (·.virtualMode) hcontrol)
      fun h => .inl ((congrArg (·.resumeRelay) hphase).symm.trans h)
  · cases event with
    | cycle input =>
      obtain ⟨hmode, hlatch⟩ := r.system.beginEvent.service.runUpdateCycle_frame cfg input
      exact hr.of_kept id hmode hlatch
    | command command io => exact unlatched_command hr hok
    | _ => exact absurd rfl hworker

/-- Without a latched switch a stop survives the step. -/
theorem Unlatched.stopSurvives {r : StopRun} (hr : r.Unlatched)
    (event : RelayEvent) : r.StopSurvives cfg event := by
  intro hstopped effect hmem horigin
  by_cases hworker : event.isWorker = true
  · obtain ⟨-, -, writes, hlog, hwrites⟩ := r.system.beginEvent.handle_worker_frame cfg hworker
    change effect ∈ (r.system.beginEvent.handle cfg event).service.log at hmem
    rw [hlog, RelaySystem.beginEvent_log, List.nil_append] at hmem
    obtain ⟨on, rfl⟩ := hwrites effect hmem
    cases horigin
  · cases event with
    | cycle input =>
      obtain ⟨hlatched, hmanual⟩ := (RelayService.runUpdateCycle_effect rfl hmem).latched horigin
      exact Bool.false_ne_true ((hr hstopped hmanual).symm.trans hlatched)
    | command command io =>
      have heffects := (r.system.beginEvent.service.handleControlCommand_step cfg io command).effects
      generalize (r.system.beginEvent.service.executeCommand cfg command io).externalSideEffectStarted =
        started at heffects
      exact heffects.not_resume rfl effect hmem horigin
    | _ => exact absurd rfl hworker

/-- In every run whose stops come before the staging, no phase switch resumes the relay after a stop. -/
theorem stop_survives (cfg : RelaySettings) (r : StopRun) (events : List RelayEvent)
    (hstart : r.stopped = false) (hok : Along (step cfg) (StopBeforeStaging cfg) r events) :
    Along (step cfg) (StopSurvives cfg) r events :=
  along_of_invariant (fun _ _ => unlatched_step) (fun _ event hr _ => hr.stopSurvives event)
    (fun h => absurd (hstart.symm.trans h) Bool.false_ne_true) hok

/-- A command at this time, of which every call succeeds. -/
def commandAt (now : ℚ) : CommandInput := ⟨now, .ok, true, true, true, true, true⟩

/-- The relay is on in manual mode. -/
def running : StopRun where
  system := ⟨(RelayService.initial 0 true).withReading true 0, .idle⟩
  stopped := false

/-- The worker executes the pending command, and reads the relay. -/
def workerPass (now : ℚ) (output : Bool) (selection : PhaseSelection) : List RelayEvent :=
  [.workerTake false, .workerWrite now .ok, .workerFinalize now true,
    .workerRead (some ⟨output, 0, 0, some selection, true⟩) now]

/-- A stop before the phase selection survives. -/
theorem stop_survives_before_selection :
    Along (step .paused) (StopSurvives .paused) running
      (.cycle (.calm 0) :: .command (.setEnable false) (commandAt 1) :: workerPass 2 false .p1 ++
        [.command (.setPhaseSelection .p1p2) (commandAt 3), .cycle (.calm 4)]) :=
  stop_survives .paused running _ rfl (by decide +kernel)

/-- A stop while the switch waits for the relay does not: the switch ends and switches on. -/
theorem stop_lost_in_phase_switch :
    ¬ Along (step .paused) (StopSurvives .paused) running
      (.cycle (.calm 0) :: .command (.setPhaseSelection .p1p2) (commandAt 1) ::
        .command (.setEnable false) (commandAt 2) :: workerPass 3 false .p1 ++
        [.cycle (.calm 4), .workerRead (some ⟨false, 0, 0, some .p1p2, true⟩) 7, .cycle (.calm 7)]) := by
  decide +kernel

end StopRun

end VenusEvcharger
