import VenusEvcharger.Control.Idempotency
import VenusEvcharger.Update.RelayCycle

/-!
# Control commands on the relay

`ControlWriteController` handles the commands for the mode, start-stop, enable, the phase selection and the
lockout resets as one transaction each. `RelaySystem.step` interleaves them with update cycles and the
steps of the I/O worker.

Scope: a command is already validated. The commands that leave the relay logic alone are left out here.
-/

namespace VenusEvcharger

/-- The commands that touch the relay logic. -/
inductive RelayCommand where
  | setMode (mode : Nat)
  | setStartStop (on : Bool)
  | setEnable (on : Bool)
  | setPhaseSelection (selection : PhaseSelection)
  | resetPhaseLockout (requested : Bool)
  | resetContactorLockout (requested : Bool)
deriving DecidableEq

/-- The time of a command, and how the calls that it makes end. -/
structure CommandInput where
  now : ℚ
  call : CallOutcome
  published : Bool
  phaseApplied : Bool
  stateSaved : Bool
  overridesSaved : Bool
  committed : Bool

/-- The state in which a handler ends, whether it has started an external effect, and whether it raised
an error. -/
structure HandlerResult where
  service : RelayService
  externalSideEffectStarted : Bool
  raised : Bool

/-! ## Evidence for a cutover -/

open ConfirmedRelay (timestampAgeWithin) in
/-- `_fresh_confirmed_relay_output` of the write port: the worker snapshot first, then the remembered
status. -/
def PmCaches.cutoverOutput (c : PmCaches) (cfg : RelaySettings) (now : ℚ) : Option Bool :=
  let fresh (reading : Bool × ℚ) := timestampAgeWithin (some reading.2) now cfg.relayStatusFreshnessSeconds
  match c.workerReading.filter fresh with
  | some reading => some reading.1
  | none => (c.lastReading.filter fresh).map (·.1)

namespace RelayService

section

variable (s : RelayService) (cfg : RelaySettings)

/-- `relay_may_be_on_for_cutover`: without a fresh confirmed sample the relay may be on. -/
def relayMayBeOnForCutover (now : ℚ) : Bool :=
  if s.queue.pendingRelayState = some true then true else (s.pm.cutoverOutput cfg now).getD true

/-! ## Handlers -/

/-- `_apply_manual_enable_like_request`. -/
def applyManualEnableLikeRequest (wantedOn : Bool)
    (io : CommandInput) : HandlerResult :=
  let written (s : RelayService) := { s with control := { s.control with
    virtualStartstop := wantedOn
    virtualEnable := wantedOn
    manualOverrideUntil := io.now + cfg.autoManualOverrideSeconds } }
  if cfg.chargerEnableBackend then
    match io.call with
    | .ok => ⟨written (s.emit (.setEnabled .controlCommand wantedOn)), true, false⟩
    | .failed _ => ⟨s.emit (.setEnabled .controlCommand wantedOn), false, true⟩
  else
    let s := written (s.queueCommand cfg .controlCommand wantedOn io.now)
    ⟨s.publishLocalPmStatus io.published wantedOn io.now, true, false⟩

/-- `_apply_auto_disable`. -/
def applyAutoDisable (io : CommandInput) : HandlerResult :=
  let s := s.queueCommand cfg .controlCommand false io.now
  let s := { s with control := { s.control with virtualEnable := false, virtualStartstop := false } }
  ⟨s.publishLocalPmStatus io.published false io.now, true, false⟩

/-- `_handle_startstop_write` and `_handle_enable_write`: in Auto mode the request allows or denies
charging, in manual mode it switches. -/
def handleEnableWrite (wantedOn : Bool) (io : CommandInput) :
    HandlerResult :=
  if s.autoModeActive then
    if wantedOn then ⟨{ s with control := { s.control with virtualEnable := true } }, false, false⟩
    else s.applyAutoDisable cfg io
  else s.applyManualEnableLikeRequest cfg wantedOn io

/-- `_handle_startstop_write`. -/
def handleStartstopWrite (wantedOn : Bool) (io : CommandInput) :
    HandlerResult :=
  s.handleEnableWrite cfg wantedOn io

/-- `_handle_mode_transition_to_auto`. -/
def handleModeTransitionToAuto (io : CommandInput) :
    HandlerResult :=
  if s.autoModeActive then ⟨s, false, false⟩
  else if s.relayMayBeOnForCutover cfg io.now then
    let s := s.queueCommand cfg .controlCommand false io.now
    let s := { s with control := { s.control with
      virtualEnable := true
      virtualStartstop := false
      autoModeCutoverPending := true
      ignoreMinOfftimeOnce := false
      manualOverrideUntil := 0 } }
    ⟨s.publishLocalPmStatus io.published false io.now, true, false⟩
  else
    ⟨{ s with control := { s.control with
      autoModeCutoverPending := false
      ignoreMinOfftimeOnce := false
      manualOverrideUntil := 0 } }, false, false⟩

/-- `_handle_mode_transition_to_manual`: the Auto permission becomes the manual relay target. -/
def handleModeTransitionToManual (io : CommandInput) :
    HandlerResult :=
  if !s.autoModeActive || s.control.virtualStartstop == s.control.virtualEnable then ⟨s, false, false⟩
  else s.applyManualEnableLikeRequest cfg s.control.virtualEnable io

/-- `_handle_mode_write`. -/
def handleModeWrite (mode : Nat) (io : CommandInput) :
    HandlerResult :=
  let transition :=
    if modeUsesAutoLogic mode then s.handleModeTransitionToAuto cfg io
    else s.handleModeTransitionToManual cfg io
  if transition.raised then transition
  else
    let s := transition.service
    { transition with service := { s with
        control := { s.control with virtualMode := normalizeMode mode }
        pm := s.pm.storeWorkerPm s.pm.worker io.now } }

/-- `effective_supported_phase_selections`: a lockout leaves the selections with fewer phases. -/
def effectiveSupportedPhaseSelections (now : ℚ) :
    List PhaseSelection :=
  match s.phase.lockoutSelection, s.phase.lockoutUntil with
  | some locked, some until' =>
    if now < until' then
      match cfg.supportedPhaseSelections.filter fun selection =>
          decide (selection.count ≤ max 1 (locked.count - 1)) with
      | [] => cfg.supportedPhaseSelections
      | filtered => filtered
    else cfg.supportedPhaseSelections
  | _, _ => cfg.supportedPhaseSelections

/-- `_handle_phase_selection_write`. -/
def handlePhaseSelectionWrite (selection : PhaseSelection)
    (io : CommandInput) : HandlerResult :=
  if selection ∈ s.effectiveSupportedPhaseSelections cfg io.now then
    if cfg.phaseSelectionRequiresPause && s.relayMayBeOnForCutover cfg io.now then
      let s := { s with phase := s.phase.stagePhaseSwitch selection io.now true }
      let s := s.queueCommand cfg .controlCommand false io.now
      ⟨s.publishLocalPmStatus io.published false io.now, true, false⟩
    else ⟨s.applyPhaseSelection cfg selection io.phaseApplied io.now, false, !io.phaseApplied⟩
  else ⟨s, false, true⟩

end

/-- `_handle_phase_lockout_reset_write`. -/
def handlePhaseLockoutResetWrite (s : RelayService) (requested : Bool) : HandlerResult :=
  if requested then
    ⟨{ s with phase := { s.phase.clearPhaseSwitchLockout with
      mismatchActive := false
      mismatchCounts := fun _ => 0
      lastMismatchSelection := none
      lastMismatchAt := none } }, false, false⟩
  else ⟨s, false, false⟩

/-- `_handle_contactor_lockout_reset_write`. -/
def handleContactorLockoutResetWrite (s : RelayService) (requested : Bool) : HandlerResult :=
  if requested then ⟨{ s with contactor := .initial }, false, false⟩ else ⟨s, false, false⟩

/-- `ControlApiV1Service.execute`. -/
def executeCommand (s : RelayService) (cfg : RelaySettings) (command : RelayCommand) (io : CommandInput) :
    HandlerResult :=
  match command with
  | .setMode mode => s.handleModeWrite cfg mode io
  | .setStartStop on => s.handleStartstopWrite cfg on io
  | .setEnable on => s.handleEnableWrite cfg on io
  | .setPhaseSelection selection => s.handlePhaseSelectionWrite cfg selection io
  | .resetPhaseLockout requested => s.handlePhaseLockoutResetWrite requested
  | .resetContactorLockout requested => s.handleContactorLockoutResetWrite requested

/-- `_handle_control_command_locked`: a failure before any external effect and before the state is saved
takes the command back, a later one leaves it in flight. -/
def handleControlCommand (s : RelayService) (cfg : RelaySettings) (command : RelayCommand)
    (io : CommandInput) : RelayService × ControlCommandStatus :=
  let handled := s.executeCommand cfg command io
  if handled.raised || !io.stateSaved then
    if handled.externalSideEffectStarted then (handled.service, .acceptedInFlight)
    else ({ s with log := handled.service.log }, .rejected)
  else if io.overridesSaved && io.committed then (handled.service, .applied)
  else (handled.service, .acceptedInFlight)

/-! ## What a command does -/

section Effects

variable (s : RelayService) (cfg : RelaySettings)

/-- What a command does to the relay queue and the hardware: the queue and the log afterwards, and whether
it started an external effect. -/
inductive CommandEffects (command : RelayCommand) (io : CommandInput) :
    RelayQueue → List RelayEffect → Bool → Prop
  | none : CommandEffects command io s.queue s.log false
  | called (on started : Bool) (hbackend : cfg.chargerEnableBackend = true) :
      CommandEffects command io s.queue (s.log ++ [.setEnabled .controlCommand on]) started
  | queued (on : Bool) (hbackend : cfg.chargerEnableBackend = true → on = false) :
      CommandEffects command io (.queueRelayCommand cfg on io.now)
        (s.log ++ [.queueRelayCommand .controlCommand on]) true
  | appliedPhase (selection : PhaseSelection) (hcommand : command = .setPhaseSelection selection)
      (hdirect : (cfg.phaseSelectionRequiresPause && s.relayMayBeOnForCutover cfg io.now) = false) :
      CommandEffects command io s.queue (s.log ++ [.applyPhaseSelection selection
        s.queue.pendingRelayState (s.pm.newestFreshOutput cfg io.now)]) false

/-- A command stages a phase switch, which resumes the relay at its end. -/
def stagesPhaseSwitch (command : RelayCommand) (io : CommandInput) : Bool :=
  match command with
  | .setPhaseSelection _ => cfg.phaseSelectionRequiresPause && s.relayMayBeOnForCutover cfg io.now
  | _ => false

/-- What a handler does, keeps, and latches. -/
structure CommandStep (command : RelayCommand) (io : CommandInput) (r : HandlerResult) : Prop where
  effects : s.CommandEffects cfg command io r.service.queue r.service.log r.externalSideEffectStarted
  mode_eq : r.service.control.virtualMode = s.control.virtualMode ∨ ∃ mode, command = .setMode mode
  resume_cases : r.service.phase.resumeRelay = true →
    s.phase.resumeRelay = true ∨ s.stagesPhaseSwitch cfg command io = true

variable {s cfg} {io : CommandInput}

theorem CommandEffects.queue_eq {command : RelayCommand} {queue : RelayQueue} {log : List RelayEffect}
    (h : s.CommandEffects cfg command io queue log false) : queue = s.queue := by
  cases h <;> rfl

/-- A handler that touches neither the queue nor the hardware. -/
theorem CommandStep.of_quiet {command : RelayCommand} {r : HandlerResult}
    (hqueue : r.service.queue = s.queue) (hlog : r.service.log = s.log)
    (hstarted : r.externalSideEffectStarted = false)
    (hmode : r.service.control.virtualMode = s.control.virtualMode)
    (hphase : r.service.phase.resumeRelay = true → s.phase.resumeRelay = true) :
    s.CommandStep cfg command io r where
  effects := by
    rw [hqueue, hlog, hstarted]
    exact .none
  mode_eq := .inl hmode
  resume_cases := fun h => .inl (hphase h)

section

variable (command : RelayCommand)

theorem applyManualEnableLikeRequest_step (wantedOn : Bool) :
    s.CommandStep cfg command io (s.applyManualEnableLikeRequest cfg wantedOn io) := by
  unfold applyManualEnableLikeRequest
  cases hbackend : cfg.chargerEnableBackend with
  | true => cases io.call <;> exact ⟨.called wantedOn _ hbackend, .inl rfl, .inl⟩
  | false =>
    simp only [Bool.false_eq_true, ↓reduceIte]
    refine ⟨?_, .inl (by simp [queueCommand, emit]), fun h => .inl (by simpa [queueCommand, emit] using h)⟩
    simpa [queueCommand, emit] using CommandEffects.queued wantedOn (by simp [hbackend])

theorem applyAutoDisable_step : s.CommandStep cfg command io (s.applyAutoDisable cfg io) := by
  unfold applyAutoDisable
  refine ⟨?_, .inl (by simp [queueCommand, emit]), fun h => .inl (by simpa [queueCommand, emit] using h)⟩
  simpa [queueCommand, emit] using CommandEffects.queued false fun _ => rfl

theorem handleEnableWrite_step (wantedOn : Bool) :
    s.CommandStep cfg command io (s.handleEnableWrite cfg wantedOn io) := by
  unfold handleEnableWrite
  split
  · cases wantedOn with
    | true => exact .of_quiet rfl rfl rfl rfl id
    | false => exact applyAutoDisable_step command
  · exact applyManualEnableLikeRequest_step command wantedOn

theorem handleModeTransitionToAuto_step :
    s.CommandStep cfg command io (s.handleModeTransitionToAuto cfg io) := by
  unfold handleModeTransitionToAuto
  split
  · exact .of_quiet rfl rfl rfl rfl id
  · split
    · refine ⟨?_, .inl (by simp [queueCommand, emit]), fun h => .inl (by simpa [queueCommand, emit] using h)⟩
      simpa [queueCommand, emit] using CommandEffects.queued false fun _ => rfl
    · exact .of_quiet rfl rfl rfl rfl id

theorem handleModeTransitionToManual_step :
    s.CommandStep cfg command io (s.handleModeTransitionToManual cfg io) := by
  unfold handleModeTransitionToManual
  split
  · exact .of_quiet rfl rfl rfl rfl id
  · exact applyManualEnableLikeRequest_step command _

end

theorem handleModeWrite_step (mode : Nat) :
    s.CommandStep cfg (.setMode mode) io (s.handleModeWrite cfg mode io) := by
  have htransition : s.CommandStep cfg (.setMode mode) io
      (if modeUsesAutoLogic mode then s.handleModeTransitionToAuto cfg io
        else s.handleModeTransitionToManual cfg io) := by
    split
    · exact handleModeTransitionToAuto_step _
    · exact handleModeTransitionToManual_step _
  unfold handleModeWrite
  simp only
  generalize (if modeUsesAutoLogic mode then s.handleModeTransitionToAuto cfg io
    else s.handleModeTransitionToManual cfg io) = transition at htransition ⊢
  split
  · exact htransition
  · exact ⟨htransition.effects, .inr ⟨mode, rfl⟩, htransition.resume_cases⟩

theorem handlePhaseSelectionWrite_step (selection : PhaseSelection) :
    s.CommandStep cfg (.setPhaseSelection selection) io (s.handlePhaseSelectionWrite cfg selection io) := by
  unfold handlePhaseSelectionWrite
  split
  · split
    · next hstaged =>
      refine ⟨?_, .inl (by simp [queueCommand, emit]), fun _ => .inr hstaged⟩
      simpa [queueCommand, emit] using CommandEffects.queued false fun _ => rfl
    · next hdirect =>
      rw [Bool.not_eq_true] at hdirect
      unfold applyPhaseSelection
      cases io.phaseApplied <;> exact ⟨.appliedPhase selection rfl hdirect, .inl rfl, .inl⟩
  · exact .of_quiet rfl rfl rfl rfl id

variable (s cfg io) (command : RelayCommand)

theorem executeCommand_step : s.CommandStep cfg command io (s.executeCommand cfg command io) := by
  cases command with
  | setMode mode => exact handleModeWrite_step mode
  | setStartStop on => exact handleEnableWrite_step _ on
  | setEnable on => exact handleEnableWrite_step _ on
  | setPhaseSelection selection => exact handlePhaseSelectionWrite_step selection
  | resetPhaseLockout requested => cases requested <;> exact .of_quiet rfl rfl rfl rfl id
  | resetContactorLockout requested => cases requested <;> exact .of_quiet rfl rfl rfl rfl id

/-- A rejected command leaves the service as it was, any other one as its handler left it. -/
theorem handleControlCommand_cases :
    let handled := s.executeCommand cfg command io
    handled.externalSideEffectStarted = false ∧
        s.handleControlCommand cfg command io = ({ s with log := handled.service.log }, .rejected) ∨
      (s.handleControlCommand cfg command io).1 = handled.service ∧
        (s.handleControlCommand cfg command io).2 ≠ .rejected := by
  unfold handleControlCommand
  simp only
  split
  · split
    · exact .inr ⟨rfl, nofun⟩
    · next hstarted => exact .inl ⟨Bool.not_eq_true _ ▸ hstarted, rfl⟩
  · split <;> exact .inr ⟨rfl, nofun⟩

/-- The effects of a command are those of its handler, also when it is rejected. -/
theorem handleControlCommand_step :
    let handled := s.executeCommand cfg command io
    s.CommandStep cfg command io
      { handled with service := (s.handleControlCommand cfg command io).1 } := by
  have hstep := s.executeCommand_step cfg io command
  rcases s.handleControlCommand_cases cfg io command with
    ⟨hstarted, hrejected⟩ | ⟨haccepted, -⟩
  · refine ⟨?_, .inl (by rw [hrejected]), fun h => .inl (by rwa [hrejected] at h)⟩
    have heffects := hstep.effects
    rw [hstarted] at heffects
    rw [hrejected, hstarted]
    simpa only [heffects.queue_eq] using heffects
  · rw [haccepted]
    exact hstep

end Effects

end RelayService

/-! ## Interleavings -/

/-- One event of the system. -/
inductive RelayEvent where
  | cycle (input : CycleInput)
  | command (command : RelayCommand) (io : CommandInput)
  | workerTake (retryBlocked : Bool)
  | workerWrite (now : ℚ) (call : CallOutcome)
  | workerFinalize (now : ℚ) (published : Bool)
  | workerTick (now : ℚ)
  | workerRead (status : Option PmReading) (now : ℚ)

/-- A step of the I/O worker. -/
def RelayEvent.isWorker : RelayEvent → Bool
  | .cycle _ | .command _ _ => false
  | _ => true

namespace RelaySystem

/-- Before an event nothing is logged. -/
def beginEvent (s : RelaySystem) : RelaySystem := { s with service := { s.service with log := [] } }

@[simp] theorem beginEvent_log (s : RelaySystem) : s.beginEvent.service.log = [] := rfl

/-- What an event does. -/
def handle (cfg : RelaySettings) (s : RelaySystem) : RelayEvent → RelaySystem
  | .cycle input => { s with service := (s.service.runUpdateCycle cfg input).1 }
  | .command command io => { s with service := (s.service.handleControlCommand cfg command io).1 }
  | .workerTake retryBlocked => s.workerTake retryBlocked
  | .workerWrite now call => s.workerWrite cfg now call
  | .workerFinalize now published => s.workerFinalize cfg now published
  | .workerTick now => s.workerTick now
  | .workerRead status now => s.workerRead status now

/-- One step of the system; the log of the service holds the effects of this step. -/
def step (cfg : RelaySettings) (s : RelaySystem) (event : RelayEvent) : RelaySystem :=
  s.beginEvent.handle cfg event

/-- The status of a command event. -/
def commandStatus (cfg : RelaySettings) (s : RelaySystem) (command : RelayCommand) (io : CommandInput) :
    ControlCommandStatus :=
  (s.beginEvent.service.handleControlCommand cfg command io).2

/-- The decision of a cycle event. -/
def cycleReport (cfg : RelaySettings) (s : RelaySystem) (input : CycleInput) : Option CycleReport :=
  (s.beginEvent.service.runUpdateCycle cfg input).2

/-- A step of the worker changes neither the user's nor the phase attributes, and only writes the relay. -/
theorem handle_worker_frame (cfg : RelaySettings) (s : RelaySystem) {event : RelayEvent}
    (hworker : event.isWorker = true) :
    let after := (s.handle cfg event).service
    after.control = s.service.control ∧ after.phase = s.service.phase ∧
      ∃ writes, after.log = s.service.log ++ writes ∧ ∀ effect ∈ writes, ∃ on, effect = .writeRelay on := by
  cases event with
  | cycle input => cases hworker
  | command command io => cases hworker
  | workerTake retryBlocked => exact ⟨by simp [handle], by simp [handle], [], by simp [handle], by simp⟩
  | workerWrite now call =>
    obtain ⟨hcontrol, hphase, -, writes, hlog, hwrites⟩ := s.workerWrite_frame cfg now call
    exact ⟨hcontrol, hphase, writes, hlog, fun effect hmem =>
      let ⟨target, _, heq⟩ := hwrites effect hmem
      ⟨target, heq⟩⟩
  | workerFinalize now published =>
    obtain ⟨hcontrol, hphase, hlog⟩ := s.workerFinalize_frame cfg now published
    exact ⟨hcontrol, hphase, [], by rw [List.append_nil]; exact hlog, by simp⟩
  | workerTick now => exact ⟨rfl, rfl, [], (List.append_nil _).symm, by simp⟩
  | workerRead status now => exact ⟨rfl, rfl, [], (List.append_nil _).symm, by simp⟩

end RelaySystem

end VenusEvcharger
