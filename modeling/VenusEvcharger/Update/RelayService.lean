import VenusEvcharger.Update.ChargerHealth

/-!
# The relay state of the service

Update cycles, control commands and the I/O worker share the pending relay command, the sync tracking,
the PM caches, the staged phase switch and the contactor state. The effects of one event on the hardware
are logged in `RelayService.log`.

Scope: a backend call either succeeds or raises an error that its caller catches. Health texts and
failure marks are left out.
-/

namespace VenusEvcharger

/-! ## The relay queue -/

/-- The attributes `_pending_relay_*` and `_relay_sync_*`. -/
structure RelayQueue where
  pendingRelayState : Option Bool
  pendingRelayRequestedAt : Option ℚ
  relaySyncExpectedState : Option Bool
  relaySyncRequestedAt : Option ℚ
  relaySyncDeadlineAt : Option ℚ
  relaySyncFailureReported : Bool
  /-- A command that is still pending is the one whose confirmation is expected. -/
  pending_expected : ∀ pending expected,
    pendingRelayState = some pending → relaySyncExpectedState = some expected → pending = expected

namespace RelayQueue

/-- `queue_relay_command`. -/
def queueRelayCommand (cfg : RelaySettings) (relayOn : Bool) (now : ℚ) : RelayQueue where
  pendingRelayState := some relayOn
  pendingRelayRequestedAt := some now
  relaySyncExpectedState := some relayOn
  relaySyncRequestedAt := some now
  relaySyncDeadlineAt := some (now + cfg.relaySyncTimeoutSeconds)
  relaySyncFailureReported := false
  pending_expected := by simp

/-- `clear_pending_relay_command`: a command that was replaced in the meantime stays. -/
def clearPendingRelayCommand (q : RelayQueue) (relayOn : Bool) : RelayQueue :=
  if q.pendingRelayState = some relayOn then
    { q with pendingRelayState := none, pendingRelayRequestedAt := none, pending_expected := nofun }
  else q

/-- `_clear_relay_sync_tracking`. -/
def clearRelaySyncTracking (q : RelayQueue) : RelayQueue :=
  { q with
    relaySyncExpectedState := none
    relaySyncRequestedAt := none
    relaySyncDeadlineAt := none
    relaySyncFailureReported := false
    pending_expected := nofun }

/-- `relay_sync_health_override`; a reported timeout ends the tracking. -/
def relaySyncHealthOverride (q : RelayQueue) (relayOn pmConfirmed : Bool) (now : ℚ) : RelayQueue :=
  match q.relaySyncExpectedState with
  | none => q
  | some expected =>
    if pmConfirmed && relayOn == expected then q.clearRelaySyncTracking
    else if q.relaySyncDeadlineAt.all (decide <| now < ·) then q
    else q.clearRelaySyncTracking

@[simp] theorem queueRelayCommand_pending (cfg : RelaySettings) (relayOn : Bool) (now : ℚ) :
    (queueRelayCommand cfg relayOn now).pendingRelayState = some relayOn := rfl

@[simp] theorem clearRelaySyncTracking_pending (q : RelayQueue) :
    q.clearRelaySyncTracking.pendingRelayState = q.pendingRelayState := rfl

@[simp] theorem relaySyncHealthOverride_pending (q : RelayQueue) (relayOn pmConfirmed : Bool) (now : ℚ) :
    (q.relaySyncHealthOverride relayOn pmConfirmed now).pendingRelayState = q.pendingRelayState := by
  unfold relaySyncHealthOverride
  split
  · rfl
  · split
    · rfl
    · split <;> rfl

theorem clearPendingRelayCommand_pending (q : RelayQueue) (relayOn : Bool) :
    (q.clearPendingRelayCommand relayOn).pendingRelayState =
      if q.pendingRelayState = some relayOn then none else q.pendingRelayState := by
  unfold clearPendingRelayCommand
  split <;> rfl

end RelayQueue

/-! ## The service -/

/-- The two active values of `_phase_switch_state`; any other text is no active state. -/
inductive PhaseSwitchState where
  | waitingRelayOff
  | stabilizing
deriving DecidableEq

/-- The attributes of the phase selection and of a staged phase switch. -/
structure PhaseVars where
  requestedPhaseSelection : PhaseSelection
  activePhaseSelection : PhaseSelection
  pendingSelection : Option PhaseSelection
  state : Option PhaseSwitchState
  requestedAt : Option ℚ
  stableUntil : Option ℚ
  resumeRelay : Bool
  mismatchActive : Bool
  mismatchCounts : PhaseSelection → Nat
  lastMismatchSelection : Option PhaseSelection
  lastMismatchAt : Option ℚ
  lockoutSelection : Option PhaseSelection
  lockoutUntil : Option ℚ
  autoTargetCandidate : Option PhaseSelection
  autoTargetSince : Option ℚ

/-- The attributes that the user's commands write. -/
structure ControlVars where
  virtualMode : Nat
  virtualEnable : Bool
  virtualStartstop : Bool
  manualOverrideUntil : ℚ
  autoModeCutoverPending : Bool
  ignoreMinOfftimeOnce : Bool
  startupManualTarget : Option Bool

/-- Which part of the program issues an enable or disable command. -/
inductive CommandOrigin where
  | startupTarget
  | phaseSwitchResume
  | relayDecision
  | controlCommand
deriving DecidableEq

/-- What an event does to the hardware. -/
inductive RelayEffect where
  /-- `set_enabled` of the charger backend is called. -/
  | setEnabled (origin : CommandOrigin) (on : Bool)
  /-- A relay command is queued for the worker. -/
  | queueRelayCommand (origin : CommandOrigin) (on : Bool)
  /-- `apply_phase_selection` is called, with the pending relay command and the newest fresh confirmed
  output at that time. -/
  | applyPhaseSelection (selection : PhaseSelection) (pending : Option Bool) (confirmed : Option Bool)
  /-- The worker writes the relay. -/
  | writeRelay (on : Bool)
deriving DecidableEq

/-- The service as the relay logic sees it. -/
structure RelayService where
  control : ControlVars
  phase : PhaseVars
  queue : RelayQueue
  pm : PmCaches
  transport : ChargerTransport
  contactor : ContactorVars
  /-- The effects of the current event, oldest first. -/
  log : List RelayEffect

/-- `normalize_mode`. -/
def normalizeMode (mode : Nat) : Nat := if mode = 1 ∨ mode = 2 then mode else 0

/-- `mode_uses_auto_logic`. -/
def modeUsesAutoLogic (mode : Nat) : Bool := normalizeMode mode == 1 || normalizeMode mode == 2

/-- The outcome of a backend call; a failure carries its `modbus_transport_issue_reason`, if any. -/
inductive CallOutcome where
  | ok
  | failed (transport : Option TransportReason)
deriving DecidableEq

/-- The result of `apply_enabled_target`. -/
inductive TargetResult where
  | applied
  | refused
  | raised (transport : Option TransportReason)
deriving DecidableEq

/-- The effect of a command: a charger backend that can be enabled is called, else the relay is queued. -/
def RelaySettings.commandEffect (cfg : RelaySettings) (origin : CommandOrigin) (on : Bool) : RelayEffect :=
  if cfg.chargerEnableBackend then .setEnabled origin on else .queueRelayCommand origin on

/-- An effect that asks the relay or the charger to switch on. -/
def RelayEffect.isEnable : RelayEffect → Bool
  | .setEnabled _ on => on
  | .queueRelayCommand _ on => on
  | _ => false

/-- The part of the program that an enable or disable command comes from. -/
def RelayEffect.origin : RelayEffect → Option CommandOrigin
  | .setEnabled origin _ => some origin
  | .queueRelayCommand origin _ => some origin
  | _ => none

@[simp] theorem RelaySettings.commandEffect_isEnable (cfg : RelaySettings) (origin : CommandOrigin)
    (on : Bool) : (cfg.commandEffect origin on).isEnable = on := by
  unfold commandEffect
  split <;> rfl

@[simp] theorem RelaySettings.commandEffect_origin (cfg : RelaySettings) (origin : CommandOrigin)
    (on : Bool) : (cfg.commandEffect origin on).origin = some origin := by
  unfold commandEffect
  split <;> rfl

namespace RelayService

/-- `mode_uses_auto_logic(svc.virtual_mode)`. -/
def autoModeActive (s : RelayService) : Bool := modeUsesAutoLogic s.control.virtualMode

/-- Log an effect. -/
def emit (s : RelayService) (effect : RelayEffect) : RelayService := { s with log := s.log ++ [effect] }

/-- `queue_relay_command` with its effect. -/
def queueCommand (s : RelayService) (cfg : RelaySettings) (origin : CommandOrigin) (on : Bool) (now : ℚ) :
    RelayService :=
  { s.emit (.queueRelayCommand origin on) with queue := .queueRelayCommand cfg on now }

/-- `publish_local_pm_status_best_effort`: a failed publication is only logged. -/
def publishLocalPmStatus (s : RelayService) (published relayOn : Bool) (now : ℚ) : RelayService :=
  if published then { s with pm := (s.pm.publishLocalPmStatus relayOn now).1 } else s

/-- `apply_enabled_target`: through the charger backend where it can be enabled, else by a queued relay
command. -/
def applyEnabledTarget (s : RelayService) (cfg : RelaySettings) (origin : CommandOrigin) (on : Bool)
    (now : ℚ) (call : CallOutcome) : RelayService × TargetResult :=
  if cfg.chargerEnableBackend then
    if s.transport.retryActive now then (s, .refused)
    else
      match call with
      | .ok => ({ s.emit (.setEnabled origin on) with transport := .clear }, .applied)
      | .failed transport => (s.emit (.setEnabled origin on), .raised transport)
  else (s.queueCommand cfg origin on now, .applied)

/-- `apply_phase_selection` of the backend; on success the service remembers the selection. -/
def applyPhaseSelection (s : RelayService) (cfg : RelaySettings) (selection : PhaseSelection) (ok : Bool)
    (now : ℚ) : RelayService :=
  let s := s.emit
    (.applyPhaseSelection selection s.queue.pendingRelayState (s.pm.newestFreshOutput cfg now))
  if ok then
    { s with
      phase := { s.phase with
        requestedPhaseSelection := selection
        activePhaseSelection := selection } }
  else s

/-- An enable or disable command is issued unless the charger backend is in its retry window. -/
def issues (s : RelayService) (cfg : RelaySettings) (now : ℚ) : Bool :=
  !(cfg.chargerEnableBackend && s.transport.retryActive now)

section Frames

variable (s : RelayService) (cfg : RelaySettings) (origin : CommandOrigin) (on : Bool) (now : ℚ)
  (call : CallOutcome)

/-- `apply_enabled_target` logs its command exactly when it issues one. -/
theorem applyEnabledTarget_log : (s.applyEnabledTarget cfg origin on now call).1.log =
    s.log ++ if s.issues cfg now then [cfg.commandEffect origin on] else [] := by
  unfold applyEnabledTarget issues RelaySettings.commandEffect
  cases cfg.chargerEnableBackend with
  | false => rfl
  | true =>
    cases s.transport.retryActive now with
    | true => exact (List.append_nil _).symm
    | false => cases call <;> rfl

/-- In the retry window of the charger backend nothing happens. -/
theorem applyEnabledTarget_of_not_issues (h : s.issues cfg now = false) :
    s.applyEnabledTarget cfg origin on now call = (s, .refused) := by
  simp only [issues, Bool.not_eq_false', Bool.and_eq_true] at h
  simp only [applyEnabledTarget, h.1, h.2, ↓reduceIte]

theorem issues_of_applied (h : (s.applyEnabledTarget cfg origin on now call).2 = .applied) :
    s.issues cfg now = true ∧ (cfg.chargerEnableBackend = true → call = .ok) := by
  unfold applyEnabledTarget at h
  cases hbackend : cfg.chargerEnableBackend with
  | false => simp [issues, hbackend]
  | true =>
    cases hretry : s.transport.retryActive now with
    | true => simp [hbackend, hretry] at h
    | false =>
      cases call with
      | ok => simp [issues, hretry]
      | failed transport => simp [hbackend, hretry] at h

@[simp] theorem applyEnabledTarget_control :
    (s.applyEnabledTarget cfg origin on now call).1.control = s.control := by
  unfold applyEnabledTarget
  split
  · split
    · rfl
    · cases call <;> rfl
  · rfl

@[simp] theorem applyEnabledTarget_phase :
    (s.applyEnabledTarget cfg origin on now call).1.phase = s.phase := by
  unfold applyEnabledTarget
  split
  · split
    · rfl
    · cases call <;> rfl
  · rfl

@[simp] theorem applyEnabledTarget_pm :
    (s.applyEnabledTarget cfg origin on now call).1.pm = s.pm := by
  unfold applyEnabledTarget
  split
  · split
    · rfl
    · cases call <;> rfl
  · rfl

@[simp] theorem applyEnabledTarget_contactor :
    (s.applyEnabledTarget cfg origin on now call).1.contactor = s.contactor := by
  unfold applyEnabledTarget
  split
  · split
    · rfl
    · cases call <;> rfl
  · rfl

theorem applyEnabledTarget_queue :
    (s.applyEnabledTarget cfg origin on now call).1.queue =
      if cfg.chargerEnableBackend then s.queue else .queueRelayCommand cfg on now := by
  unfold applyEnabledTarget
  split
  · split
    · rfl
    · cases call <;> rfl
  · rfl

variable (published : Bool)

@[simp] theorem publishLocalPmStatus_control :
    (s.publishLocalPmStatus published on now).control = s.control := by
  cases published <;> rfl

@[simp] theorem publishLocalPmStatus_phase :
    (s.publishLocalPmStatus published on now).phase = s.phase := by
  cases published <;> rfl

@[simp] theorem publishLocalPmStatus_queue :
    (s.publishLocalPmStatus published on now).queue = s.queue := by
  cases published <;> rfl

@[simp] theorem publishLocalPmStatus_transport :
    (s.publishLocalPmStatus published on now).transport = s.transport := by
  cases published <;> rfl

@[simp] theorem publishLocalPmStatus_contactor :
    (s.publishLocalPmStatus published on now).contactor = s.contactor := by
  cases published <;> rfl

@[simp] theorem publishLocalPmStatus_log :
    (s.publishLocalPmStatus published on now).log = s.log := by
  cases published <;> rfl

end Frames

end RelayService

/-! ## The start of the service -/

theorem workerPollInterval_default_pos : (0 : ℚ) < 1 := by norm_num

/-- The settings of an unchanged configuration: one Shelly relay without a charger backend. -/
def RelaySettings.default : RelaySettings where
  chargerEnableBackend := false
  enableSourceIsCharger := false
  phaseSelectionRequiresPause := false
  supportedPhaseSelections := [.p1]
  workerPollIntervalSeconds := 1
  relaySyncTimeoutSeconds := 3
  autoShellySoftFailSeconds := 10
  dbusLivePublishIntervalSeconds := some 1
  autoDbusBackoffBaseSeconds := some 5
  phaseSwitchPauseSeconds := none
  phaseSwitchStabilizationSeconds := none
  mismatchLockoutCount := 3
  mismatchLockoutSeconds := 1800
  chargingThresholdWatts := some 100
  minCurrent := some 6
  autoContactorFaultLatchCount := 3
  autoContactorFaultLatchSeconds := 60
  autoManualOverrideSeconds := 300
  workerPollIntervalSeconds_pos := workerPollInterval_default_pos
  relaySyncTimeoutSeconds_pos := by norm_num

/-- The same with a backend that needs a pause between phase selections. -/
def RelaySettings.paused : RelaySettings :=
  { RelaySettings.default with
    phaseSelectionRequiresPause := true
    supportedPhaseSelections := [.p1, .p1p2] }

/-- `initialize_worker_state`: no command is pending. -/
def RelayQueue.empty : RelayQueue where
  pendingRelayState := none
  pendingRelayRequestedAt := none
  relaySyncExpectedState := none
  relaySyncRequestedAt := none
  relaySyncDeadlineAt := none
  relaySyncFailureReported := false
  pending_expected := nofun

/-- The phase variables before anything was staged. -/
def PhaseVars.initial : PhaseVars where
  requestedPhaseSelection := .p1
  activePhaseSelection := .p1
  pendingSelection := none
  state := none
  requestedAt := none
  stableUntil := none
  resumeRelay := false
  mismatchActive := false
  mismatchCounts := fun _ => 0
  lastMismatchSelection := none
  lastMismatchAt := none
  lockoutSelection := none
  lockoutUntil := none
  autoTargetCandidate := none
  autoTargetSince := none

/-- `restore_runtime_state` without a saved state: outside Auto mode the configured state is the startup
target. -/
def ControlVars.initial (mode : Nat) (enable : Bool) : ControlVars where
  virtualMode := mode
  virtualEnable := enable
  virtualStartstop := enable
  manualOverrideUntil := 0
  autoModeCutoverPending := false
  ignoreMinOfftimeOnce := false
  startupManualTarget := if modeUsesAutoLogic mode then none else some enable

/-- No contactor fault is suspected or latched. -/
def ContactorVars.initial : ContactorVars where
  faultCounts := fun _ => 0
  faultActiveReason := none
  faultActiveSince := none
  lockoutReason := none
  suspectedOpenSince := none
  suspectedWeldedSince := none

/-- The service after its start. -/
def RelayService.initial (mode : Nat) (enable : Bool) : RelayService where
  control := .initial mode enable
  phase := .initial
  queue := .empty
  pm := .empty
  transport := .clear
  contactor := .initial
  log := []

/-- The service with a confirmed reading of the worker. -/
def RelayService.withReading (s : RelayService) (output : Bool) (at' : ℚ) : RelayService :=
  { s with pm := s.pm.storeWorkerPm (some ⟨⟨output, 0, 0, none, true⟩, at', true⟩) at' }

/-! ## The I/O worker -/

/-- What `worker_apply_pending_relay_command` is doing: it has read a pending command and not yet written
it, or has written it and not yet cleared it. -/
inductive WorkerState where
  | idle
  | holding (target : Bool)
  | written (target : Bool)
deriving DecidableEq

/-- The service with its worker thread. -/
structure RelaySystem where
  service : RelayService
  worker : WorkerState

namespace RelaySystem

/-- `_pending_relay_command_context`: a pass takes the pending command unless its source is backing off. -/
def workerTake (s : RelaySystem) (retryBlocked : Bool) : RelaySystem :=
  match s.worker, s.service.queue.pendingRelayState with
  | .idle, some target => if retryBlocked then s else { s with worker := .holding target }
  | _, _ => s

/-- `_apply_pending_relay_target`: the write goes out, and a failure ends the pass. -/
def workerWrite (s : RelaySystem) (cfg : RelaySettings) (now : ℚ) (call : CallOutcome) : RelaySystem :=
  match s.worker with
  | .holding target =>
    let service := s.service.emit (.writeRelay target)
    match call with
    | .ok => { service := service, worker := .written target }
    | .failed transport =>
      { service :=
          match cfg.enableSourceIsCharger, transport with
          | true, some reason => { service with transport := .rememberFailure cfg reason now }
          | _, _ => service
        worker := .idle }
  | _ => s

/-- `_finalize_pending_relay_command`. -/
def workerFinalize (s : RelaySystem) (cfg : RelaySettings) (now : ℚ) (published : Bool) : RelaySystem :=
  match s.worker with
  | .written target =>
    let service := { s.service with
      queue := s.service.queue.clearPendingRelayCommand target
      transport := if cfg.enableSourceIsCharger then .clear else s.service.transport }
    { service := service.publishLocalPmStatus published target now, worker := .idle }
  | _ => s

/-- `_update_worker_tick_snapshot` stores the snapshot again at a new time. -/
def workerTick (s : RelaySystem) (now : ℚ) : RelaySystem :=
  { s with service := { s.service with pm := s.service.pm.storeWorkerPm s.service.pm.worker now } }

/-- The PM part of `io_worker_once`: a confirmed status, or none after a failed read. -/
def workerRead (s : RelaySystem) (status : Option PmReading) (now : ℚ) : RelaySystem :=
  { s with service := { s.service with
      pm := s.service.pm.storeWorkerPm (status.map fun reading => ⟨reading, now, true⟩) now } }

section

variable (s : RelaySystem)

@[simp] theorem workerTake_service (retryBlocked : Bool) :
    (s.workerTake retryBlocked).service = s.service := by
  unfold workerTake
  split
  · split <;> rfl
  · rfl

/-- A pass that starts takes the pending command. -/
theorem workerTake_worker (retryBlocked : Bool) :
    (s.workerTake retryBlocked).worker = s.worker ∨
      s.worker = .idle ∧ ∃ target, s.service.queue.pendingRelayState = some target ∧
        (s.workerTake retryBlocked).worker = .holding target := by
  unfold workerTake
  split
  · next target hworker hpending =>
    cases retryBlocked with
    | true => exact .inl rfl
    | false => exact .inr ⟨hworker, target, hpending, rfl⟩
  · exact .inl rfl

theorem workerWrite_worker (cfg : RelaySettings) (now : ℚ) (call : CallOutcome) :
    (s.workerWrite cfg now call).worker = s.worker ∨ ∃ target, s.worker = .holding target ∧
      ∀ other, (s.workerWrite cfg now call).worker ≠ .holding other := by
  unfold workerWrite
  split
  · next target hworker =>
    refine .inr ⟨target, hworker, fun other => ?_⟩
    cases call <;> exact nofun
  · exact .inl rfl

/-- A relay write leaves the queue and the user's and the phase attributes alone. -/
theorem workerWrite_frame (cfg : RelaySettings) (now : ℚ) (call : CallOutcome) :
    let after := (s.workerWrite cfg now call).service
    after.control = s.service.control ∧ after.phase = s.service.phase ∧ after.queue = s.service.queue ∧
      ∃ writes, after.log = s.service.log ++ writes ∧
        ∀ effect ∈ writes, ∃ target, s.worker = .holding target ∧ effect = .writeRelay target := by
  unfold workerWrite
  cases hworker : s.worker with
  | idle => exact ⟨rfl, rfl, rfl, [], (List.append_nil _).symm, by simp⟩
  | written target => exact ⟨rfl, rfl, rfl, [], (List.append_nil _).symm, by simp⟩
  | holding target =>
    cases call with
    | ok => exact ⟨rfl, rfl, rfl, [.writeRelay target], rfl, by simp⟩
    | failed transport =>
      simp only
      split <;> exact ⟨rfl, rfl, rfl, [.writeRelay target], rfl, by simp⟩

theorem workerFinalize_cases (cfg : RelaySettings) (now : ℚ) (published : Bool) :
    s.workerFinalize cfg now published = s ∨ ∃ target, s.worker = .written target ∧
      (s.workerFinalize cfg now published).worker = .idle ∧
      (s.workerFinalize cfg now published).service.queue =
        s.service.queue.clearPendingRelayCommand target := by
  unfold workerFinalize
  split
  · next target hworker => exact .inr ⟨target, hworker, rfl, by simp⟩
  · exact .inl rfl

/-- The end of a worker pass only touches the queue and the readings. -/
theorem workerFinalize_frame (cfg : RelaySettings) (now : ℚ) (published : Bool) :
    let after := (s.workerFinalize cfg now published).service
    after.control = s.service.control ∧ after.phase = s.service.phase ∧ after.log = s.service.log := by
  unfold workerFinalize
  cases s.worker with
  | idle => exact ⟨rfl, rfl, rfl⟩
  | holding target => exact ⟨rfl, rfl, rfl⟩
  | written target => simp

end

end RelaySystem

end VenusEvcharger
