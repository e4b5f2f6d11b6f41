import VenusEvcharger.Control.RelayWrites
import VenusEvcharger.Library.Run
import VenusEvcharger.Update.PhaseWindows

/-!
# Auto upshifts after mismatches

The coordinator reports the mismatches, Auto asks the selector, and the operator resets the lockout. The
history of a run records every mismatch, lockout, success and reset; `windows_respected` says along which
runs no upshift starts within a retry window or a lockout of its selection.
-/

namespace VenusEvcharger

open Library

/-! ## The coordinator -/

namespace RelayService

section Coordinator

variable {s : RelayService} {cfg : RelaySettings} {policy : AutoPhasePolicy} {view : RelayView}
  {i : CycleInput} {records : List PhaseRecord}

theorem resumeAfterPhaseSwitchPause_phase :
    (s.resumeAfterPhaseSwitchPause cfg view i).service.phase = s.phase.clearPhaseSwitchState := by
  rcases s.resumeAfterPhaseSwitchPause_cases cfg view i with ⟨-, control, -, heq⟩ | ⟨-, -, heq⟩
  · rw [heq]
  · rw [heq, resumeRelayAfterPhaseSwitch_phase]

section

variable (h : s.phase.SlotsHeld cfg policy i.now records)
include h

theorem resume_held :
    (s.resumeAfterPhaseSwitchPause cfg view i).service.phase.SlotsHeld cfg policy i.now records := by
  rw [resumeAfterPhaseSwitchPause_phase]
  exact h.congr rfl rfl

/-- While it waits for the relay, the coordinator leaves the slots alone. -/
theorem waiting_held (pending : PhaseSelection) :
    (s.orchestrateWaitingPhaseSwitch cfg pending view i).service.phase.SlotsHeld cfg policy i.now
      records := by
  have happlied : ∀ ok, (s.applyPhaseSelection cfg pending ok i.now).phase.SlotsHeld cfg policy i.now
      records := by
    intro ok
    unfold applyPhaseSelection
    dsimp only
    split
    · exact h.congr rfl rfl
    · exact h.congr rfl rfl
  unfold orchestrateWaitingPhaseSwitch
  split
  · dsimp only
    split
    · split
      · exact (happlied _).congr rfl rfl
      · exact resume_held ((happlied _).congr rfl rfl)
    · exact resume_held ((happlied _).congr rfl rfl)
  · exact h

/-- A pass that verifies the switch or reports a mismatch. -/
theorem stabilizing_held {pending : PhaseSelection}
    (hpending : s.phase.pendingSelection = some pending) (hstate : s.phase.state = some .stabilizing)
    (pm : PmReading)
    (hkept : s.phase.KeepsWindows cfg policy (observedPhaseSelection pm i) i.now) :
    (s.orchestrateStabilizingPhaseSwitch cfg pending pm view i).service.phase.SlotsHeld cfg policy i.now
      (s.phase.switchRecords cfg (observedPhaseSelection pm i) i.now ++ records) := by
  have hrecords : s.phase.switchRecords cfg (observedPhaseSelection pm i) i.now =
      if s.phase.stillStabilizing i.now then []
      else if observedPhaseSelection pm i = some pending then [.succeeded pending]
      else if s.phase.verificationExpired cfg i.now then s.phase.mismatchRecords cfg pending i.now
      else [] := by
    simp only [PhaseVars.switchRecords, hpending, hstate]
  have hactive : ∀ active : PhaseSelection,
      { s.phase with activePhaseSelection := active }.SlotsHeld cfg policy i.now records :=
    fun _ => h.congr rfl rfl
  rw [hrecords]
  unfold orchestrateStabilizingPhaseSwitch
  dsimp only
  split
  · next hstable =>
    rw [if_pos (show s.phase.stillStabilizing i.now = true from hstable)]
    exact h.congr rfl rfl
  · next hstable =>
    have hsettled : ¬ s.phase.stillStabilizing i.now = true := hstable
    rw [if_neg hsettled]
    split
    · exact resume_held ((hactive pending).succeeded pending)
    · next hobserved =>
      split
      · next hexpired =>
        have hlate : s.phase.verificationExpired cfg i.now = true := hexpired
        have hdue : pending ∈ s.phase.mismatchDue cfg (observedPhaseSelection pm i) i.now := by
          rw [Option.mem_def, PhaseVars.mismatchDue]
          simp [hpending, hstate, hsettled, hobserved, hlate]
        obtain ⟨hmismatch, hlockout⟩ := hkept pending hdue
        rw [if_pos hlate]
        have hreported := (hactive ((observedPhaseSelection pm i).getD s.phase.activePhaseSelection)).report
          pending hmismatch hlockout
        exact resume_held (hreported.congr rfl rfl)
      · next hexpired =>
        rw [if_neg (show ¬ s.phase.verificationExpired cfg i.now = true from hexpired)]
        exact h.congr rfl rfl

end

variable (view) in
/-- A pass of the coordinator keeps the slots when its mismatch displaces no running window. -/
theorem orchestrate_held (h : s.phase.SlotsHeld cfg policy i.now records) (pm : PmReading)
    (hkept : s.phase.KeepsWindows cfg policy (observedPhaseSelection pm i) i.now) :
    (s.orchestratePendingPhaseSwitch cfg pm view i).service.phase.SlotsHeld cfg policy i.now
      (s.phase.switchRecords cfg (observedPhaseSelection pm i) i.now ++ records) := by
  unfold orchestratePendingPhaseSwitch
  split
  · next pending hpending hstate =>
    have hnone : s.phase.switchRecords cfg (observedPhaseSelection pm i) i.now = [] := by
      simp [PhaseVars.switchRecords, hpending, hstate]
    rw [hnone]
    exact waiting_held h pending
  · next pending hpending hstate => exact stabilizing_held h hpending hstate pm hkept
  · next hwaiting hstabilizing =>
    have hnone : s.phase.switchRecords cfg (observedPhaseSelection pm i) i.now = [] := by
      unfold PhaseVars.switchRecords
      split
      · next pending hpending hstate => exact absurd hstate (hstabilizing pending hpending)
      · rfl
    rw [hnone]
    exact h.congr rfl rfl

end Coordinator

/-! ## Auto -/

section Auto

variable {s : RelayService} {cfg : RelaySettings} {policy : AutoPhasePolicy} {i : CycleInput}
  {records : List PhaseRecord}

/-- Auto goes on with the target that it was given: the candidate has survived its delay. -/
def autoTargetReady (s : RelayService) (i : CycleInput) : Option PhaseSelection :=
  if s.autoModeActive && !s.phaseSwitchActive then
    i.autoPhaseTarget.filter fun target =>
      (autoPhaseCandidateReady s.phase target i.autoPhaseDelaySeconds i.now).2
  else none

/-- The records of Auto: a selection that it applies at once counts as a success. -/
def autoRecords (s : RelayService) (cfg : RelaySettings) (relayOn : Bool) (i : CycleInput) :
    List PhaseRecord :=
  match s.autoTargetReady i with
  | none => []
  | some target =>
    if !s.phaseChangeRequiresStaging cfg relayOn i.now && i.autoPhaseApplied then [.succeeded target]
    else []

theorem autoPhaseCandidateReady_held {p : PhaseVars} (h : p.SlotsHeld cfg policy i.now records)
    (target : PhaseSelection) (delay : ℚ) :
    (autoPhaseCandidateReady p target delay i.now).1.SlotsHeld cfg policy i.now records := by
  unfold autoPhaseCandidateReady
  split
  · split
    · exact h.congr rfl rfl
    · exact h
  · exact h.congr rfl rfl

section

variable (h : s.phase.SlotsHeld cfg policy i.now records)
include h

theorem applyAutoPhaseTarget_held (target : PhaseSelection) (desiredRelay relayOn : Bool) :
    (s.applyAutoPhaseTarget cfg target desiredRelay relayOn i).1.phase.SlotsHeld cfg policy i.now
      ((if !s.phaseChangeRequiresStaging cfg relayOn i.now && i.autoPhaseApplied then
        [.succeeded target] else []) ++ records) := by
  unfold applyAutoPhaseTarget
  cases hstaging : s.phaseChangeRequiresStaging cfg relayOn i.now with
  | true => exact h.congr (by simp; rfl) (by simp; rfl)
  | false =>
    cases happlied : i.autoPhaseApplied with
    | true =>
      have hselected : { s.phase with
          requestedPhaseSelection := target
          activePhaseSelection := target }.SlotsHeld cfg policy i.now records := h.congr rfl rfl
      exact (hselected.succeeded target).congr rfl rfl
    | false => exact h.congr rfl rfl

theorem maybeApplyAutoPhaseSelection_held (desiredRelay relayOn : Bool) :
    (s.maybeApplyAutoPhaseSelection cfg desiredRelay relayOn i).1.phase.SlotsHeld cfg policy i.now
      (s.autoRecords cfg relayOn i ++ records) := by
  unfold maybeApplyAutoPhaseSelection autoRecords autoTargetReady
  cases s.autoModeActive with
  | false => exact h.congr rfl rfl
  | true =>
    cases s.phaseSwitchActive with
    | true => exact h
    | false =>
      cases htarget : i.autoPhaseTarget with
      | none => exact h.congr rfl rfl
      | some target =>
        have hcandidate := autoPhaseCandidateReady_held h target i.autoPhaseDelaySeconds
        cases hready : (autoPhaseCandidateReady s.phase target i.autoPhaseDelaySeconds i.now).2 with
        | true =>
          simp only [hready, ↓reduceIte, Bool.not_false, Bool.and_self, Option.filter_some]
          exact applyAutoPhaseTarget_held (s := { s with phase := _ }) hcandidate target
            desiredRelay relayOn
        | false =>
          simp only [hready, ↓reduceIte, Bool.not_false, Bool.and_self, Option.filter_some,
            Bool.false_eq_true]
          exact hcandidate

/-- Deciding and applying touches the slots through Auto only. -/
theorem decideAndApply_held (pm : PmReading) (view : RelayView) (override : Option Bool) :
    (s.decideAndApply cfg pm view override i).1.phase.SlotsHeld cfg policy i.now
      (s.autoRecords cfg view.relayOn i ++ records) := by
  simp only [decideAndApply, finishCycle_phase, applyRelayDecision_phase, resolveRelayDecision,
    applyCurrentTarget_phase]
  have hheld : ∀ (contactor : ContactorVars) (desiredRelay : Bool),
      ({ s with contactor := contactor }.maybeApplyAutoPhaseSelection cfg desiredRelay view.relayOn
        i).1.phase.SlotsHeld cfg policy i.now (s.autoRecords cfg view.relayOn i ++ records) :=
    fun contactor desiredRelay =>
      maybeApplyAutoPhaseSelection_held (s := { s with contactor := contactor }) h desiredRelay view.relayOn
  exact hheld _ _

end

end Auto

/-! ## The selector -/

section Selector

variable {s : RelayService} {cfg : RelaySettings} {policy : AutoPhasePolicy} {records : List PhaseRecord}

/-- The selector may clear an expired lockout. -/
theorem currentLockoutSelection_held {p : PhaseVars} {now : ℚ}
    (h : p.SlotsHeld cfg policy now records) :
    (p.currentLockoutSelection now).1.SlotsHeld cfg policy now records := by
  rcases p.currentLockoutSelection_cases now with heq | ⟨heq, hexpired⟩
  · rw [heq]
    exact h
  · rw [heq]
    exact ⟨h.retry, h.lockout.replace (fun _ _ => le_trans) fun k held hslot => .inl (hexpired _ hslot)⟩

theorem windowsOver_of_not_blocked {p : PhaseVars} {now : ℚ} {current next : PhaseSelection}
    (h : p.SlotsHeld cfg policy now records) (hup : current.count < next.count)
    (hfree : (p.phaseUpshiftBlockReason policy current next now).2 = none) :
    WindowsOver policy records next now := by
  refine ⟨fun at' hopen => ?_, fun until' hopen => ?_⟩
  · rcases h.retry.stands next at' hopen with hover | ⟨held, hslot, hle⟩
    · exact hover
    · by_cases hpositive : 0 < policy.mismatchRetrySeconds
      · have hwaited := PhaseVars.retry_over_of_not_blocked hup hfree hslot hpositive
        linarith
      · have hpast := h.retry.bounded next at' hopen
        linarith
  · rcases h.lockout.stands next until' hopen with hover | ⟨held, hslot, hle⟩
    · exact hover
    · exact hle.trans (PhaseVars.lockout_expired_of_not_blocked hfree hslot)

/-- The upshift that a cycle starts: Auto goes on with a selection that has more phases. -/
def startedUpshift (s : RelayService) (cfg : RelaySettings) (policy : AutoPhasePolicy)
    (reading : PhaseReading) (desiredRelay relayOn : Bool) (i : CycleInput) : Option PhaseSelection :=
  let selected := s.selectAutoPhase cfg policy reading desiredRelay relayOn i
  (selected.1.autoTargetReady selected.2).filter fun target =>
    (s.phase.currentPhaseSelection cfg.orderedPhaseSelections).count < target.count

/-- What asking the selector leaves behind, and where it lets an upshift start. -/
theorem selectAutoPhase_held {i : CycleInput} (h : s.phase.SlotsHeld cfg policy i.now records)
    (reading : PhaseReading) (desiredRelay relayOn : Bool) :
    (s.selectAutoPhase cfg policy reading desiredRelay relayOn i).1.phase.SlotsHeld cfg policy i.now
        records ∧
      ∀ target, s.startedUpshift cfg policy reading desiredRelay relayOn i = some target →
        WindowsOver policy records target i.now := by
  have hspec := autoPhaseTargetSelection_spec s.phase cfg policy cfg.orderedPhaseSelections
    (s.phase.currentPhaseSelection cfg.orderedPhaseSelections) (orderedPhaseSelections_sorted cfg)
    (currentPhaseSelection_mem s.phase) desiredRelay relayOn reading i.now
  obtain ⟨hphase, hfree⟩ := hspec
  unfold startedUpshift selectAutoPhase
  split
  · refine ⟨?_, fun target htarget => ?_⟩
    · rcases hphase with heq | heq
      · exact h.congr (congrArg _ heq) (congrArg _ heq)
      · exact (currentLockoutSelection_held h).congr (congrArg _ heq) (congrArg _ heq)
    · obtain ⟨hready, hup⟩ := Option.filter_eq_some_iff.mp htarget
      unfold autoTargetReady at hready
      split at hready
      · obtain ⟨hgiven, -⟩ := Option.filter_eq_some_iff.mp hready
        obtain ⟨hselection, -⟩ := Option.filter_eq_some_iff.mp hgiven
        have hup' := of_decide_eq_true hup
        exact windowsOver_of_not_blocked h hup' (hfree target hselection hup')
      · cases hready
  · refine ⟨h, fun target htarget => ?_⟩
    obtain ⟨hready, -⟩ := Option.filter_eq_some_iff.mp htarget
    unfold autoTargetReady at hready
    split at hready
    · cases hready
    · cases hready

end Selector

/-! ## The cycle -/

/-- What a cycle records: first the coordinator, then the upshift that Auto starts, and its success. -/
structure PhaseTrace where
  switch : List PhaseRecord
  upshift : Option PhaseSelection
  auto : List PhaseRecord

/-- The records of `runPhaseCycle`. -/
def phaseCycleTrace (s : RelayService) (cfg : RelaySettings) (policy : AutoPhasePolicy)
    (reading : PhaseReading) (i : CycleInput) : PhaseTrace :=
  match s.prepareOnlineUpdate cfg i with
  | (_, none) => ⟨[], none, []⟩
  | (s, some pm) =>
    let switch := s.phase.switchRecords cfg (observedPhaseSelection pm i) i.now
    let pass := s.orchestratePendingPhaseSwitch cfg pm pm.view i
    match pass.result with
    | none => ⟨switch, none, []⟩
    | some (view, override) =>
      let desired := pass.service.decidedRelay cfg view override i
      let selected := pass.service.selectAutoPhase cfg policy reading desired view.relayOn i
      ⟨switch, pass.service.startedUpshift cfg policy reading desired view.relayOn i,
        selected.1.autoRecords cfg view.relayOn selected.2⟩

/-- A mismatch that the cycle reports displaces no running window of another selection. -/
def CycleKeepsWindows (s : RelayService) (cfg : RelaySettings) (policy : AutoPhasePolicy)
    (i : CycleInput) : Prop :=
  ∀ pm ∈ (s.prepareOnlineUpdate cfg i).2,
    s.phase.KeepsWindows cfg policy (observedPhaseSelection pm i) i.now

instance (s : RelayService) (cfg : RelaySettings) (policy : AutoPhasePolicy) (i : CycleInput) :
    Decidable (s.CycleKeepsWindows cfg policy i) :=
  inferInstanceAs (Decidable (∀ _ ∈ _, _))

@[simp] theorem selectAutoPhase_now (s : RelayService) (cfg : RelaySettings) (policy : AutoPhasePolicy)
    (reading : PhaseReading) (desiredRelay relayOn : Bool) (i : CycleInput) :
    (s.selectAutoPhase cfg policy reading desiredRelay relayOn i).2.now = i.now := by
  unfold selectAutoPhase
  split <;> rfl

/-- A cycle that keeps the windows leaves them in the slots, and starts an upshift only after them. -/
theorem runPhaseCycle_held {s : RelayService} {cfg : RelaySettings} {policy : AutoPhasePolicy}
    {i : CycleInput} {records : List PhaseRecord} (h : s.phase.SlotsHeld cfg policy i.now records)
    (reading : PhaseReading) (hkept : s.CycleKeepsWindows cfg policy i) :
    let trace := s.phaseCycleTrace cfg policy reading i
    (s.runPhaseCycle cfg policy reading i).phase.SlotsHeld cfg policy i.now
        (trace.auto ++ (trace.switch ++ records)) ∧
      ∀ target, trace.upshift = some target →
        WindowsOver policy (trace.switch ++ records) target i.now := by
  have hprepared := (s.prepareOnlineUpdate_frame cfg i).2.1
  unfold CycleKeepsWindows at hkept
  unfold runPhaseCycle phaseCycleTrace
  cases hprepare : s.prepareOnlineUpdate cfg i with
  | mk before status =>
    rw [hprepare] at hprepared hkept
    replace hprepared : before.phase = s.phase := hprepared
    have hbefore : before.phase.SlotsHeld cfg policy i.now records := hprepared ▸ h
    cases status with
    | none =>
      refine ⟨?_, fun target htarget => nomatch htarget⟩
      exact hbefore.congr (by simp) (by simp)
    | some pm =>
      have hpass := orchestrate_held pm.view hbefore pm (hprepared ▸ hkept pm rfl)
      cases hresult : (before.orchestratePendingPhaseSwitch cfg pm pm.view i).result with
      | none =>
        simp only [hresult]
        exact ⟨hpass, fun target htarget => nomatch htarget⟩
      | some shown =>
        obtain ⟨hselected, hupshift⟩ := selectAutoPhase_held hpass reading
          ((before.orchestratePendingPhaseSwitch cfg pm pm.view i).service.decidedRelay cfg shown.1
            shown.2 i) shown.1.relayOn
        simp only [hresult]
        refine ⟨?_, hupshift⟩
        rw [← selectAutoPhase_now] at hselected ⊢
        exact decideAndApply_held hselected pm shown.1 shown.2

/-! ## Commands -/

/-- The records of a command: a reset that is not taken back. -/
def commandRecords (command : RelayCommand) (io : CommandInput) : List PhaseRecord :=
  match command with
  | .resetPhaseLockout true => if io.stateSaved then [.lockoutReset] else []
  | _ => []

/-- A reset comes after the retry windows. -/
def CommandKeepsWindows (s : RelayService) (policy : AutoPhasePolicy) (command : RelayCommand)
    (io : CommandInput) : Prop :=
  .lockoutReset ∈ commandRecords command io →
    ∀ slot ∈ s.phase.mismatchSlot, slot.2 + policy.mismatchRetrySeconds ≤ io.now

instance (s : RelayService) (policy : AutoPhasePolicy) (command : RelayCommand) (io : CommandInput) :
    Decidable (s.CommandKeepsWindows policy command io) :=
  inferInstanceAs (Decidable (_ → _))

section Commands

variable {s : RelayService} {cfg : RelaySettings} {policy : AutoPhasePolicy} {io : CommandInput}
  {records : List PhaseRecord}

/-- The slots are as before. -/
def SameSlots (s after : RelayService) : Prop :=
  after.phase.mismatchSlot = s.phase.mismatchSlot ∧ after.phase.lockoutSlot = s.phase.lockoutSlot

theorem applyManualEnableLikeRequest_slots (wantedOn : Bool) :
    s.SameSlots (s.applyManualEnableLikeRequest cfg wantedOn io).service := by
  unfold applyManualEnableLikeRequest
  dsimp only
  split
  · split
    · exact ⟨rfl, rfl⟩
    · exact ⟨rfl, rfl⟩
  · simp [SameSlots, queueCommand, emit]

theorem handleEnableWrite_slots (wantedOn : Bool) :
    s.SameSlots (s.handleEnableWrite cfg wantedOn io).service := by
  unfold handleEnableWrite
  split
  · split
    · exact ⟨rfl, rfl⟩
    · simp [applyAutoDisable, SameSlots, queueCommand, emit]
  · exact applyManualEnableLikeRequest_slots wantedOn

theorem handleModeWrite_slots (mode : Nat) : s.SameSlots (s.handleModeWrite cfg mode io).service := by
  have hauto : s.SameSlots (s.handleModeTransitionToAuto cfg io).service := by
    unfold handleModeTransitionToAuto
    split
    · exact ⟨rfl, rfl⟩
    · split
      · simp [SameSlots, queueCommand, emit]
      · exact ⟨rfl, rfl⟩
  have hmanual : s.SameSlots (s.handleModeTransitionToManual cfg io).service := by
    unfold handleModeTransitionToManual
    split
    · exact ⟨rfl, rfl⟩
    · exact applyManualEnableLikeRequest_slots _
  unfold handleModeWrite
  dsimp only
  split
  · split
    · exact hauto
    · exact hauto
  · split
    · exact hmanual
    · exact hmanual

theorem handlePhaseSelectionWrite_slots (selection : PhaseSelection) :
    s.SameSlots (s.handlePhaseSelectionWrite cfg selection io).service := by
  unfold handlePhaseSelectionWrite
  split
  · split
    · simp only [SameSlots, queueCommand, emit, publishLocalPmStatus_phase]
      exact ⟨rfl, rfl⟩
    · unfold applyPhaseSelection
      dsimp only
      split
      · exact ⟨rfl, rfl⟩
      · exact ⟨rfl, rfl⟩
  · exact ⟨rfl, rfl⟩

theorem executeCommand_slots (command : RelayCommand) (h : command ≠ .resetPhaseLockout true) :
    s.SameSlots (s.executeCommand cfg command io).service := by
  cases command with
  | setMode mode => exact handleModeWrite_slots mode
  | setStartStop on => exact handleEnableWrite_slots on
  | setEnable on => exact handleEnableWrite_slots on
  | setPhaseSelection selection => exact handlePhaseSelectionWrite_slots selection
  | resetPhaseLockout requested =>
    cases requested with
    | true => exact absurd rfl h
    | false => exact ⟨rfl, rfl⟩
  | resetContactorLockout requested => cases requested <;> exact ⟨rfl, rfl⟩

/-- A command keeps the slots, when a reset comes after the retry windows. -/
theorem handleControlCommand_held (h : s.phase.SlotsHeld cfg policy io.now records)
    (command : RelayCommand) (hkept : s.CommandKeepsWindows policy command io) :
    (s.handleControlCommand cfg command io).1.phase.SlotsHeld cfg policy io.now
      (commandRecords command io ++ records) := by
  by_cases hreset : command = .resetPhaseLockout true
  · subst hreset
    unfold CommandKeepsWindows commandRecords at hkept
    unfold handleControlCommand executeCommand handlePhaseLockoutResetWrite commandRecords
    cases hsaved : io.stateSaved with
    | false => exact h
    | true =>
      have hover := hkept (by simp [hsaved])
      simp only [↓reduceIte, Bool.not_true, Bool.or_self, Bool.false_eq_true]
      -- after the retry windows and with every lockout ended, any slots will do
      have hheld : ∀ p : PhaseVars, p.SlotsHeld cfg policy io.now (.lockoutReset :: records) := by
        intro p
        exact ⟨h.retry.passed PhaseVars.retry_antitone (fun _ => rfl)
            fun k held hslot => .inr (.inl (hover _ hslot)),
          h.lockout.passed (fun _ _ => le_trans) (fun _ => rfl) fun k held hslot => .inl rfl⟩
      split
      · exact hheld _
      · exact hheld _
  · have hnone : commandRecords command io = [] := by
      unfold commandRecords
      split
      · exact absurd rfl hreset
      · rfl
    rw [hnone]
    have hslots : s.SameSlots (s.executeCommand cfg command io).service := executeCommand_slots command hreset
    obtain ⟨hmismatch, hlockout⟩ := hslots
    rcases s.handleControlCommand_cases cfg io command with ⟨-, hrejected⟩ | ⟨haccepted, -⟩
    · rw [hrejected]
      exact h
    · rw [haccepted]
      exact h.congr hmismatch hlockout

end Commands

end RelayService

/-! ## Runs -/

/-- A cycle with the reading of its selector, a command, or a step of the worker. -/
inductive PhaseEvent where
  | cycle (i : CycleInput) (reading : PhaseReading)
  | command (command : RelayCommand) (io : CommandInput)
  | worker (event : RelayEvent) (hworker : event.isWorker = true)

/-- The system with the history of its phase switches and the time of its last cycle or command. -/
structure PhaseHistory where
  system : RelaySystem
  records : List PhaseRecord
  clock : ℚ

namespace PhaseHistory

/-- One step of the system, and what it records. -/
def step (cfg : RelaySettings) (policy : AutoPhasePolicy) (h : PhaseHistory) : PhaseEvent → PhaseHistory
  | .cycle i reading =>
    let system := h.system.beginEvent
    let trace := system.service.phaseCycleTrace cfg policy reading i
    { system := { system with service := system.service.runPhaseCycle cfg policy reading i }
      records := trace.auto ++ (trace.switch ++ h.records)
      clock := i.now }
  | .command command io =>
    { system := h.system.step cfg (.command command io)
      records := RelayService.commandRecords command io ++ h.records
      clock := io.now }
  | .worker event _ => { h with system := h.system.step cfg event }

/-- The clock does not run backwards. -/
def ClockAdvances (h : PhaseHistory) : PhaseEvent → Prop
  | .cycle i _ => h.clock ≤ i.now
  | .command _ io => h.clock ≤ io.now
  | .worker _ _ => True

/-- No mismatch, lockout or reset displaces a running window that its selection does not end. -/
def KeepsWindows (cfg : RelaySettings) (policy : AutoPhasePolicy) (h : PhaseHistory) : PhaseEvent → Prop
  | .cycle i _ => h.system.beginEvent.service.CycleKeepsWindows cfg policy i
  | .command command io => h.system.beginEvent.service.CommandKeepsWindows policy command io
  | .worker _ _ => True

/-- An upshift that the step starts comes after all windows of its selection. -/
def Respects (cfg : RelaySettings) (policy : AutoPhasePolicy) (h : PhaseHistory) : PhaseEvent → Prop
  | .cycle i reading =>
    let trace := h.system.beginEvent.service.phaseCycleTrace cfg policy reading i
    ∀ target ∈ trace.upshift, WindowsOver policy (trace.switch ++ h.records) target i.now
  | _ => True

instance (h : PhaseHistory) : ∀ event, Decidable (h.ClockAdvances event)
  | .cycle _ _ | .command _ _ => inferInstanceAs (Decidable (_ ≤ _))
  | .worker _ _ => isTrue trivial

instance (cfg : RelaySettings) (policy : AutoPhasePolicy) (h : PhaseHistory) :
    ∀ event, Decidable (h.KeepsWindows cfg policy event)
  | .cycle _ _ => inferInstanceAs (Decidable (RelayService.CycleKeepsWindows _ _ _ _))
  | .command _ _ => inferInstanceAs (Decidable (RelayService.CommandKeepsWindows _ _ _ _))
  | .worker _ _ => isTrue trivial

instance (cfg : RelaySettings) (policy : AutoPhasePolicy) (h : PhaseHistory) :
    ∀ event, Decidable (h.Respects cfg policy event)
  | .cycle _ _ => inferInstanceAs (Decidable (∀ _ ∈ _, _))
  | .command _ _ | .worker _ _ => isTrue trivial

/-- The slots of the service stand for the history. -/
def SlotsHeld (cfg : RelaySettings) (policy : AutoPhasePolicy) (h : PhaseHistory) : Prop :=
  h.system.service.phase.SlotsHeld cfg policy h.clock h.records

theorem step_held {cfg : RelaySettings} {policy : AutoPhasePolicy} (h : PhaseHistory) (event : PhaseEvent)
    (hheld : h.SlotsHeld cfg policy) (hclock : h.ClockAdvances event)
    (hkept : h.KeepsWindows cfg policy event) :
    (h.step cfg policy event).SlotsHeld cfg policy ∧ h.Respects cfg policy event := by
  cases event with
  | cycle i reading =>
    have hnow : h.system.beginEvent.service.phase.SlotsHeld cfg policy i.now h.records :=
      PhaseVars.SlotsHeld.later hheld hclock
    exact RelayService.runPhaseCycle_held hnow reading hkept
  | command command io =>
    have hnow : h.system.beginEvent.service.phase.SlotsHeld cfg policy io.now h.records :=
      PhaseVars.SlotsHeld.later hheld hclock
    exact ⟨RelayService.handleControlCommand_held hnow command hkept, trivial⟩
  | worker event hworker =>
    have hphase := (h.system.beginEvent.handle_worker_frame cfg hworker).2.1
    refine ⟨PhaseVars.SlotsHeld.congr hheld ?_ ?_, trivial⟩
    · exact congrArg PhaseVars.mismatchSlot hphase
    · exact congrArg PhaseVars.lockoutSlot hphase

/-- In every run, from any state, in which no step displaces a running window, Auto starts no upshift to a
selection within its retry window or lockout. -/
theorem windows_respected (cfg : RelaySettings) (policy : AutoPhasePolicy) (system : RelaySystem)
    (clock : ℚ) (events : List PhaseEvent)
    (hclock : Along (step cfg policy) ClockAdvances ⟨system, [], clock⟩ events)
    (hkept : Along (step cfg policy) (KeepsWindows cfg policy) ⟨system, [], clock⟩ events) :
    Along (step cfg policy) (Respects cfg policy) ⟨system, [], clock⟩ events := by
  have hinit : SlotsHeld cfg policy ⟨system, [], clock⟩ := ⟨.nil, .nil⟩
  exact along_of_invariant
    (fun h event hheld hok => (step_held h event hheld hok.1 hok.2).1)
    (fun h event hheld hok => (step_held h event hheld hok.1 hok.2).2) hinit (hclock.and hkept)

/-- A backend that needs a pause and knows three phases. -/
def threePhases : RelaySettings :=
  { RelaySettings.paused with supportedPhaseSelections := [.p1, .p1p2, .p1p2p3] }

/-- Auto mode with the relay on. -/
def charging : PhaseHistory := ⟨⟨(RelayService.initial 1 true).withReading true 0, .idle⟩, [], 0⟩

/-- The worker reads two active phases with the relay off. -/
def readsTwoPhases (now : ℚ) : PhaseEvent :=
  .worker (.workerRead (some ⟨false, 0, 0, some .p1p2, true⟩) now) rfl

/-- A cycle with a surplus. -/
def surplusCycle (now watts : ℚ) (autoDecision : Bool) : PhaseEvent :=
  .cycle { CycleInput.calm now with autoDecision := autoDecision } ⟨some watts, 230⟩

/-- The operator requests a selection, and two phases stay active. -/
def failedSwitch (selection : PhaseSelection) (start : ℚ) : List PhaseEvent :=
  [.command (.setPhaseSelection selection) ⟨start, .ok, true, true, true, true, true⟩,
    .worker (.workerTake false) rfl, .worker (.workerWrite (start + 1) .ok) rfl,
    .worker (.workerFinalize (start + 1) true) rfl, readsTwoPhases (start + 1),
    surplusCycle (start + 2) 0 false, readsTwoPhases (start + 15), surplusCycle (start + 15) 0 true]

/-- A surplus for three phases that lasts longer than the upshift delay. -/
def lastingSurplus (start : ℚ) : List PhaseEvent :=
  [readsTwoPhases start, surplusCycle start 5000 true, readsTwoPhases (start + 124),
    surplusCycle (start + 124) 5000 true]

/-- After one failed switch Auto waits for the retry window. -/
theorem windows_respected_failedSwitch :
    Along (step threePhases .default) (Respects threePhases .default) charging
      (failedSwitch .p1p2p3 1 ++ lastingSurplus 46 ++ lastingSurplus 320) :=
  windows_respected threePhases .default charging.system 0 _ (by decide +kernel) (by decide +kernel)

/-- A failed switch to one phase makes Auto forget the mismatch of three phases at second 16: it tries
them again at second 170. -/
theorem other_mismatch_forgets_window :
    let events := failedSwitch .p1p2p3 1 ++ failedSwitch .p1 30 ++ lastingSurplus 46
    Along (step threePhases .default) ClockAdvances charging events ∧
      ¬ Along (step threePhases .default) (Respects threePhases .default) charging events := by
  decide +kernel

end PhaseHistory

end VenusEvcharger
