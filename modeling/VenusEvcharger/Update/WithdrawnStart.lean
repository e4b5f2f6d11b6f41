import VenusEvcharger.Control.RelayWrites
import VenusEvcharger.Library.Run

/-!
# Withdrawn starts

A relay command waits in the queue until the worker executes it, possibly behind a backoff. A cycle
compares its decision with the last confirmed reading, so a decision to stay off does not replace a
queued start. `start_cancelled_iff` says in which runs every start that a cycle decides against is
cancelled.
-/

namespace VenusEvcharger

open Library

/-- The relay command that an effect queues. -/
def RelayEffect.queued : RelayEffect → Option Bool
  | .queueRelayCommand _ on => some on
  | _ => none

namespace RelayService

/-! ## The pending command of a cycle -/

/-- The pending command is as before, or a service without a charger enable backend has queued one. -/
def QueueFollows (cfg : RelaySettings) (before after : RelayService) : Prop :=
  ∃ effects, after.log = before.log ++ effects ∧
    (after.queue.pendingRelayState = before.queue.pendingRelayState ∨
      cfg.chargerEnableBackend = false ∧ ∃ effect ∈ effects, effect.queued.isSome)

section Follows

variable {s : RelayService} {cfg : RelaySettings} {i : CycleInput}

theorem QueueFollows.trans {a b c : RelayService} (hab : QueueFollows cfg a b)
    (hbc : QueueFollows cfg b c) : QueueFollows cfg a c := by
  obtain ⟨first, hfirst, hpending⟩ := hab
  obtain ⟨second, hsecond, hpending'⟩ := hbc
  refine ⟨first ++ second, by rw [hsecond, hfirst, List.append_assoc], ?_⟩
  rcases hpending' with hsame | ⟨hbackend, effect, hmem, hqueued⟩
  · rcases hpending with hsame' | ⟨hbackend, effect, hmem, hqueued⟩
    · exact .inl (hsame.trans hsame')
    · exact .inr ⟨hbackend, effect, List.mem_append_left _ hmem, hqueued⟩
  · exact .inr ⟨hbackend, effect, List.mem_append_right _ hmem, hqueued⟩

/-- Nothing is queued. -/
theorem QueueFollows.of_queue {after : RelayService} {effects : List RelayEffect}
    (hlog : after.log = s.log ++ effects) (hqueue : after.queue = s.queue) : QueueFollows cfg s after :=
  ⟨effects, hlog, .inl (by rw [hqueue])⟩

theorem QueueFollows.of_command {after : RelayService} {origin : CommandOrigin} {on : Bool} {now : ℚ}
    (hlog : after.log = s.log ++ if s.issues cfg now then [cfg.commandEffect origin on] else [])
    (hqueue : after.queue =
      if cfg.chargerEnableBackend then s.queue else .queueRelayCommand cfg on now) :
    QueueFollows cfg s after := by
  refine ⟨_, hlog, ?_⟩
  cases hbackend : cfg.chargerEnableBackend with
  | true =>
    rw [hqueue, hbackend]
    exact .inl rfl
  | false => exact .inr ⟨rfl, by simp [issues, hbackend, RelaySettings.commandEffect, RelayEffect.queued]⟩

theorem applyStartupManualTarget_follows (pm : PmReading) :
    QueueFollows cfg s (s.applyStartupManualTarget cfg pm i).1 := by
  rcases s.applyStartupManualTarget_cases cfg pm i with ⟨-, control, -, hpair⟩ | ⟨target, -, hpair⟩
  · rw [hpair]
    exact .of_queue (List.append_nil _).symm rfl
  · rw [hpair]
    obtain ⟨-, -, -, hqueue, hlog⟩ := s.applyPendingStartupTarget_frame cfg pm i target
    exact .of_command hlog hqueue

theorem prepareOnlineUpdate_follows : QueueFollows cfg s (s.prepareOnlineUpdate cfg i).1 := by
  have hresolved : QueueFollows cfg s (s.resolved cfg i) := .of_queue (List.append_nil _).symm rfl
  rw [prepareOnlineUpdate_eq]
  cases s.resolvedStatus cfg i with
  | none => exact hresolved
  | some pm => exact hresolved.trans (applyStartupManualTarget_follows pm)

theorem SwitchStep.follows {pm : PmReading} {view : RelayView} {pass : SwitchPass}
    (h : SwitchStep s cfg pm view i pass) : QueueFollows cfg s pass.service := by
  cases h with
  | inactive phase hresume hends => exact .of_queue rfl rfl
  | keepsOff phase applied after happlied hresume hends => exact .of_queue rfl rfl
  | ends phase applied happlied hresume hends =>
    have hadvanced : QueueFollows cfg s (s.switchAdvanced phase applied) := .of_queue rfl rfl
    refine hadvanced.trans ?_
    rcases (s.switchAdvanced phase applied).resumeAfterPhaseSwitchPause_cases cfg view i with
      ⟨-, control, -, heq⟩ | ⟨-, -, heq⟩
    · rw [heq]
      exact .of_queue (List.append_nil _).symm rfl
    · rw [heq]
      exact .of_command (resumeRelayAfterPhaseSwitch_log _ cfg view i)
        (resumeRelayAfterPhaseSwitch_queue _ cfg view i)

theorem applyRelayDecision_follows (desiredRelay relayOn pmConfirmed : Bool) :
    QueueFollows cfg s (s.applyRelayDecision cfg desiredRelay relayOn pmConfirmed i).1 := by
  have hlog := s.applyRelayDecision_log cfg i desiredRelay relayOn pmConfirmed
  have hqueue := s.applyRelayDecision_queue cfg i desiredRelay relayOn pmConfirmed
  cases hnoop : s.relayDecisionNoop desiredRelay relayOn with
  | true => exact .of_queue hlog (by rw [hqueue, hnoop, Bool.true_or, if_pos rfl])
  | false =>
    rw [hnoop, Bool.not_false, Bool.true_and] at hlog
    rw [hnoop, Bool.false_or] at hqueue
    exact .of_command hlog hqueue

theorem decideAndApply_follows (pm : PmReading) (view : RelayView) (override : Option Bool) :
    QueueFollows cfg s (s.decideAndApply cfg pm view override i).1 := by
  obtain ⟨-, hqueue, -, applied, -, hlog⟩ := s.resolveRelayDecision_frame cfg view override i
  have hresolved : QueueFollows cfg s (s.resolveRelayDecision cfg view override i).1 :=
    .of_queue hlog hqueue
  obtain ⟨effects, hafter, hpending⟩ := hresolved.trans (applyRelayDecision_follows (i := i)
    (s.resolveRelayDecision cfg view override i).2.desiredRelay view.relayOn pm.pmConfirmed)
  refine ⟨effects, hafter, ?_⟩
  simpa only [decideAndApply, finishCycle, RelayQueue.relaySyncHealthOverride_pending] using hpending

variable (s cfg i) in
/-- The pending command of a cycle follows its effects. -/
theorem runUpdateCycle_follows : QueueFollows cfg s (s.runUpdateCycle cfg i).1 := by
  have hcycle := s.runUpdateCycle_step cfg i
  generalize s.runUpdateCycle cfg i = ended at hcycle
  cases hcycle with
  | offline hpm =>
    exact prepareOnlineUpdate_follows.trans
      (.of_queue (by rw [publishOfflineUpdate_log, List.append_nil]) (publishOfflineUpdate_queue _ cfg i))
  | left pm pass hpm hstep hresult => exact prepareOnlineUpdate_follows.trans hstep.follows
  | decided pm pass view override hpm hstep hresult =>
    exact (prepareOnlineUpdate_follows.trans hstep.follows).trans (decideAndApply_follows pm view override)

/-- A decision to stay off leaves a queued start pending when it finds the relay off already. -/
theorem decideAndApply_start_left {pm : PmReading} {view : RelayView} {override : Option Bool}
    (hbackend : cfg.chargerEnableBackend = true → s.queue.pendingRelayState ≠ some true)
    (hoff : (s.decideAndApply cfg pm view override i).2.desiredRelay = false) :
    (s.decideAndApply cfg pm view override i).1.queue.pendingRelayState = some true ↔
      s.queue.pendingRelayState = some true ∧ view.relayOn = false := by
  have hpending := s.decideAndApply_pending cfg pm view override i
  rw [decideAndApply_report] at hoff
  simp only [hoff] at hpending
  rw [hpending]
  by_cases hstart : s.queue.pendingRelayState = some true
  · have hcfg : cfg.chargerEnableBackend = false := by
      rw [← Bool.not_eq_true]
      exact fun h => hbackend h hstart
    -- a start that is pending is not the state whose confirmation is expected to be off
    have hexpected : (s.queue.relaySyncExpectedState == some false) = false := by
      rw [beq_eq_false_iff_ne]
      exact fun h => Bool.false_ne_true (s.queue.pending_expected _ _ hstart h).symm
    cases view.relayOn <;> simp [relayDecisionNoop, hcfg, hexpected, hstart]
  · split <;> simp [hstart]

theorem runUpdateCycle_report {report : CycleReport} (h : (s.runUpdateCycle cfg i).2 = some report) :
    ∃ pm pass override, QueueFollows cfg s pass ∧ report.pendingRelayState = pass.queue.pendingRelayState ∧
      s.runUpdateCycle cfg i = ((pass.decideAndApply cfg pm report.view override i).1, some report) ∧
      (pass.decideAndApply cfg pm report.view override i).2 = report := by
  have hcycle := s.runUpdateCycle_step cfg i
  generalize s.runUpdateCycle cfg i = ended at hcycle h
  cases hcycle with
  | offline hpm => cases h
  | left pm pass hpm hstep hresult => cases h
  | decided pm pass view override hpm hstep hresult =>
    cases h
    have hview : (pass.service.decideAndApply cfg pm view override i).2.view = view := rfl
    refine ⟨pm, pass.service, override, prepareOnlineUpdate_follows.trans hstep.follows, ?_, ?_, ?_⟩
    · exact pass.service.report_pendingRelayState cfg view override i
    · rw [hview]
    · rw [hview]

/-- After a cycle that decides off, a start is pending exactly when the decision found it pending and the
relay off. -/
theorem runUpdateCycle_start_left {report : CycleReport}
    (hbackend : cfg.chargerEnableBackend = true → s.queue.pendingRelayState ≠ some true)
    (h : (s.runUpdateCycle cfg i).2 = some report) (hoff : report.desiredRelay = false) :
    (s.runUpdateCycle cfg i).1.queue.pendingRelayState = some true ↔
      report.pendingRelayState = some true ∧ report.view.relayOn = false := by
  obtain ⟨pm, pass, override, ⟨effects, -, hfollows⟩, hpending, hcycle, hreport⟩ := runUpdateCycle_report h
  rw [hcycle, hpending]
  refine decideAndApply_start_left (fun hcfg => ?_) (by rw [hreport]; exact hoff)
  rcases hfollows with hsame | ⟨hcfg', -⟩
  · rw [hsame]
    exact hbackend hcfg
  · exact absurd (hcfg'.symm.trans hcfg) Bool.false_ne_true

/-- A cycle never writes the relay itself. -/
theorem CycleEffect.not_write {effect : RelayEffect} (h : CycleEffect s cfg i effect) (on : Bool) :
    effect ≠ .writeRelay on := by
  cases h with
  | startup effect hmem =>
    rintro rfl
    cases s.preparationEffects_origin cfg i _ hmem
  | staged pm applied effect hpm happlied hmem =>
    obtain ⟨-, -, -, selection, rfl⟩ := happlied.of_mem hmem
    exact nofun
  | auto pm pass view override applied effect hpm hstep hresult happlied hmem =>
    obtain ⟨-, -, -, selection, rfl⟩ := happlied.of_mem hmem
    exact nofun
  | resume pm hpm hresume =>
    unfold RelaySettings.commandEffect
    split <;> exact nofun
  | decision on' =>
    unfold RelaySettings.commandEffect
    split <;> exact nofun

theorem CommandEffects.pending_cases {command : RelayCommand} {io : CommandInput} {queue : RelayQueue}
    {log : List RelayEffect} {started : Bool} (h : s.CommandEffects cfg command io queue log started) :
    queue.pendingRelayState = s.queue.pendingRelayState ∨
      ∃ on, queue.pendingRelayState = some on ∧ .queueRelayCommand .controlCommand on ∈ log ∧
        (cfg.chargerEnableBackend = true → on = false) := by
  cases h with
  | none => exact .inl rfl
  | called on started hbackend => exact .inl rfl
  | queued on hbackend => exact .inr ⟨on, rfl, by simp, hbackend⟩
  | appliedPhase selection hcommand hdirect => exact .inl rfl

/-- A command never writes the relay itself. -/
theorem CommandEffects.not_write {command : RelayCommand} {io : CommandInput} {queue : RelayQueue}
    {log : List RelayEffect} {started : Bool} (h : s.CommandEffects cfg command io queue log started)
    (hlog : s.log = []) (on : Bool) : .writeRelay on ∉ log := by
  cases h <;> simp [hlog]

end Follows

end RelayService

/-! ## Runs with the starts that were decided against -/

/-- The system, and whether a cycle has decided against its queued command. -/
structure StartRun where
  system : RelaySystem
  /-- A cycle has decided off since the pending command was queued. -/
  pendingWithdrawn : Bool
  /-- A cycle has decided off since the command that the worker works on was queued. -/
  heldWithdrawn : Bool

/-- A start is pending for execution: queued and not yet written, or in the hands of the worker. -/
def RelaySystem.startPending (s : RelaySystem) : Bool :=
  (s.service.queue.pendingRelayState == some true && s.worker != .written true) ||
    s.worker == .holding true

/-- The final decision of a cycle event is off. -/
def RelaySystem.decidesOff (cfg : RelaySettings) (s : RelaySystem) : RelayEvent → Bool
  | .cycle input => (s.cycleReport cfg input).any (!·.desiredRelay)
  | _ => false

/-- A decision to stay off finds a start that it does not cancel: the worker has taken it, or it is
pending while the relay is off. -/
def CycleReport.findsStart (r : CycleReport) (worker : WorkerState) : Bool :=
  !r.desiredRelay && (worker == .holding true ||
    (r.pendingRelayState == some true && !r.view.relayOn && worker != .written true))

namespace StartRun

/-- One step of the system, with what it does to the starts. -/
def step (cfg : RelaySettings) (r : StartRun) (event : RelayEvent) : StartRun where
  system := r.system.step cfg event
  pendingWithdrawn :=
    if r.system.decidesOff cfg event then true
    else if (r.system.step cfg event).service.log.any (·.queued.isSome) then false
    else r.pendingWithdrawn
  heldWithdrawn :=
    if r.system.decidesOff cfg event then true
    else
      match event with
      | .workerTake _ => if r.system.worker = .idle then r.pendingWithdrawn else r.heldWithdrawn
      | _ => r.heldWithdrawn

/-- After a decision to stay off no start is pending, and a start that was decided against is not
executed. -/
def StartCancelled (cfg : RelaySettings) (r : StartRun) (event : RelayEvent) : Prop :=
  (r.system.decidesOff cfg event = true → (r.step cfg event).system.startPending = false) ∧
    (.writeRelay true ∈ (r.step cfg event).system.service.log → r.heldWithdrawn = false)

/-- No decision to stay off finds a start that it does not cancel. -/
def FindsNoStart (cfg : RelaySettings) (r : StartRun) (event : RelayEvent) : Prop :=
  match event with
  | .cycle input => ((r.system.cycleReport cfg input).any (·.findsStart r.system.worker)) = false
  | _ => True

instance (cfg : RelaySettings) (r : StartRun) (event : RelayEvent) :
    Decidable (r.StartCancelled cfg event) :=
  inferInstanceAs (Decidable (_ ∧ _))

instance (cfg : RelaySettings) (r : StartRun) : ∀ event, Decidable (r.FindsNoStart cfg event)
  | .cycle _ => inferInstanceAs (Decidable (_ = _))
  | .command _ _ | .workerTake _ | .workerWrite _ _ | .workerFinalize _ _ | .workerTick _ | .workerRead _ _ =>
    isTrue trivial

/-- No start that was decided against can still be executed. -/
structure Cancelled (cfg : RelaySettings) (r : StartRun) : Prop where
  backend : cfg.chargerEnableBackend = true → r.system.service.queue.pendingRelayState ≠ some true
  pending : r.pendingWithdrawn = true → r.system.service.queue.pendingRelayState = some true →
    r.system.worker = .written true
  held : r.system.worker = .holding true → r.heldWithdrawn = false

section Steps

variable {cfg : RelaySettings} {r : StartRun}

variable {event : RelayEvent}

/-- Only the worker writes the relay, with the command that it has taken. -/
theorem holding_of_write {on : Bool}
    (h : .writeRelay on ∈ (r.step cfg event).system.service.log) : r.system.worker = .holding on := by
  cases event with
  | cycle input => exact absurd rfl ((RelayService.runUpdateCycle_effect rfl h).not_write on)
  | command command io =>
    have heffects := (r.system.beginEvent.service.handleControlCommand_step cfg io command).effects
    exact absurd h (heffects.not_write rfl on)
  | workerTake retryBlocked =>
    have hlog : (r.step cfg (.workerTake retryBlocked)).system.service.log = [] := by
      simp [step, RelaySystem.step, RelaySystem.handle]
    rw [hlog] at h
    cases h
  | workerWrite now call =>
    obtain ⟨-, -, -, writes, hlog, hwrites⟩ := r.system.beginEvent.workerWrite_frame cfg now call
    change .writeRelay on ∈ (r.system.beginEvent.workerWrite cfg now call).service.log at h
    rw [hlog, RelaySystem.beginEvent_log, List.nil_append] at h
    obtain ⟨target, hworker, heq⟩ := hwrites _ h
    cases heq
    exact hworker
  | workerFinalize now published =>
    obtain ⟨-, -, hlog⟩ := r.system.beginEvent.workerFinalize_frame cfg now published
    change .writeRelay on ∈ (r.system.beginEvent.workerFinalize cfg now published).service.log at h
    rw [hlog] at h
    cases h
  | workerTick now => cases h
  | workerRead status now => cases h

variable {input : CycleInput}

/-- A decision to stay off cancels the starts exactly when it finds none. -/
theorem decision_cancels_iff (hr : r.Cancelled cfg) {report : CycleReport}
    (hreport : r.system.cycleReport cfg input = some report) (hoff : report.desiredRelay = false) :
    (r.step cfg (.cycle input)).system.startPending = false ↔
      report.findsStart r.system.worker = false := by
  have hleft : (r.step cfg (.cycle input)).system.service.queue.pendingRelayState = some true ↔
      report.pendingRelayState = some true ∧ report.view.relayOn = false :=
    RelayService.runUpdateCycle_start_left hr.backend hreport hoff
  have hworker : (r.step cfg (.cycle input)).system.worker = r.system.worker := rfl
  have hpending : ((r.step cfg (.cycle input)).system.service.queue.pendingRelayState == some true) =
      (report.pendingRelayState == some true && !report.view.relayOn) := by
    rw [Bool.eq_iff_iff]
    simpa using hleft
  rw [RelaySystem.startPending, CycleReport.findsStart, hworker, hpending, hoff, Bool.not_false,
    Bool.true_and, Bool.or_comm]

theorem decidesOff_cycle : r.system.decidesOff cfg (.cycle input) = true ↔
    ∃ report, r.system.cycleReport cfg input = some report ∧ report.desiredRelay = false := by
  simp [RelaySystem.decidesOff, Option.any_eq_true]

/-- As long as no start that was decided against is left, a step cancels starts exactly when it finds
none. -/
theorem startCancelled_iff (hr : r.Cancelled cfg) (event : RelayEvent) :
    r.StartCancelled cfg event ↔ r.FindsNoStart cfg event := by
  have hexecuted : .writeRelay true ∈ (r.step cfg event).system.service.log → r.heldWithdrawn = false :=
    fun h => hr.held (holding_of_write h)
  unfold StartCancelled
  rw [and_iff_left hexecuted]
  cases event with
  | cycle input =>
    rw [decidesOff_cycle, FindsNoStart, Option.any_eq_false]
    constructor
    · intro h report hreport
      cases hoff : report.desiredRelay with
      | true => simp [CycleReport.findsStart, hoff]
      | false =>
        rw [← decision_cancels_iff hr hreport hoff]
        exact h ⟨report, hreport, hoff⟩
    · rintro h ⟨report, hreport, hoff⟩
      rw [decision_cancels_iff hr hreport hoff]
      exact h report hreport
  | _ => exact iff_of_true nofun trivial

/-- What a decision to stay off leaves, when it finds no start. -/
theorem not_pending_of_findsNoStart (hr : r.Cancelled cfg)
    (hok : r.FindsNoStart cfg (.cycle input)) (hoff : r.system.decidesOff cfg (.cycle input) = true) :
    ((r.step cfg (.cycle input)).system.service.queue.pendingRelayState = some true →
      r.system.worker = .written true) ∧ r.system.worker ≠ .holding true := by
  have hcancelled := ((startCancelled_iff hr _).mpr hok).1 hoff
  have hworker : (r.step cfg (.cycle input)).system.worker = r.system.worker := rfl
  simpa [RelaySystem.startPending, hworker, imp_iff_not_or] using hcancelled

/-- A pending command stays withdrawn while nothing is queued. -/
theorem withdrawn_of_step (hoff : r.system.decidesOff cfg event = false)
    (h : (r.step cfg event).pendingWithdrawn = true) : r.pendingWithdrawn = true ∧
      ∀ effect ∈ (r.step cfg event).system.service.log, effect.queued = none := by
  have hlog : (r.step cfg event).system.service.log = (r.system.step cfg event).service.log := rfl
  simp only [step, hoff, Bool.false_eq_true, ↓reduceIte] at h
  split at h
  · cases h
  · next hqueued => exact ⟨h, by simpa [hlog] using hqueued⟩

section

variable (hr : r.Cancelled cfg)
include hr

theorem Cancelled.not_start (hwithdrawn : r.pendingWithdrawn = true)
    (hworker : r.system.worker ≠ .written true) :
    r.system.service.queue.pendingRelayState ≠ some true :=
  fun h => hworker (hr.pending hwithdrawn h)

theorem cancelled_cycle
    (hok : r.FindsNoStart cfg (.cycle input)) : (r.step cfg (.cycle input)).Cancelled cfg := by
  obtain ⟨effects, hlog, hfollows⟩ := r.system.beginEvent.service.runUpdateCycle_follows cfg input
  have hbackend : cfg.chargerEnableBackend = true →
      (r.step cfg (.cycle input)).system.service.queue.pendingRelayState ≠ some true := by
    intro hcfg hstart
    rcases hfollows with hsame | ⟨hcfg', -⟩
    · exact hr.backend hcfg (hsame.symm.trans hstart)
    · exact Bool.false_ne_true (hcfg'.symm.trans hcfg)
  cases hoff : r.system.decidesOff cfg (.cycle input) with
  | true =>
    obtain ⟨hpending, hheld⟩ := not_pending_of_findsNoStart hr hok hoff
    exact ⟨hbackend, fun _ => hpending, fun hworker => absurd hworker hheld⟩
  | false =>
    refine ⟨hbackend, fun hwithdrawn hstart => ?_, fun hworker => ?_⟩
    · obtain ⟨hbefore, hnone⟩ := withdrawn_of_step hoff hwithdrawn
      rcases hfollows with hsame | ⟨-, effect, hmem, hqueued⟩
      · exact hr.pending hbefore (hsame.symm.trans hstart)
      · have hmem' : effect ∈ (r.step cfg (.cycle input)).system.service.log := by
          change effect ∈ (r.system.beginEvent.service.runUpdateCycle cfg input).1.log
          rw [hlog]
          exact List.mem_append_right _ hmem
        rw [hnone effect hmem'] at hqueued
        cases hqueued
    · simpa [step, hoff] using hr.held hworker

theorem cancelled_command {command : RelayCommand} {io : CommandInput} :
    (r.step cfg (.command command io)).Cancelled cfg := by
  have hpending := (r.system.beginEvent.service.handleControlCommand_step cfg io command).effects.pending_cases
  refine ⟨fun hcfg hstart => ?_, fun hwithdrawn hstart => ?_, hr.held⟩
  · rcases hpending with hsame | ⟨on, hqueued, -, hon⟩
    · exact hr.backend hcfg (hsame.symm.trans hstart)
    · have hsome : some on = some true := hqueued.symm.trans hstart
      rw [hon hcfg] at hsome
      cases hsome
  · obtain ⟨hbefore, hnone⟩ := withdrawn_of_step rfl hwithdrawn
    rcases hpending with hsame | ⟨on, -, hmem, -⟩
    · exact hr.pending hbefore (hsame.symm.trans hstart)
    · cases hnone _ hmem

/-- A step that leaves the queue alone, and does not forget an executed start. -/
theorem Cancelled.of_queue (hoff : r.system.decidesOff cfg event = false)
    (hqueue : (r.step cfg event).system.service.queue = r.system.service.queue)
    (hwritten : r.system.worker = .written true → (r.step cfg event).system.worker = .written true)
    (hheld : (r.step cfg event).system.worker = .holding true → (r.step cfg event).heldWithdrawn = false) :
    (r.step cfg event).Cancelled cfg where
  backend := fun hcfg => by
    rw [hqueue]
    exact hr.backend hcfg
  pending := fun hwithdrawn hstart => by
    rw [hqueue] at hstart
    exact hwritten (hr.pending (withdrawn_of_step hoff hwithdrawn).1 hstart)
  held := hheld

theorem cancelled_workerTake {retryBlocked : Bool} :
    (r.step cfg (.workerTake retryBlocked)).Cancelled cfg := by
  have hservice : (r.step cfg (.workerTake retryBlocked)).system.service = r.system.beginEvent.service :=
    RelaySystem.workerTake_service _ _
  rcases r.system.beginEvent.workerTake_worker retryBlocked with hsame | ⟨hidle, target, hpending, hholds⟩
  · change (r.step cfg (.workerTake retryBlocked)).system.worker = r.system.worker at hsame
    refine hr.of_queue rfl (congrArg (·.queue) hservice) (fun h => hsame.trans h) fun h => ?_
    have hheld := hsame.symm.trans h
    simpa [step, RelaySystem.decidesOff, hheld] using hr.held hheld
  · change r.system.worker = .idle at hidle
    refine hr.of_queue rfl (congrArg (·.queue) hservice) (fun h => ?_) fun h => ?_
    · rw [hidle] at h
      cases h
    · have hstart : r.system.service.queue.pendingRelayState = some true := by
        have htarget := hholds.symm.trans h
        cases htarget
        exact hpending
      -- a start that was decided against is not pending here
      cases hwithdrawn : r.pendingWithdrawn with
      | true => exact absurd hstart (hr.not_start hwithdrawn (by simp [hidle]))
      | false => simp [step, RelaySystem.decidesOff, hidle, hwithdrawn]

theorem cancelled_workerWrite {now : ℚ} {call : CallOutcome} :
    (r.step cfg (.workerWrite now call)).Cancelled cfg := by
  obtain ⟨-, -, hqueue, -⟩ := r.system.beginEvent.workerWrite_frame cfg now call
  rcases r.system.beginEvent.workerWrite_worker cfg now call with hsame | ⟨target, hholding, hends⟩
  · refine hr.of_queue rfl hqueue (fun h => hsame.trans h) fun h => ?_
    exact hr.held (hsame.symm.trans h)
  · change r.system.worker = .holding target at hholding
    refine hr.of_queue rfl hqueue (fun h => ?_) fun h => absurd h (hends true)
    rw [hholding] at h
    cases h

theorem cancelled_workerFinalize {now : ℚ} {published : Bool} :
    (r.step cfg (.workerFinalize now published)).Cancelled cfg := by
  rcases r.system.beginEvent.workerFinalize_cases cfg now published with
    hsame | ⟨target, hwritten, hidle, hqueue⟩
  · change (r.step cfg (.workerFinalize now published)).system = r.system.beginEvent at hsame
    have hworker : (r.step cfg (.workerFinalize now published)).system.worker = r.system.worker :=
      congrArg (·.worker) hsame
    exact hr.of_queue rfl (congrArg (·.service.queue) hsame) (fun h => hworker.trans h)
      fun h => hr.held (hworker.symm.trans h)
  · have hstart : (r.step cfg (.workerFinalize now published)).system.service.queue.pendingRelayState =
        some true → r.system.service.queue.pendingRelayState = some true ∧ target = false := by
      intro h
      have hcleared := (congrArg RelayQueue.pendingRelayState hqueue).symm.trans h
      rw [RelayQueue.clearPendingRelayCommand_pending] at hcleared
      split at hcleared
      · cases hcleared
      · next hother =>
        refine ⟨hcleared, ?_⟩
        rw [← Bool.not_eq_true]
        rintro rfl
        exact hother hcleared
    refine ⟨fun hcfg h => hr.backend hcfg (hstart h).1, fun hwithdrawn h => ?_, fun h => ?_⟩
    · obtain ⟨hpending, rfl⟩ := hstart h
      have htrue := hr.pending (withdrawn_of_step rfl hwithdrawn).1 hpending
      cases hwritten.symm.trans htrue
    · cases hidle.symm.trans h

end

/-- Every permitted step leaves no start that was decided against. -/
theorem cancelled_step (event : RelayEvent) (hr : r.Cancelled cfg) (hok : r.FindsNoStart cfg event) :
    (r.step cfg event).Cancelled cfg := by
  cases event with
  | cycle input => exact cancelled_cycle hr hok
  | command command io => exact cancelled_command hr
  | workerTake retryBlocked => exact cancelled_workerTake hr
  | workerWrite now call => exact cancelled_workerWrite hr
  | workerFinalize now published => exact cancelled_workerFinalize hr
  | workerTick now => exact hr.of_queue rfl rfl id hr.held
  | workerRead status now => exact hr.of_queue rfl rfl id hr.held

end Steps

/-- In every run from a service with nothing queued, every start that a cycle decides against is cancelled
exactly when no decision to stay off finds a start. -/
theorem start_cancelled_iff (cfg : RelaySettings) (service : RelayService) (events : List RelayEvent)
    (hqueue : service.queue.pendingRelayState = none) :
    Along (step cfg) (StartCancelled cfg) ⟨⟨service, .idle⟩, false, false⟩ events ↔
      Along (step cfg) (FindsNoStart cfg) ⟨⟨service, .idle⟩, false, false⟩ events :=
  along_iff_of_invariant (fun _ event hr hok => cancelled_step event hr hok)
    (fun _ event hr => startCancelled_iff hr event)
    { backend := fun _ => by simp [hqueue]
      pending := nofun
      held := nofun }

/-- The service in Auto mode, with the relay off. -/
def waiting : RelayService := (RelayService.initial 1 true).withReading false 0

/-- A cycle with this decision of Auto. -/
def autoCycle (now : ℚ) (decision : Bool) : RelayEvent :=
  .cycle { CycleInput.calm now with autoDecision := decision }

/-- A start that the worker has executed is switched off again by the next decision to stay off. -/
theorem executed_start_cancelled :
    Along (step .default) (StartCancelled .default) ⟨⟨waiting, .idle⟩, false, false⟩
      [autoCycle 0 true, .workerTake false, .workerWrite 1 .ok, .workerFinalize 1 true,
        .workerRead (some ⟨true, 0, 0, none, true⟩) 1, autoCycle 2 false] :=
  (start_cancelled_iff .default waiting _ rfl).mpr (by decide +kernel)

/-- A start behind a backoff of the worker stays queued after the decision to stay off, and is executed. -/
theorem withdrawn_start_executed :
    ¬ Along (step .default) (StartCancelled .default) ⟨⟨waiting, .idle⟩, false, false⟩
      [autoCycle 0 true, .workerTake true, autoCycle 1 false, .workerTake false, .workerWrite 2 .ok] := by
  decide +kernel

end StartRun

end VenusEvcharger
