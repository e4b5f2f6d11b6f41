import VenusEvcharger.Auto.DecisionExits
import VenusEvcharger.Library.HeldSince

/-!
# Stop discipline of the Auto decision

With the relay on, every exit of `auto_decide_relay` clears the stop timer or keeps it for a stop
condition that holds under its key. With the relay off, the exits that report an idle relay leave the
timer, so a later on-period can stop on it.
-/

namespace VenusEvcharger

open Library AutoService

namespace AutoMoment

/-- The stop condition of a key holds at the tick: the relay is on and may be stopped, and the tick
gets to the check that stops under this key. -/
structure StopConditionHeld (key : HealthReason) (m : AutoMoment) : Prop where
  relayOn : m.tick.relayOn = true
  autoMode : m.service.modeUsesAutoLogic = true
  enabled : m.service.virtualEnable = true
  noCutover : m.service.autoModeCutoverPending = false
  notNight : m.service.scheduledNightChargeActive m.tick = false
  runtime : m.service.minimumRuntimeElapsed m.tick.now = true
  condition :
    m.service.gridRecentlyRead m.tick = false ∧ key = .gridMissing ∨
    m.service.gridRecentlyRead m.tick = true ∧ ∃ batterySoc, m.SocAvailable batterySoc ∧
      ((m.tick.pvPower = none ∨ m.tick.gridPower = none) ∧
          m.service.knownMissingInputStopReason batterySoc m.tick.gridPower
            m.tick.daytimeWindowOpen = some key ∨
        ∃ pvPower gridPower surplus grid,
          m.tick.pvPower = some pvPower ∧ m.tick.gridPower = some gridPower ∧
          m.service.autoStartupWarmupSeconds ≤ m.tick.now - m.service.startedAt ∧
          m.service.manualOverrideUntil ≤ m.tick.now ∧
          (m.service.updateAverageMetrics m.tick pvPower gridPower).2 = some (surplus, grid) ∧
          m.service.relayOnStopReason m.tick surplus grid batterySoc = some key)

/-- The delay of a stop under the key. -/
def stopDelay (m : AutoMoment) (key : HealthReason) : ℚ :=
  (m.service.relayOnStopDelay key).getD m.service.autoStopDelaySeconds

/-- The tick stops charging in Auto mode, enabled and without a cutover. -/
structure Stops (m : AutoMoment) : Prop where
  relayOn : m.tick.relayOn = true
  autoMode : m.service.modeUsesAutoLogic = true
  enabled : m.service.virtualEnable = true
  noCutover : m.service.autoModeCutoverPending = false
  off : (m.service.autoDecideRelay m.tick).2 = false

/-- The tick finds the relay off and a stop timer armed, and its grid reading, its inputs or the
scheduled night send it to an exit that reports an idle relay. -/
structure LeavesStopTimer (m : AutoMoment) : Prop where
  relayOff : m.tick.relayOn = false
  armed : m.service.autoStopConditionSince ≠ none
  autoMode : m.service.modeUsesAutoLogic = true
  enabled : m.service.virtualEnable = true
  noCutover : m.service.autoModeCutoverPending = false
  idle :
    m.service.scheduledNightChargeActive m.tick = true ∧
        m.service.autoStartupWarmupSeconds ≤ m.tick.now - m.service.startedAt ∧
        m.service.manualOverrideUntil ≤ m.tick.now ∧
        m.service.scheduledNightBlockedHealth m.tick.now ≠ none ∨
      m.service.scheduledNightChargeActive m.tick = false ∧
        (m.service.gridRecentlyRead m.tick = false ∨ ¬ m.GridRecovered ∨
          (∃ batterySoc, m.SocAvailable batterySoc) ∧
            (m.tick.pvPower = none ∨ m.tick.gridPower = none))

end AutoMoment

namespace AutoService

/-- What a stage does with the stop timer while the relay is on: the timer is cleared and the relay
stays on, or it is armed now under a key whose condition holds, or it goes on under that key and
stops once the delay is over. -/
def StopTimerStep (s : AutoService) (now : ℚ) (delay : HealthReason → ℚ) (held : HealthReason → Prop)
    (result : AutoService × Bool) : Prop :=
  result.1.autoStopConditionSince = none ∧ result.2 = true ∨
    ∃ key since, held key ∧ result.1.autoStopConditionSince = some since ∧
      result.1.autoStopConditionReason = some key ∧
      (since = now ∧ result.2 = true ∨
        s.autoStopConditionSince = some since ∧ s.autoStopConditionReason.getD key = key ∧
          (result.2 = false → delay key ≤ now - since))

theorem eq_true_of_not_not {b : Bool} (h : ¬ (!b) = true) : b = true := by simpa using h

variable {s : AutoService}

variable {delay : HealthReason → ℚ}

theorem pendingStopOrRunning_step {now : ℚ} {stopReason shown : HealthReason}
    {delaySeconds : Option ℚ} {stopKey : Option HealthReason}
    {held : HealthReason → Prop} (hheld : held (stopKey.getD stopReason))
    (hdelay : delay (stopKey.getD stopReason) = delaySeconds.getD s.autoStopDelaySeconds) :
    s.StopTimerStep now delay held
      (s.pendingStopOrRunning now stopReason shown delaySeconds stopKey) := by
  obtain ⟨since, hsince, hreason, hcases⟩ :=
    pendingStopOrRunning_cases s now stopReason shown delaySeconds stopKey
  refine .inr ⟨stopKey.getD stopReason, since, hheld, hsince, hreason, ?_⟩
  rw [hdelay]
  exact hcases

variable {tick : AutoTick}

theorem handleGridMissing_step (hrelay : tick.relayOn = true)
    (hdelay : delay .gridMissing = s.autoStopDelaySeconds) :
    s.StopTimerStep tick.now delay
      (fun key => s.minimumRuntimeElapsed tick.now = true ∧ key = .gridMissing)
      (s.handleGridMissing tick) := by
  unfold handleGridMissing
  simp only [hrelay, Bool.not_true, Bool.false_eq_true, if_false]
  split
  · exact .inl ⟨rfl, rfl⟩
  · rename_i hruntime
    exact pendingStopOrRunning_step ⟨eq_true_of_not_not hruntime, rfl⟩ hdelay

theorem handleMissingInputs_step {batterySoc : ℚ} (hrelay : tick.relayOn = true)
    (hdelay : ∀ key, s.knownMissingInputStopReason batterySoc tick.gridPower tick.daytimeWindowOpen =
      some key → delay key = s.autoStopDelaySeconds) :
    s.StopTimerStep tick.now delay
      (fun key => s.minimumRuntimeElapsed tick.now = true ∧
        s.knownMissingInputStopReason batterySoc tick.gridPower tick.daytimeWindowOpen = some key)
      (s.handleMissingInputs tick batterySoc) := by
  unfold handleMissingInputs
  simp only [hrelay, Bool.not_true, Bool.false_eq_true, if_false]
  split
  · rename_i reason hreason
    split
    · exact .inl ⟨rfl, rfl⟩
    · rename_i hruntime
      exact pendingStopOrRunning_step ⟨eq_true_of_not_not hruntime, hreason⟩ (hdelay reason hreason)
  · exact .inl ⟨rfl, rfl⟩

theorem minimumRuntimeElapsed_of_relayOnStopReason {surplus grid batterySoc : ℚ}
    {key : HealthReason} (h : s.relayOnStopReason tick surplus grid batterySoc = some key) :
    s.minimumRuntimeElapsed tick.now = true := by
  unfold relayOnStopReason at h
  split at h
  · exact absurd h (by simp)
  · exact eq_true_of_not_not (by assumption)

theorem handleRelayOn_step (s : AutoService) (tick : AutoTick) (surplus grid batterySoc : ℚ) :
    s.StopTimerStep tick.now (fun key => (s.relayOnStopDelay key).getD s.autoStopDelaySeconds)
      (fun key => s.relayOnStopReason tick surplus grid batterySoc = some key)
      (s.handleRelayOn tick surplus grid batterySoc) := by
  unfold handleRelayOn
  dsimp only
  split
  · exact .inl ⟨rfl, rfl⟩
  · rename_i stopReason hreason
    exact pendingStopOrRunning_step hreason rfl

theorem StopTimerStep.mono {now : ℚ} {held held' : HealthReason → Prop}
    {result : AutoService × Bool} (h : s.StopTimerStep now delay held result)
    (himp : ∀ key, held key → held' key) :
    s.StopTimerStep now delay held' result :=
  h.imp_right fun ⟨key, since, hheld, hrest⟩ => ⟨key, since, himp key hheld, hrest⟩

theorem relayOnStopDelay_of_missingInputs {batterySoc : ℚ} {gridPower : Option ℚ}
    {daytimeWindowOpen : Bool} {key : HealthReason}
    (h : s.knownMissingInputStopReason batterySoc gridPower daytimeWindowOpen = some key) :
    s.relayOnStopDelay key = none := by
  have hkey : key ≠ .autoStopSurplus := by
    rintro rfl
    unfold knownMissingInputStopReason policyStopReason at h
    split at h
    · exact absurd h (by simp)
    · split at h
      · exact absurd h (by simp)
      · split at h
        · split at h <;> exact absurd h (by simp)
        · exact absurd h (by simp)
  simp [relayOnStopDelay, hkey]

/-- The stop condition that the decision from the inputs judges. -/
def InputStopCondition (s : AutoService) (tick : AutoTick) (batterySoc : ℚ) (key : HealthReason) :
    Prop :=
  (tick.pvPower = none ∨ tick.gridPower = none) ∧
      s.knownMissingInputStopReason batterySoc tick.gridPower tick.daytimeWindowOpen = some key ∨
    ∃ pvPower gridPower surplus grid,
      tick.pvPower = some pvPower ∧ tick.gridPower = some gridPower ∧
      s.autoStartupWarmupSeconds ≤ tick.now - s.startedAt ∧ s.manualOverrideUntil ≤ tick.now ∧
      (s.updateAverageMetrics tick pvPower gridPower).2 = some (surplus, grid) ∧
      s.relayOnStopReason tick surplus grid batterySoc = some key

theorem decisionFromInputs_step (s : AutoService) (batterySoc : ℚ) (hrelay : tick.relayOn = true) :
    s.StopTimerStep tick.now (fun key => (s.relayOnStopDelay key).getD s.autoStopDelaySeconds)
      (fun key => s.minimumRuntimeElapsed tick.now = true ∧
        s.InputStopCondition tick batterySoc key)
      (s.decisionFromInputs tick batterySoc) := by
  rcases decisionFromInputs_cases s tick batterySoc with
    ⟨pvPower, gridPower, surplus, grid, samples, smoothedSurplus, smoothedGrid, hpv, hgrid, haverage,
      hdecision⟩ | ⟨hmissing, hdecision⟩
  · rw [hdecision]
    unfold decisionFromAverages
    rcases handleCommonRuntimeGates_cases { s with
        autoSamples := samples
        stopSmoothedSurplusPower := smoothedSurplus
        stopSmoothedGridPower := smoothedGrid } tick with ⟨reason, hgate⟩ | ⟨hwarm, hoverride, hgate⟩
    · rw [hgate]
      exact .inl ⟨rfl, hrelay⟩
    · simp only [hgate, hrelay, if_true]
      have hstep := handleRelayOn_step { s with
        autoSamples := samples
        stopSmoothedSurplusPower := smoothedSurplus
        stopSmoothedGridPower := smoothedGrid } tick surplus grid batterySoc
      exact hstep.mono fun key hkey => ⟨minimumRuntimeElapsed_of_relayOnStopReason hkey,
        .inr ⟨pvPower, gridPower, surplus, grid, hpv, hgrid, hwarm, hoverride, haverage, hkey⟩⟩
  · rw [hdecision]
    refine (handleMissingInputs_step hrelay fun key hkey => ?_).mono fun key hkey =>
      ⟨hkey.1, .inl ⟨hmissing, hkey.2⟩⟩
    rw [relayOnStopDelay_of_missingInputs hkey]
    rfl

theorem autoDecideRelay_step (hrelay : tick.relayOn = true) :
    (s.autoDecideRelay tick).1.autoStopConditionSince = none ∧
        (s.modeUsesAutoLogic = false ∨ s.virtualEnable = false ∨ s.autoModeCutoverPending = true) ∨
      s.StopTimerStep tick.now (AutoMoment.stopDelay ⟨s, tick⟩)
        (AutoMoment.StopConditionHeld · ⟨s, tick⟩) (s.autoDecideRelay tick) := by
  have hexit := autoDecideRelay_exit s tick
  generalize s.autoDecideRelay tick = result at hexit ⊢
  -- A relay that is on confirms no cutover, so the later gates see the service as it was.
  have hsame : ∀ s', s.preAverageModeDecision tick = (s', none) → s = s' ∧
      s.modeUsesAutoLogic = true ∧ s.virtualEnable = true ∧ s.autoModeCutoverPending = false := by
    intro s' hchecked
    obtain ⟨hauto, henabled, ⟨hnone, rfl⟩ | ⟨-, hconfirmed, -⟩⟩ :=
      preAverageModeDecision_passed hchecked
    · exact ⟨rfl, hauto, henabled, hnone⟩
    · have hoff := ConfirmedRelay.relayOn_eq_false_of_cutoverConfirmedOff hconfirmed
      exact absurd (hoff.symm.trans hrelay) (by simp)
  cases hexit with
  | mode hmode =>
    obtain ⟨-, hnone, -, -, hwhy⟩ := preAverageModeDecision_decided hmode
    exact .inl ⟨hnone, hwhy.imp_right fun ⟨_, hwhy⟩ => hwhy.imp_right And.left⟩
  | gridMissing hchecked hnight hstale =>
    obtain ⟨rfl, hauto, henabled, hcutover⟩ := hsame _ hchecked
    exact .inr ((handleGridMissing_step hrelay rfl).mono fun key hkey =>
      ⟨hrelay, hauto, henabled, hcutover, hnight, hkey.1, .inl ⟨hstale, hkey.2⟩⟩)
  | waitingRecovery _ _ _ _ hoff => exact absurd (hoff.symm.trans hrelay) (by simp)
  | night hchecked hnight =>
    right
    unfold scheduledNightDecision
    rcases handleCommonRuntimeGates_cases _ tick with ⟨reason, hgate⟩ | ⟨-, -, hgate⟩
    · rw [hgate]
      exact .inl ⟨rfl, hrelay⟩
    · simp only [hgate, hrelay, if_true]
      exact .inl ⟨rfl, rfl⟩
  | socMissing => exact .inr (.inl ⟨rfl, hrelay⟩)
  | inputs hchecked hnight hfresh hrecovery hsoc =>
    obtain ⟨rfl, hauto, henabled, hcutover⟩ := hsame _ hchecked
    rename_i recoverySince required batterySoc reason
    have hstep := decisionFromInputs_step { s.withRecovery recoverySince required with
      lastHealthReason := reason } batterySoc hrelay
    refine .inr (hstep.mono fun key hkey => ⟨hrelay, hauto, henabled, hcutover, hnight, hkey.1,
      .inr ⟨hfresh, batterySoc, hsoc, ?_⟩⟩)
    rcases hkey.2 with hmissing | ⟨pvPower, gridPower, surplus, grid, hpv, hgrid, hwarm, hoverride,
      haverage, hreason⟩
    · exact .inl hmissing
    · refine .inr ⟨pvPower, gridPower, surplus, grid, hpv, hgrid, hwarm, hoverride, ?_, hreason⟩
      rw [← haverage]
      refine updateAverageMetrics_congr ?_ ?_ ?_ ?_ _ _ _ <;> rfl

theorem handleRelayOff_stop (s : AutoService) (tick : AutoTick) (surplus grid batterySoc : ℚ) :
    (s.handleRelayOff tick surplus grid batterySoc).1.autoStopConditionSince = none := by
  unfold handleRelayOff armOrFireStart
  dsimp only
  split
  · rfl
  · split
    · split
      · rfl
      · split <;> rfl
    · rfl

/-- With the relay off, only the exits that report an idle relay leave a stop timer. -/
theorem autoDecideRelay_leaves (hrelay : tick.relayOn = false)
    (h : (s.autoDecideRelay tick).1.autoStopConditionSince ≠ none) :
    AutoMoment.LeavesStopTimer ⟨s, tick⟩ := by
  have hexit := autoDecideRelay_exit s tick
  generalize s.autoDecideRelay tick = result at h hexit
  -- Completing a cutover clears the timer, so an armed one has seen no cutover.
  have hsame : ∀ s', s.preAverageModeDecision tick = (s', none) →
      s'.autoStopConditionSince ≠ none → s = s' ∧ s.modeUsesAutoLogic = true ∧
        s.virtualEnable = true ∧ s.autoModeCutoverPending = false := by
    intro s' hchecked harmed
    obtain ⟨hauto, henabled, ⟨hnone, rfl⟩ | ⟨-, -, rfl⟩⟩ := preAverageModeDecision_passed hchecked
    · exact ⟨rfl, hauto, henabled, hnone⟩
    · exact absurd rfl harmed
  cases hexit with
  | mode hmode => exact absurd (preAverageModeDecision_decided hmode).2.1 h
  | gridMissing hchecked hnight hstale =>
    simp only [handleGridMissing, hrelay, Bool.not_false, if_true] at h
    obtain ⟨rfl, hauto, henabled, hcutover⟩ := hsame _ hchecked h
    exact ⟨hrelay, h, hauto, henabled, hcutover, .inr ⟨hnight, .inl hstale⟩⟩
  | waitingRecovery hchecked hnight _ _ _ hwaiting =>
    obtain ⟨rfl, hauto, henabled, hcutover⟩ := hsame _ hchecked h
    exact ⟨hrelay, h, hauto, henabled, hcutover, .inr ⟨hnight, .inr (.inl hwaiting)⟩⟩
  | night hchecked hnight =>
    unfold scheduledNightDecision at h
    rcases handleCommonRuntimeGates_cases _ tick with ⟨reason, hgate⟩ | ⟨hwarm, hoverride, hgate⟩
    · rw [hgate] at h
      exact absurd rfl h
    · simp only [hgate, hrelay, Bool.false_eq_true, if_false] at h
      split at h
      · rename_i blocked hblocked
        obtain ⟨rfl, hauto, henabled, hcutover⟩ := hsame _ hchecked h
        refine ⟨hrelay, h, hauto, henabled, hcutover, .inl ⟨hnight, hwarm, hoverride, ?_⟩⟩
        exact fun hnone => absurd (hblocked.symm.trans hnone) (by simp)
      · exact absurd rfl h
  | socMissing => exact absurd rfl h
  | inputs hchecked hnight hfresh hrecovery hsoc =>
    rename_i s' recoverySince required batterySoc reason
    rcases decisionFromInputs_cases { s'.withRecovery recoverySince required with
        lastHealthReason := reason } tick batterySoc with
      ⟨_, _, surplus, grid, _, _, _, -, -, -, hdecision⟩ | ⟨hmissing, hdecision⟩
    · rw [hdecision] at h
      unfold decisionFromAverages at h
      split at h
      · rename_i hgate
        rcases handleCommonRuntimeGates_cases _ tick with ⟨reason, hreset⟩ | ⟨-, -, hpass⟩
        · obtain ⟨rfl, -⟩ := Prod.mk.inj (hgate.symm.trans hreset)
          exact absurd rfl h
        · exact absurd (congrArg Prod.snd (hgate.symm.trans hpass)) (by simp)
      · simp only [hrelay, Bool.false_eq_true, if_false, handleRelayOff_stop] at h
        exact absurd rfl h
    · rw [hdecision] at h
      simp only [handleMissingInputs, hrelay, Bool.not_false, if_true] at h
      obtain ⟨rfl, hauto, henabled, hcutover⟩ := hsame _ hchecked h
      exact ⟨hrelay, h, hauto, henabled, hcutover,
        .inr ⟨hnight, .inr (.inr ⟨⟨batterySoc, hsoc⟩, hmissing⟩)⟩⟩

end AutoService

namespace AutoRun

/-- When no tick has left a stop timer over a relay that is off, an armed stop timer says that the
condition of its key has held since it was armed. -/
theorem stop_held {history : List AutoMoment} {s : AutoService} (run : AutoRun history s)
    (hleft : ∀ m ∈ history, ¬ m.LeavesStopTimer) {since : ℚ}
    (h : s.autoStopConditionSince = some since) :
    ∃ key, s.autoStopConditionReason = some key ∧
      HeldSince (AutoMoment.StopConditionHeld key) (·.tick.now) since history := by
  induction run generalizing since with
  | started hstarted =>
    rw [hstarted.stop] at h
    exact absurd h (by simp)
  | tick run between ordered ih =>
    rename_i history before found tick
    cases hrelay : tick.relayOn with
    | false =>
      have hleaves := autoDecideRelay_leaves hrelay (by rw [h]; simp)
      exact absurd hleaves (hleft _ List.mem_cons_self)
    | true =>
      rcases autoDecideRelay_step hrelay with ⟨hnone, -⟩ | ⟨hnone, -⟩ |
        ⟨key, armed, hheld, harmed, hreason, hcases⟩
      · exact absurd (hnone.symm.trans h) (by simp)
      · exact absurd (hnone.symm.trans h) (by simp)
      · obtain rfl := Option.some.inj (harmed.symm.trans h)
        refine ⟨key, hreason, ?_⟩
        rcases hcases with ⟨rfl, -⟩ | ⟨hbefore, hkey, -⟩
        · exact heldSince_arm hheld _
        · rcases between.stop with hcleared | ⟨hsince, hsameKey⟩
          · exact absurd (hcleared.symm.trans hbefore) (by simp)
          · obtain ⟨key', hkey', hsinceHeld⟩ :=
              ih (fun m hm => hleft m (List.mem_cons_of_mem _ hm)) (hsince.symm.trans hbefore)
            rw [hsameKey, hkey', Option.getD_some] at hkey
            obtain rfl := hkey
            exact hsinceHeld.extend hheld

/-- When no tick has left a stop timer over a relay that is off, a stop comes after the minimum
runtime and after its stop condition has held under one key for the delay of that key. -/
theorem auto_stop_discipline {history : List AutoMoment} {moment : AutoMoment} {s : AutoService}
    (run : AutoRun (moment :: history) s) (hleft : ∀ m ∈ history, ¬ m.LeavesStopTimer)
    (hstops : moment.Stops) :
    moment.service.minimumRuntimeElapsed moment.tick.now = true ∧
      ∃ key since, HeldSince (AutoMoment.StopConditionHeld key) (·.tick.now) since history ∧
        moment.StopConditionHeld key ∧ moment.stopDelay key ≤ moment.tick.now - since := by
  cases run with
  | tick run between ordered =>
    rename_i before found tick
    have hoff : (found.autoDecideRelay tick).2 = false := hstops.off
    rcases autoDecideRelay_step (s := found) hstops.relayOn with ⟨-, hmanual | hdisabled | hcutover⟩ |
      ⟨-, hon⟩ | ⟨key, since, hheld, harmed, hreason, hcases⟩
    · exact absurd (hmanual.symm.trans hstops.autoMode) (by simp)
    · exact absurd (hdisabled.symm.trans hstops.enabled) (by simp)
    · exact absurd (hcutover.symm.trans hstops.noCutover) (by simp)
    · exact absurd (hon.symm.trans hoff) (by simp)
    · rcases hcases with ⟨-, hon⟩ | ⟨hbefore, hkey, hdelay⟩
      · exact absurd (hon.symm.trans hoff) (by simp)
      · rcases between.stop with hcleared | ⟨hsince, hsameKey⟩
        · exact absurd (hcleared.symm.trans hbefore) (by simp)
        · obtain ⟨key', hkey', hsinceHeld⟩ := run.stop_held hleft (hsince.symm.trans hbefore)
          rw [hsameKey, hkey', Option.getD_some] at hkey
          obtain rfl := hkey
          exact ⟨hheld.runtime, key', since, hsinceHeld, hheld, hdelay hoff⟩

/-- A relay that stays on without a grid reading is stopped after the stop delay. -/
theorem auto_stop_discipline_grid_missing :
    ∃ moment history s, AutoRun (moment :: history) s ∧ moment.Stops ∧
      ∃ key since, HeldSince (AutoMoment.StopConditionHeld key) (·.tick.now) since history ∧
        moment.stopDelay key ≤ moment.tick.now - since := by
  have run := autoRun_runTicks (.started idleAutoService_started)
    [sunnyTick 0 true (some 80) none, sunnyTick 10 true (some 80) none] (by decide +kernel) (by simp)
  refine ⟨_, _, _, run, ?stops, ?held⟩
  case stops => constructor <;> decide +kernel
  case held =>
    obtain ⟨-, key, since, hheld, -, hdelay⟩ := auto_stop_discipline run
      (fun m hm hleaves => by
        obtain rfl := List.mem_singleton.mp hm
        exact absurd hleaves.relayOff (by decide))
      (by constructor <;> decide +kernel)
    exact ⟨key, since, hheld, hdelay⟩

/-- The timer of an on-period at 0 s outlives the relay being off at 5 s, because the grid reading is
still missing then, and stops the on-period that began at 9 s on its first tick. -/
theorem stopped_by_earlier_period :
    ∃ moment history s, AutoRun (moment :: history) s ∧ moment.Stops ∧
      moment.service.relayLastChangedAt = some 9 ∧
      ¬ ∃ key since, HeldSince (AutoMoment.StopConditionHeld key) (·.tick.now) since history := by
  have run := autoRun_runTicks (.started idleAutoService_started)
    [sunnyTick 0 true (some 80) none, sunnyTick 5 false (some 80) none] (by decide +kernel) (by simp)
  have between : (runTicks [] idleAutoService [sunnyTick 0 true (some 80) none,
      sunnyTick 5 false (some 80) none]).2.Between
      { (runTicks [] idleAutoService [sunnyTick 0 true (some 80) none,
        sunnyTick 5 false (some 80) none]).2 with relayLastChangedAt := some 9 } :=
    ⟨.inr rfl, .inr ⟨rfl, rfl⟩, rfl, rfl⟩
  refine ⟨_, _, _, @AutoRun.tick _ _ _ (sunnyTick 10 true (some 80) none) run between ?ordered,
    ?stops, rfl, ?held⟩
  case ordered =>
    intro m hm
    obtain rfl := Option.some.inj hm
    decide +kernel
  case stops => constructor <;> decide +kernel
  case held =>
    rintro ⟨key, since, hheld⟩
    exact absurd hheld.newest.relayOn (by decide)

end AutoRun

end VenusEvcharger
