import VenusEvcharger.Auto.Decision
import Mathlib.Data.List.TakeWhile
import Mathlib.Tactic.Linarith

/-!
# The exits of the Auto decision

A run is a history of ticks, the newest first. Between two ticks the rest of the service may do
anything but arm a timer or touch the grid recovery. `autoDecideRelay_exit` says once which exits a
tick can take and in which state it takes each.
-/

namespace VenusEvcharger

/-- A tick with the service it found. -/
structure AutoMoment where
  service : AutoService
  tick : AutoTick

namespace AutoService

/-- What the rest of the service may do between two ticks: writes and the session tracking clear the
timers, and no one else arms one or changes the grid recovery. -/
structure Between (s s' : AutoService) : Prop where
  start : s'.autoStartConditionSince = none ∨ s'.autoStartConditionSince = s.autoStartConditionSince
  stop : s'.autoStopConditionSince = none ∨
    s'.autoStopConditionSince = s.autoStopConditionSince ∧
      s'.autoStopConditionReason = s.autoStopConditionReason
  recoveryRequired : s'.gridRecoveryRequired = s.gridRecoveryRequired
  recoverySince : s'.gridRecoverySince = s.gridRecoverySince

/-- The service as it starts. -/
structure Started (s : AutoService) : Prop where
  start : s.autoStartConditionSince = none
  stop : s.autoStopConditionSince = none
  recoveryRequired : s.gridRecoveryRequired = false

end AutoService

open AutoService

/-- A run of ticks at non-decreasing times, with its history and the service after it. -/
inductive AutoRun : List AutoMoment → AutoService → Prop where
  | started {s : AutoService} (h : s.Started) : AutoRun [] s
  | tick {history : List AutoMoment} {s s' : AutoService} {tick : AutoTick} (run : AutoRun history s)
      (between : s.Between s') (ordered : ∀ m ∈ history.head?, m.tick.now ≤ tick.now) :
      AutoRun (⟨s', tick⟩ :: history) (s'.autoDecideRelay tick).1

namespace AutoMoment

/-- The service once mode and cutover have been checked. -/
def checked (m : AutoMoment) : AutoService := (m.service.preAverageModeDecision m.tick).1

/-- A battery SOC is available, or its absence is allowed and the resume SOC stands in for it. -/
def SocAvailable (m : AutoMoment) (batterySoc : ℚ) : Prop :=
  m.tick.batterySoc = some batterySoc ∧ 0 ≤ batterySoc ∧ batterySoc ≤ 100 ∨
    m.service.autoAllowWithoutBatterySoc = true ∧
      batterySoc = m.service.autoPolicy.resumeSoc ∧
      ∀ soc, m.tick.batterySoc = some soc → ¬ (0 ≤ soc ∧ soc ≤ 100)

/-- Auto judges the grid reading of the tick: Auto mode, enabled, no cutover that is still waiting for
the relay, and outside the scheduled-night window. -/
structure AutoEvaluated (m : AutoMoment) : Prop where
  autoMode : m.service.modeUsesAutoLogic = true
  enabled : m.service.virtualEnable = true
  cutover : m.service.autoModeCutoverPending = true →
    m.service.cutoverRelayOffConfirmed m.tick = true
  notNight : m.service.scheduledNightChargeActive m.tick = false

/-- The grid recovery gate is open. -/
def GridRecovered (m : AutoMoment) : Prop :=
  m.service.gridRecoveryRequired = true →
    m.service.autoPolicy.gridRecoveryStartSeconds ≤ 0 ∨
    ∃ since, m.service.gridRecoverySince = some since ∧
      m.service.autoPolicy.gridRecoveryStartSeconds ≤ m.tick.now - since

end AutoMoment

namespace AutoService

/-! ## What each stage can do -/

variable {s s' : AutoService} {tick : AutoTick}

/-- A tick that gets past the mode check is Auto's, and a cutover it found has been completed. -/
theorem preAverageModeDecision_passed (h : s.preAverageModeDecision tick = (s', none)) :
    s.modeUsesAutoLogic = true ∧ s.virtualEnable = true ∧
      (s.autoModeCutoverPending = false ∧ s' = s ∨
        s.autoModeCutoverPending = true ∧ s.cutoverRelayOffConfirmed tick = true ∧
          s' = s.resetAutoState.completeModeCutover) := by
  unfold preAverageModeDecision at h
  split at h
  · exact absurd (congrArg Prod.snd h) (by simp)
  · split at h
    · exact absurd (congrArg Prod.snd h) (by simp)
    · rename_i hmode henable
      refine ⟨by simpa using hmode, by simpa using henable, ?_⟩
      unfold handleCutoverPending at h
      cases hpending : s.autoModeCutoverPending with
      | false =>
        simp only [hpending, Bool.not_false, if_true] at h
        exact .inl ⟨rfl, (congrArg Prod.fst h).symm⟩
      | true =>
        simp only [hpending, Bool.not_true, Bool.false_eq_true, if_false] at h
        split at h
        · exact absurd (congrArg Prod.snd h) (by simp)
        · rename_i hconfirmed
          exact .inr ⟨rfl, by simpa [cutoverRelayOffConfirmed, resetAutoState, clearAutoSamples] using
            hconfirmed, (congrArg Prod.fst h).symm⟩

/-- A tick that the mode check decides is reset, and it is switched on only outside Auto mode. -/
theorem preAverageModeDecision_decided {decision : Bool}
    (h : s.preAverageModeDecision tick = (s', some decision)) :
    s'.autoStartConditionSince = none ∧ s'.autoStopConditionSince = none ∧
      s'.gridRecoveryRequired = s.gridRecoveryRequired ∧
      s'.gridRecoverySince = s.gridRecoverySince ∧
      (s.modeUsesAutoLogic = false ∨
        decision = false ∧ (s.virtualEnable = false ∨
          s.autoModeCutoverPending = true ∧ s.cutoverRelayOffConfirmed tick = false)) := by
  unfold preAverageModeDecision at h
  split at h
  · rename_i hmode
    obtain ⟨rfl, -⟩ := Prod.mk.inj h
    exact ⟨rfl, rfl, rfl, rfl, .inl (by simpa using hmode)⟩
  · split at h
    · rename_i henable
      obtain ⟨rfl, hdecision⟩ := Prod.mk.inj h
      exact ⟨rfl, rfl, rfl, rfl, .inr ⟨(Option.some.inj hdecision).symm, .inl (by simpa using henable)⟩⟩
    · unfold handleCutoverPending at h
      split at h
      · exact absurd (congrArg Prod.snd h) (by simp)
      · rename_i hpending
        dsimp only at h
        split at h
        · rename_i hconfirmed
          obtain ⟨rfl, hdecision⟩ := Prod.mk.inj h
          have hunconfirmed : s.cutoverRelayOffConfirmed tick = false := by
            simpa [cutoverRelayOffConfirmed, resetAutoState, clearAutoSamples] using hconfirmed
          exact ⟨rfl, rfl, rfl, rfl, .inr ⟨(Option.some.inj hdecision).symm,
            .inr ⟨by simpa using hpending, hunconfirmed⟩⟩⟩
        · exact absurd (congrArg Prod.snd h) (by simp)

variable {grid batterySoc : ℚ}

variable {surplus : ℚ}

theorem relayOffStartConditionsMet_iff :
    s.relayOffStartConditionsMet tick surplus grid batterySoc = true ↔
      s.minimumOfftimeElapsed tick.now = true ∧ tick.daytimeWindowOpen = true ∧
        (tick.surplusThresholds batterySoc).1 ≤ surplus ∧
        grid ≤ s.autoPolicy.startMaxGridImportWatts ∧ s.autoPolicy.resumeSoc ≤ batterySoc := by
  simp [relayOffStartConditionsMet, and_assoc]

/-- The start timer is armed now, or it was armed before, stays, and fires once its delay is over. -/
theorem armOrFireStart_cases (s : AutoService) (now : ℚ) :
    s.autoStartConditionSince = none ∧ (s.armOrFireStart now).1.autoStartConditionSince = some now ∧
        (s.armOrFireStart now).2 = false ∨
      ∃ since, s.autoStartConditionSince = some since ∧
        (s.armOrFireStart now).1.autoStartConditionSince = some since ∧
        ((s.armOrFireStart now).2 = true → s.autoStartDelaySeconds ≤ now - since) := by
  unfold armOrFireStart
  cases hsince : s.autoStartConditionSince with
  | none => exact .inl ⟨rfl, rfl, rfl⟩
  | some since =>
    refine .inr ⟨since, rfl, ?_, ?_⟩
    · dsimp only
      split
      · rfl
      · exact hsince
    · dsimp only
      split
      · exact fun _ => by assumption
      · exact fun h => absurd h (by simp)

/-- With a relay that is off, arming or keeping the start timer needs every condition. -/
theorem handleRelayOff_start {since : ℚ}
    (h : (s.handleRelayOff tick surplus grid batterySoc).1.autoStartConditionSince = some since) :
    s.virtualAutostart = true ∧ s.relayOffStartConditionsMet tick surplus grid batterySoc = true ∧
      (since = tick.now ∨ s.autoStartConditionSince = some since) := by
  unfold handleRelayOff at h
  dsimp only at h
  split at h
  · exact absurd h (by simp [idleResultWithHealth, clearAutoStartTracking, setHealth])
  · rename_i hautostart
    split at h
    · rename_i hmet
      refine ⟨by simpa using hautostart, hmet, ?_⟩
      rcases armOrFireStart_cases { s with autoStopConditionSince := none } tick.now with
        ⟨-, harmed, -⟩ | ⟨kept, hbefore, hkept, -⟩
      · exact .inl (Option.some.inj (h.symm.trans harmed))
      · obtain rfl := Option.some.inj (h.symm.trans hkept)
        exact .inr hbefore
    · exact absurd h (by simp [clearAutoStartTracking, setHealth])

/-- The start fires for a timer that was armed before, by the delay at least, and keeps it. -/
theorem handleRelayOff_on (h : (s.handleRelayOff tick surplus grid batterySoc).2 = true) :
    ∃ since, s.autoStartConditionSince = some since ∧
      s.autoStartDelaySeconds ≤ tick.now - since ∧
      (s.handleRelayOff tick surplus grid batterySoc).1.autoStartConditionSince = some since := by
  unfold handleRelayOff at h ⊢
  dsimp only at h ⊢
  split at h
  · exact absurd h (by simp [idleResultWithHealth])
  · rename_i hautostart
    rw [if_neg hautostart]
    split at h
    · rename_i hmet
      rw [if_pos hmet]
      rcases armOrFireStart_cases { s with autoStopConditionSince := none } tick.now with
        ⟨-, -, hoff⟩ | ⟨since, hbefore, hkept, hfire⟩
      · exact absurd (h.symm.trans hoff) (by simp)
      · exact ⟨since, hbefore, hfire h, hkept⟩
    · exact absurd h (by simp)

theorem resetStopTracking_some {armed : AutoService} {now : ℚ} {key : HealthReason}
    (h : s.resetStopTracking now key = some armed) :
    armed = { s with
      autoStopConditionSince := some now
      autoStopConditionReason := some key } := by
  unfold resetStopTracking at h
  split at h
  all_goals
    split at h
    · exact (Option.some.inj h).symm
    · exact absurd h (by simp)

theorem resetStopTracking_none {now : ℚ} {key : HealthReason}
    (h : s.resetStopTracking now key = none) :
    ∃ since, s.autoStopConditionSince = some since ∧ s.autoStopConditionReason.getD key = key := by
  unfold resetStopTracking at h
  cases hsince : s.autoStopConditionSince with
  | none => simp [hsince] at h
  | some since =>
    refine ⟨since, rfl, ?_⟩
    cases hreason : s.autoStopConditionReason with
    | none => rfl
    | some current => simpa [hsince, hreason] using h

/-- The stop timer is armed now under its key, or it was armed before under it, stays, and fires once
its delay is over. -/
theorem pendingStopOrRunning_cases (s : AutoService) (now : ℚ) (stopReason shown : HealthReason)
    (delay : Option ℚ) (key : Option HealthReason) :
    ∃ since, (s.pendingStopOrRunning now stopReason shown delay key).1.autoStopConditionSince =
        some since ∧
      (s.pendingStopOrRunning now stopReason shown delay key).1.autoStopConditionReason =
        some (key.getD stopReason) ∧
      (since = now ∧ (s.pendingStopOrRunning now stopReason shown delay key).2 = true ∨
        s.autoStopConditionSince = some since ∧
          s.autoStopConditionReason.getD (key.getD stopReason) = key.getD stopReason ∧
          ((s.pendingStopOrRunning now stopReason shown delay key).2 = false →
            delay.getD s.autoStopDelaySeconds ≤ now - since)) := by
  unfold pendingStopOrRunning
  dsimp only
  cases hreset : s.resetStopTracking now (key.getD stopReason) with
  | some armed =>
    obtain rfl := resetStopTracking_some hreset
    exact ⟨now, rfl, rfl, .inl ⟨rfl, rfl⟩⟩
  | none =>
    obtain ⟨since, hsince, hkey⟩ := resetStopTracking_none hreset
    have hreason : (s.ensureStopTrackingReason (key.getD stopReason)).autoStopConditionReason =
        some (key.getD stopReason) := congrArg some hkey
    have hkept : (s.ensureStopTrackingReason (key.getD stopReason)).autoStopConditionSince =
        some since := hsince
    simp only [hkept]
    split
    · exact ⟨since, hkept, hreason, .inr ⟨hsince, hkey, fun h => absurd h (by simp)⟩⟩
    · rename_i hdelay
      exact ⟨since, hkept, hreason, .inr ⟨hsince, hkey, fun _ => not_lt.mp hdelay⟩⟩

theorem pendingStopOrRunning_frame (s : AutoService) (now : ℚ) (stopReason shown : HealthReason)
    (delay : Option ℚ) (key : Option HealthReason) :
    (s.pendingStopOrRunning now stopReason shown delay key).1.autoStartConditionSince =
        s.autoStartConditionSince ∧
      (s.pendingStopOrRunning now stopReason shown delay key).1.gridRecoveryRequired =
        s.gridRecoveryRequired ∧
      (s.pendingStopOrRunning now stopReason shown delay key).1.gridRecoverySince =
        s.gridRecoverySince := by
  unfold pendingStopOrRunning
  dsimp only
  split
  · rename_i armed harmed
    obtain rfl := resetStopTracking_some harmed
    exact ⟨rfl, rfl, rfl⟩
  · split
    · split <;> exact ⟨rfl, rfl, rfl⟩
    · exact ⟨rfl, rfl, rfl⟩

theorem handleRelayOn_start (s : AutoService) (tick : AutoTick) (surplus grid batterySoc : ℚ) :
    (s.handleRelayOn tick surplus grid batterySoc).1.autoStartConditionSince = none := by
  unfold handleRelayOn
  dsimp only
  split
  · rfl
  · exact (pendingStopOrRunning_frame _ _ _ _ _ _).1

theorem handleMissingInputs_start (s : AutoService) (tick : AutoTick) (batterySoc : ℚ) :
    (s.handleMissingInputs tick batterySoc).1.autoStartConditionSince = none := by
  unfold handleMissingInputs
  dsimp only
  split
  · rfl
  · split
    · split
      · rfl
      · exact (pendingStopOrRunning_frame _ _ _ _ _ _).1
    · rfl

/-- The sample of the tick is never older than the averaging window, so there is an average. -/
theorem updateAverageMetrics_isSome (s : AutoService) (tick : AutoTick) (pvPower gridPower : ℚ) :
    (s.updateAverageMetrics tick pvPower gridPower).2 ≠ none := by
  have hsamples : (s.addAutoSample tick.now (getAvailableSurplusWatts pvPower gridPower)
      gridPower).autoSamples ≠ [] := by
    unfold addAutoSample
    intro hempty
    have hold := List.dropWhile_eq_nil_iff.mp hempty
      ⟨tick.now, getAvailableSurplusWatts pvPower gridPower, gridPower⟩ (by simp)
    have hwindow : (0 : ℚ) ≤ s.autoAverageWindowSeconds := s.autoAverageWindowSeconds.2
    rw [decide_eq_true_eq] at hold
    linarith
  unfold updateAverageMetrics averageAutoMetric
  simp only [List.isEmpty_iff, hsamples, if_false]
  simp

theorem updateAverageMetrics_congr (hsamples : s'.autoSamples = s.autoSamples)
    (hwindow : s'.autoAverageWindowSeconds = s.autoAverageWindowSeconds)
    (hsurplus : s'.stopSmoothedSurplusPower = s.stopSmoothedSurplusPower)
    (hgrid : s'.stopSmoothedGridPower = s.stopSmoothedGridPower) (tick : AutoTick)
    (pvPower gridPower : ℚ) :
    (s'.updateAverageMetrics tick pvPower gridPower).2 =
      (s.updateAverageMetrics tick pvPower gridPower).2 := by
  unfold updateAverageMetrics addAutoSample averageAutoMetric smoothedDecisionMetrics
  simp only [hsamples, hwindow, hsurplus, hgrid]
  split
  · cases tick.relayOn <;> rfl
  · rfl

/-- Averaging changes the samples and the smoothed metrics only. -/
theorem updateAverageMetrics_frame (s : AutoService) (tick : AutoTick) (pvPower gridPower : ℚ) :
    ∃ samples surplus grid, (s.updateAverageMetrics tick pvPower gridPower).1 =
      { s with
        autoSamples := samples
        stopSmoothedSurplusPower := surplus
        stopSmoothedGridPower := grid } := by
  unfold updateAverageMetrics smoothedDecisionMetrics
  dsimp only
  split
  · cases tick.relayOn with
    | true => exact ⟨_, _, _, rfl⟩
    | false => exact ⟨_, _, _, rfl⟩
  · exact ⟨_, _, _, rfl⟩

theorem handleCommonRuntimeGates_cases (s : AutoService) (tick : AutoTick) :
    (∃ reason, s.handleCommonRuntimeGates tick =
        (s.resetAutoState.setHealth reason, some tick.relayOn)) ∨
      s.autoStartupWarmupSeconds ≤ tick.now - s.startedAt ∧ s.manualOverrideUntil ≤ tick.now ∧
        s.handleCommonRuntimeGates tick = (s, none) := by
  unfold handleCommonRuntimeGates
  split
  · exact .inl ⟨.warmup, rfl⟩
  · rename_i hwarm
    split
    · exact .inl ⟨.manualOverride, rfl⟩
    · rename_i hoverride
      exact .inr ⟨not_lt.mp hwarm, not_lt.mp hoverride, rfl⟩

theorem decisionFromAverages_start {since : ℚ}
    (h : (s.decisionFromAverages tick surplus grid batterySoc).1.autoStartConditionSince =
      some since) :
    tick.relayOn = false ∧ s.autoStartupWarmupSeconds ≤ tick.now - s.startedAt ∧
      s.manualOverrideUntil ≤ tick.now ∧ s.virtualAutostart = true ∧
      s.relayOffStartConditionsMet tick surplus grid batterySoc = true ∧
      (since = tick.now ∨ s.autoStartConditionSince = some since) := by
  unfold decisionFromAverages at h
  rcases handleCommonRuntimeGates_cases s tick with ⟨reason, hgate⟩ | ⟨hwarm, hoverride, hgate⟩
  · rw [hgate] at h
    exact absurd h (by simp [setHealth, resetAutoState, clearAutoSamples])
  · rw [hgate] at h
    cases hrelay : tick.relayOn with
    | true =>
      simp only [hrelay, if_true, handleRelayOn_start] at h
      exact absurd h (by simp)
    | false =>
      simp only [hrelay, Bool.false_eq_true, if_false] at h
      exact ⟨rfl, hwarm, hoverride, handleRelayOff_start h⟩

theorem decisionFromAverages_on (hrelay : tick.relayOn = false)
    (h : (s.decisionFromAverages tick surplus grid batterySoc).2 = true) :
    ∃ since, s.autoStartConditionSince = some since ∧
      s.autoStartDelaySeconds ≤ tick.now - since ∧
      (s.decisionFromAverages tick surplus grid batterySoc).1.autoStartConditionSince =
        some since := by
  unfold decisionFromAverages at h ⊢
  rcases handleCommonRuntimeGates_cases s tick with ⟨reason, hgate⟩ | ⟨-, -, hgate⟩
  · simp [hgate, hrelay] at h
  · simp only [hgate, hrelay, Bool.false_eq_true, if_false] at h ⊢
    exact handleRelayOff_on h

/-- The SOC to decide with is available, and resolving it changes the health reason only. -/
theorem resolveBatterySoc_ok (h : s.resolveBatterySoc tick = (s', .ok batterySoc)) :
    AutoMoment.SocAvailable ⟨s, tick⟩ batterySoc ∧
      ∃ reason, s' = { s with lastHealthReason := reason } := by
  unfold resolveBatterySoc at h
  cases hsoc : tick.batterySoc.filter fun soc => decide (0 ≤ soc ∧ soc ≤ 100) with
  | some soc =>
    rw [hsoc] at h
    obtain ⟨rfl, hok⟩ := Prod.mk.inj h
    obtain rfl := Except.ok.inj hok
    obtain ⟨hreading, hrange⟩ := Option.filter_eq_some_iff.mp hsoc
    rw [decide_eq_true_eq] at hrange
    exact ⟨.inl ⟨hreading, hrange⟩, s.lastHealthReason, rfl⟩
  | none =>
    rw [hsoc] at h
    dsimp only at h
    split at h
    · rename_i hallow
      obtain ⟨rfl, hok⟩ := Prod.mk.inj h
      obtain rfl := Except.ok.inj hok
      refine ⟨.inr ⟨hallow, rfl, fun soc hreading hrange => ?_⟩, _, rfl⟩
      change tick.batterySoc = some soc at hreading
      rw [hreading, Option.filter_some, if_pos (decide_eq_true hrange)] at hsoc
      exact absurd hsoc (by simp)
    · exact absurd (congrArg Prod.snd h) (by simp)

theorem resolveBatterySoc_error {decision : Bool}
    (h : s.resolveBatterySoc tick = (s', .error decision)) :
    decision = tick.relayOn ∧ s' = s.resetAutoState.setHealth .batterySocMissing := by
  unfold resolveBatterySoc at h
  split at h
  · exact absurd (congrArg Prod.snd h) (by simp)
  · split at h
    · exact absurd (congrArg Prod.snd h) (by simp)
    · obtain ⟨rfl, herror⟩ := Prod.mk.inj h
      exact ⟨(Except.error.inj herror).symm, rfl⟩

/-- With PV and grid readings the averages decide, on a service that differs in its samples and
smoothed metrics; without one of them the missing inputs do. -/
theorem decisionFromInputs_cases (s : AutoService) (tick : AutoTick) (batterySoc : ℚ) :
    (∃ pvPower gridPower surplus grid samples smoothedSurplus smoothedGrid,
      tick.pvPower = some pvPower ∧ tick.gridPower = some gridPower ∧
      (s.updateAverageMetrics tick pvPower gridPower).2 = some (surplus, grid) ∧
      s.decisionFromInputs tick batterySoc =
        { s with
          autoSamples := samples
          stopSmoothedSurplusPower := smoothedSurplus
          stopSmoothedGridPower := smoothedGrid }.decisionFromAverages tick surplus grid
            batterySoc) ∨
      (tick.pvPower = none ∨ tick.gridPower = none) ∧
        s.decisionFromInputs tick batterySoc = s.handleMissingInputs tick batterySoc := by
  unfold decisionFromInputs
  cases hpv : tick.pvPower with
  | none => exact .inr ⟨.inl rfl, rfl⟩
  | some pvPower =>
    cases hgrid : tick.gridPower with
    | none => exact .inr ⟨.inr rfl, rfl⟩
    | some gridPower =>
      obtain ⟨samples, smoothedSurplus, smoothedGrid, hframe⟩ :=
        updateAverageMetrics_frame s tick pvPower gridPower
      cases haverage : s.updateAverageMetrics tick pvPower gridPower with
      | mk s' averages =>
        rw [haverage] at hframe
        obtain rfl : s' = _ := hframe
        cases averages with
        | none =>
          exact absurd (congrArg Prod.snd haverage)
            (updateAverageMetrics_isSome s tick pvPower gridPower)
        | some averages =>
          exact .inl ⟨pvPower, gridPower, averages.1, averages.2, samples, smoothedSurplus,
            smoothedGrid, rfl, rfl, congrArg Prod.snd haverage, by simp only [haverage]⟩

theorem decisionFromInputs_start {since : ℚ}
    (h : (s.decisionFromInputs tick batterySoc).1.autoStartConditionSince = some since) :
    ∃ pvPower gridPower surplus grid,
      tick.pvPower = some pvPower ∧ tick.gridPower = some gridPower ∧
      (s.updateAverageMetrics tick pvPower gridPower).2 = some (surplus, grid) ∧
      tick.relayOn = false ∧ s.autoStartupWarmupSeconds ≤ tick.now - s.startedAt ∧
      s.manualOverrideUntil ≤ tick.now ∧ s.virtualAutostart = true ∧
      s.relayOffStartConditionsMet tick surplus grid batterySoc = true ∧
      (since = tick.now ∨ s.autoStartConditionSince = some since) := by
  rcases decisionFromInputs_cases s tick batterySoc with
    ⟨pvPower, gridPower, surplus, grid, _, _, _, hpv, hgrid, haverage, hdecision⟩ | ⟨-, hdecision⟩
  · rw [hdecision] at h
    have hstart := decisionFromAverages_start h
    exact ⟨pvPower, gridPower, surplus, grid, hpv, hgrid, haverage, hstart⟩
  · rw [hdecision, handleMissingInputs_start] at h
    exact absurd h (by simp)

theorem decisionFromInputs_on (hrelay : tick.relayOn = false)
    (h : (s.decisionFromInputs tick batterySoc).2 = true) :
    ∃ since, s.autoStartConditionSince = some since ∧
      s.autoStartDelaySeconds ≤ tick.now - since ∧
      (s.decisionFromInputs tick batterySoc).1.autoStartConditionSince = some since := by
  rcases decisionFromInputs_cases s tick batterySoc with
    ⟨_, _, _, _, _, _, _, -, -, -, hdecision⟩ | ⟨-, hdecision⟩
  · rw [hdecision] at h ⊢
    exact decisionFromAverages_on hrelay h
  · rw [hdecision] at h
    exact absurd h (by simp [handleMissingInputs, hrelay, idleResultWithHealth])

/-- Where the grid recovery stands when the gate lets a tick pass: it is over, or the relay is on and
the recovery goes on. -/
def RecoveryPassed (s : AutoService) (tick : AutoTick) (since : Option ℚ) (required : Bool) : Prop :=
  required = false ∧ AutoMoment.GridRecovered ⟨s, tick⟩ ∨
    required = true ∧ s.gridRecoveryRequired = true ∧ tick.relayOn = true ∧
      (since = s.gridRecoverySince ∨ s.gridRecoverySince = none ∧ since = some tick.now)

/-- The service at another point of the grid recovery. -/
def withRecovery (s : AutoService) (since : Option ℚ) (required : Bool) : AutoService :=
  { s with
    gridRecoverySince := since
    gridRecoveryRequired := required }

theorem withRecovery_eq_self {since : Option ℚ} {required : Bool}
    (hsince : s.gridRecoverySince = since) (hrequired : s.gridRecoveryRequired = required) :
    s.withRecovery since required = s := by
  subst hsince hrequired
  rfl

theorem gridRecoveryWaitDecision_cases (s : AutoService) (tick : AutoTick) :
    tick.relayOn = true ∧ s.gridRecoveryWaitDecision tick = (s, none) ∨
      tick.relayOn = false ∧ s.gridRecoveryWaitDecision tick =
        ((s.clearAutoStartTracking false).setHealth .waitingGridRecovery, some false) := by
  unfold gridRecoveryWaitDecision
  cases tick.relayOn with
  | true => exact .inl ⟨rfl, rfl⟩
  | false => exact .inr ⟨rfl, rfl⟩

theorem handleGridRecoveryStartGate_cases (s : AutoService) (tick : AutoTick) :
    (∃ since required, s.RecoveryPassed tick since required ∧
      s.handleGridRecoveryStartGate tick = (s.withRecovery since required, none)) ∨
    ∃ since, s.gridRecoveryRequired = true ∧ tick.relayOn = false ∧
      ¬ AutoMoment.GridRecovered ⟨s, tick⟩ ∧
      (s.gridRecoverySince = some since ∨ s.gridRecoverySince = none ∧ since = tick.now) ∧
      s.handleGridRecoveryStartGate tick =
        (((s.withRecovery (some since) true).clearAutoStartTracking false).setHealth
          .waitingGridRecovery, some false) := by
  cases hrequired : s.gridRecoveryRequired with
  | false =>
    refine .inl ⟨s.gridRecoverySince, false, .inl ⟨rfl, fun h => ?_⟩, ?_⟩
    · exact absurd (hrequired.symm.trans h) (by simp)
    · rw [withRecovery_eq_self rfl hrequired]
      simp [handleGridRecoveryStartGate, hrequired]
  | true =>
    by_cases hseconds : s.autoPolicy.gridRecoveryStartSeconds ≤ 0
    · refine .inl ⟨some tick.now, false, .inl ⟨rfl, fun _ => .inl hseconds⟩, ?_⟩
      simp [handleGridRecoveryStartGate, hrequired, hseconds, withRecovery]
    · cases hsince : s.gridRecoverySince with
      | none =>
        have hgate : s.handleGridRecoveryStartGate tick =
            (s.withRecovery (some tick.now) true).gridRecoveryWaitDecision tick := by
          simp [handleGridRecoveryStartGate, hrequired, hseconds, hsince, withRecovery]
        rw [hgate]
        rcases gridRecoveryWaitDecision_cases (s.withRecovery (some tick.now) true) tick with
          ⟨hrelay, hwait⟩ | ⟨hrelay, hwait⟩
        · exact .inl ⟨some tick.now, true,
            .inr ⟨rfl, hrequired, hrelay, .inr ⟨hsince, rfl⟩⟩, hwait⟩
        · refine .inr ⟨tick.now, rfl, hrelay, fun hrecovered => ?_, .inr ⟨rfl, rfl⟩, hwait⟩
          rcases hrecovered hrequired with hnone | ⟨since, hsome, -⟩
          · exact hseconds hnone
          · exact absurd (hsince.symm.trans hsome) (by simp)
      | some since =>
        by_cases hover : tick.now - since < s.autoPolicy.gridRecoveryStartSeconds
        · have hgate : s.handleGridRecoveryStartGate tick =
              (s.withRecovery (some since) true).gridRecoveryWaitDecision tick := by
            rw [withRecovery_eq_self hsince hrequired]
            simp [handleGridRecoveryStartGate, hrequired, hseconds, hsince, hover]
          rw [hgate]
          rcases gridRecoveryWaitDecision_cases (s.withRecovery (some since) true) tick with
            ⟨hrelay, hwait⟩ | ⟨hrelay, hwait⟩
          · exact .inl ⟨some since, true,
              .inr ⟨rfl, hrequired, hrelay, .inl hsince.symm⟩, hwait⟩
          · refine .inr ⟨since, rfl, hrelay, fun hrecovered => ?_, .inl rfl, hwait⟩
            rcases hrecovered hrequired with hnone | ⟨begun, hsome, hpassed⟩
            · exact hseconds hnone
            · obtain rfl := Option.some.inj (hsince.symm.trans hsome)
              exact absurd hover (not_lt.mpr hpassed)
        · refine .inl ⟨some since, false,
            .inl ⟨rfl, fun _ => .inr ⟨since, hsince, not_lt.mp hover⟩⟩, ?_⟩
          simp [handleGridRecoveryStartGate, hrequired, hseconds, hsince, hover, withRecovery]

/-- The exits of `auto_decide_relay`. The service is `s'` once mode and cutover have been checked. -/
inductive AutoExit (s : AutoService) (tick : AutoTick) : AutoService × Bool → Prop where
  | mode {s' : AutoService} {decision : Bool}
      (hmode : s.preAverageModeDecision tick = (s', some decision)) : AutoExit s tick (s', decision)
  | gridMissing {s' : AutoService} (hchecked : s.preAverageModeDecision tick = (s', none))
      (hnight : s.scheduledNightChargeActive tick = false)
      (hstale : s.gridRecentlyRead tick = false) : AutoExit s tick (s'.handleGridMissing tick)
  | waitingRecovery {s' : AutoService} {since : ℚ}
      (hchecked : s.preAverageModeDecision tick = (s', none))
      (hnight : s.scheduledNightChargeActive tick = false)
      (hfresh : s.gridRecentlyRead tick = true) (hrequired : s.gridRecoveryRequired = true)
      (hrelay : tick.relayOn = false) (hwaiting : ¬ AutoMoment.GridRecovered ⟨s, tick⟩)
      (hsince : s.gridRecoverySince = some since ∨ s.gridRecoverySince = none ∧ since = tick.now) :
      AutoExit s tick
        (((s'.withRecovery (some since) true).clearAutoStartTracking false).setHealth
          .waitingGridRecovery, false)
  | night {s' : AutoService} (hchecked : s.preAverageModeDecision tick = (s', none))
      (hnight : s.scheduledNightChargeActive tick = true) :
      AutoExit s tick (s'.scheduledNightDecision tick)
  | socMissing {s' : AutoService} {since : Option ℚ} {required : Bool}
      (hchecked : s.preAverageModeDecision tick = (s', none))
      (hnight : s.scheduledNightChargeActive tick = false)
      (hfresh : s.gridRecentlyRead tick = true) (hrecovery : s.RecoveryPassed tick since required) :
      AutoExit s tick
        ((s'.withRecovery since required).resetAutoState.setHealth .batterySocMissing, tick.relayOn)
  | inputs {s' : AutoService} {since : Option ℚ} {required : Bool} {batterySoc : ℚ}
      {reason : Option HealthReason} (hchecked : s.preAverageModeDecision tick = (s', none))
      (hnight : s.scheduledNightChargeActive tick = false)
      (hfresh : s.gridRecentlyRead tick = true) (hrecovery : s.RecoveryPassed tick since required)
      (hsoc : AutoMoment.SocAvailable ⟨s, tick⟩ batterySoc) :
      AutoExit s tick
        ({ s'.withRecovery since required with
            lastHealthReason := reason }.decisionFromInputs tick batterySoc)

/-- What mode and cutover checks leave alone. -/
theorem checked_frame (h : s.preAverageModeDecision tick = (s', none)) :
    ∃ start stopSince stopReason samples surplus grid pending bypass, s' = { s with
      autoStartConditionSince := start
      autoStopConditionSince := stopSince
      autoStopConditionReason := stopReason
      autoSamples := samples
      stopSmoothedSurplusPower := surplus
      stopSmoothedGridPower := grid
      autoModeCutoverPending := pending
      ignoreMinOfftimeOnce := bypass } := by
  obtain ⟨-, -, ⟨-, rfl⟩ | ⟨-, -, rfl⟩⟩ := preAverageModeDecision_passed h
  · exact ⟨_, _, _, _, _, _, _, _, rfl⟩
  · exact ⟨_, _, _, _, _, _, _, _, rfl⟩

/-- What the later gates read is as the tick found it. -/
theorem checked_reads (h : s.preAverageModeDecision tick = (s', none)) :
    s'.scheduledNightChargeActive tick = s.scheduledNightChargeActive tick ∧
      s'.gridRecentlyRead tick = s.gridRecentlyRead tick ∧
      s'.gridRecoveryRequired = s.gridRecoveryRequired ∧
      (∀ since required, s'.RecoveryPassed tick since required =
        s.RecoveryPassed tick since required) ∧
      AutoMoment.GridRecovered ⟨s', tick⟩ = AutoMoment.GridRecovered ⟨s, tick⟩ ∧
      s'.gridRecoverySince = s.gridRecoverySince := by
  obtain ⟨_, _, _, _, _, _, _, _, rfl⟩ := checked_frame h
  exact ⟨rfl, rfl, rfl, fun _ _ => rfl, rfl, rfl⟩

theorem autoDecideRelay_exit (s : AutoService) (tick : AutoTick) :
    AutoExit s tick (s.autoDecideRelay tick) := by
  unfold autoDecideRelay
  cases hmode : s.preAverageModeDecision tick with
  | mk s' decision =>
  cases decision with
  | some decision => exact .mode hmode
  | none =>
  obtain ⟨hnightEq, hfreshEq, hrequiredEq, hpassedEq, hrecoveredEq, hsinceEq⟩ := checked_reads hmode
  dsimp only
  cases hnight : s.scheduledNightChargeActive tick with
  | true =>
    rw [hnight] at hnightEq
    simp only [preAverageInputGateDecision, hnightEq, if_true]
    exact .night hmode hnight
  | false =>
    rw [hnight] at hnightEq
    cases hfresh : s.gridRecentlyRead tick with
    | false =>
      rw [hfresh] at hfreshEq
      simp only [preAverageInputGateDecision, hnightEq, hfreshEq, Bool.not_false,
        Bool.false_eq_true, if_false, if_true]
      exact .gridMissing hmode hnight hfresh
    | true =>
      rw [hfresh] at hfreshEq
      have hgate : s'.preAverageInputGateDecision tick = s'.handleGridRecoveryStartGate tick := by
        simp [preAverageInputGateDecision, hnightEq, hfreshEq]
      rw [hgate]
      rcases handleGridRecoveryStartGate_cases s' tick with
        ⟨since, required, hpassed, hgate⟩ | ⟨since, hrequired, hrelay, hwaiting, hsince, hgate⟩
      · rw [hpassedEq] at hpassed
        have hstill : (s'.withRecovery since required).scheduledNightChargeActive tick = false :=
          hnightEq
        simp only [hgate, hstill, Bool.false_eq_true, if_false]
        cases hsoc : (s'.withRecovery since required).resolveBatterySoc tick with
        | mk s₃ resolved =>
        cases resolved with
        | error decision =>
          obtain ⟨rfl, rfl⟩ := resolveBatterySoc_error hsoc
          exact .socMissing hmode hnight hfresh hpassed
        | ok batterySoc =>
          obtain ⟨havailable, reason, rfl⟩ := resolveBatterySoc_ok hsoc
          refine .inputs hmode hnight hfresh hpassed ?_
          obtain ⟨_, _, _, _, _, _, _, _, rfl⟩ := checked_frame hmode
          exact havailable
      · rw [hgate]
        rw [hrequiredEq] at hrequired
        rw [hrecoveredEq] at hwaiting
        rw [hsinceEq] at hsince
        exact .waitingRecovery hmode hnight hfresh hrequired hrelay hwaiting hsince

end AutoService

/-! ## Runs of given ticks -/

/-- The history and the service after the ticks, when nothing else happens between them. -/
def runTicks (history : List AutoMoment) (s : AutoService) : List AutoTick →
    List AutoMoment × AutoService
  | [] => (history, s)
  | tick :: ticks => runTicks (⟨s, tick⟩ :: history) (s.autoDecideRelay tick).1 ticks

theorem AutoService.Between.refl (s : AutoService) : s.Between s :=
  ⟨.inr rfl, .inr ⟨rfl, rfl⟩, rfl, rfl⟩

theorem autoRun_runTicks {history : List AutoMoment} {s : AutoService} (run : AutoRun history s)
    (ticks : List AutoTick) (hordered : ticks.Pairwise (·.now ≤ ·.now))
    (hlater : ∀ m ∈ history.head?, ∀ tick ∈ ticks, m.tick.now ≤ tick.now) :
    AutoRun (runTicks history s ticks).1 (runTicks history s ticks).2 := by
  induction ticks generalizing history s with
  | nil => exact run
  | cons tick ticks ih =>
    obtain ⟨hfirst, hrest⟩ := List.pairwise_cons.mp hordered
    refine ih (.tick run (.refl s) fun m hm => hlater m hm tick List.mem_cons_self) hrest ?_
    intro m hm other hother
    obtain rfl := Option.some.inj hm
    exact hfirst other hother

/-- A service in Auto mode after its start, with short delays. -/
def idleAutoService : AutoService where
  virtualMode := 1
  virtualEnable := true
  virtualAutostart := true
  autoModeCutoverPending := false
  ignoreMinOfftimeOnce := false
  autoStartConditionSince := none
  autoStopConditionSince := none
  autoStopConditionReason := none
  gridRecoveryRequired := false
  gridRecoverySince := none
  autoSamples := []
  stopSmoothedSurplusPower := none
  stopSmoothedGridPower := none
  lastHealthReason := none
  lastGridAt := none
  relayLastChangedAt := none
  relayLastOffAt := none
  startedAt := 0
  manualOverrideUntil := 0
  confirmed := ⟨none, none, none, none⟩
  pendingRelayCommand := none
  relaySyncRequestedAt := none
  autoPolicy := ⟨30, 33, 50, 300, 10, 10⟩
  autoAllowWithoutBatterySoc := true
  autoNightLockStop := false
  autoGridMissingStopSeconds := 60
  autoMinRuntimeSeconds := 0
  autoMinOfftimeSeconds := 0
  autoStartDelaySeconds := 10
  autoStopDelaySeconds := 10
  autoStartupWarmupSeconds := 0
  autoAverageWindowSeconds := 30

theorem idleAutoService_started : idleAutoService.Started := ⟨rfl, rfl, rfl⟩

/-- A tick with a sunny surplus. -/
def sunnyTick (now : ℚ) (relayOn : Bool) (batterySoc gridPower : Option ℚ) : AutoTick where
  now
  cutoverNow := now
  relayOn
  pvPower := some 5000
  batterySoc
  gridPower
  daytimeWindowOpen := true
  nightBoostActive := false
  stopAlpha := 1
  batteryAdjustedSurplus surplus := surplus
  surplusThresholds _ := (1500, 1100)

end VenusEvcharger
