import VenusEvcharger.Auto.DecisionExits
import VenusEvcharger.Library.HeldSince

/-!
# Start discipline of the Auto decision

Every exit of `auto_decide_relay` clears the start timer unless all start gates held at the tick, so
an armed timer says that they have held since it was armed. A grid reading that Auto finds stale
closes the grid recovery, and no start gets through until the recovery time has passed.
-/

namespace VenusEvcharger

open Library AutoService

namespace AutoMoment

/-- Every start gate held at the tick. The off-time and the averages are those of the service once the
cutover has been checked, which may have set the bypass and cleared the samples. -/
structure StartGatesHeld (m : AutoMoment) : Prop extends AutoEvaluated m where
  relayOff : m.tick.relayOn = false
  autostart : m.service.virtualAutostart = true
  warm : m.service.autoStartupWarmupSeconds ≤ m.tick.now - m.service.startedAt
  notOverridden : m.service.manualOverrideUntil ≤ m.tick.now
  gridFresh : m.service.gridRecentlyRead m.tick = true
  gridRecovered : m.GridRecovered
  offtime : m.checked.minimumOfftimeElapsed m.tick.now = true
  daytime : m.tick.daytimeWindowOpen = true
  thresholds : ∃ pvPower gridPower batterySoc surplus grid,
    m.tick.pvPower = some pvPower ∧ m.tick.gridPower = some gridPower ∧
    m.SocAvailable batterySoc ∧
    (m.checked.updateAverageMetrics m.tick pvPower gridPower).2 = some (surplus, grid) ∧
    (m.tick.surplusThresholds batterySoc).1 ≤ surplus ∧
    grid ≤ m.service.autoPolicy.startMaxGridImportWatts ∧
    m.service.autoPolicy.resumeSoc ≤ batterySoc

/-- The tick starts charging in Auto mode, outside the scheduled-night window. -/
structure Starts (m : AutoMoment) : Prop where
  relayOff : m.tick.relayOn = false
  autoMode : m.service.modeUsesAutoLogic = true
  notNight : m.service.scheduledNightChargeActive m.tick = false
  on : (m.service.autoDecideRelay m.tick).2 = true

/-- Auto judged the grid reading of the tick and found it stale. -/
structure GridStale (m : AutoMoment) : Prop extends AutoEvaluated m where
  stale : m.service.gridRecentlyRead m.tick = false

end AutoMoment

namespace AutoService

/-! ## The start timer -/

theorem handleGridMissing_frame (s : AutoService) (tick : AutoTick) :
    (s.handleGridMissing tick).1.autoStartConditionSince = none ∧
      (s.handleGridMissing tick).1.gridRecoveryRequired = true ∧
      (s.handleGridMissing tick).1.gridRecoverySince = none := by
  unfold handleGridMissing
  dsimp only
  split
  · exact ⟨rfl, rfl, rfl⟩
  · split
    · exact ⟨rfl, rfl, rfl⟩
    · exact pendingStopOrRunning_frame _ _ _ _ _ _

theorem scheduledNightDecision_frame (s : AutoService) (tick : AutoTick) :
    (s.scheduledNightDecision tick).1.autoStartConditionSince = none ∧
      (s.scheduledNightDecision tick).1.gridRecoveryRequired = s.gridRecoveryRequired ∧
      (s.scheduledNightDecision tick).1.gridRecoverySince = s.gridRecoverySince := by
  unfold scheduledNightDecision
  rcases handleCommonRuntimeGates_cases s tick with ⟨reason, hgate⟩ | ⟨-, -, hgate⟩
  · rw [hgate]
    exact ⟨rfl, rfl, rfl⟩
  · simp only [hgate]
    split
    · exact ⟨rfl, rfl, rfl⟩
    · split <;> exact ⟨rfl, rfl, rfl⟩

variable {s : AutoService} {tick : AutoTick}

/-- After a tick the start timer is armed only when every start gate held at it; the timer is armed
now or was armed before. -/
theorem autoDecideRelay_start {since : ℚ}
    (h : (s.autoDecideRelay tick).1.autoStartConditionSince = some since) :
    AutoMoment.StartGatesHeld ⟨s, tick⟩ ∧
      (since = tick.now ∨ s.autoStartConditionSince = some since) := by
  have hexit := autoDecideRelay_exit s tick
  generalize s.autoDecideRelay tick = result at h hexit
  cases hexit with
  | mode hmode =>
    rw [(preAverageModeDecision_decided hmode).1] at h
    exact absurd h (by simp)
  | gridMissing =>
    rw [(handleGridMissing_frame _ tick).1] at h
    exact absurd h (by simp)
  | waitingRecovery => exact absurd h (by simp [setHealth, clearAutoStartTracking])
  | night =>
    rw [(scheduledNightDecision_frame _ tick).1] at h
    exact absurd h (by simp)
  | socMissing => exact absurd h (by simp [setHealth, resetAutoState, clearAutoSamples])
  | inputs hchecked hnight hfresh hrecovery hsoc =>
    rename_i s' recoverySince required batterySoc reason
    obtain ⟨pvPower, gridPower, surplus, grid, hpv, hgrid, haverage, hrelay, hwarm, hoverride,
      hautostart, hmet, harmed⟩ := decisionFromInputs_start h
    obtain ⟨hoff, hday, hsurplus, hmax, hresume⟩ := relayOffStartConditionsMet_iff.mp hmet
    obtain ⟨hauto, henabled, hcutover⟩ := preAverageModeDecision_passed hchecked
    -- A relay that is off passes the recovery gate only when the recovery is over.
    have hrecovered : AutoMoment.GridRecovered ⟨s, tick⟩ := by
      rcases hrecovery with ⟨-, hrecovered⟩ | ⟨-, -, hon, -⟩
      · exact hrecovered
      · rw [hrelay] at hon
        exact absurd hon (by simp)
    have hchecked' : AutoMoment.checked ⟨s, tick⟩ = s' := congrArg Prod.fst hchecked
    obtain ⟨_, _, _, _, _, _, _, _, rfl⟩ := checked_frame hchecked
    refine ⟨⟨⟨hauto, henabled, fun hpending => ?_, hnight⟩, hrelay, hautostart, hwarm, hoverride,
      hfresh, hrecovered, ?_, hday, pvPower, gridPower, batterySoc, surplus, grid, hpv, hgrid, hsoc,
      ?_, hsurplus, hmax, hresume⟩, ?_⟩
    · rcases hcutover with ⟨hnone, -⟩ | ⟨-, hconfirmed, -⟩
      · exact absurd (hnone.symm.trans hpending) (by simp)
      · exact hconfirmed
    · rw [hchecked']
      exact hoff
    · rw [hchecked', ← haverage]
      refine updateAverageMetrics_congr ?_ ?_ ?_ ?_ _ _ _ <;> rfl
    · rcases harmed with harmed | harmed
      · exact .inl harmed
      · rcases hcutover with ⟨-, hsame⟩ | ⟨-, -, hreset⟩
        · exact .inr ((congrArg autoStartConditionSince hsame).symm.trans harmed)
        · exact absurd ((congrArg autoStartConditionSince hreset).symm.trans harmed)
            (by simp [completeModeCutover, resetAutoState, clearAutoSamples])

/-- A start outside the night window fires for a timer that was armed before, by the start delay at
least, and keeps it. -/
theorem autoDecideRelay_starts (h : AutoMoment.Starts ⟨s, tick⟩) :
    ∃ since, s.autoStartConditionSince = some since ∧
      s.autoStartDelaySeconds ≤ tick.now - since ∧
      (s.autoDecideRelay tick).1.autoStartConditionSince = some since := by
  have hrelay : tick.relayOn = false := h.relayOff
  have hauto : s.modeUsesAutoLogic = true := h.autoMode
  have hnight : s.scheduledNightChargeActive tick = false := h.notNight
  have hon : (s.autoDecideRelay tick).2 = true := h.on
  have hexit := autoDecideRelay_exit s tick
  generalize s.autoDecideRelay tick = result at hon hexit ⊢
  cases hexit with
  | mode hmode =>
    rcases (preAverageModeDecision_decided hmode).2.2.2.2 with hmanual | ⟨hoff, -⟩
    · exact absurd (hmanual.symm.trans hauto) (by simp)
    · exact absurd (hoff.symm.trans hon) (by simp)
  | gridMissing =>
    exact absurd hon (by simp [handleGridMissing, hrelay, idleResultWithHealth])
  | waitingRecovery => exact absurd hon (by simp)
  | night _ hactive => exact absurd (hactive.symm.trans hnight) (by simp)
  | socMissing => exact absurd (hrelay.symm.trans hon) (by simp)
  | inputs hchecked hnight hfresh hrecovery hsoc =>
    obtain ⟨since, hsince, hdelay, hkept⟩ := decisionFromInputs_on hrelay hon
    refine ⟨since, ?_, ?_, hkept⟩
    · obtain ⟨-, -, ⟨-, rfl⟩ | ⟨-, -, rfl⟩⟩ := preAverageModeDecision_passed hchecked
      · exact hsince
      · exact absurd hsince (by simp [withRecovery, completeModeCutover, resetAutoState,
          clearAutoSamples])
    · obtain ⟨_, _, _, _, _, _, _, _, rfl⟩ := checked_frame hchecked
      exact hdelay

/-! ## The grid recovery -/

theorem handleMissingInputs_recovery (s : AutoService) (tick : AutoTick) (batterySoc : ℚ) :
    (s.handleMissingInputs tick batterySoc).1.gridRecoveryRequired = s.gridRecoveryRequired ∧
      (s.handleMissingInputs tick batterySoc).1.gridRecoverySince = s.gridRecoverySince := by
  unfold handleMissingInputs
  dsimp only
  split
  · exact ⟨rfl, rfl⟩
  · split
    · split
      · exact ⟨rfl, rfl⟩
      · exact (pendingStopOrRunning_frame _ _ _ _ _ _).2
    · exact ⟨rfl, rfl⟩

theorem handleRelayOn_recovery (s : AutoService) (tick : AutoTick) (surplus grid batterySoc : ℚ) :
    (s.handleRelayOn tick surplus grid batterySoc).1.gridRecoveryRequired =
        s.gridRecoveryRequired ∧
      (s.handleRelayOn tick surplus grid batterySoc).1.gridRecoverySince = s.gridRecoverySince := by
  unfold handleRelayOn
  dsimp only
  split
  · exact ⟨rfl, rfl⟩
  · exact (pendingStopOrRunning_frame _ _ _ _ _ _).2

theorem handleRelayOff_recovery (s : AutoService) (tick : AutoTick) (surplus grid batterySoc : ℚ) :
    (s.handleRelayOff tick surplus grid batterySoc).1.gridRecoveryRequired =
        s.gridRecoveryRequired ∧
      (s.handleRelayOff tick surplus grid batterySoc).1.gridRecoverySince = s.gridRecoverySince := by
  unfold handleRelayOff armOrFireStart
  dsimp only
  split
  · exact ⟨rfl, rfl⟩
  · split
    · split
      · exact ⟨rfl, rfl⟩
      · split <;> exact ⟨rfl, rfl⟩
    · exact ⟨rfl, rfl⟩

theorem decisionFromInputs_recovery (s : AutoService) (tick : AutoTick) (batterySoc : ℚ) :
    (s.decisionFromInputs tick batterySoc).1.gridRecoveryRequired = s.gridRecoveryRequired ∧
      (s.decisionFromInputs tick batterySoc).1.gridRecoverySince = s.gridRecoverySince := by
  rcases decisionFromInputs_cases s tick batterySoc with
    ⟨_, _, surplus, grid, _, _, _, -, -, -, hdecision⟩ | ⟨-, hdecision⟩
  · rw [hdecision]
    unfold decisionFromAverages
    split
    · rename_i hgate
      rcases handleCommonRuntimeGates_cases _ tick with ⟨reason, hreset⟩ | ⟨-, -, hpass⟩
      · obtain ⟨rfl, -⟩ := Prod.mk.inj (hgate.symm.trans hreset)
        exact ⟨rfl, rfl⟩
      · exact absurd (congrArg Prod.snd (hgate.symm.trans hpass)) (by simp)
    · rename_i hgate
      rcases handleCommonRuntimeGates_cases _ tick with ⟨reason, hreset⟩ | ⟨-, -, hpass⟩
      · exact absurd (congrArg Prod.snd (hgate.symm.trans hreset)) (by simp)
      · obtain ⟨rfl, -⟩ := Prod.mk.inj (hgate.symm.trans hpass)
        split
        · exact handleRelayOn_recovery _ tick surplus grid batterySoc
        · exact handleRelayOff_recovery _ tick surplus grid batterySoc
  · rw [hdecision]
    exact handleMissingInputs_recovery s tick batterySoc

/-- The recovery is required and has not begun before `time`. -/
def RecoveryClosed (s : AutoService) (time : ℚ) : Prop :=
  s.gridRecoveryRequired = true ∧ ∀ since, s.gridRecoverySince = some since → time ≤ since

theorem autoDecideRelay_stale (h : AutoMoment.GridStale ⟨s, tick⟩) :
    (s.autoDecideRelay tick).1.RecoveryClosed tick.now := by
  have hexit := autoDecideRelay_exit s tick
  generalize s.autoDecideRelay tick = result at hexit ⊢
  have hstale : s.gridRecentlyRead tick = false := h.stale
  have hnight : s.scheduledNightChargeActive tick = false := h.notNight
  cases hexit with
  | mode hmode =>
    rcases (preAverageModeDecision_decided hmode).2.2.2.2 with
      hmanual | ⟨-, hdisabled | ⟨hpending, hunconfirmed⟩⟩
    · exact absurd (hmanual.symm.trans h.autoMode) (by simp)
    · exact absurd (hdisabled.symm.trans h.enabled) (by simp)
    · exact absurd (hunconfirmed.symm.trans (h.cutover hpending)) (by simp)
  | gridMissing =>
    obtain ⟨-, hrequired, hsince⟩ := handleGridMissing_frame _ tick
    refine ⟨hrequired, fun since hsome => ?_⟩
    rw [hsince] at hsome
    exact absurd hsome (by simp)
  | night _ hactive => exact absurd (hactive.symm.trans hnight) (by simp)
  | waitingRecovery _ _ hfresh => exact absurd (hfresh.symm.trans hstale) (by simp)
  | socMissing _ _ hfresh => exact absurd (hfresh.symm.trans hstale) (by simp)
  | inputs _ _ hfresh => exact absurd (hfresh.symm.trans hstale) (by simp)

/-- An open recovery gate after a closed recovery means that the recovery time has passed. -/
theorem RecoveryClosed.elapsed {time seconds : ℚ} (h : s.RecoveryClosed time)
    (hnow : time ≤ tick.now) (hseconds : seconds ≤ s.autoPolicy.gridRecoveryStartSeconds)
    (hrecovered : AutoMoment.GridRecovered ⟨s, tick⟩) : time + seconds ≤ tick.now := by
  rcases hrecovered h.1 with hnone | ⟨since, hsince, hover⟩
  · have hnone' : s.autoPolicy.gridRecoveryStartSeconds ≤ 0 := hnone
    linarith
  · have hbegun := h.2 since hsince
    have hover' : s.autoPolicy.gridRecoveryStartSeconds ≤ tick.now - since := hover
    linarith

theorem autoDecideRelay_recovery {time seconds : ℚ} (h : s.RecoveryClosed time)
    (hnow : time ≤ tick.now) (hseconds : seconds ≤ s.autoPolicy.gridRecoveryStartSeconds) :
    (s.autoDecideRelay tick).1.RecoveryClosed time ∨ time + seconds ≤ tick.now := by
  have hexit := autoDecideRelay_exit s tick
  generalize s.autoDecideRelay tick = result at hexit ⊢
  have hpassed : ∀ since required, s.RecoveryPassed tick since required →
      required = true ∧ (∀ begun, since = some begun → time ≤ begun) ∨ time + seconds ≤ tick.now := by
    rintro since required (⟨-, hrecovered⟩ | ⟨hrequired, -, -, hsince⟩)
    · exact .inr (h.elapsed hnow hseconds hrecovered)
    · refine .inl ⟨hrequired, fun begun hbegun => ?_⟩
      rcases hsince with hsame | ⟨-, hnow'⟩
      · exact h.2 begun (hsame.symm.trans hbegun)
      · rwa [← Option.some.inj (hnow'.symm.trans hbegun)]
  cases hexit with
  | mode hmode =>
    obtain ⟨-, -, hrequired, hsince, -⟩ := preAverageModeDecision_decided hmode
    exact .inl ⟨hrequired.trans h.1, fun since hsome => h.2 since (hsince.symm.trans hsome)⟩
  | gridMissing =>
    obtain ⟨-, hrequired, hsince⟩ := handleGridMissing_frame _ tick
    refine .inl ⟨hrequired, fun since hsome => ?_⟩
    rw [hsince] at hsome
    exact absurd hsome (by simp)
  | waitingRecovery _ _ _ _ _ _ hsince =>
    refine .inl ⟨rfl, fun begun hbegun => ?_⟩
    obtain rfl := Option.some.inj hbegun
    rcases hsince with hsame | ⟨-, hnow'⟩
    · exact h.2 _ hsame
    · rwa [hnow']
  | night hchecked _ =>
    obtain ⟨-, -, hrequired, -, -, hsince⟩ := checked_reads hchecked
    obtain ⟨-, hkept, hkeptSince⟩ := scheduledNightDecision_frame _ tick
    exact .inl ⟨hkept.trans (hrequired.trans h.1), fun since hsome =>
      h.2 since (hsince.symm.trans (hkeptSince.symm.trans hsome))⟩
  | socMissing _ _ _ hrecovery => exact (hpassed _ _ hrecovery).imp_left fun hclosed => hclosed
  | inputs _ _ _ hrecovery _ =>
    obtain ⟨hkept, hkeptSince⟩ := decisionFromInputs_recovery _ tick _
    refine (hpassed _ _ hrecovery).imp_left fun hclosed => ⟨hkept.trans hclosed.1, ?_⟩
    exact fun begun hbegun => hclosed.2 begun (hkeptSince.symm.trans hbegun)

end AutoService

namespace AutoRun

/-! ## Runs -/

/-- An armed start timer says that every start gate has held since it was armed. -/
theorem start_held {history : List AutoMoment} {s : AutoService} (run : AutoRun history s) {since : ℚ}
    (h : s.autoStartConditionSince = some since) :
    HeldSince AutoMoment.StartGatesHeld (·.tick.now) since history := by
  induction run generalizing since with
  | started hstarted =>
    rw [hstarted.start] at h
    exact absurd h (by simp)
  | tick run between ordered ih =>
    obtain ⟨hgates, rfl | hbefore⟩ := autoDecideRelay_start h
    · exact heldSince_arm hgates _
    · rcases between.start with hcleared | hsame
      · exact absurd (hcleared.symm.trans hbefore) (by simp)
      · exact (ih (hsame.symm.trans hbefore)).extend hgates

/-- Since a stale grid reading, the recovery is closed or its time has passed. -/
theorem recovery_held {recent older : List AutoMoment} {stale : AutoMoment} {s : AutoService}
    (run : AutoRun (recent ++ stale :: older) s) (hstale : stale.GridStale) {seconds : ℚ}
    (hseconds : ∀ m ∈ recent, seconds ≤ m.service.autoPolicy.gridRecoveryStartSeconds) :
    ∃ newest, (recent ++ stale :: older).head? = some newest ∧
      stale.tick.now ≤ newest.tick.now ∧
      (s.RecoveryClosed stale.tick.now ∨ stale.tick.now + seconds ≤ newest.tick.now) := by
  induction recent generalizing s with
  | nil =>
    cases run with
    | tick run between ordered =>
      exact ⟨_, rfl, le_refl _, .inl (autoDecideRelay_stale hstale)⟩
  | cons newest recent ih =>
    cases run with
    | tick run between ordered =>
      rename_i before found tick
      obtain ⟨last, hlast, hafter, hclosed⟩ :=
        ih run fun m hm => hseconds m (List.mem_cons_of_mem _ hm)
      have hnow : last.tick.now ≤ tick.now := ordered last hlast
      refine ⟨⟨found, tick⟩, rfl, le_trans hafter hnow, ?_⟩
      rcases hclosed with hclosed | hpassed
      · have hfound : found.RecoveryClosed stale.tick.now := by
          rw [AutoService.RecoveryClosed, between.recoveryRequired, between.recoverySince]
          exact hclosed
        exact autoDecideRelay_recovery hfound (le_trans hafter hnow)
          (hseconds _ List.mem_cons_self)
      · exact .inr (le_trans hpassed hnow)

/-- A start outside the scheduled-night window has had every start gate open since a tick that lies
the start delay back, and it does not come within the recovery time of a grid reading that Auto found
stale. -/
theorem auto_start_discipline {history : List AutoMoment} {moment : AutoMoment} {s : AutoService}
    (run : AutoRun (moment :: history) s) (hstarts : moment.Starts) :
    (∃ since, HeldSince AutoMoment.StartGatesHeld (·.tick.now) since history ∧
      moment.StartGatesHeld ∧
      moment.service.autoStartDelaySeconds ≤ moment.tick.now - since) ∧
    ∀ recent stale older seconds, history = recent ++ stale :: older → stale.GridStale →
      (∀ m ∈ moment :: recent, seconds ≤ m.service.autoPolicy.gridRecoveryStartSeconds) →
      stale.tick.now + seconds ≤ moment.tick.now := by
  cases run with
  | tick run between ordered =>
    rename_i before found tick
    obtain ⟨since, hsince, hdelay, hkept⟩ := autoDecideRelay_starts hstarts
    have hgates : AutoMoment.StartGatesHeld ⟨found, tick⟩ := (autoDecideRelay_start hkept).1
    constructor
    · rcases between.start with hcleared | hsame
      · exact absurd (hcleared.symm.trans hsince) (by simp)
      · exact ⟨since, run.start_held (hsame.symm.trans hsince), hgates, hdelay⟩
    · rintro recent stale older seconds rfl hstale hseconds
      obtain ⟨last, hlast, hafter, hclosed⟩ :=
        run.recovery_held hstale fun m hm => hseconds m (List.mem_cons_of_mem _ hm)
      have hnow : last.tick.now ≤ tick.now := ordered last hlast
      rcases hclosed with hclosed | hpassed
      · have hfound : found.RecoveryClosed stale.tick.now := by
          rw [AutoService.RecoveryClosed, between.recoveryRequired, between.recoverySince]
          exact hclosed
        exact hfound.elapsed (le_trans hafter hnow) (hseconds _ List.mem_cons_self)
          hgates.gridRecovered
      · exact le_trans hpassed hnow

/-- A start ten seconds after the grid reading came back, and the recovery time after it was lost. -/
theorem auto_start_discipline_after_gap :
    ∃ moment history s, AutoRun (moment :: history) s ∧ moment.Starts ∧
      ∃ since, HeldSince AutoMoment.StartGatesHeld (·.tick.now) since history ∧
        moment.service.autoStartDelaySeconds ≤ moment.tick.now - since := by
  have run := autoRun_runTicks (.started idleAutoService_started)
    [sunnyTick 0 false (some 80) none, sunnyTick 5 false (some 80) (some (-2000)),
      sunnyTick 20 false (some 80) (some (-2000)), sunnyTick 40 false (some 80) (some (-2000))]
    (by decide +kernel) (by simp)
  refine ⟨_, _, _, run, ?starts, ?held⟩
  case starts => constructor <;> decide +kernel
  case held =>
    obtain ⟨⟨since, hheld, -, hdelay⟩, -⟩ :=
      auto_start_discipline run (by constructor <;> decide +kernel)
    exact ⟨since, hheld, hdelay⟩

/-- Two starts. One has no battery SOC at any tick, which the service is configured to allow. The
other comes two seconds after a tick of the scheduled-night window with a stale grid reading, which
the window does not look at. -/
theorem start_without_soc_and_after_night :
    (∃ moment history s, AutoRun (moment :: history) s ∧ moment.Starts ∧
      ∀ m ∈ moment :: history, m.tick.batterySoc = none) ∧
    ∃ moment night history s, AutoRun (moment :: history) s ∧ moment.Starts ∧ night ∈ history ∧
      night.service.modeUsesAutoLogic = true ∧ night.service.virtualEnable = true ∧
      night.service.autoModeCutoverPending = false ∧
      night.service.gridRecentlyRead night.tick = false ∧
      moment.tick.now < night.tick.now + moment.service.autoPolicy.gridRecoveryStartSeconds := by
  constructor
  · have run := autoRun_runTicks (.started idleAutoService_started)
      [sunnyTick 0 false none (some (-2000)), sunnyTick 10 false none (some (-2000))]
      (by decide +kernel) (by simp)
    exact ⟨_, _, _, run, by constructor <;> decide +kernel, by simp [sunnyTick]⟩
  · let scheduled : AutoService := { idleAutoService with
      virtualMode := 2
      autoStartDelaySeconds := 1
      virtualAutostart := true }
    let night : AutoTick := { sunnyTick 0 false (some 80) none with nightBoostActive := true }
    have run := autoRun_runTicks (.started (show scheduled.Started from ⟨rfl, rfl, rfl⟩))
      [night, sunnyTick 1 false (some 80) (some (-2000)),
        sunnyTick 2 false (some 80) (some (-2000))]
      (by decide +kernel) (by simp)
    exact ⟨_, ⟨scheduled, night⟩, _, _, run,
      by constructor <;> decide +kernel, by simp, rfl, rfl, rfl, rfl, by decide +kernel⟩

end AutoRun

end VenusEvcharger
