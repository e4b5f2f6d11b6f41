import VenusEvcharger.Energy.Learning

/-!
# What a learning profile says about its samples

The statistics of a sequence of samples, each counted, averaged or bounded over the whole sequence, and the proof that
the incremental update computes them (`learned_eq`). The delay of a response is the time since the sample before.
-/

namespace VenusEvcharger

open Library

/-! ## Transitions -/

namespace EnergySample

/-- Two neighbouring samples, the earlier one first. -/
abbrev Step := EnergySample × EnergySample

/-- The source was idle and is active. -/
def Step.Activation (step : Step) : Prop := step.1.active = false ∧ step.2.active = true

/-- The battery changed its direction without a pause. -/
def Step.Reversal (step : Step) : Prop :=
  (step.2.direction = .charge ∨ step.2.direction = .discharge) ∧
    (step.1.direction = .charge ∨ step.1.direction = .discharge) ∧ step.1.direction ≠ step.2.direction

instance (step : Step) : Decidable step.Activation := inferInstanceAs (Decidable (_ ∧ _))

instance (step : Step) : Decidable step.Reversal := inferInstanceAs (Decidable (_ ∧ _))

/-- The time since the sample before. -/
def Step.elapsed (step : Step) : ℚ := max 0 (step.2.now - step.1.now)

/-- The delay of a response: of a source that turns active and of a battery that changes its direction. -/
def Step.responseDelay (step : Step) : Option ℚ :=
  if step.Activation ∨ step.Reversal then some step.elapsed else none

/-- The delay that is learned: turning active without delay is left out. -/
def Step.learnedDelay (step : Step) : Option ℚ :=
  if step.Activation ∧ step.elapsed ≠ 0 ∨ step.Reversal then some step.elapsed else none

/-- The difference of a power from the mean of the earlier powers in its direction. -/
def powerDelta (history : List EnergySample × EnergySample) : Option ℚ :=
  let (currentPower, averagePower) :=
    match history.2.direction with
    | .charge => (history.2.source.chargePowerW, mean (history.1.filterMap chargeCandidate))
    | .discharge => (history.2.source.dischargePowerW, mean (history.1.filterMap dischargeCandidate))
    | .idle => (none, none)
  match currentPower, averagePower with
  | some currentPower, some averagePower => some |currentPower - averagePower|
  | _, _ => none

end EnergySample

open EnergySample

/-! ## The statistics of a sequence -/

/-- The delays of all responses of a sequence. -/
def responseDelays (samples : List EnergySample) : List ℚ := (neighbours samples).filterMap Step.responseDelay

/-- The profile that describes a sequence, with the learned delays. -/
def batchProfile (samples : List EnergySample) : EnergyLearningProfile where
  sampleCount := samples.length
  activeSampleCount := samples.countP (·.active)
  chargeSampleCount := samples.countP (·.direction = .charge)
  dischargeSampleCount := samples.countP (·.direction = .discharge)
  importSupportSampleCount := samples.countP fun x => x.gridCounts x.gridImport .discharge
  importChargeSampleCount := samples.countP fun x => x.gridCounts x.gridImport .charge
  exportChargeSampleCount := samples.countP fun x => x.gridCounts x.gridExport .charge
  exportDischargeSampleCount := samples.countP fun x => x.gridCounts x.gridExport .discharge
  exportIdleSampleCount := samples.countP fun x => x.gridCounts x.gridExport .idle
  dayActiveSampleCount := samples.countP (·.activePeriodCounts .day)
  nightActiveSampleCount := samples.countP (·.activePeriodCounts .night)
  dayChargeSampleCount := samples.countP (·.periodCounts .charge .day)
  nightChargeSampleCount := samples.countP (·.periodCounts .charge .night)
  dayDischargeSampleCount := samples.countP (·.periodCounts .discharge .day)
  nightDischargeSampleCount := samples.countP (·.periodCounts .discharge .night)
  responseSampleCount := ((neighbours samples).filterMap Step.learnedDelay).length
  smoothingSampleCount := ((histories [] samples).filterMap powerDelta).length
  observedMaxChargePowerW := (samples.filterMap (·.source.chargePowerW)).max?
  observedMaxDischargePowerW := (samples.filterMap (·.source.dischargePowerW)).max?
  observedMaxAcPowerW := (samples.filterMap observedAc).max?
  observedMaxPvInputPowerW := (samples.filterMap observedPvInput).max?
  observedMaxGridImportW := (samples.filterMap gridImport).max?
  observedMaxGridExportW := (samples.filterMap gridExport).max?
  observedMinDischargeSoc := (samples.filterMap dischargeSoc).min?
  observedMaxChargeSoc := (samples.filterMap chargeSoc).max?
  averageActiveChargePowerW := mean (samples.filterMap chargeCandidate)
  averageActiveDischargePowerW := mean (samples.filterMap dischargeCandidate)
  averageActivePowerDeltaW := mean ((histories [] samples).filterMap powerDelta)
  typicalResponseDelaySeconds := mean ((neighbours samples).filterMap Step.learnedDelay)
  directionChangeCount := (neighbours samples).countP fun step => decide (Step.Reversal step)
  lastDirection := (samples.getLast?.map direction).getD .idle
  lastActive := (samples.getLast?.map active).getD false
  lastActiveAt := (samples.filter (·.active)).getLast?.map now
  lastInactiveAt := (samples.filter (!·.active)).getLast?.map now
  lastChangeAt := samples.getLast?.map now

/-! ## One more sample -/

theorem maxOptional_max? (xs : List ℚ) (candidate : Option ℚ) :
    maxOptional xs.max? candidate = (xs ++ candidate.toList).max? := by
  cases candidate with
  | none => rw [Option.toList_none, List.append_nil, maxOptional]
  | some candidate =>
    rw [Option.toList_some, max?_snoc]
    cases xs.max? <;> rfl

theorem minOptional_min? (xs : List ℚ) (candidate : Option ℚ) :
    minOptional xs.min? candidate = (xs ++ candidate.toList).min? := by
  cases candidate with
  | none => rw [Option.toList_none, List.append_nil, minOptional]
  | some candidate =>
    rw [Option.toList_some, min?_snoc]
    cases xs.min? <;> rfl

/-- The rolling average is the mean when its count is the number of the earlier candidates. -/
theorem rollingAverage_mean (xs : List ℚ) (candidate : Option ℚ) :
    rollingAverage (mean xs) xs.length candidate = mean (xs ++ candidate.toList) := by
  cases candidate with
  | none => rw [Option.toList_none, List.append_nil, rollingAverage]
  | some candidate =>
    rw [Option.toList_some]
    cases hmean : mean xs with
    | none =>
      rw [mean_eq_none_iff.mp hmean, List.nil_append, mean_singleton]
      rfl
    | some average =>
      rw [mean_snoc hmean]
      rfl

namespace EnergySample

variable (x : EnergySample)

theorem exists_power (h : x.direction ≠ .idle) : ∃ netPower, x.source.netBatteryPowerW = some netPower := by
  unfold direction at h
  cases hnet : x.source.netBatteryPowerW with
  | none =>
    rw [hnet] at h
    exact absurd rfl h
  | some netPower => exact ⟨netPower, rfl⟩

theorem isSome_chargeCandidate : x.chargeCandidate.isSome = decide (x.direction = .charge) := by
  unfold chargeCandidate
  split
  · rename_i hdirection
    obtain ⟨netPower, hnet⟩ := x.exists_power (by rw [hdirection]; exact EnergyDirection.noConfusion)
    rw [EnergySourceSnapshot.chargePowerW, hnet, decide_eq_true hdirection]
    rfl
  · rename_i hdirection
    rw [decide_eq_false hdirection]
    rfl

theorem isSome_dischargeCandidate : x.dischargeCandidate.isSome = decide (x.direction = .discharge) := by
  unfold dischargeCandidate
  split
  · rename_i hdirection
    obtain ⟨netPower, hnet⟩ := x.exists_power (by rw [hdirection]; exact EnergyDirection.noConfusion)
    rw [EnergySourceSnapshot.dischargePowerW, hnet, decide_eq_true hdirection]
    rfl
  · rename_i hdirection
    rw [decide_eq_false hdirection]
    rfl

theorem active_of_direction (h : x.direction = .charge ∨ x.direction = .discharge) : x.active = true := by
  rw [active, decide_eq_true_iff]
  rcases h with h | h
  · exact .inl h
  · exact .inr (.inl h)

end EnergySample

/-- As many candidates as samples of the direction. -/
theorem length_filterMap_of_isSome {f : EnergySample → Option ℚ} {p : EnergySample → Bool}
    (h : ∀ x, (f x).isSome = p x) (samples : List EnergySample) : (samples.filterMap f).length = samples.countP p := by
  rw [List.length_filterMap_eq_countP]
  exact congrArg (List.countP · samples) (funext h)

variable (samples : List EnergySample) (x : EnergySample)

theorem directionChanged_batch : (batchProfile samples).directionChanged x =
    (samples.getLast?.map (·, x)).elim false fun step => decide (Step.Reversal step) := by
  unfold EnergyLearningProfile.directionChanged batchProfile
  cases samples.getLast? with
  | none => simp
  | some y => rfl

/-- The delay that the update finds is the one of the step from the last sample. -/
theorem activationResponseDelay_batch : (batchProfile samples).activationResponseDelay x =
    (samples.getLast?.map (·, x)).bind Step.learnedDelay := by
  unfold EnergyLearningProfile.activationResponseDelay EnergyLearningProfile.inactiveResponseDelay
    EnergyLearningProfile.directionChangeResponseDelay
  rw [directionChanged_batch]
  rcases List.eq_nil_or_concat' samples with rfl | ⟨earlier, y, rfl⟩
  · simp [batchProfile]
  · have hlast : (earlier ++ [y]).getLast? = some y := List.getLast?_concat
    have hlastActive : (batchProfile (earlier ++ [y])).lastActive = y.active := by
      rw [batchProfile, hlast]
      rfl
    have hlastChangeAt : (batchProfile (earlier ++ [y])).lastChangeAt = some y.now := by
      rw [batchProfile, hlast]
      rfl
    rw [hlast, hlastActive, hlastChangeAt]
    dsimp only [Option.map_some, Option.elim_some, Option.bind_some]
    unfold Step.learnedDelay
    by_cases hactive : x.active = true
    · rw [if_pos hactive]
      cases hy : y.active with
      | true =>
        -- an active source responds by changing its direction only
        have hnot : ¬ Step.Activation (y, x) := by
          intro h
          rw [h.1] at hy
          nomatch hy
        by_cases hrev : Step.Reversal (y, x) <;> simp [hnot, hrev, Step.elapsed]
      | false =>
        have hinactiveAt : (batchProfile (earlier ++ [y])).lastInactiveAt = some y.now := by
          simp [batchProfile, hy]
        have hnot : ¬ Step.Reversal (y, x) := by
          intro h
          rw [y.active_of_direction h.2.1] at hy
          nomatch hy
        have hactivation : Step.Activation (y, x) := ⟨hy, hactive⟩
        rw [hinactiveAt]
        by_cases hzero : max 0 (x.now - y.now) = 0
        · simp [hnot, hactivation, Step.elapsed, hzero]
        · simp [hnot, hactivation, Step.elapsed, hzero]
    · have hactivation : ¬ Step.Activation (y, x) := fun h => hactive h.2
      have hreversal : ¬ Step.Reversal (y, x) := fun h => hactive (x.active_of_direction h.1)
      simp [hactive, hactivation, hreversal]

/-- The delay of the update is what one more step contributes. -/
theorem learnedDelays_snoc : (neighbours (samples ++ [x])).filterMap Step.learnedDelay =
    (neighbours samples).filterMap Step.learnedDelay ++ ((batchProfile samples).activationResponseDelay x).toList := by
  rw [neighbours_snoc, List.filterMap_append, activationResponseDelay_batch]
  cases samples.getLast? with
  | none => rfl
  | some y => cases h : Step.learnedDelay (y, x) <;> simp [h]

theorem powerDeltas_snoc : (histories [] (samples ++ [x])).filterMap powerDelta =
    (histories [] samples).filterMap powerDelta ++ ((batchProfile samples).smoothingDelta x).toList := by
  rw [histories_snoc, filterMap_snoc]
  rfl

theorem reversals_snoc : (neighbours (samples ++ [x])).countP (fun step => decide (Step.Reversal step)) =
    (neighbours samples).countP (fun step => decide (Step.Reversal step)) +
      if (batchProfile samples).directionChanged x then 1 else 0 := by
  rw [neighbours_snoc, List.countP_append, directionChanged_batch]
  cases samples.getLast? with
  | none => rfl
  | some y => exact congrArg _ List.countP_singleton

/-- A candidate adds one to the number of those before. -/
theorem length_append_toList (xs : List ℚ) (candidate : Option ℚ) :
    (xs ++ candidate.toList).length = xs.length + if candidate.isSome then 1 else 0 := by
  cases candidate <;> simp

/-- One more sample changes the statistics as the update changes the profile. -/
theorem buildUpdatedLearningProfile_batch :
    (batchProfile samples).buildUpdatedLearningProfile x = batchProfile (samples ++ [x]) := by
  have hcount (p : EnergySample → Bool) : samples.countP p + (if p x then 1 else 0) = (samples ++ [x]).countP p :=
    (countP_snoc p samples x).symm
  have hdirection (direction : EnergyDirection) : samples.countP (·.direction = direction) +
      (if x.direction = direction then 1 else 0) = (samples ++ [x]).countP (·.direction = direction) := by
    rw [← hcount]
    simp only [decide_eq_true_eq]
  have hmax (f : EnergySample → Option ℚ) :
      maxOptional (samples.filterMap f).max? (f x) = ((samples ++ [x]).filterMap f).max? := by
    rw [filterMap_snoc, maxOptional_max?]
  have hmin (f : EnergySample → Option ℚ) :
      minOptional (samples.filterMap f).min? (f x) = ((samples ++ [x]).filterMap f).min? := by
    rw [filterMap_snoc, minOptional_min?]
  -- the count beside a mean is the number of its candidates
  have hmean {f : EnergySample → Option ℚ} {p : EnergySample → Bool} (h : ∀ x, (f x).isSome = p x) :
      rollingAverage (mean (samples.filterMap f)) (samples.countP p) (f x) = mean ((samples ++ [x]).filterMap f) := by
    rw [filterMap_snoc, ← length_filterMap_of_isSome h, rollingAverage_mean]
  have hlast : (samples ++ [x]).getLast? = some x := List.getLast?_concat
  unfold EnergyLearningProfile.buildUpdatedLearningProfile
  show _ = EnergyLearningProfile.mk ..
  simp only [EnergyLearningProfile.mk.injEq]
  refine ⟨?count, hcount _, hdirection _, hdirection _, hcount _, hcount _, hcount _, hcount _,
    hcount _, hcount _, hcount _, hcount _, hcount _, hcount _, hcount _, ?response, ?smoothing, hmax _, hmax _, hmax _,
    hmax _, hmax _, hmax _, hmin _, hmax _, hmean isSome_chargeCandidate, hmean isSome_dischargeCandidate, ?delta,
    ?delay, ?changes, ?direction, ?active, ?activeAt, ?inactiveAt, ?changeAt⟩
  case count => rw [List.length_append]; rfl
  case response => rw [learnedDelays_snoc, length_append_toList]; rfl
  case smoothing => rw [powerDeltas_snoc, length_append_toList]; rfl
  case delta => rw [powerDeltas_snoc, ← rollingAverage_mean]; rfl
  case delay => rw [learnedDelays_snoc, ← rollingAverage_mean]; rfl
  case changes => rw [reversals_snoc]; rfl
  case direction => rw [hlast]; rfl
  case active => rw [hlast]; rfl
  case changeAt => rw [hlast]; rfl
  case activeAt =>
    cases h : x.active with
    | true => simp [h]
    | false => simp [h, batchProfile]
  case inactiveAt =>
    cases h : x.active with
    | true => simp [h, batchProfile]
    | false => simp [h]

/-- The incremental update of the samples of a sequence, from the empty profile. -/
def learned (samples : List EnergySample) : EnergyLearningProfile :=
  samples.foldl EnergyLearningProfile.buildUpdatedLearningProfile {}

/-- The update computes the statistics of the sequence, with the learned delays. -/
theorem learned_eq : learned samples = batchProfile samples := by
  induction samples using List.reverseRecOn with
  | nil => rfl
  | append_singleton samples x ih =>
    rw [← buildUpdatedLearningProfile_batch, ← ih, learned, List.foldl_append]
    rfl

/-! ## Means of delays -/

theorem EnergySample.Step.elapsed_nonneg (step : Step) : 0 ≤ step.elapsed := le_max_left _ _

theorem EnergySample.Step.elapsed_eq_zero (step : Step) : step.elapsed = 0 ↔ step.2.now ≤ step.1.now := by
  rw [Step.elapsed, max_eq_left_iff, sub_nonpos]

theorem EnergySample.Step.learnedDelay_some {step : Step} {delay : ℚ} (h : step.learnedDelay = some delay) :
    step.responseDelay = some delay := by
  unfold Step.learnedDelay at h
  split at h
  · rename_i hlearned
    rw [Step.responseDelay, if_pos (hlearned.imp_left And.left), ← h]
  · nomatch h

theorem EnergySample.Step.elapsed_of_left_out {step : Step} (hlearned : step.learnedDelay = none) {delay : ℚ}
    (hresponse : step.responseDelay = some delay) : delay = 0 := by
  unfold Step.learnedDelay at hlearned
  unfold Step.responseDelay at hresponse
  split at hlearned
  · nomatch hlearned
  · rename_i hnot
    split at hresponse
    · rename_i hkind
      rw [← Option.some.inj hresponse]
      by_contra hne
      exact hnot (hkind.imp_left fun hactivation => ⟨hactivation, hne⟩)
    · nomatch hresponse

theorem sum_learnedDelays (steps : List Step) :
    (steps.filterMap Step.learnedDelay).sum = (steps.filterMap Step.responseDelay).sum := by
  induction steps with
  | nil => rfl
  | cons step steps ih =>
    cases hlearned : step.learnedDelay with
    | some delay =>
      rw [List.filterMap_cons_some hlearned, List.filterMap_cons_some (Step.learnedDelay_some hlearned),
        List.sum_cons, List.sum_cons, ih]
    | none =>
      rw [List.filterMap_cons_none hlearned, ih]
      cases hresponse : step.responseDelay with
      | none => rw [List.filterMap_cons_none hresponse]
      | some delay =>
        rw [List.filterMap_cons_some hresponse, List.sum_cons, Step.elapsed_of_left_out hlearned hresponse, zero_add]

theorem sum_responseDelays_eq_zero (steps : List Step) : (steps.filterMap Step.responseDelay).sum = 0 ↔
    ∀ step ∈ steps, step.Activation ∨ step.Reversal → step.2.now ≤ step.1.now := by
  have hnonneg (steps : List Step) : 0 ≤ (steps.filterMap Step.responseDelay).sum := by
    apply List.sum_nonneg
    intro delay hdelay
    obtain ⟨step, -, hstep⟩ := List.mem_filterMap.mp hdelay
    unfold Step.responseDelay at hstep
    split at hstep
    · rw [← Option.some.inj hstep]
      exact Step.elapsed_nonneg step
    · nomatch hstep
  induction steps with
  | nil => simp
  | cons step steps ih =>
    rw [List.forall_mem_cons]
    by_cases hkind : step.Activation ∨ step.Reversal
    · have hsome : step.responseDelay = some step.elapsed := if_pos hkind
      rw [List.filterMap_cons_some hsome, List.sum_cons,
        add_eq_zero_iff_of_nonneg (Step.elapsed_nonneg step) (hnonneg steps), Step.elapsed_eq_zero]
      exact and_congr (by simp [hkind]) ih
    · have hnone : step.responseDelay = none := if_neg hkind
      rw [List.filterMap_cons_none hnone]
      exact ih.trans (by simp [hkind])

/-- No source turns active at the time of the idle sample before, or all responses take no time and one of them is
a reversal. -/
def DelaysKept (samples : List EnergySample) : Prop :=
  (∀ step ∈ neighbours samples, Step.Activation step → step.1.now < step.2.now) ∨
    (∃ step ∈ neighbours samples, Step.Reversal step) ∧
      ∀ step ∈ neighbours samples, Step.Activation step ∨ Step.Reversal step → step.2.now ≤ step.1.now

theorem EnergySample.Step.isSome_learnedDelay (step : Step) :
    step.learnedDelay.isSome ↔ step.Activation ∧ step.1.now < step.2.now ∨ step.Reversal := by
  unfold Step.learnedDelay
  simp only [ne_eq, Step.elapsed_eq_zero, not_le]
  split
  · rename_i h
    simp only [Option.isSome_some, h]
  · rename_i h
    simp only [Option.isSome_none, h, Bool.false_eq_true]

theorem EnergySample.Step.isSome_responseDelay (step : Step) :
    step.responseDelay.isSome ↔ step.Activation ∨ step.Reversal := by
  unfold Step.responseDelay
  split
  · rename_i h
    simp only [Option.isSome_some, h]
  · rename_i h
    simp only [Option.isSome_none, h, Bool.false_eq_true]

/-- A source that was idle had no direction. -/
theorem EnergySample.Step.not_reversal {step : Step} (h : step.Activation) : ¬ step.Reversal := by
  intro hreversal
  have hactive := step.1.active_of_direction hreversal.2.1
  rw [h.1] at hactive
  nomatch hactive

/-- The learned delay is the mean of all delays exactly when no delay is left out or all are zero. -/
theorem mean_learnedDelays_iff : mean ((neighbours samples).filterMap Step.learnedDelay) = mean (responseDelays samples) ↔
    DelaysKept samples := by
  obtain ⟨hle, hlength⟩ := length_filterMap_le (fun step delay => Step.learnedDelay_some) (neighbours samples)
  unfold responseDelays
  rw [mean_eq_mean_iff (sum_learnedDelays _) hle, hlength, sum_responseDelays_eq_zero]
  refine or_congr (forall₂_congr fun step _ => ?_) (and_congr_left fun hzero => ?_)
  · rw [Step.isSome_learnedDelay, Step.isSome_responseDelay]
    constructor
    · intro h hactivation
      rcases h (.inl hactivation) with hlater | hreversal
      · exact hlater.2
      · exact absurd hreversal (Step.not_reversal hactivation)
    · intro h hkind
      exact hkind.imp_left fun hactivation => ⟨hactivation, h hactivation⟩
  · constructor
    · intro hne
      obtain ⟨delay, hdelay⟩ := List.exists_mem_of_ne_nil _ hne
      obtain ⟨step, hstep, hsome⟩ := List.mem_filterMap.mp hdelay
      rcases (Step.isSome_learnedDelay step).mp (by rw [hsome]; rfl) with ⟨hactivation, hlater⟩ | hreversal
      · exact absurd (hzero step hstep (.inl hactivation)) (not_le.mpr hlater)
      · exact ⟨step, hstep, hreversal⟩
    · intro ⟨step, hstep, hreversal⟩
      obtain ⟨delay, hsome⟩ := Option.isSome_iff_exists.mp ((Step.isSome_learnedDelay step).mpr (.inr hreversal))
      exact List.ne_nil_of_mem (List.mem_filterMap.mpr ⟨step, hstep, hsome⟩)

/-! ## All sources -/

/-- The calls of the helper: the newly observed snapshots and the time. -/
abbrev LearningCalls := List (List EnergySourceSnapshot × ℚ)

/-- The profiles after the calls, from no profiles. -/
def learnedProfiles (localHour : ℚ → Nat) (calls : LearningCalls) : String → Option EnergyLearningProfile :=
  calls.foldl (fun profiles call => updateEnergyLearningProfiles localHour profiles call.1 call.2) fun _ => none

/-- The samples of one source in a call. -/
def callSamples (localHour : ℚ → Nat) (sourceId : String) (call : List EnergySourceSnapshot × ℚ) : List EnergySample :=
  (call.1.filter (·.sourceId = sourceId)).map fun source => ⟨source, call.2, samplePeriod (localHour call.2)⟩

/-- The samples of one source in all calls. -/
def sourceSamples (localHour : ℚ → Nat) (calls : LearningCalls) (sourceId : String) : List EnergySample :=
  calls.flatMap (callSamples localHour sourceId)

theorem updateEnergyLearningProfiles_getD (localHour : ℚ → Nat) (existing : String → Option EnergyLearningProfile)
    (sources : List EnergySourceSnapshot) (now : ℚ) (sourceId : String) :
    (updateEnergyLearningProfiles localHour existing sources now sourceId).getD {} =
      (callSamples localHour sourceId (sources, now)).foldl EnergyLearningProfile.buildUpdatedLearningProfile
        ((existing sourceId).getD {}) := by
  induction sources generalizing existing with
  | nil => rfl
  | cons source sources ih =>
    unfold updateEnergyLearningProfiles at ih ⊢
    rw [List.foldl_cons, ih]
    unfold callSamples
    dsimp only
    by_cases hid : source.sourceId = sourceId
    · rw [List.filter_cons_of_pos (by simpa using hid), List.map_cons, List.foldl_cons, hid, Function.update_self]
      rfl
    · rw [List.filter_cons_of_neg (by simpa using hid), Function.update_of_ne (Ne.symm hid)]

theorem learnedProfiles_getD (localHour : ℚ → Nat) (calls : LearningCalls) (sourceId : String) :
    (learnedProfiles localHour calls sourceId).getD {} = learned (sourceSamples localHour calls sourceId) := by
  induction calls using List.reverseRecOn with
  | nil => rfl
  | append_singleton calls call ih =>
    unfold learnedProfiles sourceSamples learned at ih ⊢
    rw [List.foldl_append, List.foldl_cons, List.foldl_nil, updateEnergyLearningProfiles_getD, ih,
      List.flatMap_append, List.foldl_append, List.flatMap_singleton]

/-- What the profile of a sequence of samples should say about it. -/
structure DescribesSamples (profile : EnergyLearningProfile) (samples : List EnergySample) : Prop where
  sampleCount : profile.sampleCount = samples.length
  directions_le : profile.chargeSampleCount + profile.dischargeSampleCount ≤ profile.activeSampleCount
  active_le : profile.activeSampleCount ≤ profile.sampleCount
  active_periods : profile.dayActiveSampleCount + profile.nightActiveSampleCount = profile.activeSampleCount
  charge_periods : profile.dayChargeSampleCount + profile.nightChargeSampleCount = profile.chargeSampleCount
  discharge_periods : profile.dayDischargeSampleCount + profile.nightDischargeSampleCount = profile.dischargeSampleCount
  averageCharge : profile.averageActiveChargePowerW = mean (samples.filterMap chargeCandidate)
  averageDischarge : profile.averageActiveDischargePowerW = mean (samples.filterMap dischargeCandidate)
  maxCharge : profile.observedMaxChargePowerW = (samples.filterMap (·.source.chargePowerW)).max?
  maxDischarge : profile.observedMaxDischargePowerW = (samples.filterMap (·.source.dischargePowerW)).max?
  maxAc : profile.observedMaxAcPowerW = (samples.filterMap observedAc).max?
  maxPvInput : profile.observedMaxPvInputPowerW = (samples.filterMap observedPvInput).max?
  maxGridImport : profile.observedMaxGridImportW = (samples.filterMap gridImport).max?
  maxGridExport : profile.observedMaxGridExportW = (samples.filterMap gridExport).max?
  minDischargeSoc : profile.observedMinDischargeSoc = (samples.filterMap dischargeSoc).min?
  maxChargeSoc : profile.observedMaxChargeSoc = (samples.filterMap chargeSoc).max?
  responseDelay : profile.typicalResponseDelaySeconds = mean (responseDelays samples)

/-- Two predicates that exclude each other and imply a third count no more than that. -/
theorem countP_add_countP_le {p q r : EnergySample → Bool} (hp : ∀ x, p x → r x) (hq : ∀ x, q x → r x ∧ ¬ p x) :
    samples.countP p + samples.countP q ≤ samples.countP r := by
  induction samples with
  | nil => simp
  | cons x samples ih =>
    have hpx := hp x
    have hqx := hq x
    rw [List.countP_cons, List.countP_cons, List.countP_cons]
    by_cases hp : p x = true <;> by_cases hq : q x = true <;> simp_all <;> omega

theorem countP_periods (p : EnergySample → Bool) (byPeriod : SamplePeriod → EnergySample → Bool)
    (h : ∀ period x, byPeriod period x = true ↔ p x = true ∧ x.period = period) :
    samples.countP (byPeriod .day) + samples.countP (byPeriod .night) = samples.countP p := by
  induction samples with
  | nil => rfl
  | cons x samples ih =>
    rw [List.countP_cons, List.countP_cons, List.countP_cons, ← ih]
    simp only [h]
    cases hperiod : x.period <;> simp <;> omega

/-- The statistics of a sequence describe its samples, but for the response delay. -/
theorem describesSamples_batch : DescribesSamples (batchProfile samples) samples ↔ DelaysKept samples := by
  rw [← mean_learnedDelays_iff]
  constructor
  · exact DescribesSamples.responseDelay
  · intro hdelay
    have hperiod (direction : EnergyDirection) (hdirection : direction = .charge ∨ direction = .discharge) :
        samples.countP (·.periodCounts direction .day) + samples.countP (·.periodCounts direction .night) =
          samples.countP (·.direction = direction) := by
      apply countP_periods samples _ fun period x => x.periodCounts direction period
      intro period x
      simp only [periodCounts, decide_eq_true_eq]
      constructor
      · intro ⟨_, hperiod, hx⟩
        exact ⟨hx, hperiod⟩
      · intro ⟨hx, hperiod⟩
        exact ⟨x.active_of_direction (by rwa [hx]), hperiod, hx⟩
    exact {
      sampleCount := rfl
      directions_le := countP_add_countP_le samples
        (fun x hx => x.active_of_direction (.inl (of_decide_eq_true hx)))
        (fun x hx => ⟨x.active_of_direction (.inr (of_decide_eq_true hx)), by simp [of_decide_eq_true hx]⟩)
      active_le := List.countP_le_length
      active_periods := countP_periods samples _ (fun period x => x.activePeriodCounts period) fun period x => by
        simp only [activePeriodCounts, decide_eq_true_eq]
      charge_periods := hperiod .charge (.inl rfl)
      discharge_periods := hperiod .discharge (.inr rfl)
      averageCharge := rfl
      averageDischarge := rfl
      maxCharge := rfl
      maxDischarge := rfl
      maxAc := rfl
      maxPvInput := rfl
      maxGridImport := rfl
      maxGridExport := rfl
      minDischargeSoc := rfl
      maxChargeSoc := rfl
      responseDelay := hdelay }

/-- Whatever the calls are, the profile of a source describes its samples exactly when no source turns active at the
time of its idle sample before, or when all its responses take no time and one of them is a reversal. -/
theorem statistics_iff (localHour : ℚ → Nat) (calls : LearningCalls) (sourceId : String) :
    DescribesSamples ((learnedProfiles localHour calls sourceId).getD {}) (sourceSamples localHour calls sourceId) ↔
      DelaysKept (sourceSamples localHour calls sourceId) := by
  rw [learnedProfiles_getD, learned_eq, describesSamples_batch]

/-! ## A response without delay -/

/-- A battery with a power. -/
def batteryAt (netBatteryPowerW : ℚ) : EnergySourceSnapshot :=
  ⟨"battery", "battery", none, none, some netBatteryPowerW, none, none, none, none, none, "", "", "", true, 1, none,
    "", 0⟩

/-- A battery turns active after ten seconds, and a second time at once: the mean delay is five seconds, and ten are
learned. -/
theorem immediate_response_left_out :
    let calls : LearningCalls := [([batteryAt 0], 0), ([batteryAt 500], 10), ([batteryAt 0], 20), ([batteryAt 500], 20)]
    ((learnedProfiles (fun _ => 12) calls "battery").getD {}).typicalResponseDelaySeconds = some 10 ∧
      mean (responseDelays (sourceSamples (fun _ => 12) calls "battery")) = some 5 ∧
      ¬ DescribesSamples ((learnedProfiles (fun _ => 12) calls "battery").getD {})
        (sourceSamples (fun _ => 12) calls "battery") := by
  intro calls
  have hlearned : ((learnedProfiles (fun _ => 12) calls "battery").getD {}).typicalResponseDelaySeconds = some 10 := by
    decide +kernel
  have hmean : mean (responseDelays (sourceSamples (fun _ => 12) calls "battery")) = some 5 := by
    decide +kernel
  refine ⟨hlearned, hmean, ?_⟩
  intro h
  have heq := h.responseDelay
  rw [hlearned, hmean] at heq
  exact absurd heq (by decide)

end VenusEvcharger
