import VenusEvcharger.AutoInputHelper.AggregateAgreement
import VenusEvcharger.AutoInputHelper.Learning

/-!
# Both helpers learn the same

The native update of a learning profile against the one of the Python helper, sample after sample from the empty profile
on. `update_agrees_iff` says for which samples both compute the same, and `learning_and_clusters_agree_iff` for which
sequences of samples and, with `aggregate_agrees_iff`, for which sources. An average of differences or delays is where the
profiles part: the native helper drops it with the next sample that has none.
-/

namespace VenusEvcharger.AutoInputHelper

open Library

/-! ## The samples that agree -/

section

variable (p : EnergyLearningProfile) (x : EnergySample)

/-- The counters of a profile, without the counter of all samples. -/
def counters : List Nat :=
  [p.activeSampleCount, p.chargeSampleCount, p.dischargeSampleCount, p.importSupportSampleCount,
    p.importChargeSampleCount, p.exportChargeSampleCount, p.exportDischargeSampleCount, p.exportIdleSampleCount,
    p.dayActiveSampleCount, p.nightActiveSampleCount, p.dayChargeSampleCount, p.nightChargeSampleCount,
    p.dayDischargeSampleCount, p.nightDischargeSampleCount, p.responseSampleCount, p.smoothingSampleCount,
    p.directionChangeCount]

/-- What holds of a profile that samples have been learned into. -/
structure Learned : Prop where
  counted : ∀ n ∈ counters p, n ≤ p.sampleCount
  idle : p.lastActive = false → p.lastDirection = .idle ∧ p.lastInactiveAt = p.lastChangeAt
  answered : p.typicalResponseDelaySeconds.isSome → p.lastChangeAt.isSome

/-- The power of a sample in its direction. -/
def directedPower : Option ℚ :=
  match x.direction with
  | .charge => x.source.chargePowerW
  | .discharge => x.source.dischargePowerW
  | .idle => none

/-- The learned power in the direction of a sample. -/
def learnedPower : Option ℚ :=
  match x.direction with
  | .charge => p.averageActiveChargePowerW
  | .discharge => p.averageActiveDischargePowerW
  | .idle => none

/-- The source responds: it turns active, or its battery changes its direction. -/
def Responds : Prop := x.active = true ∧ (p.lastActive = false ∨ p.directionChanged x = true)

instance : Decidable (Responds p x) := inferInstanceAs (Decidable (_ ∧ _))

/-- Both helpers learn the same from a sample:

* the counter of all samples is not at its end;
* a source that turns active does so after its last sample;
* once a difference from the learned power was averaged, every sample has a direction with a learned power, and once a
  delay was averaged every sample is a response;
* a mean of more values than a `u32` counts is no longer moved. -/
structure UpdatesAgree : Prop where
  counted : p.sampleCount < u64Max
  later : x.active = true → p.lastActive = false → ∀ last ∈ p.lastChangeAt, last < x.now
  compared : p.averageActivePowerDeltaW.isSome → (learnedPower p x).isSome
  responds : p.typicalResponseDelaySeconds.isSome → Responds p x
  charge : x.direction = .charge → p.chargeSampleCount ≤ u32Max ∨
    ∀ average ∈ p.averageActiveChargePowerW, ∀ power ∈ x.source.chargePowerW, power = average
  discharge : x.direction = .discharge → p.dischargeSampleCount ≤ u32Max ∨
    ∀ average ∈ p.averageActiveDischargePowerW, ∀ power ∈ x.source.dischargePowerW, power = average
  delta : p.smoothingSampleCount ≤ u32Max ∨ ∀ average ∈ p.averageActivePowerDeltaW,
    ∀ power ∈ directedPower x, ∀ learned ∈ learnedPower p x, |power - learned| = average
  delay : p.responseSampleCount ≤ u32Max ∨ ∀ average ∈ p.typicalResponseDelaySeconds,
    Responds p x → ∀ last ∈ p.lastChangeAt, max 0 (x.now - last) = average

end

variable {p : EnergyLearningProfile} {x : EnergySample}

/-! ## What a profile keeps -/

theorem learned_empty : Learned {} := ⟨by decide, fun _ => ⟨rfl, rfl⟩, nofun⟩

theorem directed_or_idle (x : EnergySample) :
    x.direction = .idle ∨ (x.direction = .charge ∨ x.direction = .discharge) ∧ x.active = true := by
  cases hdirection : x.direction with
  | idle => exact .inl rfl
  | charge => exact .inr ⟨.inl rfl, decide_eq_true (.inl hdirection)⟩
  | discharge => exact .inr ⟨.inr rfl, decide_eq_true (.inr (.inl hdirection))⟩

theorem learned_step (p : EnergyLearningProfile) (x : EnergySample) (h : Learned p) :
    Learned (p.buildUpdatedLearningProfile x) where
  counted := by
    have hcount {n : Nat} {c : Prop} [Decidable c] (hn : n ≤ p.sampleCount) :
        n + (if c then 1 else 0) ≤ p.sampleCount + 1 := by
      split <;> omega
    have hp := h.counted
    show ∀ n ∈ counters (p.buildUpdatedLearningProfile x), n ≤ p.sampleCount + 1
    simp only [counters, List.forall_mem_cons] at hp ⊢
    obtain ⟨h1, h2, h3, h4, h5, h6, h7, h8, h9, h10, h11, h12, h13, h14, h15, h16, h17, -⟩ := hp
    exact ⟨hcount h1, hcount h2, hcount h3, hcount h4, hcount h5, hcount h6, hcount h7, hcount h8, hcount h9,
      hcount h10, hcount h11, hcount h12, hcount h13, hcount h14, hcount h15, hcount h16, hcount h17, nofun⟩
  idle := by
    intro hidle
    have hactive : x.active = false := hidle
    refine ⟨?_, ?_⟩
    · show x.direction = .idle
      rcases directed_or_idle x with hdirection | ⟨-, htrue⟩
      · exact hdirection
      · rw [hactive] at htrue
        nomatch htrue
    · show (if x.active = true then p.lastInactiveAt else some x.now) = some x.now
      rw [hactive]
      rfl
  answered := fun _ => rfl

/-! ## The metrics of a sample -/

theorem metrics_direction (x : EnergySample) : (sourceMetrics x.source).direction = x.direction := by
  unfold sourceMetrics EnergySample.direction
  cases x.source.netBatteryPowerW <;> rfl

theorem metrics_active (x : EnergySample) : (sourceMetrics x.source).active = x.active := by
  have hactive : (sourceMetrics x.source).active = ((sourceMetrics x.source).direction = .charge ||
      (sourceMetrics x.source).direction = .discharge ||
      ([x.source.acPowerW, x.source.pvInputPowerW].filterMap id).any (activePowerThresholdW ≤ |·|)) := rfl
  have hvalues : [x.source.acPowerW, x.source.pvInputPowerW].filterMap id =
      x.source.acPowerW.toList ++ x.source.pvInputPowerW.toList := by
    cases x.source.acPowerW <;> cases x.source.pvInputPowerW <;> rfl
  rw [hactive, metrics_direction, hvalues, EnergySample.active, Bool.eq_iff_iff]
  simp only [Bool.or_eq_true, decide_eq_true_eq, List.any_eq_true, or_assoc]
  rfl

theorem metrics_gridExport (x : EnergySample) : (sourceMetrics x.source).gridExportW = x.gridExport := by
  show positive (x.source.gridInteractionW.map fun value => max (-value) 0) = _
  simp only [max_comm _ (0 : ℚ)]
  rfl

theorem maxOptional_eq (current candidate : Option ℚ) :
    maxOptional current candidate = VenusEvcharger.maxOptional current candidate := by
  cases current <;> cases candidate <;> rfl

theorem minOptional_eq (current candidate : Option ℚ) :
    minOptional current candidate = VenusEvcharger.minOptional current candidate := by
  cases current <;> cases candidate <;> rfl

theorem directionChanged_eq (p : EnergyLearningProfile) (x : EnergySample) :
    directionChanged p x.direction = p.directionChanged x := by
  unfold directionChanged EnergyLearningProfile.directionChanged
  cases x.direction <;> cases p.lastDirection <;> rfl

/-! ## Counters -/

theorem incrementIf_eq {value n : Nat} {condition : Bool} {c : Prop} [Decidable c] (hvalue : value ≤ n) (hn : n < u64Max)
    (hc : condition = true ↔ c) : incrementIf value condition = value + if c then 1 else 0 := by
  unfold incrementIf
  cases hcondition : condition with
  | true =>
    rw [if_pos (hc.mp hcondition)]
    show min (value + 1) u64Max = value + 1
    omega
  | false =>
    rw [if_neg (by rw [← hc, hcondition]; exact Bool.false_ne_true)]
    show min value u64Max = value
    omega

theorem gridCounts_iff (x : EnergySample) (gridValue : Option ℚ) (expectedDirection : EnergyDirection) :
    ((sourceMetrics x.source).direction = expectedDirection && gridValue.any (gridActivityThresholdW ≤ ·)) = true ↔
      x.gridCounts gridValue expectedDirection = true := by
  rw [metrics_direction, EnergySample.gridCounts, Bool.and_eq_true, decide_eq_true_eq, decide_eq_true_eq]
  cases gridValue with
  | none => simp
  | some value =>
    rw [Option.any_some, decide_eq_true_eq]
    simp only [Option.mem_def, Option.some.injEq, exists_eq_left']
    rfl

/-- A sample in a direction is active, so that the native counters of a period do not test it. -/
theorem periodCounts_iff (x : EnergySample) (expectedDirection : EnergyDirection) (hne : expectedDirection ≠ .idle)
    (expectedPeriod : SamplePeriod) :
    ((sourceMetrics x.source).direction = expectedDirection && x.period = expectedPeriod) = true ↔
      x.periodCounts expectedDirection expectedPeriod = true := by
  rw [metrics_direction, EnergySample.periodCounts, Bool.and_eq_true, decide_eq_true_eq, decide_eq_true_eq,
    decide_eq_true_eq]
  constructor
  · intro ⟨hdirection, hperiod⟩
    rcases directed_or_idle x with hidle | ⟨-, hactive⟩
    · exact absurd (hdirection.symm.trans hidle) hne
    · exact ⟨hactive, hperiod, hdirection⟩
  · intro ⟨_, hperiod, hdirection⟩
    exact ⟨hdirection, hperiod⟩

theorem activePeriodCounts_iff (x : EnergySample) (expectedPeriod : SamplePeriod) :
    ((sourceMetrics x.source).active && x.period = expectedPeriod) = true ↔ x.activePeriodCounts expectedPeriod = true := by
  rw [metrics_active, EnergySample.activePeriodCounts, Bool.and_eq_true, decide_eq_true_eq, decide_eq_true_eq]

theorem night_iff (period : SamplePeriod) : (!decide (period = .day)) = decide (period = .night) := by
  cases period <;> rfl

/-! ## Means -/

theorem rollingAverage_eq_iff (current : Option ℚ) (count : Nat) (candidate : Option ℚ) :
    rollingAverage current count candidate = VenusEvcharger.rollingAverage current count candidate ↔
      (current.isSome → candidate.isSome) ∧
        (count ≤ u32Max ∨ ∀ average ∈ current, ∀ value ∈ candidate, value = average) := by
  cases candidate with
  | none =>
    cases current with
    | none => simp [rollingAverage, VenusEvcharger.rollingAverage]
    | some average => simp [rollingAverage, VenusEvcharger.rollingAverage]
  | some value =>
    cases current with
    | none => simp [rollingAverage, VenusEvcharger.rollingAverage]
    | some average =>
      have hpos (n : Nat) : (n : ℚ) + 1 ≠ 0 := by positivity
      have hcross : (average * (min count u32Max : Nat) + value) * (count + 1) -
          (average * count + value) * ((min count u32Max : Nat) + 1) =
            (value - average) * (count - (min count u32Max : Nat)) := by ring
      show some ((average * (min count u32Max : Nat) + value) / ((min count u32Max : Nat) + 1)) =
        some ((average * count + value) / (count + 1)) ↔ _
      rw [Option.some.injEq, div_eq_div_iff (hpos _) (hpos _), ← sub_eq_zero, hcross, mul_eq_zero, sub_eq_zero,
        sub_eq_zero, Nat.cast_inj]
      simp only [Option.isSome_some, forall_const, true_and, Option.mem_def, Option.some.injEq, forall_eq']
      constructor
      · rintro (hvalue | hcount)
        · exact .inr hvalue
        · exact .inl (by omega)
      · rintro (hcount | hvalue)
        · exact .inr (by omega)
        · exact .inl hvalue

/-- The mean of the powers in one direction moves with the samples in that direction only. -/
theorem directedAverage_eq_iff (current : Option ℚ) (count : Nat) {candidate : Option ℚ} {c : Prop} [Decidable c]
    (hcandidate : c → candidate.isSome) :
    (if c then rollingAverage current count candidate else current) =
        VenusEvcharger.rollingAverage current count (if c then candidate else none) ↔
      (c → count ≤ u32Max ∨ ∀ average ∈ current, ∀ value ∈ candidate, value = average) := by
  by_cases hc : c
  · rw [if_pos hc, if_pos hc, rollingAverage_eq_iff]
    exact ⟨fun h _ => h.2, fun h => ⟨fun _ => hcandidate hc, h hc⟩⟩
  · rw [if_neg hc, if_neg hc]
    exact ⟨fun _ h => absurd h hc, fun _ => rfl⟩

theorem directedPower_isSome (x : EnergySample) : (directedPower x).isSome ↔ x.direction ≠ .idle := by
  unfold directedPower EnergySample.direction EnergySourceSnapshot.chargePowerW EnergySourceSnapshot.dischargePowerW
  cases x.source.netBatteryPowerW with
  | none => simp
  | some value =>
    dsimp only
    split_ifs <;> simp

/-! ## Delays and differences -/

section

variable (p : EnergyLearningProfile) (x : EnergySample)

theorem smoothingDelta_eq :
    p.smoothingDelta x = pairDelta (directedPower x) (learnedPower p x) := by
  unfold EnergyLearningProfile.smoothingDelta directedPower learnedPower pairDelta
  cases x.direction with
  | idle => rfl
  | charge =>
    dsimp only
    cases x.source.chargePowerW <;> cases p.averageActiveChargePowerW <;> rfl
  | discharge =>
    dsimp only
    cases x.source.dischargePowerW <;> cases p.averageActiveDischargePowerW <;> rfl

theorem native_smoothingDelta_eq :
    smoothingDelta p (sourceMetrics x.source) = p.smoothingDelta x := by
  rw [smoothingDelta_eq, smoothingDelta, metrics_direction]
  unfold directedPower learnedPower
  cases x.direction <;> rfl

theorem smoothingDelta_isSome :
    (p.smoothingDelta x).isSome = (learnedPower p x).isSome := by
  rw [smoothingDelta_eq]
  have hpower := directedPower_isSome x
  cases hlearned : learnedPower p x with
  | none => cases directedPower x <;> rfl
  | some learned =>
    have hne : x.direction ≠ .idle := by
      intro hidle
      rw [learnedPower, hidle] at hlearned
      nomatch hlearned
    obtain ⟨power, hsome⟩ := Option.isSome_iff_exists.mp (hpower.mpr hne)
    rw [hsome]
    rfl

/-- The time since the last sample, for a response. -/
def responseTime : Option ℚ :=
  if Responds p x then p.lastChangeAt.map fun last => max 0 (x.now - last) else none

end

theorem not_directionChanged (h : Learned p) (hidle : p.lastActive = false) : p.directionChanged x = false := by
  rw [EnergyLearningProfile.directionChanged, (h.idle hidle).1]
  simp

theorem native_responseDelay_eq (h : Learned p) (x : EnergySample) :
    activationResponseDelay p (sourceMetrics x.source) (directionChanged p (sourceMetrics x.source).direction) x.now =
      responseTime p x := by
  rw [metrics_direction, directionChanged_eq, activationResponseDelay, metrics_active, responseTime]
  simp only [max_comm _ (0 : ℚ)]
  cases hactive : x.active with
  | false => rw [if_pos Bool.false_ne_true, if_neg fun hresponds => by simp [Responds, hactive] at hresponds]
  | true =>
    rw [if_neg (by simp)]
    cases hlast : p.lastActive with
    | false =>
      rw [if_pos Bool.false_ne_true, if_pos ⟨hactive, .inl hlast⟩, (h.idle hlast).2]
    | true =>
      rw [if_neg (by simp)]
      by_cases hchanged : p.directionChanged x = true
      · rw [if_pos hchanged, if_pos ⟨hactive, .inr hchanged⟩]
      · rw [if_neg hchanged, if_neg]
        rintro ⟨-, hidle | hresponds⟩
        · rw [hlast] at hidle
          nomatch hidle
        · exact hchanged hresponds

/-- The delay of a source that turns active at the time of its last sample is left out. -/
theorem responseDelay_eq (h : Learned p) (x : EnergySample) : p.activationResponseDelay x =
    if p.lastActive = false then (responseTime p x).filter (0 < ·) else responseTime p x := by
  unfold EnergyLearningProfile.activationResponseDelay responseTime
  cases hactive : x.active with
  | false =>
    rw [if_neg Bool.false_ne_true, if_neg fun hresponds : Responds p x => by simp [Responds, hactive] at hresponds]
    split <;> rfl
  | true =>
    rw [if_pos rfl]
    cases hlast : p.lastActive with
    | false =>
      have hinactive : p.inactiveResponseDelay x = p.lastChangeAt.map fun last => max 0 (x.now - last) := by
        rw [EnergyLearningProfile.inactiveResponseDelay, hlast, if_neg Bool.false_ne_true, (h.idle hlast).2]
      have hchange : p.directionChangeResponseDelay x = none := by
        rw [EnergyLearningProfile.directionChangeResponseDelay, not_directionChanged h hlast,
          if_neg Bool.false_ne_true]
      have hresponds : Responds p x := ⟨hactive, .inl hlast⟩
      rw [hinactive, hchange, if_pos rfl, if_pos hresponds]
      cases p.lastChangeAt with
      | none => rfl
      | some last =>
        have hnonneg : (0 : ℚ) ≤ max 0 (x.now - last) := le_max_left _ _
        rw [Option.map_some, Option.filter_some]
        dsimp only
        by_cases hzero : max 0 (x.now - last) = 0
        · rw [if_pos hzero, hzero]
          rfl
        · rw [if_neg hzero, if_pos (decide_eq_true (lt_of_le_of_ne hnonneg (Ne.symm hzero)))]
    | true =>
      have hinactive : p.inactiveResponseDelay x = none := by
        rw [EnergyLearningProfile.inactiveResponseDelay, hlast, if_pos rfl]
      have hresponds : Responds p x ↔ p.directionChanged x = true := by
        simp [Responds, hactive, hlast]
      rw [hinactive, if_neg (by simp)]
      simp only [hresponds]
      rfl

/-- Both helpers see a response when the source does not turn active at the time of its last sample. -/
theorem responseDelay_isSome_iff (h : Learned p) (x : EnergySample) :
    (p.activationResponseDelay x).isSome = (responseTime p x).isSome ↔
      (x.active = true → p.lastActive = false → ∀ last ∈ p.lastChangeAt, last < x.now) := by
  rw [responseDelay_eq h]
  cases hlast : p.lastActive with
  | true => simp
  | false =>
    rw [if_pos rfl, responseTime]
    cases hactive : x.active with
    | false => simp [Responds, hactive]
    | true =>
      have hresponds : Responds p x := ⟨hactive, .inl hlast⟩
      rw [if_pos hresponds]
      cases p.lastChangeAt with
      | none => simp
      | some last => by_cases hlater : last < x.now <;> simp [hlater]

theorem responseDelay_eq_of_later (h : Learned p)
    (hlater : x.active = true → p.lastActive = false → ∀ last ∈ p.lastChangeAt, last < x.now) :
    p.activationResponseDelay x = responseTime p x := by
  have hsome := (responseDelay_isSome_iff h x).mpr hlater
  rw [responseDelay_eq h] at hsome ⊢
  split at hsome
  · rename_i hlast
    rw [if_pos hlast]
    cases htime : responseTime p x with
    | none => rfl
    | some delay =>
      rw [htime, Option.filter_some] at hsome
      rw [Option.filter_some]
      split at hsome
      · rename_i hpos
        rw [if_pos hpos]
      · nomatch hsome
  · rename_i hlast
    rw [if_neg hlast]

/-! ## One sample -/

theorem chargePower_isSome (h : x.direction = .charge) : x.source.chargePowerW.isSome := by
  have hpower := (directedPower_isSome x).mpr (by rw [h]; exact nofun)
  rwa [directedPower, h] at hpower

theorem dischargePower_isSome (h : x.direction = .discharge) : x.source.dischargePowerW.isSome := by
  have hpower := (directedPower_isSome x).mpr (by rw [h]; exact nofun)
  rwa [directedPower, h] at hpower

/-- The native update, with the direction, the activity and the differences of the Python helper. -/
theorem native_update_eq (h : Learned p) (x : EnergySample) : updateLearningProfile p x =
    updateActivityMarkers (updateObservations (updateCounts (updateAverages p (sourceMetrics x.source)
      (responseTime p x) (p.smoothingDelta x)) (sourceMetrics x.source) (responseTime p x) (p.smoothingDelta x) x.period)
        (sourceMetrics x.source) x.source) (sourceMetrics x.source) (p.directionChanged x) x.now := by
  unfold updateLearningProfile
  dsimp only
  rw [native_responseDelay_eq h, native_smoothingDelta_eq, metrics_direction, directionChanged_eq]

theorem delay_eq_iff (h : Learned p) (x : EnergySample) :
    rollingAverage p.typicalResponseDelaySeconds p.responseSampleCount (responseTime p x) =
        VenusEvcharger.rollingAverage p.typicalResponseDelaySeconds p.responseSampleCount (responseTime p x) ↔
      (p.typicalResponseDelaySeconds.isSome → Responds p x) ∧
        (p.responseSampleCount ≤ u32Max ∨ ∀ average ∈ p.typicalResponseDelaySeconds,
          Responds p x → ∀ last ∈ p.lastChangeAt, max 0 (x.now - last) = average) := by
  rw [rollingAverage_eq_iff]
  have hanswered := h.answered
  unfold responseTime
  by_cases hresponds : Responds p x
  · rw [if_pos hresponds]
    cases hlast : p.lastChangeAt with
    | none => simp_all
    | some last => simp [hresponds]
  · rw [if_neg hresponds]
    simp [hresponds]

theorem delta_eq_iff (p : EnergyLearningProfile) (x : EnergySample) :
    rollingAverage p.averageActivePowerDeltaW p.smoothingSampleCount (p.smoothingDelta x) =
        VenusEvcharger.rollingAverage p.averageActivePowerDeltaW p.smoothingSampleCount (p.smoothingDelta x) ↔
      (p.averageActivePowerDeltaW.isSome → (learnedPower p x).isSome) ∧
        (p.smoothingSampleCount ≤ u32Max ∨ ∀ average ∈ p.averageActivePowerDeltaW,
          ∀ power ∈ directedPower x, ∀ learned ∈ learnedPower p x, |power - learned| = average) := by
  rw [rollingAverage_eq_iff, smoothingDelta_isSome, smoothingDelta_eq]
  unfold pairDelta
  cases directedPower x <;> cases learnedPower p x <;> simp

theorem charge_eq_iff (p : EnergyLearningProfile) (x : EnergySample) :
    (if (sourceMetrics x.source).direction = .charge then
          rollingAverage p.averageActiveChargePowerW p.chargeSampleCount x.source.chargePowerW
        else p.averageActiveChargePowerW) =
        VenusEvcharger.rollingAverage p.averageActiveChargePowerW p.chargeSampleCount x.chargeCandidate ↔
      (x.direction = .charge → p.chargeSampleCount ≤ u32Max ∨
        ∀ average ∈ p.averageActiveChargePowerW, ∀ power ∈ x.source.chargePowerW, power = average) := by
  rw [metrics_direction]
  exact directedAverage_eq_iff _ _ chargePower_isSome

theorem discharge_eq_iff (p : EnergyLearningProfile) (x : EnergySample) :
    (if (sourceMetrics x.source).direction = .discharge then
          rollingAverage p.averageActiveDischargePowerW p.dischargeSampleCount x.source.dischargePowerW
        else p.averageActiveDischargePowerW) =
        VenusEvcharger.rollingAverage p.averageActiveDischargePowerW p.dischargeSampleCount x.dischargeCandidate ↔
      (x.direction = .discharge → p.dischargeSampleCount ≤ u32Max ∨
        ∀ average ∈ p.averageActiveDischargePowerW, ∀ power ∈ x.source.dischargePowerW, power = average) := by
  rw [metrics_direction]
  exact directedAverage_eq_iff _ _ dischargePower_isSome

theorem agrees_of_eq (h : Learned p) (heq : updateLearningProfile p x = p.buildUpdatedLearningProfile x) :
    UpdatesAgree p x := by
  rw [native_update_eq h] at heq
  have hcounted : min (p.sampleCount + 1) u64Max = p.sampleCount + 1 := congrArg EnergyLearningProfile.sampleCount heq
  have hlt : p.sampleCount < u64Max := by omega
  have hresponses : p.responseSampleCount ≤ p.sampleCount := h.counted _ (by simp [counters])
  -- the counter of the responses tells whether the native helper sees one that the Python helper leaves out
  have hlater : x.active = true → p.lastActive = false → ∀ last ∈ p.lastChangeAt, last < x.now := by
    have hcount : incrementIf p.responseSampleCount (responseTime p x).isSome =
        p.responseSampleCount + if (p.activationResponseDelay x).isSome then 1 else 0 :=
      congrArg EnergyLearningProfile.responseSampleCount heq
    rw [incrementIf_eq hresponses hlt Iff.rfl] at hcount
    apply (responseDelay_isSome_iff h x).mp
    rw [Bool.eq_iff_iff]
    split_ifs at hcount <;> simp_all
  have hdelay : rollingAverage p.typicalResponseDelaySeconds p.responseSampleCount (responseTime p x) =
      VenusEvcharger.rollingAverage p.typicalResponseDelaySeconds p.responseSampleCount (p.activationResponseDelay x) :=
    congrArg EnergyLearningProfile.typicalResponseDelaySeconds heq
  rw [responseDelay_eq_of_later h hlater, delay_eq_iff h] at hdelay
  have hdelta := (delta_eq_iff p x).mp (congrArg EnergyLearningProfile.averageActivePowerDeltaW heq)
  exact {
    counted := hlt
    later := hlater
    compared := hdelta.1
    responds := hdelay.1
    charge := (charge_eq_iff p x).mp (congrArg EnergyLearningProfile.averageActiveChargePowerW heq)
    discharge := (discharge_eq_iff p x).mp (congrArg EnergyLearningProfile.averageActiveDischargePowerW heq)
    delta := hdelta.2
    delay := hdelay.2 }

theorem eq_of_agrees (h : Learned p) (hagree : UpdatesAgree p x) :
    updateLearningProfile p x = p.buildUpdatedLearningProfile x := by
  have htime := responseDelay_eq_of_later h hagree.later
  have hcount {n : Nat} {condition : Bool} {c : Prop} [Decidable c] (hn : n ≤ p.sampleCount) (hc : condition = true ↔ c) :
      incrementIf n condition = n + if c then 1 else 0 := incrementIf_eq hn hagree.counted hc
  have hsamples : min (p.sampleCount + 1) u64Max = p.sampleCount + 1 := by
    have hlt := hagree.counted
    omega
  have hdirected {n : Nat} (hn : n ≤ p.sampleCount) (expectedDirection : EnergyDirection) :
      incrementIf n ((sourceMetrics x.source).direction = expectedDirection) =
        n + if x.direction = expectedDirection then 1 else 0 :=
    hcount hn (by rw [metrics_direction, decide_eq_true_eq])
  have hdelay := (delay_eq_iff h x).mpr ⟨hagree.responds, hagree.delay⟩
  have hdelta := (delta_eq_iff p x).mpr ⟨hagree.compared, hagree.delta⟩
  have hcharge := (charge_eq_iff p x).mpr hagree.charge
  have hdischarge := (discharge_eq_iff p x).mpr hagree.discharge
  have hp := h.counted
  simp only [counters, List.forall_mem_cons] at hp
  obtain ⟨h1, h2, h3, h4, h5, h6, h7, h8, h9, h10, h11, h12, h13, h14, h15, h16, h17, -⟩ := hp
  rw [native_update_eq h]
  unfold EnergyLearningProfile.buildUpdatedLearningProfile updateActivityMarkers updateObservations updateCounts
    updatePeriodCounts updateGridCounts updateAverages
  dsimp only
  rw [htime, EnergyLearningProfile.mk.injEq, metrics_gridExport, night_iff]
  refine ⟨hsamples, hcount h1 (by rw [metrics_active]), hdirected h2 .charge, hdirected h3 .discharge,
    hcount h4 (gridCounts_iff x _ _), hcount h5 (gridCounts_iff x _ _), hcount h6 (gridCounts_iff x _ _),
    hcount h7 (gridCounts_iff x _ _), hcount h8 (gridCounts_iff x _ _), hcount h9 (activePeriodCounts_iff x .day),
    hcount h10 (activePeriodCounts_iff x .night), hcount h11 (periodCounts_iff x .charge nofun .day),
    hcount h12 (periodCounts_iff x .charge nofun .night), hcount h13 (periodCounts_iff x .discharge nofun .day),
    hcount h14 (periodCounts_iff x .discharge nofun .night), hcount h15 Iff.rfl, hcount h16 Iff.rfl, maxOptional_eq _ _,
    maxOptional_eq _ _, maxOptional_eq _ _, maxOptional_eq _ _, maxOptional_eq _ _, maxOptional_eq _ _, ?_, ?_,
    hcharge, hdischarge, hdelta, hdelay, hcount h17 Iff.rfl, metrics_direction x, metrics_active x, ?_, ?_, rfl⟩
  · show _ = VenusEvcharger.minOptional _ (if x.direction = .discharge then x.source.soc else none)
    rw [metrics_direction]
    split
    · exact minOptional_eq _ _
    · rfl
  · show _ = VenusEvcharger.maxOptional _ (if x.direction = .charge then x.source.soc else none)
    rw [metrics_direction]
    split
    · exact maxOptional_eq _ _
    · rfl
  · rw [metrics_active]
  · rw [metrics_active]

theorem update_agrees_iff (p : EnergyLearningProfile) (x : EnergySample) (h : Learned p) :
    updateLearningProfile p x = p.buildUpdatedLearningProfile x ↔ UpdatesAgree p x :=
  ⟨agrees_of_eq h, eq_of_agrees h⟩

/-! ## Every sequence of samples and every list of sources -/

/-- Both helpers have the same profile after every sample exactly when every sample agrees, and both aggregate the sources
to the same cluster exactly when the clusters agree. -/
theorem learning_and_clusters_agree_iff (samples : List EnergySample) (sources : List EnergySourceSnapshot) :
    ((∀ before after, samples = before ++ after →
        run updateLearningProfile {} before = run EnergyLearningProfile.buildUpdatedLearningProfile {} before) ↔
      Along EnergyLearningProfile.buildUpdatedLearningProfile UpdatesAgree {} samples) ∧
    (aggregateEnergySources sources = VenusEvcharger.aggregateEnergySources sources ↔ ClustersAgree sources) :=
  ⟨runs_agree_iff learned_step update_agrees_iff learned_empty, aggregate_agrees_iff sources⟩

/-- A sample of a battery at noon. -/
def batterySample (netBatteryPowerW now : ℚ) : EnergySample where
  source := ⟨"battery", "battery", some 50, none, some netBatteryPowerW, none, none, none, none, none, "", "", "", true, 1,
    some now, "", 0⟩
  now := now
  period := .day

/-- A battery that was charged with two powers has an average difference of them, which its next idle sample removes from
the native profile. -/
theorem idle_sample_drops_average :
    (run EnergyLearningProfile.buildUpdatedLearningProfile {}
      [batterySample (-1000) 0, batterySample (-1200) 10, batterySample 0 20]).averageActivePowerDeltaW = some 200 ∧
    (run updateLearningProfile {}
      [batterySample (-1000) 0, batterySample (-1200) 10, batterySample 0 20]).averageActivePowerDeltaW = none := by
  decide +kernel

end VenusEvcharger.AutoInputHelper
