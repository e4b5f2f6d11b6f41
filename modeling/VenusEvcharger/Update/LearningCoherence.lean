import VenusEvcharger.Update.LearnedPower

/-!
# A learned power comes from one session

From the sample that starts learning on, the run keeps the samples that learning accepted. As long as learning goes on
they belong to one session, the counter counts them, and the learned value lies between them, up to its rounding.
`stable_from_one_session` is the main result; it needs that the end of a session is measured before the next one
starts, since that is what ends learning (`state_of_measuresEnd`).
-/

namespace VenusEvcharger

open Library LearnedPower

/-- An accepted sample: its session, power and time, and the learned power that it was compared with. -/
structure LearningSample where
  session : ℚ
  power : ℚ
  baseline : ℚ
  time : ℚ
deriving DecidableEq

/-- The service, the samples since learning started last, and whether a session ended and no cycle has measured it. -/
structure LearningRun where
  service : LearningService
  samples : Option (List LearningSample)
  unmeasured : Bool

/-- The end of a cycle measures, with learning enabled and a confirmed reading, that no car charges. -/
def LearnedPower.Outcome.measuresEnd (o : Outcome) : Bool :=
  o.policy.enabled && o.confirmed && (!o.relayOn || decide (o.status ≠ 2))

namespace LearningRun

/-- A run that has not seen learning start. -/
def start (service : LearningService) : LearningRun := ⟨service, none, false⟩

/-- The samples after an accepted one. -/
def collect (samples : Option (List LearningSample)) (o : Outcome) (startedAt : ℚ) :
    SampleEffect → Option (List LearningSample)
  | .restart => some [⟨startedAt, o.power, o.power, o.now⟩]
  | .refresh _ => samples
  | .advance previous _ => samples.map (· ++ [⟨startedAt, o.power, previous, o.now⟩])

/-- The samples after the end of a cycle. -/
def collected (r : LearningRun) (o : Outcome) : Option (List LearningSample) :=
  match r.service.learning o with
  | .sample startedAt => collect r.samples o startedAt (r.service.learned.sampleEffect o.policy o.power o.now)
  | _ => r.samples

/-- One step of a run. -/
def step (r : LearningRun) : LearningEvent → LearningRun
  | .beforeDecision m => { r with service := r.service.beforeDecision m }
  | .publish status now =>
    { r with
      service := r.service.publish status now
      unmeasured := r.unmeasured || decide (status ≠ 2) && r.service.chargingStartedAt.isSome }
  | .learn o => ⟨r.service.learn o, r.collected o, r.unmeasured && !o.measuresEnd⟩

/-- The learned power of a run. -/
abbrev learned (r : LearningRun) : LearnedPower := r.service.learned

/-- The samples are of one session, enough, long enough, each was close to the value learned so far, and the learned
power lies between the smallest and the largest of them, as they are rounded. -/
structure Coherent (round : ℚ → ℚ) (learned : LearnedPower) (now : ℚ) (samples : List LearningSample) : Prop where
  session : ∀ a ∈ samples, ∀ b ∈ samples, a.session = b.session
  enough : stableMinSamples ≤ samples.length
  span : ∀ first ∈ samples.head?, adaptiveStableSeconds learned.stabilityScore ≤ now - first.time
  tolerance : ∀ sample ∈ samples.tail, |sample.power - sample.baseline| ≤ stabilityTolerance sample.baseline
  value : ∃ watts, learned.watts = some watts ∧ (∃ low ∈ samples, round low.power ≤ watts) ∧
    ∃ high ∈ samples, watts ≤ round high.power

/-- Learning ends with a stable power only at the end of a cycle, and with coherent samples. -/
def StableFromOneSession (round : ℚ → ℚ) (r : LearningRun) (event : LearningEvent) : Prop :=
  r.learned.state = .learning → (r.step event).learned.state = .stable →
    ∃ o, event = .learn o ∧ ∀ samples ∈ (r.step event).samples, Coherent round (r.step event).learned o.now samples

/-- A session starts only when the end of the one before was measured. -/
def StartsMeasured (r : LearningRun) : LearningEvent → Prop
  | .publish status _ => status = 2 → r.service.chargingStartedAt = none → r.unmeasured = false
  | _ => True

/-! ## Scores -/

theorem normalizedLearningScore_idem (value : ℚ) :
    normalizedLearningScore (normalizedLearningScore value) = normalizedLearningScore value := by
  have hone : roundTo 1000 (1 : ℚ) = 1 := by
    have hscaled : roundHalfEven (1 * (1000 : Nat) : ℚ) = 1000 := by
      rw [show (1 * (1000 : Nat) : ℚ) = ((1000 : Int) : ℚ) by norm_num]
      exact roundHalfEven_intCast 1000
    rw [roundTo, hscaled]
    norm_num
  have hlow : 0 ≤ normalizedLearningScore value := by
    have hzero : roundTo 1000 0 ≤ normalizedLearningScore value := roundTo_mono (le_max_left _ _)
    rwa [roundTo_zero] at hzero
  have hhigh : normalizedLearningScore value ≤ 1 := by
    rw [← hone]
    exact roundTo_mono (max_le (by norm_num) (min_le_left _ _))
  rw [normalizedLearningScore, min_eq_right hhigh, max_eq_right hlow]
  exact roundTo_roundTo _

theorem stabilityTolerance_pos (power : ℚ) : 0 < stabilityTolerance power :=
  lt_of_lt_of_le (by norm_num) (le_max_left _ _)

variable {previous : ℚ}

theorem close_of_score {power : ℚ} (h : ¬ sampleStabilityScore power previous ≤ 0) :
    |power - previous| ≤ stabilityTolerance previous := by
  by_contra hfar
  refine h (le_of_eq ?_)
  have hratio : 1 ≤ |power - previous| / stabilityTolerance previous :=
    (one_le_div (stabilityTolerance_pos previous)).mpr (not_le.mp hfar).le
  have hclamped : max 0 (min 1 (1 - |power - previous| / stabilityTolerance previous)) = 0 :=
    max_eq_left ((min_le_right _ _).trans (by linarith))
  rw [sampleStabilityScore, normalizedLearningScore, hclamped]
  exact roundTo_zero

/-! ## Before the decision -/

variable {learned : LearnedPower}

/-- Learning that goes on after the refresh went on before, and only the rounding was repeated. -/
theorem refresh_learning {policy : LearnChargePowerPolicy} {phase : Option LearnedPhase} {now : ℚ}
    (h : (learned.refresh policy phase now).state = .learning) :
    learned.state = .learning ∧ (learned.refresh policy phase now).sampleCount = learned.sampleCount ∧
      (learned.refresh policy phase now).learningSince = learned.learningSince ∧
      ∃ watts, learned.watts = some watts ∧
        (learned.refresh policy phase now).watts = some (roundTenth (roundTenth watts)) := by
  unfold refresh at h ⊢
  cases hpower : learned.storedPositive with
  | none =>
    rw [hpower] at h
    nomatch h
  | some power =>
    rw [hpower] at h
    dsimp only at h ⊢
    split at h
    · nomatch h
    · rename_i hphase
      rw [if_neg hphase]
      split at h
      · nomatch h
      · rename_i hstale
        rw [if_neg hstale]
        split at h
        · nomatch h
        · rename_i hunknown
          rw [if_neg hunknown]
          split at h
          · rename_i hstate
            rw [hstate] at h
            nomatch h
          · rename_i hstate
            rw [if_neg hstate]
            obtain ⟨hmap, -⟩ := Option.filter_eq_some_iff.mp hpower
            obtain ⟨watts, hwatts, rfl⟩ := Option.map_eq_some_iff.mp hmap
            exact ⟨h, rfl, rfl, watts, hwatts, rfl⟩

/-- Only a stable power is checked. -/
theorem signatureStep_of_not_stable (h : learned.state ≠ .stable)
    (chargingStartedAt lastVoltage : Option ℚ) (m : Measurement) :
    learned.signatureStep chargingStartedAt lastVoltage m = .unchecked := by
  rw [signatureStep, stablePower, if_neg h]

/-- Learning that goes on after the reconciliation was not touched by it. -/
theorem reconcile_learning {phase : Option LearnedPhase} {found : SignatureStep}
    (h : (learned.reconcile phase found).state = .learning) : learned.reconcile phase found = learned := by
  cases found with
  | unchecked => rfl
  | phaseReset => exact nomatch h
  | checked startedAt power mismatch =>
    rw [reconcile] at h
    split at h
    · exact absurd h (fun hstate => nomatch hstate)
    · exact absurd h (fun hstate => nomatch hstate)

theorem refresh_not_stable (hstate : learned.state = .learning) (policy : LearnChargePowerPolicy)
    (phase : Option LearnedPhase) (now : ℚ) : (learned.refresh policy phase now).state ≠ .stable := by
  intro h
  rw [refresh] at h
  split at h
  · nomatch h
  · split at h
    · nomatch h
    · split at h
      · nomatch h
      · split at h
        · rename_i hunknown
          nomatch hstate.symm.trans hunknown.1
        · split at h
          · rename_i hstale
            nomatch hstate.symm.trans hstale
          · nomatch hstate.symm.trans h

/-! ## Accepted samples -/

/-- What the stable test asks for. -/
theorem of_stableReady {count : Nat} {span score : ℚ} (h : stableReady count span score = true) :
    stableMinSamples ≤ count ∧ adaptiveStableSeconds score ≤ span := by
  rw [stableReady, Bool.and_eq_true, Bool.and_eq_true, decide_eq_true_iff, decide_eq_true_iff] at h
  exact h.1

/-- The time to become stable depends on the normalized score only. -/
theorem adaptiveStableSeconds_normalized (score : ℚ) :
    adaptiveStableSeconds (normalizedLearningScore score) = adaptiveStableSeconds score := by
  rw [adaptiveStableSeconds, adaptiveStableSeconds, normalizedLearningScore_idem]

/-! ## Samples while learning -/

/-- A learned power that is rounded and lies between samples. -/
def Between (watts : Option ℚ) (samples : List LearningSample) : Prop :=
  ∃ value, watts = some value ∧ roundTenth value = value ∧ (∃ low ∈ samples, roundTenth low.power ≤ value) ∧
    ∃ high ∈ samples, value ≤ roundTenth high.power

theorem between_first (sample : LearningSample) : Between (some (roundTenth sample.power)) [sample] :=
  ⟨_, rfl, roundTo_roundTo _, ⟨sample, List.mem_cons_self, le_rfl⟩, sample, List.mem_cons_self, le_rfl⟩

variable {samples : List LearningSample}

theorem Between.append (h : Between (some previous) samples)
    (policy : LearnChargePowerPolicy) (sample : LearningSample) :
    Between (some (roundTenth (smoothedPower policy.alpha previous sample.power))) (samples ++ [sample]) := by
  obtain ⟨value, hvalue, hround, ⟨low, hlow, hlowle⟩, high, hhigh, hhighle⟩ := h
  cases hvalue
  have hnew : sample ∈ samples ++ [sample] := List.mem_append_right _ List.mem_cons_self
  have hbelow : ∃ bound ∈ samples ++ [sample], roundTenth bound.power ≤ previous ∧ bound.power ≤ sample.power := by
    rcases le_total low.power sample.power with hle | hle
    · exact ⟨low, List.mem_append_left _ hlow, hlowle, hle⟩
    · exact ⟨sample, hnew, (roundTo_mono hle).trans hlowle, le_rfl⟩
  have habove : ∃ bound ∈ samples ++ [sample], previous ≤ roundTenth bound.power ∧ sample.power ≤ bound.power := by
    rcases le_total sample.power high.power with hle | hle
    · exact ⟨high, List.mem_append_left _ hhigh, hhighle, hle⟩
    · exact ⟨sample, hnew, hhighle.trans (roundTo_mono hle), le_rfl⟩
  obtain ⟨below, hbelowmem, hbelowheld, hbelownew⟩ := hbelow
  obtain ⟨above, habovemem, haboveheld, habovenew⟩ := habove
  have hmean := roundTo_mean_mem policy.alpha_pos.le policy.alpha_le_one ⟨hbelowheld, haboveheld⟩
    ⟨hbelownew, habovenew⟩
  exact ⟨_, rfl, roundTo_roundTo _, ⟨below, hbelowmem, hmean.1⟩, above, habovemem, hmean.2⟩

/-- The samples that learning collected, against its attributes. -/
structure Gathered (s : LearningService) (samples : List LearningSample) : Prop where
  session : ∃ session, (∀ sample ∈ samples, sample.session = session) ∧
    ∀ startedAt ∈ s.chargingStartedAt, startedAt = session
  count : s.learned.sampleCount = samples.length
  since : s.learned.learningSince = samples.head?.map (·.time)
  tolerance : ∀ sample ∈ samples.tail, |sample.power - sample.baseline| ≤ stabilityTolerance sample.baseline
  value : Between s.learned.watts samples

/-- While learning is under way, its samples are those that it counts, and it is not once a session has ended and that
was measured. -/
structure Gathering (r : LearningRun) : Prop where
  gathered : r.learned.state = .learning → ∀ samples ∈ r.samples, Gathered r.service samples
  ended : r.service.chargingStartedAt = none → r.unmeasured = false → r.learned.state = .learning → r.samples = none

variable {s : LearningService}

/-- Samples are there, since the learned power lies between them. -/
theorem Gathered.ne_nil (h : Gathered s samples) : samples ≠ [] := by
  obtain ⟨value, -, -, ⟨low, hlow, -⟩, -⟩ := h.value
  exact List.ne_nil_of_mem hlow

/-- An advance appends its sample to those that were gathered. -/
theorem Gathered.append (h : Gathered s samples) {startedAt : ℚ}
    (hcharging : s.chargingStartedAt = some startedAt) (hwatts : s.learned.watts = some previous)
    (o : Outcome) (hscore : ¬ sampleStabilityScore o.power previous ≤ 0) :
    let added := samples ++ [(⟨startedAt, o.power, previous, o.now⟩ : LearningSample)]
    (∀ sample ∈ added, sample.session = startedAt) ∧
      (∀ sample ∈ added.tail, |sample.power - sample.baseline| ≤ stabilityTolerance sample.baseline) ∧
      Between (some (roundTenth (smoothedPower o.policy.alpha previous o.power))) added := by
  intro added
  refine ⟨?_, ?_, ?_⟩
  · intro sample hsample
    obtain ⟨session, hall, hcurrent⟩ := h.session
    have hsession : startedAt = session := hcurrent startedAt hcharging
    rcases List.mem_append.mp hsample with hold | hnew
    · rw [hsession]
      exact hall sample hold
    · rw [List.mem_singleton.mp hnew]
  · intro sample hsample
    rw [List.tail_append_of_ne_nil h.ne_nil] at hsample
    rcases List.mem_append.mp hsample with hold | hnew
    · exact h.tolerance sample hold
    · rw [List.mem_singleton.mp hnew]
      exact close_of_score hscore
  · have hvalue := h.value
    rw [hwatts] at hvalue
    exact hvalue.append o.policy ⟨startedAt, o.power, previous, o.now⟩

/-- The count and the time of the first sample do not change for the samples that follow. -/
theorem Gathered.count_append (h : Gathered s samples) (sample : LearningSample) :
    max 1 s.learned.sampleCount + 1 = (samples ++ [sample]).length ∧
      ∀ now, some (s.learned.learningSince.getD now) = (samples ++ [sample]).head?.map (·.time) := by
  cases samples with
  | nil => exact absurd rfl h.ne_nil
  | cons first rest =>
    have hcount : s.learned.sampleCount = rest.length + 1 := h.count
    refine ⟨?_, fun now => ?_⟩
    · rw [List.length_append, List.length_cons, List.length_singleton]
      omega
    · rw [h.since]
      rfl

/-! ## Steps -/

variable {r : LearningRun}

theorem gathering_beforeDecision (h : r.Gathering) (m : Measurement) :
    (r.step (.beforeDecision m)).Gathering := by
  have hbefore : (r.step (.beforeDecision m)).learned.state = .learning →
      (r.step (.beforeDecision m)).learned = r.service.refreshed m ∧ (r.service.refreshed m).state = .learning := by
    intro hstate
    have hafter : (r.step (.beforeDecision m)).learned = r.service.refreshed m := reconcile_learning hstate
    exact ⟨hafter, hafter ▸ hstate⟩
  refine ⟨fun hstate samples hsamples => ?_, fun hended hmeasured hstate => ?_⟩
  · obtain ⟨hafter, hrefreshed⟩ := hbefore hstate
    obtain ⟨hlearning, hcount, hsince, watts, hwatts, hrounded⟩ := refresh_learning hrefreshed
    have hgathered := h.gathered hlearning samples hsamples
    refine ⟨hgathered.session, ?_, ?_, hgathered.tolerance, ?_⟩
    · exact (congrArg LearnedPower.sampleCount hafter).trans (hcount.trans hgathered.count)
    · exact (congrArg LearnedPower.learningSince hafter).trans (hsince.trans hgathered.since)
    · obtain ⟨value, hvalue, hround, hbounds⟩ := hgathered.value
      have hsame : watts = value := Option.some.inj (hwatts.symm.trans hvalue)
      refine ⟨value, (congrArg LearnedPower.watts hafter).trans (hrounded.trans ?_), hround, hbounds⟩
      rw [hsame, hround, hround]
  · exact h.ended hended hmeasured (refresh_learning (hbefore hstate).2).1

theorem gathering_publish (h : r.Gathering) {status : Int} {now : ℚ}
    (hok : r.StartsMeasured (.publish status now)) :
    (r.step (.publish status now)).Gathering := by
  refine ⟨fun hstate samples hsamples => ?_, fun hended hmeasured hstate => ?_⟩
  · have hgathered := h.gathered hstate samples hsamples
    obtain ⟨session, hall, hcurrent⟩ := hgathered.session
    refine ⟨⟨session, hall, ?_⟩, hgathered.count, hgathered.since, hgathered.tolerance, hgathered.value⟩
    intro startedAt hstarted
    have hpublished : (if status = 2 then some (r.service.chargingStartedAt.getD now) else none) = some startedAt :=
      hstarted
    split at hpublished
    · rename_i hstatus
      cases hcharging : r.service.chargingStartedAt with
      | none => exact nomatch (h.ended hcharging (hok hstatus hcharging) hstate).symm.trans hsamples
      | some started =>
        rw [hcharging] at hpublished
        exact hcurrent startedAt (hcharging.trans hpublished)
    · nomatch hpublished
  · change (if status = 2 then some (r.service.chargingStartedAt.getD now) else none) = none at hended
    change (r.unmeasured || decide (status ≠ 2) && r.service.chargingStartedAt.isSome) = false at hmeasured
    split at hended
    · nomatch hended
    · rename_i hstatus
      rw [Bool.or_eq_false_iff, decide_eq_true hstatus, Bool.true_and] at hmeasured
      exact h.ended (Option.isSome_eq_false_iff.mp hmeasured.2 |> Option.isNone_iff_eq_none.mp) hmeasured.1 hstate

/-- A cycle that measures that no car charges ends learning. -/
theorem state_of_measuresEnd (s : LearningService) {o : Outcome} (h : o.measuresEnd = true) :
    (s.learn o).learned.state ≠ .learning := by
  rw [Outcome.measuresEnd, Bool.and_eq_true, Bool.and_eq_true, Bool.or_eq_true, Bool.not_eq_true', decide_eq_true_eq] at h
  obtain ⟨⟨henabled, hconfirmed⟩, hend⟩ := h
  have hmeasured : ¬ (o.policy.enabled = false ∨ o.confirmed = false) := by
    rw [henabled, hconfirmed]
    simp
  have hstep : s.learning o = if s.learned.state = .learning then .clear else .keep := by
    rw [LearningService.learning, learningStep, if_neg hmeasured, if_pos hend]
  rw [LearningService.learn, hstep]
  split
  · exact LearningState.noConfusion
  · rename_i hnot
    exact hnot

/-- Everything the end of a cycle does, by what becomes of the measurement. -/
theorem learn_cases (r : LearningRun) (o : Outcome) :
    (r.service.learn o = r.service ∧ r.collected o = r.samples) ∨ (r.service.learn o).learned.state = .unknown ∨
      (r.service.learn o =
          { r.service with learned := { r.learned with stabilityScore := normalizedLearningScore 0 } } ∧
        r.collected o = r.samples) ∨
      ∃ startedAt effect, r.service.chargingStartedAt = some startedAt ∧
        r.learned.sampleEffect o.policy o.power o.now = effect ∧
        r.service.learn o = { r.service with
          learned := r.learned.applySample o (voltageSignature o.voltage r.service.lastVoltage) startedAt effect } ∧
        r.collected o = collect r.samples o startedAt effect := by
  rw [LearningService.learn, collected]
  cases hlearning : r.service.learning o with
  | keep => exact .inl ⟨rfl, rfl⟩
  | clear => exact .inr (.inl rfl)
  | reject => exact .inr (.inr (.inl ⟨rfl, rfl⟩))
  | sample startedAt =>
    exact .inr (.inr (.inr ⟨startedAt, _, chargingStartedAt_of_sample hlearning, rfl, rfl, rfl⟩))

theorem gathering_learn (h : r.Gathering) (o : Outcome) : (r.step (.learn o)).Gathering := by
  refine ⟨fun hstate samples hsamples => ?_, fun hended hmeasured hstate => ?_⟩
  · change (r.service.learn o).learned.state = .learning at hstate
    change samples ∈ r.collected o at hsamples
    show Gathered (r.service.learn o) samples
    rcases r.learn_cases o with ⟨hsame, hkept⟩ | hunknown | ⟨hreject, hkept⟩ |
      ⟨startedAt, effect, hcharging, heffect, hafter, hcollected⟩
    · rw [hsame] at hstate ⊢
      exact h.gathered hstate samples (hkept ▸ hsamples)
    · nomatch hunknown.symm.trans hstate
    · rw [hreject] at hstate ⊢
      have hgathered := h.gathered hstate samples (hkept ▸ hsamples)
      exact ⟨hgathered.session, hgathered.count, hgathered.since, hgathered.tolerance, hgathered.value⟩
    · rw [hafter] at hstate ⊢
      rw [hcollected] at hsamples
      cases effect with
      | restart =>
        cases hsamples
        have hvalue := between_first ⟨startedAt, o.power, o.power, o.now⟩
        refine ⟨⟨startedAt, ?_, ?_⟩, rfl, rfl, ?_, hvalue⟩
        · intro sample hsample
          rw [List.mem_singleton.mp hsample]
        · intro started hstarted
          exact Option.some.inj (hstarted.symm.trans hcharging)
        · intro sample hsample
          exact absurd hsample List.not_mem_nil
      | refresh previous =>
        rw [applySample] at hstate
        nomatch hstate
      | advance previous stable =>
        obtain ⟨hlearning, hwatts, hscore, -⟩ := sampleEffect_advance heffect
        cases stable with
        | true =>
          rw [applySample] at hstate
          nomatch hstate
        | false =>
          obtain ⟨gathered, hgathered, rfl⟩ := Option.map_eq_some_iff.mp hsamples
          have hold := h.gathered hlearning gathered hgathered
          obtain ⟨hsession, htolerance, hvalue⟩ := hold.append hcharging hwatts o hscore
          obtain ⟨hcount, hsince⟩ := hold.count_append ⟨startedAt, o.power, previous, o.now⟩
          refine ⟨⟨startedAt, hsession, ?_⟩, hcount, hsince o.now, htolerance, hvalue⟩
          intro started hstarted
          exact Option.some.inj (hstarted.symm.trans hcharging)
  · change r.service.chargingStartedAt = none at hended
    change (r.unmeasured && !o.measuresEnd) = false at hmeasured
    change (r.service.learn o).learned.state = .learning at hstate
    show r.collected o = none
    have hopen : o.measuresEnd = false := by
      by_contra hmeasures
      exact state_of_measuresEnd r.service (Bool.not_eq_false _ ▸ hmeasures) hstate
    rw [hopen, Bool.not_false, Bool.and_true] at hmeasured
    rcases r.learn_cases o with ⟨hsame, hkept⟩ | hunknown | ⟨hreject, hkept⟩ | ⟨startedAt, effect, hcharging, -⟩
    · rw [hsame] at hstate
      rw [hkept]
      exact h.ended hended hmeasured hstate
    · nomatch hunknown.symm.trans hstate
    · rw [hreject] at hstate
      rw [hkept]
      exact h.ended hended hmeasured hstate
    · nomatch hended.symm.trans hcharging

theorem gathering_step (h : r.Gathering) (event : LearningEvent) (hok : r.StartsMeasured event) :
    (r.step event).Gathering := by
  cases event with
  | beforeDecision m => exact gathering_beforeDecision h m
  | publish status now => exact gathering_publish h hok
  | learn o => exact gathering_learn h o

theorem Gathered.coherent (h : Gathered s samples) {startedAt : ℚ}
    (hcharging : s.chargingStartedAt = some startedAt) {o : Outcome}
    (heffect : s.learned.sampleEffect o.policy o.power o.now = .advance previous true)
    (voltage : Option ℚ) :
    Coherent roundTenth (s.learned.applySample o voltage startedAt (.advance previous true)) o.now
      (samples ++ [⟨startedAt, o.power, previous, o.now⟩]) := by
  obtain ⟨-, hwatts, hscore, hready⟩ := sampleEffect_advance heffect
  obtain ⟨hsession, htolerance, value, hvalue, -, hbounds⟩ := h.append hcharging hwatts o hscore
  have hstored : (s.learned.applySample o voltage startedAt (.advance previous true)).watts = some value := by
    rw [← hvalue, applySample, applyStable, setTracking]
    rfl
  obtain ⟨hcount, hsince⟩ := h.count_append ⟨startedAt, o.power, previous, o.now⟩
  obtain ⟨henough, hspan⟩ := of_stableReady hready.symm
  refine ⟨?_, ?_, ?_, htolerance, value, hstored, hbounds⟩
  · intro a ha b hb
    rw [hsession a ha, hsession b hb]
  · rw [← hcount]
    exact henough
  · intro first hfirst
    have htime : s.learned.learningSince.getD o.now = first.time := by
      have hhead := hsince o.now
      rw [hfirst] at hhead
      exact Option.some.inj hhead
    rw [applySample, applyStable, setTracking, adaptiveStableSeconds_normalized, ← htime]
    exact hspan

/-- A step that ends learning with a stable power does so with coherent samples. -/
theorem stableFromOneSession_of_gathering (h : r.Gathering) (event : LearningEvent) :
    StableFromOneSession roundTenth r event := by
  intro hlearning hstable
  cases event with
  | beforeDecision m =>
    have hrefreshed : (r.service.refreshed m).state ≠ .stable := refresh_not_stable hlearning _ _ _
    have hafter : (r.step (.beforeDecision m)).learned = r.service.refreshed m := by
      show (r.service.refreshed m).reconcile m.phase (r.service.check m) = _
      rw [LearningService.check, signatureStep_of_not_stable hrefreshed]
      rfl
    rw [hafter] at hstable
    exact absurd hstable hrefreshed
  | publish status now => exact nomatch hlearning.symm.trans hstable
  | learn o =>
    refine ⟨o, rfl, ?_⟩
    change (r.service.learn o).learned.state = .stable at hstable
    show ∀ samples ∈ r.collected o, Coherent roundTenth (r.service.learn o).learned o.now samples
    rcases r.learn_cases o with ⟨hsame, -⟩ | hunknown | ⟨hreject, -⟩ |
      ⟨startedAt, effect, hcharging, heffect, hafter, hcollected⟩
    · rw [hsame] at hstable
      nomatch hlearning.symm.trans hstable
    · nomatch hunknown.symm.trans hstable
    · rw [hreject] at hstable
      nomatch hlearning.symm.trans hstable
    · rw [hafter] at hstable ⊢
      rw [hcollected]
      intro samples hsamples
      cases effect with
      | restart => exact nomatch hstable
      | refresh previous => exact nomatch hlearning.symm.trans (sampleEffect_refresh heffect).1
      | advance previous stable =>
        cases stable with
        | false => exact nomatch hstable
        | true =>
          obtain ⟨gathered, hgathered, rfl⟩ := Option.map_eq_some_iff.mp hsamples
          exact (h.gathered hlearning gathered hgathered).coherent hcharging heffect _

/-! ## Runs -/

/-- In a run in which the end of each session is measured before the next one starts, a power becomes stable only from
coherent samples of one session: enough of them, over enough time, each close to the value at its turn, and the value
between them. -/
theorem stable_from_one_session (service : LearningService) (events : List LearningEvent)
    (h : Along step StartsMeasured (start service) events) :
    Along step (StableFromOneSession roundTenth) (start service) events :=
  along_of_invariant (fun _ event hgathering hok => gathering_step hgathering event hok)
    (fun _ event hgathering _ => stableFromOneSession_of_gathering hgathering event)
    ⟨fun _ _ hsamples => (nomatch hsamples), fun _ _ _ => rfl⟩ h

/-! ## Three samples -/

/-- A policy with a window that is open from the start of a session. -/
def openWindow : LearnChargePowerPolicy := ⟨true, 1000, 1 / 5, 0, 0, 0, fifth_pos, fifth_le_one⟩

/-- The end of a cycle that measured a car charging on one phase. -/
def charging (power now : ℚ) : LearningEvent :=
  .learn ⟨openWindow, some .l1, true, 16, true, 2, power, 230, true, now⟩

/-- Nothing was learned, and no car charges. -/
def idle : LearningService := ⟨⟨.unknown, none, none, none, 0, none, none, 0, none, 0⟩, none, none⟩

/-- Three samples of one session. -/
def oneSession (power : ℚ) : List LearningEvent :=
  [.publish 2 0, charging power 0, .publish 2 8, charging power 8, .publish 2 16, charging power 16]

/-- The end of the first session is published by an offline cycle, which does not learn. -/
def twoSessions : List LearningEvent :=
  [.publish 2 0, charging 2300 0, .publish 0 4, .publish 2 8, charging 2300 8, .publish 2 16, charging 2300 16]

/-- The first session ends after one sample, and a cycle measures that; the second one has three samples. -/
def measuredSessions : List LearningEvent :=
  [.publish 2 0, charging 2300 0, .publish 0 4, .learn ⟨openWindow, some .l1, true, 16, true, 0, 0, 230, true, 4⟩] ++
    [.publish 2 8, charging 2310 8, .publish 2 16, charging 2300 16, .publish 2 24, charging 2290 24]

theorem stable_from_one_session_second :
    Along step StartsMeasured (start idle) measuredSessions ∧
      (run step (start idle) measuredSessions).learned.state = .stable ∧
      (run step (start idle) measuredSessions).samples =
        some [⟨8, 2310, 2310, 8⟩, ⟨8, 2300, 2310, 16⟩, ⟨8, 2290, 2308, 24⟩] ∧
      Along step (StableFromOneSession roundTenth) (start idle) measuredSessions := by
  have hok : Along step StartsMeasured (start idle) measuredSessions :=
    ⟨fun _ _ => rfl, trivial, fun _ hnone => (nomatch hnone), trivial, fun _ _ => by decide +kernel, trivial,
      fun _ hnone => (nomatch hnone), trivial, fun _ hnone => (nomatch hnone), trivial, trivial⟩
  exact ⟨hok, by decide +kernel, by decide +kernel, stable_from_one_session idle measuredSessions hok⟩

/-- What a run ends with when its last event made the power stable. -/
theorem coherent_of_run {round : ℚ → ℚ} {service : LearningService} (events : List LearningEvent)
    (last : LearningEvent)
    (h : Along step (StableFromOneSession round) (start service) (events ++ [last]))
    (hlearning : (run step (start service) events).learned.state = .learning)
    (hstable : (run step (start service) (events ++ [last])).learned.state = .stable)
    (hsamples : (run step (start service) (events ++ [last])).samples = some samples) :
    ∃ now, Coherent round (run step (start service) (events ++ [last])).learned now samples := by
  rw [run_append] at hstable hsamples ⊢
  obtain ⟨o, -, hall⟩ := (along_append.mp h).2.1 hlearning hstable
  exact ⟨o.now, hall samples hsamples⟩

/-- The stored value is rounded to a tenth of a watt, below the samples; and a session whose end was hidden shares its
samples with the next one. -/
theorem stable_below_samples_or_of_two_sessions :
    ¬ Along step (StableFromOneSession id) (start idle) (oneSession (230004 / 100)) ∧
      ¬ Along step (StableFromOneSession roundTenth) (start idle) twoSessions := by
  constructor
  · intro h
    obtain ⟨now, hcoherent⟩ := coherent_of_run (oneSession (230004 / 100)).dropLast _ h (by decide +kernel)
      (by decide +kernel)
      (show _ = some [⟨0, 230004 / 100, 230004 / 100, 0⟩, ⟨0, 230004 / 100, 2300, 8⟩, ⟨0, 230004 / 100, 2300, 16⟩] by
        decide +kernel)
    obtain ⟨watts, hwatts, ⟨low, hlow, hle⟩, -⟩ := hcoherent.value
    have hstored : (run step (start idle) (oneSession (230004 / 100))).learned.watts = some 2300 := by decide +kernel
    have hvalue : watts = 2300 := Option.some.inj (hwatts.symm.trans hstored)
    have hlowpower : low.power = 230004 / 100 := by
      simp only [List.mem_cons, List.not_mem_nil, or_false] at hlow
      rcases hlow with rfl | rfl | rfl <;> rfl
    rw [hvalue, id, hlowpower] at hle
    norm_num at hle
  · intro h
    obtain ⟨now, hcoherent⟩ := coherent_of_run twoSessions.dropLast _ h (by decide +kernel)
      (by decide +kernel)
      (show _ = some [⟨0, 2300, 2300, 0⟩, ⟨8, 2300, 2300, 8⟩, ⟨8, 2300, 2300, 16⟩] by decide +kernel)
    have hsame : (0 : ℚ) = 8 :=
      hcoherent.session ⟨0, 2300, 2300, 0⟩ (by simp) ⟨8, 2300, 2300, 8⟩ (by simp)
    norm_num at hsame

end LearningRun

end VenusEvcharger
