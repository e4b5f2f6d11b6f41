import VenusEvcharger.Update.LearnedPower

/-!
# Mismatching sessions discard a learned power

A session is checked once against the stable learned power, and sessions that mismatch one after the other discard it.
The run numbers the sessions and remembers which of them were checked and which mismatched. An accepted sample of a
stable power starts the stored count anew, whatever the check of its session found; `checks_sessions` is for the runs
in which that takes nothing away, and `second_mismatch_ignored` is a run in which it does.
-/

namespace VenusEvcharger

open Library LearnedPower

/-- The service, the number of the session, the sessions whose signature was checked and those that mismatched, and how
many of the last checks mismatched since the power is stable. -/
structure SignatureRun where
  service : LearningService
  session : Nat
  checked : List Nat
  mismatched : List Nat
  mismatchRun : Nat

namespace SignatureRun

/-- A run that has not seen a check. -/
def start (service : LearningService) : SignatureRun := ⟨service, 0, [], [], 0⟩

/-- The learned power of a run. -/
abbrev learned (r : SignatureRun) : LearnedPower := r.service.learned

/-- The run of mismatches ends when the power is not stable. -/
def whileStable (learned : LearnedPower) (mismatches : Nat) : Nat := if learned.state = .stable then mismatches else 0

/-- The run of mismatches after what a reconciliation found. -/
def countCheck (mismatches : Nat) : SignatureStep → Nat
  | .checked _ _ true => mismatches + 1
  | .checked _ _ false => 0
  | _ => mismatches

/-- The sessions with a check, and those whose check mismatched, after a reconciliation. -/
def recordCheck (r : SignatureRun) : SignatureStep → List Nat × List Nat
  | .checked _ _ true => (r.session :: r.checked, r.session :: r.mismatched)
  | .checked _ _ false => (r.session :: r.checked, r.mismatched)
  | _ => (r.checked, r.mismatched)

/-- One step of a run. -/
def step (r : SignatureRun) : LearningEvent → SignatureRun
  | .beforeDecision m =>
    let after := r.service.beforeDecision m
    let found := r.service.check m
    ⟨after, r.session, (r.recordCheck found).1, (r.recordCheck found).2,
      whileStable after.learned (countCheck r.mismatchRun found)⟩
  | .publish status now =>
    { r with
      service := r.service.publish status now
      session := if status = 2 ∧ r.service.chargingStartedAt = none then r.session + 1 else r.session }
  | .learn o =>
    let after := r.service.learn o
    { r with service := after, mismatchRun := whileStable after.learned r.mismatchRun }

/-- A sample is accepted to smooth the stable power. -/
def Smooths (r : SignatureRun) (o : Outcome) : Prop :=
  ∃ startedAt previous, r.service.learning o = .sample startedAt ∧
    r.learned.sampleEffect o.policy o.power o.now = .refresh previous

/-- A session is checked once, mismatches in a row discard the learned power at the last of their checks, and the samples
of a session that mismatched leave the count as it is. -/
def ChecksSessions (r : SignatureRun) : LearningEvent → Prop
  | .beforeDecision m => ∀ startedAt power mismatch, r.service.check m = .checked startedAt power mismatch →
      r.session ∉ r.checked ∧ (mismatch = true → signatureMismatchSessions ≤ r.mismatchRun + 1 →
        (r.step (.beforeDecision m)).learned.state = .unknown ∧ (r.step (.beforeDecision m)).learned.watts = none)
  | .publish _ _ => True
  | .learn o => r.session ∈ r.mismatched → r.Smooths o →
      (r.step (.learn o)).learned.mismatchSessions = r.learned.mismatchSessions

/-- A sample that is accepted to smooth the stable power finds no mismatch counted. -/
def KeepsCount (r : SignatureRun) : LearningEvent → Prop
  | .learn o => r.Smooths o → r.learned.mismatchSessions = 0
  | _ => True

/-! ## What the steps do -/

/-- A refresh discards the power, lets it go stale, or keeps what the checks stored; only a power that was restored
becomes stable by it. -/
theorem refresh_cases (learned : LearnedPower) (policy : LearnChargePowerPolicy) (phase : Option LearnedPhase) (now : ℚ) :
    learned.refresh policy phase now = learned.clear ∨ (learned.refresh policy phase now).state = .stale ∨
      learned.watts ≠ none ∧
        (learned.refresh policy phase now).mismatchSessions = learned.mismatchSessions ∧
        (learned.refresh policy phase now).checkedSessionStartedAt = learned.checkedSessionStartedAt ∧
        ((learned.refresh policy phase now).state = learned.state ∨ learned.state = .unknown) := by
  unfold refresh
  cases hpower : learned.storedPositive with
  | none => exact .inl rfl
  | some power =>
    have hwatts : learned.watts ≠ none := by
      intro hnone
      rw [storedPositive, hnone] at hpower
      nomatch hpower
    dsimp only
    split
    · exact .inl rfl
    · split
      · exact .inr (.inl rfl)
      · split
        · rename_i hunknown
          exact .inr (.inr ⟨hwatts, rfl, rfl, .inr hunknown.1⟩)
        · split
          · rename_i hstale
            exact .inr (.inl hstale)
          · exact .inr (.inr ⟨hwatts, rfl, rfl, .inl rfl⟩)

variable {learned : LearnedPower}

/-- A mismatch that is one too many discards the power. -/
theorem reconcile_mismatch (phase : Option LearnedPhase) (startedAt power : ℚ)
    (h : signatureMismatchSessions ≤ learned.mismatchSessions + 1) :
    learned.reconcile phase (.checked startedAt power true) = learned.clear := by
  rw [reconcile, if_pos ⟨rfl, h⟩]

/-- A check that does not discard the power counts, and is remembered. -/
theorem reconcile_checked (learned : LearnedPower) (phase : Option LearnedPhase) (startedAt power : ℚ) (mismatch : Bool) :
    learned.reconcile phase (.checked startedAt power mismatch) = learned.clear ∨
      (learned.reconcile phase (.checked startedAt power mismatch)).state = .stable ∧
        (learned.reconcile phase (.checked startedAt power mismatch)).checkedSessionStartedAt = some startedAt ∧
        (learned.reconcile phase (.checked startedAt power mismatch)).mismatchSessions =
          if mismatch then learned.mismatchSessions + 1 else 0 := by
  rw [reconcile]
  split
  · exact .inl rfl
  · exact .inr ⟨rfl, rfl, rfl⟩

/-! ## The invariant -/

/-- The stored count covers the mismatches in a row, and the session that was checked is remembered. -/
structure Tracked (r : SignatureRun) : Prop where
  count : r.mismatchRun ≤ whileStable r.learned r.learned.mismatchSessions
  numbered : ∀ session ∈ r.checked, session ≤ r.session
  remembered : r.session ∈ r.checked → r.learned.state = .stable →
    ∀ startedAt ∈ r.service.chargingStartedAt, r.learned.checkedSessionStartedAt = some startedAt
  discarded : r.session ∈ r.checked → r.learned.state = .unknown → r.learned.watts = none

theorem tracked_start (service : LearningService) : (start service).Tracked := by
  refine ⟨Nat.zero_le _, ?_, ?_, ?_⟩
  · intro session hsession
    exact absurd hsession List.not_mem_nil
  · intro hsession
    exact absurd hsession List.not_mem_nil
  · intro hsession
    exact absurd hsession List.not_mem_nil

theorem whileStable_le (learned : LearnedPower) (mismatches : Nat) : whileStable learned mismatches ≤ mismatches := by
  rw [whileStable]
  split
  · exact le_rfl
  · exact Nat.zero_le _

theorem whileStable_of_stable (h : learned.state = .stable) (mismatches : Nat) :
    whileStable learned mismatches = mismatches := if_pos h

theorem whileStable_of_not (h : learned.state ≠ .stable) (mismatches : Nat) :
    whileStable learned mismatches = 0 := if_neg h

variable {r : SignatureRun}

/-- Nothing is tracked of a power that was discarded. -/
theorem tracked_of_clear (hnumbered : ∀ session ∈ r.checked, session ≤ r.session)
    (hclear : r.learned = learned.clear) (mismatches : Nat)
    (hcount : r.mismatchRun = whileStable r.learned mismatches) : r.Tracked := by
  have hunknown : r.learned.state = .unknown := by
    rw [hclear]
    rfl
  have hunstable : r.learned.state ≠ .stable := fun hstable => nomatch hunknown.symm.trans hstable
  refine ⟨?_, hnumbered, fun _ hstable => absurd hstable hunstable, ?_⟩
  · rw [hcount, whileStable_of_not hunstable]
    exact Nat.zero_le _
  · intro _ _
    rw [hclear]
    rfl

theorem tracked_of_none (hnone : r.mismatchRun = whileStable r.learned 0)
    (hnumbered : ∀ session ∈ r.checked, session ≤ r.session)
    (hremembered : r.learned.state = .stable →
      ∀ startedAt ∈ r.service.chargingStartedAt, r.learned.checkedSessionStartedAt = some startedAt)
    (hknown : r.learned.state ≠ .unknown) : r.Tracked := by
  refine ⟨?_, hnumbered, fun _ => hremembered, fun _ hunknown => absurd hunknown hknown⟩
  rw [hnone]
  exact (whileStable_le _ _).trans (Nat.zero_le _)

theorem Tracked.of_check (h : r.Tracked) {m : Measurement} {startedAt power : ℚ} {mismatch : Bool}
    (hfound : r.service.check m = .checked startedAt power mismatch) :
    r.session ∉ r.checked ∧ r.service.chargingStartedAt = some startedAt ∧
      r.mismatchRun ≤ (r.service.refreshed m).mismatchSessions := by
  obtain ⟨hstable, hcharging, hunchecked⟩ := signatureStep_checked hfound
  rcases refresh_cases r.learned m.policy m.phase m.now with hclear | hstale | ⟨hwatts, hcount, hsession, hstate⟩
  · nomatch (congrArg LearnedPower.state hclear).symm.trans hstable
  · nomatch hstale.symm.trans hstable
  · refine ⟨?_, hcharging, ?_⟩
    · intro hchecked
      rcases hstate with hsame | hunknown
      · have hremembered := h.remembered hchecked (hsame.symm.trans hstable) startedAt hcharging
        exact hunchecked (hsession.trans hremembered)
      · exact hwatts (h.discarded hchecked hunknown)
    · show r.mismatchRun ≤ (r.learned.refresh m.policy m.phase m.now).mismatchSessions
      rw [hcount]
      exact h.count.trans (whileStable_le _ _)

/-- A refresh without a check keeps what is tracked. -/
theorem Tracked.refreshed (h : r.Tracked) (m : Measurement) :
    ({ r with
      service := { r.service with learned := r.service.refreshed m, lastVoltage := r.service.seenVoltage m.voltage }
      mismatchRun := whileStable (r.service.refreshed m) r.mismatchRun } : SignatureRun).Tracked := by
  rcases refresh_cases r.learned m.policy m.phase m.now with hclear | hstale | ⟨hwatts, hcount, hsession, hstate⟩
  · exact tracked_of_clear h.numbered hclear _ rfl
  · have hunstable : (r.service.refreshed m).state ≠ .stable := fun hstable => nomatch hstale.symm.trans hstable
    refine ⟨?_, h.numbered, fun _ hstable => absurd hstable hunstable, fun _ hunknown => ?_⟩
    · rw [whileStable_of_not hunstable]
      exact Nat.zero_le _
    · nomatch hstale.symm.trans hunknown
  · have hknown : r.session ∈ r.checked → r.learned.state ≠ .unknown :=
      fun hchecked hunknown => hwatts (h.discarded hchecked hunknown)
    refine ⟨?_, h.numbered, ?_, ?_⟩
    · show whileStable (r.service.refreshed m) r.mismatchRun
        ≤ whileStable (r.service.refreshed m) (r.service.refreshed m).mismatchSessions
      have hcovered : r.mismatchRun ≤ (r.service.refreshed m).mismatchSessions := by
        rw [LearningService.refreshed, hcount]
        exact h.count.trans (whileStable_le _ _)
      rw [whileStable, whileStable]
      split
      · exact hcovered
      · exact le_rfl
    · intro hchecked hstable startedAt hcharging
      rcases hstate with hsame | hunknown
      · exact hsession.trans (h.remembered hchecked (hsame.symm.trans hstable) startedAt hcharging)
      · exact absurd hunknown (hknown hchecked)
    · intro hchecked hunknown
      rcases hstate with hsame | hbefore
      · exact absurd (hsame.symm.trans hunknown) (hknown hchecked)
      · exact absurd hbefore (hknown hchecked)

theorem recordCheck_checked (r : SignatureRun) (startedAt power : ℚ) (mismatch : Bool) :
    (r.recordCheck (.checked startedAt power mismatch)).1 = r.session :: r.checked := by
  cases mismatch <;> rfl

theorem tracked_beforeDecision (h : r.Tracked) (m : Measurement) :
    (r.step (.beforeDecision m)).Tracked := by
  cases hfound : r.service.check m with
  | unchecked =>
    rw [step, LearningService.beforeDecision, hfound]
    exact h.refreshed m
  | phaseReset =>
    rw [step, LearningService.beforeDecision, hfound]
    exact tracked_of_clear h.numbered rfl r.mismatchRun rfl
  | checked startedAt power mismatch =>
    obtain ⟨-, hcharging, hcovered⟩ := h.of_check hfound
    have hnumbered : ∀ session ∈ r.session :: r.checked, session ≤ r.session := by
      intro session hsession
      rcases List.mem_cons.mp hsession with rfl | hold
      · exact le_rfl
      · exact h.numbered session hold
    rw [step, LearningService.beforeDecision, hfound, recordCheck_checked]
    rcases reconcile_checked (r.service.refreshed m) m.phase startedAt power mismatch with
      hclear | ⟨hstable, hremembered, hcounted⟩
    · exact tracked_of_clear hnumbered hclear _ rfl
    · refine ⟨?_, hnumbered, ?_, ?_⟩
      · show whileStable _ (countCheck r.mismatchRun (.checked startedAt power mismatch)) ≤ whileStable _ _
        rw [whileStable_of_stable hstable, whileStable_of_stable hstable, hcounted]
        cases mismatch with
        | true => exact Nat.succ_le_succ hcovered
        | false => exact le_rfl
      · intro _ _ started hstarted
        exact hremembered.trans (hcharging.symm.trans hstarted)
      · intro _ hunknown
        nomatch hstable.symm.trans hunknown

theorem tracked_publish (h : r.Tracked) (status : Int) (now : ℚ) :
    (r.step (.publish status now)).Tracked := by
  rw [step, LearningService.publish]
  by_cases hnew : status = 2 ∧ r.service.chargingStartedAt = none
  · -- a new session has the next number, so it is none of those that were checked
    have hfresh : r.session + 1 ∉ r.checked := by
      intro hchecked
      have hle := h.numbered (r.session + 1) hchecked
      omega
    rw [if_pos hnew]
    refine ⟨h.count, ?_, fun hchecked => absurd hchecked hfresh, fun hchecked => absurd hchecked hfresh⟩
    intro session hsession
    exact (h.numbered session hsession).trans (Nat.le_succ _)
  · rw [if_neg hnew]
    refine ⟨h.count, h.numbered, ?_, h.discarded⟩
    intro hchecked hstable startedAt hstarted
    have hpublished : (if status = 2 then some (r.service.chargingStartedAt.getD now) else none) = some startedAt := hstarted
    split at hpublished
    · rename_i hstatus
      cases hcharging : r.service.chargingStartedAt with
      | none => exact absurd ⟨hstatus, hcharging⟩ hnew
      | some started =>
        rw [hcharging] at hpublished
        exact h.remembered hchecked hstable startedAt (hcharging.trans hpublished)
    · nomatch hpublished

theorem tracked_learn (h : r.Tracked) {o : Outcome} (hok : r.KeepsCount (.learn o)) :
    (r.step (.learn o)).Tracked := by
  rw [step, LearningService.learn]
  cases hlearning : r.service.learning o with
  | keep =>
    refine ⟨?_, h.numbered, h.remembered, h.discarded⟩
    show whileStable r.learned r.mismatchRun ≤ _
    exact (whileStable_le _ _).trans h.count
  | clear => exact tracked_of_clear h.numbered rfl r.mismatchRun rfl
  | reject =>
    refine ⟨?_, h.numbered, h.remembered, h.discarded⟩
    show whileStable r.learned r.mismatchRun ≤ _
    exact (whileStable_le _ _).trans h.count
  | sample startedAt =>
    have hcharging := chargingStartedAt_of_sample hlearning
    have hremembered : ∀ started ∈ r.service.chargingStartedAt, some startedAt = some started :=
      fun started hstarted => hcharging.symm.trans hstarted
    cases heffect : r.learned.sampleEffect o.policy o.power o.now with
    | restart =>
      rw [LearnedPower.update, heffect]
      refine tracked_of_none rfl h.numbered ?_ ?_
      · intro hstable
        nomatch hstable
      · intro hunknown
        nomatch hunknown
    | refresh previous =>
      have hnone : r.mismatchRun = 0 := by
        have hzero : r.learned.mismatchSessions = 0 := hok ⟨startedAt, previous, hlearning, heffect⟩
        have hcovered := h.count.trans (whileStable_le _ _)
        omega
      rw [LearnedPower.update, heffect, hnone]
      refine tracked_of_none rfl h.numbered (fun _ => hremembered) ?_
      intro hunknown
      nomatch hunknown
    | advance previous stable =>
      obtain ⟨hstate, -⟩ := sampleEffect_advance heffect
      have hnone : r.mismatchRun = 0 := by
        have hcovered := h.count
        rw [whileStable_of_not (fun hstable => nomatch hstate.symm.trans hstable)] at hcovered
        omega
      rw [LearnedPower.update, heffect, hnone]
      cases stable with
      | true =>
        refine tracked_of_none rfl h.numbered (fun _ => hremembered) ?_
        intro hunknown
        nomatch hunknown
      | false =>
        refine tracked_of_none rfl h.numbered ?_ ?_
        · intro hstable
          nomatch hstable
        · intro hunknown
          nomatch hunknown

theorem tracked_step (h : r.Tracked) (event : LearningEvent) (hok : r.KeepsCount event) :
    (r.step event).Tracked := by
  cases event with
  | beforeDecision m => exact tracked_beforeDecision h m
  | publish status now => exact tracked_publish h status now
  | learn o => exact tracked_learn h hok

theorem checksSessions_of_tracked (h : r.Tracked) (event : LearningEvent) (hok : r.KeepsCount event) :
    r.ChecksSessions event := by
  cases event with
  | beforeDecision m =>
    intro startedAt power mismatch hfound
    obtain ⟨hnew, -, hcovered⟩ := h.of_check hfound
    refine ⟨hnew, ?_⟩
    intro hmismatch hlimit
    have hclear : (r.step (.beforeDecision m)).learned = (r.service.refreshed m).clear := by
      show (r.service.refreshed m).reconcile m.phase (r.service.check m) = _
      rw [hfound, hmismatch]
      exact reconcile_mismatch _ _ _ (hlimit.trans (Nat.succ_le_succ hcovered))
    rw [hclear]
    exact ⟨rfl, rfl⟩
  | publish status now => trivial
  | learn o =>
    intro _ hsmooths
    have hzero := hok hsmooths
    obtain ⟨startedAt, previous, hlearning, heffect⟩ := hsmooths
    show (r.learned.update o r.service.lastVoltage (r.service.learning o)).mismatchSessions = _
    rw [hlearning, LearnedPower.update, heffect, hzero]
    rfl

/-! ## Runs -/

/-- In a run in which no sample smooths the stable power while mismatches are counted, each session is checked once, and
mismatching sessions discard the learned power at the last check. -/
theorem checks_sessions (service : LearningService) (events : List LearningEvent)
    (h : Along step KeepsCount (start service) events) : Along step ChecksSessions (start service) events :=
  along_of_invariant (fun _ event htracked hok => tracked_step htracked event hok)
    (fun _ event htracked hok => checksSessions_of_tracked htracked event hok) (tracked_start service) h

/-! ## Two sessions that mismatch -/

/-- A policy whose window closes the given time after the start of a session; zero leaves it open. -/
def window (windowSeconds : ℚ) : LearnChargePowerPolicy := ⟨true, 1000, 1 / 5, 0, windowSeconds, 0, fifth_pos, fifth_le_one⟩

/-- A power of 2300 W was learned. -/
def learnedBefore : LearningService :=
  ⟨⟨.stable, some 2300, some 0, none, 3, some .l1, some 230, 0, none, 1⟩, none, none⟩

/-- A cycle that measures 3000 W: what is done before the decision, and at the end. -/
def cycle (policy : LearnChargePowerPolicy) (now : ℚ) : List LearningEvent :=
  [.beforeDecision ⟨policy, some .l1, true, 3000, 230, true, now⟩, .publish 2 now,
    .learn ⟨policy, some .l1, true, 16, true, 2, 3000, 230, true, now⟩]

/-- Two sessions, each with a cycle after eight seconds. -/
def mismatchingSessions (policy : LearnChargePowerPolicy) : List LearningEvent :=
  .publish 2 0 :: cycle policy 8 ++ [.publish 0 16, .publish 2 24] ++ cycle policy 32

theorem checks_sessions_discarded :
    Along step KeepsCount (start learnedBefore) (mismatchingSessions (window 5)) ∧
      Along step ChecksSessions (start learnedBefore) (mismatchingSessions (window 5)) ∧
      (run step (start learnedBefore) (mismatchingSessions (window 5))).learned.state = .unknown := by
  have hok : Along step KeepsCount (start learnedBefore) (mismatchingSessions (window 5)) := by
    refine ⟨trivial, trivial, trivial, ?_, trivial, trivial, trivial, trivial, ?_, trivial⟩
    · rintro ⟨startedAt, previous, hsample, -⟩
      nomatch hsample.symm.trans (show _ = LearningStep.keep by decide +kernel)
    · intro _
      decide +kernel
  exact ⟨hok, checks_sessions learnedBefore _ hok, by decide +kernel⟩

/-- The sample of the first session takes its mismatch from the count, and the second one does not discard the power. -/
theorem second_mismatch_ignored :
    ¬ Along step ChecksSessions (start learnedBefore) (mismatchingSessions (window 0)) := by
  intro h
  have hsplit : mismatchingSessions (window 0) = (.publish 2 0 :: cycle (window 0) 8 ++ [.publish 0 16, .publish 2 24]) ++
      cycle (window 0) 32 := rfl
  rw [hsplit, along_append] at h
  have hfound : (run step (start learnedBefore)
      (.publish 2 0 :: cycle (window 0) 8 ++ [.publish 0 16, .publish 2 24])).service.check
        ⟨window 0, some .l1, true, 3000, 230, true, 32⟩ = .checked 24 2440 true := by decide +kernel
  have hrun : signatureMismatchSessions ≤ (run step (start learnedBefore)
      (.publish 2 0 :: cycle (window 0) 8 ++ [.publish 0 16, .publish 2 24])).mismatchRun + 1 := by decide +kernel
  obtain ⟨hunknown, -⟩ := (h.2.1 24 2440 true hfound).2 rfl hrun
  exact absurd hunknown (by decide +kernel)

end SignatureRun

end VenusEvcharger
