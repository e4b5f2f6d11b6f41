import VenusEvcharger.DbusAdapter.ResourcePressure

/-!
# The resource monitor of the native gateway

The native `ResourceMonitor` classifies a sample as the latch of the Python gateway does, but starts a pending recovery
again when its target improves from busy to ok, where the latch keeps the start. `monitors_agree_iff`: this is the only
difference.

Scope: the samples that are due, at the times of the monotonic clock. The evidence of the last constrained state is left
out.
-/

namespace VenusEvcharger.NativeGateway

open Library

/-- The state of a `ResourceMonitor`. -/
structure ResourceMonitor where
  recoveryHold : ℚ
  state : ResourceState
  recovery : Option Recovery

namespace ResourceMonitor

/-- `new`. -/
def new (recoveryHold : ℚ) : ResourceMonitor := ⟨recoveryHold, .ok, none⟩

/-- The candidate of `update_state`; `classify` is `resource_state`, with the same limits. -/
def candidate (state : ResourceState) (s : ResourceSample) : ResourceState :=
  match state with
  | .constrained => if s.constrainedExitReady then s.resourceState else .constrained
  | .busy => if s.resourceState = .ok ∧ s.busyExitReady = false then .busy else s.resourceState
  | .ok => s.resourceState

/-- The start of the recovery in `update_state`: that of a pending one with the same target. -/
def started (m : ResourceMonitor) (candidate : ResourceState) (now : ℚ) : ℚ :=
  match m.recovery with
  | some recovery => if recovery.target = candidate then recovery.startedAt else now
  | none => now

/-- `update_state`. -/
def updateState (m : ResourceMonitor) (s : ResourceSample) : ResourceMonitor :=
  let candidate := candidate m.state s
  if candidate = m.state then { m with recovery := none }
  else if m.state.severity < candidate.severity then { m with state := candidate, recovery := none }
  else if m.recoveryHold ≤ s.now - m.started candidate s.now then { m with state := candidate, recovery := none }
  else { m with recovery := some ⟨candidate, m.started candidate s.now⟩ }

/-- The monitor is in the state of the latch, with the same recovery pending. -/
structure Same (m : ResourceMonitor) (l : ResourceStateLatch) : Prop where
  hold : l.recoveryHoldSeconds = ((m.recoveryHold : ℚ) : WithTop ℚ)
  state : m.state = l.state
  recovery : m.recovery = l.recovery

/-- The sample improves the target of a pending recovery. -/
def Improves (l : ResourceStateLatch) (s : ResourceSample) : Prop :=
  ∃ recovery ∈ l.recovery, recovery.target = .busy ∧ l.candidateState s = .ok

/-- A pending recovery started by the time, its target is less severe than the state, and the hold takes time. -/
def Pending (l : ResourceStateLatch) (now : ℚ) : Prop :=
  ∀ recovery ∈ l.recovery, recovery.startedAt ≤ now ∧ 0 < l.recoveryHoldSeconds ∧
    recovery.target.severity < l.state.severity

theorem candidate_eq (l : ResourceStateLatch) (s : ResourceSample) : candidate l.state s = l.candidateState s := by
  unfold candidate ResourceStateLatch.candidateState ResourceStateLatch.mustHoldConstrained
  cases hstate : l.state <;> cases hready : s.constrainedExitReady <;> simp

variable {m : ResourceMonitor} {l : ResourceStateLatch} {s : ResourceSample}

theorem severity_lt_of_candidate (hsame : l.candidateState s ≠ l.state)
    (hless : ¬l.state.severity < (l.candidateState s).severity) :
    (l.candidateState s).severity < l.state.severity := by
  cases hc : l.candidateState s <;> cases hs : l.state <;> simp_all [ResourceState.severity]

theorem updatedRecovery_target (c : ResourceState) (now : ℚ) : (l.updatedRecovery c now).target = c := by
  unfold ResourceStateLatch.updatedRecovery
  split
  · rfl
  · split_ifs with htarget <;> simp [htarget]

theorem updatedRecovery_le {now : ℚ} (h : Pending l now) (hnow : now < s.now) (c : ResourceState) :
    (l.updatedRecovery c s.now).startedAt ≤ s.now := by
  unfold ResourceStateLatch.updatedRecovery
  split
  · exact le_rfl
  · rename_i recovery hrecovery
    have hstarted := (h recovery hrecovery).1.trans hnow.le
    split_ifs
    · exact hstarted
    · exact hstarted
    · exact le_rfl

theorem Pending.observe {now : ℚ} (h : Pending l now) (hnow : now < s.now) : Pending (l.observe s) s.now := by
  unfold Pending
  rw [ResourceStateLatch.observe_recovery, ResourceStateLatch.observe_state, ResourceStateLatch.observe_hold]
  unfold ResourceStateLatch.transition ResourceStateLatch.recoverToward
  have hstart := updatedRecovery_le h hnow (l.candidateState s)
  dsimp only
  split_ifs with hsame hmore hover
  · nofun
  · nofun
  · nofun
  · rintro recovery hrecovery
    obtain rfl := Option.some.inj hrecovery
    refine ⟨hstart, (WithTop.coe_le_coe.mpr (sub_nonneg.mpr hstart)).trans_lt (not_le.mp hover), ?_⟩
    rw [updatedRecovery_target]
    exact severity_lt_of_candidate hsame hmore

theorem updatedRecovery_eq (hm : m.recovery = l.recovery) (hnot : ¬Improves l s) :
    l.updatedRecovery (l.candidateState s) s.now =
      ⟨l.candidateState s, m.started (l.candidateState s) s.now⟩ := by
  unfold ResourceStateLatch.updatedRecovery started
  rw [hm]
  cases hpending : l.recovery with
  | none => rfl
  | some recovery =>
    dsimp only
    by_cases htarget : l.candidateState s = recovery.target
    · rw [if_pos htarget, if_pos htarget.symm, htarget]
    · rw [if_neg htarget, if_neg (Ne.symm htarget), if_neg fun himproves => hnot ⟨recovery, hpending, himproves⟩]

/-- Both do the same with a sample exactly when it improves no target. -/
theorem same_step {now : ℚ} (hm : Same m l) (h : Pending l now) (hnow : now < s.now) :
    Same (m.updateState s) (l.observe s) ↔ ¬Improves l s := by
  obtain ⟨hhold, hstate, hrecovery⟩ := hm
  have hiff : Same (m.updateState s) (l.observe s) ↔ Same (m.updateState s) (l.transition s) := by
    constructor <;> rintro ⟨h1, h2, h3⟩ <;> exact ⟨by simpa using h1, by simpa using h2, by simpa using h3⟩
  rw [hiff]
  unfold updateState ResourceStateLatch.transition ResourceStateLatch.recoverToward
  rw [hstate, candidate_eq]
  dsimp only
  by_cases himproves : Improves l s
  · refine iff_of_false (fun hsame => ?_) (not_not.mpr himproves)
    obtain ⟨recovery, hpending, htarget, hok⟩ := himproves
    obtain ⟨hstarted, htakes, hless⟩ := h recovery hpending
    rw [hhold, WithTop.coe_pos] at htakes
    have hne : ResourceState.ok ≠ l.state := fun heq => absurd (heq ▸ hless) (Nat.not_lt_zero _)
    have hstart : m.started .ok s.now = s.now := by
      unfold started
      rw [hrecovery, show l.recovery = some recovery from hpending]
      simp [htarget]
    -- the monitor starts again, and the latch does not
    have hlatch : l.updatedRecovery .ok s.now = ⟨.ok, recovery.startedAt⟩ := by
      unfold ResourceStateLatch.updatedRecovery
      rw [show l.recovery = some recovery from hpending]
      simp [htarget]
    have hr := hsame.recovery
    have hmore : ¬l.state.severity < ResourceState.ok.severity := Nat.not_lt_zero _
    rw [hok, if_neg hne, if_neg hmore, hstart, sub_self, if_neg (not_le.mpr htakes), if_neg hne, if_neg hmore,
      hlatch] at hr
    split_ifs at hr
    have hsame := congrArg Recovery.startedAt (Option.some.inj hr)
    exact absurd (hstarted.trans_lt hnow) (not_lt.mpr hsame.le)
  · refine iff_of_true ?_ himproves
    rw [updatedRecovery_eq hrecovery himproves, hhold]
    simp only [WithTop.coe_le_coe]
    split_ifs
    · exact ⟨rfl, rfl, rfl⟩
    · exact ⟨rfl, rfl, rfl⟩
    · exact ⟨rfl, rfl, rfl⟩
    · exact ⟨rfl, rfl, rfl⟩

/-- The monitor is the same as the latch after every part of the samples. -/
def Agree (m : ResourceMonitor) (l : ResourceStateLatch) (samples : List ResourceSample) : Prop :=
  ∀ before after, samples = before ++ after → Same (run updateState m before) (run ResourceStateLatch.observe l before)

theorem agree_iff {now : ℚ} (hm : Same m l) (h : Pending l now) {samples : List ResourceSample}
    (horder : samples.Pairwise fun a b => a.now < b.now) (hnow : ∀ s ∈ samples, now < s.now) :
    Agree m l samples ↔ Along ResourceStateLatch.observe (fun l s => ¬Improves l s) l samples := by
  induction samples generalizing m l now with
  | nil =>
    refine ⟨fun _ => trivial, fun _ before after hsplit => ?_⟩
    rw [(List.append_eq_nil_iff.mp hsplit.symm).1]
    exact hm
  | cons s samples ih =>
    obtain ⟨hfirst, horder⟩ := List.pairwise_cons.mp horder
    have hs := hnow s List.mem_cons_self
    have hstep := same_step (s := s) hm h hs
    have hpending := h.observe hs
    constructor
    · intro hall
      have hnext := hall [s] samples rfl
      refine ⟨hstep.mp hnext, (ih hnext hpending horder hfirst).mp fun before after hsplit => ?_⟩
      exact hall (s :: before) after (by rw [hsplit, List.cons_append])
    · rintro ⟨hnot, hrest⟩ before after hsplit
      cases before with
      | nil => exact hm
      | cons b before =>
        obtain ⟨rfl, hsamples⟩ := List.cons.inj hsplit
        exact (ih (hstep.mpr hnot) hpending horder hfirst).mpr hrest before after hsamples

/-- Along samples at increasing times, the native monitor passes through the states of the latch, with the same recovery
pending, exactly when no sample improves the target of a pending recovery. -/
theorem monitors_agree_iff (hold : ℚ) (hhold : 0 ≤ hold) (samples : List ResourceSample)
    (horder : samples.Pairwise fun a b => a.now < b.now) :
    Agree (new hold) (.start ((hold : ℚ) : WithTop ℚ)) samples ↔
      Along ResourceStateLatch.observe (fun l s => ¬Improves l s) (.start ((hold : ℚ) : WithTop ℚ)) samples := by
  have hstart : Same (new hold) (.start ((hold : ℚ) : WithTop ℚ)) :=
    ⟨max_eq_right (WithTop.coe_le_coe.mpr hhold), rfl, rfl⟩
  have hpending : ∀ now, Pending (.start ((hold : ℚ) : WithTop ℚ)) now := fun _ _ hnone => absurd hnone (Option.not_mem_none _)
  cases samples with
  | nil => exact agree_iff hstart (hpending 0) horder fun s hs => absurd hs List.not_mem_nil
  | cons s samples =>
    refine agree_iff hstart (hpending (s.now - 1)) horder fun x hx => ?_
    rcases List.mem_cons.mp hx with rfl | hx
    · exact sub_one_lt _
    · exact (sub_one_lt _).trans ((List.pairwise_cons.mp horder).1 x hx)

instance (l : ResourceStateLatch) (s : ResourceSample) : Decidable (Improves l s) :=
  inferInstanceAs (Decidable (∃ recovery ∈ l.recovery, _))

open PressureRun (cpuSample)

/-- A load that falls to ok at once keeps both alike; one that is busy in between does not. -/
theorem monitors_differ_after_busy :
    Agree (new 5) (.start (5 : ℚ)) [cpuSample 95 0, cpuSample 50 1, cpuSample 50 6] ∧
      ¬Agree (new 5) (.start (5 : ℚ)) [cpuSample 95 0, cpuSample 82 1, cpuSample 50 2] :=
  ⟨(monitors_agree_iff 5 (by norm_num) _ (by simp [cpuSample])).mpr (by decide +kernel),
    (monitors_agree_iff 5 (by norm_num) _ (by simp [cpuSample])).not.mpr (by decide +kernel)⟩

end ResourceMonitor

end VenusEvcharger.NativeGateway
