import VenusEvcharger.Library.HeldSince
import VenusEvcharger.Library.Run
import VenusEvcharger.Python.Value
import Mathlib.Data.List.Induction
import Mathlib.Tactic.Linarith

/-!
# Resource pressure

A `ResourceStateLatch` classifies every sample, follows a more severe one at once, and leaves a state only after a
hold in which every sample was ready for it. `Waits` says what a pending recovery means: all samples since its start
were ready. `recovers_after_hold` derives the law of the latch from it.

Scope: the arithmetic of sample times is exact. The hold may be infinite, a measurement may be any float.
-/

namespace VenusEvcharger

open Library

/-- `ResourceState`. -/
inductive ResourceState where
  | ok
  | busy
  | constrained
deriving DecidableEq

/-- How severe a state is. -/
def ResourceState.severity : ResourceState → Nat
  | ok => 0
  | busy => 1
  | constrained => 2

/-- `ResourcePressureCause`. -/
inductive ResourcePressureCause where
  | load
  | cpu
  | memory
deriving DecidableEq

/-- The arguments of `observe`. -/
structure ResourceSample where
  loadPerCpu : Option PyFloat
  cpuPct : Option PyFloat
  memAvailableKb : Option PyFloat
  now : ℚ
  observedAt : Option PyFloat

/-- `_at_least`. -/
def atLeast (value : Option PyFloat) (threshold : ℚ) : Bool :=
  match value with
  | none => false
  | some x => (PyFloat.fin threshold).le x

/-- `_below`. -/
def below (value : Option PyFloat) (threshold : ℚ) : Bool :=
  match value with
  | none => false
  | some x => x.lt (.fin threshold)

namespace ResourceSample

section

variable (s : ResourceSample)

/-- `_all_dimensions_unknown`. -/
def allDimensionsUnknown : Bool :=
  s.loadPerCpu.isNone && s.cpuPct.isNone && s.memAvailableKb.isNone

/-- Some dimension is above its limit: the load and the processor by at least it, the memory by less. -/
def exceeds (load cpu memory : ℚ) : Bool :=
  atLeast s.loadPerCpu load || atLeast s.cpuPct cpu || below s.memAvailableKb memory

/-- Every dimension is known and within its exit limit. -/
def within (load cpu memory : ℚ) : Bool :=
  below s.loadPerCpu load && below s.cpuPct cpu && atLeast s.memAvailableKb memory

/-- `_resource_constrained`. -/
def resourceConstrained : Bool := s.exceeds (3 / 2) 90 32768

/-- `_resource_busy`. -/
def resourceBusy : Bool := s.exceeds 1 80 65536

/-- `_constrained_exit_ready`. -/
def constrainedExitReady : Bool := s.within (5 / 4) 85 40960

/-- `_busy_exit_ready`. -/
def busyExitReady : Bool := s.within (17 / 20) 75 73728

/-- `resource_state`. -/
def resourceState : ResourceState :=
  if s.allDimensionsUnknown then .busy
  else if s.resourceConstrained then .constrained
  else if s.resourceBusy then .busy
  else .ok

/-- `_constrained_causes`. -/
def constrainedCauses : List ResourcePressureCause :=
  (if atLeast s.loadPerCpu (3 / 2) then [.load] else []) ++
    (if atLeast s.cpuPct 90 then [.cpu] else []) ++
    (if below s.memAvailableKb 32768 then [.memory] else [])

end

end ResourceSample

/-- `_Recovery`. -/
structure Recovery where
  target : ResourceState
  startedAt : ℚ

/-- `ResourcePressureEvidence`. -/
structure ResourcePressureEvidence where
  triggeredAt : ℚ
  causes : List ResourcePressureCause
  loadPerCpu1m : Option ℚ
  systemCpuPct : Option ℚ
  memAvailableKb : Option ℚ

/-- `_optional_non_negative_finite`. -/
def optionalNonNegativeFinite : Option PyFloat → Option ℚ
  | some (.fin x) => some (max 0 x)
  | _ => none

/-- `_has_critical_cause`. -/
def hasCriticalCause (causes : List ResourcePressureCause) : Bool :=
  causes.any fun cause => decide (cause = .cpu ∨ cause = .memory)

/-- A `ResourceStateLatch`. -/
structure ResourceStateLatch where
  recoveryHoldSeconds : WithTop ℚ
  state : ResourceState
  recovery : Option Recovery
  lastConstrainedEvidence : Option ResourcePressureEvidence

namespace ResourceStateLatch

/-- A new latch. -/
def start (recoveryHoldSeconds : WithTop ℚ) : ResourceStateLatch :=
  ⟨max 0 recoveryHoldSeconds, .ok, none, none⟩

/-- `_must_hold_constrained`. -/
def mustHoldConstrained (l : ResourceStateLatch) (s : ResourceSample) : Bool :=
  decide (l.state = .constrained) && !s.constrainedExitReady

/-- `_candidate_state`. -/
def candidateState (l : ResourceStateLatch) (s : ResourceSample) : ResourceState :=
  if l.mustHoldConstrained s then .constrained
  else
    let candidate := s.resourceState
    if l.state = .busy ∧ candidate = .ok ∧ s.busyExitReady = false then .busy else candidate

/-- `_updated_recovery`: the only improvement of a target is from busy to ok. -/
def updatedRecovery (l : ResourceStateLatch) (candidate : ResourceState) (now : ℚ) : Recovery :=
  match l.recovery with
  | none => ⟨candidate, now⟩
  | some recovery =>
    if candidate = recovery.target then recovery
    else if recovery.target = .busy ∧ candidate = .ok then ⟨candidate, recovery.startedAt⟩
    else ⟨candidate, now⟩

/-- `_recover_toward`. -/
def recoverToward (l : ResourceStateLatch) (candidate : ResourceState) (now : ℚ) : ResourceStateLatch :=
  let recovery := l.updatedRecovery candidate now
  if l.recoveryHoldSeconds ≤ ((now - recovery.startedAt : ℚ) : WithTop ℚ) then
    { l with state := candidate, recovery := none }
  else { l with recovery := some recovery }

/-- `_should_replace_evidence`. -/
def shouldReplaceEvidence (previous : ResourceState) (prior : Option ResourcePressureEvidence)
    (causes : List ResourcePressureCause) : Bool :=
  match prior with
  | none => true
  | some prior =>
    decide (previous ≠ .constrained) || (!hasCriticalCause prior.causes && hasCriticalCause causes)

/-- `_capture_constrained_transition`. -/
def captureConstrainedTransition (l : ResourceStateLatch) (previous : ResourceState) (s : ResourceSample) :
    ResourceStateLatch :=
  if l.state = .constrained ∧ s.constrainedCauses ≠ [] ∧
      shouldReplaceEvidence previous l.lastConstrainedEvidence s.constrainedCauses = true then
    { l with lastConstrainedEvidence := some {
        triggeredAt := (optionalNonNegativeFinite s.observedAt).getD 0
        causes := s.constrainedCauses
        loadPerCpu1m := optionalNonNegativeFinite s.loadPerCpu
        systemCpuPct := optionalNonNegativeFinite s.cpuPct
        memAvailableKb := optionalNonNegativeFinite s.memAvailableKb } }
  else l

/-- The transition of `observe` on the state and the pending recovery. `_ESCALATIONS` are the pairs of growing
severity. -/
def transition (l : ResourceStateLatch) (s : ResourceSample) : ResourceStateLatch :=
  let candidate := l.candidateState s
  if candidate = l.state then { l with recovery := none }
  else if l.state.severity < candidate.severity then { l with state := candidate, recovery := none }
  else l.recoverToward candidate s.now

/-- `observe`. -/
def observe (l : ResourceStateLatch) (s : ResourceSample) : ResourceStateLatch :=
  (l.transition s).captureConstrainedTransition l.state s

/-- The exit condition of a state. -/
def exitReady : ResourceState → ResourceSample → Bool
  | .ok, _ => false
  | .busy, s => s.busyExitReady
  | .constrained, s => s.constrainedExitReady

/-! ## One sample -/

variable {l : ResourceStateLatch}

theorem exitReady_of_candidate {s : ResourceSample}
    (h : (l.candidateState s).severity < l.state.severity) : exitReady l.state s = true := by
  unfold candidateState mustHoldConstrained at h
  cases hstate : l.state with
  | ok =>
    rw [hstate] at h
    exact absurd h (Nat.not_lt_zero _)
  | busy =>
    simp only [hstate, reduceCtorEq, decide_false, Bool.false_and, Bool.false_eq_true, if_false, true_and] at h
    show s.busyExitReady = true
    by_contra hnot
    rw [Bool.not_eq_true] at hnot
    simp only [hnot, and_true] at h
    split_ifs at h with hok
    · exact absurd h (Nat.lt_irrefl _)
    · cases hsample : s.resourceState with
      | ok => exact hok hsample
      | busy | constrained => rw [hsample] at h; exact absurd h (by decide)
  | constrained =>
    simp only [hstate, decide_true, Bool.true_and, Bool.not_eq_true'] at h
    show s.constrainedExitReady = true
    by_contra hnot
    rw [Bool.not_eq_true] at hnot
    rw [if_pos hnot] at h
    exact absurd h (Nat.lt_irrefl _)

section

variable (l : ResourceStateLatch)

theorem resourceState_le_candidate (s : ResourceSample) :
    s.resourceState.severity ≤ (l.candidateState s).severity := by
  unfold candidateState
  by_cases hhold : l.mustHoldConstrained s = true
  · rw [if_pos hhold]
    cases s.resourceState <;> decide
  · rw [if_neg hhold]
    dsimp only
    split_ifs with hbusy
    · rw [hbusy.2.1]
      exact Nat.zero_le _
    · exact le_rfl

@[simp] theorem observe_state (s : ResourceSample) :
    (l.observe s).state = (l.transition s).state := by
  unfold observe captureConstrainedTransition
  split_ifs <;> rfl

@[simp] theorem observe_recovery (s : ResourceSample) :
    (l.observe s).recovery = (l.transition s).recovery := by
  unfold observe captureConstrainedTransition
  split_ifs <;> rfl

@[simp] theorem observe_hold (s : ResourceSample) :
    (l.observe s).recoveryHoldSeconds = (l.transition s).recoveryHoldSeconds := by
  unfold observe captureConstrainedTransition
  split_ifs <;> rfl

end

/-! ## What a pending recovery means -/

/-- All samples since the start of a pending recovery were ready to leave the state. The history has its newest
sample first. -/
def Waits (l : ResourceStateLatch) (history : List ResourceSample) : Prop :=
  ∀ recovery ∈ l.recovery,
    HeldSince (fun s => exitReady l.state s = true) ResourceSample.now recovery.startedAt history

/-- What one sample does: it is followed at once when it is more severe, and a state is left for a less severe one
after the hold only. -/
structure Follows (hold : WithTop ℚ) (l : ResourceStateLatch) (history : List ResourceSample) (s : ResourceSample)
    (l' : ResourceStateLatch) : Prop where
  prompt : s.resourceState.severity ≤ l'.state.severity
  held : l'.state.severity < l.state.severity → ∃ since,
    HeldSince (fun x => exitReady l.state x = true) ResourceSample.now since (s :: history) ∧
      hold ≤ ((s.now - since : ℚ) : WithTop ℚ)
  restarts : exitReady l.state s = false → l'.recovery = none

theorem updatedRecovery_waits {history : List ResourceSample} (hl : Waits l history)
    {s : ResourceSample} (hready : exitReady l.state s = true) (candidate : ResourceState) :
    HeldSince (fun x => exitReady l.state x = true) ResourceSample.now
      (l.updatedRecovery candidate s.now).startedAt (s :: history) := by
  unfold updatedRecovery
  cases hrecovery : l.recovery with
  | none => exact heldSince_arm (P := fun x => exitReady l.state x = true) hready history
  | some recovery =>
    have hpending := (hl recovery hrecovery).extend hready
    dsimp only
    split_ifs
    · exact hpending
    · exact hpending
    · exact heldSince_arm (P := fun x => exitReady l.state x = true) hready history

/-- One sample keeps the meaning of the pending recovery and follows the law. -/
theorem observe_spec {history : List ResourceSample} (hl : Waits l history) (s : ResourceSample) :
    Waits (l.observe s) (s :: history) ∧ Follows l.recoveryHoldSeconds l history s (l.observe s) ∧
      (l.observe s).recoveryHoldSeconds = l.recoveryHoldSeconds := by
  have hprompt := resourceState_le_candidate l s
  have hexit := exitReady_of_candidate (l := l) (s := s)
  unfold Waits
  rw [observe_hold, observe_recovery, observe_state]
  suffices h : (∀ recovery ∈ (l.transition s).recovery, HeldSince
      (fun x => exitReady (l.transition s).state x = true) ResourceSample.now recovery.startedAt (s :: history)) ∧
      Follows l.recoveryHoldSeconds l history s (l.transition s) ∧
      (l.transition s).recoveryHoldSeconds = l.recoveryHoldSeconds by
    obtain ⟨hwaits, hfollows, hhold⟩ := h
    refine ⟨hwaits, ⟨?_, ?_, ?_⟩, hhold⟩
    · rw [observe_state]
      exact hfollows.prompt
    · rw [observe_state]
      exact hfollows.held
    · rw [observe_recovery]
      exact hfollows.restarts
  unfold transition
  dsimp only
  split_ifs with hsame hmore
  · exact ⟨nofun, ⟨hsame ▸ hprompt, fun h => absurd h (Nat.lt_irrefl _), fun _ => rfl⟩, rfl⟩
  · exact ⟨nofun, ⟨hprompt, fun h => absurd h (Nat.not_lt.mpr hmore.le), fun _ => rfl⟩, rfl⟩
  · -- the candidate is less severe, so the sample is ready
    have hless : (l.candidateState s).severity < l.state.severity := by
      have hne : (l.candidateState s).severity ≠ l.state.severity := by
        cases hc : l.candidateState s <;> cases hs : l.state <;> simp_all [ResourceState.severity]
      omega
    have hready := hexit hless
    have hsince := updatedRecovery_waits hl hready (l.candidateState s)
    unfold recoverToward
    dsimp only
    split_ifs with hover
    · exact ⟨nofun, ⟨hprompt, fun _ => ⟨_, hsince, hover⟩, fun _ => rfl⟩, rfl⟩
    · refine ⟨fun recovery hrecovery => ?_, ⟨hprompt.trans hless.le, fun h => absurd h (Nat.lt_irrefl _),
        fun hnot => ?_⟩, rfl⟩
      · obtain rfl := Option.some.inj hrecovery
        exact hsince
      · exact absurd (hready.symm.trans hnot) Bool.true_eq_false.mp

end ResourceStateLatch

/-! ## Runs -/

/-- A latch with the samples it has seen, newest first. -/
structure PressureRun where
  latch : ResourceStateLatch
  history : List ResourceSample

namespace PressureRun

/-- A new latch. -/
def start (recoveryHoldSeconds : WithTop ℚ) : PressureRun := ⟨.start recoveryHoldSeconds, []⟩

/-- One sample. -/
def step (r : PressureRun) (s : ResourceSample) : PressureRun := ⟨r.latch.observe s, s :: r.history⟩

/-- The samples come at times that do not decrease. -/
def InOrder (samples : List ResourceSample) : Prop := samples.Pairwise fun a b => a.now ≤ b.now

instance (samples : List ResourceSample) : Decidable (InOrder samples) := inferInstanceAs (Decidable (List.Pairwise _ _))

/-- The law of the latch for one sample. -/
structure Disciplined (hold : WithTop ℚ) (r : PressureRun) (s : ResourceSample) : Prop where
  /-- The reported state is at least as severe as the sample demands. -/
  prompt : s.resourceState.severity ≤ (r.step s).latch.state.severity
  /-- A state is left for a less severe one after a hold only, in which every sample was ready. -/
  covered : (r.step s).latch.state.severity < r.latch.state.severity →
    ∃ x ∈ s :: r.history, hold ≤ ((s.now - x.now : ℚ) : WithTop ℚ)
  ready : (r.step s).latch.state.severity < r.latch.state.severity →
    ∀ x ∈ s :: r.history, ((s.now - x.now : ℚ) : WithTop ℚ) < hold →
      ResourceStateLatch.exitReady r.latch.state x = true
  /-- A sample that is not ready ends the pending recovery. -/
  restarts : ResourceStateLatch.exitReady r.latch.state s = false → (r.step s).latch.recovery = none

/-- The samples are in order, and the pending recovery means what it says. -/
structure Consistent (hold : WithTop ℚ) (r : PressureRun) : Prop where
  waits : r.latch.Waits r.history
  hold : r.latch.recoveryHoldSeconds = max 0 hold
  order : r.history.Pairwise fun newer older => older.now ≤ newer.now

theorem consistent_start (hold : WithTop ℚ) : Consistent hold (start hold) := ⟨nofun, rfl, .nil⟩

/-- What held since the start of a hold held in the whole hold. -/
theorem ready_of_heldSince {P : ResourceSample → Prop} {since : ℚ} {history : List ResourceSample}
    (h : HeldSince P ResourceSample.now since history)
    (horder : history.Pairwise fun newer older => older.now ≤ newer.now) {x : ResourceSample} (hx : x ∈ history)
    (hlate : since < x.now) : P x := by
  obtain ⟨recent, first, older, rfl, rfl, hfirst, hrecent⟩ := h
  rcases List.mem_append.mp hx with hx | hx
  · exact hrecent x hx
  · rcases List.mem_cons.mp hx with rfl | hx
    · exact hfirst
    · -- a sample before the start of the hold is not later than the start
      have hold := (List.pairwise_cons.mp (List.pairwise_append.mp horder).2.1).1 x hx
      exact absurd hlate (not_lt.mpr hold)

/-- A sample in order keeps the run consistent and follows the law. -/
theorem step_spec (hold : WithTop ℚ) (r : PressureRun) (s : ResourceSample) (hr : Consistent hold r)
    (horder : ∀ x ∈ r.history, x.now ≤ s.now) :
    Consistent hold (r.step s) ∧ Disciplined (max 0 hold) r s := by
  obtain ⟨hwaits, hfollows, hhold⟩ := ResourceStateLatch.observe_spec hr.waits s
  have hnext : (s :: r.history).Pairwise fun newer older => older.now ≤ newer.now :=
    List.pairwise_cons.mpr ⟨horder, hr.order⟩
  rw [hr.hold] at hfollows
  refine ⟨⟨hwaits, hhold.trans hr.hold, hnext⟩, hfollows.prompt, fun hless => ?_, fun hless x hx hyoung => ?_,
    hfollows.restarts⟩
  · obtain ⟨since, hheld, hover⟩ := hfollows.held hless
    obtain ⟨recent, first, older, hsplit, rfl, -, -⟩ := hheld
    exact ⟨first, hsplit ▸ List.mem_append_right _ List.mem_cons_self, hover⟩
  · obtain ⟨since, hheld, hover⟩ := hfollows.held hless
    have hlt := WithTop.coe_lt_coe.mp (hyoung.trans_le hover)
    exact ready_of_heldSince hheld hnext hx (by linarith)

theorem history_run (hold : WithTop ℚ) (samples : List ResourceSample) :
    (run step (start hold) samples).history = samples.reverse := by
  induction samples using List.reverseRecOn with
  | nil => rfl
  | append_singleton samples s ih =>
    rw [run_append, List.reverse_append]
    show s :: (run step (start hold) samples).history = _
    rw [ih]
    rfl

/-- Every sample of a run in order follows the law. -/
theorem recovers_after_hold (hold : WithTop ℚ) (samples : List ResourceSample) (horder : InOrder samples) :
    Along step (Disciplined (max 0 hold)) (start hold) samples := by
  have hbefore : Along step (fun r s => ∀ x ∈ r.history, x.now ≤ s.now) (start hold) samples := by
    refine along_iff_splits.mpr fun before s after hsplit x hx => ?_
    rw [history_run, List.mem_reverse] at hx
    rw [hsplit] at horder
    exact (List.pairwise_append.mp horder).2.2 x hx s List.mem_cons_self
  exact along_of_invariant (fun r s hr hs => (step_spec hold r s hr hs).1)
    (fun r s hr hs => (step_spec hold r s hr hs).2) (consistent_start hold) hbefore

/-- A sample with the given processor load at the given time. -/
def cpuSample (cpuPct now : ℚ) : ResourceSample :=
  ⟨some (.fin (1 / 2)), some (.fin cpuPct), some (.fin 100000), now, none⟩

/-- Pressure, one sample that is not ready within the hold, and recovery. -/
theorem recovers_after_hold_cpu :
    Along step (Disciplined (max 0 ((5 : ℚ) : WithTop ℚ))) (start (5 : ℚ))
      [cpuSample 95 0, cpuSample 50 1, cpuSample 88 4, cpuSample 50 6, cpuSample 50 11] :=
  recovers_after_hold (5 : ℚ) _ (by decide +kernel)

end PressureRun

end VenusEvcharger
