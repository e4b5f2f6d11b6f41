import VenusEvcharger.Library.Run
import Mathlib.Tactic.Linarith

/-!
# The PID controller of the ESS bias

`VictronEssPidController` turns the error of the balanced source into an offset of the grid setpoint. The
integral and the output are clamped, and the output is ramped. The ramp has nothing to go by on a tick without
elapsed time, the first one after a reset among them: such a tick takes the clamped target at once.
`tracking_bounded` is the main result.

Scope: settings, errors and times are finite, and the arithmetic is exact.
-/

namespace VenusEvcharger

open Library

/-- The settings of the controller as they are configured. -/
structure EssPidConfig where
  kp : Option ℚ
  ki : Option ℚ
  kd : Option ℚ
  deadbandWatts : Option ℚ
  integralLimitWatts : Option ℚ
  maxAbsWatts : Option ℚ
  rampRateWattsPerSecond : Option ℚ

namespace EssPidConfig

/-- `deadband_w`. -/
def deadbandW (cfg : EssPidConfig) : ℚ := max 0 (cfg.deadbandWatts.getD 0)

/-- `integral_limit_w`. -/
def integralLimitW (cfg : EssPidConfig) : ℚ := max 0 (cfg.integralLimitWatts.getD 0)

/-- `max_abs_w`. -/
def maxAbsW (cfg : EssPidConfig) : ℚ := max 0 (cfg.maxAbsWatts.getD 0)

/-- `ramp_rate_w_per_second`. -/
def rampRateWPerSecond (cfg : EssPidConfig) : ℚ := max 0 (cfg.rampRateWattsPerSecond.getD 0)

end EssPidConfig

/-- The service attributes of the controller. -/
structure EssPidVars where
  lastErrorW : ℚ
  lastAt : Option ℚ
  integralOutputW : ℚ
  lastOutputW : ℚ

/-! ## The parts of one output -/

/-- `_victron_ess_balance_effective_error`. -/
def effectiveError (rawErrorW deadbandW : ℚ) : ℚ := if |rawErrorW| < deadbandW then 0 else rawErrorW

/-- `max(-limit, min(value, limit))`. -/
def clampAbs (limit value : ℚ) : ℚ := max (-limit) (min value limit)

/-- `_victron_ess_balance_pid_integral_output`. -/
def pidIntegralOutput (currentIntegralOutputW effectiveErrorW dt ki integralLimitW : ℚ) : ℚ :=
  let integralOutputW := currentIntegralOutputW + max 0 ki * effectiveErrorW * max 0 dt
  if 0 < integralLimitW then clampAbs integralLimitW integralOutputW else integralOutputW

/-- `_victron_ess_balance_pid_derivative_w`. -/
def pidDerivativeW (effectiveErrorW lastErrorW dt : ℚ) : ℚ :=
  if dt ≤ 0 then 0 else (effectiveErrorW - lastErrorW) / dt

/-- `_victron_ess_balance_pid_target_output_w`. -/
def pidTargetOutputW (effectiveErrorW kp integralOutputW kd derivativeW : ℚ) : ℚ :=
  kp * effectiveErrorW + integralOutputW + kd * derivativeW

/-- `_victron_ess_balance_pid_clamped_output_w`. -/
def pidClampedOutputW (targetOutputW maxAbsW : ℚ) : ℚ :=
  if maxAbsW ≤ 0 then targetOutputW else clampAbs maxAbsW targetOutputW

/-- `_victron_ess_balance_pid_ramped_output_w`. -/
def pidRampedOutputW (lastOutputW targetOutputW dt rampRateWPerSecond : ℚ) : ℚ :=
  if rampRateWPerSecond ≤ 0 ∨ dt ≤ 0 then targetOutputW
  else lastOutputW + clampAbs (rampRateWPerSecond * dt) (targetOutputW - lastOutputW)

namespace EssPidVars

/-- `reset`, which is also the state at start. -/
def reset : EssPidVars := ⟨0, none, 0, 0⟩

/-- `reset_integral`. -/
def resetIntegral (v : EssPidVars) (aggressive : Bool) : EssPidVars :=
  { v with integralOutputW := 0, lastOutputW := if aggressive then 0 else v.lastOutputW }

section Config

variable (cfg : EssPidConfig) (v : EssPidVars) (errorW now : ℚ)

/-- The `dt` of `_victron_ess_balance_pid_timing`. -/
def dt : ℚ := (v.lastAt.map fun lastAt => max 0 (now - lastAt)).getD 0

/-- The new integral of `_victron_ess_balance_pid_output`. -/
def nextIntegral : ℚ :=
  let effectiveErrorW := effectiveError errorW cfg.deadbandW
  if effectiveErrorW = 0 then 0
  else pidIntegralOutput v.integralOutputW effectiveErrorW (v.dt now) (cfg.ki.getD 0) cfg.integralLimitW

/-- The clamped target of `_victron_ess_balance_pid_output`. -/
def clampedTarget : ℚ :=
  let effectiveErrorW := effectiveError errorW cfg.deadbandW
  let targetOutputW :=
    if effectiveErrorW = 0 then 0
    else pidTargetOutputW effectiveErrorW (cfg.kp.getD 0) (v.nextIntegral cfg errorW now) (cfg.kd.getD 0)
      (pidDerivativeW effectiveErrorW v.lastErrorW (v.dt now))
  pidClampedOutputW targetOutputW cfg.maxAbsW

/-- `_victron_ess_balance_pid_output`: the attributes it stores, and the output. -/
def pidOutput : EssPidVars × ℚ :=
  let outputW :=
    pidRampedOutputW v.lastOutputW (v.clampedTarget cfg errorW now) (v.dt now) cfg.rampRateWPerSecond
  (⟨effectiveError errorW cfg.deadbandW, some now, v.nextIntegral cfg errorW now, v.lastOutputW⟩, outputW)

/-- `_victron_ess_balance_tracking_setpoint`, which also keeps the output. -/
def track : EssPidVars :=
  let (next, outputW) := v.pidOutput cfg errorW now
  { next with lastOutputW := outputW }

end Config

end EssPidVars

/-! ## Clamps and ramps -/

section Clamps

variable {limit value last target dt rate : ℚ}

theorem abs_clampAbs_le (hlimit : 0 ≤ limit) (value : ℚ) : |clampAbs limit value| ≤ limit := by
  unfold clampAbs
  rw [abs_le]
  constructor
  · exact le_max_left _ _
  · exact max_le (neg_le_self hlimit) (min_le_right _ _)

/-- A clamp moves a value towards zero. -/
theorem clampAbs_between (hlimit : 0 ≤ limit) (value : ℚ) :
    min 0 value ≤ clampAbs limit value ∧ clampAbs limit value ≤ max 0 value := by
  unfold clampAbs
  constructor
  · rcases le_total value limit with h | h
    · rw [min_eq_left h]
      exact (min_le_right _ _).trans (le_max_right _ _)
    · rw [min_eq_right h]
      exact (min_le_left _ _).trans (hlimit.trans (le_max_right _ _))
  · exact max_le ((neg_nonpos.mpr hlimit).trans (le_max_left _ _)) ((min_le_left _ _).trans (le_max_right _ _))

theorem abs_pidIntegralOutput_le (hlimit : 0 < limit) (current errorW dt ki : ℚ) :
    |pidIntegralOutput current errorW dt ki limit| ≤ limit := by
  unfold pidIntegralOutput
  rw [if_pos hlimit]
  exact abs_clampAbs_le hlimit.le _

theorem abs_pidClampedOutputW_le (hlimit : 0 < limit) (target : ℚ) : |pidClampedOutputW target limit| ≤ limit := by
  unfold pidClampedOutputW
  rw [if_neg hlimit.not_ge]
  exact abs_clampAbs_le hlimit.le _

/-- The ramp leads from one bounded output to another through bounded ones. -/
theorem abs_pidRampedOutputW_le (hlast : |last| ≤ limit) (htarget : |target| ≤ limit) :
    |pidRampedOutputW last target dt rate| ≤ limit := by
  unfold pidRampedOutputW
  split
  · exact htarget
  · rename_i hramps
    rw [not_or, not_le, not_le] at hramps
    have hstep : 0 ≤ rate * dt := (mul_pos hramps.1 hramps.2).le
    obtain ⟨hlow, hhigh⟩ := clampAbs_between hstep (target - last)
    rw [abs_le] at hlast htarget ⊢
    constructor
    · have : -limit - last ≤ min 0 (target - last) := le_min (by linarith) (by linarith)
      linarith
    · have : max 0 (target - last) ≤ limit - last := max_le (by linarith) (by linarith)
      linarith

/-- While time passes, the ramp bounds the change of the output. -/
theorem abs_ramp_sub_le (hrate : 0 < rate) (hdt : 0 < dt) (last target : ℚ) :
    |pidRampedOutputW last target dt rate - last| ≤ rate * dt := by
  unfold pidRampedOutputW
  rw [if_neg (by simp [hrate, hdt]), add_sub_cancel_left]
  exact abs_clampAbs_le (mul_pos hrate hdt).le _

end Clamps

/-! ## Runs -/

/-- What happens to the controller: a tracking tick, or one of the two resets. -/
inductive PidEvent where
  | track (sourceErrorW now : ℚ)
  | reset
  | resetIntegral (aggressive : Bool)

/-- What is remembered of an event; a tick with its output. -/
inductive PidRecord where
  | tick (time outputW : ℚ)
  | reset
  | resetIntegral (aggressive : Bool)

/-- The previous tick of the tracking episode, which a reset ends. -/
def previousTick : List PidRecord → Option ℚ
  | [] => none
  | .tick t _ :: _ => some t
  | .reset :: _ => none
  | .resetIntegral _ :: older => previousTick older

/-- The previous output, zero after a reset of the output. -/
def previousOutput : List PidRecord → ℚ
  | [] => 0
  | .tick _ outputW :: _ => outputW
  | .reset :: _ => 0
  | .resetIntegral aggressive :: older => if aggressive then 0 else previousOutput older

/-- The attributes with the records so far, the newest first. -/
structure PidRun where
  vars : EssPidVars
  records : List PidRecord

namespace PidRun

/-- A reset controller. -/
def start : PidRun := ⟨.reset, []⟩

section Config

variable (cfg : EssPidConfig)

/-- The run after an event. -/
def step (r : PidRun) : PidEvent → PidRun
  | .track sourceErrorW now =>
    let vars := r.vars.track cfg sourceErrorW now
    ⟨vars, .tick now vars.lastOutputW :: r.records⟩
  | .reset => ⟨.reset, .reset :: r.records⟩
  | .resetIntegral aggressive => ⟨r.vars.resetIntegral aggressive, .resetIntegral aggressive :: r.records⟩

/-- The integral and the output lie within their limits. -/
def Limited (r : PidRun) : Prop :=
  |r.vars.integralOutputW| ≤ cfg.integralLimitW ∧ |r.vars.lastOutputW| ≤ cfg.maxAbsW

/-- The output of a tick leaves the previous one by no more than the ramp allows in the time since the previous
tick of the episode, and by nothing when there is none. -/
def Ramped (r : PidRun) : PidEvent → Prop
  | .track sourceErrorW now =>
    |(r.vars.track cfg sourceErrorW now).lastOutputW - previousOutput r.records| ≤
      cfg.rampRateWPerSecond * ((previousTick r.records).map (now - ·)).getD 0
  | _ => True

/-- The ramp binds when time has passed since the previous tick of the episode; any other tick takes the
clamped target. -/
def RampedWhenElapsed (r : PidRun) : PidEvent → Prop
  | .track sourceErrorW now =>
    (∀ last ∈ previousTick r.records, last < now →
      |(r.vars.track cfg sourceErrorW now).lastOutputW - previousOutput r.records| ≤
        cfg.rampRateWPerSecond * (now - last)) ∧
    ((∀ last ∈ previousTick r.records, now ≤ last) →
      (r.vars.track cfg sourceErrorW now).lastOutputW = r.vars.clampedTarget cfg sourceErrorW now)
  | _ => True

/-- The attributes agree with the records. -/
structure Faithful (r : PidRun) : Prop where
  lastAt : r.vars.lastAt = previousTick r.records
  lastOutput : r.vars.lastOutputW = previousOutput r.records
  limited : r.Limited cfg

end Config

section Step

variable {cfg : EssPidConfig} {r : PidRun}

/-- A tick keeps the integral and the output within their limits. -/
theorem limited_track (hmax : 0 < cfg.maxAbsW) (hintegral : 0 < cfg.integralLimitW) (hr : r.Limited cfg)
    (sourceErrorW now : ℚ) : (r.step cfg (.track sourceErrorW now)).Limited cfg := by
  constructor
  · show |r.vars.nextIntegral cfg sourceErrorW now| ≤ cfg.integralLimitW
    unfold EssPidVars.nextIntegral
    dsimp only
    split
    · rw [abs_zero]
      exact hintegral.le
    · exact abs_pidIntegralOutput_le hintegral _ _ _ _
  · show |pidRampedOutputW _ _ _ _| ≤ cfg.maxAbsW
    exact abs_pidRampedOutputW_le hr.2 (abs_pidClampedOutputW_le hmax _)

/-- Every event keeps the attributes in agreement with the records. -/
theorem faithful_step (hmax : 0 < cfg.maxAbsW) (hintegral : 0 < cfg.integralLimitW) (hr : r.Faithful cfg)
    (event : PidEvent) : (r.step cfg event).Faithful cfg := by
  have hzero : |(0 : ℚ)| ≤ cfg.integralLimitW := by
    rw [abs_zero]
    exact hintegral.le
  have hzeroOutput : |(0 : ℚ)| ≤ cfg.maxAbsW := by
    rw [abs_zero]
    exact hmax.le
  cases event with
  | track sourceErrorW now => exact ⟨rfl, rfl, limited_track hmax hintegral hr.limited sourceErrorW now⟩
  | reset => exact ⟨rfl, rfl, hzero, hzeroOutput⟩
  | resetIntegral aggressive =>
    cases aggressive with
    | true => exact ⟨hr.lastAt, rfl, hzero, hzeroOutput⟩
    | false => exact ⟨hr.lastAt, hr.lastOutput, hzero, hr.limited.2⟩

/-- The elapsed time is the one since the previous tick of the episode. -/
theorem dt_of_previous {v : EssPidVars} {last now : ℚ} (hlast : v.lastAt = some last) (hlt : last < now) :
    v.dt now = now - last := by
  rw [EssPidVars.dt, hlast]
  exact max_eq_right (sub_nonneg.mpr hlt.le)

/-- No time has passed without an earlier tick of the episode. -/
theorem dt_of_none {v : EssPidVars} {now : ℚ} (hlast : ∀ last ∈ v.lastAt, now ≤ last) : v.dt now = 0 := by
  rw [EssPidVars.dt]
  cases h : v.lastAt with
  | none => rfl
  | some last => exact max_eq_left (sub_nonpos.mpr (hlast last h))

/-- The ramp binds every tick before which time has passed. -/
theorem rampedWhenElapsed (hramp : 0 < cfg.rampRateWPerSecond) (hr : r.Faithful cfg) (event : PidEvent) :
    r.RampedWhenElapsed cfg event := by
  cases event with
  | reset => trivial
  | resetIntegral aggressive => trivial
  | track sourceErrorW now =>
    constructor
    · intro last hlast hlt
      have hdt : r.vars.dt now = now - last := dt_of_previous (hr.lastAt.trans hlast) hlt
      rw [← hr.lastOutput, ← hdt]
      exact abs_ramp_sub_le hramp (by rw [hdt]; exact sub_pos.mpr hlt) _ _
    · intro hnone
      have hdt : r.vars.dt now = 0 := dt_of_none (by rw [hr.lastAt]; exact hnone)
      show pidRampedOutputW _ _ (r.vars.dt now) _ = _
      rw [hdt]
      exact if_pos (Or.inr le_rfl)

end Step

/-- In every run of ticks and resets the integral and the output stay within their limits, and the ramp bounds
the change of the output on every tick before which time has passed in its episode; any other tick takes the
clamped target. -/
theorem tracking_bounded (cfg : EssPidConfig) (hmax : 0 < cfg.maxAbsW) (hintegral : 0 < cfg.integralLimitW)
    (hramp : 0 < cfg.rampRateWPerSecond) (events : List PidEvent) :
    Along (step cfg) (fun r event => (r.step cfg event).Limited cfg ∧ r.RampedWhenElapsed cfg event) start events := by
  have hstart : start.Faithful cfg :=
    ⟨rfl, rfl, abs_zero.trans_le hintegral.le, abs_zero.trans_le hmax.le⟩
  have hkeeps : ∀ r event, Faithful cfg r → True → Faithful cfg (r.step cfg event) :=
    fun r event hr _ => faithful_step hmax hintegral hr event
  refine along_of_invariant hkeeps (fun r event hr _ => ?_) hstart (along_of_forall_mem _ fun _ _ => trivial)
  exact ⟨(faithful_step hmax hintegral hr event).limited, rampedWhenElapsed hramp hr event⟩

/-- A proportional controller with a limit of 100 W that is ramped by 5 W in a second. -/
def proportional : EssPidConfig := ⟨some 1, none, none, none, some 50, some 100, some 5⟩

/-- Two ticks of a second, and a reset between them and the next tick. -/
theorem tracking_bounded_proportional :
    Along (step proportional)
      (fun r event => (r.step proportional event).Limited proportional ∧ r.RampedWhenElapsed proportional event)
      start [.track 40 0, .track 80 1, .reset, .track 80 2] :=
  tracking_bounded proportional (by decide +kernel) (by decide +kernel) (by decide +kernel) _

/-- The first tick after a reset takes the whole limit. -/
theorem first_tick_not_ramped :
    (start.step proportional (.track 500 0)).vars.lastOutputW = proportional.maxAbsW ∧
      ¬ Along (step proportional) (Ramped proportional) start [.track 500 0] := by
  have houtput : (start.step proportional (.track 500 0)).vars.lastOutputW = 100 := by decide +kernel
  refine ⟨houtput.trans (by decide +kernel), fun h => ?_⟩
  have hbound : |(start.step proportional (.track 500 0)).vars.lastOutputW - 0| ≤
      proportional.rampRateWPerSecond * 0 := h.1
  rw [houtput, mul_zero] at hbound
  exact absurd hbound (by decide +kernel)

end PidRun

end VenusEvcharger
