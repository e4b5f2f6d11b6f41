import Mathlib.Data.Rat.Floor

/-!
# The adaptive tick of the gateway

`adaptive_tick_seconds` chooses the slowest cadence that leaves room for the critical operations. `adaptive_tick_bounds`
says that it always gives a tick between the two bounds, and that the pending operations fit into the budget of every
deadline unless the tick is at the floor of the service time.

Scope: times are exact. A division is a parameter, so that a result cannot depend on a division by a number that is not
positive.
-/

namespace VenusEvcharger

/-- What the arithmetic of the policy can raise. -/
inductive TickError where
  | zeroDivisionError
  | valueError
deriving DecidableEq

/-- `SLO_BUDGET_FRACTION`. -/
def sloBudgetFraction : ℚ := 4 / 5

/-- `TickPolicy`. -/
structure TickPolicy where
  minTickSeconds : ℚ
  maxTickSeconds : ℚ
  coreReadSloSeconds : ℚ
  queueSloSeconds : ℚ

/-- `TickDemand`. -/
structure TickDemand where
  criticalReadOperations : Int
  criticalQueueOperations : Int
  coreReadAgeSeconds : ℚ
  queueAgeSeconds : ℚ
  operationP95Ms : ℚ

/-- `operation_count`. -/
def TickDemand.operationCount (demand : TickDemand) : Int :=
  max 0 demand.criticalReadOperations + max 0 demand.criticalQueueOperations

/-- `minimum` of `adaptive_tick_seconds`. -/
def TickPolicy.minimum (policy : TickPolicy) : ℚ := max (1 / 1000) policy.minTickSeconds

/-- `maximum` of `adaptive_tick_seconds`. -/
def TickPolicy.maximum (policy : TickPolicy) : ℚ := max policy.minimum policy.maxTickSeconds

/-- `_clamp`. -/
def clampTick (value minimum maximum : ℚ) : ℚ := min maximum (max minimum value)

/-- `_state_baseline`. -/
def stateBaseline (minimum maximum : ℚ) (circuitState resourceState : String) : ℚ :=
  if resourceState = "constrained" then maximum
  else if circuitState = "degraded" then clampTick (max (minimum * (5 / 2)) (1 / 2)) minimum maximum
  else if resourceState = "busy" then clampTick (max (minimum * (3 / 2)) (3 / 10)) minimum maximum
  else minimum

/-- The `deadlines` of `_critical_deadline`: what is left for each class of work that is pending. -/
def criticalDeadlines (policy : TickPolicy) (demand : TickDemand) : List ℚ :=
  (if 0 < demand.criticalReadOperations then
    [max 0 (policy.coreReadSloSeconds - max 0 demand.coreReadAgeSeconds)] else []) ++
  if 0 < demand.criticalQueueOperations then
    [max 0 (policy.queueSloSeconds - max 0 demand.queueAgeSeconds)] else []

/-- `_critical_deadline`; `min` of no deadlines is an error. -/
def criticalDeadline (policy : TickPolicy) (demand : TickDemand) : Except TickError ℚ :=
  match criticalDeadlines policy demand with
  | [] => .error .valueError
  | first :: rest => .ok (rest.foldl min first)

/-- The division of floats. -/
def floatDivide (x y : ℚ) : Except TickError ℚ := if y = 0 then .error .zeroDivisionError else .ok (x / y)

section

variable (divide : ℚ → ℚ → Except TickError ℚ)

/-- `_service_time_floor`. -/
def serviceTimeFloor (minimum maximum : ℚ) (demand : TickDemand) (resourceState : String) : Except TickError ℚ :=
  if resourceState = "ok" ∨ 0 < demand.criticalQueueOperations then .ok minimum
  else do
    let operationSeconds ← divide (max 0 demand.operationP95Ms) 1000
    return clampTick operationSeconds minimum maximum

/-- `adaptive_tick_seconds`. -/
def adaptiveTickSeconds (policy : TickPolicy) (demand : TickDemand) (circuitState resourceState : String) :
    Except TickError ℚ :=
  let minimum := policy.minimum
  let maximum := policy.maximum
  if circuitState = "protective" then .ok maximum
  else
    let baseline := stateBaseline minimum maximum circuitState resourceState
    if demand.operationCount = 0 then .ok baseline
    else do
      let serviceFloor ← serviceTimeFloor divide minimum maximum demand resourceState
      let baseline := max baseline serviceFloor
      let deadline ← criticalDeadline policy demand
      let operationSeconds ← divide (max 0 demand.operationP95Ms) 1000
      let availableSeconds := max 0 (deadline * sloBudgetFraction - operationSeconds * demand.operationCount)
      let deadlineTick ← divide availableSeconds demand.operationCount
      return min baseline (clampTick deadlineTick serviceFloor maximum)

end

/-- `p95` in seconds. -/
def TickDemand.operationSeconds (demand : TickDemand) : ℚ := max 0 demand.operationP95Ms / 1000

/-- The pending operations, each with its tick and its own time, fit into the budget of a deadline. -/
def TickDemand.Fits (demand : TickDemand) (tick deadline : ℚ) : Prop :=
  demand.operationCount * (tick + demand.operationSeconds) ≤ sloBudgetFraction * deadline

/-! ## Bounds -/

variable {minimum maximum value : ℚ}

theorem le_clampTick (h : minimum ≤ maximum) : minimum ≤ clampTick value minimum maximum :=
  le_min h (le_max_left _ _)

theorem clampTick_le : clampTick value minimum maximum ≤ maximum := min_le_left _ _

/-- A clamped value that is above the lower end is not above the value. -/
theorem clampTick_le_self (h : minimum < clampTick value minimum maximum) : clampTick value minimum maximum ≤ value := by
  have hmax : clampTick value minimum maximum ≤ max minimum value := min_le_right _ _
  rcases le_total minimum value with hvalue | hvalue
  · rwa [max_eq_right hvalue] at hmax
  · rw [max_eq_left hvalue] at hmax
    exact absurd h (not_lt.mpr hmax)

theorem TickPolicy.minimum_pos (policy : TickPolicy) : 0 < policy.minimum :=
  lt_of_lt_of_le (by norm_num) (le_max_left _ _)

theorem TickPolicy.minimum_le_maximum (policy : TickPolicy) : policy.minimum ≤ policy.maximum := le_max_left _ _

theorem stateBaseline_bounds (h : minimum ≤ maximum) (circuitState resourceState : String) :
    minimum ≤ stateBaseline minimum maximum circuitState resourceState ∧
      stateBaseline minimum maximum circuitState resourceState ≤ maximum := by
  unfold stateBaseline
  split
  · exact ⟨h, le_rfl⟩
  · split
    · exact ⟨le_clampTick h, clampTick_le⟩
    · split
      · exact ⟨le_clampTick h, clampTick_le⟩
      · exact ⟨le_rfl, h⟩

/-! ## Deadlines -/

variable {policy : TickPolicy} {demand : TickDemand}

theorem foldl_min_le (rest : List ℚ) (first : ℚ) :
    rest.foldl min first ≤ first ∧ ∀ deadline ∈ rest, rest.foldl min first ≤ deadline := by
  induction rest generalizing first with
  | nil => exact ⟨le_rfl, nofun⟩
  | cons next rest ih =>
    obtain ⟨hfirst, hrest⟩ := ih (min first next)
    refine ⟨hfirst.trans (min_le_left _ _), fun deadline hdeadline => ?_⟩
    rcases List.mem_cons.mp hdeadline with rfl | hmem
    · exact hfirst.trans (min_le_right _ _)
    · exact hrest deadline hmem

/-- Pending work has a deadline, and the earliest one is no later than any. -/
theorem criticalDeadline_le (policy : TickPolicy) (h : demand.operationCount ≠ 0) :
    ∃ deadline, criticalDeadline policy demand = .ok deadline ∧
      ∀ other ∈ criticalDeadlines policy demand, deadline ≤ other := by
  have hne : criticalDeadlines policy demand ≠ [] := by
    have hpending : 0 < demand.criticalReadOperations ∨ 0 < demand.criticalQueueOperations := by
      unfold TickDemand.operationCount at h
      omega
    unfold criticalDeadlines
    rcases hpending with hread | hqueue
    · simp [hread]
    · simp [hqueue]
  obtain ⟨first, rest, hcons⟩ := List.exists_cons_of_ne_nil hne
  unfold criticalDeadline
  rw [hcons]
  obtain ⟨hfirst, hrest⟩ := foldl_min_le rest first
  refine ⟨_, rfl, fun other hother => ?_⟩
  rcases List.mem_cons.mp hother with rfl | hmem
  · exact hfirst
  · exact hrest other hmem

variable {deadline : ℚ}

theorem criticalDeadlines_nonneg (h : deadline ∈ criticalDeadlines policy demand) : 0 ≤ deadline := by
  unfold criticalDeadlines at h
  rcases List.mem_append.mp h with h | h <;> split at h <;> simp at h <;> rw [h] <;> exact le_max_left _ _

/-- Without pending work there is no deadline to keep. -/
theorem criticalDeadlines_of_idle (h : demand.operationCount = 0) : criticalDeadlines policy demand = [] := by
  unfold TickDemand.operationCount at h
  unfold criticalDeadlines
  rw [if_neg (by omega), if_neg (by omega)]
  rfl

theorem TickDemand.operationCount_nonneg (demand : TickDemand) : 0 ≤ demand.operationCount := by
  unfold TickDemand.operationCount
  omega

theorem TickDemand.operationSeconds_nonneg (demand : TickDemand) : 0 ≤ demand.operationSeconds :=
  div_nonneg (le_max_left _ _) (by norm_num)

theorem TickDemand.Fits.enough {tick : ℚ} (h : demand.Fits tick deadline) (htick : 0 < tick)
    (hdeadline : 0 ≤ deadline) : demand.operationCount ≤ ⌊deadline / tick⌋ := by
  have hcount : (0 : ℚ) ≤ demand.operationCount := Int.cast_nonneg demand.operationCount_nonneg
  have htime : 0 ≤ demand.operationCount * demand.operationSeconds := mul_nonneg hcount demand.operationSeconds_nonneg
  rw [Int.le_floor, le_div_iff₀ htick]
  calc
    (demand.operationCount : ℚ) * tick ≤ demand.operationCount * (tick + demand.operationSeconds) := by
      rw [mul_add]
      exact le_add_of_nonneg_right htime
    _ ≤ sloBudgetFraction * deadline := h
    _ ≤ deadline := by
      unfold sloBudgetFraction
      linarith

/-- A later deadline is no harder to keep. -/
theorem TickDemand.Fits.mono {tick other : ℚ} (h : demand.Fits tick deadline) (hle : deadline ≤ other) :
    demand.Fits tick other :=
  le_trans h (mul_le_mul_of_nonneg_left hle (by norm_num [sloBudgetFraction]))

/-- A positive tick within an operation's share of what the operations leave of the budget keeps the deadline. -/
theorem TickDemand.Fits.of_share {tick : ℚ} (hcount : 0 < demand.operationCount) (htick : 0 < tick)
    (h : tick ≤ max 0 (deadline * sloBudgetFraction - demand.operationSeconds * demand.operationCount) /
      demand.operationCount) : demand.Fits tick deadline := by
  have hpos : (0 : ℚ) < demand.operationCount := Int.cast_pos.mpr hcount
  rw [le_div_iff₀ hpos] at h
  -- The time left is not the zero that an exhausted budget is raised to, since the tick is positive.
  have havailable : tick * demand.operationCount ≤
      deadline * sloBudgetFraction - demand.operationSeconds * demand.operationCount := by
    rcases le_max_iff.mp h with hzero | havailable
    · exact absurd (mul_pos htick hpos) (not_lt.mpr hzero)
    · exact havailable
  unfold TickDemand.Fits
  linarith

/-! ## The tick -/

variable {divide : ℚ → ℚ → Except TickError ℚ} (hdivide : ∀ x y, 0 < y → divide x y = .ok (x / y))

include hdivide

theorem serviceTimeFloor_ok (h : minimum ≤ maximum) (demand : TickDemand) (resourceState : String) :
    ∃ floor, serviceTimeFloor divide minimum maximum demand resourceState = .ok floor ∧ minimum ≤ floor ∧
      floor ≤ maximum := by
  unfold serviceTimeFloor
  split
  · exact ⟨minimum, rfl, le_rfl, h⟩
  · rw [hdivide _ _ (by norm_num)]
    exact ⟨_, rfl, le_clampTick h, clampTick_le⟩

/-- With pending work the tick is the slower of the baseline and the floor, brought forward to the share of an
operation in the budget of the earliest deadline. -/
theorem adaptiveTickSeconds_of_pending {floor : ℚ} {circuitState resourceState : String}
    (hcircuit : circuitState ≠ "protective") (hcount : 0 < demand.operationCount)
    (hfloor : serviceTimeFloor divide policy.minimum policy.maximum demand resourceState = .ok floor)
    (hdeadline : criticalDeadline policy demand = .ok deadline) :
    adaptiveTickSeconds divide policy demand circuitState resourceState =
      .ok (min (max (stateBaseline policy.minimum policy.maximum circuitState resourceState) floor)
        (clampTick (max 0 (deadline * sloBudgetFraction - demand.operationSeconds * demand.operationCount) /
          demand.operationCount) floor policy.maximum)) := by
  unfold adaptiveTickSeconds
  rw [if_neg hcircuit, if_neg hcount.ne', hfloor, hdeadline, hdivide _ _ (by norm_num)]
  change (divide _ _ >>= fun deadlineTick => _) = _
  rw [hdivide _ _ (Int.cast_pos.mpr hcount)]
  rfl

/-- With pending work the tick is never below the service floor, and a slower one leaves room for the pending
operations before every deadline. -/
theorem adaptiveTickSeconds_pending {floor : ℚ} {circuitState resourceState : String}
    (hcircuit : circuitState ≠ "protective") (hcount : 0 < demand.operationCount)
    (hfloor : serviceTimeFloor divide policy.minimum policy.maximum demand resourceState = .ok floor)
    (hpos : 0 < floor) (hle : floor ≤ policy.maximum) :
    ∃ tick, adaptiveTickSeconds divide policy demand circuitState resourceState = .ok tick ∧
      floor ≤ tick ∧ tick ≤ policy.maximum ∧
      (floor < tick → ∀ deadline ∈ criticalDeadlines policy demand, demand.Fits tick deadline) := by
  obtain ⟨earliest, hearliest, hfirst⟩ := criticalDeadline_le policy hcount.ne'
  refine ⟨_, adaptiveTickSeconds_of_pending hdivide hcircuit hcount hfloor hearliest, ?_, ?_, ?_⟩
  · exact le_min (le_max_right _ _) (le_clampTick hle)
  · exact (min_le_right _ _).trans clampTick_le
  · intro hslow deadline hdeadline
    have hclamped := lt_of_lt_of_le hslow (min_le_right _ _)
    refine (TickDemand.Fits.of_share hcount (hpos.trans hslow) ?_).mono (hfirst deadline hdeadline)
    exact (min_le_right _ _).trans (clampTick_le_self hclamped)

omit hdivide

/-- The adaptive tick, whatever a division by a number that is not positive does: there is always a tick, between the
bounds (the configured ones, where these are in order), and unless the circuit is protective or the tick is at the
service floor, every pending operation gets a tick and its own time within the budget of every deadline. -/
theorem adaptive_tick_bounds (divide : ℚ → ℚ → Except TickError ℚ)
    (hdivide : ∀ x y, 0 < y → divide x y = .ok (x / y)) (policy : TickPolicy) (demand : TickDemand)
    (circuitState resourceState : String) :
    ∃ tick, adaptiveTickSeconds divide policy demand circuitState resourceState = .ok tick ∧
      policy.minimum ≤ tick ∧ tick ≤ policy.maximum ∧
      (1 / 1000 ≤ policy.minTickSeconds → policy.minTickSeconds ≤ policy.maxTickSeconds →
        policy.minTickSeconds ≤ tick ∧ tick ≤ policy.maxTickSeconds) ∧
      (circuitState = "protective" ∨
        serviceTimeFloor divide policy.minimum policy.maximum demand resourceState = .ok tick ∨
        ∀ deadline ∈ criticalDeadlines policy demand,
          demand.Fits tick deadline ∧ demand.operationCount ≤ ⌊deadline / tick⌋) := by
  suffices hbounds : ∃ tick, adaptiveTickSeconds divide policy demand circuitState resourceState = .ok tick ∧
      policy.minimum ≤ tick ∧ tick ≤ policy.maximum ∧
      (circuitState = "protective" ∨
        serviceTimeFloor divide policy.minimum policy.maximum demand resourceState = .ok tick ∨
        ∀ deadline ∈ criticalDeadlines policy demand,
          demand.Fits tick deadline ∧ demand.operationCount ≤ ⌊deadline / tick⌋) by
    obtain ⟨tick, htick, hmin, hmax, hroom⟩ := hbounds
    -- Configured bounds that are in order are the bounds in force.
    refine ⟨tick, htick, hmin, hmax, fun hpositive hordered => ?_, hroom⟩
    have hminimum : policy.minimum = policy.minTickSeconds := max_eq_right hpositive
    have hmaximum : policy.maximum = policy.maxTickSeconds := by
      unfold TickPolicy.maximum
      rw [hminimum, max_eq_right hordered]
    exact ⟨hminimum ▸ hmin, hmaximum ▸ hmax⟩
  by_cases hcircuit : circuitState = "protective"
  · exact ⟨policy.maximum, if_pos hcircuit, policy.minimum_le_maximum, le_rfl, .inl hcircuit⟩
  rcases demand.operationCount_nonneg.eq_or_lt with hidle | hcount
  · obtain ⟨hmin, hmax⟩ := stateBaseline_bounds policy.minimum_le_maximum circuitState resourceState
    refine ⟨_, ?_, hmin, hmax, .inr (.inr ?_)⟩
    · unfold adaptiveTickSeconds
      rw [if_neg hcircuit, if_pos hidle.symm]
    · rw [criticalDeadlines_of_idle hidle.symm]
      exact nofun
  · obtain ⟨floor, hfloor, hmin, hmax⟩ :=
      serviceTimeFloor_ok hdivide policy.minimum_le_maximum demand resourceState
    have hpos : 0 < floor := policy.minimum_pos.trans_le hmin
    obtain ⟨tick, htick, hle, hlast, hfits⟩ :=
      adaptiveTickSeconds_pending hdivide hcircuit hcount hfloor hpos hmax
    refine ⟨tick, htick, hmin.trans hle, hlast, .inr ?_⟩
    -- A tick above the floor was brought forward to what the deadline leaves for an operation.
    rcases hle.eq_or_lt with rfl | hslow
    · exact .inl hfloor
    · refine .inr fun deadline hdeadline => ?_
      have hfit := hfits hslow deadline hdeadline
      exact ⟨hfit, hfit.enough (hpos.trans hslow) (criticalDeadlines_nonneg hdeadline)⟩

/-- Two late reads bring a constrained gateway forward to a tick of 0.3 seconds. -/
theorem adaptive_tick_accelerates :
    adaptiveTickSeconds floatDivide ⟨1 / 5, 1, 5, 10⟩ ⟨2, 0, 4, 0, 100⟩ "ok" "constrained" = .ok (3 / 10) ∧
      ∃ tick, adaptiveTickSeconds floatDivide ⟨1 / 5, 1, 5, 10⟩ ⟨2, 0, 4, 0, 100⟩ "ok" "constrained" = .ok tick ∧
        2 ≤ ⌊1 / tick⌋ := by
  have hdivide : ∀ x y : ℚ, 0 < y → floatDivide x y = .ok (x / y) := fun x y hy => if_neg hy.ne'
  refine ⟨by decide +kernel, ?_⟩
  obtain ⟨tick, htick, hmin, _, _, hroom⟩ :=
    adaptive_tick_bounds floatDivide hdivide ⟨1 / 5, 1, 5, 10⟩ ⟨2, 0, 4, 0, 100⟩ "ok" "constrained"
  refine ⟨tick, htick, ?_⟩
  rcases hroom with hcircuit | hfloor | hdeadlines
  · exact absurd hcircuit (by decide)
  · have htick' := htick.symm.trans (show _ = Except.ok (3 / 10) by decide +kernel)
    rw [htick'] at hfloor
    exact absurd hfloor (by decide +kernel)
  · exact (hdeadlines 1 (by decide +kernel)).2

/-- Inverted bounds give a tick above the configured maximum, a protective gateway takes the one second of the maximum
for a read that is due in half a second, and three overdue reads are served at the floor of their own time, above the
minimum. -/
theorem adaptive_tick_normalised :
    adaptiveTickSeconds floatDivide ⟨5, 1, 5, 10⟩ ⟨0, 0, 0, 0, 0⟩ "ok" "ok" = .ok 5 ∧
      adaptiveTickSeconds floatDivide ⟨1 / 5, 1, 5, 10⟩ ⟨1, 0, 9 / 2, 0, 0⟩ "protective" "ok" = .ok 1 ∧
      1 / 2 ∈ criticalDeadlines ⟨1 / 5, 1, 5, 10⟩ ⟨1, 0, 9 / 2, 0, 0⟩ ∧ ⌊(1 / 2 : ℚ) / 1⌋ = 0 ∧
      adaptiveTickSeconds floatDivide ⟨1 / 5, 1, 5, 10⟩ ⟨3, 0, 5, 0, 480⟩ "ok" "constrained" = .ok (12 / 25) ∧
      0 ∈ criticalDeadlines ⟨1 / 5, 1, 5, 10⟩ ⟨3, 0, 5, 0, 480⟩ := by
  decide +kernel

end VenusEvcharger
