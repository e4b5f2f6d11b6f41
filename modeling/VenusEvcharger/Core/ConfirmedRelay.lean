import Mathlib.Algebra.Order.Ring.Rat

/-!
# The confirmed relay state

The I/O worker keeps the last PM status that the relay itself reported, with the time of the reading.
Decisions that need the real state of the contactor accept only a reading that is fresh.

Scope: clock readings and intervals are finite.
-/

namespace VenusEvcharger

/-- What is read of a PM status: its `output` field, which may be missing. -/
structure PmStatus where
  output : Option Bool

/-- The last confirmed PM status and the settings that bound its age. -/
structure ConfirmedRelay where
  pmStatus : Option PmStatus
  pmStatusAt : Option ℚ
  workerPollIntervalSeconds : Option ℚ
  relaySyncTimeoutSeconds : Option ℚ

namespace ConfirmedRelay

/-- `_positive_service_float`. -/
def positiveServiceFloat (value : Option ℚ) : Option ℚ := value.filter (decide <| 0 < ·)

/-- `_confirmed_relay_state_max_age_seconds`. -/
def maxAgeSeconds (r : ConfirmedRelay) : ℚ :=
  let fallback := 5
  let fallback := match positiveServiceFloat r.workerPollIntervalSeconds with
    | some poll => min fallback (poll * 2)
    | none => fallback
  let fallback := match positiveServiceFloat r.relaySyncTimeoutSeconds with
    | some timeout => min fallback timeout
    | none => fallback
  max 1 fallback

/-- `timestamp_age_within` at its future tolerance of one second. -/
def timestampAgeWithin (timestamp : Option ℚ) (now maxAge : ℚ) : Bool :=
  match timestamp with
  | none => false
  | some at' => decide (-1 ≤ now - at') && decide (now - at' ≤ maxAge)

/-- `_fresh_confirmed_relay_output`: the output of a confirmed status that is fresh and has one. -/
def freshOutput (r : ConfirmedRelay) (now : ℚ) : Option Bool :=
  match r.pmStatus with
  | none => none
  | some status =>
    match status.output with
    | none => none
    | some output => if timestampAgeWithin r.pmStatusAt now r.maxAgeSeconds then some output else none

/-- `cutover_confirmed_off` for the confirmed status of the service. A status without an output field
counts as on. -/
def cutoverConfirmedOff (r : ConfirmedRelay) (relayOn : Bool) (pending : Option Bool)
    (requestedAt : Option ℚ) (now : ℚ) : Bool :=
  match r.pmStatus with
  | none => false
  | some status =>
    pending.isNone && !relayOn && !(status.output.getD true) &&
      timestampAgeWithin r.pmStatusAt now r.maxAgeSeconds &&
      (match requestedAt, r.pmStatusAt with
        | none, _ => true
        | some requested, some confirmed => decide (requested ≤ confirmed)
        | some _, none => false)

theorem relayOn_eq_false_of_cutoverConfirmedOff {r : ConfirmedRelay} {relayOn : Bool}
    {pending : Option Bool} {requestedAt : Option ℚ} {now : ℚ}
    (h : r.cutoverConfirmedOff relayOn pending requestedAt now = true) : relayOn = false := by
  unfold cutoverConfirmedOff at h
  cases hstatus : r.pmStatus with
  | none => simp [hstatus] at h
  | some status =>
    simp only [hstatus, Bool.and_eq_true, Bool.not_eq_true'] at h
    exact h.1.1.1.2

end ConfirmedRelay

end VenusEvcharger
