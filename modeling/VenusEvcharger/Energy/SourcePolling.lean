import VenusEvcharger.Energy.Models
import VenusEvcharger.Library.Progress
import VenusEvcharger.Library.RoundRobin
import Mathlib.Data.List.Nodup
import Mathlib.Tactic.Linarith

/-!
# Polling of external energy sources

The Python and the native helper poll their external sources with the same scheduler: at most one read in each cycle,
round robin among the sources that are due. They differ in the keys under which they hold the states of the sources, and
in the counter of the failures, which are parameters here.

Scope: what a connector answers is an input. The deadline of a cycle only bounds the timeouts of the connectors and is
left out, as are the log messages.
-/

namespace VenusEvcharger.SourcePolling

open Library

/-- Bound one helper cycle and define source retry/freshness behavior. -/
structure ExternalPollingPolicy where
  pollIntervalSeconds : ℚ
  backoffBaseSeconds : ℚ
  backoffMaxSeconds : ℚ
  lastGoodMaxAgeSeconds : ℚ
  pollInterval_pos : 0 < pollIntervalSeconds
  backoffBase_pos : 0 < backoffBaseSeconds
  backoffMax_covers : backoffBaseSeconds ≤ backoffMaxSeconds
  lastGoodMaxAge_nonneg : 0 ≤ lastGoodMaxAgeSeconds

/-- One step of a connector: a snapshot, an incomplete read, or one of the errors of a read. -/
inductive ReadStep where
  | completed (snapshot : EnergySourceSnapshot)
  | pending
  | failed (message : String)

/-- `_AttemptStatus`, `AttemptStatus`. -/
inductive AttemptStatus where
  | success
  | failed
  | inProgress
deriving DecidableEq

/-- `AttemptStatus::as_str`. -/
def AttemptStatus.text : AttemptStatus → String
  | .success => "success"
  | .failed => "failed"
  | .inProgress => "in_progress"

/-! ## The state of a source -/

/-- `_SourceState`, `SourceState`. -/
structure SourceState where
  lastGood : Option EnergySourceSnapshot
  lastGoodMonotonic : Option ℚ
  attemptedAt : Option ℚ
  nextPollMonotonic : ℚ
  consecutiveFailures : Nat
  lastError : String
  inProgress : Bool

def SourceState.new : SourceState := ⟨none, none, none, 0, 0, "", false⟩

/-- A counter of failures, which counts at least up to the largest failure that the backoff distinguishes. -/
structure FailureCounter where
  increment : Nat → Nat
  counts : ∀ failures, min 31 (increment failures) = min 31 (failures + 1)

/-- `_has_contributing_value`, `has_contributing_value`. -/
def hasContributingValue (snapshot : EnergySourceSnapshot) : Bool :=
  [snapshot.soc, snapshot.usableCapacityWh, snapshot.netBatteryPowerW, snapshot.chargeLimitPowerW,
    snapshot.dischargeLimitPowerW, snapshot.acPowerW, snapshot.pvInputPowerW, snapshot.gridInteractionW].any Option.isSome

/-- `_confirms_measurement`, `confirms_measurement`. -/
def confirmsMeasurement (snapshot : EnergySourceSnapshot) : Bool :=
  snapshot.online && snapshot.capturedAt.any (0 ≤ ·) && hasContributingValue snapshot

/-- Apply identity fields owned by configuration at the connector boundary. -/
def configuredSnapshot (definition : EnergySourceDefinition) (snapshot : EnergySourceSnapshot) : EnergySourceSnapshot :=
  { snapshot with
    sourceId := definition.sourceId
    role := definition.role
    physicalId := definition.physicalId
    physicalPriority := definition.physicalPriority }

/-- `_backoff_seconds`, `backoff_seconds`. -/
def backoffSeconds (policy : ExternalPollingPolicy) (failures : Nat) : ℚ :=
  let exponent := min 30 (failures - 1)
  min policy.backoffMaxSeconds (policy.backoffBaseSeconds * 2 ^ exponent)

namespace SourceState

/-- `_record_failure`, `record_failure`. -/
def recordFailure (state : SourceState) (policy : ExternalPollingPolicy) (counter : FailureCounter)
    (completedMonotonic : ℚ) (message : String) : SourceState :=
  let consecutiveFailures := counter.increment state.consecutiveFailures
  { state with
    consecutiveFailures
    lastError := message
    inProgress := false
    nextPollMonotonic := completedMonotonic + backoffSeconds policy consecutiveFailures }

/-- `_record_success`. -/
def recordSuccess (state : SourceState) (policy : ExternalPollingPolicy) (snapshot : EnergySourceSnapshot)
    (completedMonotonic : ℚ) : SourceState :=
  { state with
    lastGood := some snapshot
    lastGoodMonotonic := some completedMonotonic
    consecutiveFailures := 0
    lastError := ""
    inProgress := false
    nextPollMonotonic := completedMonotonic + policy.pollIntervalSeconds }

/-- `_record_in_progress`. -/
def recordInProgress (state : SourceState) (completedMonotonic : ℚ) : SourceState :=
  { state with inProgress := true, lastError := "", nextPollMonotonic := completedMonotonic }

/-- `_attempt`, `attempt`: record what the connector has answered. -/
def attempt (state : SourceState) (policy : ExternalPollingPolicy) (counter : FailureCounter)
    (definition : EnergySourceDefinition) (now : ℚ) (step : ReadStep) (completedMonotonic : ℚ) :
    SourceState × AttemptStatus :=
  let state := { state with attemptedAt := some now }
  match step with
  | .failed message => (state.recordFailure policy counter completedMonotonic message, .failed)
  | .pending => (state.recordInProgress completedMonotonic, .inProgress)
  | .completed snapshot =>
    if confirmsMeasurement snapshot then
      (state.recordSuccess policy (configuredSnapshot definition snapshot) completedMonotonic, .success)
    else
      (state.recordFailure policy counter completedMonotonic "source reported no online measurement", .failed)

end SourceState

/-! ## The results of a poll -/

/-- One source's cached measurement and explicit polling diagnostics. -/
structure ExternalSourcePoll where
  snapshot : EnergySourceSnapshot
  contributing : Bool
  pollStatus : String
  measurementStatus : String
  attemptedAt : Option ℚ
  observedAt : Option ℚ
  nextPollAt : ℚ
  ageSeconds : Option ℚ
  consecutiveFailures : Nat
  lastError : String
  observedMonotonic : Option ℚ

/-- `_offline_source`, `EnergySourceSnapshot::offline`. -/
def offlineSource (definition : EnergySourceDefinition) : EnergySourceSnapshot where
  sourceId := definition.sourceId
  role := definition.role
  soc := none
  usableCapacityWh := definition.usableCapacityWh
  netBatteryPowerW := none
  chargeLimitPowerW := none
  dischargeLimitPowerW := none
  acPowerW := none
  pvInputPowerW := none
  gridInteractionW := none
  acPowerScopeKey := ""
  pvInputPowerScopeKey := ""
  gridInteractionScopeKey := ""
  online := false
  confidence := 0
  capturedAt := none
  physicalId := definition.physicalId
  physicalPriority := definition.physicalPriority

/-- `_snapshot_age`. -/
def snapshotAge (observedMonotonic : Option ℚ) (monotonicNow : ℚ) : Option ℚ :=
  observedMonotonic.bind fun observed =>
    if 0 ≤ observed ∧ observed ≤ monotonicNow then some (monotonicNow - observed) else none

/-- `_poll_status`. -/
def pollStatus (state : SourceState) (monotonicNow : ℚ) (attempted : Option AttemptStatus) : String :=
  match attempted with
  | some status => status.text
  | none =>
    if state.inProgress then "in_progress"
    else if state.nextPollMonotonic ≤ monotonicNow then "deferred_budget"
    else if state.consecutiveFailures > 0 then "backoff" else "idle"

/-- `_measurement_status`. -/
def measurementStatus (state : SourceState) (age : Option ℚ) (contributing : Bool) : String :=
  if age = none then "missing"
  else if !contributing then "expired"
  else if state.consecutiveFailures > 0 then "stale" else "fresh"

/-- `_poll_result`, `poll_result`. -/
def pollResult (definition : EnergySourceDefinition) (state : SourceState) (policy : ExternalPollingPolicy)
    (now cycleMonotonic resultMonotonic : ℚ) (attempted : Option AttemptStatus) : ExternalSourcePoll :=
  let age := snapshotAge state.lastGoodMonotonic resultMonotonic
  let contributing := age.any (· ≤ policy.lastGoodMaxAgeSeconds)
  { snapshot := state.lastGood.getD (offlineSource definition)
    contributing
    pollStatus := pollStatus state resultMonotonic attempted
    measurementStatus := measurementStatus state age contributing
    attemptedAt := state.attemptedAt
    observedAt := state.lastGood.bind EnergySourceSnapshot.capturedAt
    nextPollAt := now + max 0 (state.nextPollMonotonic - cycleMonotonic)
    ageSeconds := age
    consecutiveFailures := state.consecutiveFailures
    lastError := state.lastError
    observedMonotonic := state.lastGoodMonotonic }

/-! ## The scheduler -/

/-- One round-robin scheduler that admits at most one external operation per cycle. -/
structure ExternalSourceScheduler (κ : Type) where
  sources : List (κ × EnergySourceDefinition)
  policy : ExternalPollingPolicy
  counter : FailureCounter
  states : κ → SourceState
  cursor : Nat

/-- The surroundings of a poll: the time and the monotonic clock at its start, when the attempt ends and when the results
are made, and what the connector of each source answers. -/
structure PollCycle (κ : Type) where
  now : ℚ
  cycleMonotonic : ℚ
  completedMonotonic : ℚ
  resultMonotonic : ℚ
  read : κ → ReadStep
  attempted : cycleMonotonic ≤ completedMonotonic
  reported : completedMonotonic ≤ resultMonotonic

namespace ExternalSourceScheduler

variable {κ : Type}

def new (sources : List (κ × EnergySourceDefinition)) (policy : ExternalPollingPolicy) (counter : FailureCounter) :
    ExternalSourceScheduler κ := ⟨sources, policy, counter, fun _ => .new, 0⟩

/-- The source with a key may be attempted. -/
def due (s : ExternalSourceScheduler κ) (monotonic : ℚ) (key : κ) : Bool := (s.states key).nextPollMonotonic ≤ monotonic

/-- `_next_due_definition`, `next_due`. -/
def nextDue (s : ExternalSourceScheduler κ) (monotonic : ℚ) : Option (Nat × κ × EnergySourceDefinition) :=
  (nextFrom s.sources.length s.cursor fun index => s.sources[index]?.any (s.due monotonic ·.1)).bind
    fun index => s.sources[index]?.map (index, ·)

/-- The source that a poll attempts. -/
def attempted (s : ExternalSourceScheduler κ) (cycle : PollCycle κ) : Option κ :=
  (s.nextDue cycle.cycleMonotonic).map fun found => found.2.1

variable [DecidableEq κ]

def pollResults (s : ExternalSourceScheduler κ) (cycle : PollCycle κ) (attempted : Option (κ × AttemptStatus)) :
    List ExternalSourcePoll :=
  s.sources.map fun (key, definition) =>
    pollResult definition (s.states key) s.policy cycle.now cycle.cycleMonotonic cycle.resultMonotonic
      ((attempted.filter (·.1 = key)).map (·.2))

/-- Poll one due source and return diagnostics for every configured source. -/
def poll (s : ExternalSourceScheduler κ) (cycle : PollCycle κ) : ExternalSourceScheduler κ × List ExternalSourcePoll :=
  match s.nextDue cycle.cycleMonotonic with
  | none => (s, s.pollResults cycle none)
  | some (index, key, definition) =>
    let (state, status) := (s.states key).attempt s.policy s.counter definition cycle.now (cycle.read key)
      cycle.completedMonotonic
    let s := { s with
      states := Function.update s.states key state
      cursor := (index + 1) % s.sources.length }
    (s, s.pollResults cycle (some (key, status)))

end ExternalSourceScheduler

end VenusEvcharger.SourcePolling
