import VenusEvcharger.Library.Run
import VenusEvcharger.Library.SlidingWindow
import VenusEvcharger.Python.Value
import Mathlib.Tactic.Linarith

/-!
# The circuit breaker of the D-Bus adapter

`DbusCircuitBreaker` counts the timeouts of the last minute. Enough of them extend one of two deadlines, and
`state` compares the clock with the deadlines. `DbusCircuitBreaker.Judges` relates the deadlines to the timeouts
of a run.

Scope: the monotonic clock. Latencies, the epoch copies of the deadlines and the evidence of the last trigger are
left out.
-/

namespace VenusEvcharger

open Library

/-- What `state` reports. -/
inductive CircuitState where
  | ok
  | degraded
  | protective
deriving DecidableEq

namespace CircuitState

/-- How much work a state suppresses. -/
def severity : CircuitState → Nat
  | ok => 0
  | degraded => 1
  | protective => 2

end CircuitState

def dbusDegradedTimeoutsPerMinute : Nat := 3

def dbusProtectiveTimeoutsPerMinute : Nat := 5

/-- `window_seconds` of a `LatencyWindow`, and the window of `_prune_events`. -/
def latencyWindowSeconds : ℚ := 60

/-! ## Priorities -/

/-- `_normalized_priority`. -/
def normalizedPriority (priority : String) : String :=
  let normalized := lower (strip priority)
  if normalized = "" then "diagnostic" else normalized

/-- The rank of a priority in `PRIORITY_RANKS`, and `DEFAULT_PRIORITY_RANK` for every other text. -/
def dbusPriorityRank (priority : String) : Nat :=
  match normalizedPriority priority with
  | "safety" => 0
  | "user" => 1
  | "publish" => 2
  | "read" => 3
  | "optional" => 4
  | "discovery" => 5
  | _ => 6

/-- `allows_priority` in a state: `PROTECTIVE_MAX_ALLOWED_PRIORITY_RANK` is the rank of reads,
`DEGRADED_MAX_ALLOWED_PRIORITY_RANK` that of optional work. -/
def CircuitState.allowsPriority (state : CircuitState) (priority : String) : Bool :=
  match state with
  | .protective => decide (dbusPriorityRank priority ≤ 3)
  | .degraded => decide (dbusPriorityRank priority ≤ 4)
  | .ok => true

/-! ## The breaker -/

/-- A `DbusCircuitBreaker`. -/
structure DbusCircuitBreaker where
  degradedSeconds : ℚ
  protectiveSeconds : ℚ
  degradedUntil : ℚ
  protectiveUntil : ℚ
  /-- The timeouts of `latencies`, the oldest first. -/
  timeouts : List ℚ
  /-- `_errors`, without their kinds. -/
  errors : List ℚ
  /-- `_successes`, without their kinds. -/
  successes : List ℚ
  consecutiveFailures : Nat
  lastError : String

namespace DbusCircuitBreaker

/-- A new breaker. -/
def start (degradedSeconds protectiveSeconds : ℚ) : DbusCircuitBreaker where
  degradedSeconds := max 1 degradedSeconds
  protectiveSeconds := max 1 protectiveSeconds
  degradedUntil := 0
  protectiveUntil := 0
  timeouts := []
  errors := []
  successes := []
  consecutiveFailures := 0
  lastError := ""

section

variable (b : DbusCircuitBreaker)

/-- `state`. -/
def state (monotonicAt : ℚ) : CircuitState :=
  if monotonicAt < b.protectiveUntil then .protective
  else if monotonicAt < b.degradedUntil then .degraded
  else .ok

/-- `_prune_events`. -/
def pruneEvents (now : ℚ) : DbusCircuitBreaker :=
  { b with
    errors := prune (now - latencyWindowSeconds) b.errors
    successes := prune (now - latencyWindowSeconds) b.successes }

/-- `_prune` of the latency window, which every record and every summary performs. -/
def pruneTimeouts (now : ℚ) : DbusCircuitBreaker :=
  { b with timeouts := prune (now - latencyWindowSeconds) b.timeouts }

/-- `timeouts_60s` of a summary. -/
def timeoutCount (now : ℚ) : Nat :=
  (b.pruneTimeouts now).timeouts.length

/-- `record_success`. -/
def recordSuccess (monotonicAt : ℚ) : DbusCircuitBreaker :=
  let b := b.pruneTimeouts monotonicAt
  let b := { b with successes := b.successes ++ [monotonicAt] }.pruneEvents monotonicAt
  { b with lastError := "", consecutiveFailures := 0 }

/-- `_extend_degraded_deadline`. -/
def extendDegradedDeadline (monotonicAt : ℚ) : DbusCircuitBreaker :=
  let candidate := monotonicAt + b.degradedSeconds
  if b.degradedUntil < candidate then { b with degradedUntil := candidate } else b

/-- `_extend_protective_deadline`. -/
def extendProtectiveDeadline (monotonicAt : ℚ) : DbusCircuitBreaker :=
  let candidate := monotonicAt + b.protectiveSeconds
  if b.protectiveUntil < candidate then { b with protectiveUntil := candidate } else b

/-- `_record_timeout_error`. -/
def recordTimeoutError (monotonicAt : ℚ) : DbusCircuitBreaker :=
  let b := { b with timeouts := b.timeouts ++ [monotonicAt] }.pruneTimeouts monotonicAt
  let count := b.timeoutCount monotonicAt
  if dbusProtectiveTimeoutsPerMinute < count then b.extendProtectiveDeadline monotonicAt
  else if dbusDegradedTimeoutsPerMinute ≤ count then b.extendDegradedDeadline monotonicAt
  else b

/-- The part of `record_error` before the error is looked at. A latency is only recorded when one was measured. -/
def countError (message : String) (latency : Bool) (monotonicAt : ℚ) :
    DbusCircuitBreaker :=
  let b := { b with lastError := message, errors := b.errors ++ [monotonicAt] }.pruneEvents monotonicAt
  let b := { b with consecutiveFailures := b.consecutiveFailures + 1 }
  if latency then b.pruneTimeouts monotonicAt else b

/-- `record_error`. `timeout` is the answer of `dbus_error_is_timeout`. -/
def recordError (message : String) (timeout latency : Bool) (monotonicAt : ℚ) :
    DbusCircuitBreaker :=
  let b := b.countError message latency monotonicAt
  if timeout then b.recordTimeoutError monotonicAt else b

/-- `record_optional_source_failure`: its timeout is counted for its source alone. -/
def recordOptionalSourceFailure (monotonicAt : ℚ) : DbusCircuitBreaker :=
  b.pruneTimeouts monotonicAt

/-- What `health` leaves of the breaker. -/
def health (monotonicAt : ℚ) : DbusCircuitBreaker :=
  (b.pruneEvents monotonicAt).pruneTimeouts monotonicAt

end

end DbusCircuitBreaker

/-! ## Runs -/

/-- What happens to a breaker. -/
inductive CircuitEvent where
  | success
  | error (message : String) (timeout latency : Bool)
  | optionalFailure
  | health

/-- An event at its time. -/
structure CircuitCall where
  event : CircuitEvent
  monotonicAt : ℚ

namespace CircuitCall

/-- The call records a timeout in the window of the breaker. -/
def isTimeout (c : CircuitCall) : Bool :=
  match c.event with
  | .error _ timeout _ => timeout
  | _ => false

end CircuitCall

namespace DbusCircuitBreaker

/-- One call. -/
def step (b : DbusCircuitBreaker) (c : CircuitCall) : DbusCircuitBreaker :=
  match c.event with
  | .success => b.recordSuccess c.monotonicAt
  | .error message timeout latency => b.recordError message timeout latency c.monotonicAt
  | .optionalFailure => b.recordOptionalSourceFailure c.monotonicAt
  | .health => b.health c.monotonicAt

/-- The times of the timeouts, the oldest first. -/
def timeoutTimes (calls : List CircuitCall) : List ℚ :=
  (calls.filter CircuitCall.isTimeout).map CircuitCall.monotonicAt

/-- How many timeouts are younger than `seconds`. -/
def recentTimeouts (calls : List CircuitCall) (seconds now : ℚ) : Nat :=
  ((timeoutTimes calls).filter fun t => decide (now - seconds < t)).length

/-! ## Deadlines -/

section

variable {b : DbusCircuitBreaker} {t : ℚ}

/-- The deadlines of `c` are those of `b` or later ones, for the same durations. -/
structure Extends (c b : DbusCircuitBreaker) : Prop where
  degradedSeconds : c.degradedSeconds = b.degradedSeconds
  protectiveSeconds : c.protectiveSeconds = b.protectiveSeconds
  degradedUntil : b.degradedUntil ≤ c.degradedUntil
  protectiveUntil : b.protectiveUntil ≤ c.protectiveUntil

theorem Extends.refl (b : DbusCircuitBreaker) : Extends b b := ⟨rfl, rfl, le_rfl, le_rfl⟩

theorem Extends.trans {a b c : DbusCircuitBreaker} (hc : Extends c b) (hb : Extends b a) : Extends c a :=
  ⟨hc.degradedSeconds.trans hb.degradedSeconds, hc.protectiveSeconds.trans hb.protectiveSeconds,
    hb.degradedUntil.trans hc.degradedUntil, hb.protectiveUntil.trans hc.protectiveUntil⟩

/-- Later deadlines report a state that is at least as severe. -/
theorem Extends.severity_le {c : DbusCircuitBreaker} (h : Extends c b) (t : ℚ) :
    (b.state t).severity ≤ (c.state t).severity := by
  have hdegraded := h.degradedUntil
  have hprotective := h.protectiveUntil
  unfold state
  by_cases hp : t < b.protectiveUntil
  · rw [if_pos hp, if_pos (hp.trans_le hprotective)]
  · rw [if_neg hp]
    by_cases hd : t < b.degradedUntil
    · rw [if_pos hd, if_pos (hd.trans_le hdegraded)]
      split_ifs <;> decide
    · rw [if_neg hd]
      exact Nat.zero_le _

section

variable (b : DbusCircuitBreaker)

theorem extends_extendDegraded (t : ℚ) :
    Extends (b.extendDegradedDeadline t) b ∧ t + b.degradedSeconds ≤ (b.extendDegradedDeadline t).degradedUntil := by
  unfold extendDegradedDeadline
  dsimp only
  split_ifs with hlater
  · exact ⟨⟨rfl, rfl, hlater.le, le_rfl⟩, le_rfl⟩
  · exact ⟨.refl b, not_lt.mp hlater⟩

theorem extends_extendProtective (t : ℚ) :
    Extends (b.extendProtectiveDeadline t) b ∧
      t + b.protectiveSeconds ≤ (b.extendProtectiveDeadline t).protectiveUntil := by
  unfold extendProtectiveDeadline
  dsimp only
  split_ifs with hlater
  · exact ⟨⟨rfl, rfl, le_rfl, hlater.le⟩, le_rfl⟩
  · exact ⟨.refl b, not_lt.mp hlater⟩

theorem extendDegraded_timeouts (t : ℚ) : (b.extendDegradedDeadline t).timeouts = b.timeouts := by
  unfold extendDegradedDeadline
  dsimp only
  split_ifs <;> rfl

theorem extendProtective_timeouts (t : ℚ) :
    (b.extendProtectiveDeadline t).timeouts = b.timeouts := by
  unfold extendProtectiveDeadline
  dsimp only
  split_ifs <;> rfl

/-- A recorded timeout stays in the window and extends the deadline that its count demands. -/
theorem recordTimeoutError_spec (t : ℚ) :
    (b.recordTimeoutError t).timeouts = prune (t - latencyWindowSeconds) (b.timeouts ++ [t]) ∧
      Extends (b.recordTimeoutError t) b ∧
      (dbusProtectiveTimeoutsPerMinute < (prune (t - latencyWindowSeconds) (b.timeouts ++ [t])).length →
        t + b.protectiveSeconds ≤ (b.recordTimeoutError t).protectiveUntil) ∧
      (dbusDegradedTimeoutsPerMinute ≤ (prune (t - latencyWindowSeconds) (b.timeouts ++ [t])).length →
        t + b.protectiveSeconds ≤ (b.recordTimeoutError t).protectiveUntil ∨
          t + b.degradedSeconds ≤ (b.recordTimeoutError t).degradedUntil) := by
  have htwice : ∀ times : List ℚ, prune (t - latencyWindowSeconds) (prune (t - latencyWindowSeconds) times) =
      prune (t - latencyWindowSeconds) times := prune_prune _
  have hcount : ({ b with timeouts := prune (t - latencyWindowSeconds) (b.timeouts ++ [t]) } :
      DbusCircuitBreaker).timeoutCount t = (prune (t - latencyWindowSeconds) (b.timeouts ++ [t])).length :=
    congrArg List.length (htwice _)
  set window : DbusCircuitBreaker := { b with timeouts := prune (t - latencyWindowSeconds) (b.timeouts ++ [t]) }
    with hwindow
  have hsame : Extends window b := ⟨rfl, rfl, le_rfl, le_rfl⟩
  have hrecord : b.recordTimeoutError t =
      if dbusProtectiveTimeoutsPerMinute < (prune (t - latencyWindowSeconds) (b.timeouts ++ [t])).length then
        window.extendProtectiveDeadline t
      else if dbusDegradedTimeoutsPerMinute ≤ (prune (t - latencyWindowSeconds) (b.timeouts ++ [t])).length then
        window.extendDegradedDeadline t
      else window := by
    rw [← hcount]
    rfl
  rw [hrecord]
  obtain ⟨hprotective, hprotectiveUntil⟩ := extends_extendProtective window t
  obtain ⟨hdegraded, hdegradedUntil⟩ := extends_extendDegraded window t
  split_ifs with hmany hsome
  · exact ⟨extendProtective_timeouts window t, hprotective.trans hsame, fun _ => hprotectiveUntil,
      fun _ => .inl hprotectiveUntil⟩
  · exact ⟨extendDegraded_timeouts window t, hdegraded.trans hsame, fun h => absurd h hmany,
      fun _ => .inr hdegradedUntil⟩
  · exact ⟨rfl, hsame, fun h => absurd h hmany, fun h => absurd h hsome⟩

end

end

/-! ## What the deadlines mean -/

/-- The calls come at times that do not decrease. -/
def InOrder (calls : List CircuitCall) : Prop := calls.Pairwise fun a b => a.monotonicAt ≤ b.monotonicAt

instance (calls : List CircuitCall) : Decidable (InOrder calls) := inferInstanceAs (Decidable (List.Pairwise _ _))

variable {calls : List CircuitCall}

theorem pairwise_timeoutTimes (h : InOrder calls) : (timeoutTimes calls).Pairwise (· ≤ ·) :=
  List.pairwise_map.mpr (h.sublist List.filter_sublist)

theorem timeoutTimes_append (calls : List CircuitCall) (c : CircuitCall) :
    timeoutTimes (calls ++ [c]) = timeoutTimes calls ++ (if c.isTimeout then [c.monotonicAt] else []) := by
  unfold timeoutTimes
  rw [List.filter_append, List.map_append]
  cases h : c.isTimeout <;> simp [h]

/-- The window and the deadlines of a breaker against the calls so far. -/
structure Judges (b : DbusCircuitBreaker) (calls : List CircuitCall) : Prop where
  /-- The window lacks no timeout that a later cutoff would keep. -/
  window : ∀ now new, (∀ c ∈ calls, c.monotonicAt ≤ now) → (timeoutTimes calls ++ new).Pairwise (· ≤ ·) →
    prune (now - latencyWindowSeconds) (b.timeouts ++ new) =
      prune (now - latencyWindowSeconds) (timeoutTimes calls ++ new)
  /-- The last timeout has extended the deadline that its count demands. -/
  protective : ∀ older t, timeoutTimes calls = older ++ [t] →
    dbusProtectiveTimeoutsPerMinute < (prune (t - latencyWindowSeconds) (older ++ [t])).length →
    t + b.protectiveSeconds ≤ b.protectiveUntil
  degraded : ∀ older t, timeoutTimes calls = older ++ [t] →
    dbusDegradedTimeoutsPerMinute ≤ (prune (t - latencyWindowSeconds) (older ++ [t])).length →
    t + b.protectiveSeconds ≤ b.protectiveUntil ∨ t + b.degradedSeconds ≤ b.degradedUntil

theorem judges_start (degradedSeconds protectiveSeconds : ℚ) :
    Judges (start degradedSeconds protectiveSeconds) [] where
  window _ _ _ _ := rfl
  protective older t h := absurd h (by simp [timeoutTimes])
  degraded older t h := absurd h (by simp [timeoutTimes])

variable {b : DbusCircuitBreaker}

/-- A call that records no timeout keeps the judgement, whether or not it prunes the window. -/
theorem Judges.quiet {c : DbusCircuitBreaker} {call : CircuitCall}
    (hb : Judges b calls) (hquiet : call.isTimeout = false) (horder : InOrder (calls ++ [call]))
    (hextends : Extends c b)
    (hwindow : c.timeouts = b.timeouts ∨
      c.timeouts = prune (call.monotonicAt - latencyWindowSeconds) b.timeouts) :
    Judges c (calls ++ [call]) := by
  have htimes : timeoutTimes (calls ++ [call]) = timeoutTimes calls := by
    rw [timeoutTimes_append, hquiet]
    exact List.append_nil _
  have hbefore : ∀ a ∈ calls, a.monotonicAt ≤ call.monotonicAt := fun a ha =>
    (List.pairwise_append.mp horder).2.2 a ha call List.mem_cons_self
  refine ⟨fun now new hnow hsorted => ?_, fun older t h hmany => ?_, fun older t h hsome => ?_⟩
  · rw [htimes] at hsorted ⊢
    have hcalls : ∀ a ∈ calls, a.monotonicAt ≤ now := fun a ha => hnow a (List.mem_append_left _ ha)
    have hlate : call.monotonicAt ≤ now := hnow call (by simp)
    rcases hwindow with hsame | hpruned
    · rw [hsame]
      exact hb.window now new hcalls hsorted
    · -- the window was pruned at the call, and the later cutoff prunes it again
      have hnil := hb.window call.monotonicAt [] hbefore (by
        rw [List.append_nil]
        exact (List.pairwise_append.mp hsorted).1)
      rw [List.append_nil, List.append_nil] at hnil
      rw [hpruned, hnil]
      exact prune_append (sub_le_sub_right hlate _) new hsorted
  · have hold := hb.protective older t (htimes.symm.trans h) hmany
    rw [hextends.protectiveSeconds]
    exact hold.trans hextends.protectiveUntil
  · rw [hextends.protectiveSeconds, hextends.degradedSeconds]
    rcases hb.degraded older t (htimes.symm.trans h) hsome with hold | hold
    · exact .inl (hold.trans hextends.protectiveUntil)
    · exact .inr (hold.trans hextends.degradedUntil)

/-- A recorded timeout keeps the judgement. -/
theorem Judges.timeout {c : DbusCircuitBreaker} {call : CircuitCall}
    (hb : Judges b calls) (htimeout : call.isTimeout = true) (horder : InOrder (calls ++ [call]))
    (hwindow : c.timeouts = b.timeouts ∨
      c.timeouts = prune (call.monotonicAt - latencyWindowSeconds) b.timeouts) :
    Judges (c.recordTimeoutError call.monotonicAt) (calls ++ [call]) := by
  have htimes : timeoutTimes (calls ++ [call]) = timeoutTimes calls ++ [call.monotonicAt] := by
    rw [timeoutTimes_append, htimeout]
    rfl
  have hsorted : (timeoutTimes calls ++ [call.monotonicAt]).Pairwise (· ≤ ·) :=
    htimes ▸ pairwise_timeoutTimes horder
  have hbefore : ∀ a ∈ calls, a.monotonicAt ≤ call.monotonicAt := fun a ha =>
    (List.pairwise_append.mp horder).2.2 a ha call List.mem_cons_self
  -- the window of the call: the timeouts of the last minute, with the new one
  have hcall : prune (call.monotonicAt - latencyWindowSeconds) (c.timeouts ++ [call.monotonicAt]) =
      prune (call.monotonicAt - latencyWindowSeconds) (timeoutTimes calls ++ [call.monotonicAt]) := by
    rcases hwindow with hsame | hpruned
    · rw [hsame]
      exact hb.window _ _ hbefore hsorted
    · have hnil := hb.window call.monotonicAt [] hbefore (by
        rw [List.append_nil]
        exact (List.pairwise_append.mp hsorted).1)
      rw [List.append_nil, List.append_nil] at hnil
      rw [hpruned, hnil]
      exact prune_append le_rfl _ hsorted
  obtain ⟨htimeouts, hafter, hprotective, hdegraded⟩ := c.recordTimeoutError_spec call.monotonicAt
  rw [hcall] at htimeouts hprotective hdegraded
  refine ⟨fun now new hnow hsortedNew => ?_, fun older t h hmany => ?_, fun older t h hsome => ?_⟩
  · rw [htimes] at hsortedNew ⊢
    rw [htimeouts]
    exact prune_append (sub_le_sub_right (hnow call (by simp)) _) new hsortedNew
  · obtain ⟨rfl, hlast⟩ := List.append_inj' (htimes.symm.trans h) rfl
    obtain rfl := List.singleton_inj.mp hlast
    rw [hafter.protectiveSeconds]
    exact hprotective hmany
  · obtain ⟨rfl, hlast⟩ := List.append_inj' (htimes.symm.trans h) rfl
    obtain rfl := List.singleton_inj.mp hlast
    rw [hafter.protectiveSeconds, hafter.degradedSeconds]
    exact hdegraded hsome

/-- One call extends the deadlines, and keeps the judgement. -/
theorem step_spec (b : DbusCircuitBreaker) (calls : List CircuitCall) (call : CircuitCall)
    (hb : Judges b calls) (horder : InOrder (calls ++ [call])) :
    Extends (b.step call) b ∧ Judges (b.step call) (calls ++ [call]) := by
  rcases call with ⟨event, t⟩
  cases event with
  | success =>
    have hextends : Extends (b.recordSuccess t) b := ⟨rfl, rfl, le_rfl, le_rfl⟩
    exact ⟨hextends, hb.quiet rfl horder hextends (.inr rfl)⟩
  | optionalFailure =>
    have hextends : Extends (b.recordOptionalSourceFailure t) b := ⟨rfl, rfl, le_rfl, le_rfl⟩
    exact ⟨hextends, hb.quiet rfl horder hextends (.inr rfl)⟩
  | health =>
    have hextends : Extends (b.health t) b := ⟨rfl, rfl, le_rfl, le_rfl⟩
    exact ⟨hextends, hb.quiet rfl horder hextends (.inr rfl)⟩
  | error message timeout latency =>
    -- a measured latency prunes the window before the error is looked at
    have hcounted : Extends (b.countError message latency t) b ∧
        ((b.countError message latency t).timeouts = b.timeouts ∨
          (b.countError message latency t).timeouts = prune (t - latencyWindowSeconds) b.timeouts) := by
      cases latency with
      | false => exact ⟨⟨rfl, rfl, le_rfl, le_rfl⟩, .inl rfl⟩
      | true => exact ⟨⟨rfl, rfl, le_rfl, le_rfl⟩, .inr rfl⟩
    obtain ⟨hextends, hwindow⟩ := hcounted
    cases timeout with
    | false => exact ⟨hextends, hb.quiet rfl horder hextends hwindow⟩
    | true =>
      exact ⟨(recordTimeoutError_spec _ t).2.1.trans hextends, hb.timeout rfl horder hwindow⟩

theorem judges_run (degradedSeconds protectiveSeconds : ℚ) (calls : List CircuitCall) (horder : InOrder calls) :
    Judges (run step (start degradedSeconds protectiveSeconds) calls) calls := by
  induction calls using List.reverseRecOn with
  | nil => exact judges_start degradedSeconds protectiveSeconds
  | append_singleton calls call ih =>
    have hbefore : InOrder calls := (List.pairwise_append.mp horder).1
    rw [run_append]
    exact (step_spec _ calls call (ih hbefore) horder).2

/-- The deadlines at the end of a run in order are those of any of its prefixes, or later ones. -/
theorem extends_run (degradedSeconds protectiveSeconds : ℚ) (before after : List CircuitCall)
    (horder : InOrder (before ++ after)) :
    Extends (run step (start degradedSeconds protectiveSeconds) (before ++ after))
      (run step (start degradedSeconds protectiveSeconds) before) := by
  induction after using List.reverseRecOn with
  | nil =>
    rw [List.append_nil]
    exact .refl _
  | append_singleton after call ih =>
    rw [← List.append_assoc] at horder ⊢
    have hbefore : InOrder (before ++ after) := (List.pairwise_append.mp horder).1
    have hstep := (step_spec _ _ call
      (judges_run degradedSeconds protectiveSeconds _ hbefore) horder).1
    rw [run_append]
    exact hstep.trans (ih hbefore)

/-- Recent timeouts are timeouts of the minute before the last one, and the last one is recent. -/
theorem recent_of_judged (horder : InOrder calls) {seconds now : ℚ}
    (hseconds : seconds ≤ latencyWindowSeconds) (hnow : ∀ c ∈ calls, c.monotonicAt ≤ now)
    (hsome : 0 < recentTimeouts calls seconds now) :
    ∃ older t, timeoutTimes calls = older ++ [t] ∧ now < t + seconds ∧
      recentTimeouts calls seconds now ≤ (prune (t - latencyWindowSeconds) (older ++ [t])).length := by
  have hsorted := pairwise_timeoutTimes horder
  have hbefore : ∀ t ∈ timeoutTimes calls, t ≤ now := by
    intro t ht
    obtain ⟨c, hc, rfl⟩ := List.mem_map.mp ht
    exact hnow c (List.mem_filter.mp hc).1
  unfold recentTimeouts at hsome ⊢
  obtain ⟨recent, hrecent⟩ := List.exists_mem_of_length_pos hsome
  obtain ⟨hmem, hyoung⟩ := List.mem_filter.mp hrecent
  rcases List.eq_nil_or_concat' (timeoutTimes calls) with hnil | ⟨older, t, hsplit⟩
  · rw [hnil] at hmem
    exact absurd hmem List.not_mem_nil
  · have hlast : ∀ s ∈ timeoutTimes calls, s ≤ t := by
      rw [hsplit] at hsorted ⊢
      intro s hs
      rcases List.mem_append.mp hs with hs | hs
      · exact (List.pairwise_append.mp hsorted).2.2 s hs t List.mem_cons_self
      · exact (List.mem_singleton.mp hs).le
    have hlate : t ≤ now := hbefore t (hsplit ▸ by simp)
    refine ⟨older, t, hsplit, ?_, ?_⟩
    · have hnewest := hlast recent hmem
      have := of_decide_eq_true hyoung
      linarith
    · rw [← hsplit, prune_eq_filter hsorted]
      refine (List.monotone_filter_right _ fun s hs => ?_).length_le
      have := of_decide_eq_true hs
      exact decide_eq_true (by linarith)

/-! ## The law of the breaker -/

/-- How the states of a run answer to its timeouts, at a time `now` after all of its calls. -/
structure Lawful (degradedSeconds protectiveSeconds : ℚ) (calls : List CircuitCall) (now : ℚ) : Prop where
  /-- No later call ends a state before its deadline. -/
  kept : ∀ before after, calls = before ++ after →
    ((run step (start degradedSeconds protectiveSeconds) before).state now).severity ≤
      ((run step (start degradedSeconds protectiveSeconds) calls).state now).severity
  protective : dbusProtectiveTimeoutsPerMinute <
      recentTimeouts calls (min latencyWindowSeconds (max 1 protectiveSeconds)) now →
    (run step (start degradedSeconds protectiveSeconds) calls).state now = .protective
  degraded : dbusDegradedTimeoutsPerMinute ≤
      recentTimeouts calls (min latencyWindowSeconds (min (max 1 degradedSeconds) (max 1 protectiveSeconds))) now →
    (run step (start degradedSeconds protectiveSeconds) calls).state now ≠ .ok
  /-- The normal state is reported after both deadlines only, and with few recent timeouts. -/
  normal : (run step (start degradedSeconds protectiveSeconds) calls).state now = .ok →
    (run step (start degradedSeconds protectiveSeconds) calls).protectiveUntil ≤ now ∧
    (run step (start degradedSeconds protectiveSeconds) calls).degradedUntil ≤ now ∧
    recentTimeouts calls (min latencyWindowSeconds (min (max 1 degradedSeconds) (max 1 protectiveSeconds))) now <
      dbusDegradedTimeoutsPerMinute

theorem ok_iff {now : ℚ} : b.state now = .ok ↔ b.protectiveUntil ≤ now ∧ b.degradedUntil ≤ now := by
  unfold state
  split_ifs with hp hd
  · exact iff_of_false id fun h => absurd hp (not_lt.mpr h.1)
  · exact iff_of_false id fun h => absurd hd (not_lt.mpr h.2)
  · exact iff_of_true rfl ⟨not_lt.mp hp, not_lt.mp hd⟩

theorem lawful (degradedSeconds protectiveSeconds : ℚ) (calls : List CircuitCall) (now : ℚ)
    (horder : InOrder calls) (hnow : ∀ c ∈ calls, c.monotonicAt ≤ now) :
    Lawful degradedSeconds protectiveSeconds calls now := by
  have hjudges := judges_run degradedSeconds protectiveSeconds calls horder
  have hdurations := extends_run degradedSeconds protectiveSeconds [] calls horder
  set b := run step (start degradedSeconds protectiveSeconds) calls with hb
  have hprotectiveSeconds : b.protectiveSeconds = max 1 protectiveSeconds := hdurations.protectiveSeconds
  have hdegradedSeconds : b.degradedSeconds = max 1 degradedSeconds := hdurations.degradedSeconds
  have hdegraded : dbusDegradedTimeoutsPerMinute ≤ recentTimeouts calls
      (min latencyWindowSeconds (min (max 1 degradedSeconds) (max 1 protectiveSeconds))) now →
      b.state now ≠ .ok := by
    intro hsome hok
    obtain ⟨hp, hd⟩ := ok_iff.mp hok
    obtain ⟨older, t, hsplit, hyoung, hcount⟩ := recent_of_judged horder (min_le_left _ _) hnow
      (Nat.lt_of_lt_of_le (by decide) hsome)
    have hmin := min_le_right latencyWindowSeconds (min (max 1 degradedSeconds) (max 1 protectiveSeconds))
    have hminLeft := min_le_left (max 1 degradedSeconds) (max 1 protectiveSeconds)
    have hminRight := min_le_right (max 1 degradedSeconds) (max 1 protectiveSeconds)
    rcases hjudges.degraded older t hsplit (hsome.trans hcount) with hlong | hlong
    · rw [hprotectiveSeconds] at hlong
      linarith
    · rw [hdegradedSeconds] at hlong
      linarith
  refine ⟨fun before after hsplit => ?_, fun hmany => ?_, hdegraded, fun hok => ?_⟩
  · subst hsplit
    exact (extends_run degradedSeconds protectiveSeconds before after horder).severity_le now
  · obtain ⟨older, t, hsplit, hyoung, hcount⟩ := recent_of_judged horder (min_le_left _ _) hnow
      (Nat.zero_lt_of_lt hmany)
    have hmin := min_le_right latencyWindowSeconds (max 1 protectiveSeconds)
    have hlong := hjudges.protective older t hsplit (Nat.lt_of_lt_of_le hmany hcount)
    rw [hprotectiveSeconds] at hlong
    exact if_pos (by linarith)
  · obtain ⟨hp, hd⟩ := ok_iff.mp hok
    exact ⟨hp, hd, not_le.mp fun hsome => hdegraded hsome hok⟩

/-- Three timeouts at one time, with the durations of the gateway. -/
def threeTimeouts : List CircuitCall :=
  List.replicate 3 ⟨.error "org.freedesktop.DBus.Error.NoReply" true true, 100⟩

theorem lawful_threeTimeouts : Lawful 60 180 threeTimeouts 130 :=
  lawful 60 180 threeTimeouts 130 (by decide +kernel) (by decide +kernel)

/-- At the end of the minute the window still counts three timeouts, and the deadline has passed. -/
theorem normal_at_window_end :
    dbusDegradedTimeoutsPerMinute ≤ (run step (start 60 180) threeTimeouts).timeoutCount 160 ∧
      (run step (start 60 180) threeTimeouts).state 160 = .ok := by
  decide +kernel

end DbusCircuitBreaker

end VenusEvcharger
