import VenusEvcharger.Energy.SourcePolling

/-!
# Fairness and freshness of the source polling

The history of a source is the list of its attempts. In every run the state of a source is what its history says
(`SourceState.Tracks`), a source that is due gets its turn, and an attempt comes after the backoff of the failures before
it (`fairAndFresh`).
-/

namespace VenusEvcharger.SourcePolling

open Library

/-! ## Histories -/

/-- An attempt of a source: when it was started and when it was completed, and what the connector answered. -/
structure Attempt where
  startedAt : ℚ
  completedAt : ℚ
  step : ReadStep

namespace Attempt

/-- An attempt succeeds when its snapshot confirms a measurement. -/
def outcome (a : Attempt) : AttemptStatus :=
  match a.step with
  | .failed _ => .failed
  | .pending => .inProgress
  | .completed snapshot => if confirmsMeasurement snapshot then .success else .failed

/-- The snapshot that an attempt confirms, and its time. -/
def confirmed (definition : EnergySourceDefinition) (a : Attempt) : Option (EnergySourceSnapshot × ℚ) :=
  match a.step with
  | .completed snapshot =>
    if confirmsMeasurement snapshot then some (configuredSnapshot definition snapshot, a.completedAt) else none
  | _ => none

theorem completedAt_of_confirmed {definition : EnergySourceDefinition} {a : Attempt} {found : EnergySourceSnapshot × ℚ}
    (h : a.confirmed definition = some found) : found.2 = a.completedAt := by
  unfold confirmed at h
  split at h
  · split at h
    · rw [← Option.some.inj h]
    · nomatch h
  · nomatch h

end Attempt

/-- The last confirmed snapshot and its time; a history has its newest attempt first. -/
def lastConfirmed (definition : EnergySourceDefinition) (history : List Attempt) : Option (EnergySourceSnapshot × ℚ) :=
  history.findSome? (·.confirmed definition)

/-- How many attempts have failed since the last one that succeeded; an unfinished attempt is neither. -/
def failuresSince : List Attempt → Nat
  | [] => 0
  | a :: history =>
    match a.outcome with
    | .success => 0
    | .failed => failuresSince history + 1
    | .inProgress => failuresSince history

/-- When the last failure was completed. -/
def lastFailure (history : List Attempt) : Option ℚ :=
  (history.find? fun a => a.outcome = .failed).map Attempt.completedAt

variable {definition : EnergySourceDefinition} {history : List Attempt} {policy : ExternalPollingPolicy}
  {state : SourceState}

theorem lastConfirmed_time {found : EnergySourceSnapshot × ℚ} (h : lastConfirmed definition history = some found) :
    ∃ a ∈ history, found.2 = a.completedAt := by
  obtain ⟨a, hmem, hconfirmed⟩ := List.exists_of_findSome?_eq_some h
  exact ⟨a, hmem, Attempt.completedAt_of_confirmed hconfirmed⟩

/-! ## The state of a source follows its history -/

theorem backoffSeconds_nonneg (policy : ExternalPollingPolicy) (failures : Nat) : 0 ≤ backoffSeconds policy failures := by
  have hbase := policy.backoffBase_pos
  have hmax := policy.backoffMax_covers
  exact le_min (by linarith) (by positivity)

/-- The backoff does not distinguish between more than thirty failures. -/
theorem backoffSeconds_congr {m n : Nat} (h : min 31 m = min 31 n) : backoffSeconds policy m = backoffSeconds policy n := by
  unfold backoffSeconds
  rw [show min 30 (m - 1) = min 30 (n - 1) by omega]

/-- The state is the one that the attempts of the history have left. -/
structure SourceState.Tracks (policy : ExternalPollingPolicy) (definition : EnergySourceDefinition)
    (history : List Attempt) (state : SourceState) : Prop where
  lastGood : state.lastGood = (lastConfirmed definition history).map Prod.fst
  lastGoodMonotonic : state.lastGoodMonotonic = (lastConfirmed definition history).map Prod.snd
  failures : min 31 state.consecutiveFailures = min 31 (failuresSince history)
  backsOff : 0 < failuresSince history → ∀ failed ∈ lastFailure history,
    failed + backoffSeconds policy (failuresSince history) ≤ state.nextPollMonotonic
  due : 0 ≤ state.nextPollMonotonic
  observed : ∀ time ∈ state.lastGoodMonotonic, 0 ≤ time

namespace SourceState

theorem tracks_new : new.Tracks policy definition [] where
  lastGood := rfl
  lastGoodMonotonic := rfl
  failures := rfl
  backsOff := fun h => absurd h (lt_irrefl 0)
  due := le_refl 0
  observed := nofun

theorem attempt_cases (state : SourceState) (policy : ExternalPollingPolicy) (counter : FailureCounter)
    (definition : EnergySourceDefinition) (now : ℚ) (a : Attempt) :
    (∃ message, a.outcome = .failed ∧ a.confirmed definition = none ∧
      state.attempt policy counter definition now a.step a.completedAt =
        ({ state with attemptedAt := some now }.recordFailure policy counter a.completedAt message, .failed)) ∨
    (a.outcome = .inProgress ∧ a.confirmed definition = none ∧
      state.attempt policy counter definition now a.step a.completedAt =
        ({ state with attemptedAt := some now }.recordInProgress a.completedAt, .inProgress)) ∨
    ∃ snapshot, a.outcome = .success ∧ a.confirmed definition = some (snapshot, a.completedAt) ∧
      state.attempt policy counter definition now a.step a.completedAt =
        ({ state with attemptedAt := some now }.recordSuccess policy snapshot a.completedAt, .success) := by
  unfold attempt Attempt.outcome Attempt.confirmed
  cases a.step with
  | failed message => exact .inl ⟨message, rfl, rfl, rfl⟩
  | pending => exact .inr (.inl ⟨rfl, rfl, rfl⟩)
  | completed snapshot =>
    dsimp only
    cases confirmsMeasurement snapshot with
    | false => exact .inl ⟨_, rfl, rfl, rfl⟩
    | true => exact .inr (.inr ⟨_, rfl, rfl, rfl⟩)

/-- An attempt keeps the last confirmed snapshot and its time, unless it succeeds. -/
theorem attempt_keeps {a : Attempt} (h : a.outcome ≠ .success) (state : SourceState) (policy : ExternalPollingPolicy)
    (counter : FailureCounter) (definition : EnergySourceDefinition) (now : ℚ) :
    (state.attempt policy counter definition now a.step a.completedAt).1.lastGood = state.lastGood ∧
      (state.attempt policy counter definition now a.step a.completedAt).1.lastGoodMonotonic =
        state.lastGoodMonotonic := by
  rcases attempt_cases state policy counter definition now a with
    ⟨message, -, -, heq⟩ | ⟨-, -, heq⟩ | ⟨snapshot, hsuccess, -, -⟩
  · rw [heq]
    exact ⟨rfl, rfl⟩
  · rw [heq]
    exact ⟨rfl, rfl⟩
  · exact absurd hsuccess h

/-- An attempt of a source that is due keeps the state behind the history. -/
theorem Tracks.attempt (h : state.Tracks policy definition history) (counter : FailureCounter) (now : ℚ) {a : Attempt}
    (hdue : state.nextPollMonotonic ≤ a.startedAt) (hordered : a.startedAt ≤ a.completedAt) :
    (state.attempt policy counter definition now a.step a.completedAt).1.Tracks policy definition (a :: history) := by
  have hstarted := h.due
  have hcompleted : 0 ≤ a.completedAt := by linarith
  rcases attempt_cases state policy counter definition now a with
    ⟨message, houtcome, hnone, heq⟩ | ⟨houtcome, hnone, heq⟩ | ⟨snapshot, houtcome, hsome, heq⟩
  · -- a failure: the counter is one more, and the source waits for its backoff
    have hlast : lastConfirmed definition (a :: history) = lastConfirmed definition history := by
      rw [lastConfirmed, List.findSome?_cons, hnone]
      rfl
    have hcount : failuresSince (a :: history) = failuresSince history + 1 := by rw [failuresSince, houtcome]
    have hfailures := h.failures
    have hnext := counter.counts state.consecutiveFailures
    have hcounter : min 31 (counter.increment state.consecutiveFailures) = min 31 (failuresSince history + 1) := by omega
    rw [heq]
    refine ⟨?_, ?_, ?_, ?_, ?_, h.observed⟩
    · rw [hlast]
      exact h.lastGood
    · rw [hlast]
      exact h.lastGoodMonotonic
    · rw [hcount]
      exact hcounter
    · intro _ failed hfailed
      rw [lastFailure, List.find?_cons_of_pos (by simpa using houtcome)] at hfailed
      obtain rfl := Option.some.inj hfailed
      show _ ≤ a.completedAt + backoffSeconds policy (counter.increment state.consecutiveFailures)
      rw [hcount, backoffSeconds_congr hcounter]
    · have hwait := backoffSeconds_nonneg policy (counter.increment state.consecutiveFailures)
      show 0 ≤ a.completedAt + backoffSeconds policy (counter.increment state.consecutiveFailures)
      linarith
  · -- an unfinished attempt: the source is due at once, after all backoffs before
    have hlast : lastConfirmed definition (a :: history) = lastConfirmed definition history := by
      rw [lastConfirmed, List.findSome?_cons, hnone]
      rfl
    have hcount : failuresSince (a :: history) = failuresSince history := by rw [failuresSince, houtcome]
    have hfailure : lastFailure (a :: history) = lastFailure history := by
      rw [lastFailure, List.find?_cons_of_neg (by simp [houtcome])]
      rfl
    rw [heq]
    refine ⟨?_, ?_, ?_, ?_, hcompleted, h.observed⟩
    · rw [hlast]
      exact h.lastGood
    · rw [hlast]
      exact h.lastGoodMonotonic
    · rw [hcount]
      exact h.failures
    · intro hpos failed hfailed
      rw [hcount] at hpos ⊢
      have hwaited := h.backsOff hpos failed (hfailure ▸ hfailed)
      show _ ≤ a.completedAt
      linarith
  · -- a success: nothing has failed since
    have hlast : lastConfirmed definition (a :: history) = some (snapshot, a.completedAt) := by
      rw [lastConfirmed, List.findSome?_cons, hsome]
    have hcount : failuresSince (a :: history) = 0 := by rw [failuresSince, houtcome]
    rw [heq]
    refine ⟨?_, ?_, ?_, ?_, ?_, ?_⟩
    · rw [hlast]
      rfl
    · rw [hlast]
      rfl
    · rw [hcount]
      rfl
    · intro hpos
      omega
    · have hinterval := policy.pollInterval_pos
      show 0 ≤ a.completedAt + policy.pollIntervalSeconds
      linarith
    · intro time htime
      obtain rfl := Option.some.inj htime
      exact hcompleted

/-- A source contributes exactly when its last confirmed snapshot is no older than the limit. -/
theorem Tracks.contributing_iff (h : state.Tracks policy definition history) {resultMonotonic : ℚ}
    (hpast : ∀ a ∈ history, a.completedAt ≤ resultMonotonic) (now cycleMonotonic : ℚ)
    (attempted : Option AttemptStatus) :
    (pollResult definition state policy now cycleMonotonic resultMonotonic attempted).contributing = true ↔
      ∃ found ∈ lastConfirmed definition history, resultMonotonic - found.2 ≤ policy.lastGoodMaxAgeSeconds := by
  show (snapshotAge state.lastGoodMonotonic resultMonotonic).any _ = true ↔ _
  have hobserved := h.observed
  rw [h.lastGoodMonotonic] at hobserved ⊢
  cases hlast : lastConfirmed definition history with
  | none => exact iff_of_false Bool.false_ne_true fun ⟨_, hfound, _⟩ => nomatch hfound
  | some found =>
    obtain ⟨a, hmem, htime⟩ := lastConfirmed_time hlast
    rw [hlast] at hobserved
    have hage : snapshotAge (some found.2) resultMonotonic = some (resultMonotonic - found.2) :=
      if_pos ⟨hobserved found.2 rfl, htime ▸ hpast a hmem⟩
    rw [Option.map_some, hage, Option.any_some, decide_eq_true_eq]
    constructor
    · intro hle
      exact ⟨found, rfl, hle⟩
    · intro ⟨other, hother, hle⟩
      rw [Option.some.inj hother]
      exact hle

end SourceState

/-! ## One poll -/

namespace ExternalSourceScheduler

variable {κ : Type} {s : ExternalSourceScheduler κ} {monotonic : ℚ}

theorem nextDue_eq_some {index : Nat} {key : κ} {definition : EnergySourceDefinition}
    (h : s.nextDue monotonic = some (index, key, definition)) :
    s.sources[index]? = some (key, definition) ∧ s.due monotonic key = true ∧
      ∀ place source, s.sources[place]? = some source → s.due monotonic source.1 = true →
        turnsUntil s.sources.length s.cursor index ≤ turnsUntil s.sources.length s.cursor place := by
  obtain ⟨place, hplace, hsource⟩ := Option.bind_eq_some_iff.mp h
  obtain ⟨source, hsource, heq⟩ := Option.map_eq_some_iff.mp hsource
  obtain ⟨rfl, rfl⟩ := Prod.mk.inj heq
  obtain ⟨hlt, hready, hfirst⟩ := nextFrom_eq_some hplace
  refine ⟨hsource, ?_, fun other source hother hdue => ?_⟩
  · rw [hsource] at hready
    exact hready
  · refine hfirst other (List.getElem?_eq_some_iff.mp hother).1 ?_
    rw [hother]
    exact hdue

theorem nextDue_isSome {place : Nat} {source : κ × EnergySourceDefinition} (hsource : s.sources[place]? = some source)
    (hdue : s.due monotonic source.1 = true) : ∃ found, s.nextDue monotonic = some found := by
  have hlt := (List.getElem?_eq_some_iff.mp hsource).1
  have hready : (s.sources[place]?.any (s.due monotonic ·.1)) = true := by rw [hsource]; exact hdue
  have hfrom : (nextFrom s.sources.length s.cursor fun index => s.sources[index]?.any (s.due monotonic ·.1)).isSome =
    true := nextFrom_isSome hlt hready
  obtain ⟨index, hindex⟩ := Option.isSome_iff_exists.mp hfrom
  have hserved := (nextFrom_eq_some hindex).2.1
  unfold nextDue
  rw [hindex, Option.bind_some]
  cases hfound : s.sources[index]? with
  | none =>
    rw [hfound] at hserved
    nomatch hserved
  | some served => exact ⟨(index, served), rfl⟩

theorem due_mono {later : ℚ} {key : κ} (h : s.due monotonic key = true) (hle : monotonic ≤ later) :
    s.due later key = true := by
  rw [due, decide_eq_true_eq] at h ⊢
  exact h.trans hle

variable [DecidableEq κ]

theorem poll_cases (s : ExternalSourceScheduler κ) (cycle : PollCycle κ) :
    (s.attempted cycle = none ∧ s.nextDue cycle.cycleMonotonic = none ∧ (s.poll cycle).1 = s) ∨
    ∃ index key definition, s.attempted cycle = some key ∧
      s.nextDue cycle.cycleMonotonic = some (index, key, definition) ∧
      (s.poll cycle).1 = { s with
        states := Function.update s.states key ((s.states key).attempt s.policy s.counter definition cycle.now
          (cycle.read key) cycle.completedMonotonic).1
        cursor := (index + 1) % s.sources.length } := by
  unfold attempted poll
  cases s.nextDue cycle.cycleMonotonic with
  | none => exact .inl ⟨rfl, rfl, rfl⟩
  | some found => exact .inr ⟨found.1, found.2.1, found.2.2, rfl, rfl, rfl⟩

/-- The results of a poll are those of the states after it. -/
theorem poll_results (s : ExternalSourceScheduler κ) (cycle : PollCycle κ) :
    ∃ attempted, (s.poll cycle).2 = (s.poll cycle).1.pollResults cycle attempted := by
  unfold poll
  split
  · exact ⟨_, rfl⟩
  · exact ⟨_, rfl⟩

end ExternalSourceScheduler

/-! ## Runs -/

/-- A run of the scheduler with the histories of its sources and the last reading of the clock. -/
structure PollingRun (κ : Type) where
  scheduler : ExternalSourceScheduler κ
  history : κ → List Attempt
  clock : Option ℚ

variable {κ : Type}

/-- The attempt that a poll makes of a source. -/
def PollCycle.attempt (cycle : PollCycle κ) (key : κ) : Attempt := ⟨cycle.cycleMonotonic, cycle.completedMonotonic, cycle.read key⟩

namespace PollingRun

def start (sources : List (κ × EnergySourceDefinition)) (policy : ExternalPollingPolicy) (counter : FailureCounter) :
    PollingRun κ := ⟨.new sources policy counter, fun _ => [], none⟩

variable [DecidableEq κ]

def step (r : PollingRun κ) (cycle : PollCycle κ) : PollingRun κ where
  scheduler := (r.scheduler.poll cycle).1
  history :=
    match r.scheduler.attempted cycle with
    | none => r.history
    | some key => Function.update r.history key (cycle.attempt key :: r.history key)
  clock := some cycle.resultMonotonic

/-- What holds of every poll: at most one source is attempted, after its backoff, and the others stay as they are; a
source contributes while its last confirmed snapshot is no older than the limit; and the last confirmed snapshot and its
time are kept until the next one. -/
structure Disciplined (delay : ExternalPollingPolicy → Nat → ℚ) (r : PollingRun κ) (cycle : PollCycle κ) : Prop where
  single : ∀ key, r.scheduler.attempted cycle ≠ some key →
    (r.step cycle).scheduler.states key = r.scheduler.states key ∧ (r.step cycle).history key = r.history key
  backsOff : ∀ key ∈ r.scheduler.attempted cycle, 0 < failuresSince (r.history key) →
    ∀ failed ∈ lastFailure (r.history key),
      failed + delay r.scheduler.policy (failuresSince (r.history key)) ≤ cycle.cycleMonotonic
  fresh : ∀ (place : Nat) source, r.scheduler.sources[place]? = some source →
    ∃ result, (r.scheduler.poll cycle).2[place]? = some result ∧ (result.contributing = true ↔
      ∃ found ∈ lastConfirmed source.2 ((r.step cycle).history source.1),
        cycle.resultMonotonic - found.2 ≤ r.scheduler.policy.lastGoodMaxAgeSeconds)
  confirmed : ∀ source ∈ r.scheduler.sources,
    ((r.step cycle).scheduler.states source.1).lastGood =
        (lastConfirmed source.2 ((r.step cycle).history source.1)).map Prod.fst ∧
      ((r.step cycle).scheduler.states source.1).lastGoodMonotonic =
        (lastConfirmed source.2 ((r.step cycle).history source.1)).map Prod.snd
  kept : ∀ key ∈ r.scheduler.attempted cycle, (cycle.attempt key).outcome ≠ .success →
    ((r.step cycle).scheduler.states key).lastGood = (r.scheduler.states key).lastGood ∧
      ((r.step cycle).scheduler.states key).lastGoodMonotonic = (r.scheduler.states key).lastGoodMonotonic

/-- A source that is due is attempted within as many polls as there are sources. -/
def Prompt (start : PollingRun κ) (cycles : List (PollCycle κ)) : Prop :=
  ∀ before rest, cycles = before ++ rest → ∀ source ∈ start.scheduler.sources, ∀ first ∈ rest.head?,
    (run step start before).scheduler.due first.cycleMonotonic source.1 = true →
    start.scheduler.sources.length ≤ rest.length →
    ∃ waiting cycle after, rest = waiting ++ cycle :: after ∧ waiting.length < start.scheduler.sources.length ∧
      (run step start (before ++ waiting)).scheduler.attempted cycle = some source.1

/-- The polls are disciplined, with a delay after failures, and every source gets its turn. -/
structure FairAndFresh (delay : ExternalPollingPolicy → Nat → ℚ) (start : PollingRun κ) (cycles : List (PollCycle κ)) :
    Prop where
  disciplined : Along step (Disciplined delay) start cycles
  prompt : Prompt start cycles

/-- The state of every source follows its history, and no attempt was completed later than the last reading. -/
structure Sound (sources : List (κ × EnergySourceDefinition)) (policy : ExternalPollingPolicy) (r : PollingRun κ) :
    Prop where
  configured : r.scheduler.sources = sources
  governed : r.scheduler.policy = policy
  tracks : ∀ source ∈ sources, (r.scheduler.states source.1).Tracks policy source.2 (r.history source.1)
  past : ∀ key, ∀ a ∈ r.history key, ∃ time ∈ r.clock, a.completedAt ≤ time

/-- The clock has not been read later than at the start of the cycle. -/
def InOrder (r : PollingRun κ) (cycle : PollCycle κ) : Prop := ∀ time ∈ r.clock, time ≤ cycle.cycleMonotonic

variable {sources : List (κ × EnergySourceDefinition)} {policy : ExternalPollingPolicy}
  {counter : FailureCounter}
  {r : PollingRun κ}

omit [DecidableEq κ] in
theorem sound_start : (start sources policy counter).Sound sources policy where
  configured := rfl
  governed := rfl
  tracks := fun _ _ => SourceState.tracks_new
  past := fun _ _ h => nomatch h

/-- The state and the history of a source after a poll that attempts it, and of the others. -/
theorem step_cases (r : PollingRun κ) (cycle : PollCycle κ) :
    (r.scheduler.attempted cycle = none ∧ r.scheduler.nextDue cycle.cycleMonotonic = none ∧
      r.step cycle = ⟨r.scheduler, r.history, some cycle.resultMonotonic⟩) ∨
    ∃ index key definition, r.scheduler.attempted cycle = some key ∧
      r.scheduler.nextDue cycle.cycleMonotonic = some (index, key, definition) ∧
      r.step cycle = ⟨{ r.scheduler with
        states := Function.update r.scheduler.states key ((r.scheduler.states key).attempt r.scheduler.policy
          r.scheduler.counter definition cycle.now (cycle.attempt key).step (cycle.attempt key).completedAt).1
        cursor := (index + 1) % r.scheduler.sources.length },
        Function.update r.history key (cycle.attempt key :: r.history key), some cycle.resultMonotonic⟩ := by
  rcases r.scheduler.poll_cases cycle with ⟨hnone, hnext, hpoll⟩ | ⟨index, key, definition, hsome, hnext, hpoll⟩
  · refine .inl ⟨hnone, hnext, ?_⟩
    rw [step, hnone, hpoll]
  · refine .inr ⟨index, key, definition, hsome, hnext, ?_⟩
    rw [step, hsome, hpoll]
    rfl

variable {cycle : PollCycle κ}

theorem Sound.step (hdistinct : (sources.map Prod.fst).Nodup) (h : r.Sound sources policy)
    (horder : r.InOrder cycle) : (r.step cycle).Sound sources policy := by
  have hreported := cycle.attempted.trans cycle.reported
  have hpast : ∀ key, ∀ a ∈ r.history key, a.completedAt ≤ cycle.resultMonotonic := by
    intro key a ha
    obtain ⟨time, htime, hle⟩ := h.past key a ha
    exact hle.trans ((horder time htime).trans hreported)
  rcases r.step_cases cycle with ⟨-, -, hstep⟩ | ⟨index, key, definition, -, hnext, hstep⟩
  · rw [hstep]
    exact ⟨h.configured, h.governed, h.tracks, fun key a ha => ⟨_, rfl, hpast key a ha⟩⟩
  · obtain ⟨hsource, hdue, -⟩ := ExternalSourceScheduler.nextDue_eq_some hnext
    rw [ExternalSourceScheduler.due, decide_eq_true_eq] at hdue
    have hmem : (key, definition) ∈ sources := h.configured ▸ List.mem_of_getElem? hsource
    rw [hstep]
    refine ⟨h.configured, h.governed, fun source hmember => ?_, fun other a ha => ⟨_, rfl, ?_⟩⟩
    · dsimp only
      by_cases hkey : source.1 = key
      · -- the keys are distinct, so that this is the source that is attempted
        have hsame : source = (key, definition) := List.inj_on_of_nodup_map hdistinct hmember hmem hkey
        rw [hsame, Function.update_self, Function.update_self, h.governed]
        exact (h.tracks _ hmem).attempt _ _ hdue cycle.attempted
      · rw [Function.update_of_ne hkey, Function.update_of_ne hkey]
        exact h.tracks source hmember
    · dsimp only at ha
      by_cases hkey : other = key
      · rw [hkey, Function.update_self] at ha
        rcases List.mem_cons.mp ha with rfl | hold
        · exact cycle.reported
        · exact hpast key a hold
      · rw [Function.update_of_ne hkey] at ha
        exact hpast other a ha

theorem Sound.poll_disciplined (hdistinct : (sources.map Prod.fst).Nodup) (h : r.Sound sources policy)
    (horder : r.InOrder cycle) : r.Disciplined backoffSeconds cycle := by
  have hnext := h.step hdistinct horder
  refine ⟨?_, ?_, ?_, ?_, ?_⟩
  · intro key hkey
    rcases r.step_cases cycle with ⟨-, -, hstep⟩ | ⟨index, other, definition, hother, -, hstep⟩
    · rw [hstep]
      exact ⟨rfl, rfl⟩
    · have hne : key ≠ other := fun heq => hkey (heq ▸ hother)
      rw [hstep]
      exact ⟨Function.update_of_ne hne _ _, Function.update_of_ne hne _ _⟩
  · intro key hkey hpos failed hfailed
    rcases r.step_cases cycle with ⟨hnone, -, -⟩ | ⟨index, other, definition, hother, hnext, -⟩
    · rw [hnone] at hkey
      nomatch hkey
    · obtain rfl := Option.some.inj (hother.symm.trans hkey)
      obtain ⟨hsource, hdue, -⟩ := ExternalSourceScheduler.nextDue_eq_some hnext
      have hmem : (other, definition) ∈ sources := h.configured ▸ List.mem_of_getElem? hsource
      rw [ExternalSourceScheduler.due, decide_eq_true_eq] at hdue
      rw [h.governed]
      exact ((h.tracks (other, definition) hmem).backsOff hpos failed hfailed).trans hdue
  · intro place source hsource
    obtain ⟨attempted, hresults⟩ := r.scheduler.poll_results cycle
    have hsources : (r.scheduler.poll cycle).1.sources = r.scheduler.sources := hnext.configured.trans h.configured.symm
    have hmem : source ∈ sources := h.configured ▸ List.mem_of_getElem? hsource
    rw [hresults, ExternalSourceScheduler.pollResults, List.getElem?_map, hsources, hsource]
    refine ⟨_, rfl, ?_⟩
    have hpolicy : (r.scheduler.poll cycle).1.policy = policy := hnext.governed
    rw [hpolicy, h.governed]
    refine (hnext.tracks source hmem).contributing_iff (fun a ha => ?_) _ _ _
    obtain ⟨time, htime, hle⟩ := hnext.past source.1 a ha
    obtain rfl := Option.some.inj htime
    exact hle
  · intro source hmem
    have htracks := hnext.tracks source (h.configured ▸ hmem)
    exact ⟨htracks.lastGood, htracks.lastGoodMonotonic⟩
  · intro key hkey houtcome
    rcases r.step_cases cycle with ⟨hnone, -, -⟩ | ⟨index, other, definition, hother, -, hstep⟩
    · rw [hnone] at hkey
      nomatch hkey
    · obtain rfl := Option.some.inj (hother.symm.trans hkey)
      rw [hstep]
      dsimp only
      rw [Function.update_self]
      exact SourceState.attempt_keeps houtcome _ _ _ _ _

theorem step_nearer {place : Nat} {source : κ × EnergySourceDefinition}
    (hsource : r.scheduler.sources[place]? = some source)
    (hdue : r.scheduler.due cycle.cycleMonotonic source.1 = true) :
    r.scheduler.attempted cycle = some source.1 ∨
      (r.step cycle).scheduler.sources = r.scheduler.sources ∧
      (r.step cycle).scheduler.states source.1 = r.scheduler.states source.1 ∧
      turnsUntil r.scheduler.sources.length (r.step cycle).scheduler.cursor place + 1 ≤
        turnsUntil r.scheduler.sources.length r.scheduler.cursor place := by
  obtain ⟨found, hfound⟩ := ExternalSourceScheduler.nextDue_isSome hsource hdue
  rcases r.step_cases cycle with ⟨-, hnone, -⟩ | ⟨index, key, definition, hattempted, hnext, hstep⟩
  · rw [hnone] at hfound
    nomatch hfound
  · obtain ⟨hserved, -, hfirst⟩ := ExternalSourceScheduler.nextDue_eq_some hnext
    by_cases hkey : source.1 = key
    · exact .inl (hkey ▸ hattempted)
    · have hne : index ≠ place := by
        rintro rfl
        rw [hserved] at hsource
        exact hkey (congrArg Prod.fst (Option.some.inj hsource)).symm
      have hplace := (List.getElem?_eq_some_iff.mp hsource).1
      have hindex := (List.getElem?_eq_some_iff.mp hserved).1
      rw [hstep]
      exact .inr ⟨rfl, Function.update_of_ne hkey _ _,
        turnsUntil_next_lt hindex hplace hne (hfirst place source hsource hdue)⟩

variable {cycles : List (PollCycle κ)}

/-- A source that is due at the first of enough polls is attempted by one of them. -/
theorem attempted_within {place : Nat} {source : κ × EnergySourceDefinition} {since : ℚ}
    (hsource : r.scheduler.sources[place]? = some source) (hdue : r.scheduler.due since source.1 = true)
    (hsince : ∀ cycle ∈ cycles, since ≤ cycle.cycleMonotonic) (hlong : r.scheduler.sources.length ≤ cycles.length) :
    ∃ waiting cycle after, cycles = waiting ++ cycle :: after ∧
      (run step r waiting).scheduler.attempted cycle = some source.1 := by
  have hplace := (List.getElem?_eq_some_iff.mp hsource).1
  have hnearer (t : PollingRun κ) (cycle : PollCycle κ)
      (hwaits : t.scheduler.sources = r.scheduler.sources ∧ t.scheduler.due since source.1 = true)
      (hcycle : since ≤ cycle.cycleMonotonic) :
      t.scheduler.attempted cycle = some source.1 ∨
        ((t.step cycle).scheduler.sources = r.scheduler.sources ∧
          (t.step cycle).scheduler.due since source.1 = true) ∧
        turnsUntil r.scheduler.sources.length (t.step cycle).scheduler.cursor place + (if true then 1 else 0) ≤
          turnsUntil r.scheduler.sources.length t.scheduler.cursor place := by
    obtain ⟨hsources, hwaits⟩ := hwaits
    rcases step_nearer (hsources ▸ hsource) (ExternalSourceScheduler.due_mono hwaits hcycle) with
      hgoal | ⟨hnext, hstate, hfall⟩
    · exact .inl hgoal
    · rw [hsources] at hfall
      refine .inr ⟨⟨hnext.trans hsources, ?_⟩, hfall⟩
      unfold ExternalSourceScheduler.due
      rw [hstate]
      exact hwaits
  have hok : Along step (fun _ cycle => since ≤ cycle.cycleMonotonic) r cycles := along_of_forall_mem step hsince
  refine hok.reaches (fun t => turnsUntil r.scheduler.sources.length t.scheduler.cursor place) hnearer ⟨rfl, hdue⟩ ?_
  rw [countAlong_eq_length (along_of_forall_mem step fun _ _ => rfl)]
  exact (turnsUntil_lt hplace).trans_le hlong

/-- Polls whose clock does not go back. -/
def InSequence (cycles : List (PollCycle κ)) : Prop :=
  cycles.Pairwise fun earlier later => earlier.resultMonotonic ≤ later.cycleMonotonic

theorem along_inOrder (h : InSequence cycles) (hclock : ∀ cycle ∈ cycles, r.InOrder cycle) :
    Along step InOrder r cycles := by
  induction cycles generalizing r with
  | nil => trivial
  | cons cycle cycles ih =>
    obtain ⟨hlater, hrest⟩ := List.pairwise_cons.mp h
    refine ⟨hclock cycle List.mem_cons_self, ih hrest fun later hmem time htime => ?_⟩
    obtain rfl := Option.some.inj htime
    exact hlater later hmem

/-- Every run with distinct sources whose clock does not go back is fair and fresh. -/
theorem fairAndFresh (hdistinct : (sources.map Prod.fst).Nodup) (h : InSequence cycles) :
    FairAndFresh backoffSeconds (start sources policy counter) cycles := by
  have horder : Along step InOrder (start sources policy counter) cycles := along_inOrder h fun _ _ _ htime => nomatch htime
  constructor
  · exact along_of_invariant (fun _ _ hsound hok => hsound.step hdistinct hok)
      (fun _ _ hsound hok => hsound.poll_disciplined hdistinct hok) sound_start horder
  · intro before rest hsplit source hmem first hfirst hdue hlong
    obtain ⟨place, hplace⟩ := List.mem_iff_getElem?.mp hmem
    rw [hsplit, along_append] at horder
    have hsources : (run step (start sources policy counter) before).scheduler.sources = sources :=
      (run_invariant_of_along (fun _ _ hsound hok => hsound.step hdistinct hok) sound_start horder.1).configured
    -- the first poll is the earliest one
    have hsince : ∀ cycle ∈ rest.take sources.length, first.cycleMonotonic ≤ cycle.cycleMonotonic := by
      intro cycle hcycle
      rw [hsplit] at h
      have hrest := (List.pairwise_append.mp h).2.1
      obtain ⟨tail, rfl⟩ := List.head?_eq_some_iff.mp hfirst
      rcases List.mem_cons.mp (List.mem_of_mem_take hcycle) with rfl | htail
      · exact le_refl _
      · exact (first.attempted.trans first.reported).trans (List.rel_of_pairwise_cons hrest htail)
    have hlength : (rest.take sources.length).length = sources.length := List.length_take_of_le hlong
    obtain ⟨waiting, cycle, after, htake, hattempted⟩ :=
      attempted_within (hsources ▸ hplace) hdue hsince (by rw [hsources, hlength])
    refine ⟨waiting, cycle, after ++ rest.drop sources.length, ?_, ?_, ?_⟩
    · rw [← List.cons_append, ← List.append_assoc, ← htake, List.take_append_drop]
    · rw [htake, List.length_append, List.length_cons] at hlength
      show waiting.length < sources.length
      omega
    · rw [run_append]
      exact hattempted

end PollingRun

end VenusEvcharger.SourcePolling
