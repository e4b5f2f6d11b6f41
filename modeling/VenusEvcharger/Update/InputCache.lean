import VenusEvcharger.Library.Run
import Mathlib.Tactic.Linarith

/-!
# The inputs of Auto and their cache

In every Auto cycle `resolve_auto_inputs` takes the PV power, the grid power and the battery readings from the snapshot
of the helper. A value is used directly when its capture time is neither in the future nor beyond the maximum age of
its source, and is then stored with that time; otherwise the stored value is used while it is young enough. A value
that has no capture time, neither its own nor one of the snapshot, counts as captured by the call.

Every value that is returned was shown by a snapshot at a capture time within the budget (`inputs_within_budget`).
-/

namespace VenusEvcharger

open Library

namespace InputCache

/-- The sources of the helper. -/
inductive Source where
  | pv
  | grid
  | battery
  deriving DecidableEq

/-- The values that are resolved, each with its own pair of attributes. -/
inductive Metric where
  | pvPower
  | gridPower
  | batterySoc
  | combinedChargePower
  | combinedDischargePower
  | combinedNetPower
  | combinedAcPower
  deriving DecidableEq

def Metric.source : Metric → Source
  | .pvPower => .pv
  | .gridPower => .grid
  | _ => .battery

/-- What the resolver reads of a worker snapshot: the finite values, the capture time of each source, which may be
missing (`none`) or empty (`some none`), and the shared one. -/
structure WorkerInputs where
  value : Metric → Option ℚ
  sourceCapturedAt : Source → Option (Option ℚ)
  capturedAt : Option ℚ

/-- `worker_snapshot.get(captured_at_key, worker_snapshot.get("captured_at"))`. -/
def WorkerInputs.capturedAtOf (snapshot : WorkerInputs) (source : Source) : Option ℚ :=
  (snapshot.sourceCapturedAt source).getD snapshot.capturedAt

/-- The settings of the resolver; `none` stands for an attribute that is missing. -/
structure Settings where
  autoInputCacheSeconds : ℚ
  autoInputValidationPollSeconds : Option ℚ
  dbusGatewayMaxAgeSeconds : Option ℚ
  pollIntervalSeconds : Source → Option ℚ

/-- `_non_negative_seconds_attr`. -/
def nonNegativeSecondsAttr : Option ℚ → ℚ
  | none => 0
  | some seconds => max 0 seconds

/-- `_validation_seconds`. -/
def Settings.validationSeconds (cfg : Settings) : ℚ :=
  match cfg.autoInputValidationPollSeconds with
  | none => 30
  | some seconds => if seconds = 0 then 30 else seconds

/-- `_auto_input_source_max_age_seconds`. -/
def Settings.autoInputSourceMaxAgeSeconds (cfg : Settings) (source : Source) : ℚ :=
  let pollIntervalSeconds := nonNegativeSecondsAttr (cfg.pollIntervalSeconds source)
  let gatewayMaxAgeSeconds := nonNegativeSecondsAttr cfg.dbusGatewayMaxAgeSeconds
  let pollBudgetSeconds := pollIntervalSeconds * 2
  let sourceBudgetSeconds := max gatewayMaxAgeSeconds pollBudgetSeconds
  if sourceBudgetSeconds ≤ 0 then max 1 cfg.validationSeconds
  else max 1 (min cfg.validationSeconds sourceBudgetSeconds)

theorem Settings.one_le_maxAge (cfg : Settings) (source : Source) : 1 ≤ cfg.autoInputSourceMaxAgeSeconds source := by
  rw [Settings.autoInputSourceMaxAgeSeconds]
  split
  · exact le_max_left _ _
  · exact le_max_left _ _

/-- The value and the time that are kept for a metric. -/
structure Entry where
  lastValue : Option ℚ
  lastAt : Option ℚ

/-- A resolved value, and whether it came from the cache. -/
structure Resolved where
  value : Option ℚ
  cached : Bool

/-! ## One value -/

/-- `_discard_invalid_snapshot_input`. -/
def discardInvalidSnapshotInput (value snapshotAt : Option ℚ) (now : ℚ) (maxAgeSeconds : Option ℚ) :
    Option ℚ × Option ℚ :=
  match value, snapshotAt with
  | some v, some snapshotTime =>
    if ¬ snapshotTime ≤ now + 1 then (none, none)
    else if ∃ maxAge ∈ maxAgeSeconds, maxAge < now - snapshotTime then (none, none)
    else (some v, some snapshotTime)
  | value, snapshotAt => (value, snapshotAt)

/-- `_cached_input_from_service`. -/
def cachedInputFromService (entry : Entry) (now cacheMaxAge : ℚ) : Resolved :=
  match entry.lastValue, entry.lastAt with
  | some lastValue, some lastAt =>
    if lastAt ≤ now + 1 ∧ now - lastAt ≤ cacheMaxAge then ⟨some lastValue, true⟩ else ⟨none, false⟩
  | _, _ => ⟨none, false⟩

/-- `resolve_cached_input_value`. -/
def resolveCachedInputValue (cfg : Settings) (entry : Entry) (value snapshotAt : Option ℚ) (now : ℚ)
    (maxAgeSeconds : Option ℚ) : Entry × Resolved :=
  let cacheMaxAge := maxAgeSeconds.elim cfg.autoInputCacheSeconds (min cfg.autoInputCacheSeconds)
  match discardInvalidSnapshotInput value snapshotAt now maxAgeSeconds with
  | (some value, snapshotAt) => (⟨some value, some (snapshotAt.getD now)⟩, ⟨some value, false⟩)
  | (none, _) => (entry, cachedInputFromService entry now cacheMaxAge)

/-! ## A cycle -/

/-- The attributes of the service that the resolver keeps. -/
structure State where
  entry : Metric → Entry
  autoCachedInputsUsed : Bool
  cacheHits : Nat

/-- A call of `resolve_auto_inputs`. -/
structure Call where
  now : ℚ
  snapshot : WorkerInputs
  autoModeActive : Bool

variable (cfg : Settings)

/-- `_resolve_auto_input_metric`, which also serves the values of the battery cluster. -/
def resolveAutoInputMetric (s : State) (call : Call) (m : Metric) : Entry × Resolved :=
  resolveCachedInputValue cfg (s.entry m) (call.snapshot.value m) (call.snapshot.capturedAtOf m.source) call.now
    (some (cfg.autoInputSourceMaxAgeSeconds m.source))

/-- The value of a metric that a call returns. -/
def resolved (s : State) (call : Call) (m : Metric) : Resolved :=
  if call.autoModeActive then (resolveAutoInputMetric cfg s call m).2 else ⟨none, false⟩

/-- `resolve_auto_inputs`: the attributes afterwards, and the PV power, the state of charge and the grid power. -/
def resolveAutoInputs (s : State) (call : Call) : State × Option ℚ × Option ℚ × Option ℚ :=
  if call.autoModeActive then
    let used := (resolveAutoInputMetric cfg s call .pvPower).2.cached ||
      (resolveAutoInputMetric cfg s call .gridPower).2.cached ||
      (resolveAutoInputMetric cfg s call .batterySoc).2.cached
    ({ entry := fun m => (resolveAutoInputMetric cfg s call m).1
       autoCachedInputsUsed := used
       cacheHits := if used then s.cacheHits + 1 else s.cacheHits },
      (resolveAutoInputMetric cfg s call .pvPower).2.value, (resolveAutoInputMetric cfg s call .batterySoc).2.value,
      (resolveAutoInputMetric cfg s call .gridPower).2.value)
  else ({ s with autoCachedInputsUsed := false }, none, none, none)

/-- The attributes after a call. -/
def step (s : State) (call : Call) : State := (resolveAutoInputs cfg s call).1

/-! ## Where a value comes from -/

/-- The snapshot of the call shows the value with this capture time. -/
def Call.Shows (call : Call) (m : Metric) (v t : ℚ) : Prop :=
  call.snapshot.value m = some v ∧ (call.snapshot.capturedAtOf m.source).getD call.now = t

/-- Before the first call nothing is stored. -/
def State.start : State := ⟨fun _ => ⟨none, none⟩, false, 0⟩

/-- Everything that resolving a value can do: the value of the snapshot is within its age and is stored; or the entry
stays, and its value is used while it is young enough. -/
theorem resolveAutoInputMetric_cases (s : State) (call : Call) (m : Metric) :
    (∃ v t, call.Shows m v t ∧ call.now - cfg.autoInputSourceMaxAgeSeconds m.source ≤ t ∧
      resolveAutoInputMetric cfg s call m = (⟨some v, some t⟩, ⟨some v, false⟩)) ∨
    resolveAutoInputMetric cfg s call m = (s.entry m, cachedInputFromService (s.entry m) call.now
      (min cfg.autoInputCacheSeconds (cfg.autoInputSourceMaxAgeSeconds m.source))) := by
  have hage := cfg.one_le_maxAge m.source
  unfold resolveAutoInputMetric resolveCachedInputValue
  dsimp only [Option.elim_some]
  cases hvalue : call.snapshot.value m with
  | none => exact .inr rfl
  | some v =>
    cases hat : call.snapshot.capturedAtOf m.source with
    | none =>
      -- without a capture time the value counts as captured now
      exact .inl ⟨v, call.now, ⟨hvalue, by rw [hat]; rfl⟩, by linarith, rfl⟩
    | some t =>
      unfold discardInvalidSnapshotInput
      dsimp only
      by_cases hfuture : t ≤ call.now + 1
      · by_cases hold : cfg.autoInputSourceMaxAgeSeconds m.source < call.now - t
        · right
          rw [if_neg (not_not.mpr hfuture), if_pos ⟨_, rfl, hold⟩]
        · left
          have hyoung : ¬ ∃ maxAge ∈ some (cfg.autoInputSourceMaxAgeSeconds m.source), maxAge < call.now - t := by
            rintro ⟨maxAge, hmax, hlt⟩
            rw [Option.mem_some_iff.mp hmax] at hold
            exact hold hlt
          refine ⟨v, t, ⟨hvalue, by rw [hat]; rfl⟩, ?_, ?_⟩
          · linarith [not_lt.mp hold]
          · rw [if_neg (not_not.mpr hfuture), if_neg hyoung]
            rfl
      · right
        rw [if_pos hfuture]

variable {cfg} {m : Metric} {v t : ℚ}

theorem cachedInputFromService_some {entry : Entry} {now cacheMaxAge : ℚ}
    (h : (cachedInputFromService entry now cacheMaxAge).value = some v) :
    (cachedInputFromService entry now cacheMaxAge).cached = true ∧
      ∃ t, entry = ⟨some v, some t⟩ ∧ now - cacheMaxAge ≤ t := by
  obtain ⟨lastValue, lastAt⟩ := entry
  unfold cachedInputFromService at h ⊢
  cases lastValue with
  | none => nomatch h
  | some lastValue =>
    cases lastAt with
    | none => nomatch h
    | some lastAt =>
      dsimp only at h ⊢
      split at h
      · rename_i hyoung
        rw [if_pos hyoung]
        rw [Option.some.inj h]
        exact ⟨rfl, lastAt, rfl, by linarith [hyoung.2]⟩
      · nomatch h

theorem cachedInputFromService_cached {entry : Entry} {now cacheMaxAge : ℚ}
    (h : (cachedInputFromService entry now cacheMaxAge).cached = true) :
    ∃ v, (cachedInputFromService entry now cacheMaxAge).value = some v := by
  unfold cachedInputFromService at h ⊢
  split at h
  · split at h
    · rename_i lastValue lastAt _ _ hyoung
      exact ⟨lastValue, by rw [if_pos hyoung]⟩
    · nomatch h
  · nomatch h

theorem shown_of_entry {s : State} {calls : List Call} (h : (run (step cfg) s calls).entry m = ⟨some v, some t⟩) :
    s.entry m = ⟨some v, some t⟩ ∨ ∃ call ∈ calls, call.Shows m v t := by
  induction calls generalizing s with
  | nil => exact .inl h
  | cons call calls ih =>
    rcases ih h with hstep | ⟨other, hother, hshows⟩
    · unfold step resolveAutoInputs at hstep
      split at hstep
      · dsimp only at hstep
        rcases resolveAutoInputMetric_cases cfg s call m with ⟨v', t', hshows, -, heq⟩ | heq
        · -- the call stored what it showed
          rw [heq] at hstep
          obtain ⟨hv, ht⟩ := Entry.mk.inj hstep
          rw [Option.some.inj hv, Option.some.inj ht] at hshows
          exact .inr ⟨call, List.mem_cons_self .., hshows⟩
        · rw [heq] at hstep
          exact .inl hstep
      · exact .inl hstep
    · exact .inr ⟨other, List.mem_cons_of_mem _ hother, hshows⟩

/-- A returned value is shown by the call within the age of its source; or it is from the cache, and the call finds it
stored within the age of the cache. -/
theorem resolved_some {s : State} {call : Call} (h : (resolved cfg s call m).value = some v) :
    ((resolved cfg s call m).cached = false ∧
      ∃ t, call.Shows m v t ∧ call.now - cfg.autoInputSourceMaxAgeSeconds m.source ≤ t) ∨
    ((resolved cfg s call m).cached = true ∧ ∃ t, s.entry m = ⟨some v, some t⟩ ∧
      call.now - min cfg.autoInputCacheSeconds (cfg.autoInputSourceMaxAgeSeconds m.source) ≤ t) := by
  unfold resolved at h ⊢
  split at h
  · rename_i hactive
    rw [if_pos hactive]
    rcases resolveAutoInputMetric_cases cfg s call m with ⟨v', t, hshows, hage, heq⟩ | heq
    · rw [heq] at h ⊢
      have hv : v' = v := Option.some.inj h
      rw [hv] at hshows
      exact .inl ⟨rfl, t, hshows, hage⟩
    · rw [heq] at h ⊢
      exact .inr (cachedInputFromService_some h)
  · nomatch h

/-- The cache is marked as used only with a value. -/
theorem resolved_cached {s : State} {call : Call} (h : (resolved cfg s call m).cached = true) :
    ∃ v, (resolved cfg s call m).value = some v := by
  unfold resolved at h ⊢
  split at h
  · rename_i hactive
    rw [if_pos hactive]
    rcases resolveAutoInputMetric_cases cfg s call m with ⟨v', t, -, -, heq⟩ | heq
    · rw [heq] at h
      nomatch h
    · rw [heq] at h ⊢
      exact cachedInputFromService_cached h
  · nomatch h

/-- The values of the call are the resolved ones, and it marks the cache as used when one of them is from there. -/
theorem resolveAutoInputs_eq (s : State) (call : Call) :
    (resolveAutoInputs cfg s call).2 = ((resolved cfg s call .pvPower).value, (resolved cfg s call .batterySoc).value,
      (resolved cfg s call .gridPower).value) ∧
    ((step cfg s call).autoCachedInputsUsed = true ↔
      ∃ m ∈ [Metric.pvPower, .gridPower, .batterySoc], (resolved cfg s call m).cached = true) := by
  unfold step resolveAutoInputs resolved
  split
  · simp [or_assoc]
  · simp

variable (cfg)

/-- In every run, whatever the snapshots and the modes are:

* a returned value that is not from the cache is shown by the snapshot of the call, with a capture time within the
  maximum age of its source;
* a value from the cache was shown by the snapshot of an earlier call, with a capture time within the cache time and
  the maximum age of its source;
* when all snapshots so far that show a value were captured before some time, the value is returned for the maximum
  age after that time at most;
* the cache is marked as used exactly when one of the three values is from it. -/
theorem inputs_within_budget (before : List Call) (call : Call) :
    let s := run (step cfg) State.start before
    (∀ m v, (resolved cfg s call m).value = some v → (resolved cfg s call m).cached = false →
      ∃ t, call.Shows m v t ∧ call.now - cfg.autoInputSourceMaxAgeSeconds m.source ≤ t) ∧
    (∀ m v, (resolved cfg s call m).value = some v → (resolved cfg s call m).cached = true →
      ∃ t, (∃ earlier ∈ before, earlier.Shows m v t) ∧
        call.now - min cfg.autoInputCacheSeconds (cfg.autoInputSourceMaxAgeSeconds m.source) ≤ t) ∧
    (∀ m v latest, (∀ other ∈ before ++ [call], ∀ t, other.Shows m v t → t ≤ latest) →
      (resolved cfg s call m).value = some v → call.now ≤ latest + cfg.autoInputSourceMaxAgeSeconds m.source) ∧
    (resolveAutoInputs cfg s call).2 = ((resolved cfg s call .pvPower).value, (resolved cfg s call .batterySoc).value,
      (resolved cfg s call .gridPower).value) ∧
    ((step cfg s call).autoCachedInputsUsed = true ↔
      ∃ m ∈ [Metric.pvPower, .gridPower, .batterySoc], ∃ v,
        resolved cfg s call m = ⟨some v, true⟩) := by
  intro s
  -- the entry of a call was shown by an earlier one
  have hearlier {m : Metric} {v t : ℚ} (h : s.entry m = ⟨some v, some t⟩) : ∃ earlier ∈ before, earlier.Shows m v t := by
    rcases shown_of_entry h with hstart | hshown
    · nomatch hstart
    · exact hshown
  refine ⟨?_, ?_, ?_, (resolveAutoInputs_eq s call).1, ?_⟩
  · intro m v hvalue hcached
    rcases resolved_some hvalue with ⟨-, hshown⟩ | ⟨htrue, -⟩
    · exact hshown
    · rw [hcached] at htrue
      nomatch htrue
  · intro m v hvalue hcached
    rcases resolved_some hvalue with ⟨hfalse, -⟩ | ⟨-, t, hentry, hage⟩
    · rw [hcached] at hfalse
      nomatch hfalse
    · exact ⟨t, hearlier hentry, hage⟩
  · intro m v latest hlatest hvalue
    rcases resolved_some hvalue with ⟨-, t, hshows, hage⟩ | ⟨-, t, hentry, hage⟩
    · have hle := hlatest call (List.mem_append_right _ (List.mem_singleton_self _)) t hshows
      linarith
    · obtain ⟨earlier, hmem, hshows⟩ := hearlier hentry
      have hle := hlatest earlier (List.mem_append_left _ hmem) t hshows
      have hmin := min_le_right cfg.autoInputCacheSeconds (cfg.autoInputSourceMaxAgeSeconds m.source)
      linarith
  · rw [(resolveAutoInputs_eq s call).2]
    constructor
    · intro ⟨m, hm, hcached⟩
      obtain ⟨v, hvalue⟩ := resolved_cached hcached
      exact ⟨m, hm, v, by rw [← hvalue, ← hcached]⟩
    · intro ⟨m, hm, v, heq⟩
      exact ⟨m, hm, by rw [heq]⟩

/-! ## A value without a capture time -/

/-- A snapshot that shows the PV power without any capture time. -/
def undated : WorkerInputs := ⟨fun m => if m = .pvPower then some 700 else none, fun _ => none, none⟩

def defaults : Settings := ⟨15, some 30, some 20, fun _ => some 5⟩

/-- A snapshot without a capture time keeps its value alive beyond the maximum age. -/
theorem undated_value_kept_alive :
    let calls := [⟨0, undated, true⟩, ⟨500, undated, true⟩]
    (resolveAutoInputs defaults (run (step defaults) State.start calls) ⟨1000, undated, true⟩).2.1 = some 700 ∧
      defaults.autoInputSourceMaxAgeSeconds .pv = 20 := by
  decide +kernel

end InputCache

end VenusEvcharger
