import VenusEvcharger.Python.LocalTime
import VenusEvcharger.Python.Numbers

/-!
# The scheduled mode

`scheduled_mode_snapshot` decides whether the night boost of the scheduled mode is active. The boost waits for
a delay after the daytime window of the day before, and ends at the latest end time or at the start of the next
daytime window. It takes the start and the end of a window as two times of one day, while the Auto logic lets a
window wrap over midnight. `neverOverlaps_iff` says for which inputs the two disagree.

Scope: of the snapshot the dates and times are kept, not their texts.
-/

namespace VenusEvcharger

open Library

/-! ## Enabled days -/

/-- The enabled days as they are configured: a sequence or a set, as the texts of its items, or a text. -/
inductive DaysSelection where
  | items (texts : List String)
  | text (value : Option String)

/-- `str.lower` as far as the names of days go: the Kelvin sign is the one other letter that lowers into one of
their letters. -/
def lowerDayName (s : String) : String :=
  String.ofList (s.toList.map fun c => if c = '\u212A' then 'k' else c.toLower)

/-- The separators of `_normalized_weekday_candidates`. -/
def isDaySeparator (c : Char) : Bool := c ∈ [',', ';', '|', '/', '\\', ' ']

/-- `_normalized_weekday_tokens`. -/
def weekdayTokens : DaysSelection → List String
  | .items texts => (texts.filter fun text => strip text ≠ "").map fun text => lowerDayName (strip text)
  | .text value =>
    let parts := (lowerDayName (strip (value.getD ""))).toList.splitOnP isDaySeparator
    (parts.map fun part => strip (String.ofList part)).filter (· ≠ "")

/-- `DEFAULT_SCHEDULED_ENABLED_DAYS`. -/
def defaultScheduledEnabledDays : List Nat := [0, 1, 2, 3, 4]

/-- `WEEKDAY_TOKEN_MAP`. -/
def weekdayTokenMap : List (String × Nat) :=
  [("mon", 0), ("monday", 0), ("mo", 0), ("tue", 1), ("tues", 1), ("tuesday", 1), ("tu", 1), ("wed", 2),
    ("wednesday", 2), ("we", 2), ("thu", 3), ("thur", 3), ("thurs", 3), ("thursday", 3), ("th", 3), ("fri", 4),
    ("friday", 4), ("fr", 4), ("sat", 5), ("saturday", 5), ("sa", 5), ("sun", 6), ("sunday", 6), ("su", 6)]

/-- `_SPECIAL_SCHEDULED_DAY_SELECTIONS`. -/
def specialScheduledDaySelections : List (String × List Nat) :=
  (["all", "daily", "everyday", "*"].map fun name => (name, List.range 7)) ++
    (["weekdays", "weekday", "workdays", "workday", "mon-fri", "mo-fr"].map fun name =>
      (name, defaultScheduledEnabledDays)) ++
    ["weekend", "weekends", "sat-sun", "sa-su"].map fun name => (name, [5, 6])

/-- `_weekday_range_values`. -/
def weekdayRangeValues (startDay endDay : Nat) : List Nat :=
  (List.range ((endDay + 7 - startDay) % 7 + 1)).map fun offset => (startDay + offset) % 7

/-- `_weekday_range_bounds`. -/
def weekdayRangeBounds (token : String) : Option (Nat × Nat) :=
  match token.toList.splitOn '-' with
  | [startToken, endToken] =>
    match weekdayTokenMap.lookup (strip (String.ofList startToken)),
        weekdayTokenMap.lookup (strip (String.ofList endToken)) with
    | some startDay, some endDay => some (startDay, endDay)
    | _, _ => none
  | _ => none

/-- `_weekday_indices_for_token`. -/
def weekdayIndicesForToken (token : String) : List Nat :=
  match weekdayTokenMap.lookup token with
  | some weekday => [weekday]
  | none =>
    match weekdayRangeBounds token with
    | some (startDay, endDay) => weekdayRangeValues startDay endDay
    | none => []

/-- `_append_unique_weekday`. -/
def appendUniqueWeekday (target : List Nat) (weekday : Nat) : List Nat :=
  if weekday ∈ target then target else target ++ [weekday]

/-- `_normalized_weekday_selection`. -/
def normalizedWeekdaySelection (tokens : List String) (fallback : List Nat) : List Nat :=
  let normalized := tokens.foldl (fun target token =>
    (weekdayIndicesForToken token).foldl appendUniqueWeekday target) []
  if normalized = [] then fallback else normalized

/-- `normalize_scheduled_enabled_days` with its default fallback. -/
def normalizeScheduledEnabledDays (value : DaysSelection) : List Nat :=
  match weekdayTokens value with
  | [] => defaultScheduledEnabledDays
  | [token] =>
    match specialScheduledDaySelections.lookup token with
    | some selection => selection
    | none => normalizedWeekdaySelection [token] defaultScheduledEnabledDays
  | tokens => normalizedWeekdaySelection tokens defaultScheduledEnabledDays

/-! ## Windows -/

/-- A valid `HH:MM`. -/
structure TimeWindow where
  hour : Nat
  minute : Nat
  hour_lt : hour < 24
  minute_lt : minute < 60

namespace TimeWindow

/-- The minute of the day. -/
def minutes (w : TimeWindow) : Nat := w.hour * 60 + w.minute

theorem minutes_lt (w : TimeWindow) : w.minutes < 1440 := by
  have := w.hour_lt
  have := w.minute_lt
  unfold minutes
  omega

end TimeWindow

/-- `month_windows`: the start and the end of the daytime window, by month. -/
abbrev MonthWindows := Dict Nat (TimeWindow × TimeWindow)

/-- The daytime window of a month without a configured one. -/
def defaultDaytimeWindow : TimeWindow × TimeWindow :=
  (⟨8, 0, by decide, by decide⟩, ⟨18, 0, by decide, by decide⟩)

/-- `_window_minutes_for_date`. -/
def windowMinutesForDate (date : LocalDate) (windows : MonthWindows) : Nat × Nat :=
  let window := windows.getD date.month defaultDaytimeWindow
  (window.1.minutes, window.2.minutes)

/-- `_minutes_within_daytime_window`. -/
def minutesWithinDaytimeWindow (currentMinutes startMinutes endMinutes : Int) : Bool :=
  let windowLength := (endMinutes - startMinutes) % 1440
  if windowLength = 0 then true
  else decide ((currentMinutes - startMinutes) % 1440 < windowLength)

/-- `is_within_auto_daytime_window` while Auto respects the daytime. -/
def isWithinAutoDaytimeWindow (windows : MonthWindows) (now : LocalDateTime) : Bool :=
  let window := windowMinutesForDate now.date windows
  minutesWithinDaytimeWindow now.minuteOfDay window.1 window.2

/-- `_datetime_for_minutes` of a valid minute. -/
def datetimeForMinutes (date : LocalDate) (minuteOfDay : Nat) (h : minuteOfDay < 1440) : LocalDateTime :=
  ⟨date, minuteOfDay * minuteMicros, by unfold minuteMicros dayMicros; omega⟩

theorem windowMinutesForDate_lt (date : LocalDate) (windows : MonthWindows) :
    (windowMinutesForDate date windows).1 < 1440 ∧ (windowMinutesForDate date windows).2 < 1440 :=
  ⟨TimeWindow.minutes_lt _, TimeWindow.minutes_lt _⟩

/-- The start of the daytime window of a date. -/
def daytimeStart (date : LocalDate) (windows : MonthWindows) : LocalDateTime :=
  datetimeForMinutes date (windowMinutesForDate date windows).1 (windowMinutesForDate_lt date windows).1

/-- The end of the daytime window of a date. -/
def daytimeEnd (date : LocalDate) (windows : MonthWindows) : LocalDateTime :=
  datetimeForMinutes date (windowMinutesForDate date windows).2 (windowMinutesForDate_lt date windows).2

/-! ## The snapshot -/

/-- The states of the scheduled mode, without `disabled`. -/
inductive ScheduledState where
  | autoWindow
  | inactiveDay
  | waitingFallback
  | nightBoost
  | afterLatestEnd
deriving DecidableEq

/-- `SCHEDULED_STATE_CODES`. -/
def ScheduledState.code : ScheduledState → Nat
  | .autoWindow => 1
  | .inactiveDay => 2
  | .waitingFallback => 3
  | .nightBoost => 4
  | .afterLatestEnd => 5

/-- The reasons for the states. -/
inductive ScheduledReason where
  | daytimeAuto
  | targetDayDisabled
  | waitingFallbackDelay
  | nightBoostWindow
  | latestEndReached
deriving DecidableEq

/-- `SCHEDULED_REASON_CODES`. -/
def ScheduledReason.code : ScheduledReason → Nat
  | .daytimeAuto => 1
  | .targetDayDisabled => 2
  | .waitingFallbackDelay => 3
  | .nightBoostWindow => 4
  | .latestEndReached => 5

/-- `ScheduledModeSnapshot`. -/
structure ScheduledModeSnapshot where
  state : ScheduledState
  stateCode : Nat
  reason : ScheduledReason
  reasonCode : Nat
  nightBoostActive : Bool
  targetDayIndex : Nat
  targetDate : LocalDate
  targetDayEnabled : Bool
  fallbackStart : LocalDateTime
  boostUntil : LocalDateTime

/-- `_scheduled_target_day`. -/
def scheduledTargetDay (now : LocalDateTime) (windows : MonthWindows) : Option LocalDate :=
  let window := windowMinutesForDate now.date windows
  if window.1 < window.2 ∧ window.2 ≤ now.minuteOfDay then now.date.next else some now.date

/-- `_ScheduledSnapshotContext`. -/
structure ScheduledSnapshotContext where
  targetDate : LocalDate
  targetDayIndex : Nat
  targetEnabled : Bool
  startMinutes : Nat
  endMinutes : Nat
  fallbackStart : LocalDateTime
  nightBoostEnd : LocalDateTime

/-- `min` of two times. -/
def earlier (a b : LocalDateTime) : LocalDateTime := if b.instant < a.instant then b else a

section Snapshot

variable [PyRuntime]

/-- `parse_hhmm` of a text. -/
def parseHhmm (text : String) (fallback : TimeWindow) : TimeWindow :=
  match (strip text).toList.splitOn ':' with
  | [hourText, minuteText] =>
    match PyRuntime.parseInt (String.ofList hourText), PyRuntime.parseInt (String.ofList minuteText) with
    | some hour, some minute =>
      if h : (0 ≤ hour ∧ hour ≤ 23) ∧ 0 ≤ minute ∧ minute ≤ 59 then
        ⟨hour.toNat, minute.toNat, by omega, by omega⟩
      else fallback
    | _, _ => fallback
  | _ => fallback

omit [PyRuntime] in
theorem latestEnd_hour_lt : 6 < 24 := by decide

omit [PyRuntime] in
theorem latestEnd_minute_lt : 30 < 60 := by decide

/-- The latest end of the boost on a date. -/
def latestEnd (date : LocalDate) (latestEndTime : String) : LocalDateTime :=
  let window := parseHhmm latestEndTime ⟨6, 30, latestEnd_hour_lt, latestEnd_minute_lt⟩
  datetimeForMinutes date window.minutes window.minutes_lt

section

variable (now : LocalDateTime) (windows : MonthWindows) (enabledDays : DaysSelection) (delaySeconds : PyFloat)
  (latestEndTime : String)

/-- The context of a target day, once its fallback start is known. -/
def contextFrom (targetDate : LocalDate) (fallbackStart : LocalDateTime) : ScheduledSnapshotContext where
  targetDate := targetDate
  targetDayIndex := targetDate.weekday
  targetEnabled := decide (targetDate.weekday ∈ normalizeScheduledEnabledDays enabledDays)
  startMinutes := (windowMinutesForDate targetDate windows).1
  endMinutes := (windowMinutesForDate targetDate windows).2
  fallbackStart := fallbackStart
  nightBoostEnd := earlier (latestEnd targetDate latestEndTime) (daytimeStart targetDate windows)

/-- `_scheduled_snapshot_context`, whose target day is already chosen. -/
def scheduledContextOf (targetDate : LocalDate) : Option ScheduledSnapshotContext :=
  match targetDate.previous, delayMicros delaySeconds with
  | some previousDay, some delay =>
    ((daytimeEnd previousDay windows).add delay).map (contextFrom windows enabledDays latestEndTime targetDate)
  | _, _ => none

/-- `_scheduled_snapshot_context`. -/
def scheduledSnapshotContext : Option ScheduledSnapshotContext :=
  (scheduledTargetDay now windows).bind (scheduledContextOf windows enabledDays delaySeconds latestEndTime)

end

/-- `_scheduled_daytime_window_active`. -/
def scheduledDaytimeWindowActive (now : LocalDateTime) (context : ScheduledSnapshotContext) : Bool :=
  decide (context.startMinutes ≤ now.minuteOfDay ∧ now.minuteOfDay < context.endMinutes ∧
    now.date = context.targetDate)

/-- `_scheduled_post_night_state`. -/
def scheduledPostNightState (now : LocalDateTime) (context : ScheduledSnapshotContext) :
    ScheduledState × ScheduledReason :=
  if now.instant < context.fallbackStart.instant then (.waitingFallback, .waitingFallbackDelay)
  else if now.instant < context.nightBoostEnd.instant then (.nightBoost, .nightBoostWindow)
  else if now.date = context.targetDate ∧ context.startMinutes < context.endMinutes ∧
      context.startMinutes ≤ now.minuteOfDay then (.autoWindow, .daytimeAuto)
  else (.afterLatestEnd, .latestEndReached)

/-- `_scheduled_snapshot`. -/
def scheduledSnapshot (context : ScheduledSnapshotContext) (state : ScheduledState) (reason : ScheduledReason)
    (targetDayEnabled : Bool) : ScheduledModeSnapshot where
  state := state
  stateCode := state.code
  reason := reason
  reasonCode := reason.code
  nightBoostActive := decide (state = .nightBoost)
  targetDayIndex := context.targetDayIndex
  targetDate := context.targetDate
  targetDayEnabled := targetDayEnabled
  fallbackStart := context.fallbackStart
  boostUntil := context.nightBoostEnd

/-- `scheduled_mode_snapshot` of a context. -/
def snapshotOfContext (now : LocalDateTime) (context : ScheduledSnapshotContext) : ScheduledModeSnapshot :=
  if scheduledDaytimeWindowActive now context then
    scheduledSnapshot context .autoWindow .daytimeAuto context.targetEnabled
  else if !context.targetEnabled then scheduledSnapshot context .inactiveDay .targetDayDisabled false
  else
    let outcome := scheduledPostNightState now context
    scheduledSnapshot context outcome.1 outcome.2 true

/-- `scheduled_mode_snapshot` with its own target day, `none` for an `OverflowError`. -/
def scheduledModeSnapshot (now : LocalDateTime) (windows : MonthWindows) (enabledDays : DaysSelection)
    (delaySeconds : PyFloat) (latestEndTime : String) : Option ScheduledModeSnapshot :=
  (scheduledSnapshotContext now windows enabledDays delaySeconds latestEndTime).map (snapshotOfContext now)

end Snapshot

/-! ## The two notions of daytime -/

theorem minuteOfDay_lt (now : LocalDateTime) : now.minuteOfDay < 1440 :=
  Nat.div_lt_of_lt_mul now.micros_lt

theorem minutesWithin_of_lt {current startMinutes endMinutes : Nat} (hcurrent : current < 1440)
    (hend : endMinutes < 1440) (h : startMinutes < endMinutes) :
    minutesWithinDaytimeWindow current startMinutes endMinutes = true ↔
      startMinutes ≤ current ∧ current < endMinutes := by
  unfold minutesWithinDaytimeWindow
  have hlength : ((endMinutes : Int) - startMinutes) % 1440 = endMinutes - startMinutes := by omega
  dsimp only
  rw [hlength, if_neg (by omega), decide_eq_true_eq]
  omega

/-- A window that wraps over midnight, or starts when it ends. -/
theorem minutesWithin_of_le {current startMinutes endMinutes : Nat} (hcurrent : current < 1440)
    (hstart : startMinutes < 1440) (h : endMinutes ≤ startMinutes) (hbefore : current < startMinutes) :
    minutesWithinDaytimeWindow current startMinutes endMinutes = true ↔
      startMinutes = endMinutes ∨ current < endMinutes := by
  unfold minutesWithinDaytimeWindow
  dsimp only
  by_cases heq : startMinutes = endMinutes
  · have hlength : ((endMinutes : Int) - startMinutes) % 1440 = 0 := by omega
    rw [if_pos hlength]
    exact iff_of_true rfl (Or.inl heq)
  · have hlength : ((endMinutes : Int) - startMinutes) % 1440 = endMinutes - startMinutes + 1440 := by omega
    rw [hlength, if_neg (by omega), decide_eq_true_eq]
    omega

variable {now : LocalDateTime}

/-- On its own day, a time before the start of the window has a smaller minute. -/
theorem minuteOfDay_lt_start {windows : MonthWindows}
    (h : now.instant < (daytimeStart now.date windows).instant) :
    now.minuteOfDay < (windowMinutesForDate now.date windows).1 := by
  rw [LocalDateTime.instant_eq, LocalDateTime.instant_eq] at h
  have hmicros : now.micros < (windowMinutesForDate now.date windows).1 * minuteMicros :=
    Nat.lt_of_add_lt_add_left h
  exact (Nat.div_lt_iff_lt_mul (by decide)).mpr hmicros

theorem lt_earlier_iff {a b : LocalDateTime} :
    now.instant < (earlier a b).instant ↔ now.instant < a.instant ∧ now.instant < b.instant := by
  unfold earlier
  split
  · omega
  · omega

theorem nightBoostActive_iff (now : LocalDateTime) (context : ScheduledSnapshotContext) :
    (snapshotOfContext now context).nightBoostActive = true ↔
      scheduledDaytimeWindowActive now context = false ∧ context.targetEnabled = true ∧
        context.fallbackStart.instant ≤ now.instant ∧ now.instant < context.nightBoostEnd.instant := by
  unfold snapshotOfContext
  cases hdaytime : scheduledDaytimeWindowActive now context with
  | true => simp [scheduledSnapshot]
  | false =>
    cases henabled : context.targetEnabled with
    | false => simp [scheduledSnapshot]
    | true =>
      show decide ((scheduledPostNightState now context).1 = .nightBoost) = true ↔ _
      unfold scheduledPostNightState
      rw [decide_eq_true_eq]
      split_ifs <;> simp <;> omega

theorem targetDayEnabled_of_boost {context : ScheduledSnapshotContext}
    (h : (snapshotOfContext now context).nightBoostActive = true) :
    (snapshotOfContext now context).targetDayEnabled = true := by
  obtain ⟨hdaytime, henabled, -⟩ := (nightBoostActive_iff now context).mp h
  unfold snapshotOfContext
  rw [hdaytime, henabled]
  rfl

theorem targetDate_snapshotOfContext (now : LocalDateTime) (context : ScheduledSnapshotContext) :
    (snapshotOfContext now context).targetDate = context.targetDate := by
  unfold snapshotOfContext scheduledSnapshot
  split_ifs <;> rfl

/-! ## Boost and daytime -/

section Overlap

variable [PyRuntime] (now : LocalDateTime) (windows : MonthWindows) (enabledDays : DaysSelection)
  (delaySeconds : PyFloat) (latestEndTime : String)

/-- A reported boost lies outside the Auto daytime window, on an enabled target day, and before the latest end
and the daytime start of this day. -/
def NeverOverlaps : Prop :=
  ∀ snapshot, scheduledModeSnapshot now windows enabledDays delaySeconds latestEndTime = some snapshot →
    snapshot.nightBoostActive = true →
    isWithinAutoDaytimeWindow windows now = false ∧ snapshot.targetDayEnabled = true ∧
      snapshot.targetDate.weekday ∈ normalizeScheduledEnabledDays enabledDays ∧
      now.instant < (latestEnd snapshot.targetDate latestEndTime).instant ∧
      now.instant < (daytimeStart snapshot.targetDate windows).instant

/-- The window of the day wraps or starts when it ends, and the time lies in it, although it lies after the
window of the day before and the delay, and before the latest end and the daytime start of its own day. -/
structure InWrappedWindow : Prop where
  wraps : (windowMinutesForDate now.date windows).2 ≤ (windowMinutesForDate now.date windows).1
  inside : (windowMinutesForDate now.date windows).1 = (windowMinutesForDate now.date windows).2 ∨
    now.minuteOfDay < (windowMinutesForDate now.date windows).2
  enabled : now.date.weekday ∈ normalizeScheduledEnabledDays enabledDays
  afterDelay : ∃ previousDay delay, now.date.previous = some previousDay ∧ delayMicros delaySeconds = some delay ∧
    (daytimeEnd previousDay windows).instant + delay ≤ now.instant
  beforeEnd : now.instant < (latestEnd now.date latestEndTime).instant
  beforeStart : now.instant < (daytimeStart now.date windows).instant

variable {now windows enabledDays delaySeconds latestEndTime}

variable {targetDate : LocalDate}

/-- The end of the boost is the earlier of two times. -/
theorem lt_nightBoostEnd_iff {fallbackStart : LocalDateTime} :
    now.instant < (contextFrom windows enabledDays latestEndTime targetDate fallbackStart).nightBoostEnd.instant ↔
      now.instant < (latestEnd targetDate latestEndTime).instant ∧
        now.instant < (daytimeStart targetDate windows).instant := by
  rw [contextFrom]
  exact lt_earlier_iff

theorem scheduledContextOf_eq_some {context : ScheduledSnapshotContext}
    (h : scheduledContextOf windows enabledDays delaySeconds latestEndTime targetDate = some context) :
    ∃ previousDay delay fallbackStart, targetDate.previous = some previousDay ∧
      delayMicros delaySeconds = some delay ∧
      fallbackStart.instant = (daytimeEnd previousDay windows).instant + delay ∧
      context = contextFrom windows enabledDays latestEndTime targetDate fallbackStart := by
  unfold scheduledContextOf at h
  split at h
  · rename_i previousDay delay hprevious hdelay
    obtain ⟨fallbackStart, hfallback, rfl⟩ := Option.map_eq_some_iff.mp h
    exact ⟨previousDay, delay, fallbackStart, hprevious, hdelay, LocalDateTime.instant_add hfallback, rfl⟩
  · nomatch h

theorem scheduledContextOf_isSome (enabledDays : DaysSelection) (latestEndTime : String) {previousDay : LocalDate} {delay : Nat}
    (hprevious : targetDate.previous = some previousDay) (hdelay : delayMicros delaySeconds = some delay)
    (h : (daytimeEnd previousDay windows).instant + delay ≤ now.instant) :
    ∃ context, scheduledContextOf windows enabledDays delaySeconds latestEndTime targetDate = some context := by
  obtain ⟨fallbackStart, hfallback⟩ := LocalDateTime.add_isSome_of_le h
  refine ⟨contextFrom windows enabledDays latestEndTime targetDate fallbackStart, ?_⟩
  rw [scheduledContextOf, hprevious, hdelay]
  exact congrArg (Option.map _) hfallback

theorem context_of_snapshot {snapshot : ScheduledModeSnapshot}
    (h : scheduledModeSnapshot now windows enabledDays delaySeconds latestEndTime = some snapshot) :
    ∃ targetDate context, scheduledTargetDay now windows = some targetDate ∧
      scheduledContextOf windows enabledDays delaySeconds latestEndTime targetDate = some context ∧
      snapshot = snapshotOfContext now context := by
  obtain ⟨context, hcontext, rfl⟩ := Option.map_eq_some_iff.mp h
  obtain ⟨targetDate, htarget, hof⟩ := Option.bind_eq_some_iff.mp hcontext
  exact ⟨targetDate, context, htarget, hof, rfl⟩

theorem boost_in_wrapped_window
    (h : InWrappedWindow now windows enabledDays delaySeconds latestEndTime) :
    ∃ snapshot, scheduledModeSnapshot now windows enabledDays delaySeconds latestEndTime = some snapshot ∧
      snapshot.nightBoostActive = true ∧ isWithinAutoDaytimeWindow windows now = true := by
  obtain ⟨previousDay, delay, hprevious, hdelay, hpassed⟩ := h.afterDelay
  obtain ⟨context, hcontext⟩ :=
    scheduledContextOf_isSome enabledDays latestEndTime hprevious hdelay hpassed
  obtain ⟨previousDay', delay', fallbackStart, hprevious', hdelay', hfallback, rfl⟩ :=
    scheduledContextOf_eq_some hcontext
  obtain rfl : previousDay = previousDay' := Option.some.inj (hprevious.symm.trans hprevious')
  obtain rfl : delay = delay' := Option.some.inj (hdelay.symm.trans hdelay')
  have htarget : scheduledTargetDay now windows = some now.date := by
    have := h.wraps
    exact if_neg (by omega)
  have hbefore := minuteOfDay_lt_start h.beforeStart
  refine ⟨snapshotOfContext now (contextFrom windows enabledDays latestEndTime now.date fallbackStart), ?_, ?_, ?_⟩
  · rw [scheduledModeSnapshot, scheduledSnapshotContext, htarget]
    show Option.map _ (scheduledContextOf windows enabledDays delaySeconds latestEndTime now.date) = _
    rw [hcontext]
    rfl
  · rw [nightBoostActive_iff]
    refine ⟨decide_eq_false fun hactive => ?_, decide_eq_true h.enabled, hfallback.trans_le hpassed,
      lt_nightBoostEnd_iff.mpr ⟨h.beforeEnd, h.beforeStart⟩⟩
    exact absurd hactive.1 (Nat.not_le.mpr hbefore)
  · exact (minutesWithin_of_le (minuteOfDay_lt now) (windowMinutesForDate_lt _ _).1 h.wraps hbefore).mpr h.inside

theorem closed_of_boost {context : ScheduledSnapshotContext}
    (hwrapped : ¬ InWrappedWindow now windows enabledDays delaySeconds latestEndTime)
    (htarget : scheduledTargetDay now windows = some targetDate)
    (hcontext : scheduledContextOf windows enabledDays delaySeconds latestEndTime targetDate = some context)
    (hboost : (snapshotOfContext now context).nightBoostActive = true) :
    isWithinAutoDaytimeWindow windows now = false := by
  obtain ⟨previousDay, delay, fallbackStart, hprevious, hdelay, hfallback, rfl⟩ :=
    scheduledContextOf_eq_some hcontext
  obtain ⟨-, henabled, hafter, hbeforeBoostEnd⟩ := (nightBoostActive_iff _ _).mp hboost
  have hday : targetDate.weekday ∈ normalizeScheduledEnabledDays enabledDays := of_decide_eq_true henabled
  have hpassed : (daytimeEnd previousDay windows).instant + delay ≤ now.instant := hfallback.symm.trans_le hafter
  obtain ⟨hbeforeEnd, hbeforeStart⟩ := lt_nightBoostEnd_iff.mp hbeforeBoostEnd
  have hminute := minuteOfDay_lt now
  have hbounds := windowMinutesForDate_lt now.date windows
  rw [isWithinAutoDaytimeWindow, ← Bool.not_eq_true]
  unfold scheduledTargetDay at htarget
  dsimp only at htarget
  split at htarget
  · -- the window of the day is over
    rename_i hover
    rw [minutesWithin_of_lt hminute hbounds.2 hover.1]
    omega
  · rename_i hover
    obtain rfl : now.date = targetDate := Option.some.inj htarget
    have hbefore := minuteOfDay_lt_start hbeforeStart
    rcases Nat.lt_or_ge (windowMinutesForDate now.date windows).1 (windowMinutesForDate now.date windows).2 with h | h
    · rw [minutesWithin_of_lt hminute hbounds.2 h]
      omega
    · rw [minutesWithin_of_le hminute hbounds.1 h hbefore]
      exact fun hinside =>
        hwrapped ⟨h, hinside, hday, ⟨previousDay, delay, hprevious, hdelay, hpassed⟩, hbeforeEnd, hbeforeStart⟩

end Overlap

/-- The boost lies outside the Auto daytime window, on an enabled day and before its end, exactly when the time is
not in a wrapped window of an enabled day, after the window of the day before and the delay and before the end of
the boost. -/
theorem neverOverlaps_iff [PyRuntime] (now : LocalDateTime) (windows : MonthWindows) (enabledDays : DaysSelection)
    (delaySeconds : PyFloat) (latestEndTime : String) :
    NeverOverlaps now windows enabledDays delaySeconds latestEndTime ↔
      ¬ InWrappedWindow now windows enabledDays delaySeconds latestEndTime := by
  constructor
  · intro hnever hwrapped
    obtain ⟨snapshot, hsnapshot, hboost, hopen⟩ := boost_in_wrapped_window hwrapped
    exact absurd hopen (by rw [(hnever snapshot hsnapshot hboost).1]; exact Bool.false_ne_true)
  · intro hwrapped snapshot hsnapshot hboost
    obtain ⟨targetDate, context, htarget, hcontext, rfl⟩ := context_of_snapshot hsnapshot
    refine ⟨closed_of_boost hwrapped htarget hcontext hboost, targetDayEnabled_of_boost hboost, ?_⟩
    obtain ⟨-, -, fallbackStart, -, -, -, rfl⟩ := scheduledContextOf_eq_some hcontext
    obtain ⟨-, henabled, -, hbeforeBoostEnd⟩ := (nightBoostActive_iff _ _).mp hboost
    rw [targetDate_snapshotOfContext]
    exact ⟨of_decide_eq_true henabled, lt_nightBoostEnd_iff.mp hbeforeBoostEnd⟩

/-- A daytime window from 20:00 to 06:00 in April. -/
def wrappedApril : MonthWindows :=
  Dict.empty.set 4 (⟨20, 0, by decide, by decide⟩, ⟨6, 0, by decide, by decide⟩)

/-- Monday, the 20th of April 2026, at 05:00. -/
def mondayAtFive : LocalDateTime :=
  ⟨⟨739726, by decide, by decide⟩, 5 * 60 * minuteMicros, by decide⟩

/-- The window is open until 06:00, and so is the boost, whose delay began at 06:00 of the day before. -/
theorem boost_overlaps_daytime :
    ¬ @NeverOverlaps PyRuntime.withoutNumerals mondayAtFive wrappedApril (.text (some "Mon,Tue,Wed,Thu,Fri"))
      (.fin 3600) "None" := by
  let _ := PyRuntime.withoutNumerals
  rw [neverOverlaps_iff, not_not]
  exact {
    wraps := by decide +kernel
    inside := by decide +kernel
    enabled := by decide +kernel
    afterDelay := ⟨⟨739725, by decide, by decide⟩, 3600000000, by decide +kernel, by decide +kernel, by decide +kernel⟩
    beforeEnd := by decide +kernel
    beforeStart := by decide +kernel }

end VenusEvcharger
