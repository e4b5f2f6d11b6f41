import VenusEvcharger.Core.Schedule
import VenusEvcharger.Library.Run
import VenusEvcharger.Python.ConfigText
import VenusEvcharger.State.Overrides

/-!
# Writing the runtime overrides behind

`RuntimeOverrideStore.save` and `flush`: the settings are rendered as texts and written to the overrides file, at most
once in an interval. What may not be written yet, or could not be written, is pending until it is due.
`readRuntimeOverrideValues_text` says that the file gives back the texts that were rendered into it.

Scope: a setting is the value of its attribute or policy field, the default included. Times are exact. A write that fails
leaves the file as it was.
-/

namespace VenusEvcharger.State

open Library

/-! ## Rendering the settings -/

/-- `OverrideValueKind`. -/
inductive OverrideKind where
  | bool
  | int
  | phase
  | weekdaySet
  | hhmm
  | float

/-- `RUNTIME_OVERRIDE_SPECS`: the configuration key and the kind of each setting. -/
def runtimeOverrideSpecs : List (String × OverrideKind) :=
  [("Mode", .int), ("AutoStart", .bool), ("SetCurrent", .float), ("MinCurrent", .float), ("MaxCurrent", .float),
    ("PhaseSelection", .phase), ("AutoStartSurplusWatts", .float), ("AutoStopSurplusWatts", .float),
    ("AutoMinSoc", .float), ("AutoResumeSoc", .float), ("AutoStartDelaySeconds", .float),
    ("AutoStopDelaySeconds", .float), ("AutoScheduledEnabledDays", .weekdaySet),
    ("AutoScheduledNightStartDelaySeconds", .float), ("AutoScheduledLatestEndTime", .hhmm),
    ("AutoScheduledNightCurrentAmps", .float), ("AutoDbusBackoffBaseSeconds", .float),
    ("AutoDbusBackoffMaxSeconds", .float), ("AutoGridRecoveryStartSeconds", .float),
    ("AutoStopSurplusDelaySeconds", .float), ("AutoStopSurplusVolatilityLowWatts", .float),
    ("AutoStopSurplusVolatilityHighWatts", .float), ("AutoReferenceChargePowerWatts", .float),
    ("AutoLearnChargePower", .bool), ("AutoLearnChargePowerMinWatts", .float), ("AutoLearnChargePowerAlpha", .float),
    ("AutoLearnChargePowerStartDelaySeconds", .float), ("AutoLearnChargePowerWindowSeconds", .float),
    ("AutoLearnChargePowerMaxAgeSeconds", .float), ("AutoPhaseSwitching", .bool),
    ("AutoPhasePreferLowestWhenIdle", .bool), ("AutoPhaseUpshiftDelaySeconds", .float),
    ("AutoPhaseDownshiftDelaySeconds", .float), ("AutoPhaseUpshiftHeadroomWatts", .float),
    ("AutoPhaseDownshiftMarginWatts", .float), ("AutoPhaseMismatchRetrySeconds", .float),
    ("AutoPhaseMismatchLockoutCount", .int), ("AutoPhaseMismatchLockoutSeconds", .float)]

theorem keys_runtimeOverrideSpecs : runtimeOverrideSpecs.map Prod.fst = runtimeOverrideKeys := rfl

/-- The settings, by the key they are configured with. -/
abbrev OverrideSettings := String → Value

/-- `WEEKDAY_LABELS`. -/
def weekdayLabels : List String := ["Mon", "Tue", "Wed", "Thu", "Fri", "Sat", "Sun"]

/-- `f"{n:02d}"`. -/
def twoDigits (n : Nat) : String := if n < 10 then "0" ++ toString n else toString n

section Texts

variable [PyRuntime]

/-- The days that a value configures. -/
def daysSelectionOf : Value → DaysSelection
  | .list vs => .items (vs.map Value.text)
  | .null => .text none
  | v => .text (some v.text)

/-- `scheduled_enabled_days_text`. -/
def scheduledEnabledDaysText (value : Value) : String :=
  ",".intercalate ((normalizeScheduledEnabledDays (daysSelectionOf value)).map fun day => weekdayLabels.getD day "")

/-- `normalize_hhmm_text`. -/
def normalizeHhmmText (value : Value) : String :=
  let window := parseHhmm value.text ⟨6, 30, latestEnd_hour_lt, latestEnd_minute_lt⟩
  twoDigits window.hour ++ ":" ++ twoDigits window.minute

/-- `_override_value_as_text`. An integer of too many digits has no text. -/
def overrideValueAsText : OverrideKind → Value → Except PyError String
  | .bool, value => .ok (if value.truthy then "1" else "0")
  | .int, value => do
    let i ← coerceRuntimeInt value
    if i.natAbs < 10 ^ maxStrDigits then .ok (toString i) else .error .valueError
  | .phase, value => .ok (phaseText (phaseSelection value))
  | .weekdaySet, value => .ok (scheduledEnabledDaysText value)
  | .hhmm, value => .ok (normalizeHhmmText value)
  | .float, value => (fun q => PyLib.floatText (.fin q)) <$> coerceRuntimeFloat value

/-- `current`. -/
def currentOverrides (settings : OverrideSettings) : Except PyError (Dict String String) :=
  Dict.ofList <$> runtimeOverrideSpecs.mapM fun spec =>
    (fun text => (spec.1, text)) <$> overrideValueAsText spec.2 (settings spec.1)

end Texts

/-- `_runtime_override_ini_text`. -/
def overrideIniText (payload : Dict String String) : Except PyError String :=
  ConfigParser.writeSection runtimeOverrideSection payload

/-! ## The store -/

/-- The attributes `_runtime_overrides_pending_values`, `…_text` and `…_due_at`. -/
structure PendingOverrides where
  values : Dict String String
  text : String
  dueAt : ℚ

/-- A write that succeeded. -/
structure OverrideWrite where
  time : ℚ
  values : Dict String String
  text : String

/-- The attributes of the store, and the file. A serialized text is represented by the values it is the text of. -/
structure OverrideStore where
  file : FileRead
  serialized : Option (Dict String String)
  lastSavedAt : Option ℚ
  pending : Option PendingOverrides
  /-- The writes so far, which the source does not keep. -/
  written : List OverrideWrite

/-- Both dictionaries have the same serialized text. -/
def sameItems (a b : Dict String String) : Bool := decide (∀ key ∈ a.keys ++ b.keys, a.get? key = b.get? key)

/-- `_runtime_override_write_min_interval_seconds`, where `configured` is the attribute. -/
def writeMinInterval (configured : Option ℚ) : ℚ :=
  match configured with
  | none => 1
  | some seconds => max 0 seconds

/-- `_runtime_override_due_at`. -/
def overrideDueAt (now : ℚ) (pendingDueAt lastSavedAt : Option ℚ) (minInterval : ℚ) : Option ℚ :=
  if pendingDueAt.any (now < ·) then pendingDueAt
  else if lastSavedAt.any (now - · < minInterval) then lastSavedAt.map (· + minInterval)
  else none

namespace OverrideStore

/-- `_stage_runtime_overrides_write`. -/
def stage (s : OverrideStore) (values : Dict String String) (text : String) (dueAt : ℚ) : OverrideStore :=
  { s with pending := some ⟨values, text, dueAt⟩ }

/-- `_write_runtime_overrides_payload`, where the write succeeds. -/
def writePayload (s : OverrideStore) (values : Dict String String) (text : String) (now : ℚ) : OverrideStore where
  file := .content (utf8 text)
  serialized := some values
  lastSavedAt := some now
  pending := none
  written := s.written ++ [⟨now, values, text⟩]

variable (path : String) (configured : Option ℚ)

/-- `flush`, where `writes` says whether writing the file succeeds. -/
def flush (s : OverrideStore) (now : ℚ) (writes : Bool) : OverrideStore :=
  if strip path = "" then s
  else
    match s.pending with
    | none => s
    | some p =>
      if now < p.dueAt then s
      else if writes then s.writePayload p.values p.text now
      else { s with pending := some { p with dueAt := now + writeMinInterval configured } }

variable [PyRuntime]

/-- `save`, where `writes` says whether writing the file succeeds. -/
def save (s : OverrideStore) (settings : OverrideSettings) (now : ℚ) (writes : Bool) : Except PyError OverrideStore :=
  if strip path = "" then .ok s
  else do
    let payload ← currentOverrides settings
    if s.serialized.any (sameItems payload) then .ok { s with pending := none }
    else
      let text ← overrideIniText payload
      match overrideDueAt now (s.pending.map PendingOverrides.dueAt) s.lastSavedAt (writeMinInterval configured) with
      | some dueAt => .ok (s.stage payload text dueAt)
      | none =>
        if writes then .ok (s.writePayload payload text now)
        else .ok (s.stage payload text (now + writeMinInterval configured))

end OverrideStore

/-! ## The rendered texts are plain -/

open ConfigParser

/-- `repr` of a finite float is written with digits, signs, a point and an exponent. -/
def FloatTextsPlain [PyLib] : Prop :=
  ∀ q, ∀ c ∈ (PyLib.floatText (.fin q)).toList, c.isDigit = true ∨ c ∈ ['+', '-', '.', 'e']

theorem sameItems_iff {a b : Dict String String} : sameItems a b = true ↔ ∀ key, a.get? key = b.get? key := by
  rw [sameItems, decide_eq_true_iff]
  refine ⟨fun h key => ?_, fun h key _ => h key⟩
  by_cases hkey : key ∈ a.keys ++ b.keys
  · exact h key hkey
  · obtain ⟨ha, hb⟩ := not_or.mp (mt List.mem_append.mpr hkey)
    rw [Dict.get?_eq_none_iff.mpr ha, Dict.get?_eq_none_iff.mpr hb]

theorem plain_of_digit {c : Char} (h : c.isDigit = true) : isSpace c = false ∧ c ≠ '%' := by
  have hdigit : 48 ≤ c.toNat ∧ c.toNat ≤ 57 := Char.isDigit_iff_toNat.mp h
  constructor
  · unfold isSpace
    dsimp only
    simp only [Bool.or_eq_false_iff, Bool.and_eq_false_iff, decide_eq_false_iff_not, beq_eq_false_iff_ne]
    omega
  · rintro rfl
    exact absurd hdigit (by decide)

theorem plain_append {s t : String} (hs : Plain s) (ht : Plain t) : Plain (s ++ t) := by
  intro c hc
  rw [String.toList_append, List.mem_append] at hc
  exact hc.elim (hs c) (ht c)

theorem plain_nat (n : Nat) : Plain (toString n) := by
  intro c hc
  have hdigits : c ∈ Nat.toDigits 10 n := by rwa [← Nat.toList_repr]
  exact plain_of_digit (Nat.isDigit_of_mem_toDigits (by decide) (by decide) hdigits)

theorem plain_int (i : Int) : Plain (toString i) := by
  cases i with
  | ofNat n => exact plain_nat n
  | negSucc n => exact plain_append (s := "-") (by decide) (plain_nat (n + 1))

theorem plain_twoDigits (n : Nat) : Plain (twoDigits n) := by
  unfold twoDigits
  split
  · exact plain_append (by decide) (plain_nat n)
  · exact plain_nat n

theorem plain_intercalate {separator : String} (hseparator : Plain separator) {parts : List String}
    (hparts : ∀ part ∈ parts, Plain part) : Plain (separator.intercalate parts) := by
  induction parts with
  | nil => exact nofun
  | cons part parts ih =>
    have hpart := hparts part List.mem_cons_self
    have ih := ih fun other hother => hparts other (List.mem_cons_of_mem _ hother)
    by_cases hlast : parts = []
    · rwa [hlast, String.intercalate_singleton]
    · rw [String.intercalate_cons_of_ne_nil hlast]
      exact plain_append (plain_append hpart hseparator) ih

theorem plain_weekdayLabel (day : Nat) : Plain (weekdayLabels.getD day "") := by
  have hlabels : ∀ label ∈ "" :: weekdayLabels, Plain label := by decide
  refine hlabels _ ?_
  rw [List.getD_eq_getElem?_getD]
  cases hday : weekdayLabels[day]? with
  | none => exact List.mem_cons_self
  | some label => exact List.mem_cons_of_mem _ (List.mem_of_getElem? hday)

section Rendered

variable [PyRuntime]

theorem plain_normalizeHhmmText (value : Value) : Plain (normalizeHhmmText value) := by
  unfold normalizeHhmmText
  generalize parseHhmm _ _ = window
  have hcolon : Plain ":" := by decide
  exact plain_append (plain_append (plain_twoDigits window.hour) hcolon) (plain_twoDigits window.minute)

theorem plain_overrideValueAsText (hfloat : FloatTextsPlain) {kind : OverrideKind} {value : Value} {text : String}
    (h : overrideValueAsText kind value = .ok text) : Plain text := by
  cases kind with
  | bool =>
    cases h
    split <;> decide
  | int =>
    obtain ⟨i, -, h⟩ := bind_eq_ok.mp h
    split at h
    · cases h
      exact plain_int i
    · cases h
  | phase =>
    cases h
    cases phaseSelection value <;> decide
  | weekdaySet =>
    cases h
    refine plain_intercalate (by decide) fun part hpart => ?_
    obtain ⟨day, -, rfl⟩ := List.mem_map.mp hpart
    exact plain_weekdayLabel day
  | hhmm =>
    rw [overrideValueAsText, Except.ok.injEq] at h
    exact h ▸ plain_normalizeHhmmText value
  | float =>
    rw [overrideValueAsText] at h
    obtain ⟨q, -, rfl⟩ := map_eq_ok.mp h
    intro c hc
    rcases hfloat q c hc with hdigit | hsign
    · exact plain_of_digit hdigit
    · have hsigns : ∀ c ∈ ['+', '-', '.', 'e'], isSpace c = false ∧ c ≠ '%' := by decide
      exact hsigns c hsign

end Rendered

/-- Each key is a runtime setting and each value a plain text. -/
def Rendered (payload : Dict String String) : Prop :=
  ∀ option ∈ payload.entries, option.1 ∈ runtimeOverrideKeys ∧ Plain option.2

variable {payload : Dict String String}

theorem rendered_currentOverrides [PyRuntime] (hfloat : FloatTextsPlain) {settings : OverrideSettings}
    (h : currentOverrides settings = .ok payload) : Rendered payload := by
  obtain ⟨options, hoptions, rfl⟩ := map_eq_ok.mp h
  refine Dict.forall_entries_ofList fun option hoption => ?_
  obtain ⟨spec, hspec, hspec'⟩ := (mem_of_mapM hoptions option).mp hoption
  obtain ⟨text, htext, rfl⟩ := map_eq_ok.mp hspec'
  refine ⟨?_, plain_overrideValueAsText hfloat htext⟩
  rw [← keys_runtimeOverrideSpecs]
  exact List.mem_map_of_mem hspec

/-! ## Reading a written file back -/

theorem plainName_runtimeOverrideKeys : ∀ key ∈ runtimeOverrideKeys, PlainName key := by
  unfold runtimeOverrideKeys
  repeat refine List.forall_mem_cons.mpr ⟨plainName_ofList (by decide), ?_⟩
  exact List.forall_mem_nil _

theorem overrideIniText_of_rendered (h : Rendered payload) :
    overrideIniText payload = .ok (sectionText runtimeOverrideSection payload.entries) :=
  writeSection_plain _ fun option hoption => (h option hoption).2

theorem normalizedRuntimeOverrideItems_of_rendered (h : Rendered payload) :
    normalizedRuntimeOverrideItems payload.entries = payload := by
  have hfold : ∀ es ⊆ payload.entries, ∀ values : Dict String String,
      es.foldl (fun values item =>
        if strip item.1 ∈ runtimeOverrideKeys then values.set (strip item.1) (strip item.2) else values) values =
        es.foldl (fun values item => values.set item.1 item.2) values := by
    intro es hes
    induction es with
    | nil =>
      intro values
      rw [List.foldl_nil, List.foldl_nil]
    | cons option es ih =>
      intro values
      obtain ⟨hoption, hes⟩ := List.cons_subset.mp hes
      obtain ⟨hkey, hvalue⟩ := h option hoption
      have hkeyStrip := strip_eq_self_iff.mpr (plainName_runtimeOverrideKeys _ hkey).trimmed
      have hvalueStrip := strip_eq_self_iff.mpr hvalue.trimmed
      rw [List.foldl_cons, List.foldl_cons, hkeyStrip, hvalueStrip, if_pos hkey]
      exact ih hes _
  exact (hfold _ (List.Subset.refl _) _).trans (Dict.ofList_entries payload)

/-- The file gives back the values that were rendered into it. -/
theorem readRuntimeOverrideValues_text {path : String} (hpath : strip path ≠ "")
    (h : Rendered payload) {text : String} (htext : overrideIniText payload = .ok text) :
    readRuntimeOverrideValues path (.content (utf8 text)) = .ok payload := by
  have hplain : ∀ option ∈ payload.entries, PlainName option.1 ∧ Plain option.2 :=
    fun option hoption => ⟨plainName_runtimeOverrideKeys _ (h option hoption).1, (h option hoption).2⟩
  rw [overrideIniText_of_rendered h] at htext
  obtain rfl := Except.ok.inj htext
  have hname : PlainName runtimeOverrideSection := plainName_ofList (by decide)
  have hread := readText_sectionText hname (by decide) hplain payload.nodup
  rw [Dict.ofList_entries] at hread
  have hparser : overridesParser (.content (utf8 (sectionText runtimeOverrideSection payload.entries))) =
      some ⟨Dict.empty, Dict.empty.set runtimeOverrideSection payload⟩ := by
    unfold overridesParser
    dsimp only
    rw [fromUtf8_eq_some.mpr rfl]
    dsimp only
    rw [hread]
    dsimp only
    rw [Dict.get?_set_self]
    rfl
  rw [readRuntimeOverrideValues, if_neg hpath, hparser]
  dsimp only
  rw [items_section fun option hoption => (h option hoption).2]
  exact congrArg Except.ok (normalizedRuntimeOverrideItems_of_rendered h)

end VenusEvcharger.State
