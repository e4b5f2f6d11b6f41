import VenusEvcharger.Python.ConfigParser
import VenusEvcharger.State.Persistence

/-!
# The runtime-overrides file

`RuntimeOverrideStore.apply_to_config`: the options of the section `RuntimeOverrides` that name a runtime setting replace
the values of the configuration. Errors of reading the file are caught, errors of reading and of setting a value are not.

Scope: the file is read as UTF-8. The attributes that `apply_to_config` sets are one record; its serialized text is
represented by the values it is the text of.
-/

namespace VenusEvcharger.State

open Library

/-- The configuration keys of `RUNTIME_OVERRIDE_SPECS`, those of the policy settings included. -/
def runtimeOverrideKeys : List String :=
  ["Mode", "AutoStart", "SetCurrent", "MinCurrent", "MaxCurrent", "PhaseSelection", "AutoStartSurplusWatts",
    "AutoStopSurplusWatts", "AutoMinSoc", "AutoResumeSoc", "AutoStartDelaySeconds", "AutoStopDelaySeconds",
    "AutoScheduledEnabledDays", "AutoScheduledNightStartDelaySeconds", "AutoScheduledLatestEndTime",
    "AutoScheduledNightCurrentAmps", "AutoDbusBackoffBaseSeconds", "AutoDbusBackoffMaxSeconds",
    "AutoGridRecoveryStartSeconds", "AutoStopSurplusDelaySeconds", "AutoStopSurplusVolatilityLowWatts",
    "AutoStopSurplusVolatilityHighWatts", "AutoReferenceChargePowerWatts", "AutoLearnChargePower",
    "AutoLearnChargePowerMinWatts", "AutoLearnChargePowerAlpha", "AutoLearnChargePowerStartDelaySeconds",
    "AutoLearnChargePowerWindowSeconds", "AutoLearnChargePowerMaxAgeSeconds", "AutoPhaseSwitching",
    "AutoPhasePreferLowestWhenIdle", "AutoPhaseUpshiftDelaySeconds", "AutoPhaseDownshiftDelaySeconds",
    "AutoPhaseUpshiftHeadroomWatts", "AutoPhaseDownshiftMarginWatts", "AutoPhaseMismatchRetrySeconds",
    "AutoPhaseMismatchLockoutCount", "AutoPhaseMismatchLockoutSeconds"]

/-- `RUNTIME_OVERRIDE_SECTION`. -/
def runtimeOverrideSection : String := "RuntimeOverrides"

/-- The attributes that `apply_to_config` sets. -/
structure OverrideAttrs where
  runtimeOverridesPath : String
  active : Bool
  values : Dict String String

/-- `runtime_overrides_path`. -/
def runtimeOverridesPath (config : ConfigParser) : Except PyError String := do
  let deviceInstance ← config.get ConfigParser.defaultSection "DeviceInstance" "60"
  let suffix := if strip deviceInstance = "" then "60" else strip deviceInstance
  let path ← config.get ConfigParser.defaultSection "RuntimeOverridesPath"
    ("/run/dbus-venus-evcharger-overrides-" ++ suffix ++ ".ini")
  return strip path

/-- `parser.read(path)` and `has_section`: the parser, unless the file cannot be read or lacks the section. -/
def overridesParser (file : FileRead) : Option ConfigParser :=
  match file with
  | .missing | .unreadable => none
  | .content bytes =>
    match fromUtf8 bytes with
    | none => none
    | some text =>
      match ConfigParser.readText text with
      | .error _ => none
      | .ok parser => if (parser.sections.get? runtimeOverrideSection).isSome then some parser else none

/-- `_normalized_runtime_override_section_items`. -/
def normalizedRuntimeOverrideItems (items : List (String × String)) : Dict String String :=
  items.foldl (fun values item =>
    if strip item.1 ∈ runtimeOverrideKeys then values.set (strip item.1) (strip item.2) else values) Dict.empty

/-- `_read_runtime_override_values`. -/
def readRuntimeOverrideValues (path : String) (file : FileRead) : Except PyError (Dict String String) :=
  if strip path = "" then .ok Dict.empty
  else
    match overridesParser file with
    | none => .ok Dict.empty
    | some parser => normalizedRuntimeOverrideItems <$> parser.items runtimeOverrideSection

/-- `apply_to_config`, where `files` is the file system. -/
def applyToConfig (config : ConfigParser) (files : String → FileRead) :
    Except PyError (ConfigParser × OverrideAttrs) := do
  let path ← runtimeOverridesPath config
  let values ← readRuntimeOverrideValues path (files path)
  let config ← values.entries.foldlM (fun config item => config.setDefault item.1 item.2) config
  return (config, { runtimeOverridesPath := path, active := decide (values.length ≠ 0), values })

/-! ## Option names -/

namespace OptionNames

open ConfigParser

/-- Every option name that the reader knows is stripped. -/
structure Stripped (r : Reading) : Prop where
  defaults : ∀ key ∈ r.defaults.keys, strip key = key
  sections : ∀ sectname options, r.sections.get? sectname = some options → ∀ key ∈ options.keys, strip key = key
  optname : ∀ key ∈ r.optname, strip key = key

theorem mem_keys_set {ν : Type} {options : Dict String ν} {key name : String} {value : ν}
    (h : key ∈ (options.set name value).keys) : key = name ∨ key ∈ options.keys := by
  obtain ⟨v, hv⟩ := Dict.mem_keys_iff.mp h
  rw [Dict.get?_set] at hv
  split at hv
  · exact .inl ‹_›
  · exact .inr (Dict.mem_keys_iff.mpr ⟨v, hv⟩)

variable {r : Reading}

theorem Stripped.setOption (hr : Stripped r) {name : String} (hname : strip name = name)
    (sectname : String) (lines : List String) : Stripped (r.setOption sectname name lines) := by
  unfold Reading.setOption
  split
  · refine ⟨fun key hkey => ?_, hr.sections, hr.optname⟩
    rcases mem_keys_set hkey with rfl | hkey
    · exact hname
    · exact hr.defaults key hkey
  · refine ⟨hr.defaults, fun other options hoptions key hkey => ?_, hr.optname⟩
    rw [Dict.get?_set] at hoptions
    split at hoptions
    · obtain rfl := Option.some.inj hoptions
      rcases mem_keys_set hkey with rfl | hkey
      · exact hname
      · unfold Dict.getD at hkey
        cases hold : r.sections.get? sectname with
        | none => simp [hold, Dict.keys, Dict.empty] at hkey
        | some old => exact hr.sections sectname old hold key (by simpa [hold] using hkey)
    · exact hr.sections other options hoptions key hkey

theorem Stripped.append (hr : Stripped r) (line : String) : Stripped (r.append line) := by
  unfold Reading.append
  split
  · rename_i sectname name hsect hname
    split
    · exact hr
    · exact hr.setOption (hr.optname name hname) _ _
  · exact hr

theorem Stripped.openSection {r' : Reading} (hr : Stripped r) {sectname : String}
    (h : r.openSection sectname = .ok r') : Stripped r' := by
  unfold Reading.openSection at h
  split at h
  · split at h
    · cases h
    · cases h
      exact ⟨hr.defaults, hr.sections, nofun⟩
  · split at h
    · cases h
      exact ⟨hr.defaults, hr.sections, nofun⟩
    · cases h
      refine ⟨hr.defaults, fun other options hoptions key hkey => ?_, nofun⟩
      rw [Dict.get?_set] at hoptions
      split at hoptions
      · obtain rfl := Option.some.inj hoptions
        simp [Dict.keys, Dict.empty] at hkey
      · exact hr.sections other options hoptions key hkey

theorem strip_optionLine {value : List Char} {name text : String} (h : optionLine value = some (name, text)) :
    strip name = name := by
  unfold optionLine at h
  split at h
  · cases h
  · cases h
    exact strip_strip _

theorem Stripped.readOption {r' : Reading} (hr : Stripped r) {value : String} (h : r.readOption value = .ok r') :
    Stripped r' := by
  unfold Reading.readOption at h
  split at h
  · exact hr.openSection h
  · cases h
  · split at h
    · cases h
      exact ⟨hr.defaults, hr.sections, hr.optname⟩
    · rename_i name text hline
      split at h
      · cases h
      · cases h
        have hname := strip_optionLine hline
        refine ⟨(hr.setOption hname _ [text]).defaults, (hr.setOption hname _ [text]).sections, fun key hkey => ?_⟩
        obtain rfl : name = key := Option.some.inj hkey
        exact hname

theorem Stripped.readLine {r' : Reading} (hr : Stripped r) {line : List Char} (h : r.readLine line = .ok r') :
    Stripped r' := by
  simp only [Reading.readLine] at h
  split at h
  · cases h
    exact hr
  · split at h
    · cases h
      exact hr.append ""
    · split at h
      · cases h
        exact hr.append _
      · have hindent : Stripped { r with indentLevel := (line.takeWhile isSpace).length } :=
          ⟨hr.defaults, hr.sections, hr.optname⟩
        exact hindent.readOption h

theorem strip_options {text sectname : String} {parser : ConfigParser} (h : readText text = .ok parser) :
    ∀ key ∈ parser.options sectname, strip key = key := by
  rw [readText, bind_eq_ok] at h
  obtain ⟨r, hr, h⟩ := h
  have hstripped : Stripped r := by
    refine foldlM_keeps (fun acc line _ acc' hacc hline => hacc.readLine hline) ⟨?_, ?_, ?_⟩ hr
    · simp [Dict.keys, Dict.empty]
    · simp
    · simp
  split at h
  · cases h
  · cases h
    intro key hkey
    obtain ⟨value, hvalue⟩ := Dict.mem_keys_iff.mp hkey
    rw [Dict.get?_update] at hvalue
    cases hdefault : r.defaults.get? key with
    | some lines => exact hstripped.defaults key (Dict.mem_keys_iff.mpr ⟨lines, hdefault⟩)
    | none =>
      cases hsection : r.sections.get? sectname with
      | none => simp [Reading.joined, hdefault, Dict.getD, hsection] at hvalue
      | some options =>
        refine hstripped.sections sectname options hsection key (Dict.mem_keys_iff.mpr ?_)
        cases hlines : options.get? key with
        | none => simp [Reading.joined, hdefault, Dict.getD, hsection, hlines] at hvalue
        | some lines => exact ⟨lines, rfl⟩

end OptionNames

/-! ## When the overrides are applied -/

/-- The overrides can be applied: every option of the section can be interpolated, those of the default section
included, and what a runtime setting interpolates to has no bare `%` again. -/
def OverridesApply (file : FileRead) : Prop :=
  ∀ parser ∈ overridesParser file, ∀ key ∈ parser.options runtimeOverrideSection,
    ∃ value, ConfigParser.beforeGet (parser.unified runtimeOverrideSection)
        ((parser.unified runtimeOverrideSection key).getD "") = .ok value ∧
      (key ∈ runtimeOverrideKeys → ConfigParser.settable (strip value) = true)

/-- The values that the items of distinct stripped options give. -/
theorem get?_normalizedRuntimeOverrideItems {items : List (String × String)}
    (hstrip : ∀ item ∈ items, strip item.1 = item.1) (hnodup : (items.map Prod.fst).Nodup) (key value : String) :
    (normalizedRuntimeOverrideItems items).get? key = some value ↔
      key ∈ runtimeOverrideKeys ∧ ∃ raw, (key, raw) ∈ items ∧ strip raw = value := by
  induction items using List.reverseRecOn with
  | nil => simp [normalizedRuntimeOverrideItems]
  | append_singleton items item ih =>
    rw [List.map_append, List.nodup_append] at hnodup
    have ih := ih (fun item hitem => hstrip item (List.mem_append_left _ hitem)) hnodup.1
    have hitem := hstrip item (by simp)
    have hfresh : ∀ raw, (item.1, raw) ∉ items := fun raw hraw =>
      hnodup.2.2 item.1 (List.mem_map.mpr ⟨_, hraw, rfl⟩) item.1 (by simp) rfl
    have hstep : normalizedRuntimeOverrideItems (items ++ [item]) =
        if item.1 ∈ runtimeOverrideKeys then (normalizedRuntimeOverrideItems items).set item.1 (strip item.2)
        else normalizedRuntimeOverrideItems items := by
      rw [normalizedRuntimeOverrideItems, List.foldl_append, ← normalizedRuntimeOverrideItems]
      simp [hitem]
    rw [hstep]
    obtain ⟨name, raw⟩ := item
    by_cases hkey : key = name
    · subst hkey
      by_cases hknown : key ∈ runtimeOverrideKeys
      · simp [hknown, hfresh]
      · simp [hknown, ih]
    · by_cases hknown : name ∈ runtimeOverrideKeys
      · simp [hknown, Dict.get?_set_ne _ _ hkey, ih, hkey]
      · simp [hknown, ih, hkey]

theorem returns_setDefaults (values : Dict String String) (config : ConfigParser) :
    Returns (values.entries.foldlM (fun config item => config.setDefault item.1 item.2) config) ↔
      ∀ key value, values.get? key = some value → ConfigParser.settable value = true := by
  rw [returns_foldlM (P := fun item => ConfigParser.settable item.2 = true)]
  · exact ⟨fun h key value hvalue => h (key, value) (Dict.mem_entries_iff.mpr hvalue),
      fun h item hitem => h item.1 item.2 (Dict.mem_entries_iff.mp hitem)⟩
  · intro config item _
    unfold ConfigParser.setDefault
    split <;> simp_all

/-- The items of a section are its options, each with what it interpolates to. -/
theorem items_eq_ok {parser : ConfigParser} {sectname : String} {items : List (String × String)}
    (h : parser.items sectname = .ok items) :
    items.map Prod.fst = parser.options sectname ∧
      ∀ key raw, (key, raw) ∈ items ↔ key ∈ parser.options sectname ∧
        ConfigParser.beforeGet (parser.unified sectname) ((parser.unified sectname key).getD "") = .ok raw := by
  refine ⟨map_of_mapM (fun key item hitem => ?_) h, fun key raw => ?_⟩
  · obtain ⟨raw, _, rfl⟩ := map_eq_ok.mp hitem
    rfl
  · rw [mem_of_mapM h]
    constructor
    · rintro ⟨name, hname, hitem⟩
      obtain ⟨value, hvalue, heq⟩ := map_eq_ok.mp hitem
      obtain ⟨rfl, rfl⟩ : name = key ∧ value = raw := by simpa using heq
      exact ⟨hname, hvalue⟩
    · rintro ⟨hkey, hraw⟩
      exact ⟨key, hkey, map_eq_ok.mpr ⟨raw, hraw, rfl⟩⟩

theorem nodup_options (parser : ConfigParser) (sectname : String) : (parser.options sectname).Nodup := Dict.nodup _

theorem strip_overridesParser {file : FileRead} {parser : ConfigParser} (h : parser ∈ overridesParser file) :
    ∀ key ∈ parser.options runtimeOverrideSection, strip key = key := by
  unfold overridesParser at h
  split at h
  · cases h
  · cases h
  · split at h
    · cases h
    · split at h
      · cases h
      · rename_i hread
        split at h
        · obtain rfl := Option.some.inj h
          exact OptionNames.strip_options hread
        · cases h

/-- The overrides file stops `apply_to_config` exactly when its overrides cannot be applied. -/
theorem returns_applyToConfig {config : ConfigParser} {path : String} (hpath : runtimeOverridesPath config = .ok path)
    (files : String → FileRead) :
    Returns (applyToConfig config files) ↔ (strip path ≠ "" → OverridesApply (files path)) := by
  have hvalues : Returns (applyToConfig config files) ↔
      ∃ values, readRuntimeOverrideValues path (files path) = .ok values ∧
        ∀ key value, values.get? key = some value → ConfigParser.settable value = true := by
    simp only [applyToConfig, hpath, returns_bind, Except.ok.injEq, exists_eq_left', returns_pure, and_true,
      exists_eq_ok, returns_setDefaults]
  rw [hvalues]
  unfold readRuntimeOverrideValues
  by_cases hblank : strip path = ""
  · simp [hblank]
  simp only [hblank, if_false, ne_eq, not_false_eq_true, forall_const]
  cases hparser : overridesParser (files path) with
  | none => simp [OverridesApply, hparser]
  | some parser =>
    simp only [OverridesApply, hparser, Option.mem_some_iff, forall_eq']
    have hget : ∀ items, parser.items runtimeOverrideSection = .ok items → ∀ key value,
        (normalizedRuntimeOverrideItems items).get? key = some value ↔
          key ∈ runtimeOverrideKeys ∧ ∃ raw, (key, raw) ∈ items ∧ strip raw = value := by
      intro items hitems key value
      obtain ⟨hnames, hmem⟩ := items_eq_ok hitems
      exact get?_normalizedRuntimeOverrideItems
        (fun item hitem => strip_overridesParser (Option.mem_def.mpr hparser) item.1 ((hmem item.1 item.2).mp hitem).1)
        (hnames ▸ nodup_options parser _) key value
    constructor
    · rintro ⟨values, hread, hset⟩ key hkey
      obtain ⟨items, hitems, rfl⟩ := map_eq_ok.mp hread
      obtain ⟨hnames, hmem⟩ := items_eq_ok hitems
      obtain ⟨⟨_, raw⟩, hraw, rfl⟩ := List.mem_map.mp (hnames.symm ▸ hkey)
      exact ⟨raw, ((hmem _ raw).mp hraw).2, fun hknown => hset _ _ ((hget items hitems _ _).mpr ⟨hknown, raw, hraw, rfl⟩)⟩
    · intro h
      have hreturns : Returns (parser.items runtimeOverrideSection) := returns_mapM.mpr fun key hkey => by
        obtain ⟨value, hvalue, _⟩ := h key hkey
        exact returns_map.mpr ⟨value, hvalue⟩
      obtain ⟨items, hitems⟩ := hreturns
      obtain ⟨hnames, hmem⟩ := items_eq_ok hitems
      refine ⟨normalizedRuntimeOverrideItems items, by rw [hitems]; rfl, fun key value hget' => ?_⟩
      obtain ⟨hknown, raw, hraw, rfl⟩ := (hget items hitems key value).mp hget'
      obtain ⟨hkey, hraw⟩ := (hmem key raw).mp hraw
      obtain ⟨value, hvalue, hset⟩ := h key hkey
      obtain rfl : raw = value := by simpa [hraw] using hvalue
      exact hset hknown

end VenusEvcharger.State
