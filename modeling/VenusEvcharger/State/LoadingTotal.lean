import VenusEvcharger.State.Overrides
import VenusEvcharger.State.SnapshotPrintable

/-!
# Which files stop the start

The runtime state is loaded, and the overrides are applied, before the service runs; what raises there stops every start.
`loading_total_iff` says which files do: a JSON text with a numeral that is too long or nested too deeply, a document with
a value beyond the conversions of its field, outcomes of a profile whose sum cannot be written, and an override that cannot
be interpolated or set. A file that cannot be read at all leaves the service as it is configured.
-/

namespace VenusEvcharger.State

open Library

section Loading

variable [PyRuntime]

/-- The fields of a document have values that are converted, and what is restored from it can be written. -/
structure DocumentLoads (topology : EssTopology) (document : JsonObject) : Prop where
  changedAt : (document.get runtimeStateChangedAtField).HasFloat
  fields : Restorable topology (semanticState document)
  sums : LearningSums topology (semanticState document)

/-- The text of a file is no JSON, or its numerals and its nesting are within the limits and its document loads. -/
def FileLoads (topology : EssTopology) (file : FileRead) : Prop :=
  ∀ bytes text, file = .content bytes → fromUtf8 bytes = some text →
    jsonLoads text ≠ .error .digits ∧ jsonLoads text ≠ .error .recursion ∧
      ∀ document, jsonLoads text = .ok (.obj document) → DocumentLoads topology document

/-- Neither file stops the start, and a file that cannot be read changes nothing. -/
structure LoadsTotally (svc : RuntimeService) (path : String) (file : FileRead) (at_ : LoadTime) (config : ConfigParser)
    (files : String → FileRead) : Prop where
  load : Returns (load svc path file at_)
  apply : Returns (applyToConfig config files)
  unreadable : readJsonObjectFile file = .ok none → State.load svc path file at_ = .ok (svc, none)
  unreadableOverrides : ∀ overridesPath, runtimeOverridesPath config = .ok overridesPath →
    overridesParser (files overridesPath) = none →
      applyToConfig config files = .ok (config, ⟨overridesPath, false, Dict.empty⟩)

/-! ## The runtime state -/

omit [PyRuntime] in
theorem returns_finiteNumber (v : Value) : Returns (finiteNumber v) ↔ v.HasFloat := by
  cases v with
  | int i =>
    rw [finiteNumber]
    by_cases hi : i.natAbs < floatOverflow
    · rw [if_pos hi]
      exact iff_of_true (returns_ok _) hi
    · rw [if_neg hi]
      exact iff_of_false (returns_error _) hi
  | float x =>
    cases x with
    | fin q => exact iff_of_true (returns_ok _) trivial
    | nan | posInf | negInf => exact iff_of_true (returns_ok _) trivial
  | null | bool b | str s | list vs | obj es => exact iff_of_true (returns_ok _) trivial

omit [PyRuntime] in
/-- The document without its event time is made of literals too. -/
theorem decoded_semanticState {document : JsonObject} (h : (Value.obj document).decoded) :
    (Value.obj (semanticState document)).decoded := by
  rw [Value.decoded_obj] at h ⊢
  intro e he
  exact h e (List.mem_of_mem_filter he)

/-- A document is loaded exactly when its fields are converted and the restored service can be written. -/
theorem returns_loadDocument {svc : RuntimeService} (hsvc : AttrsWritable svc) {document : JsonObject}
    (hdecoded : (Value.obj document).decoded) (at_ : LoadTime) :
    Returns (loadDocument svc document at_) ↔ DocumentLoads svc.topology document := by
  have hstate := decoded_semanticState hdecoded
  have hstatus : Returns (loadedStatus document at_.mtime (max 0 at_.clock)) ↔
      (document.get runtimeStateChangedAtField).HasFloat := by
    rw [loadedStatus, returns_map, validStateChangedAt, returns_map, returns_finiteNumber]
  rw [loadDocument]
  simp only [returns_bind, returns_pure, and_true, exists_and_right, exists_eq_ok, returns_compactJson, printable_build]
  rw [hstatus]
  constructor
  · rintro ⟨hchanged, restored, hrestored, hwritable⟩
    exact ⟨hchanged, (returns_restore svc _ _).mp ⟨restored, hrestored⟩, (restore_writable hstate hsvc hrestored).mp hwritable⟩
  · intro hloads
    obtain ⟨restored, hrestored⟩ := (returns_restore svc _ (max 0 at_.clock)).mpr hloads.fields
    exact ⟨hloads.changedAt, restored, hrestored, (restore_writable hstate hsvc hrestored).mpr hloads.sums⟩

theorem readJsonObjectFile_content {bytes : List UInt8} {text : String} (htext : fromUtf8 bytes = some text) :
    readJsonObjectFile (.content bytes) =
      match jsonLoads text with
      | .ok (.obj document) => .ok (some document)
      | .ok _ => .ok none
      | .error .decodeError => .ok none
      | .error .digits => .error .valueError
      | .error .recursion => .error .recursionError := by
  unfold readJsonObjectFile
  dsimp only
  generalize fromUtf8 bytes = read at htext ⊢
  subst htext
  rfl

/-- Reading the file returns, and gives nothing or the document of its text. -/
theorem readJsonObjectFile_cases (file : FileRead) :
    readJsonObjectFile file = .ok none ∨
      ∃ bytes text, file = .content bytes ∧ fromUtf8 bytes = some text ∧
        (jsonLoads text = .error .digits ∧ readJsonObjectFile file = .error .valueError ∨
          jsonLoads text = .error .recursion ∧ readJsonObjectFile file = .error .recursionError ∨
          ∃ document, jsonLoads text = .ok (.obj document) ∧ readJsonObjectFile file = .ok (some document)) := by
  cases file with
  | missing => exact .inl rfl
  | unreadable => exact .inl rfl
  | content bytes =>
    cases htext : fromUtf8 bytes with
    | none =>
      left
      rw [readJsonObjectFile, htext]
    | some text =>
      rw [readJsonObjectFile_content htext]
      cases hloads : jsonLoads text with
      | ok value =>
        cases value with
        | obj document => exact .inr ⟨bytes, text, rfl, htext, .inr (.inr ⟨document, hloads, rfl⟩)⟩
        | null | bool b | int i | float x | str s | list vs => exact .inl rfl
      | error error =>
        cases error with
        | decodeError => exact .inl rfl
        | digits => exact .inr ⟨bytes, text, rfl, htext, .inl ⟨hloads, rfl⟩⟩
        | recursion => exact .inr ⟨bytes, text, rfl, htext, .inr (.inl ⟨hloads, rfl⟩)⟩

/-- A file without a usable document leaves the service as it is. -/
theorem load_of_none (svc : RuntimeService) (path : String) {file : FileRead} (at_ : LoadTime)
    (h : readJsonObjectFile file = .ok none) : load svc path file at_ = .ok (svc, none) := by
  rw [load]
  by_cases hblank : strip path = ""
  · rw [if_pos hblank]
    rfl
  · rw [if_neg hblank, h]
    rfl

/-- The runtime-state file stops the start exactly when it cannot be loaded. -/
theorem returns_load {svc : RuntimeService} (hsvc : AttrsWritable svc) (path : String) (file : FileRead) (at_ : LoadTime) :
    Returns (load svc path file at_) ↔ (strip path ≠ "" → FileLoads svc.topology file) := by
  by_cases hblank : strip path = ""
  · rw [load, if_pos hblank]
    exact iff_of_true (returns_pure _) fun hpath => absurd hblank hpath
  rw [forall_prop_of_true hblank]
  rcases readJsonObjectFile_cases file with hnone | ⟨bytes, text, rfl, htext, hcases⟩
  · rw [load_of_none svc path at_ hnone]
    refine iff_of_true (returns_ok _) ?_
    rintro bytes text rfl htext
    rw [readJsonObjectFile_content htext] at hnone
    refine ⟨?_, ?_, ?_⟩
    · intro hdigits
      rw [hdigits] at hnone
      nomatch hnone
    · intro hrecursion
      rw [hrecursion] at hnone
      nomatch hnone
    · intro document hdocument
      rw [hdocument] at hnone
      nomatch hnone
  · have hfile : FileLoads svc.topology (.content bytes) ↔ (jsonLoads text ≠ .error .digits ∧
        jsonLoads text ≠ .error .recursion ∧
          ∀ document, jsonLoads text = .ok (.obj document) → DocumentLoads svc.topology document) := by
      constructor
      · intro hloads
        exact hloads bytes text rfl htext
      · intro hloads other otherText hother hotherText
        cases hother
        obtain rfl : text = otherText := Option.some.inj (htext.symm.trans hotherText)
        exact hloads
    rw [hfile, load, if_neg hblank]
    rcases hcases with ⟨hdigits, hread⟩ | ⟨hrecursion, hread⟩ | ⟨document, hdocument, hread⟩
    · rw [hread]
      exact iff_of_false (returns_error _) fun hloads => hloads.1 hdigits
    · rw [hread]
      exact iff_of_false (returns_error _) fun hloads => hloads.2.1 hrecursion
    · rw [hread]
      refine (returns_loadDocument hsvc (jsonLoads_decoded hdocument) at_).trans ?_
      rw [hdocument]
      constructor
      · intro hloads
        refine ⟨fun hdigits => (nomatch hdigits), fun hrecursion => (nomatch hrecursion), ?_⟩
        intro other hother
        cases hother
        exact hloads
      · intro hloads
        exact hloads.2.2 document rfl

/-! ## Both files -/

omit [PyRuntime] in
/-- Without overrides the configuration stays. -/
theorem applyToConfig_of_none {config : ConfigParser} {overridesPath : String}
    (hpath : runtimeOverridesPath config = .ok overridesPath) {files : String → FileRead}
    (h : overridesParser (files overridesPath) = none) :
    applyToConfig config files = .ok (config, ⟨overridesPath, false, Dict.empty⟩) := by
  have hvalues : readRuntimeOverrideValues overridesPath (files overridesPath) = .ok Dict.empty := by
    rw [readRuntimeOverrideValues, h]
    split <;> rfl
  rw [applyToConfig, hpath]
  show (readRuntimeOverrideValues overridesPath (files overridesPath) >>= _) = _
  rw [hvalues]
  rfl

/-- Both files are read without raising, and what cannot be read changes nothing, exactly when the document of the
runtime-state file loads and the overrides of the overrides file apply. -/
theorem loading_total_iff {svc : RuntimeService} (hsvc : AttrsWritable svc) {config : ConfigParser} {overridesPath : String}
    (hpath : runtimeOverridesPath config = .ok overridesPath) (path : String) (file : FileRead) (at_ : LoadTime)
    (files : String → FileRead) :
    LoadsTotally svc path file at_ config files ↔
      (strip path ≠ "" → FileLoads svc.topology file) ∧
        (strip overridesPath ≠ "" → OverridesApply (files overridesPath)) := by
  rw [← returns_load hsvc path file at_, ← returns_applyToConfig hpath files]
  constructor
  · intro h
    exact ⟨h.load, h.apply⟩
  · rintro ⟨hload, happly⟩
    refine ⟨hload, happly, load_of_none svc path at_, ?_⟩
    intro other hother hnone
    obtain rfl : overridesPath = other := Except.ok.inj (hpath.symm.trans hother)
    exact applyToConfig_of_none hpath hnone

end Loading

/-! ## Files of a service -/

section Samples

local instance loadingSampleRuntime : PyRuntime := PyRuntime.withoutNumerals

/-- A service as it is configured. -/
def configured : RuntimeService where
  basic := ⟨0, 0, 0, 0, 0, false, false⟩
  relay := ⟨none, none⟩
  learned := ⟨none, none, .unknown, none, 0, none, none, 0, none⟩
  phase := ⟨⟨.p1, []⟩, .p1, .p1, none, none, none, none, false, Dict.empty, none, none, none, "", none, none⟩
  contactor := ⟨Dict.empty, none, none, none, "", none⟩
  topology := ⟨"", []⟩
  learningProfiles := Dict.empty
  tuning := ⟨0, 0, 0, 0, 0, 0, "always"⟩
  autoApply := ⟨0, none, "", none, none, ""⟩
  safety := ⟨none, "", none, "", [], none, "", [], false, ""⟩
  workerSnapshot := []
  serialized := none
  changedAt := none

theorem attrsWritable_configured : AttrsWritable configured := by
  have hzero : Writable 0 := writable_of_lt_ten (by decide)
  refine ⟨hzero, hzero, hzero, hzero, hzero, hzero, ?_, ?_, ?_, hzero, ?_, ?_, ?_⟩
  · intro e he
    exact absurd he List.not_mem_nil
  · intro e he
    exact absurd he List.not_mem_nil
  · intro e he
    exact absurd he List.not_mem_nil
  · intro e he
    exact absurd he List.not_mem_nil
  · intro e he
    exact absurd he List.not_mem_nil
  · decide +kernel

/-- A configuration that leaves everything to the defaults. -/
def defaultConfig : ConfigParser := ⟨Dict.empty, Dict.empty⟩

/-- A state file that is no text does not stop the start. -/
theorem loading_total_truncated :
    LoadsTotally configured "/run/state.json" (.content [0xff]) ⟨0, 0, none⟩ defaultConfig fun _ => .missing := by
  refine (loading_total_iff attrsWritable_configured
    (show runtimeOverridesPath defaultConfig = .ok "/run/dbus-venus-evcharger-overrides-60.ini" by decide +kernel)
    "/run/state.json" (.content [0xff]) ⟨0, 0, none⟩ fun _ => .missing).mpr ⟨?_, ?_⟩
  · intro _ bytes text hbytes htext
    cases hbytes
    nomatch htext.symm.trans (show fromUtf8 [0xff] = none by decide +kernel)
  · intro _ parser hparser
    nomatch hparser

/-- An infinite number where an integer is wanted stops every start, and so does a bare percent sign in an override. -/
theorem infinite_autostart_stops_start :
    ¬ LoadsTotally configured "/run/state.json" (.content (utf8 "\x7b\"autostart\": Infinity\x7d")) ⟨0, 0, none⟩ defaultConfig
        (fun _ => .missing) ∧
      ¬ LoadsTotally configured "/run/state.json" .missing ⟨0, 0, none⟩ defaultConfig
        fun _ => .content (utf8 "[RuntimeOverrides]\nMode = 50%") := by
  constructor
  · intro h
    exact absurd h.load (by decide +kernel)
  · intro h
    exact absurd h.apply (by decide +kernel)

end Samples

end VenusEvcharger.State
