import VenusEvcharger.State.RestoreReturns

/-!
# Integers of a restored service

A restored service can be written again, with one exception. Every integer that is restored comes from a literal, from a
float or from a text, so `str` writes it; but the snapshot adds two counts of a learning profile, and a sum may have one
digit more than its terms.
-/

namespace VenusEvcharger.State

open Library

/-- `str` writes the number. -/
def Writable (n : Nat) : Prop := n < 10 ^ maxStrDigits

theorem writable_of_le {m n : Nat} (h : m ≤ n) (hn : Writable n) : Writable m := lt_of_le_of_lt h hn

/-- Small numbers can be written. -/
theorem writable_of_lt_ten {n : Nat} (h : n < 10) : Writable n :=
  lt_of_lt_of_le h (Nat.le_self_pow (by decide) 10)

/-- The integers of the attributes can be written. -/
structure AttrsWritable (svc : RuntimeService) : Prop where
  virtualMode : Writable svc.basic.virtualMode
  virtualAutostart : Writable svc.basic.virtualAutostart.natAbs
  virtualEnable : Writable svc.basic.virtualEnable.natAbs
  virtualStartstop : Writable svc.basic.virtualStartstop.natAbs
  sampleCount : Writable svc.learned.sampleCount
  mismatchSessions : Writable svc.learned.signatureMismatchSessions
  mismatchCounts : ∀ e ∈ svc.phase.mismatchCounts.entries, Writable e.2
  faultCounts : ∀ e ∈ svc.contactor.faultCounts.entries, Writable e.2
  profiles : ∀ e ∈ svc.learningProfiles.entries, Writable e.2.sampleCount
  generation : Writable svc.autoApply.generation
  lastStableTuning : ∀ e ∈ svc.safety.lastStableTuning, e.2.printable
  conservativeTuning : ∀ e ∈ svc.safety.conservativeTuning, e.2.printable
  energy : ∀ e ∈ energyRuntimeState svc, e.2.printable

/-- Every field of the object can be written. -/
def Fields (object : JsonObject) : Prop := ∀ e ∈ object, e.2.printable

@[simp] theorem fields_nil : Fields [] := nofun

@[simp] theorem fields_cons (key : String) (v : Value) (object : JsonObject) :
    Fields ((key, v) :: object) ↔ v.printable ∧ Fields object := List.forall_mem_cons

@[simp] theorem fields_append (object more : JsonObject) : Fields (object ++ more) ↔ Fields object ∧ Fields more :=
  List.forall_mem_append

@[simp] theorem printable_object (object : JsonObject) : (Value.obj object).printable ↔ Fields object :=
  Value.printable_obj object

@[simp] theorem printable_integer (i : Int) : (Value.int i).printable ↔ Writable i.natAbs := Value.printable_int i

@[simp] theorem printable_ofFloat? (value : Option ℚ) : (ofFloat? value).printable := by
  cases value <;> rfl

@[simp] theorem printable_ofText? (text : Option String) : (ofText? text).printable := by
  cases text <;> rfl

@[simp] theorem printable_float (x : PyFloat) : (Value.float x).printable := rfl

@[simp] theorem printable_str (text : String) : (Value.str text).printable := rfl

@[simp] theorem printable_bool (b : Bool) : (Value.bool b).printable := rfl

theorem writable_flag (b : Bool) : Writable (if b = true then 1 else 0 : Int).natAbs :=
  writable_of_lt_ten (by cases b <;> decide)

theorem printable_countsValue {κ : Type} (text : κ → String) (counts : Dict κ Nat) :
    (countsValue text counts).printable ↔ ∀ e ∈ counts.entries, Writable e.2 := by
  rw [countsValue, Value.printable_obj, List.forall_mem_map]
  simp only [printable_integer, Int.natAbs_natCast]

theorem printable_supportedPhasesValue (phases : SupportedPhases) : (supportedPhasesValue phases).printable := by
  rw [supportedPhasesValue, Value.printable_list, List.forall_mem_map]
  exact fun _ _ => rfl

/-- Of a profile, the sum of the outcomes decides. -/
theorem fields_profile (profileKey : String) (profile : LearningProfile) :
    Fields (profile.snapshot profileKey) ↔ Writable profile.sampleCount := by
  have hle : profile.delaySamples ≤ profile.sampleCount ∧ profile.gainSamples ≤ profile.sampleCount ∧
      profile.overshootCount ≤ profile.sampleCount ∧ profile.settledCount ≤ profile.sampleCount := by
    unfold LearningProfile.sampleCount
    omega
  simp only [LearningProfile.snapshot, fields_cons, fields_nil, printable_str, printable_integer, Int.natAbs_natCast,
    printable_ofFloat?, true_and, and_true]
  exact ⟨fun h => h.1, fun h => ⟨h, writable_of_le hle.1 h, writable_of_le hle.2.1 h, writable_of_le hle.2.2.1 h,
    writable_of_le hle.2.2.2 h⟩⟩

section

variable (svc : RuntimeService)

theorem fields_base : Fields (baseRuntimeState svc) ↔ Writable svc.basic.virtualMode ∧
    Writable svc.basic.virtualAutostart.natAbs ∧ Writable svc.basic.virtualEnable.natAbs ∧
    Writable svc.basic.virtualStartstop.natAbs := by
  simp [baseRuntimeState, writable_flag]

theorem fields_learned : Fields (learnedChargePowerRuntimeState svc) ↔
    Writable svc.learned.sampleCount ∧ Writable svc.learned.signatureMismatchSessions := by
  simp [learnedChargePowerRuntimeState]

theorem fields_phaseSelection : Fields (phaseSelectionRuntimeState svc) := by
  simp [phaseSelectionRuntimeState, printable_supportedPhasesValue]

theorem fields_phaseSwitch (wall : ℚ) : Fields (phaseSwitchRuntimeState svc wall) ↔
    ∀ e ∈ svc.phase.mismatchCounts.entries, Writable e.2 := by
  rw [← printable_countsValue phaseText]
  simp [phaseSwitchRuntimeState, writable_flag]

theorem fields_contactor (wall : ℚ) : Fields (contactorRuntimeState svc wall) ↔
    ∀ e ∈ svc.contactor.faultCounts.entries, Writable e.2 := by
  rw [← printable_countsValue faultText]
  simp [contactorRuntimeState]

theorem fields_topologyHeader : Fields (topologyHeader svc) := by
  have h : Writable 2 := writable_of_lt_ten (by decide)
  simp [topologyHeader, h]

theorem fields_learning : Fields (runtimeLearningState svc) ↔
    ∀ e ∈ svc.learningProfiles.entries, Writable e.2.sampleCount := by
  rw [runtimeLearningState, fields_append, fields_cons, profilesValue, Value.printable_obj, List.forall_mem_map]
  simp only [fields_topologyHeader, printable_object, fields_profile, fields_nil, true_and, and_true]

theorem fields_adaptiveTuning : Fields (runtimeAdaptiveTuningState svc) ↔
    Writable svc.autoApply.generation ∧ Fields svc.safety.lastStableTuning ∧ Fields svc.safety.conservativeTuning := by
  simp [runtimeAdaptiveTuningState, fields_topologyHeader, runtimeTuningPayload, runtimeAutoApplyPayload,
    runtimeSafetyPayload]

/-- The snapshot can be written exactly when the attributes' integers can. -/
theorem printable_build (wall : ℚ) :
    (Value.obj (build svc wall)).printable ↔ AttrsWritable svc := by
  simp only [build, ownRuntimeState, printable_object, fields_append, fields_cons, fields_nil, fields_base,
    fields_learned, fields_phaseSelection, fields_phaseSwitch, fields_contactor, fields_learning, fields_adaptiveTuning]
  constructor
  · rintro ⟨⟨⟨⟨⟨⟨⟨hmode, hautostart, henable, hstartstop⟩, hsamples, hsessions⟩, -⟩, hmismatches⟩, hfaults⟩, hprofiles,
      ⟨hgeneration, hstable, hconservative⟩, -⟩, henergy⟩
    exact ⟨hmode, hautostart, henable, hstartstop, hsamples, hsessions, hmismatches, hfaults, hprofiles, hgeneration,
      hstable, hconservative, henergy⟩
  · intro h
    exact ⟨⟨⟨⟨⟨⟨⟨h.virtualMode, h.virtualAutostart, h.virtualEnable, h.virtualStartstop⟩, h.sampleCount,
      h.mismatchSessions⟩, trivial⟩, h.mismatchCounts⟩, h.faultCounts⟩, h.profiles,
      ⟨h.generation, h.lastStableTuning, h.conservativeTuning⟩, trivial⟩, h.energy⟩

end

/-! ## What is restored can be written -/

theorem two_pow_le_ten_pow {m n : Nat} (h : m ≤ n) : 2 ^ m ≤ 10 ^ n :=
  (Nat.pow_le_pow_left (by decide) m).trans (Nat.pow_le_pow_right (by decide) h)

/-- A float has at most as many digits before the point as the largest one. -/
theorem tdiv_writable {q : ℚ} (h : |q| < floatOverflow) : Writable (q.num.tdiv q.den).natAbs := by
  have hnum : (q.num.natAbs : ℚ) = |q| * q.den := by
    rw [Nat.cast_natAbs, Int.cast_abs, ← Rat.mul_den_eq_num q, abs_mul, Nat.abs_cast]
  have hlt : q.num.natAbs < floatOverflow * q.den := by
    have hden : (0 : ℚ) < q.den := Nat.cast_pos.mpr q.den_pos
    have := mul_lt_mul_of_pos_right h hden
    rw [← hnum] at this
    exact_mod_cast this
  have hdiv : (q.num.tdiv q.den).natAbs < floatOverflow := by
    rw [Int.natAbs_tdiv, Int.natAbs_natCast]
    exact Nat.div_lt_of_lt_mul (by rwa [mul_comm] at hlt)
  have hpow : floatOverflow ≤ 10 ^ maxStrDigits := by
    rw [floatOverflow]
    exact (Nat.sub_le _ _).trans (two_pow_le_ten_pow (by decide))
  exact lt_of_lt_of_le hdiv hpow

theorem recover_eq_ok {ε α : Type} {caught : ε → Bool} {default a : α} {r : Except ε α}
    (h : recover caught default r = .ok a) : a = default ∨ r = .ok a := by
  cases r with
  | ok b => exact .inr h
  | error error =>
    rw [recover] at h
    split at h
    · exact .inl (Except.ok.inj h).symm
    · cases h

variable [PyRuntime]

theorem toInt_writable {v : Value} (hv : v.decoded) {i : Int} (h : v.toInt = .ok i) : Writable i.natAbs := by
  cases v with
  | bool b =>
    obtain rfl := Except.ok.inj h
    exact writable_flag b
  | int j =>
    obtain rfl : j = i := Except.ok.inj h
    exact (Value.decoded_int j).mp hv
  | float x =>
    cases x with
    | fin q =>
      obtain rfl : q.num.tdiv q.den = i := Except.ok.inj h
      exact tdiv_writable (of_decide_eq_true hv)
    | nan | posInf | negInf => cases h
  | str s =>
    rw [Value.toInt] at h
    split at h
    · rename_i hparse
      obtain rfl := Except.ok.inj h
      exact PyRuntime.parseInt_lt s _ hparse
    · cases h
  | null | list vs | obj es => cases h

theorem normalizeMode_writable {v : Value} {mode : Nat} (h : normalizeMode v = .ok mode) : Writable mode := by
  obtain ⟨i, _, rfl⟩ := map_eq_ok.mp h
  refine writable_of_lt_ten ?_
  split
  · decide
  · split <;> decide

theorem coerceRuntimeInt_writable {v : Value} (hv : v.decoded) {default i : Int} (hdefault : Writable default.natAbs)
    (h : coerceRuntimeInt v default = .ok i) : Writable i.natAbs := by
  cases v with
  | str s | int j | float x =>
    simp only [coerceRuntimeInt] at h
    rcases recover_eq_ok h with rfl | h
    · exact hdefault
    · exact toInt_writable hv h
  | null | bool b | list vs | obj es =>
    obtain rfl : default = i := Except.ok.inj h
    exact hdefault

theorem nonNegativeInt_writable {v : Value} (hv : v.decoded) {default n : Nat} (hdefault : Writable default)
    (h : nonNegativeInt v default = .ok n) : Writable n := by
  cases v with
  | bool b =>
    obtain rfl : default = n := Except.ok.inj h
    exact hdefault
  | null | int i | float x | str s | list vs | obj es =>
    simp only [nonNegativeInt] at h
    rcases recover_eq_ok h with rfl | h
    · exact hdefault
    · obtain ⟨i, hi, rfl⟩ := map_eq_ok.mp h
      exact writable_of_le (by omega) (toInt_writable hv hi)

omit [PyRuntime] in
/-- A field of a document is a literal again. -/
theorem decoded_get {state : JsonObject} (h : (Value.obj state).decoded) {key : String} {default : Value}
    (hdefault : default.decoded) : (state.get key default).decoded := by
  unfold JsonObject.get
  cases hlookup : state.lookup key with
  | none => exact hdefault
  | some v =>
    obtain ⟨before, after, rfl, _⟩ := List.lookup_eq_some_iff.mp hlookup
    exact (Value.decoded_obj _).mp h (key, v) (by simp)

theorem restoreBasic_writable {basic basic' : BasicAttrs} {state : JsonObject} (hstate : (Value.obj state).decoded)
    (hautostart : Writable basic.virtualAutostart.natAbs) (henable : Writable basic.virtualEnable.natAbs)
    (hstartstop : Writable basic.virtualStartstop.natAbs) (h : restoreBasicRuntimeState basic state = .ok basic') :
    Writable basic'.virtualMode ∧ Writable basic'.virtualAutostart.natAbs ∧ Writable basic'.virtualEnable.natAbs ∧
      Writable basic'.virtualStartstop.natAbs := by
  simp only [restoreBasicRuntimeState, bind_eq_ok] at h
  obtain ⟨mode, hmode, autostart, hautostart', enable, henable', startstop, hstartstop', until_, _, cutover, _, h⟩ := h
  obtain rfl := Except.ok.inj h
  have hfield : ∀ key, (state.get key).decoded := fun key => decoded_get hstate rfl
  exact ⟨normalizeMode_writable hmode, coerceRuntimeInt_writable (hfield _) hautostart hautostart',
    coerceRuntimeInt_writable (hfield _) henable henable', coerceRuntimeInt_writable (hfield _) hstartstop hstartstop'⟩

omit [PyRuntime] in
theorem decoded_natCast {n : Nat} (h : Writable n) : (Value.int n).decoded := by
  rw [Value.decoded_int, Int.natAbs_natCast]
  exact h

theorem restoreLearned_writable {learned learned' : LearnedAttrs} {state : JsonObject} {now : ℚ}
    (hstate : (Value.obj state).decoded) (hcount : Writable learned.sampleCount)
    (hsessions : Writable learned.signatureMismatchSessions)
    (h : restoreLearnedChargePowerState learned state now = .ok learned') :
    Writable learned'.sampleCount ∧ Writable learned'.signatureMismatchSessions := by
  simp only [restoreLearnedChargePowerState, bind_eq_ok] at h
  obtain ⟨_, _, _, _, _, _, count, hcount', _, _, sessions, hsessions', _, _, h⟩ := h
  obtain rfl := Except.ok.inj h
  exact ⟨nonNegativeInt_writable (decoded_get hstate (decoded_natCast hcount)) (writable_of_lt_ten (by decide)) hcount',
    nonNegativeInt_writable (decoded_get hstate (decoded_natCast hsessions)) (writable_of_lt_ten (by decide)) hsessions'⟩

omit [PyRuntime] in
/-- The counts of a field are literals: those of the document, or those of the service. -/
theorem decoded_stringKeyItems {κ : Type} {state : JsonObject} (hstate : (Value.obj state).decoded) {text : κ → String}
    {counts : Dict κ Nat} (hcounts : ∀ e ∈ counts.entries, Writable e.2) (key : String) :
    ∀ e ∈ stringKeyItems (state.get key (countsValue text counts)), e.2.decoded := by
  have hvalue : (state.get key (countsValue text counts)).decoded := by
    refine decoded_get hstate ?_
    rw [countsValue, Value.decoded_obj, List.forall_mem_map]
    exact fun e he => decoded_natCast (hcounts e he)
  unfold stringKeyItems
  split
  · rename_i heq
    rw [heq] at hvalue
    exact (Value.decoded_obj _).mp hvalue
  · exact nofun

theorem mismatchCounts_writable {raw : Value} (hraw : ∀ e ∈ stringKeyItems raw, e.2.decoded) {default : PhaseSelection}
    {counts : Dict PhaseSelection Nat} (h : normalizedPhaseSwitchMismatchCounts raw default = .ok counts) :
    ∀ e ∈ counts.entries, Writable e.2 := by
  refine foldlM_keeps (I := fun counts => ∀ e ∈ Dict.entries counts, Writable e.2)
    (fun acc item hitem acc' hacc hstep => ?_) (by simp [Dict.empty]) h
  obtain ⟨n, hn, hstep⟩ := bind_eq_ok.mp hstep
  obtain rfl := Except.ok.inj hstep
  exact Dict.forall_entries_set hacc (nonNegativeInt_writable (hraw item hitem) (writable_of_lt_ten (by decide)) hn)

theorem faultCounts_writable {raw : Value} (hraw : ∀ e ∈ stringKeyItems raw, e.2.decoded)
    {counts : Dict ContactorFault Nat} (h : normalizedContactorFaultCounts raw = .ok counts) :
    ∀ e ∈ counts.entries, Writable e.2 := by
  refine foldlM_keeps (I := fun counts => ∀ e ∈ Dict.entries counts, Writable e.2)
    (fun acc item hitem acc' hacc hstep => ?_) (by simp [Dict.empty]) h
  split at hstep
  · obtain rfl := Except.ok.inj hstep
    exact hacc
  · obtain ⟨n, hn, rfl⟩ := map_eq_ok.mp hstep
    exact Dict.forall_entries_set hacc (nonNegativeInt_writable (hraw item hitem) (writable_of_lt_ten (by decide)) hn)

/-! ## The sums of the learning profiles -/

theorem normalizedLearningProfile_counts {profileKey : String} {raw : JsonObject} {profile : LearningProfile}
    (h : normalizedLearningProfile profileKey raw = .ok profile) :
    nonNegativeInt (raw.get "delay_samples") = .ok profile.delaySamples ∧
      nonNegativeInt (raw.get "gain_samples") = .ok profile.gainSamples ∧
      nonNegativeInt (raw.get "overshoot_count") = .ok profile.overshootCount ∧
      nonNegativeInt (raw.get "settled_count") = .ok profile.settledCount := by
  simp only [normalizedLearningProfile, bind_eq_ok] at h
  obtain ⟨_, hdelay, _, hgain, _, _, _, _, _, _, _, _, _, hovershoot, _, hsettled, _, _, _, _, _, _, _, _, _, _, _, _, h⟩ := h
  obtain rfl := Except.ok.inj h
  exact ⟨hdelay, hgain, hovershoot, hsettled⟩

/-- The raw profiles by key: of several entries with one key the last one counts. -/
def rawProfileOf (rawProfiles : JsonObject) : Dict String JsonObject :=
  Dict.ofList (rawProfiles.filterMap profileEntry)

theorem rel_normalizedLearningProfiles {rawProfiles : JsonObject} {profiles : Dict String LearningProfile}
    (h : normalizedLearningProfiles rawProfiles = .ok profiles) (key : String) :
    Option.Rel (fun profile raw => normalizedLearningProfile key raw = .ok profile) (profiles.get? key)
      ((rawProfileOf rawProfiles).get? key) := by
  suffices ∀ (entries : List (String × JsonObject)) (acc : Dict String LearningProfile) (raws : Dict String JsonObject),
      (∀ key, Option.Rel (fun profile raw => normalizedLearningProfile key raw = .ok profile) (acc.get? key)
        (raws.get? key)) →
      entries.foldlM (fun profiles entry => profiles.set entry.1 <$> normalizedLearningProfile entry.1 entry.2) acc =
        .ok profiles →
      Option.Rel (fun profile raw => normalizedLearningProfile key raw = .ok profile) (profiles.get? key)
        ((entries.foldl (fun acc p => acc.set p.1 p.2) raws).get? key) from
    this _ Dict.empty Dict.empty (fun _ => .none) h
  intro entries
  induction entries with
  | nil =>
    intro acc raws hrel hrun
    obtain rfl : acc = profiles := by simpa [pure, Except.pure] using hrun
    exact hrel key
  | cons entry entries ih =>
    intro acc raws hrel hrun
    rw [List.foldlM_cons, bind_eq_ok] at hrun
    obtain ⟨acc', hstep, hrun⟩ := hrun
    obtain ⟨profile, hprofile, rfl⟩ := map_eq_ok.mp hstep
    refine ih _ _ (fun other => ?_) hrun
    rw [Dict.get?_set, Dict.get?_set]
    split
    · subst other
      exact .some hprofile
    · exact hrel other

/-- The outcomes of every profile that the payload restores add up to a number that `str` writes. -/
def SumsWritable (payload : JsonObject) : Prop :=
  ∀ rawProfiles, payload.get "profiles" = .obj rawProfiles → ∀ e ∈ (rawProfileOf rawProfiles).entries,
    ∀ settled overshoot, nonNegativeInt (e.2.get "settled_count") = .ok settled →
      nonNegativeInt (e.2.get "overshoot_count") = .ok overshoot → Writable (settled + overshoot)

omit [PyRuntime] in
theorem decoded_rawProfileOf {payload rawProfiles : JsonObject} (hpayload : (Value.obj payload).decoded)
    (hraw : payload.get "profiles" = .obj rawProfiles) : ∀ e ∈ (rawProfileOf rawProfiles).entries,
    (Value.obj e.2).decoded := by
  have hprofiles : (Value.obj rawProfiles).decoded := hraw ▸ decoded_get hpayload rfl
  refine Dict.forall_entries_ofList fun e he => ?_
  obtain ⟨raw, hmem, hentry⟩ := List.mem_filterMap.mp he
  have hvalue := (Value.decoded_obj _).mp hprofiles raw hmem
  unfold profileEntry at hentry
  split at hentry
  · cases hentry
  · split at hentry
    · rename_i heq
      obtain rfl := Option.some.inj hentry
      exact heq ▸ hvalue
    · cases hentry

/-- The profiles that a payload restores can be written exactly when their sums can. -/
theorem profiles_writable_iff {payload rawProfiles : JsonObject} (hpayload : (Value.obj payload).decoded)
    (hraw : payload.get "profiles" = .obj rawProfiles) {profiles : Dict String LearningProfile}
    (h : normalizedLearningProfiles rawProfiles = .ok profiles) :
    (∀ e ∈ profiles.entries, Writable e.2.sampleCount) ↔ SumsWritable payload := by
  have hrel := rel_normalizedLearningProfiles h
  have hdecoded := decoded_rawProfileOf hpayload hraw
  constructor
  · rintro hwritable raws hraws ⟨key, raw⟩ hmem settled overshoot hsettled hovershoot
    obtain rfl : rawProfiles = raws := by simpa [hraw] using hraws
    have hget := Dict.mem_entries_iff.mp hmem
    have hkey := hrel key
    rw [hget] at hkey
    cases hprofile : profiles.get? key with
    | none => simp [hprofile] at hkey
    | some profile =>
      rw [hprofile] at hkey
      obtain ⟨hnormalized⟩ := hkey
      obtain ⟨_, _, hovershoot', hsettled'⟩ := normalizedLearningProfile_counts hnormalized
      obtain rfl : settled = profile.settledCount := Except.ok.inj (hsettled.symm.trans hsettled')
      obtain rfl : overshoot = profile.overshootCount := Except.ok.inj (hovershoot.symm.trans hovershoot')
      have hprofiles := hwritable (key, profile) (Dict.mem_entries_iff.mpr hprofile)
      exact writable_of_le (le_max_right _ _) hprofiles
  · rintro hsums ⟨key, profile⟩ hmem
    have hkey := hrel key
    rw [Dict.mem_entries_iff.mp hmem] at hkey
    cases hget : (rawProfileOf rawProfiles).get? key with
    | none => simp [hget] at hkey
    | some raw =>
      rw [hget] at hkey
      obtain ⟨hnormalized⟩ := hkey
      have hentry := Dict.mem_entries_iff.mpr hget
      obtain ⟨hdelay, hgain, hovershoot, hsettled⟩ := normalizedLearningProfile_counts hnormalized
      have hfield : ∀ name, (raw.get name).decoded := fun name => decoded_get (hdecoded (key, raw) hentry) rfl
      have hten : Writable 0 := writable_of_lt_ten (by decide)
      have hsum := hsums rawProfiles hraw (key, raw) hentry _ _ hsettled hovershoot
      unfold LearningProfile.sampleCount
      exact max_lt (max_lt (nonNegativeInt_writable (hfield _) hten hdelay)
        (nonNegativeInt_writable (hfield _) hten hgain)) hsum

/-! ## The restored service -/

/-- The learning payload that is applied has sums that `str` writes. -/
def LearningSums (topology : EssTopology) (state : JsonObject) : Prop :=
  ∀ payload, state.get "victron_ess_balance_learning_state" = .obj payload → PayloadApplies topology payload →
    SumsWritable payload

omit [PyRuntime] in
theorem decoded_payload {state payload : JsonObject} (hstate : (Value.obj state).decoded) {key : String}
    (h : state.get key = .obj payload) : (Value.obj payload).decoded :=
  h ▸ decoded_get hstate rfl

theorem restoreLearningStatePayload_writable {topology : EssTopology} {profiles profiles' : Dict String LearningProfile}
    {payload : JsonObject} (hpayload : (Value.obj payload).decoded)
    (hprofiles : ∀ e ∈ profiles.entries, Writable e.2.sampleCount)
    (h : restoreLearningStatePayload topology profiles payload = .ok profiles') :
    (∀ e ∈ profiles'.entries, Writable e.2.sampleCount) ↔ (PayloadApplies topology payload → SumsWritable payload) := by
  rw [restoreLearningStatePayload, bind_eq_ok] at h
  obtain ⟨valid, hvalid, h⟩ := h
  by_cases happlies : PayloadApplies topology payload
  · have hcond : (valid && payloadMatchesTopology topology payload) = true := by
      have hboth : valid = true := Except.ok.inj (hvalid.symm.trans happlies.1)
      rw [hboth, happlies.2]
      rfl
    rw [if_pos hcond] at h
    rw [forall_prop_of_true happlies]
    split at h
    · rename_i rawProfiles hraw
      exact profiles_writable_iff hpayload hraw h
    · -- without an object the profiles stay, and there is nothing to add up
      rename_i hnone
      cases h
      exact iff_of_true hprofiles fun rawProfiles hraw => absurd hraw (hnone rawProfiles)
  · have hcond : ¬ (valid && payloadMatchesTopology topology payload) = true := by
      intro hboth
      rw [Bool.and_eq_true] at hboth
      exact happlies ⟨hboth.1 ▸ hvalid, hboth.2⟩
    rw [if_neg hcond] at h
    cases h
    exact iff_of_true hprofiles fun hother => absurd hother happlies

/-- The profiles of the restored service can be written exactly when the sums of the document can. -/
theorem restoreLearningState_writable {svc svc' : RuntimeService} {state : JsonObject}
    (hstate : (Value.obj state).decoded) (hprofiles : ∀ e ∈ svc.learningProfiles.entries, Writable e.2.sampleCount)
    (h : restoreLearningState svc state = .ok svc') :
    (∀ e ∈ svc'.learningProfiles.entries, Writable e.2.sampleCount) ↔ LearningSums svc.topology state := by
  unfold restoreLearningState at h
  unfold LearningSums
  split at h
  · rename_i payload hpayload
    obtain ⟨profiles, hrestored, rfl⟩ := map_eq_ok.mp h
    rw [restoreLearningStatePayload_writable (decoded_payload hstate hpayload) hprofiles hrestored]
    constructor
    · intro hsums other hother
      obtain rfl : payload = other := by
        rw [hpayload] at hother
        exact Value.obj.inj hother
      exact hsums
    · intro hsums
      exact hsums payload hpayload
  · rename_i hnone
    cases h
    exact iff_of_true hprofiles fun payload hpayload => absurd hpayload (hnone payload)

omit [PyRuntime] in
/-- The entries of a decoded field can be written. -/
theorem printable_stringKeyItems {v : Value} (hv : v.decoded) : ∀ e ∈ stringKeyItems v, e.2.printable := by
  cases v with
  | obj es =>
    intro e he
    exact Value.printable_of_decoded ((Value.decoded_obj es).mp hv e he)
  | null | bool b | int i | float x | str s | list vs => exact fun e he => absurd he List.not_mem_nil

/-- The tuning payload leaves integers that can be written, and nothing else changes. -/
theorem restoreAdaptiveTuningState_writable {svc svc' : RuntimeService} {state : JsonObject}
    (hstate : (Value.obj state).decoded) (hgeneration : Writable svc.autoApply.generation)
    (hstable : ∀ e ∈ svc.safety.lastStableTuning, e.2.printable)
    (hconservative : ∀ e ∈ svc.safety.conservativeTuning, e.2.printable)
    (h : restoreAdaptiveTuningState svc state = .ok svc') :
    svc' = { svc with tuning := svc'.tuning, autoApply := svc'.autoApply, safety := svc'.safety } ∧
      Writable svc'.autoApply.generation ∧ (∀ e ∈ svc'.safety.lastStableTuning, e.2.printable) ∧
      ∀ e ∈ svc'.safety.conservativeTuning, e.2.printable := by
  unfold restoreAdaptiveTuningState at h
  split at h
  · rename_i payload hpayload
    have hdecoded := decoded_payload hstate hpayload
    rw [restoreAdaptiveTuningPayload, bind_eq_ok] at h
    obtain ⟨valid, -, h⟩ := h
    split at h
    · simp only [bind_eq_ok] at h
      obtain ⟨tuning, -, autoApply, hautoApply, safety, hsafety, h⟩ := h
      cases h
      simp only [restoreAutoApplyState, bind_eq_ok] at hautoApply
      obtain ⟨generation, hrestored, _, _, _, _, _, _, hautoApply⟩ := hautoApply
      cases hautoApply
      simp only [restoreSafetyState, bind_eq_ok] at hsafety
      obtain ⟨_, _, _, _, _, _, hsafety⟩ := hsafety
      cases hsafety
      exact ⟨rfl, nonNegativeInt_writable (decoded_get hdecoded rfl) hgeneration hrestored,
        printable_stringKeyItems (decoded_get hdecoded rfl), printable_stringKeyItems (decoded_get hdecoded rfl)⟩
    · cases h
      exact ⟨rfl, hgeneration, hstable, hconservative⟩
  · cases h
    exact ⟨rfl, hgeneration, hstable, hconservative⟩

/-- A service that is restored from a decoded document can be written exactly when the sums of its learning payload
can. -/
theorem restore_writable {svc svc' : RuntimeService} {state : JsonObject} {now : ℚ} (hstate : (Value.obj state).decoded)
    (hsvc : AttrsWritable svc) (h : restore svc state now = .ok svc') :
    AttrsWritable svc' ↔ LearningSums svc.topology state := by
  simp only [restore, bind_eq_ok] at h
  obtain ⟨basic, hbasic, learned, hlearned, phase, hphase, contactor, hcontactor, relay, -, between, hlearning, htuning⟩ := h
  obtain ⟨hmode, hautostart, henable, hstartstop⟩ :=
    restoreBasic_writable hstate hsvc.virtualAutostart hsvc.virtualEnable hsvc.virtualStartstop hbasic
  obtain ⟨hsamples, hsessions⟩ := restoreLearned_writable hstate hsvc.sampleCount hsvc.mismatchSessions hlearned
  have hmismatches : ∀ e ∈ phase.mismatchCounts.entries, Writable e.2 := by
    simp only [restorePhaseSwitchRuntimeState, bind_eq_ok] at hphase
    obtain ⟨_, _, _, _, _, _, counts, hcounts, _, _, _, _, _, _, hphase⟩ := hphase
    have hwritable := mismatchCounts_writable
      (decoded_stringKeyItems hstate hsvc.mismatchCounts "phase_switch_mismatch_counts") hcounts
    cases hphase
    unfold clearIdleSwitch
    split
    · exact hwritable
    · exact hwritable
  have hfaults : ∀ e ∈ contactor.faultCounts.entries, Writable e.2 := by
    simp only [restoreContactorRuntimeState, bind_eq_ok] at hcontactor
    obtain ⟨counts, hcounts, _, _, _, _, hcontactor⟩ := hcontactor
    cases hcontactor
    exact faultCounts_writable (decoded_stringKeyItems hstate hsvc.faultCounts "contactor_fault_counts") hcounts
  have hbefore : ∀ e ∈ ({ svc with basic, learned, phase, contactor, relay } : RuntimeService).learningProfiles.entries,
      Writable e.2.sampleCount := hsvc.profiles
  have hprofiles := restoreLearningState_writable hstate hbefore hlearning
  have hbetween := restoreLearningState_topology hlearning
  obtain ⟨hsame, hgeneration, hstable, hconservative⟩ := restoreAdaptiveTuningState_writable hstate
    (hbetween ▸ hsvc.generation) (hbetween ▸ hsvc.lastStableTuning) (hbetween ▸ hsvc.conservativeTuning) htuning
  refine Iff.trans ?_ hprofiles
  constructor
  · intro hafter
    have hkept := hafter.profiles
    rw [hsame] at hkept
    exact hkept
  · intro hafter
    rw [hsame, hbetween]
    exact ⟨hmode, hautostart, henable, hstartstop, hsamples, hsessions, hmismatches, hfaults, hafter, hgeneration, hstable,
      hconservative, hsvc.energy⟩

end VenusEvcharger.State
