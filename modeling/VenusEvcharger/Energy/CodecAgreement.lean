import Mathlib.Data.List.TakeWhile
import VenusEvcharger.Energy.EnergyFormat
import VenusEvcharger.Library.Returns

/-!
# Agreement of the codecs

The words of the Python decoder and of the encoder, next to those of the helper. What is left between the decoders
is the positive clocks of the snapshot and the comparison of source ids after `str.strip`.
-/

namespace VenusEvcharger.Energy

open Library Library.Reader

/-! ## The measurements of the service -/

variable {value : Double} {label : String}

theorem nonNegativeFloat_iff : Binary.nonNegativeFloat value label = .ok () ↔ value.Clock := by
  unfold Binary.nonNegativeFloat Binary.finiteFloat Double.Clock
  by_cases hfinite : value.isFinite = true
  · rw [if_pos hfinite, ← Double.not_lt_iff hfinite Double.zero_isFinite]
    by_cases hneg : value < Double.zero <;> simp [hfinite, hneg, bind, Except.bind]
  · simp [hfinite, bind, Except.bind]

theorem optionalFiniteFloat_iff {value : Option Double} :
    Binary.optionalFiniteFloat value label = .ok () ↔ ∀ x ∈ value, x.isFinite = true := by
  cases value with
  | none => simp [Binary.optionalFiniteFloat]
  | some x => by_cases h : x.isFinite = true <;> simp [Binary.optionalFiniteFloat, Binary.finiteFloat, h]

theorem positiveFloat_iff :
    Binary.positiveFloat value label = .ok () ↔ value.isFinite = true ∧ ¬value ≤ Double.zero := by
  unfold Binary.positiveFloat Binary.finiteFloat
  by_cases hfinite : value.isFinite = true
  · by_cases hle : value ≤ Double.zero <;> simp [hfinite, hle, bind, Except.bind]
  · simp [hfinite, bind, Except.bind]

theorem unitFloat_iff :
    Binary.unitFloat value label = .ok () ↔
      value.isFinite = true ∧ Double.zero ≤ value ∧ value ≤ Double.one := by
  unfold Binary.unitFloat Binary.finiteFloat
  by_cases hfinite : value.isFinite = true
  · by_cases hunit : Double.zero ≤ value ∧ value ≤ Double.one <;> simp [hfinite, hunit, bind, Except.bind]
  · simp [hfinite, bind, Except.bind]

theorem textTuple_iff {value : List String} :
    Binary.textTuple value label = .ok () ↔ StrictIds value := by
  unfold Binary.textTuple StrictIds
  dsimp only
  split
  · rename_i hempty
    exact ⟨nofun, fun h => absurd hempty h.1⟩
  · rename_i hempty
    split
    · rename_i hnodup
      exact ⟨nofun, fun h => absurd h.2 hnodup⟩
    · rename_i hnodup
      exact ⟨fun _ => ⟨hempty, not_not.mp hnodup⟩, fun _ => rfl⟩

variable {m : Measurement}

theorem validateObservedValue_iff :
    Binary.validateObservedValue m = .ok () ↔ (m.status.contributes = true →
      m.value ≠ none ∧ ¬m.observedAt ≤ Double.zero ∧ ¬m.observedMonotonic ≤ Double.zero) := by
  unfold Binary.validateObservedValue
  split
  · rename_i h
    simp [h]
  · rename_i h
    simp only [Bool.not_eq_false] at h
    split
    · simp [*]
    · split
      · simp [*]
      · split <;> simp [*]

/-- The checks of the service accept a measurement or reject it, and do not change it. -/
theorem measuredValue_iff {result : Measurement} :
    Binary.measuredValue m = .ok result ↔ result = m ∧ (∀ value ∈ m.value, value.isFinite = true) ∧
      m.observedAt.Clock ∧ m.observedMonotonic.Clock ∧
      (m.confidence.isFinite = true ∧ Double.zero ≤ m.confidence ∧ m.confidence ≤ Double.one) ∧
      StrictIds m.sourceIds ∧ (m.status.contributes = true →
        m.value ≠ none ∧ ¬m.observedAt ≤ Double.zero ∧ ¬m.observedMonotonic ≤ Double.zero) := by
  have hresult : (pure m : Except String Measurement) = .ok result ↔ result = m := by
    rw [eq_comm (a := result)]
    exact Except.ok.injEq m result ▸ Iff.rfl
  unfold Binary.measuredValue
  rw [bind_unit_eq_ok, bind_unit_eq_ok, bind_unit_eq_ok, bind_unit_eq_ok, bind_unit_eq_ok, bind_unit_eq_ok, hresult,
    optionalFiniteFloat_iff, nonNegativeFloat_iff, nonNegativeFloat_iff, unitFloat_iff, textTuple_iff,
    validateObservedValue_iff]
  exact ⟨fun ⟨hvalue, hat, hmonotonic, hconfidence, hids, hobserved, hm⟩ =>
      ⟨hm, hvalue, hat, hmonotonic, hconfidence, hids, hobserved⟩,
    fun ⟨hm, hvalue, hat, hmonotonic, hconfidence, hids, hobserved⟩ =>
      ⟨hvalue, hat, hmonotonic, hconfidence, hids, hobserved, hm⟩⟩

theorem decodedStatus_iff {code : Nat} {status : MeasurementStatus} :
    Binary.decodedStatus code = .ok status ↔ code = status.code := by
  constructor
  · intro h
    unfold Binary.decodedStatus at h
    split at h <;> cases h <;> rfl
  · rintro rfl
    cases status <;> rfl

theorem decodedValue_iff {hasValue : Nat} {raw : Double} {value : Option Double} :
    Binary.decodedValue hasValue raw = .ok value ↔
      (hasValue = if value.isSome then 1 else 0) ∧ raw = value.getD raw := by
  constructor
  · intro h
    unfold Binary.decodedValue at h
    split at h
    · nomatch h
    · rename_i hmarker
      simp only [List.mem_cons, List.not_mem_nil, or_false, not_not] at hmarker
      obtain rfl := Except.ok.inj h
      rcases hmarker with rfl | rfl <;> exact ⟨rfl, rfl⟩
  · rintro ⟨rfl, hraw⟩
    cases value with
    | none => rfl
    | some x =>
      obtain rfl : raw = x := hraw
      rfl

theorem doubleBytes_double {value : Nat} (h : value < 256 ^ 8) : doubleBytes (Binary.double value) = beBytes 8 value := by
  rw [doubleBytes, Binary.double, UInt64.toNat_ofNat_of_lt' h]

theorem double_bits (x : Double) : Binary.double x.bits.toNat = x := by
  rw [Binary.double, UInt64.ofNat_toNat]

theorem takes_texts (count : Nat) : Takes (Reader.replicate count Binary.text) fun texts word =>
    (texts.length = count ∧ ∀ text ∈ texts, (utf8 text).length < 65536) ∧ word = (texts.map textBytes).flatten := by
  have hwords : ∀ texts words, List.Forall₂ (fun text word => (utf8 text).length < 65536 ∧ word = textBytes text)
      texts words ↔ (∀ text ∈ texts, (utf8 text).length < 65536) ∧ words = texts.map textBytes := by
    intro texts
    induction texts with
    | nil => simp
    | cons text texts ih =>
      intro words
      simp only [List.forall₂_cons_left_iff, ih, List.forall_mem_cons, List.map_cons]
      constructor
      · rintro ⟨-, -, ⟨hlength, rfl⟩, ⟨htexts, rfl⟩, rfl⟩
        exact ⟨⟨hlength, htexts⟩, rfl⟩
      · rintro ⟨⟨hlength, htexts⟩, rfl⟩
        exact ⟨_, _, ⟨hlength, rfl⟩, ⟨htexts, rfl⟩, rfl⟩
  refine ((takes_text _ _ _).replicate count).congr fun texts word => ?_
  constructor
  · rintro ⟨hcount, words, hforall, rfl⟩
    obtain ⟨htexts, rfl⟩ := (hwords _ _).mp hforall
    exact ⟨⟨hcount, htexts⟩, rfl⟩
  · rintro ⟨⟨hcount, htexts⟩, rfl⟩
    exact ⟨hcount, _, (hwords _ _).mpr ⟨htexts, rfl⟩, rfl⟩

/-- What follows the record of a measurement. -/
theorem takes_measurementOf (code hasValue value observedAt observedMonotonic confidence sourceCount : Nat) :
    Takes (Binary.measurementOf
        [code, hasValue, value, observedAt, observedMonotonic, confidence, sourceCount])
      fun m word => (m.Admissible ∧ StrictIds m.sourceIds) ∧
        (code = m.status.code ∧ (hasValue = if m.value.isSome then 1 else 0) ∧
          Binary.double value = m.value.getD (Binary.double value) ∧ m.observedAt = Binary.double observedAt ∧
          m.observedMonotonic = Binary.double observedMonotonic ∧ m.confidence = Binary.double confidence ∧
          m.sourceIds.length = sourceCount) ∧
        word = (m.sourceIds.map textBytes).flatten ++ textBytes m.reasonCode := by
  refine ((takes_lift _).check fun status => (takes_lift _).check fun value => (takes_require _ _).check fun _ =>
    (takes_texts sourceCount).word fun sourceIds => (takes_text _ _ _).word fun reasonCode =>
    takes_lift _).congr fun m word => ?_
  constructor
  · rintro ⟨status, hstatus, value, hvalue, -, hcount, sourceIds, ⟨rfl, htexts⟩, -, ⟨reasonCode, hreason, -,
      ⟨hmeasured, rfl⟩, rfl⟩, rfl⟩
    obtain ⟨rfl, hfinite, hat, hmonotonic, hconfidence, hids, hobserved⟩ := measuredValue_iff.mp hmeasured
    obtain ⟨hmarker, hraw⟩ := decodedValue_iff.mp hvalue
    exact ⟨⟨⟨hfinite, hat, hmonotonic, hconfidence, hcount, hobserved,
      List.forall_mem_cons.mpr ⟨hreason, htexts⟩⟩, hids⟩,
      ⟨decodedStatus_iff.mp hstatus, hmarker, hraw, rfl, rfl, rfl, rfl⟩, by simp⟩
  · obtain ⟨measured, observedAt', observedMonotonic', status, confidence', sourceIds, reasonCode⟩ := m
    rintro ⟨⟨⟨hfinite, hat, hmonotonic, hconfidence, hcount, hobserved, htexts⟩, hids⟩,
      ⟨hstatus, hmarker, hraw, rfl, rfl, rfl, rfl⟩, rfl⟩
    obtain ⟨hreason, htexts⟩ := List.forall_mem_cons.mp htexts
    refine ⟨status, decodedStatus_iff.mpr hstatus, measured, decodedValue_iff.mpr ⟨hmarker, hraw⟩, (), hcount,
      sourceIds, ⟨rfl, htexts⟩, _, ⟨reasonCode, hreason, [], ⟨?_, rfl⟩, (List.append_nil _).symm⟩, rfl⟩
    exact measuredValue_iff.mpr ⟨rfl, hfinite, hat, hmonotonic, hconfidence, hids, hobserved⟩

theorem takes_measurementOf_fields (fields : List Nat) :
    Takes (Binary.measurementOf fields) fun m word =>
      ∃ value observedAt observedMonotonic confidence, fields = [m.status.code, if m.value.isSome then 1 else 0,
        value, observedAt, observedMonotonic, confidence, m.sourceIds.length] ∧
      (m.Admissible ∧ StrictIds m.sourceIds) ∧
      (Binary.double value = m.value.getD (Binary.double value) ∧ m.observedAt = Binary.double observedAt ∧
        m.observedMonotonic = Binary.double observedMonotonic ∧ m.confidence = Binary.double confidence) ∧
      word = (m.sourceIds.map textBytes).flatten ++ textBytes m.reasonCode := by
  by_cases h : ∃ code hasValue value observedAt observedMonotonic confidence sourceCount,
      fields = [code, hasValue, value, observedAt, observedMonotonic, confidence, sourceCount]
  · obtain ⟨code, hasValue, value, observedAt, observedMonotonic, confidence, sourceCount, rfl⟩ := h
    refine (takes_measurementOf _ _ _ _ _ _ _).congr fun m word => ?_
    constructor
    · rintro ⟨hvalid, ⟨rfl, rfl, hraw, hat, hmonotonic, hconfidence, rfl⟩, rfl⟩
      exact ⟨value, observedAt, observedMonotonic, confidence, rfl, hvalid, ⟨hraw, hat, hmonotonic, hconfidence⟩,
        rfl⟩
    · rintro ⟨value', observedAt', observedMonotonic', confidence', hfields, hvalid,
        ⟨hraw, hat, hmonotonic, hconfidence⟩, rfl⟩
      simp only [List.cons.injEq, and_true] at hfields
      obtain ⟨hcode, hmarker, rfl, rfl, rfl, rfl, hcount⟩ := hfields
      exact ⟨hvalid, ⟨hcode, hmarker, hraw, hat, hmonotonic, hconfidence, hcount.symm⟩, rfl⟩
  · have hfail : Binary.measurementOf fields = fail "energy inputs binary payload has invalid wire value type" := by
      unfold Binary.measurementOf
      split
      · exact absurd ⟨_, _, _, _, _, _, _, rfl⟩ h
      · rfl
    rw [hfail]
    refine (takes_fail _).congr fun m word => ⟨False.elim, ?_⟩
    rintro ⟨value, observedAt, observedMonotonic, confidence, hfields, -⟩
    exact h ⟨_, _, _, _, _, _, _, hfields⟩

/-- The service takes the words of admissible measurements with ids as it wants them. -/
theorem takes_decodeMeasurement : Takes Binary.decodeMeasurement fun m word =>
    (m.Admissible ∧ StrictIds m.sourceIds) ∧ m.IsWord word := by
  refine ((takes_record _ _).word takes_measurementOf_fields).congr fun m word => ?_
  constructor
  · rintro ⟨-, hbounds, -, ⟨value, observedAt, observedMonotonic, confidence, rfl, hvalid,
      ⟨hraw, hat, hmonotonic, hconfidence⟩, rfl⟩, rfl⟩
    simp only [List.forall₂_cons] at hbounds
    obtain ⟨-, -, hvalue, hobservedAt, hobservedMonotonic, hconf, -⟩ := hbounds
    refine ⟨hvalid, Binary.double value, ?_⟩
    rw [Measurement.bytes, ← hraw, hat, hmonotonic, hconfidence, doubleBytes_double hvalue,
      doubleBytes_double hobservedAt, doubleBytes_double hobservedMonotonic, doubleBytes_double hconf]
    simp [recordBytes]
  · rintro ⟨⟨hadmissible, hids⟩, placeholder, rfl⟩
    have hraw : ∀ value : Option Double, Binary.double (value.getD placeholder).bits.toNat =
        value.getD (Binary.double (value.getD placeholder).bits.toNat) := by
      intro value
      rw [double_bits]
      cases value <;> rfl
    have hcode : m.status.code < 256 ^ 1 := by cases m.status <;> decide
    have hmarker : (if m.value.isSome then 1 else 0) < 256 ^ 1 := by split <;> decide
    have hcount : m.sourceIds.length < 256 ^ 2 := lt_of_le_of_lt hadmissible.count (by decide)
    refine ⟨_, .cons hcode (.cons hmarker (.cons (m.value.getD placeholder).bits.toNat_lt
      (.cons m.observedAt.bits.toNat_lt (.cons m.observedMonotonic.bits.toNat_lt
      (.cons m.confidence.bits.toNat_lt (.cons hcount .nil)))))), _, ⟨_, _, _, _, rfl, ⟨hadmissible, hids⟩,
      ⟨hraw m.value, (double_bits _).symm, (double_bits _).symm, (double_bits _).symm⟩, rfl⟩, ?_⟩
    simp [Measurement.bytes, recordBytes, doubleBytes]

/-! ## The decoder of the service -/

variable {inputs : EnergyInputs}

theorem energyInputsSnapshot_iff {result : EnergyInputs} :
    Binary.energyInputsSnapshot inputs = .ok result ↔ result = inputs ∧
      (inputs.capturedAt.isFinite = true ∧ ¬inputs.capturedAt ≤ Double.zero) ∧
      (inputs.capturedMonotonic.isFinite = true ∧ ¬inputs.capturedMonotonic ≤ Double.zero) ∧
      ∀ m ∈ inputs.measurements, ¬inputs.capturedMonotonic < m.observedMonotonic := by
  unfold Binary.energyInputsSnapshot
  rw [bind_unit_eq_ok, bind_unit_eq_ok, positiveFloat_iff, positiveFloat_iff]
  split
  · rename_i hlate
    obtain ⟨m, hm, hlt⟩ := hlate
    exact ⟨fun h => (nomatch h.2.2), fun h => absurd hlt (h.2.2.2 m hm)⟩
  · rename_i hlate
    constructor
    · rintro ⟨hat, hmonotonic, hresult⟩
      exact ⟨(Except.ok.inj hresult).symm, hat, hmonotonic, fun m hm hlt => hlate ⟨m, hm, hlt⟩⟩
    · rintro ⟨rfl, hat, hmonotonic, -⟩
      exact ⟨hat, hmonotonic, rfl⟩

variable {schemaVersion : Nat}

/-- The snapshot has the header's fields and the measurements, with the missing ones filled in. -/
theorem decodedEnergySnapshot_iff {magic sequence generation capturedAt capturedMonotonic : Nat}
    {measurements : List Measurement} (hlength : measurements.length ≤ 7) {result : EnergyInputs} :
    Binary.decodedEnergySnapshot [magic, schemaVersion, sequence, generation, capturedAt, capturedMonotonic]
        measurements = .ok result ↔
      (result.measurements = measurements ++ List.replicate (7 - measurements.length) unavailableMeasurement ∧
        result.sequence = UInt64.ofNat sequence ∧ result.topologyGeneration = UInt64.ofNat generation ∧
        result.capturedAt = Binary.double capturedAt ∧
        result.capturedMonotonic = Binary.double capturedMonotonic) ∧
      (result.capturedAt.isFinite = true ∧ ¬result.capturedAt ≤ Double.zero) ∧
      (result.capturedMonotonic.isFinite = true ∧ ¬result.capturedMonotonic ≤ Double.zero) ∧
      ∀ m ∈ result.measurements, ¬result.capturedMonotonic < m.observedMonotonic := by
  have hseven : (measurements ++ List.replicate (7 - measurements.length) unavailableMeasurement).length = 7 := by
    rw [List.length_append, List.length_replicate]
    omega
  unfold Binary.decodedEnergySnapshot
  dsimp only
  generalize measurements ++ List.replicate (7 - measurements.length) unavailableMeasurement = complete at hseven
  match complete, hseven with
  | [grid, pv, soc, net, wattHours, ampHours, voltage], _ =>
    dsimp only
    rw [energyInputsSnapshot_iff]
    constructor
    · rintro ⟨rfl, hchecks⟩
      exact ⟨⟨rfl, rfl, rfl, rfl, rfl⟩, hchecks⟩
    · obtain ⟨sequence', generation', capturedAt', capturedMonotonic', grid', pv', soc', net', wattHours', ampHours',
        voltage'⟩ := result
      rintro ⟨⟨hmeasurements, rfl, rfl, rfl, rfl⟩, hchecks⟩
      simp only [EnergyInputs.measurements, List.cons.injEq, and_true] at hmeasurements
      obtain ⟨rfl, rfl, rfl, rfl, rfl, rfl, rfl⟩ := hmeasurements
      exact ⟨rfl, hchecks⟩

/-- The formats, with their magic, schema version and number of measurements. -/
def formats : List (String × Nat × Nat) := [("VEI3", 3, 4), ("VEI4", 4, 7)]

theorem wireMeasurementCount_iff {magic count : Nat} :
    Binary.wireMeasurementCount magic schemaVersion = .ok count ↔
      ∃ text, magic = ofBe (utf8 text) ∧ (text, schemaVersion, count) ∈ formats := by
  have hne : ofBe (utf8 "VEI3") ≠ ofBe (utf8 "VEI4") := by
    rw [utf8_fixed.1, utf8_fixed.2.1]
    decide
  have hformats : (∃ text, magic = ofBe (utf8 text) ∧ (text, schemaVersion, count) ∈ formats) ↔
      (magic = ofBe (utf8 "VEI3") ∧ schemaVersion = 3 ∧ count = 4) ∨
      (magic = ofBe (utf8 "VEI4") ∧ schemaVersion = 4 ∧ count = 7) := by
    simp only [formats, List.mem_cons, List.not_mem_nil, or_false, Prod.mk.injEq]
    constructor
    · rintro ⟨text, rfl, ⟨rfl, h⟩ | ⟨rfl, h⟩⟩
      · exact .inl ⟨rfl, h⟩
      · exact .inr ⟨rfl, h⟩
    · rintro (⟨h, h'⟩ | ⟨h, h'⟩)
      · exact ⟨_, h, .inl ⟨rfl, h'⟩⟩
      · exact ⟨_, h, .inr ⟨rfl, h'⟩⟩
  rw [hformats]
  unfold Binary.wireMeasurementCount
  generalize ofBe (utf8 "VEI3") = old at hne ⊢
  generalize ofBe (utf8 "VEI4") = current at hne ⊢
  by_cases hold : magic = old
  · subst hold
    by_cases hschema : schemaVersion = 3 <;> simp [hne, hschema, eq_comm]
  · have hbeq : (magic == old) = false := beq_eq_false_iff_ne.mpr hold
    by_cases hcurrent : magic = current
    · subst hcurrent
      by_cases hschema : schemaVersion = 4 <;> simp [List.lookup_cons, hbeq, hold, hschema, eq_comm]
    · simp [List.lookup_cons, hbeq, beq_eq_false_iff_ne.mpr hcurrent, hold, hcurrent]

/-- The header and the measurements of a payload. -/
theorem takes_fields : Takes Binary.fields fun result word =>
    ∃ magic schemaVersion sequence generation capturedAt capturedMonotonic,
      result.1 = [ofBe (utf8 magic), schemaVersion, sequence, generation, capturedAt, capturedMonotonic] ∧
      (sequence < 256 ^ 8 ∧ generation < 256 ^ 8 ∧ capturedAt < 256 ^ 8 ∧ capturedMonotonic < 256 ^ 8) ∧
      (magic, schemaVersion, result.2.length) ∈ formats ∧
      ∃ words, List.Forall₂ (fun m word => (m.Admissible ∧ StrictIds m.sourceIds) ∧ m.IsWord word) result.2 words ∧
        word = utf8 magic ++ (beBytes 1 schemaVersion ++ (beBytes 8 sequence ++ (beBytes 8 generation ++
          (beBytes 8 capturedAt ++ beBytes 8 capturedMonotonic)))) ++ words.flatten := by
  refine ((takes_record _ _).word fun header => (takes_lift _).check fun count =>
    (takes_decodeMeasurement.replicate count).map _).congr fun result word => ?_
  have hmagic : ∀ magic schemaVersion count, (magic, schemaVersion, count) ∈ formats →
      beBytes 4 (ofBe (utf8 magic)) = utf8 magic ∧ ofBe (utf8 magic) < 256 ^ 4 ∧ schemaVersion < 256 ^ 1 := by
    intro magic schemaVersion count hformat
    have hlength : (utf8 magic).length = 4 := by
      rcases List.mem_pair.mp hformat with h | h
      · obtain ⟨rfl, -⟩ := Prod.mk.inj h
        rw [utf8_fixed.1]
        rfl
      · obtain ⟨rfl, -⟩ := Prod.mk.inj h
        rw [utf8_fixed.2.1]
        rfl
    have hbytes := beBytes_ofBe (utf8 magic)
    have hlt := ofBe_lt (utf8 magic)
    rw [hlength] at hbytes hlt
    refine ⟨hbytes, hlt, ?_⟩
    rcases List.mem_pair.mp hformat with h | h <;> obtain ⟨-, h⟩ := Prod.mk.inj h <;>
      obtain ⟨rfl, -⟩ := Prod.mk.inj h <;> decide
  constructor
  · rintro ⟨header, hbounds, -, ⟨count, hcount, measurements, ⟨rfl, words, hwords, rfl⟩, rfl⟩, rfl⟩
    simp only [List.forall₂_cons_left_iff, List.forall₂_nil_left_iff] at hbounds
    obtain ⟨magic, -, -, ⟨schemaVersion, -, -, ⟨sequence, -, hsequence, ⟨generation, -, hgeneration,
      ⟨capturedAt, -, hat, ⟨capturedMonotonic, -, hmonotonic, rfl, rfl⟩, rfl⟩, rfl⟩, rfl⟩, rfl⟩, rfl⟩ := hbounds
    obtain ⟨text, rfl, hformat⟩ := wireMeasurementCount_iff.mp hcount
    refine ⟨text, schemaVersion, sequence, generation, capturedAt, capturedMonotonic, rfl,
      ⟨hsequence, hgeneration, hat, hmonotonic⟩, hformat, words, hwords, ?_⟩
    simp [recordBytes, (hmagic _ _ _ hformat).1]
  · obtain ⟨header, measurements⟩ := result
    rintro ⟨magic, schemaVersion, sequence, generation, capturedAt, capturedMonotonic, rfl,
      ⟨hsequence, hgeneration, hat, hmonotonic⟩, hformat, words, hwords, rfl⟩
    obtain ⟨hbytes, hlt, hversion⟩ := hmagic _ _ _ hformat
    refine ⟨_, .cons hlt (.cons hversion (.cons hsequence (.cons hgeneration (.cons hat (.cons hmonotonic .nil))))),
      _, ⟨_, wireMeasurementCount_iff.mpr ⟨magic, rfl, hformat⟩, measurements, ⟨rfl, words, hwords, rfl⟩, rfl⟩, ?_⟩
    simp [recordBytes, hbytes]

theorem Double.clock_of_pos {x : Double} (hfinite : x.isFinite = true) (hpos : ¬x ≤ Double.zero) : x.Clock :=
  ⟨hfinite, Double.le_of_lt ((Double.not_le_iff hfinite Double.zero_isFinite).mp hpos)⟩

/-- The bytes of a header whose numbers are the fields of the inputs. -/
theorem headerBytes_eq {magic : String} {sequence generation capturedAt capturedMonotonic : Nat} (hsequence : sequence < 256 ^ 8) (hgeneration : generation < 256 ^ 8)
    (hat : capturedAt < 256 ^ 8) (hmonotonic : capturedMonotonic < 256 ^ 8)
    (h : inputs.sequence = UInt64.ofNat sequence ∧ inputs.topologyGeneration = UInt64.ofNat generation ∧
      inputs.capturedAt = Binary.double capturedAt ∧ inputs.capturedMonotonic = Binary.double capturedMonotonic) :
    headerBytes magic schemaVersion inputs = utf8 magic ++ (beBytes 1 schemaVersion ++ (beBytes 8 sequence ++
      (beBytes 8 generation ++ (beBytes 8 capturedAt ++ beBytes 8 capturedMonotonic)))) := by
  rw [headerBytes, h.1, h.2.1, h.2.2.1, h.2.2.2, doubleBytes_double hat, doubleBytes_double hmonotonic,
    UInt64.toNat_ofNat_of_lt' hsequence, UInt64.toNat_ofNat_of_lt' hgeneration]
  simp

variable {payload : List UInt8}

/-- What the service accepts. -/
theorem binary_decode_iff :
    Binary.decodeEnergyInputs payload = .ok inputs ↔ payload.length ≤ maxPayloadBytes ∧
      (inputs.Admissible ∧ inputs.Strict) ∧ inputs.IsWord payload := by
  have hlengths : ∀ {magic : String} {schemaVersion count : Nat}, (magic, schemaVersion, count) ∈ formats →
      count ≤ 7 := by
    intro magic schemaVersion count hformat
    rcases List.mem_pair.mp hformat with h | h <;> obtain ⟨-, h⟩ := Prod.mk.inj h <;>
      obtain ⟨-, rfl⟩ := Prod.mk.inj h <;> decide
  unfold Binary.decodeEnergyInputs
  split
  · rename_i hlong
    exact ⟨nofun, fun h => absurd h.1 (Nat.not_le.mpr hlong)⟩
  · rename_i hshort
    constructor
    · intro h
      split at h
      · nomatch h
      · rename_i header measurements hrun
        obtain ⟨magic, schemaVersion, sequence, generation, capturedAt, capturedMonotonic, rfl,
          ⟨hsequence, hgeneration, hat, hmonotonic⟩, hformat, words, hwords, rfl⟩ := takes_fields.run_nil.mp hrun
        obtain ⟨⟨hmeasurements, hheader⟩, hpositive, hpositiveMonotonic, horder⟩ :=
          (decodedEnergySnapshot_iff (hlengths hformat)).mp h
        obtain ⟨hvalid, hwords⟩ := (List.forall₂_and_left _ _).mp hwords
        have hall : ∀ m ∈ inputs.measurements, m.Admissible ∧ StrictIds m.sourceIds := by
          intro m hm
          rw [hmeasurements] at hm
          rcases List.mem_append.mp hm with hm | hm
          · exact hvalid m hm
          · obtain rfl := List.eq_of_mem_replicate hm
            exact ⟨unavailable_admissible, List.not_mem_nil, List.nodup_nil⟩
        refine ⟨Nat.not_lt.mp hshort, ⟨⟨Double.clock_of_pos hpositive.1 hpositive.2,
          Double.clock_of_pos hpositiveMonotonic.1 hpositiveMonotonic.2,
          fun m hm => ⟨(hall m hm).1, horder m hm⟩⟩, hpositive.2, hpositiveMonotonic.2,
          fun m hm => (hall m hm).2⟩, ?_⟩
        -- The format says whether four or seven words follow the header.
        rw [← headerBytes_eq hsequence hgeneration hat hmonotonic hheader]
        rcases List.mem_pair.mp hformat with hformat | hformat
        · obtain ⟨rfl, hformat⟩ := Prod.mk.inj hformat
          obtain ⟨rfl, hfour⟩ := Prod.mk.inj hformat
          refine .inr ⟨words, ?_, ?_, rfl⟩
          · rw [hmeasurements, List.take_left' hfour]
            exact hwords
          · rw [hmeasurements, List.drop_left' hfour, hfour]
        · obtain ⟨rfl, hformat⟩ := Prod.mk.inj hformat
          obtain ⟨rfl, hseven⟩ := Prod.mk.inj hformat
          refine .inl ⟨words, ?_, rfl⟩
          rw [hmeasurements, hseven, List.replicate_zero, List.append_nil]
          exact hwords
      · nomatch h
    · rintro ⟨-, ⟨hadmissible, hstrict⟩, hword⟩
      -- A word of either format is a header and the words of the measurements that the format has.
      obtain ⟨magic, schemaVersion, measurements, words, hformat, hmeasurements, hwords, rfl⟩ :
          ∃ magic schemaVersion measurements words, (magic, schemaVersion, measurements.length) ∈ formats ∧
            inputs.measurements =
              measurements ++ List.replicate (7 - measurements.length) unavailableMeasurement ∧
            List.Forall₂ Measurement.IsWord measurements words ∧
            payload = headerBytes magic schemaVersion inputs ++ words.flatten := by
        rcases hword with ⟨words, hwords, rfl⟩ | ⟨words, hwords, hmissing, rfl⟩
        · exact ⟨"VEI4", 4, inputs.measurements, words, List.mem_pair.mpr (.inr rfl), (List.append_nil _).symm, hwords, rfl⟩
        · refine ⟨"VEI3", 3, inputs.measurements.take 4, words, List.mem_pair.mpr (.inl rfl), ?_, hwords, rfl⟩
          have hthree : 7 - (inputs.measurements.take 4).length = 3 := rfl
          rw [hthree, ← hmissing, List.take_append_drop]
      have hheader : inputs.sequence = UInt64.ofNat inputs.sequence.toNat ∧
          inputs.topologyGeneration = UInt64.ofNat inputs.topologyGeneration.toNat ∧
          inputs.capturedAt = Binary.double inputs.capturedAt.bits.toNat ∧
          inputs.capturedMonotonic = Binary.double inputs.capturedMonotonic.bits.toNat :=
        ⟨UInt64.ofNat_toNat.symm, UInt64.ofNat_toNat.symm, (double_bits _).symm, (double_bits _).symm⟩
      have hbounds : inputs.sequence.toNat < 256 ^ 8 ∧ inputs.topologyGeneration.toNat < 256 ^ 8 ∧
          inputs.capturedAt.bits.toNat < 256 ^ 8 ∧ inputs.capturedMonotonic.bits.toNat < 256 ^ 8 :=
        ⟨UInt64.toNat_lt _, UInt64.toNat_lt _, UInt64.toNat_lt _, UInt64.toNat_lt _⟩
      have hvalid : ∀ m ∈ measurements, m.Admissible ∧ StrictIds m.sourceIds := by
        intro m hm
        have hm : m ∈ inputs.measurements := hmeasurements ▸ List.mem_append_left _ hm
        exact ⟨(hadmissible.measurements m hm).1, hstrict.sourceIds m hm⟩
      have hrun := (takes_fields.run_nil (a := (_, measurements))).mpr ⟨magic, schemaVersion, _, _, _, _, rfl, hbounds, hformat, words,
        (List.forall₂_and_left _ _).mpr ⟨hvalid, hwords⟩,
        congrArg (· ++ words.flatten) (headerBytes_eq hbounds.1 hbounds.2.1 hbounds.2.2.1 hbounds.2.2.2 hheader)⟩
      rw [hrun]
      exact (decodedEnergySnapshot_iff (hlengths hformat)).mpr ⟨⟨hmeasurements, hheader⟩,
        ⟨hadmissible.capturedAt.1, hstrict.capturedAt⟩,
        ⟨hadmissible.capturedMonotonic.1, hstrict.capturedMonotonic⟩,
        fun m hm => (hadmissible.measurements m hm).2⟩

/-! ## The encoder -/

theorem validateTimestamp_iff : validateTimestamp value label = .ok () ↔ value.Clock := by
  unfold validateTimestamp Double.Clock
  split <;> simp [*]

/-- The checks of the encoder are the shared ones, without the lengths of the texts. -/
theorem validate_iff {capturedMonotonic : Double} :
    m.validate capturedMonotonic = .ok () ↔ (∀ value ∈ m.value, value.isFinite = true) ∧ m.observedAt.Clock ∧
      m.observedMonotonic.Clock ∧ ¬capturedMonotonic < m.observedMonotonic ∧
      (m.confidence.isFinite = true ∧ Double.zero ≤ m.confidence ∧ m.confidence ≤ Double.one) ∧
      m.sourceIds.length ≤ maxSourceIds ∧ (m.status.contributes = true →
        m.value ≠ none ∧ ¬m.observedAt ≤ Double.zero ∧ ¬m.observedMonotonic ≤ Double.zero) := by
  have hite : ∀ {p : Prop} [Decidable p] {error : String} {x : Except String Unit},
      (if p then .error error else x) = .ok () ↔ ¬p ∧ x = .ok () := by
    intro p _ error x
    by_cases h : p <;> simp [h]
  have hclocks : (¬(¬m.observedAt.isFinite ∨ m.observedAt < Double.zero ∨ ¬m.observedMonotonic.isFinite ∨
      m.observedMonotonic < Double.zero ∨ capturedMonotonic < m.observedMonotonic)) ↔
      m.observedAt.Clock ∧ m.observedMonotonic.Clock ∧ ¬capturedMonotonic < m.observedMonotonic := by
    simp only [not_or, not_not, Double.Clock]
    constructor
    · rintro ⟨hat, hnonneg, hmonotonic, hnonnegMonotonic, horder⟩
      exact ⟨⟨hat, (Double.not_lt_iff hat Double.zero_isFinite).mp hnonneg⟩,
        ⟨hmonotonic, (Double.not_lt_iff hmonotonic Double.zero_isFinite).mp hnonnegMonotonic⟩, horder⟩
    · rintro ⟨⟨hat, hnonneg⟩, ⟨hmonotonic, hnonnegMonotonic⟩, horder⟩
      exact ⟨hat, (Double.not_lt_iff hat Double.zero_isFinite).mpr hnonneg, hmonotonic,
        (Double.not_lt_iff hmonotonic Double.zero_isFinite).mpr hnonnegMonotonic, horder⟩
  unfold Measurement.validate
  rw [hite, hite, hite, hite, hite, hclocks]
  simp only [not_exists, not_and, Bool.not_eq_false, not_or, not_not, and_true, and_assoc, Nat.not_lt, ne_eq,
    Classical.not_imp]

theorem appendText_iff {result : List UInt8} {value : String} :
    appendText payload value = .ok result ↔
      (utf8 value).length < 65536 ∧ result = payload ++ textBytes value := by
  unfold appendText
  split
  · simp [*, eq_comm]
  · simp [*]

theorem encodeMeasurement_iff {result : List UInt8} {capturedMonotonic : Double} :
    encodeMeasurement payload m capturedMonotonic = .ok result ↔
      (m.Admissible ∧ ¬capturedMonotonic < m.observedMonotonic) ∧ result = payload ++ m.bytes .zero := by
  have htexts : ∀ payload result, m.sourceIds.foldlM appendText payload = .ok result ↔
      (∀ text ∈ m.sourceIds, (utf8 text).length < 65536) ∧
        result = payload ++ (m.sourceIds.map textBytes).flatten :=
    fun _ _ => foldlM_append_iff fun payload value result => @appendText_iff payload result value
  unfold encodeMeasurement
  simp only [bind_eq_ok, htexts, appendText_iff]
  constructor
  · rintro ⟨⟨⟩, hvalidate, -, ⟨hids, rfl⟩, hreason, rfl⟩
    obtain ⟨hvalue, hat, hmonotonic, horder, hconfidence, hcount, hobserved⟩ := validate_iff.mp hvalidate
    exact ⟨⟨⟨hvalue, hat, hmonotonic, hconfidence, hcount, hobserved,
      List.forall_mem_cons.mpr ⟨hreason, hids⟩⟩, horder⟩, by simp [Measurement.bytes]⟩
  · rintro ⟨⟨⟨hvalue, hat, hmonotonic, hconfidence, hcount, hobserved, htexts⟩, horder⟩, rfl⟩
    obtain ⟨hreason, hids⟩ := List.forall_mem_cons.mp htexts
    exact ⟨(), validate_iff.mpr ⟨hvalue, hat, hmonotonic, horder, hconfidence, hcount, hobserved⟩, _,
      ⟨hids, rfl⟩, hreason, by simp [Measurement.bytes]⟩

/-- What the encoder accepts, and the word it makes of it. -/
theorem encode_iff :
    inputs.encode = .ok payload ↔ inputs.Admissible ∧ payload.length ≤ maxPayloadBytes ∧
      payload = headerBytes "VEI4" 4 inputs ++ (inputs.measurements.map fun m => m.bytes .zero).flatten := by
  have hfold : ∀ payload result, inputs.measurements.foldlM
      (fun payload m => encodeMeasurement payload m inputs.capturedMonotonic) payload = .ok result ↔
      (∀ m ∈ inputs.measurements, m.Admissible ∧ ¬inputs.capturedMonotonic < m.observedMonotonic) ∧
        result = payload ++ (inputs.measurements.map fun m => m.bytes .zero).flatten :=
    fun _ _ => foldlM_append_iff fun payload m result => encodeMeasurement_iff (m := m)
  unfold EnergyInputs.encode
  simp only [bind_eq_ok, hfold]
  constructor
  · rintro ⟨⟨⟩, hat, ⟨⟩, hmonotonic, result, ⟨hmeasurements, rfl⟩, h⟩
    rw [validateTimestamp_iff] at hat hmonotonic
    split at h
    · nomatch h
    · rename_i hshort
      obtain rfl := Except.ok.inj h
      exact ⟨⟨hat, hmonotonic, hmeasurements⟩, Nat.not_lt.mp hshort, rfl⟩
  · rintro ⟨⟨hat, hmonotonic, hmeasurements⟩, hshort, rfl⟩
    exact ⟨(), validateTimestamp_iff.mpr hat, (), validateTimestamp_iff.mpr hmonotonic, _, ⟨hmeasurements, rfl⟩,
      if_neg (Nat.not_lt.mpr hshort)⟩

/-- What is encoded is a word of the format. -/
theorem isWord_of_encode (h : inputs.encode = .ok payload) : inputs.IsWord payload := by
  obtain ⟨-, -, rfl⟩ := encode_iff.mp h
  refine .inl ⟨_, ?_, rfl⟩
  rw [List.forall₂_map_right_iff]
  exact List.forall₂_same.mpr fun m _ => ⟨.zero, rfl⟩

/-! ## Agreement -/

/-- A text of spaces for the helper is one for the service. -/
theorem isSpace_of_isWhitespace {c : Char} (h : NativeGateway.isWhitespace c = true) : isSpace c = true := by
  unfold NativeGateway.isWhitespace at h
  unfold isSpace
  simp only [Bool.or_eq_true, Bool.and_eq_true, decide_eq_true_eq, beq_iff_eq] at h ⊢
  omega

/-- Nothing is left of a text without its outer characters exactly when it has no others. -/
theorem stripped_eq_nil_iff {p : Char → Bool} {chars : List Char} :
    ((chars.dropWhile p).reverse.dropWhile p).reverse = [] ↔ ∀ c ∈ chars, p c = true := by
  rw [List.reverse_eq_nil_iff, List.dropWhile_eq_nil_iff]
  simp only [List.mem_reverse]
  constructor
  · intro h c hc
    rw [← List.takeWhile_append_dropWhile (p := p) (l := chars)] at hc
    rcases List.mem_append.mp hc with hc | hc
    · exact List.mem_takeWhile_imp hc
    · exact h c hc
  · exact fun h c hc => h c ((List.dropWhile_suffix p).subset hc)

/-- Ids as the service wants them are as the helper wants them. -/
theorem helperIds_of_strictIds {sourceIds : List String} (h : StrictIds sourceIds) : HelperIds sourceIds := by
  refine ⟨fun sourceId hmem hblank => h.1 (List.mem_map.mpr ⟨sourceId, hmem, ?_⟩), h.2.of_map strip⟩
  unfold NativeGateway.trim at hblank
  unfold strip
  rw [String.ofList_eq_empty_iff, stripped_eq_nil_iff] at hblank ⊢
  exact fun c hc => isSpace_of_isWhitespace (hblank c hc)

/-- Inputs before anything was observed. -/
def unobservedInputs (capturedAt : Double) : EnergyInputs :=
  ⟨1, 0, capturedAt, .one, unavailableMeasurement, unavailableMeasurement, unavailableMeasurement,
    unavailableMeasurement, unavailableMeasurement, unavailableMeasurement, unavailableMeasurement⟩

/-- Their word. -/
def unobservedPayload (capturedAt : Double) : List UInt8 :=
  headerBytes "VEI4" 4 (unobservedInputs capturedAt) ++
    ((unobservedInputs capturedAt).measurements.map fun m => m.bytes .zero).flatten

theorem encode_unobserved {capturedAt : Double} (h : capturedAt.Clock) :
    (unobservedInputs capturedAt).encode = .ok (unobservedPayload capturedAt) := by
  have hmeasurements : (unobservedInputs capturedAt).measurements = List.replicate 7 unavailableMeasurement := rfl
  have hone : Double.one.Clock := by decide
  refine encode_iff.mpr ⟨⟨h, hone, fun m hm => ?_⟩, ?_, rfl⟩
  · obtain rfl := List.eq_of_mem_replicate (hmeasurements ▸ hm)
    exact ⟨unavailable_admissible, unavailable_not_after hone⟩
  · have hlength : (unavailableMeasurement.bytes .zero).length = 50 := by
      simp [Measurement.bytes, doubleBytes, textBytes, unavailableMeasurement, utf8_fixed.2.2]
    have hmagic : (utf8 "VEI4").length = 4 := by
      rw [utf8_fixed.2.1]
      rfl
    rw [unobservedPayload, hmeasurements]
    simp [headerBytes, doubleBytes, hlength, hmagic, maxPayloadBytes]

/-- Both decoders read what the encoder wrote exactly when the inputs are strict, and they treat a byte string
alike exactly when the inputs that it stands for, if the helper admits them, are strict. -/
theorem codecs_agree_iff (inputs : EnergyInputs) (payload : List UInt8) :
    (inputs.encode = .ok payload →
      (Helper.decodeEnergyInputs payload = .ok inputs ∧ Binary.decodeEnergyInputs payload = .ok inputs ↔
        inputs.Strict)) ∧
    (payload.length ≤ maxPayloadBytes →
      ((Helper.decodeEnergyInputs payload).toOption = (Binary.decodeEnergyInputs payload).toOption ↔
        ∀ stated : EnergyInputs, stated.IsWord payload → stated.Admissible →
          (∀ m ∈ stated.measurements, HelperIds m.sourceIds) → stated.Strict)) := by
  constructor
  · intro hencode
    obtain ⟨hadmissible, hshort, -⟩ := encode_iff.mp hencode
    have hword := isWord_of_encode hencode
    rw [helper_decode_iff, binary_decode_iff]
    constructor
    · exact fun h => h.2.2.1.2
    · exact fun hstrict => ⟨⟨hshort, ⟨hadmissible, fun m hm => helperIds_of_strictIds (hstrict.sourceIds m hm)⟩,
        hword⟩, hshort, ⟨hadmissible, hstrict⟩, hword⟩
  · intro hshort
    constructor
    · intro hsame inputs hword hadmissible hids
      have hhelper := helper_decode_iff.mpr ⟨hshort, ⟨hadmissible, hids⟩, hword⟩
      rw [hhelper] at hsame
      cases hbinary : Binary.decodeEnergyInputs payload with
      | error error =>
        rw [hbinary] at hsame
        nomatch hsame
      | ok other =>
        rw [hbinary] at hsame
        obtain rfl := Option.some.inj hsame
        exact (binary_decode_iff.mp hbinary).2.1.2
    · intro hstrict
      cases hhelper : Helper.decodeEnergyInputs payload with
      | ok inputs =>
        obtain ⟨-, ⟨hadmissible, hids⟩, hword⟩ := helper_decode_iff.mp hhelper
        rw [binary_decode_iff.mpr ⟨hshort, ⟨hadmissible, hstrict inputs hword hadmissible hids⟩, hword⟩]
      | error error =>
        -- what the service accepts, the helper accepts as well
        cases hbinary : Binary.decodeEnergyInputs payload with
        | error error => rfl
        | ok inputs =>
          obtain ⟨-, ⟨hadmissible, hstrict⟩, hword⟩ := binary_decode_iff.mp hbinary
          have := helper_decode_iff.mpr ⟨hshort,
            ⟨hadmissible, fun m hm => helperIds_of_strictIds (hstrict.sourceIds m hm)⟩, hword⟩
          nomatch hhelper.symm.trans this

/-- A grid power that two sources have given. -/
def observedMeasurement : Measurement :=
  ⟨some .one, .one, .one, .fresh, .one, ["shelly", "victron"], "fused"⟩

/-- Inputs with one observed value. -/
def observedInputs : EnergyInputs := { unobservedInputs .one with gridPowerW := observedMeasurement }

/-- Their word. -/
def observedPayload : List UInt8 := observedInputs.encode.toOption.getD []

theorem mem_observedInputs {m : Measurement} (hm : m ∈ observedInputs.measurements) :
    m = observedMeasurement ∨ m = unavailableMeasurement := by
  rcases List.mem_cons.mp hm with rfl | hm
  · exact .inl rfl
  · exact .inr (List.eq_of_mem_replicate (n := 6) hm)

/-- With positive clocks and distinct source ids both decoders read what the encoder wrote. -/
theorem observed_inputs_agree :
    Helper.decodeEnergyInputs observedPayload = .ok observedInputs ∧
      Binary.decodeEnergyInputs observedPayload = .ok observedInputs := by
  have hencode : observedInputs.encode = .ok observedPayload := by decide +kernel
  refine ((codecs_agree_iff _ _).1 hencode).mpr ⟨by decide, by decide, fun m hm => ?_⟩
  rcases mem_observedInputs hm with rfl | rfl
  · unfold StrictIds
    decide +kernel
  · exact ⟨List.not_mem_nil, List.nodup_nil⟩

/-- A snapshot at the epoch is written, read by the helper, and rejected by the service. -/
theorem epoch_snapshot_rejected :
    (unobservedInputs .zero).encode = .ok (unobservedPayload .zero) ∧
      Helper.decodeEnergyInputs (unobservedPayload .zero) = .ok (unobservedInputs .zero) ∧
      (Binary.decodeEnergyInputs (unobservedPayload .zero)).toOption = none := by
  have hzero : Double.zero.Clock := by decide
  have hencode := encode_unobserved hzero
  obtain ⟨hadmissible, hshort, -⟩ := encode_iff.mp hencode
  have hword := isWord_of_encode hencode
  have hhelper : Helper.decodeEnergyInputs (unobservedPayload .zero) = .ok (unobservedInputs .zero) := by
    refine helper_decode_iff.mpr ⟨hshort, ⟨hadmissible, fun m hm => ?_⟩, hword⟩
    obtain rfl : m = unavailableMeasurement := List.eq_of_mem_replicate (n := 7) hm
    exact ⟨nofun, List.nodup_nil⟩
  refine ⟨hencode, hhelper, ?_⟩
  cases hbinary : Binary.decodeEnergyInputs (unobservedPayload .zero) with
  | error error => rfl
  | ok other =>
    obtain ⟨-, ⟨hadmissible', hstrict⟩, hword'⟩ := binary_decode_iff.mp hbinary
    have hother := helper_decode_iff.mpr ⟨hshort,
      ⟨hadmissible', fun m hm => helperIds_of_strictIds (hstrict.sourceIds m hm)⟩, hword'⟩
    obtain rfl := Except.ok.inj (hhelper.symm.trans hother)
    exact absurd (by decide) hstrict.capturedAt

end VenusEvcharger.Energy
