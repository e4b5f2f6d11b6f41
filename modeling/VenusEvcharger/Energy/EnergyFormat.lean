import VenusEvcharger.Energy.EnergyDecoders

/-!
# The format of the energy inputs

The format is stated without any decoder: `EnergyInputs.IsWord` says which payloads stand for which inputs, and
`EnergyInputs.Admissible` collects the rules that the encoder and both decoders share. `takes_energyInputs` says
that the helper takes exactly the words of admissible inputs whose source ids are as it wants them.
-/

namespace VenusEvcharger.Energy

open Library Library.Reader

/-! ## The format -/

/-- The bytes of a measurement; without a value there is a placeholder. -/
def Measurement.bytes (m : Measurement) (placeholder : Double) : List UInt8 :=
  (beBytes 1 m.status.code ++ (beBytes 1 (if m.value.isSome then 1 else 0) ++
    doubleBytes (m.value.getD placeholder))) ++
  ((doubleBytes m.observedAt ++ (doubleBytes m.observedMonotonic ++ doubleBytes m.confidence)) ++
  (beBytes 2 m.sourceIds.length ++ ((m.sourceIds.map textBytes).flatten ++ textBytes m.reasonCode)))

/-- The word stands for the measurement. -/
def Measurement.IsWord (m : Measurement) (word : List UInt8) : Prop := ∃ placeholder, word = m.bytes placeholder

/-- The payload stands for the inputs, in the format VEI4 or in VEI3 with the last measurements missing. -/
def EnergyInputs.IsWord (inputs : EnergyInputs) (payload : List UInt8) : Prop :=
  (∃ words, List.Forall₂ Measurement.IsWord inputs.measurements words ∧
    payload = headerBytes "VEI4" 4 inputs ++ words.flatten) ∨
  (∃ words, List.Forall₂ Measurement.IsWord (inputs.measurements.take 4) words ∧
    inputs.measurements.drop 4 = List.replicate 3 unavailableMeasurement ∧
    payload = headerBytes "VEI3" 3 inputs ++ words.flatten)

/-- A finite double that is not negative. -/
def Double.Clock (x : Double) : Prop := x.isFinite = true ∧ Double.zero ≤ x

instance (x : Double) : Decidable x.Clock := inferInstanceAs (Decidable (_ ∧ _))

/-- The rules that all codecs share. -/
structure Measurement.Admissible (m : Measurement) : Prop where
  value : ∀ value ∈ m.value, value.isFinite = true
  observedAt : m.observedAt.Clock
  observedMonotonic : m.observedMonotonic.Clock
  confidence : m.confidence.isFinite = true ∧ Double.zero ≤ m.confidence ∧ m.confidence ≤ Double.one
  count : m.sourceIds.length ≤ maxSourceIds
  contributing : m.status.contributes = true →
    m.value ≠ none ∧ ¬m.observedAt ≤ Double.zero ∧ ¬m.observedMonotonic ≤ Double.zero
  texts : ∀ text ∈ m.reasonCode :: m.sourceIds, (utf8 text).length < 65536

structure EnergyInputs.Admissible (inputs : EnergyInputs) : Prop where
  capturedAt : inputs.capturedAt.Clock
  capturedMonotonic : inputs.capturedMonotonic.Clock
  measurements : ∀ m ∈ inputs.measurements,
    m.Admissible ∧ ¬inputs.capturedMonotonic < m.observedMonotonic

/-- Source ids as the helper wants them. -/
def HelperIds (sourceIds : List String) : Prop :=
  (∀ sourceId ∈ sourceIds, NativeGateway.trim sourceId ≠ "") ∧ sourceIds.Nodup

/-- Source ids as the service wants them. -/
def StrictIds (sourceIds : List String) : Prop :=
  "" ∉ sourceIds.map strip ∧ (sourceIds.map strip).Nodup

/-- The inputs have positive clocks, and source ids that differ and are not empty after `str.strip`. -/
structure EnergyInputs.Strict (inputs : EnergyInputs) : Prop where
  capturedAt : ¬inputs.capturedAt ≤ Double.zero
  capturedMonotonic : ¬inputs.capturedMonotonic ≤ Double.zero
  sourceIds : ∀ m ∈ inputs.measurements, StrictIds m.sourceIds

/-- The bytes of the texts that the format fixes. -/
theorem utf8_fixed : utf8 "VEI3" = [86, 69, 73, 51] ∧ utf8 "VEI4" = [86, 69, 73, 52] ∧
    (utf8 "not-observed").length = 12 := by
  decide +kernel

/-! ## Numbers -/

theorem takes_u64 : Takes Helper.u64 fun x word => word = beBytes 8 x.toNat := by
  refine ((takes_unsigned 8 Helper.truncated).map UInt64.ofNat).congr fun x word => ?_
  constructor
  · rintro ⟨value, ⟨hlt, rfl⟩, rfl⟩
    rw [UInt64.toNat_ofNat_of_lt' hlt]
  · rintro rfl
    exact ⟨x.toNat, ⟨x.toNat_lt, rfl⟩, UInt64.ofNat_toNat.symm⟩

theorem takes_f64 : Takes Helper.f64 fun x word => word = doubleBytes x := by
  refine (takes_u64.map Double.mk).congr fun x word => ?_
  constructor
  · rintro ⟨bits, rfl, rfl⟩
    rfl
  · rintro rfl
    exact ⟨x.bits, rfl, rfl⟩

/-! ## The measurements of the helper -/

theorem helper_status_iff {code : Nat} {status : MeasurementStatus} :
    Helper.status code = .ok status ↔ code = status.code := by
  constructor
  · intro h
    unfold Helper.status at h
    split at h <;> cases h <;> rfl
  · rintro rfl
    cases status <;> rfl

theorem helper_markedValue_iff {hasValue : Nat} {raw : Double} {value : Option Double} :
    Helper.markedValue hasValue raw = .ok value ↔
      (hasValue = if value.isSome then 1 else 0) ∧ raw = value.getD raw ∧ ∀ x ∈ value, x.isFinite = true := by
  constructor
  · intro h
    unfold Helper.markedValue at h
    split at h
    · obtain rfl := Except.ok.inj h
      exact ⟨rfl, rfl, nofun⟩
    · split at h
      · rename_i hfinite
        obtain rfl := Except.ok.inj h
        refine ⟨rfl, rfl, fun x hx => ?_⟩
        rwa [← Option.some.inj hx]
      · nomatch h
    · nomatch h
  · rintro ⟨rfl, hraw, hfinite⟩
    cases value with
    | none => rfl
    | some x =>
      obtain rfl : raw = x := hraw
      exact if_pos (hfinite raw rfl)

theorem takes_valueFields : Takes Helper.valueFields fun result word =>
    (∀ x ∈ result.2, x.isFinite = true) ∧ ∃ placeholder, word =
      beBytes 1 result.1.code ++ (beBytes 1 (if result.2.isSome then 1 else 0) ++
        doubleBytes (result.2.getD placeholder)) := by
  refine ((takes_unsigned 1 _).word fun code => (takes_lift _).check fun status => (takes_unsigned 1 _).word
    fun hasValue => takes_f64.exactly fun raw => (takes_lift _).check fun value => takes_pure _).congr
    fun result word => ?_
  constructor
  · rintro ⟨code, -, -, ⟨status, hstatus, hasValue, -, -, ⟨raw, -, ⟨value, hvalue, rfl, rfl⟩, rfl⟩, rfl⟩, rfl⟩
    obtain rfl := helper_status_iff.mp hstatus
    obtain ⟨rfl, hraw, hfinite⟩ := helper_markedValue_iff.mp hvalue
    exact ⟨hfinite, raw, by rw [← hraw]; simp⟩
  · obtain ⟨status, value⟩ := result
    rintro ⟨hfinite, placeholder, rfl⟩
    have hvalue : Helper.markedValue (if value.isSome then 1 else 0) (value.getD placeholder) = .ok value :=
      helper_markedValue_iff.mpr ⟨rfl, by cases value <;> rfl, hfinite⟩
    have hstatus : status.code < 256 ^ 1 := by cases status <;> decide
    refine ⟨status.code, hstatus, _, ⟨status, helper_status_iff.mpr rfl, _, ?_, _, ⟨_, _, ⟨value, hvalue, rfl, rfl⟩,
      rfl⟩, rfl⟩, by simp⟩
    split <;> decide

theorem takes_clock (value : Double) (label : String) :
    Takes (Helper.requireNonNegativeFinite value label) fun _ word => value.Clock ∧ word = [] :=
  takes_require _ _

theorem takes_clockFields (capturedMonotonic : Double) (status : MeasurementStatus) (value : Option Double) :
    Takes (Helper.clockFields capturedMonotonic status value) fun result word =>
      (result.1.Clock ∧ result.2.1.Clock ∧ ¬capturedMonotonic < result.2.1 ∧
        (result.2.2.isFinite = true ∧ Double.zero ≤ result.2.2 ∧ result.2.2 ≤ Double.one) ∧
        (status.contributes = true →
          value ≠ none ∧ ¬result.1 ≤ Double.zero ∧ ¬result.2.1 ≤ Double.zero)) ∧
      word = doubleBytes result.1 ++ (doubleBytes result.2.1 ++ doubleBytes result.2.2) := by
  have hcontributing : ∀ observedAt observedMonotonic : Double, (¬(status.contributes = true ∧
      (value = none ∨ observedAt ≤ Double.zero ∨ observedMonotonic ≤ Double.zero))) ↔
      (status.contributes = true → value ≠ none ∧ ¬observedAt ≤ Double.zero ∧
        ¬observedMonotonic ≤ Double.zero) := by
    intro observedAt observedMonotonic
    rw [not_and, not_or, not_or]
  refine (takes_f64.exactly fun observedAt => takes_f64.exactly fun observedMonotonic => takes_f64.exactly
    fun confidence => (takes_clock _ _).check fun _ => (takes_clock _ _).check fun _ => (takes_require _ _).check
    fun _ => (takes_require _ _).check fun _ => (takes_require _ _).check fun _ => takes_pure _).congr
    fun result word => ?_
  constructor
  · rintro ⟨observedAt, -, ⟨observedMonotonic, -, ⟨confidence, -, ⟨-, hat, -, hmonotonic, -, horder, -, hconfidence,
      -, hobserved, rfl, rfl⟩, rfl⟩, rfl⟩, rfl⟩
    exact ⟨⟨hat, hmonotonic, horder, hconfidence, (hcontributing _ _).mp hobserved⟩, by simp⟩
  · obtain ⟨observedAt, observedMonotonic, confidence⟩ := result
    rintro ⟨⟨hat, hmonotonic, horder, hconfidence, hobserved⟩, rfl⟩
    exact ⟨observedAt, _, ⟨observedMonotonic, _, ⟨confidence, [], ⟨(), hat, (), hmonotonic, (), horder, (),
      hconfidence, (), (hcontributing _ _).mpr hobserved, rfl, rfl⟩, (List.append_nil _).symm⟩, rfl⟩, rfl⟩

/-- The loop keeps the identifiers apart from each other and from those that were read. -/
theorem takes_sourceIds (count : Nat) (unique : List String) :
    Takes (Helper.sourceIds count unique) fun sourceIds word =>
      (sourceIds.length = count ∧ (∀ sourceId ∈ sourceIds, (utf8 sourceId).length < 65536) ∧
        HelperIds sourceIds ∧ ∀ sourceId ∈ sourceIds, sourceId ∉ unique) ∧
      word = (sourceIds.map textBytes).flatten := by
  induction count generalizing unique with
  | zero =>
    refine (takes_pure []).congr fun sourceIds word => ?_
    constructor
    · rintro ⟨rfl, rfl⟩
      exact ⟨⟨rfl, nofun, ⟨nofun, List.nodup_nil⟩, nofun⟩, rfl⟩
    · rintro ⟨⟨hlength, -⟩, rfl⟩
      obtain rfl := List.length_eq_zero_iff.mp hlength
      exact ⟨rfl, rfl⟩
  | succ count ih =>
    refine ((takes_text _ _ _).word fun sourceId => (takes_require _ _).check fun _ =>
      (ih (sourceId :: unique)).map _).congr fun sourceIds word => ?_
    constructor
    · rintro ⟨sourceId, hlength, -, ⟨-, ⟨hblank, hnew⟩, rest, ⟨⟨hcount, htexts, ⟨hblanks, hnodup⟩, hnews⟩, rfl⟩,
        rfl⟩, rfl⟩
      refine ⟨⟨by simp [hcount], List.forall_mem_cons.mpr ⟨hlength, htexts⟩,
        ⟨List.forall_mem_cons.mpr ⟨hblank, hblanks⟩, List.nodup_cons.mpr ⟨fun hmem => ?_, hnodup⟩⟩,
        List.forall_mem_cons.mpr ⟨hnew, fun other hother => ?_⟩⟩, by simp⟩
      · exact hnews sourceId hmem List.mem_cons_self
      · exact fun hmem => hnews other hother (List.mem_cons_of_mem _ hmem)
    · rintro ⟨⟨hcount, htexts, ⟨hblanks, hnodup⟩, hnews⟩, rfl⟩
      cases sourceIds with
      | nil => exact nomatch hcount
      | cons sourceId rest =>
        obtain ⟨hlength, htexts⟩ := List.forall_mem_cons.mp htexts
        obtain ⟨hblank, hblanks⟩ := List.forall_mem_cons.mp hblanks
        obtain ⟨hnew, hnews⟩ := List.forall_mem_cons.mp hnews
        obtain ⟨hfresh, hnodup⟩ := List.nodup_cons.mp hnodup
        refine ⟨sourceId, hlength, _, ⟨(), ⟨hblank, hnew⟩, rest, ⟨⟨by simpa using hcount, htexts,
          ⟨hblanks, hnodup⟩, fun other hother hmem => ?_⟩, rfl⟩, rfl⟩, by simp⟩
        rcases List.mem_cons.mp hmem with rfl | hmem
        · exact hfresh hother
        · exact hnews other hother hmem

theorem takes_sourceFields : Takes Helper.sourceFields fun result word =>
    (result.1.length ≤ maxSourceIds ∧ (∀ text ∈ result.2 :: result.1, (utf8 text).length < 65536) ∧
      HelperIds result.1) ∧
    word = beBytes 2 result.1.length ++ ((result.1.map textBytes).flatten ++ textBytes result.2) := by
  refine ((takes_unsigned 2 _).word fun count => (takes_require _ _).check fun _ =>
    (takes_sourceIds count []).word fun sourceIds => (takes_text _ _ _).map _).congr fun result word => ?_
  constructor
  · rintro ⟨count, -, -, ⟨-, hcount, sourceIds, ⟨rfl, htexts, hids, -⟩, -, ⟨reasonCode, ⟨hreason, rfl⟩, rfl⟩, rfl⟩,
      rfl⟩
    exact ⟨⟨hcount, List.forall_mem_cons.mpr ⟨hreason, htexts⟩, hids⟩, by simp⟩
  · obtain ⟨sourceIds, reasonCode⟩ := result
    rintro ⟨⟨hcount, htexts, hids⟩, rfl⟩
    obtain ⟨hreason, htexts⟩ := List.forall_mem_cons.mp htexts
    have hsmall : sourceIds.length < 256 ^ 2 := lt_of_le_of_lt hcount (by decide)
    exact ⟨_, hsmall, _, ⟨(), hcount, sourceIds, ⟨rfl, htexts, hids, fun _ _ => List.not_mem_nil⟩, _,
      ⟨reasonCode, ⟨hreason, rfl⟩, rfl⟩, rfl⟩, rfl⟩

/-- The helper takes the words of admissible measurements within its clock, with ids as it wants them. -/
theorem takes_measurement (capturedMonotonic : Double) :
    Takes (Helper.measurement capturedMonotonic) fun m word =>
      (m.Admissible ∧ ¬capturedMonotonic < m.observedMonotonic ∧ HelperIds m.sourceIds) ∧ m.IsWord word := by
  refine (takes_valueFields.bind fun value => (takes_clockFields capturedMonotonic value.1 value.2).word
    fun clocks => takes_sourceFields.map _).congr fun m word => ?_
  constructor
  · rintro ⟨value, -, -, ⟨hvalue, placeholder, rfl⟩, ⟨clocks, ⟨hat, hmonotonic, horder, hconfidence, hobserved⟩, -,
      ⟨sources, ⟨⟨hcount, htexts, hids⟩, rfl⟩, rfl⟩, rfl⟩, rfl⟩
    exact ⟨⟨⟨hvalue, hat, hmonotonic, hconfidence, hcount, hobserved, htexts⟩, horder, hids⟩, placeholder, by
      simp [Measurement.bytes]⟩
  · obtain ⟨value, observedAt, observedMonotonic, status, confidence, sourceIds, reasonCode⟩ := m
    rintro ⟨⟨⟨hvalue, hat, hmonotonic, hconfidence, hcount, hobserved, htexts⟩, horder, hids⟩, placeholder, rfl⟩
    exact ⟨(status, value), _, _, ⟨hvalue, placeholder, rfl⟩, ⟨(observedAt, observedMonotonic, confidence),
      ⟨hat, hmonotonic, horder, hconfidence, hobserved⟩, _, ⟨(sourceIds, reasonCode), ⟨⟨hcount, htexts, hids⟩, rfl⟩,
      rfl⟩, rfl⟩, rfl⟩

/-! ## The decoder of the helper -/

theorem measurementCount_iff {magic : List UInt8} {schemaVersion count : Nat} :
    Helper.measurementCount magic schemaVersion = .ok count ↔
      (magic = utf8 "VEI3" ∧ schemaVersion = 3 ∧ count = 4) ∨
      (magic = utf8 "VEI4" ∧ schemaVersion = 4 ∧ count = 7) := by
  have hne : utf8 "VEI3" ≠ utf8 "VEI4" := by
    rw [utf8_fixed.1, utf8_fixed.2.1]
    decide
  unfold Helper.measurementCount
  split
  · rename_i h
    obtain ⟨rfl, rfl⟩ := h
    simp [hne, eq_comm]
  · split
    · rename_i h
      obtain ⟨rfl, rfl⟩ := h
      simp [hne.symm, eq_comm]
    · rename_i h3 h4
      have hnone : ¬((magic = utf8 "VEI3" ∧ schemaVersion = 3 ∧ count = 4) ∨
          (magic = utf8 "VEI4" ∧ schemaVersion = 4 ∧ count = 7)) := by
        rintro (⟨hmagic, hversion, -⟩ | ⟨hmagic, hversion, -⟩)
        · exact h3 ⟨hmagic, hversion⟩
        · exact h4 ⟨hmagic, hversion⟩
      split <;> simp [hnone]

/-- The word of a header. -/
def headerWord (magic : String) (schemaVersion : Nat) (header : Helper.Header) : List UInt8 :=
  utf8 magic ++ (beBytes 1 schemaVersion ++ (beBytes 8 header.sequence.toNat ++
    (beBytes 8 header.topologyGeneration.toNat ++
      (doubleBytes header.capturedAt ++ doubleBytes header.capturedMonotonic))))

theorem takes_header : Takes Helper.header fun header word =>
    (header.capturedAt.Clock ∧ header.capturedMonotonic.Clock) ∧
      ((header.count = 4 ∧ word = headerWord "VEI3" 3 header) ∨
        (header.count = 7 ∧ word = headerWord "VEI4" 4 header)) := by
  refine ((takes_bytes 4 _).bind fun magic => (takes_unsigned 1 _).word fun schemaVersion =>
    (takes_lift _).check fun count => takes_u64.exactly fun sequence => takes_u64.exactly fun generation =>
    takes_f64.exactly fun capturedAt => takes_f64.exactly fun capturedMonotonic => (takes_clock _ _).check fun _ =>
    (takes_clock _ _).check fun _ => takes_pure _).congr fun header word => ?_
  constructor
  · rintro ⟨magic, first, -, ⟨rfl, -⟩, ⟨schemaVersion, -, -, ⟨count, hcount, sequence, -, ⟨generation, -, ⟨capturedAt,
      -, ⟨capturedMonotonic, -, ⟨-, hat, -, hmonotonic, rfl, rfl⟩, rfl⟩, rfl⟩, rfl⟩, rfl⟩, rfl⟩, rfl⟩
    refine ⟨⟨hat, hmonotonic⟩, ?_⟩
    rcases measurementCount_iff.mp hcount with ⟨rfl, rfl, rfl⟩ | ⟨rfl, rfl, rfl⟩
    · exact .inl ⟨rfl, by simp [headerWord]⟩
    · exact .inr ⟨rfl, by simp [headerWord]⟩
  · obtain ⟨count, sequence, generation, capturedAt, capturedMonotonic⟩ := header
    rintro ⟨⟨hat, hmonotonic⟩, hformat⟩
    have hmagic : ∃ magic schemaVersion, (utf8 magic).length = 4 ∧ schemaVersion < 256 ^ 1 ∧
        Helper.measurementCount (utf8 magic) schemaVersion = .ok count ∧
        word = headerWord magic schemaVersion ⟨count, sequence, generation, capturedAt, capturedMonotonic⟩ := by
      rcases hformat with ⟨hcount, hword⟩ | ⟨hcount, hword⟩
      · exact ⟨"VEI3", 3, by rw [utf8_fixed.1]; rfl, by decide, measurementCount_iff.mpr (.inl ⟨rfl, rfl, hcount⟩), hword⟩
      · exact ⟨"VEI4", 4, by rw [utf8_fixed.2.1]; rfl, by decide, measurementCount_iff.mpr (.inr ⟨rfl, rfl, hcount⟩), hword⟩
    obtain ⟨magic, schemaVersion, hlength, hversion, hcount, hword⟩ := hmagic
    exact ⟨utf8 magic, _, _, ⟨rfl, hlength⟩, ⟨schemaVersion, hversion, _, ⟨count, hcount, sequence, _, ⟨generation, _,
      ⟨capturedAt, _, ⟨capturedMonotonic, [], ⟨(), hat, (), hmonotonic, rfl, rfl⟩, (List.append_nil _).symm⟩, rfl⟩,
      rfl⟩, rfl⟩, rfl⟩, hword⟩

theorem unavailable_admissible : unavailableMeasurement.Admissible where
  value := nofun
  observedAt := by decide
  observedMonotonic := by decide
  confidence := by decide
  count := by decide
  contributing := nofun
  texts := by
    intro text htext
    obtain rfl := List.mem_singleton.mp htext
    rw [show unavailableMeasurement.reasonCode = "not-observed" from rfl, utf8_fixed.2.2]
    decide

theorem unavailable_not_after {capturedMonotonic : Double} (h : capturedMonotonic.Clock) :
    ¬capturedMonotonic < unavailableMeasurement.observedMonotonic :=
  (Double.not_lt_iff h.1 Double.zero_isFinite).mpr h.2

theorem takes_energyInputs : Takes Helper.energyInputs fun inputs word =>
    (inputs.Admissible ∧ ∀ m ∈ inputs.measurements, HelperIds m.sourceIds) ∧ inputs.IsWord word := by
  have hadded : ∀ header : Helper.Header, Takes (Helper.addedMeasurement header) _ :=
    fun header => (takes_measurement header.capturedMonotonic).ite (header.count = 7)
      (takes_pure unavailableMeasurement)
  refine (takes_header.bind fun header => (takes_measurement _).bind fun grid => (takes_measurement _).bind
    fun pv => (takes_measurement _).bind fun soc => (takes_measurement _).bind fun net =>
    (hadded header).bind fun wattHours => (hadded header).bind fun ampHours => (hadded header).bind fun voltage =>
    takes_pure _).congr fun inputs word => ?_
  constructor
  · rintro ⟨header, front, -, ⟨⟨hat, hmonotonic⟩, hformat⟩, ⟨grid, gridWord, -, ⟨hgrid, hgridWord⟩, ⟨pv, pvWord, -,
      ⟨hpv, hpvWord⟩, ⟨soc, socWord, -, ⟨hsoc, hsocWord⟩, ⟨net, netWord, -, ⟨hnet, hnetWord⟩, ⟨wattHours,
      wattHoursWord, -, ⟨hwattHours, hnoWattHours⟩, ⟨ampHours, ampHoursWord, -, ⟨hampHours, hnoAmpHours⟩,
      ⟨voltage, voltageWord, -, ⟨hvoltage, hnoVoltage⟩, ⟨rfl, rfl⟩, rfl⟩, rfl⟩, rfl⟩, rfl⟩, rfl⟩, rfl⟩, rfl⟩, rfl⟩
    have hall : ∀ m ∈ [wattHours, ampHours, voltage],
        (m.Admissible ∧ ¬header.capturedMonotonic < m.observedMonotonic) ∧ HelperIds m.sourceIds := by
      by_cases hcount : header.count = 7
      · simp only [List.forall_mem_cons]
        exact ⟨⟨⟨(hwattHours hcount).1.1, (hwattHours hcount).1.2.1⟩, (hwattHours hcount).1.2.2⟩,
          ⟨⟨(hampHours hcount).1.1, (hampHours hcount).1.2.1⟩, (hampHours hcount).1.2.2⟩,
          ⟨⟨(hvoltage hcount).1.1, (hvoltage hcount).1.2.1⟩, (hvoltage hcount).1.2.2⟩, nofun⟩
      · have hmissing : (unavailableMeasurement.Admissible ∧
            ¬header.capturedMonotonic < unavailableMeasurement.observedMonotonic) ∧ HelperIds [] :=
          ⟨⟨unavailable_admissible, unavailable_not_after hmonotonic⟩, nofun, List.nodup_nil⟩
        simp only [List.forall_mem_cons, (hnoWattHours hcount).1, (hnoAmpHours hcount).1, (hnoVoltage hcount).1]
        exact ⟨hmissing, hmissing, hmissing, nofun⟩
    simp only [List.forall_mem_cons] at hall
    obtain ⟨hwattHours', hampHours', hvoltage', -⟩ := hall
    refine ⟨⟨⟨hat, hmonotonic, ?_⟩, ?_⟩, ?_⟩
    · simp only [EnergyInputs.measurements, List.forall_mem_cons]
      exact ⟨⟨hgrid.1, hgrid.2.1⟩, ⟨hpv.1, hpv.2.1⟩, ⟨hsoc.1, hsoc.2.1⟩, ⟨hnet.1, hnet.2.1⟩, hwattHours'.1,
        hampHours'.1, hvoltage'.1, nofun⟩
    · simp only [EnergyInputs.measurements, List.forall_mem_cons]
      exact ⟨hgrid.2.2, hpv.2.2, hsoc.2.2, hnet.2.2, hwattHours'.2, hampHours'.2, hvoltage'.2, nofun⟩
    -- The short format ends after four measurements, and the rest is filled in.
    · rcases hformat with ⟨hcount, rfl⟩ | ⟨hcount, rfl⟩
      · have h7 : ¬header.count = 7 := by omega
        obtain ⟨rfl, rfl⟩ := hnoWattHours h7
        obtain ⟨rfl, rfl⟩ := hnoAmpHours h7
        obtain ⟨rfl, rfl⟩ := hnoVoltage h7
        exact .inr ⟨[gridWord, pvWord, socWord, netWord],
          .cons hgridWord (.cons hpvWord (.cons hsocWord (.cons hnetWord .nil))), rfl,
          by simp [headerWord, headerBytes]⟩
      · exact .inl ⟨[gridWord, pvWord, socWord, netWord, wattHoursWord, ampHoursWord, voltageWord],
          .cons hgridWord (.cons hpvWord (.cons hsocWord (.cons hnetWord (.cons (hwattHours hcount).2
            (.cons (hampHours hcount).2 (.cons (hvoltage hcount).2 .nil)))))),
          by simp [headerWord, headerBytes]⟩
  · obtain ⟨sequence, generation, capturedAt, capturedMonotonic, grid, pv, soc, net, wattHours, ampHours,
      voltage⟩ := inputs
    rintro ⟨⟨⟨hat, hmonotonic, hmeasurements⟩, hids⟩, hword⟩
    simp only [EnergyInputs.measurements, List.forall_mem_cons] at hmeasurements hids
    obtain ⟨hgrid, hpv, hsoc, hnet, hwattHours, hampHours, hvoltage, -⟩ := hmeasurements
    obtain ⟨hgridIds, hpvIds, hsocIds, hnetIds, hwattHoursIds, hampHoursIds, hvoltageIds, -⟩ := hids
    rcases hword with ⟨words, hwords, rfl⟩ | ⟨words, hwords, hmissing, rfl⟩
    · simp only [EnergyInputs.measurements, List.forall₂_cons_left_iff, List.forall₂_nil_left_iff] at hwords
      obtain ⟨gridWord, -, hgridWord, ⟨pvWord, -, hpvWord, ⟨socWord, -, hsocWord, ⟨netWord, -, hnetWord,
        ⟨wattHoursWord, -, hwattHoursWord, ⟨ampHoursWord, -, hampHoursWord, ⟨voltageWord, -, hvoltageWord, rfl,
        rfl⟩, rfl⟩, rfl⟩, rfl⟩, rfl⟩, rfl⟩, rfl⟩ := hwords
      let header : Helper.Header := ⟨7, sequence, generation, capturedAt, capturedMonotonic⟩
      refine ⟨header, _, _, ⟨⟨hat, hmonotonic⟩, .inr ⟨rfl, rfl⟩⟩,
        ⟨grid, _, _, ⟨⟨hgrid.1, hgrid.2, hgridIds⟩, hgridWord⟩,
        ⟨pv, _, _, ⟨⟨hpv.1, hpv.2, hpvIds⟩, hpvWord⟩,
        ⟨soc, _, _, ⟨⟨hsoc.1, hsoc.2, hsocIds⟩, hsocWord⟩,
        ⟨net, _, _, ⟨⟨hnet.1, hnet.2, hnetIds⟩, hnetWord⟩,
        ⟨wattHours, _, _, ⟨fun _ => ⟨⟨hwattHours.1, hwattHours.2, hwattHoursIds⟩, hwattHoursWord⟩,
          fun h => absurd rfl h⟩,
        ⟨ampHours, _, _, ⟨fun _ => ⟨⟨hampHours.1, hampHours.2, hampHoursIds⟩, hampHoursWord⟩,
          fun h => absurd rfl h⟩,
        ⟨voltage, _, _, ⟨fun _ => ⟨⟨hvoltage.1, hvoltage.2, hvoltageIds⟩, hvoltageWord⟩,
          fun h => absurd rfl h⟩, ⟨rfl, rfl⟩, rfl⟩, rfl⟩, rfl⟩, rfl⟩, rfl⟩, rfl⟩, rfl⟩, ?_⟩
      simp [header, headerWord, headerBytes]
    · simp only [EnergyInputs.measurements, List.take_succ_cons, List.take_zero, List.forall₂_cons_left_iff,
        List.forall₂_nil_left_iff] at hwords
      obtain ⟨gridWord, -, hgridWord, ⟨pvWord, -, hpvWord, ⟨socWord, -, hsocWord, ⟨netWord, -, hnetWord, rfl,
        rfl⟩, rfl⟩, rfl⟩, rfl⟩ := hwords
      obtain ⟨rfl, rfl, rfl⟩ : wattHours = unavailableMeasurement ∧ ampHours = unavailableMeasurement ∧
          voltage = unavailableMeasurement := by
        simpa [EnergyInputs.measurements, List.replicate] using hmissing
      let header : Helper.Header := ⟨4, sequence, generation, capturedAt, capturedMonotonic⟩
      have h7 : ¬header.count = 7 := by simp [header]
      refine ⟨header, _, _, ⟨⟨hat, hmonotonic⟩, .inl ⟨rfl, rfl⟩⟩,
        ⟨grid, _, _, ⟨⟨hgrid.1, hgrid.2, hgridIds⟩, hgridWord⟩,
        ⟨pv, _, _, ⟨⟨hpv.1, hpv.2, hpvIds⟩, hpvWord⟩,
        ⟨soc, _, _, ⟨⟨hsoc.1, hsoc.2, hsocIds⟩, hsocWord⟩,
        ⟨net, _, _, ⟨⟨hnet.1, hnet.2, hnetIds⟩, hnetWord⟩,
        ⟨_, [], _, ⟨fun h => absurd h h7, fun _ => ⟨rfl, rfl⟩⟩,
        ⟨_, [], _, ⟨fun h => absurd h h7, fun _ => ⟨rfl, rfl⟩⟩,
        ⟨_, [], [], ⟨fun h => absurd h h7, fun _ => ⟨rfl, rfl⟩⟩, ⟨rfl, rfl⟩, rfl⟩, rfl⟩, rfl⟩, rfl⟩, rfl⟩, rfl⟩,
        rfl⟩, ?_⟩
      simp [header, headerWord, headerBytes]

theorem helper_decode_iff {payload : List UInt8} {inputs : EnergyInputs} :
    Helper.decodeEnergyInputs payload = .ok inputs ↔ payload.length ≤ maxPayloadBytes ∧
      (inputs.Admissible ∧ ∀ m ∈ inputs.measurements, HelperIds m.sourceIds) ∧ inputs.IsWord payload := by
  unfold Helper.decodeEnergyInputs
  rw [← takes_energyInputs.run_nil]
  split
  · rename_i hlong
    exact ⟨nofun, fun h => absurd h.1 (Nat.not_le.mpr hlong)⟩
  · rename_i hshort
    constructor
    · intro h
      split at h
      · nomatch h
      · rename_i result hrun
        obtain rfl := Except.ok.inj h
        exact ⟨Nat.not_lt.mp hshort, hrun⟩
      · nomatch h
    · rintro ⟨-, hrun⟩
      rw [hrun]

end VenusEvcharger.Energy
