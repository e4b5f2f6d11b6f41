import VenusEvcharger.Energy.CodecAgreement

/-!
# The codec of the service

`encode_energy_inputs` of the Python service, next to its decoder. The data classes check their fields when they are
built, but keep them as they are given: a status with blanks around it passes `value_status`, and is no key of
`_STATUS_TO_CODE`. `binary_codec` is about the snapshots whose statuses are of the declared type.

Scope: a number that is declared a float is a float, and texts are Unicode scalar values.
-/

namespace VenusEvcharger.Energy.Binary

open Library Library.Reader

/-! ## The data classes -/

/-- `MeasuredValue`, before its checks. -/
structure MeasuredValue where
  value : Option Double
  observedAt : Double
  status : String
  confidence : Double
  sourceIds : List String
  reasonCode : String
  observedMonotonic : Double

/-- `EnergyInputsSnapshot`, before its checks. -/
structure EnergyInputsSnapshot where
  sequence : Int
  capturedAt : Double
  topologyGeneration : Int
  gridPowerW : MeasuredValue
  pvPowerW : MeasuredValue
  batterySoc : MeasuredValue
  batteryNetPowerW : MeasuredValue
  batteryCapacityWh : MeasuredValue
  batteryCapacityAh : MeasuredValue
  batteryVoltageV : MeasuredValue
  schemaVersion : Int
  capturedMonotonic : Double

/-- The measurements with their names, in the order of the wire. -/
def EnergyInputsSnapshot.named (s : EnergyInputsSnapshot) : List (String × MeasuredValue) :=
  [("grid_power_w", s.gridPowerW), ("pv_power_w", s.pvPowerW), ("battery_soc", s.batterySoc),
    ("battery_net_power_w", s.batteryNetPowerW), ("battery_capacity_wh", s.batteryCapacityWh),
    ("battery_capacity_ah", s.batteryCapacityAh), ("battery_voltage_v", s.batteryVoltageV)]

def EnergyInputsSnapshot.measurements (s : EnergyInputsSnapshot) : List MeasuredValue := s.named.map Prod.snd

/-- `EnergyValueStatus`: the texts, with what `value_status` makes of each. -/
def valueStatuses : List (String × MeasurementStatus) :=
  [("fresh", .fresh), ("stale", .stale), ("unavailable", .unavailable), ("error", .error), ("unknown", .unknown)]

/-- `value_status`, which strips the text. -/
def valueStatus (status : String) : Except String MeasurementStatus :=
  if strip status = "" then .error "measurement status must not be empty"
  else
    match valueStatuses.lookup (strip status) with
    | some status => .ok status
    | none => .error ("measurement status has invalid value '" ++ strip status ++ "'")

/-- The measurement with a status that was read. -/
def MeasuredValue.measurement (m : MeasuredValue) (status : MeasurementStatus) : Measurement :=
  ⟨m.value, m.observedAt, m.observedMonotonic, status, m.confidence, m.sourceIds, m.reasonCode⟩

/-- `MeasuredValue.__post_init__` on the status as it is given. -/
def MeasuredValue.validate (m : MeasuredValue) : Except String Unit := do
  optionalFiniteFloat m.value "measurement value"
  nonNegativeFloat m.observedAt "measurement observed_at"
  nonNegativeFloat m.observedMonotonic "measurement observed_monotonic"
  let status ← valueStatus m.status
  unitFloat m.confidence "measurement confidence"
  textTuple m.sourceIds "measurement source_ids"
  validateObservedValue (m.measurement status)

/-- `non_negative_int`. -/
def nonNegativeInt (value : Int) (label : String) : Except String Unit :=
  if value < 0 then .error (label ++ " must be non-negative") else .ok ()

/-- `schema_version`. -/
def schemaVersion (value : Int) (label : String) (expected : Int) : Except String Unit := do
  nonNegativeInt value (label ++ " schema_version")
  if value ≠ expected then .error (label ++ " has an unsupported schema_version") else .ok ()

/-- `EnergyInputsSnapshot.__post_init__`, where the measurements have passed their own checks. -/
def EnergyInputsSnapshot.validate (s : EnergyInputsSnapshot) : Except String Unit := do
  Binary.schemaVersion s.schemaVersion "energy inputs" 4
  nonNegativeInt s.sequence "energy inputs sequence"
  positiveFloat s.capturedAt "energy inputs captured_at"
  positiveFloat s.capturedMonotonic "energy inputs captured_monotonic"
  nonNegativeInt s.topologyGeneration "energy inputs topology_generation"
  match s.named.find? fun field => decide (s.capturedMonotonic < field.2.observedMonotonic) with
  | some (name, _) => .error ("energy inputs " ++ name ++ " observed_monotonic exceeds captured_monotonic")
  | none => .ok ()

/-- The snapshot and its measurements could be built. -/
structure EnergyInputsSnapshot.Accepted (s : EnergyInputsSnapshot) : Prop where
  snapshot : s.validate = .ok ()
  measurements : ∀ m ∈ s.measurements, m.validate = .ok ()

/-- The statuses are of the declared type. -/
def EnergyInputsSnapshot.Typed (s : EnergyInputsSnapshot) : Prop :=
  ∀ m ∈ s.measurements, ∃ status, m.status = statusText status

/-- What the decoder makes of a measurement, as the data class. -/
def measuredValueOf (m : Measurement) : MeasuredValue :=
  ⟨m.value, m.observedAt, statusText m.status, m.confidence, m.sourceIds, m.reasonCode, m.observedMonotonic⟩

/-- What the decoder makes of a payload, as the data class. -/
def snapshotOf (inputs : EnergyInputs) : EnergyInputsSnapshot where
  sequence := inputs.sequence.toNat
  capturedAt := inputs.capturedAt
  topologyGeneration := inputs.topologyGeneration.toNat
  gridPowerW := measuredValueOf inputs.gridPowerW
  pvPowerW := measuredValueOf inputs.pvPowerW
  batterySoc := measuredValueOf inputs.batterySoc
  batteryNetPowerW := measuredValueOf inputs.batteryNetPowerW
  batteryCapacityWh := measuredValueOf inputs.batteryCapacityWh
  batteryCapacityAh := measuredValueOf inputs.batteryCapacityAh
  batteryVoltageV := measuredValueOf inputs.batteryVoltageV
  schemaVersion := 4
  capturedMonotonic := inputs.capturedMonotonic

/-! ## The encoder -/

/-- What `encode_energy_inputs` raises. -/
inductive EncodeError where
  | valueError (text : String)
  | keyError (key : String)
deriving DecidableEq

/-- `_pack`: numbers beyond the size of their field are refused. -/
def pack (sizes : List Nat) (values : List Int) : Except EncodeError (List UInt8) :=
  if ∀ field ∈ sizes.zip values, 0 ≤ field.2 ∧ field.2 < 256 ^ field.1 then
    .ok (recordBytes sizes (values.map Int.toNat))
  else .error (.valueError "energy inputs value is outside the binary wire range")

/-- `_encode_text`. -/
def encodeText (value : String) : Except EncodeError (List UInt8) :=
  if 65535 < (utf8 value).length then .error (.valueError "energy inputs text field exceeds the size limit")
  else .ok (textBytes value)

/-- `_STATUS_TO_CODE[status]`. -/
def statusToCode (status : String) : Except EncodeError Nat :=
  match valueStatuses.lookup status with
  | some status => .ok status.code
  | none => .error (.keyError status)

/-- A double as the number of its field. -/
def bitsOf (x : Double) : Int := x.bits.toNat

/-- `_encode_measurement`. -/
def encodeMeasurement (m : MeasuredValue) : Except EncodeError (List UInt8) :=
  if maxSourceIds < m.sourceIds.length then .error (.valueError "energy measurement has too many source_ids")
  else do
    let code ← statusToCode m.status
    let fields ← pack [1, 1, 8, 8, 8, 8, 2]
      [code, if m.value.isSome then 1 else 0, bitsOf (m.value.getD .zero), bitsOf m.observedAt,
        bitsOf m.observedMonotonic, bitsOf m.confidence, m.sourceIds.length]
    let sourceIds ← m.sourceIds.mapM encodeText
    let reasonCode ← encodeText m.reasonCode
    return fields ++ (sourceIds.flatten ++ reasonCode)

/-- `encode_energy_inputs`. -/
def encodeEnergyInputs (s : EnergyInputsSnapshot) : Except EncodeError (List UInt8) := do
  let header ← pack [4, 1, 8, 8, 8, 8]
    [ofBe (utf8 "VEI4"), s.schemaVersion, s.sequence, s.topologyGeneration, bitsOf s.capturedAt, bitsOf s.capturedMonotonic]
  let chunks ← s.measurements.mapM encodeMeasurement
  let payload := header ++ chunks.flatten
  if maxPayloadBytes < payload.length then .error (.valueError "energy inputs binary payload exceeds the size limit")
  else return payload

/-- The bytes of a measurement on the wire. -/
def MeasuredValue.size (m : MeasuredValue) : Nat :=
  36 + ((m.reasonCode :: m.sourceIds).map fun text => 2 + (utf8 text).length).sum

/-- The numbers, the counts, the texts and the payload are within the limits of the wire. -/
structure EnergyInputsSnapshot.FitsWire (s : EnergyInputsSnapshot) : Prop where
  sequence : s.sequence < 2 ^ 64
  generation : s.topologyGeneration < 2 ^ 64
  counts : ∀ m ∈ s.measurements, m.sourceIds.length ≤ maxSourceIds
  texts : ∀ m ∈ s.measurements, ∀ text ∈ m.reasonCode :: m.sourceIds, (utf8 text).length < 65536
  size : 37 + (s.measurements.map MeasuredValue.size).sum ≤ maxPayloadBytes

/-! ## What the parts of the encoder write -/

theorem pack_ok {sizes : List Nat} {values : List Int}
    (h : ∀ field ∈ sizes.zip values, 0 ≤ field.2 ∧ field.2 < 256 ^ field.1) :
    pack sizes values = .ok (recordBytes sizes (values.map Int.toNat)) := if_pos h

theorem pack_eq_ok {sizes : List Nat} {values : List Int} {word : List UInt8} (h : pack sizes values = .ok word) :
    ∀ field ∈ sizes.zip values, 0 ≤ field.2 ∧ field.2 < 256 ^ field.1 := by
  by_contra hout
  rw [pack, if_neg hout] at h
  nomatch h

theorem encodeText_iff {value : String} {word : List UInt8} :
    encodeText value = .ok word ↔ (utf8 value).length < 65536 ∧ word = textBytes value := by
  rw [encodeText]
  split
  · rename_i hlong
    exact iff_of_false nofun fun h => absurd h.1 (by omega)
  · rename_i hshort
    constructor
    · intro h
      exact ⟨by omega, (Except.ok.inj h).symm⟩
    · rintro ⟨-, rfl⟩
      rfl

theorem encodeTexts_iff {values : List String} {words : List (List UInt8)} :
    values.mapM encodeText = .ok words ↔ (∀ value ∈ values, (utf8 value).length < 65536) ∧ words = values.map textBytes :=
  mapM_eq_ok_map_iff fun _ _ => encodeText_iff

theorem statusToCode_statusText (status : MeasurementStatus) : statusToCode (statusText status) = .ok status.code := by
  cases status <;> rfl

theorem valueStatus_statusText (status : MeasurementStatus) : valueStatus (statusText status) = .ok status := by
  have hfound : ∀ text, strip text = text → text ≠ "" → valueStatuses.lookup text = some status →
      valueStatus text = .ok status := by
    intro text hstrip hne hlookup
    rw [valueStatus, hstrip, if_neg hne, hlookup]
  cases status with
  | fresh => exact hfound _ rfl (by decide) rfl
  | stale => exact hfound _ rfl (by decide) rfl
  | unavailable => exact hfound _ rfl (by decide) rfl
  | error => exact hfound _ rfl (by decide) rfl
  | unknown => exact hfound _ rfl (by decide) rfl

/-- The numbers in front of the texts of a measurement. -/
def measurementNumbers (m : Measurement) : List Int :=
  [m.status.code, if m.value.isSome then 1 else 0, bitsOf (m.value.getD .zero), bitsOf m.observedAt,
    bitsOf m.observedMonotonic, bitsOf m.confidence, m.sourceIds.length]

theorem bitsOf_lt (x : Double) : 0 ≤ bitsOf x ∧ bitsOf x < 256 ^ 8 := by
  have hlt : x.bits.toNat < 2 ^ 64 := x.bits.toNat_lt
  unfold bitsOf
  omega

/-- With few enough source ids they fit their fields. -/
theorem pack_measurementNumbers {m : Measurement} (hcount : m.sourceIds.length ≤ maxSourceIds) :
    pack [1, 1, 8, 8, 8, 8, 2] (measurementNumbers m) =
      .ok (recordBytes [1, 1, 8, 8, 8, 8, 2] ((measurementNumbers m).map Int.toNat)) := by
  have hcode : m.status.code < 256 := by cases m.status <;> decide
  have hsmall : m.sourceIds.length ≤ 64 := hcount
  have hflag : ∀ b : Bool, 0 ≤ (if b = true then 1 else 0 : Int) ∧ (if b = true then 1 else 0 : Int) < 256 ^ 1 := by
    intro b
    cases b <;> decide
  refine pack_ok ?_
  simp only [measurementNumbers, List.zip_cons_cons, List.zip_nil_right, List.forall_mem_cons]
  refine ⟨⟨by omega, by omega⟩, hflag _, bitsOf_lt _, bitsOf_lt _, bitsOf_lt _, bitsOf_lt _, ⟨by omega, by omega⟩, ?_⟩
  intro field hfield
  exact absurd hfield List.not_mem_nil

theorem recordBytes_measurementNumbers (m : Measurement) :
    recordBytes [1, 1, 8, 8, 8, 8, 2] ((measurementNumbers m).map Int.toNat) ++
      ((m.sourceIds.map textBytes).flatten ++ textBytes m.reasonCode) = m.bytes .zero := by
  have hflag : (if m.value.isSome = true then 1 else 0 : Int).toNat = if m.value.isSome = true then 1 else 0 := by
    split <;> rfl
  simp [recordBytes, measurementNumbers, Measurement.bytes, bitsOf, doubleBytes, hflag]

/-- A measurement within the limits is written as its word. -/
theorem encodeMeasuredValue_iff {m : Measurement} {word : List UInt8} :
    encodeMeasurement (measuredValueOf m) = .ok word ↔
      (m.sourceIds.length ≤ maxSourceIds ∧ ∀ text ∈ m.reasonCode :: m.sourceIds, (utf8 text).length < 65536) ∧
        word = m.bytes .zero := by
  by_cases hcount : maxSourceIds < m.sourceIds.length
  · have hmany : encodeMeasurement (measuredValueOf m) = .error (.valueError "energy measurement has too many source_ids") :=
      if_pos hcount
    rw [hmany]
    exact iff_of_false nofun fun h => absurd h.1.1 (Nat.not_le.mpr hcount)
  · have hfields : pack [1, 1, 8, 8, 8, 8, 2] [(m.status.code : Int), if (measuredValueOf m).value.isSome then 1 else 0,
        bitsOf ((measuredValueOf m).value.getD .zero), bitsOf (measuredValueOf m).observedAt,
        bitsOf (measuredValueOf m).observedMonotonic, bitsOf (measuredValueOf m).confidence,
        (measuredValueOf m).sourceIds.length] = _ := pack_measurementNumbers (Nat.not_lt.mp hcount)
    have hstatus : statusToCode (measuredValueOf m).status = .ok m.status.code := statusToCode_statusText _
    have hcount' : ¬maxSourceIds < (measuredValueOf m).sourceIds.length := hcount
    rw [encodeMeasurement, if_neg hcount', hstatus]
    simp only [Except.ok.injEq, exists_eq_left', bind_eq_ok, hfields, encodeTexts_iff, encodeText_iff, List.forall_mem_cons]
    constructor
    · rintro ⟨ids, ⟨hids, rfl⟩, reason, ⟨hreason, rfl⟩, h⟩
      refine ⟨⟨Nat.not_lt.mp hcount, hreason, hids⟩, ?_⟩
      rw [← recordBytes_measurementNumbers]
      exact (Except.ok.inj h).symm
    · rintro ⟨⟨-, hreason, hids⟩, rfl⟩
      refine ⟨_, ⟨hids, rfl⟩, _, ⟨hreason, rfl⟩, ?_⟩
      rw [← recordBytes_measurementNumbers]
      rfl

theorem encodeMeasuredValues_iff {ms : List Measurement} {words : List (List UInt8)} :
    (ms.map measuredValueOf).mapM encodeMeasurement = .ok words ↔
      (∀ m ∈ ms, m.sourceIds.length ≤ maxSourceIds ∧ ∀ text ∈ m.reasonCode :: m.sourceIds, (utf8 text).length < 65536) ∧
        words = ms.map fun m => m.bytes .zero := by
  rw [List.mapM_map]
  exact mapM_eq_ok_map_iff fun _ _ => encodeMeasuredValue_iff

/-! ## Sizes -/

theorem length_textBytes (text : String) : (textBytes text).length = 2 + (utf8 text).length := by
  rw [textBytes, List.length_append, length_beBytes]

theorem length_bytes (m : Measurement) : (m.bytes .zero).length = (measuredValueOf m).size := by
  have hids : ((m.sourceIds.map textBytes).flatten).length = (m.sourceIds.map fun text => 2 + (utf8 text).length).sum := by
    rw [List.length_flatten, List.map_map]
    exact congrArg List.sum (List.map_congr_left fun text _ => length_textBytes text)
  simp only [Measurement.bytes, doubleBytes, List.length_append, length_beBytes, hids, length_textBytes,
    MeasuredValue.size, measuredValueOf, List.map_cons, List.sum_cons]
  omega

theorem length_header (inputs : EnergyInputs) : (headerBytes "VEI4" 4 inputs).length = 37 := by
  have hmagic : (utf8 "VEI4").length = 4 := by
    rw [utf8_fixed.2.1]
    rfl
  simp only [headerBytes, doubleBytes, List.length_append, length_beBytes, hmagic]

/-- The payload is as long as its parts. -/
theorem length_payload (inputs : EnergyInputs) :
    (headerBytes "VEI4" 4 inputs ++ (inputs.measurements.map fun m => m.bytes .zero).flatten).length =
      37 + ((snapshotOf inputs).measurements.map MeasuredValue.size).sum := by
  have hmeasurements : (snapshotOf inputs).measurements = inputs.measurements.map measuredValueOf := rfl
  rw [List.length_append, length_header, List.length_flatten, hmeasurements, List.map_map, List.map_map]
  exact congrArg (fun sizes => 37 + List.sum sizes) (List.map_congr_left fun m _ => length_bytes m)

/-! ## What the encoder writes -/

/-- The header of a snapshot that the wire can hold. -/
theorem pack_header (inputs : EnergyInputs) :
    pack [4, 1, 8, 8, 8, 8] [ofBe (utf8 "VEI4"), 4, inputs.sequence.toNat, inputs.topologyGeneration.toNat,
      bitsOf inputs.capturedAt, bitsOf inputs.capturedMonotonic] = .ok (headerBytes "VEI4" 4 inputs) := by
  have hmagic : beBytes 4 (ofBe (utf8 "VEI4")) = utf8 "VEI4" := by
    rw [utf8_fixed.2.1]
    exact beBytes_ofBe [86, 69, 73, 52]
  have hmagicLt : ofBe (utf8 "VEI4") < 256 ^ 4 := by
    rw [utf8_fixed.2.1]
    exact ofBe_lt [86, 69, 73, 52]
  have hsequence : inputs.sequence.toNat < 2 ^ 64 := inputs.sequence.toNat_lt
  have hgeneration : inputs.topologyGeneration.toNat < 2 ^ 64 := inputs.topologyGeneration.toNat_lt
  rw [pack_ok]
  · simp [recordBytes, headerBytes, bitsOf, doubleBytes, hmagic]
  · simp only [List.zip_cons_cons, List.zip_nil_right, List.forall_mem_cons]
    refine ⟨⟨by omega, by omega⟩, ⟨by omega, by omega⟩, ⟨by omega, by omega⟩, ⟨by omega, by omega⟩, bitsOf_lt _,
      bitsOf_lt _, ?_⟩
    intro field hfield
    exact absurd hfield List.not_mem_nil

variable {inputs : EnergyInputs} {payload : List UInt8}

/-- A snapshot that was decoded is encoded exactly when it fits, and as its word. -/
theorem encode_snapshotOf :
    encodeEnergyInputs (snapshotOf inputs) = .ok payload ↔ (snapshotOf inputs).FitsWire ∧
      payload = headerBytes "VEI4" 4 inputs ++ (inputs.measurements.map fun m => m.bytes .zero).flatten := by
  have hmeasurements : (snapshotOf inputs).measurements = inputs.measurements.map measuredValueOf := rfl
  have hheader : pack [4, 1, 8, 8, 8, 8] [ofBe (utf8 "VEI4"), (snapshotOf inputs).schemaVersion,
      (snapshotOf inputs).sequence, (snapshotOf inputs).topologyGeneration, bitsOf (snapshotOf inputs).capturedAt,
      bitsOf (snapshotOf inputs).capturedMonotonic] = .ok (headerBytes "VEI4" 4 inputs) := pack_header inputs
  have hsequence : (snapshotOf inputs).sequence < 2 ^ 64 := by
    have hlt : inputs.sequence.toNat < 2 ^ 64 := inputs.sequence.toNat_lt
    show (inputs.sequence.toNat : Int) < 2 ^ 64
    omega
  have hgeneration : (snapshotOf inputs).topologyGeneration < 2 ^ 64 := by
    have hlt : inputs.topologyGeneration.toNat < 2 ^ 64 := inputs.topologyGeneration.toNat_lt
    show (inputs.topologyGeneration.toNat : Int) < 2 ^ 64
    omega
  rw [encodeEnergyInputs, hheader, hmeasurements, bind_eq_ok]
  simp only [Except.ok.injEq, exists_eq_left', bind_eq_ok, encodeMeasuredValues_iff]
  have hfits : (snapshotOf inputs).FitsWire ↔ (∀ m ∈ inputs.measurements, m.sourceIds.length ≤ maxSourceIds ∧
      ∀ text ∈ m.reasonCode :: m.sourceIds, (utf8 text).length < 65536) ∧
      (headerBytes "VEI4" 4 inputs ++ (inputs.measurements.map fun m => m.bytes .zero).flatten).length ≤
        maxPayloadBytes := by
    rw [length_payload]
    constructor
    · intro h
      refine ⟨fun m hm => ?_, h.size⟩
      have hmem : measuredValueOf m ∈ (snapshotOf inputs).measurements := by
        rw [hmeasurements]
        exact List.mem_map_of_mem hm
      exact ⟨h.counts _ hmem, h.texts _ hmem⟩
    · rintro ⟨hall, hsize⟩
      refine ⟨hsequence, hgeneration, ?_, ?_, hsize⟩
      · intro m hm
        rw [hmeasurements] at hm
        obtain ⟨measurement, hmem, rfl⟩ := List.mem_map.mp hm
        exact (hall measurement hmem).1
      · intro m hm
        rw [hmeasurements] at hm
        obtain ⟨measurement, hmem, rfl⟩ := List.mem_map.mp hm
        exact (hall measurement hmem).2
  rw [hfits]
  constructor
  · rintro ⟨words, ⟨hall, rfl⟩, h⟩
    split at h
    · nomatch h
    · rename_i hshort
      exact ⟨⟨hall, Nat.not_lt.mp hshort⟩, (Except.ok.inj h).symm⟩
  · rintro ⟨⟨hall, hshort⟩, rfl⟩
    exact ⟨_, ⟨hall, rfl⟩, if_neg (Nat.not_lt.mpr hshort)⟩

/-! ## What the data classes accept -/

/-- The checks of a measurement with a status of the declared type. -/
theorem validate_measuredValueOf {m : Measurement} : (measuredValueOf m).validate = .ok () ↔
    (∀ value ∈ m.value, value.isFinite = true) ∧ m.observedAt.Clock ∧ m.observedMonotonic.Clock ∧
      (m.confidence.isFinite = true ∧ Double.zero ≤ m.confidence ∧ m.confidence ≤ Double.one) ∧ StrictIds m.sourceIds ∧
      (m.status.contributes = true → m.value ≠ none ∧ ¬m.observedAt ≤ Double.zero ∧ ¬m.observedMonotonic ≤ Double.zero) := by
  have hstatus : valueStatus (measuredValueOf m).status = .ok m.status := valueStatus_statusText _
  rw [MeasuredValue.validate, hstatus, bind_unit_eq_ok, bind_unit_eq_ok, bind_unit_eq_ok, optionalFiniteFloat_iff,
    nonNegativeFloat_iff, nonNegativeFloat_iff]
  show _ ∧ _ ∧ _ ∧ (unitFloat m.confidence _ >>= fun _ => textTuple m.sourceIds _ >>= fun _ =>
    validateObservedValue m) = .ok () ↔ _
  rw [bind_unit_eq_ok, bind_unit_eq_ok, unitFloat_iff, textTuple_iff, validateObservedValue_iff]
  rfl

theorem nonNegativeInt_iff {value : Int} {label : String} : nonNegativeInt value label = .ok () ↔ 0 ≤ value := by
  rw [nonNegativeInt]
  split
  · exact iff_of_false nofun (by omega)
  · exact iff_of_true rfl (by omega)

variable {s : EnergyInputsSnapshot}

theorem validate_snapshot_iff : s.validate = .ok () ↔
    s.schemaVersion = 4 ∧ 0 ≤ s.sequence ∧ (s.capturedAt.isFinite = true ∧ ¬s.capturedAt ≤ Double.zero) ∧
      (s.capturedMonotonic.isFinite = true ∧ ¬s.capturedMonotonic ≤ Double.zero) ∧ 0 ≤ s.topologyGeneration ∧
      ∀ m ∈ s.measurements, ¬s.capturedMonotonic < m.observedMonotonic := by
  have hversion : Binary.schemaVersion s.schemaVersion "energy inputs" 4 = .ok () ↔ s.schemaVersion = 4 := by
    rw [Binary.schemaVersion, bind_unit_eq_ok, nonNegativeInt_iff]
    split
    · rename_i hne
      exact iff_of_false (fun h => nomatch h.2) hne
    · rename_i heq
      exact iff_of_true ⟨by omega, rfl⟩ (by omega)
  have hclocks : (match s.named.find? fun field => decide (s.capturedMonotonic < field.2.observedMonotonic) with
      | some (name, _) => (.error ("energy inputs " ++ name ++ " observed_monotonic exceeds captured_monotonic") :
          Except String Unit)
      | none => .ok ()) = .ok () ↔ ∀ m ∈ s.measurements, ¬s.capturedMonotonic < m.observedMonotonic := by
    have hall : (∀ m ∈ s.measurements, ¬s.capturedMonotonic < m.observedMonotonic) ↔
        s.named.find? (fun field => decide (s.capturedMonotonic < field.2.observedMonotonic)) = none := by
      simp only [EnergyInputsSnapshot.measurements, List.forall_mem_map, List.find?_eq_none, decide_eq_true_eq]
    rw [hall]
    split
    · rename_i hfound
      rw [hfound]
      exact iff_of_false nofun nofun
    · rename_i hnone
      exact iff_of_true rfl hnone
  rw [EnergyInputsSnapshot.validate, bind_unit_eq_ok, bind_unit_eq_ok, bind_unit_eq_ok, bind_unit_eq_ok,
    bind_unit_eq_ok, hversion, nonNegativeInt_iff, positiveFloat_iff, positiveFloat_iff, nonNegativeInt_iff, hclocks]

theorem exists_measuredValueOf {m : MeasuredValue} (h : ∃ status, m.status = statusText status) :
    ∃ measurement, measuredValueOf measurement = m := by
  obtain ⟨value, observedAt, text, confidence, sourceIds, reasonCode, observedMonotonic⟩ := m
  obtain ⟨status, rfl⟩ := h
  exact ⟨⟨value, observedAt, observedMonotonic, status, confidence, sourceIds, reasonCode⟩, rfl⟩

/-- A snapshot of the declared type whose numbers fit is one that can be decoded. -/
theorem exists_snapshotOf (htyped : s.Typed) (hvalid : s.validate = .ok ())
    (hsequence : s.sequence < 2 ^ 64) (hgeneration : s.topologyGeneration < 2 ^ 64) :
    ∃ inputs, snapshotOf inputs = s := by
  obtain ⟨hversion, hsequence', -, -, hgeneration', -⟩ := validate_snapshot_iff.mp hvalid
  obtain ⟨sequence, capturedAt, generation, grid, pv, soc, net, wattHours, ampHours, voltage, version,
    capturedMonotonic⟩ := s
  have hnat : ∀ {n : Int}, 0 ≤ n → n < 2 ^ 64 → ((UInt64.ofNat n.toNat).toNat : Int) = n := by
    intro n hle hlt
    have hsmall : n.toNat < 2 ^ 64 := by omega
    rw [UInt64.toNat_ofNat_of_lt' hsmall]
    omega
  simp only [EnergyInputsSnapshot.Typed, EnergyInputsSnapshot.measurements, EnergyInputsSnapshot.named, List.map_cons,
    List.map_nil, List.forall_mem_cons] at htyped
  obtain ⟨hgrid, hpv, hsoc, hnet, hwattHours, hampHours, hvoltage, -⟩ := htyped
  obtain ⟨grid, rfl⟩ := exists_measuredValueOf hgrid
  obtain ⟨pv, rfl⟩ := exists_measuredValueOf hpv
  obtain ⟨soc, rfl⟩ := exists_measuredValueOf hsoc
  obtain ⟨net, rfl⟩ := exists_measuredValueOf hnet
  obtain ⟨wattHours, rfl⟩ := exists_measuredValueOf hwattHours
  obtain ⟨ampHours, rfl⟩ := exists_measuredValueOf hampHours
  obtain ⟨voltage, rfl⟩ := exists_measuredValueOf hvoltage
  refine ⟨⟨UInt64.ofNat sequence.toNat, UInt64.ofNat generation.toNat, capturedAt, capturedMonotonic, grid, pv, soc, net,
    wattHours, ampHours, voltage⟩, ?_⟩
  simp only [snapshotOf, hnat hsequence' hsequence, hnat hgeneration' hgeneration, EnergyInputsSnapshot.mk.injEq, true_and,
    and_true]
  exact hversion.symm

/-! ## What the encoder raises -/

/-- Nothing but the documented error is raised. -/
def OnlyValueErrors {α : Type} (result : Except EncodeError α) : Prop :=
  ∀ error, result = .error error → ∃ text, error = .valueError text

theorem OnlyValueErrors.ok {α : Type} (a : α) : OnlyValueErrors (.ok a) := by
  intro error h
  nomatch h

theorem OnlyValueErrors.valueError {α : Type} (text : String) :
    OnlyValueErrors (.error (.valueError text) : Except EncodeError α) := by
  intro error h
  exact ⟨text, (Except.error.inj h).symm⟩

theorem OnlyValueErrors.bind {α β : Type} {x : Except EncodeError α} {f : α → Except EncodeError β}
    (hx : OnlyValueErrors x) (hf : ∀ a, OnlyValueErrors (f a)) : OnlyValueErrors (x >>= f) := by
  intro error h
  cases x with
  | error raised =>
    obtain rfl : raised = error := Except.error.inj h
    exact hx raised rfl
  | ok a => exact hf a error h

theorem OnlyValueErrors.mapM {α β : Type} {f : α → Except EncodeError β} {items : List α}
    (hf : ∀ a ∈ items, OnlyValueErrors (f a)) : OnlyValueErrors (items.mapM f) := by
  intro error h
  obtain ⟨a, ha, herror⟩ := mapM_error h
  exact hf a ha error herror

theorem pack_onlyValueErrors (sizes : List Nat) (values : List Int) : OnlyValueErrors (pack sizes values) := by
  unfold pack
  split
  · exact OnlyValueErrors.ok _
  · exact OnlyValueErrors.valueError _

theorem encodeText_onlyValueErrors (value : String) : OnlyValueErrors (encodeText value) := by
  unfold encodeText
  split
  · exact OnlyValueErrors.valueError _
  · exact OnlyValueErrors.ok _

/-- The only other error is about a status that is no key of the table. -/
theorem encodeMeasurement_onlyValueErrors {m : MeasuredValue} (h : ∃ status, m.status = statusText status) :
    OnlyValueErrors (encodeMeasurement m) := by
  obtain ⟨status, hstatus⟩ := h
  unfold encodeMeasurement
  split
  · exact OnlyValueErrors.valueError _
  · rw [hstatus, statusToCode_statusText]
    refine (OnlyValueErrors.ok status.code).bind fun code => (pack_onlyValueErrors _ _).bind fun fields => ?_
    refine (OnlyValueErrors.mapM fun value _ => encodeText_onlyValueErrors value).bind fun sourceIds => ?_
    exact (encodeText_onlyValueErrors _).bind fun reasonCode => OnlyValueErrors.ok _

theorem encode_onlyValueErrors (htyped : s.Typed) : OnlyValueErrors (encodeEnergyInputs s) := by
  unfold encodeEnergyInputs
  refine (pack_onlyValueErrors _ _).bind fun header => ?_
  refine (OnlyValueErrors.mapM fun m hm => encodeMeasurement_onlyValueErrors (htyped m hm)).bind fun chunks => ?_
  dsimp only
  split
  · exact OnlyValueErrors.valueError _
  · exact OnlyValueErrors.ok _

/-! ## The round trip -/

/-- The header holds the numbers of a snapshot that is encoded. -/
theorem header_of_encode (h : encodeEnergyInputs s = .ok payload) :
    s.sequence < 2 ^ 64 ∧ s.topologyGeneration < 2 ^ 64 := by
  obtain ⟨header, hheader, -⟩ := bind_eq_ok.mp h
  have hfields := pack_eq_ok hheader
  simp only [List.zip_cons_cons, List.zip_nil_right, List.forall_mem_cons] at hfields
  obtain ⟨-, -, ⟨-, hsequence⟩, ⟨-, hgeneration⟩, -⟩ := hfields
  exact ⟨by omega, by omega⟩

/-- What the data classes accept, within the limits of the wire, is admissible for the decoder. -/
theorem admissible_of_accepted (haccepted : (snapshotOf inputs).Accepted)
    (hfits : (snapshotOf inputs).FitsWire) : inputs.Admissible ∧ inputs.Strict := by
  obtain ⟨-, -, hat, hmonotonic, -, horder⟩ := validate_snapshot_iff.mp haccepted.snapshot
  have hmem : ∀ m ∈ inputs.measurements, measuredValueOf m ∈ (snapshotOf inputs).measurements := by
    intro m hm
    have hmeasurements : (snapshotOf inputs).measurements = inputs.measurements.map measuredValueOf := rfl
    rw [hmeasurements]
    exact List.mem_map_of_mem hm
  have hmeasurement : ∀ m ∈ inputs.measurements, (m.Admissible ∧ ¬inputs.capturedMonotonic < m.observedMonotonic) ∧
      StrictIds m.sourceIds := by
    intro m hm
    obtain ⟨hvalue, hobservedAt, hobservedMonotonic, hconfidence, hids, hobserved⟩ :=
      validate_measuredValueOf.mp (haccepted.measurements _ (hmem m hm))
    exact ⟨⟨⟨hvalue, hobservedAt, hobservedMonotonic, hconfidence, hfits.counts _ (hmem m hm), hobserved,
      hfits.texts _ (hmem m hm)⟩, horder _ (hmem m hm)⟩, hids⟩
  constructor
  · exact ⟨Double.clock_of_pos hat.1 hat.2, Double.clock_of_pos hmonotonic.1 hmonotonic.2,
      fun m hm => (hmeasurement m hm).1⟩
  · exact ⟨hat.2, hmonotonic.2, fun m hm => (hmeasurement m hm).2⟩

/-- The decoder reads what was encoded. -/
theorem decode_of_encode (haccepted : (snapshotOf inputs).Accepted)
    (h : encodeEnergyInputs (snapshotOf inputs) = .ok payload) : decodeEnergyInputs payload = .ok inputs := by
  obtain ⟨hfits, rfl⟩ := encode_snapshotOf.mp h
  refine binary_decode_iff.mpr ⟨?_, admissible_of_accepted haccepted hfits, .inl ⟨_, ?_, rfl⟩⟩
  · rw [length_payload]
    exact hfits.size
  · rw [List.forall₂_map_right_iff]
    exact List.forall₂_same.mpr fun m _ => ⟨.zero, rfl⟩

/-- A payload that is decoded is read to its end. -/
theorem run_of_decode (h : Returns (decodeEnergyInputs payload)) :
    ∃ result, fields.run payload = .ok (result, []) := by
  obtain ⟨inputs, h⟩ := h
  unfold decodeEnergyInputs at h
  split at h
  · nomatch h
  · split at h
    · nomatch h
    · rename_i header measurements hrun
      exact ⟨_, hrun⟩
    · nomatch h

/-- Of two payloads that are decoded, neither begins the other. -/
theorem decode_front {front rest : List UInt8} (hfront : Returns (decodeEnergyInputs front))
    (hwhole : Returns (decodeEnergyInputs (front ++ rest))) : rest = [] := by
  obtain ⟨result, hrun⟩ := run_of_decode hfront
  obtain ⟨other, hrun'⟩ := run_of_decode hwhole
  exact takes_fields.not_front hrun hrun'

/-- The codec on snapshots whose statuses are of the declared type: nothing but the documented error is raised, and
exactly where the snapshot does not fit the wire; what is written is read back as the snapshot; and no payload is cut
or continued to another one that is read. -/
theorem binary_codec (s : EnergyInputsSnapshot) (haccepted : s.Accepted) (htyped : s.Typed) :
    (∀ error, encodeEnergyInputs s = .error error → ∃ text, error = .valueError text) ∧
    (Returns (encodeEnergyInputs s) ↔ s.FitsWire) ∧
    ∀ payload, encodeEnergyInputs s = .ok payload →
      (∃ inputs, decodeEnergyInputs payload = .ok inputs ∧ snapshotOf inputs = s) ∧
      (∀ front rest, front ++ rest = payload → rest ≠ [] → ¬Returns (decodeEnergyInputs front)) ∧
      ∀ rest, rest ≠ [] → ¬Returns (decodeEnergyInputs (payload ++ rest)) := by
  refine ⟨encode_onlyValueErrors htyped, ?_, ?_⟩
  · constructor
    · intro ⟨payload, h⟩
      obtain ⟨hsequence, hgeneration⟩ := header_of_encode h
      obtain ⟨inputs, rfl⟩ := exists_snapshotOf htyped haccepted.snapshot hsequence hgeneration
      exact (encode_snapshotOf.mp h).1
    · intro hfits
      obtain ⟨inputs, rfl⟩ := exists_snapshotOf htyped haccepted.snapshot hfits.sequence hfits.generation
      exact ⟨_, encode_snapshotOf.mpr ⟨hfits, rfl⟩⟩
  · intro payload h
    obtain ⟨hsequence, hgeneration⟩ := header_of_encode h
    obtain ⟨inputs, rfl⟩ := exists_snapshotOf htyped haccepted.snapshot hsequence hgeneration
    have hdecode := decode_of_encode haccepted h
    refine ⟨⟨inputs, hdecode, rfl⟩, ?_, ?_⟩
    · intro front rest hfront hrest hreturns
      have hwhole : Returns (decodeEnergyInputs (front ++ rest)) := ⟨inputs, by rw [hfront, hdecode]⟩
      exact hrest (decode_front hreturns hwhole)
    · intro rest hrest hreturns
      exact hrest (decode_front ⟨inputs, hdecode⟩ hreturns)

theorem unobserved_valid : (measuredValueOf unavailableMeasurement).validate = .ok () := rfl

theorem observed_accepted : (snapshotOf observedInputs).Accepted := by
  have hvalid : ∀ m ∈ observedInputs.measurements.map measuredValueOf, m.validate = .ok () := by decide +kernel
  exact ⟨by decide +kernel, hvalid⟩

theorem observed_typed : (snapshotOf observedInputs).Typed := by
  intro m hm
  obtain ⟨m', -, rfl⟩ := List.mem_map.mp (show m ∈ observedInputs.measurements.map measuredValueOf from hm)
  exact ⟨m'.status, rfl⟩

/-- A snapshot with an observed value of two sources is written and read back, and no front of it is read. -/
theorem binary_codec_observed :
    encodeEnergyInputs (snapshotOf observedInputs) = .ok observedPayload ∧
      (∃ inputs, decodeEnergyInputs observedPayload = .ok inputs ∧ snapshotOf inputs = snapshotOf observedInputs) ∧
      ∀ front rest, front ++ rest = observedPayload → rest ≠ [] → ¬Returns (decodeEnergyInputs front) := by
  have hencode : encodeEnergyInputs (snapshotOf observedInputs) = .ok observedPayload := by decide +kernel
  obtain ⟨hdecode, hfront, -⟩ := (binary_codec _ observed_accepted observed_typed).2.2 _ hencode
  exact ⟨hencode, hdecode, hfront⟩

/-- A snapshot whose grid measurement has a blank around its status. -/
def paddedSnapshot : EnergyInputsSnapshot :=
  { snapshotOf (unobservedInputs .one) with
    gridPowerW := { measuredValueOf unavailableMeasurement with status := " unknown" } }

/-- The data classes accept it, since `value_status` strips the text, and the table of the encoder has no such key. -/
theorem padded_status_raises : paddedSnapshot.Accepted ∧ paddedSnapshot.FitsWire ∧
    encodeEnergyInputs paddedSnapshot = .error (.keyError " unknown") := by
  have hmeasurements : ∀ m ∈ paddedSnapshot.measurements,
      m = paddedSnapshot.gridPowerW ∨ m = measuredValueOf unavailableMeasurement := by
    intro m hm
    rcases List.mem_cons.mp hm with rfl | hm
    · exact .inl rfl
    · exact .inr (List.eq_of_mem_replicate (n := 6) hm)
  have hids : ∀ m ∈ paddedSnapshot.measurements, m.sourceIds = [] ∧ m.reasonCode = "not-observed" := by
    intro m hm
    rcases hmeasurements m hm with rfl | rfl <;> exact ⟨rfl, rfl⟩
  refine ⟨⟨by decide +kernel, ?_⟩, ⟨by decide, by decide, ?_, ?_, by decide +kernel⟩, by decide +kernel⟩
  · intro m hm
    rcases hmeasurements m hm with rfl | rfl
    · decide +kernel
    · exact unobserved_valid
  · intro m hm
    rw [(hids m hm).1]
    exact Nat.zero_le _
  · intro m hm text htext
    rw [(hids m hm).1, (hids m hm).2, List.mem_singleton] at htext
    rw [htext, utf8_fixed.2.2]
    decide

end VenusEvcharger.Energy.Binary
