import VenusEvcharger.Energy.EnergyInputs
import VenusEvcharger.NativeGateway.Command

/-!
# The two decoders of the energy inputs

`Helper.decodeEnergyInputs` is the decoder of the Rust helper, which checks every field when it is read.
`Binary.decodeEnergyInputs` is the one of the Python service, which reads whole records first and checks the values
when it builds the measurement and the snapshot. Both read the older format VEI3 without the last three
measurements.

Scope: every exception of the Python decoder counts as a rejection, with its text as the error.
-/

namespace VenusEvcharger.Energy

open Library Library.Reader

/-- `unavailable_measurement`, `_legacy_missing_measurement`. -/
def unavailableMeasurement : Measurement := ⟨none, .zero, .zero, .unknown, .zero, [], "not-observed"⟩

/-! ## The decoder of the helper -/

namespace Helper

def truncated : String := "energy inputs payload is truncated"

/-- `u64`. -/
def u64 : Reader String UInt64 := do
  let value ← unsigned 8 truncated
  pure (UInt64.ofNat value)

/-- `f64`. -/
def f64 : Reader String Double := do
  let bits ← u64
  pure ⟨bits⟩

/-- The status of a measurement. -/
def status : Nat → Except String MeasurementStatus
  | 0 => .ok .fresh
  | 1 => .ok .stale
  | 2 => .ok .unavailable
  | 3 => .ok .error
  | 4 => .ok .unknown
  | _ => .error "energy inputs measurement has invalid status"

/-- The value of a measurement behind its marker. -/
def markedValue (hasValue : Nat) (rawValue : Double) : Except String (Option Double) :=
  match hasValue with
  | 0 => .ok none
  | 1 =>
    if rawValue.isFinite then .ok (some rawValue) else .error "energy inputs measurement value is not finite"
  | _ => .error "energy inputs measurement has invalid value marker"

/-- `require_non_negative_finite`. -/
def requireNonNegativeFinite (value : Double) (label : String) : Reader String Unit :=
  require (value.isFinite ∧ Double.zero ≤ value) ("energy inputs " ++ label ++ " is invalid")

/-- `text`. -/
def text : Reader String String := Reader.text truncated truncated "energy inputs text is not UTF-8"

/-- The loop over the source identifiers, with those that were read. -/
def sourceIds : Nat → List String → Reader String (List String)
  | 0, _ => pure []
  | count + 1, unique => do
    let sourceId ← text
    require (NativeGateway.trim sourceId ≠ "" ∧ sourceId ∉ unique)
      "measurement source identifiers are empty or duplicated"
    let rest ← sourceIds count (sourceId :: unique)
    pure (sourceId :: rest)

/-- The status and the value of `measurement`. -/
def valueFields : Reader String (MeasurementStatus × Option Double) := do
  let code ← unsigned 1 truncated
  let status ← lift (status code)
  let hasValue ← unsigned 1 truncated
  let rawValue ← f64
  let value ← lift (markedValue hasValue rawValue)
  pure (status, value)

/-- The clocks and the confidence of `measurement`. -/
def clockFields (capturedMonotonic : Double) (status : MeasurementStatus) (value : Option Double) :
    Reader String (Double × Double × Double) := do
  let observedAt ← f64
  let observedMonotonic ← f64
  let confidence ← f64
  requireNonNegativeFinite observedAt "measurement observed_at"
  requireNonNegativeFinite observedMonotonic "measurement observed_monotonic"
  require (¬capturedMonotonic < observedMonotonic) "measurement timestamp exceeds snapshot clock"
  require (confidence.isFinite ∧ Double.zero ≤ confidence ∧ confidence ≤ Double.one)
    "measurement confidence is outside zero to one"
  require (¬(status.contributes ∧
      (value = none ∨ observedAt ≤ Double.zero ∨ observedMonotonic ≤ Double.zero)))
    "contributing measurement lacks a value or observation clock"
  pure (observedAt, observedMonotonic, confidence)

/-- The source identifiers and the reason of `measurement`. -/
def sourceFields : Reader String (List String × String) := do
  let sourceCount ← unsigned 2 truncated
  require (sourceCount ≤ maxSourceIds) "measurement has too many source identifiers"
  let sourceIds ← sourceIds sourceCount []
  let reasonCode ← text
  pure (sourceIds, reasonCode)

/-- `measurement`. -/
def measurement (capturedMonotonic : Double) : Reader String Measurement := do
  let value ← valueFields
  let clocks ← clockFields capturedMonotonic value.1 value.2
  let sources ← sourceFields
  pure ⟨value.2, clocks.1, clocks.2.1, value.1, clocks.2.2, sources.1, sources.2⟩

/-- The number of measurements of a format. -/
def measurementCount (magic : List UInt8) (schemaVersion : Nat) : Except String Nat :=
  if magic = utf8 "VEI3" ∧ schemaVersion = 3 then .ok 4
  else if magic = utf8 "VEI4" ∧ schemaVersion = 4 then .ok 7
  else if magic = utf8 "VEI3" ∨ magic = utf8 "VEI4" then
    .error "energy inputs payload has unsupported schema"
  else .error "energy inputs payload has invalid magic"

/-- The fields in front of the measurements. -/
structure Header where
  count : Nat
  sequence : UInt64
  topologyGeneration : UInt64
  capturedAt : Double
  capturedMonotonic : Double

/-- The header of `decode_energy_inputs`. -/
def header : Reader String Header := do
  let magic ← bytes 4 truncated
  let schemaVersion ← unsigned 1 truncated
  let count ← lift (measurementCount magic schemaVersion)
  let sequence ← u64
  let topologyGeneration ← u64
  let capturedAt ← f64
  let capturedMonotonic ← f64
  requireNonNegativeFinite capturedAt "captured_at"
  requireNonNegativeFinite capturedMonotonic "captured_monotonic"
  pure ⟨count, sequence, topologyGeneration, capturedAt, capturedMonotonic⟩

/-- A measurement that the older format does not have. -/
def addedMeasurement (header : Header) : Reader String Measurement :=
  if header.count = 7 then measurement header.capturedMonotonic else pure unavailableMeasurement

/-- The fields of `decode_energy_inputs`. -/
def energyInputs : Reader String EnergyInputs := do
  let header ← header
  let gridPowerW ← measurement header.capturedMonotonic
  let pvPowerW ← measurement header.capturedMonotonic
  let batterySoc ← measurement header.capturedMonotonic
  let batteryNetPowerW ← measurement header.capturedMonotonic
  let wattHourCapacity ← addedMeasurement header
  let ampHourCapacity ← addedMeasurement header
  let batteryVoltage ← addedMeasurement header
  pure ⟨header.sequence, header.topologyGeneration, header.capturedAt, header.capturedMonotonic, gridPowerW,
    pvPowerW, batterySoc, batteryNetPowerW, wattHourCapacity, ampHourCapacity, batteryVoltage⟩

/-- `decode_energy_inputs`. -/
def decodeEnergyInputs (payload : List UInt8) : Except String EnergyInputs :=
  if maxPayloadBytes < payload.length then .error "energy inputs payload exceeds 65536 bytes"
  else
    match energyInputs.run payload with
    | .error error => .error error
    | .ok (inputs, []) => .ok inputs
    | .ok (_, _ :: _) => .error "energy inputs payload has trailing data"

end Helper

/-! ## The decoder of the service -/

namespace Binary

/-- `_finite_float`. -/
def finiteFloat (value : Double) (label : String) : Except String Unit :=
  if value.isFinite then .ok () else .error (label ++ " must be finite")

/-- `optional_finite_float`. -/
def optionalFiniteFloat (value : Option Double) (label : String) : Except String Unit :=
  match value with
  | none => .ok ()
  | some value => finiteFloat value label

/-- `positive_float`. -/
def positiveFloat (value : Double) (label : String) : Except String Unit := do
  finiteFloat value label
  if value ≤ Double.zero then .error (label ++ " must be positive") else .ok ()

/-- `non_negative_float`. -/
def nonNegativeFloat (value : Double) (label : String) : Except String Unit := do
  finiteFloat value label
  if value < Double.zero then .error (label ++ " must be non-negative") else .ok ()

/-- `bounded_float` between 0.0 and 1.0. -/
def unitFloat (value : Double) (label : String) : Except String Unit := do
  finiteFloat value label
  if Double.zero ≤ value ∧ value ≤ Double.one then .ok ()
  else .error (label ++ " must be between 0.0 and 1.0")

/-- `text_tuple`. -/
def textTuple (value : List String) (label : String) : Except String Unit :=
  let normalized := value.map strip
  if "" ∈ normalized then .error (label ++ " must not be empty")
  else if ¬normalized.Nodup then .error (label ++ " must contain unique values")
  else .ok ()

/-- The texts of the statuses. -/
def statusText : MeasurementStatus → String
  | .fresh => "fresh"
  | .stale => "stale"
  | .unavailable => "unavailable"
  | .error => "error"
  | .unknown => "unknown"

/-- `_validate_observed_value`. -/
def validateObservedValue (m : Measurement) : Except String Unit :=
  if m.status.contributes = false then .ok ()
  else if m.value = none then .error (statusText m.status ++ " measurement requires a value")
  else if m.observedAt ≤ Double.zero then
    .error (statusText m.status ++ " measurement requires a positive observed_at")
  else if m.observedMonotonic ≤ Double.zero then
    .error (statusText m.status ++ " measurement requires a positive observed_monotonic")
  else .ok ()

/-- `MeasuredValue.__post_init__`. -/
def measuredValue (m : Measurement) : Except String Measurement := do
  optionalFiniteFloat m.value "measurement value"
  nonNegativeFloat m.observedAt "measurement observed_at"
  nonNegativeFloat m.observedMonotonic "measurement observed_monotonic"
  unitFloat m.confidence "measurement confidence"
  textTuple m.sourceIds "measurement source_ids"
  validateObservedValue m
  return m

/-- `EnergyInputsSnapshot.__post_init__`. -/
def energyInputsSnapshot (inputs : EnergyInputs) : Except String EnergyInputs := do
  positiveFloat inputs.capturedAt "energy inputs captured_at"
  positiveFloat inputs.capturedMonotonic "energy inputs captured_monotonic"
  if ∃ m ∈ inputs.measurements, inputs.capturedMonotonic < m.observedMonotonic then
    .error "energy inputs observed_monotonic exceeds captured_monotonic"
  else return inputs

def truncated : String := "energy inputs binary payload is truncated"

/-- A double of a record. -/
def double (value : Nat) : Double := ⟨UInt64.ofNat value⟩

/-- `_decoded_status`. -/
def decodedStatus : Nat → Except String MeasurementStatus
  | 0 => .ok .fresh
  | 1 => .ok .stale
  | 2 => .ok .unavailable
  | 3 => .ok .error
  | 4 => .ok .unknown
  | _ => .error "energy measurement has invalid status"

/-- `_decoded_value`. -/
def decodedValue (hasValue : Nat) (value : Double) : Except String (Option Double) :=
  if hasValue ∉ [0, 1] then .error "energy measurement has invalid value marker"
  else .ok (if hasValue ≠ 0 then some value else none)

/-- `text`. -/
def text : Reader String String :=
  Reader.text truncated "energy inputs binary text field is truncated"
    "energy inputs binary text field is not UTF-8"

/-- What `_decode_measurement` makes of the fields of its record. -/
def measurementOf : List Nat → Reader String Measurement
  | [code, hasValue, value, observedAt, observedMonotonic, confidence, sourceCount] => do
    let status ← lift (decodedStatus code)
    let value ← lift (decodedValue hasValue (double value))
    require (sourceCount ≤ maxSourceIds) "energy measurement has too many source_ids"
    let sourceIds ← replicate sourceCount text
    let reasonCode ← text
    lift (measuredValue
      ⟨value, double observedAt, double observedMonotonic, status, double confidence, sourceIds, reasonCode⟩)
  | _ => fail "energy inputs binary payload has invalid wire value type"

/-- `_decode_measurement`. -/
def decodeMeasurement : Reader String Measurement := do
  let fields ← record [1, 1, 8, 8, 8, 8, 2] truncated
  measurementOf fields

/-- `_wire_measurement_count`. -/
def wireMeasurementCount (magic schemaVersion : Nat) : Except String Nat :=
  match [(ofBe (utf8 "VEI3"), 3, 4), (ofBe (utf8 "VEI4"), 4, 7)].lookup magic with
  | none => .error "energy inputs binary payload has invalid magic"
  | some (expectedSchema, measurementCount) =>
    if schemaVersion ≠ expectedSchema then
      .error "energy inputs binary payload has unsupported schema_version"
    else .ok measurementCount

/-- The header and the measurements of `decode_energy_inputs`. -/
def fields : Reader String (List Nat × List Measurement) := do
  let header ← record [4, 1, 8, 8, 8, 8] truncated
  let count ← lift (match header with
    | magic :: schemaVersion :: _ => wireMeasurementCount magic schemaVersion
    | _ => .error "energy inputs binary payload has invalid wire value type")
  let measurements ← replicate count decodeMeasurement
  pure (header, measurements)

/-- `_decoded_energy_snapshot`, with `_complete_measurements`. -/
def decodedEnergySnapshot (header : List Nat) (measurements : List Measurement) : Except String EnergyInputs :=
  let complete := measurements ++ List.replicate (7 - measurements.length) unavailableMeasurement
  match header, complete with
  | [_, _, sequence, topologyGeneration, capturedAt, capturedMonotonic],
    [gridPowerW, pvPowerW, batterySoc, batteryNetPowerW, batteryCapacityWh, batteryCapacityAh,
      batteryVoltageV] =>
    energyInputsSnapshot ⟨UInt64.ofNat sequence, UInt64.ofNat topologyGeneration, double capturedAt,
      double capturedMonotonic, gridPowerW, pvPowerW, batterySoc, batteryNetPowerW, batteryCapacityWh,
      batteryCapacityAh, batteryVoltageV⟩
  | _, _ => .error "energy inputs binary payload has invalid wire value type"

/-- `decode_energy_inputs`. -/
def decodeEnergyInputs (payload : List UInt8) : Except String EnergyInputs :=
  if maxPayloadBytes < payload.length then .error "energy inputs binary payload exceeds the size limit"
  else
    match fields.run payload with
    | .error error => .error error
    | .ok ((header, measurements), []) => decodedEnergySnapshot header measurements
    | .ok (_, _ :: _) => .error "energy inputs binary payload has trailing data"

end Binary

end VenusEvcharger.Energy
