import VenusEvcharger.Library.Wire

/-!
# The energy inputs and their encoder

`EnergyInputs` is what the native gateway publishes in the binary format VEI4, and what the helper and the Python
service read. A double is its bit pattern, with the order of IEEE 754.
-/

namespace VenusEvcharger.Energy

open Library

/-! ## Doubles -/

/-- A 64-bit float by its bits. -/
structure Double where
  bits : UInt64

namespace Double

def exponent (x : Double) : Nat := x.bits.toNat / 2 ^ 52 % 2 ^ 11

/-- `is_finite`, `math.isfinite`. -/
def isFinite (x : Double) : Bool := decide (x.exponent ≠ 2 ^ 11 - 1)

def isNaN (x : Double) : Bool := !x.isFinite && decide (x.bits.toNat % 2 ^ 52 ≠ 0)

/-- The bits as a signed magnitude, which is ordered like the values; both zeros are 0. -/
def key (x : Double) : Int :=
  if x.bits.toNat < 2 ^ 63 then x.bits.toNat else 2 ^ 63 - (x.bits.toNat : Int)

instance : LE Double := ⟨fun x y => x.isNaN = false ∧ y.isNaN = false ∧ x.key ≤ y.key⟩

instance : LT Double := ⟨fun x y => x.isNaN = false ∧ y.isNaN = false ∧ x.key < y.key⟩

instance (x y : Double) : Decidable (x ≤ y) := inferInstanceAs (Decidable (_ ∧ _ ∧ _))

instance (x y : Double) : Decidable (x < y) := inferInstanceAs (Decidable (_ ∧ _ ∧ _))

/-- `0.0`. -/
def zero : Double := ⟨0⟩

/-- `1.0`. -/
def one : Double := ⟨0x3FF0000000000000⟩

theorem isNaN_of_isFinite {x : Double} (h : x.isFinite = true) : x.isNaN = false := by
  simp [isNaN, h]

/-- Finite doubles are comparable. -/
theorem not_lt_iff {x y : Double} (hx : x.isFinite = true) (hy : y.isFinite = true) : ¬x < y ↔ y ≤ x := by
  change ¬(x.isNaN = false ∧ y.isNaN = false ∧ x.key < y.key) ↔
    y.isNaN = false ∧ x.isNaN = false ∧ y.key ≤ x.key
  simp only [isNaN_of_isFinite hx, isNaN_of_isFinite hy, true_and]
  omega

theorem not_le_iff {x y : Double} (hx : x.isFinite = true) (hy : y.isFinite = true) : ¬x ≤ y ↔ y < x := by
  change ¬(x.isNaN = false ∧ y.isNaN = false ∧ x.key ≤ y.key) ↔
    y.isNaN = false ∧ x.isNaN = false ∧ y.key < x.key
  simp only [isNaN_of_isFinite hx, isNaN_of_isFinite hy, true_and]
  omega

theorem le_of_lt {x y : Double} (h : x < y) : x ≤ y := ⟨h.1, h.2.1, Int.le_of_lt h.2.2⟩

theorem zero_isFinite : zero.isFinite = true := by decide

end Double

/-! ## The data -/

/-- `MeasurementStatus`. -/
inductive MeasurementStatus where
  | fresh
  | stale
  | unavailable
  | error
  | unknown
deriving DecidableEq

/-- `code`. -/
def MeasurementStatus.code : MeasurementStatus → Nat
  | .fresh => 0
  | .stale => 1
  | .unavailable => 2
  | .error => 3
  | .unknown => 4

/-- `contributes`. -/
def MeasurementStatus.contributes (status : MeasurementStatus) : Bool :=
  decide (status = .fresh) || decide (status = .stale)

/-- `Measurement`, `MeasuredValue`. -/
structure Measurement where
  value : Option Double
  observedAt : Double
  observedMonotonic : Double
  status : MeasurementStatus
  confidence : Double
  sourceIds : List String
  reasonCode : String

/-- `EnergyInputs`, `EnergyInputsSnapshot`. -/
structure EnergyInputs where
  sequence : UInt64
  topologyGeneration : UInt64
  capturedAt : Double
  capturedMonotonic : Double
  gridPowerW : Measurement
  pvPowerW : Measurement
  batterySoc : Measurement
  batteryNetPowerW : Measurement
  batteryCapacityWh : Measurement
  batteryCapacityAh : Measurement
  batteryVoltageV : Measurement

/-- `measurements`. -/
def EnergyInputs.measurements (inputs : EnergyInputs) : List Measurement :=
  [inputs.gridPowerW, inputs.pvPowerW, inputs.batterySoc, inputs.batteryNetPowerW, inputs.batteryCapacityWh,
    inputs.batteryCapacityAh, inputs.batteryVoltageV]

/-- `MAX_PAYLOAD_BYTES`. -/
def maxPayloadBytes : Nat := 65536

/-- `MAX_SOURCE_IDS`. -/
def maxSourceIds : Nat := 64

/-! ## The encoder of the native gateway -/

/-- `append_f64`. -/
def doubleBytes (x : Double) : List UInt8 := beBytes 8 x.bits.toNat

/-- `append_text`. -/
def appendText (payload : List UInt8) (value : String) : Except String (List UInt8) :=
  if (utf8 value).length < 65536 then .ok (payload ++ textBytes value)
  else .error "energy inputs text field exceeds 65535 bytes"

/-- `validate_timestamp`. -/
def validateTimestamp (value : Double) (label : String) : Except String Unit :=
  if value.isFinite ∧ Double.zero ≤ value then .ok ()
  else .error (label ++ " must be finite and non-negative")

/-- `Measurement::validate`. -/
def Measurement.validate (m : Measurement) (capturedMonotonic : Double) : Except String Unit :=
  if ∃ value ∈ m.value, value.isFinite = false then .error "measurement value must be finite"
  else if ¬m.observedAt.isFinite ∨ m.observedAt < Double.zero ∨ ¬m.observedMonotonic.isFinite ∨
      m.observedMonotonic < Double.zero ∨ capturedMonotonic < m.observedMonotonic then
    .error "measurement timestamps violate the monotonic contract"
  else if ¬m.confidence.isFinite ∨ ¬(Double.zero ≤ m.confidence ∧ m.confidence ≤ Double.one) then
    .error "measurement confidence must be between zero and one"
  else if maxSourceIds < m.sourceIds.length then .error "measurement has too many source ids"
  else if m.status.contributes ∧
      (m.value = none ∨ m.observedAt ≤ Double.zero ∨ m.observedMonotonic ≤ Double.zero) then
    .error "observed measurement requires value and timestamps"
  else .ok ()

/-- `encode_measurement`. -/
def encodeMeasurement (payload : List UInt8) (m : Measurement) (capturedMonotonic : Double) :
    Except String (List UInt8) := do
  m.validate capturedMonotonic
  let payload := payload ++ beBytes 1 m.status.code ++ beBytes 1 (if m.value.isSome then 1 else 0) ++
    doubleBytes (m.value.getD Double.zero) ++ doubleBytes m.observedAt ++ doubleBytes m.observedMonotonic ++
    doubleBytes m.confidence ++ beBytes 2 m.sourceIds.length
  let payload ← m.sourceIds.foldlM appendText payload
  appendText payload m.reasonCode

/-- The bytes in front of the measurements. -/
def headerBytes (magic : String) (schemaVersion : Nat) (inputs : EnergyInputs) : List UInt8 :=
  utf8 magic ++ beBytes 1 schemaVersion ++ beBytes 8 inputs.sequence.toNat ++
    beBytes 8 inputs.topologyGeneration.toNat ++ doubleBytes inputs.capturedAt ++
    doubleBytes inputs.capturedMonotonic

/-- `EnergyInputs::encode`. -/
def EnergyInputs.encode (inputs : EnergyInputs) : Except String (List UInt8) := do
  validateTimestamp inputs.capturedAt "captured_at"
  validateTimestamp inputs.capturedMonotonic "captured_monotonic"
  let payload ← inputs.measurements.foldlM
    (fun payload m => encodeMeasurement payload m inputs.capturedMonotonic) (headerBytes "VEI4" 4 inputs)
  if maxPayloadBytes < payload.length then .error "energy inputs payload exceeds 65536 bytes"
  else .ok payload

end VenusEvcharger.Energy
