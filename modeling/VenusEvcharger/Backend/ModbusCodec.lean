import VenusEvcharger.Library.FloatFormat
import VenusEvcharger.Library.Wire
import VenusEvcharger.Python.Value

/-!
# The register codec of the Modbus client

`encode_register_value` turns a scalar into 16-bit registers and `decode_register_value` turns registers back into a
scalar. The data type and the word order are texts from a configuration. The 32-bit types go through a payload of
four bytes, where a number out of range is refused; the 16-bit types keep the low bits of the number.
-/

namespace VenusEvcharger.Backend

open Library

/-- The exceptions of the codec with their texts. -/
inductive CodecError where
  | valueError (message : String)
  | overflowError (message : String)
  | structError (message : String)
  deriving DecidableEq

/-- `float | int | bool`. -/
inductive Scalar where
  | int (n : Int)
  | bool (b : Bool)
  | float (x : binary64.Word)
  deriving DecidableEq

namespace Scalar

/-- The number that an integer or a boolean is equal to. -/
def integer? : Scalar → Option Int
  | int n => some n
  | bool b => some (if b then 1 else 0)
  | float _ => none

/-- The whole number that a value is equal to, if any. -/
def whole? : Scalar → Option Int
  | float x => x.whole?
  | value => value.integer?

/-- `int(value)`. -/
def toInt : Scalar → Except CodecError Int
  | int n => .ok n
  | bool b => .ok (if b then 1 else 0)
  | float x =>
    if x.magnitude < binary64.infinity then .ok x.truncate
    else if x.magnitude = binary64.infinity then
      .error (.overflowError "cannot convert float infinity to integer")
    else .error (.valueError "cannot convert float NaN to integer")

/-- `bool(value)`. -/
def toBool : Scalar → Bool
  | int n => decide (n ≠ 0)
  | bool b => b
  | float x => decide (x.magnitude ≠ 0)

/-- `float(value)` of an integer. -/
def floatOfInt (n : Int) : Except CodecError binary64.Word :=
  (binary64.ofInt n).elim (.error (.overflowError "int too large to convert to float")) .ok

/-- `float(value)`. -/
def toFloat : Scalar → Except CodecError binary64.Word
  | int n => floatOfInt n
  | bool b => floatOfInt (if b then 1 else 0)
  | float x => .ok x

end Scalar

/-! ## Bytes -/

/-- `int.to_bytes(size, "big")`. -/
def toBytes (n : Int) (size : Nat) : Except CodecError (List UInt8) :=
  if n < 0 then .error (.overflowError "can't convert negative int to unsigned")
  else if n < 256 ^ size then .ok (beBytes size n.toNat)
  else .error (.overflowError "int too big to convert")

/-- `int.to_bytes(size, "big", signed=True)`. -/
def toSignedBytes (n : Int) (size : Nat) : Except CodecError (List UInt8) :=
  if -(256 ^ size) ≤ 2 * n ∧ 2 * n < 256 ^ size then .ok (beBytes size (n % 256 ^ size).toNat)
  else .error (.overflowError "int too big to convert")

/-- `_u16_bytes`. -/
def u16Bytes (value : Int) : Except CodecError (List UInt8) := toBytes value 2

/-- `_u32_bytes`. -/
def u32Bytes (value : Int) : Except CodecError (List UInt8) := toBytes value 4

/-- `_i32_bytes`. -/
def i32Bytes (value : Int) : Except CodecError (List UInt8) := toSignedBytes value 4

/-- `_uint_from_bytes`. -/
def uintFromBytes (payload : List UInt8) : Int := ofBe payload

/-- `_int_from_bytes`. -/
def intFromBytes (payload : List UInt8) : Int :=
  if 256 ^ payload.length ≤ 2 * (ofBe payload : Int) then ofBe payload - 256 ^ payload.length else ofBe payload

/-- The double of a single, which always exists. -/
def widen (x : binary32.Word) : binary64.Word :=
  (x.convert binary64).get (binary32_narrower_binary64.convert_isSome x)

/-- `struct.unpack(">f", payload)[0]`. -/
def unpackFloat (payload : List UInt8) : Except CodecError binary64.Word :=
  if payload.length = 4 then .ok (widen (binary32.ofBits (ofBe payload)))
  else .error (.structError "unpack requires a buffer of 4 bytes")

/-- `struct.pack(">f", value)`. -/
def packFloat (value : binary64.Word) : Except CodecError (List UInt8) :=
  match value.convert binary32 with
  | some x => .ok (beBytes 4 x.bits)
  | none => .error (.overflowError "float too large to pack with f format")

/-! ## Word order -/

/-- `register_count`. -/
def registerCount (dataType : String) : Nat :=
  let normalized := lower (strip dataType)
  if normalized ∈ ["uint32", "int32", "float32"] then 2 else 1

/-- `_normalized_word_order`. -/
def normalizedWordOrder (wordOrder : String) : Except CodecError String :=
  let normalized := strip wordOrder
  if normalized ∈ ["big", "little"] then .ok normalized
  else .error (.valueError ("Unsupported Modbus word order '" ++ wordOrder ++ "'"))

/-- `_ordered_registers`. -/
def orderedRegisters (registers : List Int) (wordOrder : String) : List Int :=
  if wordOrder ≠ "little" ∨ registers.length < 2 then registers else registers.reverse

/-! ## Decoding -/

/-- `_decode_bool_register`. -/
def decodeBoolRegister (ordered : List Int) (_payload : List UInt8) : Except CodecError Scalar :=
  .ok (.bool (decide (ordered.headD 0 ≠ 0)))

/-- `_decode_uint16_register`. -/
def decodeUint16Register (ordered : List Int) (_payload : List UInt8) : Except CodecError Scalar :=
  .ok (.int (ordered.headD 0))

/-- `_decoded_int16`. -/
def decodedInt16 (value : Int) : Int := if value / 0x8000 % 2 = 1 then value - 0x10000 else value

/-- `_decode_int16_register`. -/
def decodeInt16Register (ordered : List Int) (_payload : List UInt8) : Except CodecError Scalar :=
  .ok (.int (decodedInt16 (ordered.headD 0)))

/-- `_decode_uint32_register`. -/
def decodeUint32Register (_ordered : List Int) (payload : List UInt8) : Except CodecError Scalar :=
  .ok (.int (uintFromBytes payload))

/-- `_decode_int32_register`. -/
def decodeInt32Register (_ordered : List Int) (payload : List UInt8) : Except CodecError Scalar :=
  .ok (.int (intFromBytes payload))

/-- `_decode_float32_register`. -/
def decodeFloat32Register (_ordered : List Int) (payload : List UInt8) : Except CodecError Scalar := do
  return .float (← unpackFloat payload)

/-- `_REGISTER_DECODERS`. -/
def registerDecoders : String → Option (List Int → List UInt8 → Except CodecError Scalar)
  | "bool" => some decodeBoolRegister
  | "uint16" => some decodeUint16Register
  | "int16" => some decodeInt16Register
  | "uint32" => some decodeUint32Register
  | "int32" => some decodeInt32Register
  | "float32" => some decodeFloat32Register
  | _ => none

/-- `_decoded_register_payload`. -/
def decodedRegisterPayload (ordered : List Int) (payload : List UInt8) (normalizedType dataType : String) :
    Except CodecError Scalar :=
  match registerDecoders normalizedType with
  | none => .error (.valueError ("Unsupported Modbus data type '" ++ dataType ++ "'"))
  | some decoder => decoder ordered payload

/-- `decode_register_value`. -/
def decodeRegisterValue (registers : List Int) (dataType wordOrder : String) : Except CodecError Scalar := do
  let normalizedType := lower (strip dataType)
  let normalizedWordOrder ← normalizedWordOrder wordOrder
  let ordered := orderedRegisters registers normalizedWordOrder
  if ordered = [] then .error (.valueError "Modbus register decode requires at least one register")
  else
    let payload ← ordered.mapM u16Bytes
    decodedRegisterPayload ordered payload.flatten normalizedType dataType

/-! ## Encoding -/

/-- `_payload_registers`. -/
def payloadRegisters (payload : List UInt8) : Except CodecError (List Int) :=
  if payload.length ≠ 4 then .error (.valueError "Modbus 32-bit payload requires exactly four bytes")
  else .ok [uintFromBytes (payload.take 2), uintFromBytes (payload.drop 2)]

/-- `_encode_bool_register`. -/
def encodeBoolRegister (value : Scalar) : Except CodecError (List Int) := .ok [if value.toBool then 1 else 0]

/-- `_encode_16bit_register`. -/
def encode16bitRegister (value : Scalar) : Except CodecError (List Int) := do
  let n ← value.toInt
  return [n % 0x10000]

/-- `_encode_uint32_register`. -/
def encodeUint32Register (value : Scalar) : Except CodecError (List Int) := do
  payloadRegisters (← u32Bytes (← value.toInt))

/-- `_encode_int32_register`. -/
def encodeInt32Register (value : Scalar) : Except CodecError (List Int) := do
  payloadRegisters (← i32Bytes (← value.toInt))

/-- `_encode_float32_register`. -/
def encodeFloat32Register (value : Scalar) : Except CodecError (List Int) := do
  payloadRegisters (← packFloat (← value.toFloat))

/-- `_REGISTER_ENCODERS`. -/
def registerEncoders : String → Option (Scalar → Except CodecError (List Int))
  | "bool" => some encodeBoolRegister
  | "uint16" => some encode16bitRegister
  | "int16" => some encode16bitRegister
  | "uint32" => some encodeUint32Register
  | "int32" => some encodeInt32Register
  | "float32" => some encodeFloat32Register
  | _ => none

/-- `_encoded_registers`. -/
def encodedRegisters (value : Scalar) (normalizedType dataType : String) : Except CodecError (List Int) :=
  match registerEncoders normalizedType with
  | none => .error (.valueError ("Unsupported Modbus data type '" ++ dataType ++ "'"))
  | some encoder => encoder value

/-- `encode_register_value`. -/
def encodeRegisterValue (value : Scalar) (dataType wordOrder : String) : Except CodecError (List Int) := do
  let normalizedType := lower (strip dataType)
  let normalizedWordOrder ← normalizedWordOrder wordOrder
  let registers ← encodedRegisters value normalizedType dataType
  if normalizedWordOrder = "little" then return registers.reverse else return registers

/-! ## Byte lemmas -/

variable {bytes : List UInt8}

theorem toBytes_ofBe {size : Nat} (h : bytes.length = size) :
    toBytes (ofBe bytes) size = .ok bytes := by
  have hlt : (ofBe bytes : Int) < 256 ^ size := by
    rw [← h]
    exact_mod_cast ofBe_lt bytes
  rw [toBytes, if_neg (by omega), if_pos hlt, Int.toNat_natCast, beBytes_ofBe_of_length h]

variable {n : Int}

theorem toBytes_eq_ok {size : Nat} (hlow : 0 ≤ n) (hhigh : n < 256 ^ size) :
    ∃ bytes, toBytes n size = .ok bytes ∧ bytes.length = size ∧ uintFromBytes bytes = n := by
  have hlt : n.toNat < 256 ^ size := by
    have : ((256 ^ size : Nat) : Int) = 256 ^ size := by push_cast; rfl
    omega
  refine ⟨beBytes size n.toNat, ?_, length_beBytes .., ?_⟩
  · rw [toBytes, if_neg (by omega), if_pos hhigh]
  · rw [uintFromBytes, ofBe_beBytes hlt, Int.toNat_of_nonneg hlow]

theorem toBytes_eq_error {size : Nat} (h : n < 0 ∨ 256 ^ size ≤ n) :
    ∃ message, toBytes n size = .error (.overflowError message) := by
  rw [toBytes]
  split
  · exact ⟨_, rfl⟩
  · rw [if_neg (by omega)]
    exact ⟨_, rfl⟩

theorem i32Bytes_eq_ok (hlow : -2147483648 ≤ n) (hhigh : n ≤ 2147483647) :
    ∃ bytes, i32Bytes n = .ok bytes ∧ bytes.length = 4 ∧ intFromBytes bytes = n := by
  refine ⟨beBytes 4 (n % 256 ^ 4).toNat, ?_, length_beBytes .., ?_⟩
  · rw [i32Bytes, toSignedBytes, if_pos (by omega)]
  · have hlt : (n % 256 ^ 4).toNat < 256 ^ 4 := by omega
    rw [intFromBytes, length_beBytes, ofBe_beBytes hlt]
    split <;> omega

theorem i32Bytes_eq_error (h : n < -2147483648 ∨ 2147483647 < n) :
    i32Bytes n = .error (.overflowError "int too big to convert") := by
  rw [i32Bytes, toSignedBytes, if_neg (by omega)]

theorem i32Bytes_intFromBytes (h : bytes.length = 4) : i32Bytes (intFromBytes bytes) = .ok bytes := by
  have hlt := ofBe_lt bytes
  rw [h] at hlt
  -- the number and its unsigned pattern differ by the modulus
  have hmod : (intFromBytes bytes % 256 ^ 4).toNat = ofBe bytes := by
    rw [intFromBytes, h]
    split <;> omega
  have hrange : -(256 ^ 4) ≤ 2 * intFromBytes bytes ∧ 2 * intFromBytes bytes < 256 ^ 4 := by
    rw [intFromBytes, h]
    split <;> omega
  rw [i32Bytes, toSignedBytes, if_pos hrange, hmod, beBytes_ofBe_of_length h]

theorem widen_eq {x : binary32.Word} {y : binary64.Word} (h : x.convert binary64 = some y) : widen x = y := by
  simp [widen, h]

theorem packFloat_widen (h : bytes.length = 4)
    (hquiet : ¬ (binary32.ofBits (ofBe bytes)).Signalling) :
    packFloat (widen (binary32.ofBits (ofBe bytes))) = .ok bytes := by
  obtain ⟨y, hy, hback⟩ := binary32_narrower_binary64.convert_convert hquiet
  have hlt := ofBe_lt bytes
  rw [h] at hlt
  have hbits : (binary32.ofBits (ofBe bytes)).bits = ofBe bytes := FloatFormat.bits_ofBits hlt
  rw [widen_eq hy, packFloat, hback]
  dsimp only
  rw [hbits, beBytes_ofBe_of_length h]

/-- What is packed is unpacked as the double of the single. -/
theorem unpackFloat_bits (x : binary32.Word) : unpackFloat (beBytes 4 x.bits) = .ok (widen x) := by
  have hlt : x.bits < 256 ^ 4 := x.bits_lt
  rw [unpackFloat, if_pos (length_beBytes ..), ofBe_beBytes hlt, FloatFormat.ofBits_bits]

/-- A whole number that a single holds: it has no more than 24 significant bits. -/
def FitsSingle (n : Int) : Prop := ∃ s t, n.natAbs = s * 2 ^ t ∧ s < 2 ^ 24 ∧ n.natAbs < 2 ^ 128

/-- A whole number that is too large for a single, or for a double. -/
def TooLargeForSingle (n : Int) : Prop := (binary64.ofInt n).bind (·.convert binary32) = none

/-- A number that fits goes through a single unchanged. -/
theorem FitsSingle.convert (h : FitsSingle n) :
    ∃ v x, binary64.ofInt n = some v ∧ v.convert binary32 = some x ∧ widen x = v ∧ v.whole? = some n := by
  obtain ⟨s, t, hn, hs, hroom⟩ := h
  have hscaled : s * 2 ^ (t + binary32.unit) < 2 ^ (binary32.fraction + binary32.top - 1) := by
    rw [show binary32.fraction + binary32.top - 1 = 128 + binary32.unit from rfl, pow_add, pow_add, ← Nat.mul_assoc, ← hn]
    exact Nat.mul_lt_mul_of_pos_right hroom (Nat.two_pow_pos _)
  obtain ⟨v, hv, x, hx, hback⟩ := binary32_narrower_binary64.ofInt_convert hn hs hscaled
  refine ⟨v, x, hv, hx, widen_eq hback, FloatFormat.whole?_ofInt hn (hs.trans ?_) hv⟩
  exact Nat.pow_lt_pow_right (by omega) (by decide)

theorem fitsSingle_of_whole? {x : binary32.Word} (h : (widen x).whole? = some n) : FitsSingle n := by
  have hx : x.convert binary64 = some (widen x) := (Option.some_get _).symm
  obtain ⟨s, t, hn, hs, hroom⟩ := binary32_narrower_binary64.fits_of_whole? hx h
  rw [show binary32.fraction + binary32.top - 1 = 128 + binary32.unit from rfl, pow_add, pow_add, ← Nat.mul_assoc,
    ← hn] at hroom
  exact ⟨s, t, hn, hs, Nat.lt_of_mul_lt_mul_right hroom⟩

/-! ## Registers and payloads -/

theorem orderedRegisters_eq (registers : List Int) (wordOrder : String) :
    orderedRegisters registers wordOrder = if wordOrder = "little" then registers.reverse else registers := by
  rw [orderedRegisters]
  by_cases horder : wordOrder = "little"
  · rw [if_pos horder]
    match registers with
    | [] => simp
    | [_] => simp
    | a :: b :: rest => simp [horder]
  · rw [if_pos (.inl horder), if_neg horder]

/-- The registers of a payload, and the bytes that a decoder makes of them. -/
def payloadPair (payload : List UInt8) : List Int := [uintFromBytes (payload.take 2), uintFromBytes (payload.drop 2)]

variable {payload : List UInt8}

theorem payloadRegisters_eq (h : payload.length = 4) :
    payloadRegisters payload = .ok (payloadPair payload) := by
  rw [payloadRegisters, if_neg (not_not.mpr h)]
  rfl

theorem mapM_payloadPair (h : payload.length = 4) :
    (payloadPair payload).mapM u16Bytes = .ok [payload.take 2, payload.drop 2] := by
  have hfront : u16Bytes (uintFromBytes (payload.take 2)) = .ok (payload.take 2) := by
    refine toBytes_ofBe ?_
    rw [List.length_take]
    omega
  have hback : u16Bytes (uintFromBytes (payload.drop 2)) = .ok (payload.drop 2) := by
    refine toBytes_ofBe ?_
    rw [List.length_drop]
    omega
  simp only [payloadPair, List.mapM_cons, List.mapM_nil, hfront, hback]
  rfl

variable {registers : List Int}

theorem exists_payload (hlength : registers.length = 2)
    (hrange : ∀ r ∈ registers, 0 ≤ r ∧ r < 0x10000) :
    ∃ payload, payload.length = 4 ∧ registers = payloadPair payload := by
  match registers, hlength with
  | [a, b], _ =>
    obtain ⟨front, -, hfront, ha⟩ := toBytes_eq_ok (hrange a (by simp)).1 (show a < 256 ^ 2 from (hrange a (by simp)).2)
    obtain ⟨back, -, hback, hb⟩ := toBytes_eq_ok (hrange b (by simp)).1 (show b < 256 ^ 2 from (hrange b (by simp)).2)
    refine ⟨front ++ back, by rw [List.length_append, hfront, hback], ?_⟩
    rw [payloadPair, List.take_left' hfront, List.drop_left' hfront, ha, hb]

/-- Decoding without the word order. -/
def decodeOrdered (ordered : List Int) (dataType : String) : Except CodecError Scalar :=
  if ordered = [] then .error (.valueError "Modbus register decode requires at least one register")
  else do
    let payload ← ordered.mapM u16Bytes
    decodedRegisterPayload ordered payload.flatten (lower (strip dataType)) dataType

theorem decodeOrdered_pair (h : payload.length = 4) (dataType : String) :
    decodeOrdered (payloadPair payload) dataType =
      decodedRegisterPayload (payloadPair payload) payload (lower (strip dataType)) dataType := by
  have hjoin : [payload.take 2, payload.drop 2].flatten = payload := by simp
  rw [decodeOrdered, if_neg (by simp [payloadPair]), mapM_payloadPair h, ok_bind, hjoin]

theorem decodeOrdered_single {r : Int} (hlow : 0 ≤ r) (hhigh : r < 0x10000) (dataType : String) :
    ∃ payload, decodeOrdered [r] dataType = decodedRegisterPayload [r] payload (lower (strip dataType)) dataType := by
  obtain ⟨bytes, hbytes, -, -⟩ := toBytes_eq_ok hlow (show r < 256 ^ 2 from hhigh)
  have hmap : [r].mapM u16Bytes = .ok [bytes] := by
    rw [List.mapM_cons, List.mapM_nil, show u16Bytes r = .ok bytes from hbytes]
    rfl
  refine ⟨[bytes].flatten, ?_⟩
  rw [decodeOrdered, if_neg (List.cons_ne_nil _ _), hmap, ok_bind]

variable {dataType wordOrder order : String}

theorem decodeRegisterValue_eq (horder : normalizedWordOrder wordOrder = .ok order) (registers : List Int) :
    decodeRegisterValue registers dataType wordOrder = decodeOrdered (orderedRegisters registers order) dataType := by
  rw [decodeRegisterValue, horder, ok_bind, decodeOrdered]

variable {value : Scalar}

theorem encodeRegisterValue_eq (horder : normalizedWordOrder wordOrder = .ok order)
    {ordered : List Int}
    (hencode : encodedRegisters value (lower (strip dataType)) dataType = .ok ordered) :
    encodeRegisterValue value dataType wordOrder = .ok (orderedRegisters ordered order) := by
  rw [encodeRegisterValue, horder, ok_bind, hencode, ok_bind, orderedRegisters_eq]
  split <;> rfl

theorem orderedRegisters_orderedRegisters (registers : List Int) (order : String) :
    orderedRegisters (orderedRegisters registers order) order = registers := by
  rw [orderedRegisters_eq, orderedRegisters_eq]
  split
  · exact List.reverse_reverse registers
  · rfl

theorem round_trip (horder : normalizedWordOrder wordOrder = .ok order) {decoded : Scalar}
    {ordered : List Int}
    (hencode : encodedRegisters value (lower (strip dataType)) dataType = .ok ordered)
    (hdecode : decodeOrdered ordered dataType = .ok decoded) :
    ∃ registers, encodeRegisterValue value dataType wordOrder = .ok registers ∧
      decodeRegisterValue registers dataType wordOrder = .ok decoded := by
  refine ⟨_, encodeRegisterValue_eq horder hencode, ?_⟩
  rw [decodeRegisterValue_eq horder, orderedRegisters_orderedRegisters, hdecode]

theorem reproduced (horder : normalizedWordOrder wordOrder = .ok order)
    (hdecode : decodeOrdered (orderedRegisters registers order) dataType = .ok value)
    (hencode : encodedRegisters value (lower (strip dataType)) dataType = .ok (orderedRegisters registers order)) :
    decodeRegisterValue registers dataType wordOrder = .ok value ∧
      encodeRegisterValue value dataType wordOrder = .ok registers := by
  constructor
  · rw [decodeRegisterValue_eq horder, hdecode]
  · rw [encodeRegisterValue_eq horder hencode, orderedRegisters_orderedRegisters]

/-! ## Round trips -/

/-- The whole numbers of a data type. -/
def integerRange : String → Option (Int × Int)
  | "bool" => some (0, 1)
  | "uint16" => some (0, 65535)
  | "int16" => some (-32768, 32767)
  | "uint32" => some (0, 4294967295)
  | "int32" => some (-2147483648, 2147483647)
  | _ => none

/-- The bit pattern of registers in their word order. -/
def registerPattern (registers : List Int) (wordOrder : String) : Nat :=
  ofBe ((orderedRegisters registers (strip wordOrder)).flatMap fun r => beBytes 2 r.toNat)

theorem Scalar.toInt_eq (h : value.integer? = some n) : value.toInt = .ok n := by
  cases value with
  | int m => rw [toInt, Option.some.inj h]
  | bool b => rw [toInt, Option.some.inj h]
  | float x => nomatch h

theorem Scalar.toBool_eq (h : value.integer? = some n) : value.toBool = decide (n ≠ 0) := by
  cases value with
  | int m => rw [toBool, Option.some.inj h]
  | bool b =>
    rw [← Option.some.inj h]
    cases b <;> rfl
  | float x => nomatch h

theorem normalizedWordOrder_eq (h : strip wordOrder ∈ ["big", "little"]) :
    normalizedWordOrder wordOrder = .ok (strip wordOrder) := by
  rw [normalizedWordOrder, if_pos h]

/-- A 32-bit type: the number goes through a payload of four bytes. -/
theorem encode_payload {pack : Int → Except CodecError (List UInt8)}
    (hn : value.toInt = .ok n) (hpack : pack n = .ok payload) (hlength : payload.length = 4) :
    (do payloadRegisters (← pack (← value.toInt))) = .ok (payloadPair payload) := by
  rw [hn, ok_bind, hpack, ok_bind, payloadRegisters_eq hlength]

theorem decodedInt16_of_range {r : Int} (hlow : 0 ≤ r) (hhigh : r < 0x10000) : decodedInt16 r % 0x10000 = r := by
  rw [decodedInt16]
  split <;> omega

theorem Scalar.whole?_eq (h : value.integer? = some n) : value.whole? = some n := by
  cases value with
  | int m => exact h
  | bool b => exact h
  | float x => nomatch h

/-- What a type of one register makes of a number. -/
def narrowed (n : Int) : String → Int
  | "bool" => if n = 0 then 0 else 1
  | "uint16" => n % 0x10000
  | _ => decodedInt16 (n % 0x10000)

/-- A type of one register gives the narrowed number back. -/
theorem round_trip_narrow (horder : strip wordOrder ∈ ["big", "little"]) (hn : value.integer? = some n)
    (hname : lower (strip dataType) ∈ ["bool", "uint16", "int16"]) :
    ∃ registers decoded, encodeRegisterValue value dataType wordOrder = .ok registers ∧
      decodeRegisterValue registers dataType wordOrder = .ok decoded ∧
      decoded.integer? = some (narrowed n (lower (strip dataType))) := by
  have hint := Scalar.toInt_eq hn
  suffices h : ∃ ordered decoded, encodedRegisters value (lower (strip dataType)) dataType = .ok ordered ∧
      decodeOrdered ordered dataType = .ok decoded ∧
      decoded.integer? = some (narrowed n (lower (strip dataType))) by
    obtain ⟨ordered, decoded, hencode, hdecode, hsame⟩ := h
    obtain ⟨registers, hregisters, hback⟩ := round_trip (normalizedWordOrder_eq horder) hencode hdecode
    exact ⟨registers, decoded, hregisters, hback, hsame⟩
  have hmasked : encode16bitRegister value = .ok [n % 0x10000] := by
    rw [encode16bitRegister, hint, ok_bind]
    rfl
  obtain ⟨payload, hpayload⟩ := decodeOrdered_single (r := n % 0x10000) (by omega) (by omega) dataType
  simp only [List.mem_cons, List.not_mem_nil, or_false] at hname
  rcases hname with hname | hname | hname
  · obtain ⟨payload, hpayload⟩ := decodeOrdered_single (r := if value.toBool then 1 else 0) (by split <;> omega)
      (by split <;> omega) dataType
    refine ⟨[if value.toBool then 1 else 0], .bool value.toBool, by rw [hname]; rfl, ?_, ?_⟩
    · rw [hpayload, hname]
      cases value.toBool <;> rfl
    · rw [Scalar.toBool_eq hn, hname]
      by_cases hzero : n = 0 <;> simp [Scalar.integer?, narrowed, hzero]
  · refine ⟨[n % 0x10000], .int (n % 0x10000), by rw [hname]; exact hmasked, ?_, by rw [hname]; rfl⟩
    rw [hpayload, hname]
    rfl
  · refine ⟨[n % 0x10000], .int (decodedInt16 (n % 0x10000)), by rw [hname]; exact hmasked, ?_, by rw [hname]; rfl⟩
    rw [hpayload, hname]
    rfl

/-- Exactly the numbers in the range of the type are not changed. -/
theorem narrowed_eq_iff {name : String} (hname : name ∈ ["bool", "uint16", "int16"]) :
    narrowed n name = n ↔ ∀ range ∈ integerRange name, range.1 ≤ n ∧ n ≤ range.2 := by
  simp only [List.mem_cons, List.not_mem_nil, or_false] at hname
  rcases hname with rfl | rfl | rfl
  · simp only [narrowed, integerRange, Option.mem_def, Option.some.injEq, forall_eq']
    split <;> omega
  · simp only [narrowed, integerRange, Option.mem_def, Option.some.injEq, forall_eq']
    omega
  · rw [show narrowed n "int16" = decodedInt16 (n % 0x10000) from rfl]
    simp only [decodedInt16, integerRange, Option.mem_def, Option.some.injEq, forall_eq']
    split <;> omega

/-- A number in the range of a 32-bit type comes back. -/
theorem round_trip_wide (horder : strip wordOrder ∈ ["big", "little"]) {low high : Int}
    (hn : value.integer? = some n) (hname : lower (strip dataType) ∈ ["uint32", "int32"])
    (hrange : integerRange (lower (strip dataType)) = some (low, high)) (hlow : low ≤ n) (hhigh : n ≤ high) :
    ∃ registers decoded, encodeRegisterValue value dataType wordOrder = .ok registers ∧
      decodeRegisterValue registers dataType wordOrder = .ok decoded ∧ decoded.integer? = some n := by
  have hint := Scalar.toInt_eq hn
  suffices h : ∃ ordered, encodedRegisters value (lower (strip dataType)) dataType = .ok ordered ∧
      decodeOrdered ordered dataType = .ok (.int n) by
    obtain ⟨ordered, hencode, hdecode⟩ := h
    obtain ⟨registers, hregisters, hback⟩ := round_trip (normalizedWordOrder_eq horder) hencode hdecode
    exact ⟨registers, .int n, hregisters, hback, rfl⟩
  rcases List.mem_pair.mp hname with hname | hname <;> rw [hname] at hrange ⊢ <;>
    obtain ⟨rfl, rfl⟩ := Prod.mk.inj (Option.some.inj hrange)
  · obtain ⟨payload, hpack, hlength, hvalue⟩ := toBytes_eq_ok hlow (show n < 256 ^ 4 by omega)
    refine ⟨payloadPair payload, encode_payload hint hpack hlength, ?_⟩
    rw [decodeOrdered_pair hlength, hname]
    show Except.ok (Scalar.int (uintFromBytes payload)) = _
    rw [hvalue]
  · obtain ⟨payload, hpack, hlength, hvalue⟩ := i32Bytes_eq_ok hlow hhigh
    refine ⟨payloadPair payload, encode_payload hint hpack hlength, ?_⟩
    rw [decodeOrdered_pair hlength, hname]
    show Except.ok (Scalar.int (intFromBytes payload)) = _
    rw [hvalue]

/-- A number out of the range of a 32-bit type is refused. -/
theorem refused_integer (horder : strip wordOrder ∈ ["big", "little"]) {low high : Int}
    (hn : value.integer? = some n) (hname : lower (strip dataType) ∈ ["uint32", "int32"])
    (hrange : integerRange (lower (strip dataType)) = some (low, high)) (hout : n < low ∨ high < n) :
    ∃ message, encodeRegisterValue value dataType wordOrder = .error (.overflowError message) := by
  have hint := Scalar.toInt_eq hn
  suffices h : ∃ message, encodedRegisters value (lower (strip dataType)) dataType = .error (.overflowError message) by
    obtain ⟨message, hencode⟩ := h
    refine ⟨message, ?_⟩
    rw [encodeRegisterValue, normalizedWordOrder_eq horder, ok_bind, hencode]
    rfl
  generalize lower (strip dataType) = name at hrange hname ⊢
  rcases List.mem_pair.mp hname with rfl | rfl
  · obtain ⟨rfl, rfl⟩ := Prod.mk.inj (Option.some.inj hrange)
    obtain ⟨message, herror⟩ := toBytes_eq_error (show n < 0 ∨ 256 ^ 4 ≤ n by omega)
    refine ⟨message, ?_⟩
    show encodeUint32Register value = _
    rw [encodeUint32Register, hint, ok_bind, u32Bytes, herror]
    rfl
  · obtain ⟨rfl, rfl⟩ := Prod.mk.inj (Option.some.inj hrange)
    refine ⟨"int too big to convert", ?_⟩
    show encodeInt32Register value = _
    rw [encodeInt32Register, hint, ok_bind, i32Bytes_eq_error hout]
    rfl

/-! ## Singles -/

/-- The registers of a single in their word order. -/
def singleRegisters (x : binary32.Word) (wordOrder : String) : List Int :=
  orderedRegisters (payloadPair (beBytes 4 x.bits)) (strip wordOrder)

/-- A value of type `float32` is encoded exactly when it has a single. -/
theorem encode_float_iff (horder : strip wordOrder ∈ ["big", "little"]) (hname : lower (strip dataType) = "float32") :
    encodeRegisterValue value dataType wordOrder = .ok registers ↔
      ∃ v x, value.toFloat = .ok v ∧ v.convert binary32 = some x ∧ registers = singleRegisters x wordOrder := by
  have hencoded : encodedRegisters value (lower (strip dataType)) dataType = encodeFloat32Register value := by
    rw [hname]
    rfl
  cases hfloat : value.toFloat with
  | error reason =>
    rw [encodeRegisterValue, normalizedWordOrder_eq horder, ok_bind, hencoded, encodeFloat32Register, hfloat]
    refine iff_of_false nofun ?_
    rintro ⟨v, _, hv, -⟩
    nomatch hv
  | ok v =>
    cases hsingle : v.convert binary32 with
    | none =>
      have hpack : packFloat v = .error (.overflowError "float too large to pack with f format") := by
        rw [packFloat, hsingle]
      rw [encodeRegisterValue, normalizedWordOrder_eq horder, ok_bind, hencoded, encodeFloat32Register, hfloat,
        ok_bind, hpack]
      refine iff_of_false nofun ?_
      rintro ⟨v, x, hv, hx, -⟩
      obtain rfl := Except.ok.inj hv
      nomatch hsingle.symm.trans hx
    | some x =>
      have hpack : packFloat v = .ok (beBytes 4 x.bits) := by rw [packFloat, hsingle]
      have hregisters : encodedRegisters value (lower (strip dataType)) dataType =
          .ok (payloadPair (beBytes 4 x.bits)) := by
        rw [hencoded, encodeFloat32Register, hfloat, ok_bind, hpack, ok_bind, payloadRegisters_eq (length_beBytes ..)]
      rw [encodeRegisterValue_eq (normalizedWordOrder_eq horder) hregisters]
      constructor
      · intro h
        exact ⟨v, x, rfl, hsingle, (Except.ok.inj h).symm⟩
      · rintro ⟨v, y, hv, hy, rfl⟩
        obtain rfl := Except.ok.inj hv
        obtain rfl := Option.some.inj (hsingle.symm.trans hy)
        rfl

theorem decode_single (horder : strip wordOrder ∈ ["big", "little"]) (hname : lower (strip dataType) = "float32")
    (x : binary32.Word) :
    decodeRegisterValue (singleRegisters x wordOrder) dataType wordOrder = .ok (.float (widen x)) := by
  rw [decodeRegisterValue_eq (normalizedWordOrder_eq horder), singleRegisters, orderedRegisters_orderedRegisters,
    decodeOrdered_pair (length_beBytes ..), hname]
  show (do return Scalar.float (← unpackFloat (beBytes 4 x.bits))) = _
  rw [unpackFloat_bits]
  rfl

/-! ## Registers that are reproduced -/

theorem registerPattern_payloadPair (h : payload.length = 4)
    (hregisters : orderedRegisters registers (strip wordOrder) = payloadPair payload) :
    registerPattern registers wordOrder = ofBe payload := by
  have hword (bytes : List UInt8) (hlength : bytes.length = 2) : beBytes 2 (uintFromBytes bytes).toNat = bytes := by
    rw [uintFromBytes, Int.toNat_natCast, beBytes_ofBe_of_length hlength]
  have hfront : (payload.take 2).length = 2 := by rw [List.length_take]; omega
  have hback : (payload.drop 2).length = 2 := by rw [List.length_drop]; omega
  rw [registerPattern, hregisters, payloadPair, List.flatMap_cons, List.flatMap_cons, List.flatMap_nil, hword _ hfront,
    hword _ hback, List.append_nil, List.take_append_drop]

/-- Two registers of a 32-bit type are reproduced, where the type packs what it unpacks. -/
theorem reproduced_pair (horder : strip wordOrder ∈ ["big", "little"])
    (hlength : registers.length = 2) (hrange : ∀ r ∈ registers, 0 ≤ r ∧ r < 0x10000)
    (h : ∀ payload, payload.length = 4 → registerPattern registers wordOrder = ofBe payload →
      ∃ value, decodedRegisterPayload (payloadPair payload) payload (lower (strip dataType)) dataType = .ok value ∧
        encodedRegisters value (lower (strip dataType)) dataType = .ok (payloadPair payload)) :
    ∃ value, decodeRegisterValue registers dataType wordOrder = .ok value ∧
      encodeRegisterValue value dataType wordOrder = .ok registers := by
  have hordered : (orderedRegisters registers (strip wordOrder)).length = 2 ∧
      ∀ r ∈ orderedRegisters registers (strip wordOrder), 0 ≤ r ∧ r < 0x10000 := by
    rw [orderedRegisters_eq]
    split
    · exact ⟨by rw [List.length_reverse, hlength], fun r hr => hrange r (List.mem_reverse.mp hr)⟩
    · exact ⟨hlength, hrange⟩
  obtain ⟨payload, hfour, hpayload⟩ := exists_payload hordered.1 hordered.2
  obtain ⟨value, hdecode, hencode⟩ := h payload hfour (registerPattern_payloadPair hfour hpayload)
  refine ⟨value, reproduced (normalizedWordOrder_eq horder) ?_ ?_⟩
  · rw [hpayload, decodeOrdered_pair hfour, hdecode]
  · rw [hpayload, hencode]

theorem reproduced_single (horder : strip wordOrder ∈ ["big", "little"])
    (hlength : registers.length = 1) (hrange : ∀ r ∈ registers, 0 ≤ r ∧ r < 0x10000)
    (h : ∀ r payload, registers = [r] → 0 ≤ r → r < 0x10000 →
      ∃ value, decodedRegisterPayload [r] payload (lower (strip dataType)) dataType = .ok value ∧
        encodedRegisters value (lower (strip dataType)) dataType = .ok [r]) :
    ∃ value, decodeRegisterValue registers dataType wordOrder = .ok value ∧
      encodeRegisterValue value dataType wordOrder = .ok registers := by
  obtain ⟨r, rfl⟩ := List.length_eq_one_iff.mp hlength
  obtain ⟨hlow, hhigh⟩ := hrange r (List.mem_singleton_self r)
  have hordered : orderedRegisters [r] (strip wordOrder) = [r] := by
    rw [orderedRegisters_eq, List.reverse_singleton, ite_self]
  obtain ⟨payload, hpayload⟩ := decodeOrdered_single hlow hhigh dataType
  obtain ⟨value, hdecode, hencode⟩ := h r payload rfl hlow hhigh
  refine ⟨value, reproduced (normalizedWordOrder_eq horder) ?_ ?_⟩
  · rw [hordered, hpayload, hdecode]
  · rw [hordered, hencode]

theorem registerCount_eq {name : String} (h : lower (strip dataType) = name) :
    registerCount dataType = if name ∈ ["uint32", "int32", "float32"] then 2 else 1 := by
  rw [registerCount, h]

/-- Registers of the right number are reproduced from their value: for `bool` a register that is zero or one, for
`float32` a pattern that is no signalling NaN. -/
theorem reproduced_registers (horder : strip wordOrder ∈ ["big", "little"])
    (hname : lower (strip dataType) ∈ ["bool", "uint16", "int16", "uint32", "int32", "float32"])
    (hlength : registers.length = registerCount dataType)
    (hrange : ∀ r ∈ registers, 0 ≤ r ∧ r < 0x10000)
    (hbool : lower (strip dataType) = "bool" → ∀ r ∈ registers, r ≤ 1)
    (hfloat : lower (strip dataType) = "float32" →
      ¬ (binary32.ofBits (registerPattern registers wordOrder)).Signalling) :
    ∃ value, decodeRegisterValue registers dataType wordOrder = .ok value ∧
      encodeRegisterValue value dataType wordOrder = .ok registers := by
  simp only [List.mem_cons, List.not_mem_nil, or_false] at hname
  rcases hname with hname | hname | hname | hname | hname | hname <;> rw [registerCount_eq hname] at hlength
  · -- "bool"
    refine reproduced_single horder hlength hrange ?_
    intro r payload hr hlow _
    have hone := hbool hname r (by rw [hr]; exact List.mem_singleton_self r)
    refine ⟨.bool (decide (r ≠ 0)), by rw [hname]; rfl, ?_⟩
    rw [hname]
    have hbit : r = 0 ∨ r = 1 := by omega
    rcases hbit with rfl | rfl <;> rfl
  · -- "uint16"
    refine reproduced_single horder hlength hrange ?_
    intro r payload _ hlow hhigh
    refine ⟨.int r, by rw [hname]; rfl, ?_⟩
    rw [hname]
    show Except.ok [r % 0x10000] = _
    rw [Int.emod_eq_of_lt hlow hhigh]
  · -- "int16"
    refine reproduced_single horder hlength hrange ?_
    intro r payload _ hlow hhigh
    refine ⟨.int (decodedInt16 r), by rw [hname]; rfl, ?_⟩
    rw [hname]
    show Except.ok [decodedInt16 r % 0x10000] = _
    rw [decodedInt16_of_range hlow hhigh]
  · -- "uint32"
    refine reproduced_pair horder hlength hrange ?_
    intro payload hfour _
    refine ⟨.int (uintFromBytes payload), by rw [hname]; rfl, ?_⟩
    rw [hname]
    exact encode_payload rfl (toBytes_ofBe hfour) hfour
  · -- "int32"
    refine reproduced_pair horder hlength hrange ?_
    intro payload hfour _
    refine ⟨.int (intFromBytes payload), by rw [hname]; rfl, ?_⟩
    rw [hname]
    exact encode_payload rfl (i32Bytes_intFromBytes hfour) hfour
  · -- "float32"
    refine reproduced_pair horder hlength hrange ?_
    intro payload hfour hpattern
    have hquiet := hfloat hname
    rw [hpattern] at hquiet
    refine ⟨.float (widen (binary32.ofBits (ofBe payload))), ?_, ?_⟩
    · rw [hname]
      show (do return Scalar.float (← unpackFloat payload)) = _
      rw [unpackFloat, if_pos hfour]
      rfl
    · rw [hname]
      show encodeFloat32Register _ = _
      rw [encodeFloat32Register, Scalar.toFloat, ok_bind, packFloat_widen hfour hquiet, ok_bind,
        payloadRegisters_eq hfour]

/-! ## Both directions -/

/-- What is encoded comes back as a value that is equal to it. -/
def ComesBack (value : Scalar) (dataType wordOrder : String) : Prop :=
  ∀ registers, encodeRegisterValue value dataType wordOrder = .ok registers →
    ∃ decoded, decodeRegisterValue registers dataType wordOrder = .ok decoded ∧ decoded.whole? = value.integer?

/-- Registers are reproduced from what they decode to. -/
def Reproduced (registers : List Int) (dataType wordOrder : String) : Prop :=
  ∃ value, decodeRegisterValue registers dataType wordOrder = .ok value ∧
    encodeRegisterValue value dataType wordOrder = .ok registers

/-- A number that its type does not change: one in the range of a type of one register, any number for the integers of
32 bits, and one that fits a single or is too large for it. -/
def KeepsNumber (n : Int) (name : String) : Prop :=
  (name ∈ ["bool", "uint16", "int16"] → ∀ range ∈ integerRange name, range.1 ≤ n ∧ n ≤ range.2) ∧
    (name = "float32" → FitsSingle n ∨ TooLargeForSingle n)

/-- Registers that their type does not change. -/
def KeepsRegisters (registers : List Int) (name wordOrder : String) : Prop :=
  (name = "bool" → ∀ r ∈ registers, r ≤ 1) ∧
    (name = "float32" → ¬ (binary32.ofBits (registerPattern registers wordOrder)).Signalling)

/-- A number of the type: in its range, or one that fits a single. -/
def InDomain (n : Int) (name : String) : Prop :=
  (∀ range ∈ integerRange name, range.1 ≤ n ∧ n ≤ range.2) ∧ (name = "float32" → FitsSingle n)

/-- The types of one register, the integers of 32 bits, and the single. -/
theorem dataType_cases {name : String} (h : name ∈ ["bool", "uint16", "int16", "uint32", "int32", "float32"]) :
    name ∈ ["bool", "uint16", "int16"] ∨ name ∈ ["uint32", "int32"] ∨ name = "float32" := by
  simp only [List.mem_cons, List.not_mem_nil, or_false] at h ⊢
  tauto

theorem exists_integerRange {name : String} (h : name ∈ ["uint32", "int32"]) :
    ∃ range, integerRange name = some range := by
  rcases List.mem_pair.mp h with rfl | rfl <;> exact ⟨_, rfl⟩

theorem Scalar.toFloat_eq_ok {v : binary64.Word} (hn : value.integer? = some n) :
    value.toFloat = .ok v ↔ binary64.ofInt n = some v := by
  have hfloat : value.toFloat = floatOfInt n := by
    cases value with
    | int m => rw [toFloat, Option.some.inj hn]
    | bool b => rw [toFloat, Option.some.inj hn]
    | float x => nomatch hn
  rw [hfloat, floatOfInt]
  cases binary64.ofInt n with
  | none => exact ⟨nofun, fun h => nomatch h⟩
  | some w => exact ⟨fun h => congrArg some (Except.ok.inj h), fun h => congrArg Except.ok (Option.some.inj h)⟩

section

variable (horder : strip wordOrder ∈ ["big", "little"])
include horder

theorem comesBack_narrow_iff (hn : value.integer? = some n)
    (hname : lower (strip dataType) ∈ ["bool", "uint16", "int16"]) :
    ComesBack value dataType wordOrder ↔ narrowed n (lower (strip dataType)) = n := by
  obtain ⟨registers, decoded, hencode, hdecode, hvalue⟩ := round_trip_narrow horder hn hname
  constructor
  · intro h
    obtain ⟨other, hother, hsame⟩ := h registers hencode
    obtain rfl := Except.ok.inj (hdecode.symm.trans hother)
    rw [Scalar.whole?_eq hvalue, hn] at hsame
    exact Option.some.inj hsame
  · intro hkept other hother
    obtain rfl := Except.ok.inj (hencode.symm.trans hother)
    exact ⟨decoded, hdecode, by rw [Scalar.whole?_eq hvalue, hkept, hn]⟩

theorem comesBack_float_iff (hn : value.integer? = some n)
    (hname : lower (strip dataType) = "float32") :
    ComesBack value dataType wordOrder ↔ FitsSingle n ∨ TooLargeForSingle n := by
  constructor
  · intro h
    by_cases hlarge : TooLargeForSingle n
    · exact .inr hlarge
    · obtain ⟨x, hx⟩ := Option.ne_none_iff_exists'.mp hlarge
      obtain ⟨v, hv, hsingle⟩ := Option.bind_eq_some_iff.mp hx
      obtain ⟨decoded, hdecoded, hsame⟩ := h (singleRegisters x wordOrder)
        ((encode_float_iff horder hname).mpr ⟨v, x, (Scalar.toFloat_eq_ok hn).mpr hv, hsingle, rfl⟩)
      rw [decode_single horder hname] at hdecoded
      rw [← Except.ok.inj hdecoded, hn] at hsame
      exact .inl (fitsSingle_of_whole? hsame)
  · intro hkept registers hencode
    obtain ⟨v, x, hv, hx, rfl⟩ := (encode_float_iff horder hname).mp hencode
    rw [Scalar.toFloat_eq_ok hn] at hv
    refine ⟨.float (widen x), decode_single horder hname x, ?_⟩
    rcases hkept with hfits | hlarge
    · obtain ⟨w, y, hw, hy, hwiden, hwhole⟩ := hfits.convert
      obtain rfl := Option.some.inj (hv.symm.trans hw)
      obtain rfl := Option.some.inj (hx.symm.trans hy)
      rw [hwiden, hn]
      exact hwhole
    · rw [TooLargeForSingle, hv, Option.bind_some, hx] at hlarge
      nomatch hlarge

theorem comesBack_iff
    (hname : lower (strip dataType) ∈ ["bool", "uint16", "int16", "uint32", "int32", "float32"])
    (hn : value.integer? = some n) : ComesBack value dataType wordOrder ↔ KeepsNumber n (lower (strip dataType)) := by
  rcases dataType_cases hname with hnarrow | hwide | hfloat
  · rw [comesBack_narrow_iff horder hn hnarrow, narrowed_eq_iff hnarrow]
    refine ⟨fun h => ⟨fun _ => h, fun heq => ?_⟩, fun h => h.1 hnarrow⟩
    rw [heq] at hnarrow
    exact absurd hnarrow (by decide)
  · refine iff_of_true (fun registers hencode => ?_) ?_
    · obtain ⟨range, hrange⟩ := exists_integerRange hwide
      by_cases hout : n < range.1 ∨ range.2 < n
      · obtain ⟨message, herror⟩ := refused_integer horder hn hwide hrange hout
        nomatch herror.symm.trans hencode
      · obtain ⟨other, decoded, hother, hdecode, hvalue⟩ :=
          round_trip_wide horder hn hwide hrange (by omega) (by omega)
        obtain rfl := Except.ok.inj (hother.symm.trans hencode)
        exact ⟨decoded, hdecode, by rw [Scalar.whole?_eq hvalue, hn]⟩
    · rcases List.mem_pair.mp hwide with heq | heq <;> rw [heq] <;>
        exact ⟨fun h => absurd h (by decide), fun h => absurd h (by decide)⟩
  · rw [comesBack_float_iff horder hn hfloat, hfloat]
    exact ⟨fun h => ⟨fun hnarrow => absurd hnarrow (by decide), fun _ => h⟩, fun h => h.2 rfl⟩

theorem encoded_of_inDomain
    (hname : lower (strip dataType) ∈ ["bool", "uint16", "int16", "uint32", "int32", "float32"])
    (hn : value.integer? = some n) (h : InDomain n (lower (strip dataType))) :
    ∃ registers, encodeRegisterValue value dataType wordOrder = .ok registers := by
  rcases dataType_cases hname with hnarrow | hwide | hfloat
  · obtain ⟨registers, -, hencode, -⟩ := round_trip_narrow horder hn hnarrow
    exact ⟨registers, hencode⟩
  · obtain ⟨range, hrange⟩ := exists_integerRange hwide
    obtain ⟨hlow, hhigh⟩ := h.1 range hrange
    obtain ⟨registers, -, hencode, -⟩ := round_trip_wide horder hn hwide hrange hlow hhigh
    exact ⟨registers, hencode⟩
  · obtain ⟨v, x, hv, hx, -⟩ := (h.2 hfloat).convert
    exact ⟨_, (encode_float_iff horder hfloat).mpr ⟨v, x, (Scalar.toFloat_eq_ok hn).mpr hv, hx, rfl⟩⟩

theorem reproduced_iff
    (hname : lower (strip dataType) ∈ ["bool", "uint16", "int16", "uint32", "int32", "float32"])
    (hlength : registers.length = registerCount dataType) (hrange : ∀ r ∈ registers, 0 ≤ r ∧ r < 0x10000) :
    Reproduced registers dataType wordOrder ↔ KeepsRegisters registers (lower (strip dataType)) wordOrder := by
  refine ⟨?_, fun h => reproduced_registers horder hname hlength hrange h.1 h.2⟩
  rintro ⟨value, -, hencode⟩
  refine ⟨fun hbool => ?_, fun hfloat => ?_⟩
  · have hregisters : encodedRegisters value (lower (strip dataType)) dataType =
        .ok [if value.toBool then 1 else 0] := by
      rw [hbool]
      rfl
    rw [encodeRegisterValue_eq (normalizedWordOrder_eq horder) hregisters, orderedRegisters_eq, List.reverse_singleton,
      ite_self] at hencode
    obtain rfl := Except.ok.inj hencode
    intro r hr
    rw [List.mem_singleton.mp hr]
    split <;> omega
  · obtain ⟨v, x, -, hx, rfl⟩ := (encode_float_iff horder hfloat).mp hencode
    have hpattern : registerPattern (singleRegisters x wordOrder) wordOrder = ofBe (beBytes 4 x.bits) :=
      registerPattern_payloadPair (length_beBytes ..) (orderedRegisters_orderedRegisters _ _)
    have hlt : x.bits < 256 ^ 4 := x.bits_lt
    rw [hpattern, ofBe_beBytes hlt, FloatFormat.ofBits_bits]
    exact FloatFormat.Word.not_signalling_convert hx

end

/-- Both directions of the codec. A number comes back exactly when its type keeps it, a number of the type is encoded,
and the integers of 32 bits refuse the others. Registers are reproduced exactly when their type keeps them. -/
theorem register_codec (horder : strip wordOrder ∈ ["big", "little"])
    (hname : lower (strip dataType) ∈ ["bool", "uint16", "int16", "uint32", "int32", "float32"]) :
    (∀ value n, value.integer? = some n →
      (ComesBack value dataType wordOrder ↔ KeepsNumber n (lower (strip dataType))) ∧
      (InDomain n (lower (strip dataType)) →
        ∃ registers, encodeRegisterValue value dataType wordOrder = .ok registers) ∧
      (lower (strip dataType) ∈ ["uint32", "int32"] →
        ∀ range ∈ integerRange (lower (strip dataType)), n < range.1 ∨ range.2 < n →
          ∃ message, encodeRegisterValue value dataType wordOrder = .error (.overflowError message))) ∧
    ∀ registers, registers.length = registerCount dataType → (∀ r ∈ registers, 0 ≤ r ∧ r < 0x10000) →
      (Reproduced registers dataType wordOrder ↔ KeepsRegisters registers (lower (strip dataType)) wordOrder) :=
  ⟨fun _ _ hn => ⟨comesBack_iff horder hname hn, encoded_of_inDomain horder hname hn,
    fun hwide _ hrange hout => refused_integer horder hn hwide hrange hout⟩,
    fun _ hlength hrange => reproduced_iff horder hname hlength hrange⟩

/-- A setpoint of 16 A in milliamperes comes back as `uint32` with little-endian words, and as `int16`; a number with 25
significant bits does not come back as `float32`. -/
theorem register_codec_setpoint :
    ComesBack (.int 16000) " UInt32 " "little" ∧ ComesBack (.int 16000) "int16" "big" ∧
      ¬ ComesBack (.int 16777217) "float32" "big" := by
  refine ⟨((register_codec (by decide +kernel) (by decide +kernel)).1 _ 16000 rfl).1.mpr ?_,
    ((register_codec (by decide +kernel) (by decide +kernel)).1 _ 16000 rfl).1.mpr ?_,
    ((register_codec (by decide +kernel) (by decide +kernel)).1 _ 16777217 rfl).1.not.mpr ?_⟩
  · exact ⟨fun h => absurd h (by decide +kernel), fun h => absurd h (by decide +kernel)⟩
  · exact ⟨fun _ => by decide +kernel, fun h => absurd h (by decide +kernel)⟩
  · intro h
    rcases h.2 (by decide +kernel) with ⟨s, t, hn, hs, -⟩ | hlarge
    · cases t with
      | zero => omega
      | succ t =>
        rw [pow_succ, ← Nat.mul_assoc] at hn
        omega
    · exact absurd hlarge (by rw [TooLargeForSingle]; decide +kernel)

/-- 70000 as `uint16` becomes 4464: the register keeps the low bits. -/
theorem wrapped_register : ¬ ComesBack (.int 70000) "uint16" "big" := by
  intro h
  obtain ⟨decoded, hdecode, hsame⟩ := h [4464] (by decide +kernel)
  rw [show decodeRegisterValue [4464] "uint16" "big" = .ok (.int 4464) by decide +kernel] at hdecode
  rw [← Except.ok.inj hdecode] at hsame
  exact absurd (Option.some.inj hsame) (by omega)

end VenusEvcharger.Backend
