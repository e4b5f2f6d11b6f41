import VenusEvcharger.Backend.ModbusTransport
import VenusEvcharger.Library.Returns

/-!
# The Modbus client

The client reads bits and registers and writes a coil, a register or several registers through one transport. It looks
at the function code of the answer and at the amount of data in it, and not at what an answer to a write repeats of
the request. `call_checked` says which answers it accepts and what it raises otherwise.
-/

namespace VenusEvcharger.Backend

open Library

/-- The tables of bits and of registers. -/
inductive BitTable where
  | coil
  | discrete
  deriving DecidableEq

inductive RegisterTable where
  | holding
  | input
  deriving DecidableEq

/-- `_READ_BITS_FUNCTIONS`. -/
def BitTable.readFunction : BitTable → UInt8
  | .coil => 0x01
  | .discrete => 0x02

/-- `_READ_REGISTERS_FUNCTIONS`. -/
def RegisterTable.readFunction : RegisterTable → UInt8
  | .holding => 0x03
  | .input => 0x04

def writeSingleCoilFunction : UInt8 := 0x05

def writeSingleRegisterFunction : UInt8 := 0x06

def writeMultipleRegistersFunction : UInt8 := 0x10

/-- An encoding of the request; its error is raised before anything is sent. -/
def encoded {α : Type} (x : Except CodecError α) : Except ModbusError α := x.mapError .codecError

structure ModbusClient where
  transport : ModbusTransport
  unitId : UInt8

namespace ModbusClient

variable (client : ModbusClient) (replies : List Received)

/-- `_response_pdu`. -/
def responsePdu (functionCode : UInt8) (payload : List UInt8) : Except ModbusError (List UInt8) := do
  let response ← client.transport.exchange ⟨client.unitId, functionCode, payload⟩ replies
  match response with
  | [] => .error (.modbusProtocolError "Empty Modbus response")
  | responseFunction :: responseData =>
    if responseFunction = functionCode ||| 0x80 then
      .error (.modbusDeviceError ("Modbus exception response 0x" ++ (responseData.head?.elim "-1" hexByte)))
    else if responseFunction ≠ functionCode then
      .error (.modbusProtocolError ("Unexpected Modbus response function 0x" ++ hexByte responseFunction ++
        " for request 0x" ++ hexByte functionCode))
    else .ok responseData

/-- The bit of an index in the bytes of a response, when there is one. -/
def bitAt (rawBytes : List UInt8) (index : Nat) : Option Bool :=
  rawBytes[index / 8]?.map fun byte => byte.toNat.testBit (index % 8)

/-- The register of an index in the bytes of a response. -/
def registerAt (registerBytes : List UInt8) (index : Nat) : Int :=
  uintFromBytes ((registerBytes.drop (2 * index)).take 2)

/-- The bits of the response data of `_read_bits`. -/
def decodeBits (count : Int) (responseData : List UInt8) : Except ModbusError (List Bool) :=
  match responseData with
  | [] => .error (.modbusProtocolError "Missing Modbus bit byte-count")
  | byteCount :: rawBytes =>
    if rawBytes.length ≠ byteCount.toNat then .error (.modbusProtocolError "Incomplete Modbus bit response")
    else (List.range count.toNat).mapM fun index =>
      match bitAt rawBytes index with
      | some bit => .ok bit
      | none => .error (.indexError "index out of range")

/-- The registers of the response data of `_read_registers`. -/
def decodeRegisters (count : Int) (responseData : List UInt8) : Except ModbusError (List Int) :=
  match responseData with
  | [] => .error (.modbusProtocolError "Missing Modbus register byte-count")
  | byteCount :: registerBytes =>
    if registerBytes.length ≠ byteCount.toNat ∨ (byteCount.toNat : Int) ≠ count * 2 then
      .error (.modbusProtocolError "Incomplete Modbus register response")
    else .ok ((List.range ((byteCount.toNat + 1) / 2)).map (registerAt registerBytes))

/-- The response data of a write. -/
def checkWritten (what : String) (responseData : List UInt8) : Except ModbusError Unit :=
  if responseData.length ≠ 4 then
    .error (.modbusProtocolError ("Unexpected Modbus " ++ what ++ " write response length"))
  else .ok ()

/-- `_read_bits`. -/
def readBits (table : BitTable) (address count : Int) : Except ModbusError (List Bool) := do
  let payload ← encoded (do return (← u16Bytes address) ++ (← u16Bytes count))
  decodeBits count (← client.responsePdu replies table.readFunction payload)

/-- `_read_registers`. -/
def readRegisters (table : RegisterTable) (address count : Int) : Except ModbusError (List Int) := do
  let payload ← encoded (do return (← u16Bytes address) ++ (← u16Bytes count))
  decodeRegisters count (← client.responsePdu replies table.readFunction payload)

/-- `write_single_coil`. -/
def writeSingleCoil (address : Int) (value : Bool) : Except ModbusError Unit := do
  let payload ← encoded (do return (← u16Bytes address) ++ (← u16Bytes (if value then 0xFF00 else 0x0000)))
  checkWritten "coil" (← client.responsePdu replies writeSingleCoilFunction payload)

/-- `write_single_register`. -/
def writeSingleRegister (address value : Int) : Except ModbusError Unit := do
  let payload ← encoded (do return (← u16Bytes address) ++ (← u16Bytes (value % 0x10000)))
  checkWritten "register" (← client.responsePdu replies writeSingleRegisterFunction payload)

/-- The payload of `write_multiple_registers`. -/
def multipleRegistersPayload (address : Int) (values : List Int) : Except CodecError (List UInt8) := do
  let payloadBytes := (← values.mapM fun value => u16Bytes (value % 0x10000)).flatten
  let front := (← u16Bytes address) ++ (← u16Bytes values.length)
  if payloadBytes.length < 256 then .ok (front ++ UInt8.ofNat payloadBytes.length :: payloadBytes)
  else .error (.valueError "bytes must be in range(0, 256)")

/-- `write_multiple_registers`. -/
def writeMultipleRegisters (address : Int) (values : List Int) : Except ModbusError Unit := do
  let payload ← encoded (multipleRegistersPayload address values)
  checkWritten "multi-register" (← client.responsePdu replies writeMultipleRegistersFunction payload)

end ModbusClient

/-! ## Calls -/

/-- The calls of a client. -/
inductive ModbusCall where
  | readBits (table : BitTable) (address count : Int)
  | readRegisters (table : RegisterTable) (address count : Int)
  | writeSingleCoil (address : Int) (value : Bool)
  | writeSingleRegister (address value : Int)
  | writeMultipleRegisters (address : Int) (values : List Int)

/-- What a call returns. -/
inductive ModbusAnswer where
  | bits (values : List Bool)
  | registers (values : List Int)
  | written
  deriving DecidableEq

namespace ModbusCall

def functionCode : ModbusCall → UInt8
  | readBits table _ _ => table.readFunction
  | readRegisters table _ _ => table.readFunction
  | writeSingleCoil _ _ => writeSingleCoilFunction
  | writeSingleRegister _ _ => writeSingleRegisterFunction
  | writeMultipleRegisters _ _ => writeMultipleRegistersFunction

/-- The payload of the request. -/
def payload : ModbusCall → Except CodecError (List UInt8)
  | readBits _ address count => do return (← u16Bytes address) ++ (← u16Bytes count)
  | readRegisters _ address count => do return (← u16Bytes address) ++ (← u16Bytes count)
  | writeSingleCoil address value => do
    return (← u16Bytes address) ++ (← u16Bytes (if value then 0xFF00 else 0x0000))
  | writeSingleRegister address value => do return (← u16Bytes address) ++ (← u16Bytes (value % 0x10000))
  | writeMultipleRegisters address values => ModbusClient.multipleRegistersPayload address values

/-- What the call does with the response data. -/
def decode : ModbusCall → List UInt8 → Except ModbusError ModbusAnswer
  | readBits _ _ count, data => .bits <$> ModbusClient.decodeBits count data
  | readRegisters _ _ count, data => .registers <$> ModbusClient.decodeRegisters count data
  | writeSingleCoil _ _, data => (fun _ => .written) <$> ModbusClient.checkWritten "coil" data
  | writeSingleRegister _ _, data => (fun _ => .written) <$> ModbusClient.checkWritten "register" data
  | writeMultipleRegisters _ _, data => (fun _ => .written) <$> ModbusClient.checkWritten "multi-register" data

/-- A call on a client. -/
def run (client : ModbusClient) (replies : List Received) : ModbusCall → Except ModbusError ModbusAnswer
  | readBits table address count => .bits <$> client.readBits replies table address count
  | readRegisters table address count => .registers <$> client.readRegisters replies table address count
  | writeSingleCoil address value => (fun _ => .written) <$> client.writeSingleCoil replies address value
  | writeSingleRegister address value => (fun _ => .written) <$> client.writeSingleRegister replies address value
  | writeMultipleRegisters address values =>
    (fun _ => .written) <$> client.writeMultipleRegisters replies address values

end ModbusCall

/-! ## What is accepted -/

namespace ModbusCall

/-- The fields of the request hold the arguments. -/
def Fits : ModbusCall → Prop
  | readBits _ address count | readRegisters _ address count =>
    (0 ≤ address ∧ address < 0x10000) ∧ 0 ≤ count ∧ count < 0x10000
  | writeSingleCoil address _ | writeSingleRegister address _ => 0 ≤ address ∧ address < 0x10000
  | writeMultipleRegisters address values => (0 ≤ address ∧ address < 0x10000) ∧ values.length < 128

/-- The answer that a PDU is for a call: the function code of the request, and the announced bytes with the requested
bits or exactly the requested registers, or four bytes behind a write. -/
def Accepts : ModbusCall → List UInt8 → ModbusAnswer → Prop
  | readBits table _ count, pdu, .bits values => ∃ bytes, bytes.length < 256 ∧
      pdu = table.readFunction :: UInt8.ofNat bytes.length :: bytes ∧
      values.map some = (List.range count.toNat).map (ModbusClient.bitAt bytes)
  | readRegisters table _ count, pdu, .registers values => ∃ bytes, bytes.length < 256 ∧
      pdu = table.readFunction :: UInt8.ofNat bytes.length :: bytes ∧ (bytes.length : Int) = count * 2 ∧
      values = (List.range count.toNat).map (ModbusClient.registerAt bytes)
  | writeSingleCoil _ _, pdu, .written => ∃ data, data.length = 4 ∧ pdu = writeSingleCoilFunction :: data
  | writeSingleRegister _ _, pdu, .written => ∃ data, data.length = 4 ∧ pdu = writeSingleRegisterFunction :: data
  | writeMultipleRegisters _ _, pdu, .written =>
    ∃ data, data.length = 4 ∧ pdu = writeMultipleRegistersFunction :: data
  | _, _, _ => False

/-- The PDU announces fewer bytes than the requested bits need. -/
def LacksBits : ModbusCall → List UInt8 → Prop
  | readBits table _ count, pdu => ∃ bytes, pdu = table.readFunction :: UInt8.ofNat bytes.length :: bytes ∧
      (8 * bytes.length : Int) < count
  | _, _ => False

end ModbusCall

theorem u16Bytes_ok_iff {value : Int} : (∃ bytes, u16Bytes value = .ok bytes) ↔ 0 ≤ value ∧ value < 0x10000 := by
  unfold u16Bytes toBytes
  split
  · rename_i hneg
    exact ⟨fun ⟨_, h⟩ => (nomatch h), fun h => absurd hneg (not_lt.mpr h.1)⟩
  · rename_i hneg
    split
    · rename_i hlt
      exact ⟨fun _ => ⟨not_lt.mp hneg, by simpa using hlt⟩, fun _ => ⟨_, rfl⟩⟩
    · rename_i hlt
      exact ⟨fun ⟨_, h⟩ => (nomatch h), fun h => absurd (by simpa using h.2) hlt⟩

/-- Two fields can be written when each can. -/
theorem fields_ok_iff {x y : Except CodecError (List UInt8)} :
    (∃ bytes, (do return (← x) ++ (← y)) = Except.ok bytes) ↔ (∃ bytes, x = .ok bytes) ∧ ∃ bytes, y = .ok bytes := by
  cases x with
  | error error => exact ⟨fun ⟨_, h⟩ => (nomatch h), fun ⟨⟨_, h⟩, _⟩ => (nomatch h)⟩
  | ok front =>
    cases y with
    | error error => exact ⟨fun ⟨_, h⟩ => (nomatch h), fun ⟨_, ⟨_, h⟩⟩ => (nomatch h)⟩
    | ok back => exact ⟨fun _ => ⟨⟨_, rfl⟩, _, rfl⟩, fun _ => ⟨_, rfl⟩⟩

/-- The registers of a request always have two bytes each. -/
theorem mapM_u16Bytes (values : List Int) : ∃ payloadBytes,
    (values.mapM fun value => u16Bytes (value % 0x10000)) = .ok payloadBytes ∧
      payloadBytes.flatten.length = 2 * values.length := by
  induction values with
  | nil => exact ⟨[], rfl, rfl⟩
  | cons value values ih =>
    obtain ⟨payloadBytes, hrest, hlength⟩ := ih
    obtain ⟨bytes, hbytes⟩ := u16Bytes_ok_iff.mpr
      ⟨Int.emod_nonneg value (by omega), Int.emod_lt_of_pos value (show (0 : Int) < 0x10000 by omega)⟩
    have htwo : bytes.length = 2 := by
      unfold u16Bytes toBytes at hbytes
      split at hbytes
      · nomatch hbytes
      · split at hbytes
        · rw [← Except.ok.inj hbytes, length_beBytes]
        · nomatch hbytes
    refine ⟨bytes :: payloadBytes, ?_, ?_⟩
    · rw [List.mapM_cons, hbytes, ok_bind, hrest, ok_bind]
      rfl
    · rw [List.flatten_cons, List.length_append, htwo, hlength, List.length_cons]
      omega

/-- A request is written exactly when its fields hold the arguments. -/
theorem ModbusCall.payload_ok_iff {call : ModbusCall} : (∃ payload, call.payload = .ok payload) ↔ call.Fits := by
  have hvalue (value : Int) : ∃ bytes, u16Bytes (value % 0x10000) = .ok bytes :=
    u16Bytes_ok_iff.mpr
      ⟨Int.emod_nonneg value (by omega), Int.emod_lt_of_pos value (show (0 : Int) < 0x10000 by omega)⟩
  cases call with
  | readBits table address count => exact fields_ok_iff.trans (and_congr u16Bytes_ok_iff u16Bytes_ok_iff)
  | readRegisters table address count => exact fields_ok_iff.trans (and_congr u16Bytes_ok_iff u16Bytes_ok_iff)
  | writeSingleCoil address value =>
    refine fields_ok_iff.trans ((and_iff_left ?_).trans u16Bytes_ok_iff)
    cases value
    · exact u16Bytes_ok_iff.mpr (by omega)
    · exact u16Bytes_ok_iff.mpr (by omega)
  | writeSingleRegister address value =>
    exact fields_ok_iff.trans ((and_iff_left (hvalue value)).trans u16Bytes_ok_iff)
  | writeMultipleRegisters address values =>
    obtain ⟨payloadBytes, hbytes, hlength⟩ := mapM_u16Bytes values
    show (∃ payload, ModbusClient.multipleRegistersPayload address values = .ok payload) ↔
      (0 ≤ address ∧ address < 0x10000) ∧ values.length < 128
    unfold ModbusClient.multipleRegistersPayload
    rw [hbytes, ok_bind]
    constructor
    · intro ⟨payload, h⟩
      obtain ⟨front, hfront, h⟩ := bind_eq_ok.mp h
      obtain ⟨count, hcount, h⟩ := bind_eq_ok.mp h
      refine ⟨u16Bytes_ok_iff.mp ⟨front, hfront⟩, ?_⟩
      dsimp only at h
      split at h
      · omega
      · nomatch h
    · intro ⟨haddress, hvalues⟩
      obtain ⟨front, hfront⟩ := u16Bytes_ok_iff.mpr haddress
      obtain ⟨count, hcount⟩ := u16Bytes_ok_iff.mpr (show 0 ≤ (values.length : Int) ∧ (values.length : Int) < 0x10000 by
        omega)
      rw [hfront, ok_bind, hcount, ok_bind, if_pos (by omega)]
      exact ⟨_, rfl⟩

/-- Every call sends one request and decodes the response data. -/
theorem ModbusCall.run_eq (client : ModbusClient) (replies : List Received) (call : ModbusCall) :
    call.run client replies = (do
      let payload ← encoded call.payload
      call.decode (← client.responsePdu replies call.functionCode payload)) := by
  cases call with
  | readBits | readRegisters | writeSingleCoil | writeSingleRegister | writeMultipleRegisters =>
    exact map_bind _ _ _ |>.trans (congrArg _ (funext fun _ => map_bind _ _ _))

theorem ModbusCall.functionCode_supported (call : ModbusCall) : call.functionCode ∈ supportedFunctions := by
  have hbits : ∀ table : BitTable, table.readFunction ∈ supportedFunctions := by
    intro table
    cases table <;> decide
  have hregisters : ∀ table : RegisterTable, table.readFunction ∈ supportedFunctions := by
    intro table
    cases table <;> decide
  cases call with
  | readBits table => exact hbits table
  | readRegisters table => exact hregisters table
  | writeSingleCoil => exact show writeSingleCoilFunction ∈ supportedFunctions by decide
  | writeSingleRegister => exact show writeSingleRegisterFunction ∈ supportedFunctions by decide
  | writeMultipleRegisters => exact show writeMultipleRegistersFunction ∈ supportedFunctions by decide

variable {data : List UInt8}

theorem responsePdu_ok_iff {client : ModbusClient} {replies : List Received} {functionCode : UInt8}
    (hcode : functionCode ∈ supportedFunctions) {payload : List UInt8} :
    client.responsePdu replies functionCode payload = .ok data ↔
      client.transport.exchange ⟨client.unitId, functionCode, payload⟩ replies = .ok (functionCode :: data) := by
  have hflag : functionCode ≠ functionCode ||| 0x80 := by
    revert hcode functionCode
    decide
  unfold ModbusClient.responsePdu
  rw [bind_eq_ok]
  constructor
  · intro ⟨response, hexchange, h⟩
    match response with
    | [] => nomatch h
    | responseFunction :: responseData =>
      dsimp only at h
      split at h
      · nomatch h
      · split at h
        · nomatch h
        · rename_i hfunction
          rw [hexchange, Except.ok.inj h, not_not.mp hfunction]
  · intro hexchange
    refine ⟨functionCode :: data, hexchange, ?_⟩
    dsimp only
    rw [if_neg hflag, if_neg (not_not.mpr rfl)]

variable {error : ModbusError}

theorem responsePdu_error {client : ModbusClient} {replies : List Received} {functionCode : UInt8}
    (hcode : functionCode ∈ supportedFunctions) {payload : List UInt8}
    (h : client.responsePdu replies functionCode payload = .error error) : error.IsModbus := by
  rcases bind_eq_error.mp h with hexchange | ⟨response, -, h⟩
  · exact exchange_error hcode hexchange
  · match response with
    | [] =>
      rw [← Except.error.inj h]
      trivial
    | responseFunction :: responseData =>
      dsimp only at h
      split at h
      · rw [← Except.error.inj h]
        trivial
      · split at h
        · rw [← Except.error.inj h]
          trivial
        · nomatch h

theorem mapM_bitAt {rawBytes : List UInt8} {indices : List Nat} {values : List Bool} :
    (indices.mapM fun index => match ModbusClient.bitAt rawBytes index with
      | some bit => Except.ok bit
      | none => Except.error (ModbusError.indexError "index out of range")) = .ok values ↔
      values.map some = indices.map (ModbusClient.bitAt rawBytes) := by
  rw [mapM_eq_ok_iff, eq_comm (a := values.map some), ← List.forall₂_eq_eq_eq, List.forall₂_map_left_iff,
    List.forall₂_map_right_iff]
  refine ⟨.imp fun index value h => ?_, .imp fun index value h => ?_⟩
  · split at h
    · rename_i bit hbit
      rw [hbit, Except.ok.inj h]
    · cases h
  · rw [h]

theorem mapM_bitAt_error {rawBytes : List UInt8} {indices : List Nat}
    (h : (indices.mapM fun index => match ModbusClient.bitAt rawBytes index with
      | some bit => Except.ok bit
      | none => Except.error (ModbusError.indexError "index out of range")) = .error error) :
    ∃ index ∈ indices, 8 * rawBytes.length ≤ index := by
  obtain ⟨index, hindex, herror⟩ := mapM_error h
  refine ⟨index, hindex, ?_⟩
  split at herror
  · cases herror
  · rename_i hbit
    rw [ModbusClient.bitAt, Option.map_eq_none_iff, List.getElem?_eq_none_iff] at hbit
    omega

theorem byteCount_eq {byteCount : UInt8} {bytes : List UInt8} (h : bytes.length = byteCount.toNat) :
    bytes.length < 256 ∧ byteCount = UInt8.ofNat bytes.length := by
  rw [h, UInt8.ofNat_toNat]
  exact ⟨byteCount.toNat_lt, rfl⟩

theorem toNat_byteCount {bytes : List UInt8} (h : bytes.length < 256) :
    (UInt8.ofNat bytes.length).toNat = bytes.length := by
  rw [UInt8.toNat_ofNat']
  omega

theorem decodeBits_ok_iff {count : Int} {values : List Bool} :
    ModbusClient.decodeBits count data = .ok values ↔ ∃ bytes, bytes.length < 256 ∧
      data = UInt8.ofNat bytes.length :: bytes ∧
      values.map some = (List.range count.toNat).map (ModbusClient.bitAt bytes) := by
  unfold ModbusClient.decodeBits
  match data with
  | [] => exact ⟨nofun, fun ⟨_, _, h, _⟩ => (nomatch h)⟩
  | byteCount :: rawBytes =>
    dsimp only
    constructor
    · intro h
      split at h
      · nomatch h
      · rename_i hlength
        obtain ⟨hlt, hcount⟩ := byteCount_eq (not_not.mp hlength)
        exact ⟨rawBytes, hlt, by rw [hcount], mapM_bitAt.mp h⟩
    · intro ⟨bytes, hlt, hdata, hvalues⟩
      obtain ⟨rfl, rfl⟩ := List.cons.inj hdata
      rw [if_neg (not_not.mpr (toNat_byteCount hlt).symm)]
      exact mapM_bitAt.mpr hvalues

theorem decodeRegisters_ok_iff {count : Int} {values : List Int} :
    ModbusClient.decodeRegisters count data = .ok values ↔ ∃ bytes, bytes.length < 256 ∧
      data = UInt8.ofNat bytes.length :: bytes ∧ (bytes.length : Int) = count * 2 ∧
      values = (List.range count.toNat).map (ModbusClient.registerAt bytes) := by
  unfold ModbusClient.decodeRegisters
  match data with
  | [] => exact ⟨nofun, fun ⟨_, _, h, _⟩ => (nomatch h)⟩
  | byteCount :: registerBytes =>
    dsimp only
    constructor
    · intro h
      split at h
      · nomatch h
      · rename_i hchecks
        obtain ⟨hlength, hcount⟩ := not_or.mp hchecks
        obtain ⟨hlt, heq⟩ := byteCount_eq (not_not.mp hlength)
        have htwice : (registerBytes.length : Int) = count * 2 := by
          rw [not_not.mp hlength]
          exact not_not.mp hcount
        refine ⟨registerBytes, hlt, by rw [heq], htwice, ?_⟩
        rw [← Except.ok.inj h, ← not_not.mp hlength]
        congr 2
        omega
    · intro ⟨bytes, hlt, hdata, htwice, hvalues⟩
      obtain ⟨rfl, rfl⟩ := List.cons.inj hdata
      rw [toNat_byteCount hlt, if_neg (by omega), hvalues]
      congr 3
      omega

theorem checkWritten_ok_iff {what : String} :
    ModbusClient.checkWritten what data = .ok () ↔ data.length = 4 := by
  unfold ModbusClient.checkWritten
  split
  · rename_i hlength
    exact ⟨nofun, fun h => absurd h hlength⟩
  · rename_i hlength
    exact ⟨fun _ => not_not.mp hlength, fun _ => rfl⟩

theorem map_eq_ok {α β : Type} {f : α → β} {x : Except ModbusError α} {b : β} :
    f <$> x = .ok b ↔ ∃ a, x = .ok a ∧ f a = b := by
  cases x with
  | error error => exact ⟨nofun, fun ⟨_, h, _⟩ => (nomatch h)⟩
  | ok a =>
    constructor
    · intro h
      exact ⟨a, rfl, Except.ok.inj h⟩
    · intro ⟨other, hother, h⟩
      rw [← h, ← Except.ok.inj hother]
      rfl

theorem map_eq_error {α β : Type} {f : α → β} {x : Except ModbusError α} :
    f <$> x = .error error ↔ x = .error error := by
  cases x with
  | error other => exact ⟨fun h => congrArg _ (Except.error.inj h), fun h => congrArg _ (Except.error.inj h)⟩
  | ok a => exact ⟨nofun, nofun⟩

/-- The response data are decoded exactly when the PDU is accepted. -/
theorem ModbusCall.decode_ok_iff {call : ModbusCall} {answer : ModbusAnswer} :
    call.decode data = .ok answer ↔ call.Accepts (call.functionCode :: data) answer := by
  cases call with
  | readBits table address count =>
    show ModbusAnswer.bits <$> _ = _ ↔ _
    rw [map_eq_ok]
    cases answer with
    | bits values =>
      show _ ↔ ∃ bytes : List UInt8, bytes.length < 256 ∧ table.readFunction :: data = _ ∧ _
      simp only [ModbusAnswer.bits.injEq, exists_eq_right, decodeBits_ok_iff, List.cons.injEq, true_and]
    | registers values => exact ⟨fun ⟨_, _, h⟩ => (nomatch h), False.elim⟩
    | written => exact ⟨fun ⟨_, _, h⟩ => (nomatch h), False.elim⟩
  | readRegisters table address count =>
    show ModbusAnswer.registers <$> _ = _ ↔ _
    rw [map_eq_ok]
    cases answer with
    | registers values =>
      show _ ↔ ∃ bytes : List UInt8, bytes.length < 256 ∧ table.readFunction :: data = _ ∧ _ ∧ _
      simp only [ModbusAnswer.registers.injEq, exists_eq_right, decodeRegisters_ok_iff, List.cons.injEq, true_and]
    | bits values => exact ⟨fun ⟨_, _, h⟩ => (nomatch h), False.elim⟩
    | written => exact ⟨fun ⟨_, _, h⟩ => (nomatch h), False.elim⟩
  | writeSingleCoil | writeSingleRegister | writeMultipleRegisters =>
    refine map_eq_ok.trans ?_
    cases answer with
    | written =>
      constructor
      · intro ⟨(), hwritten, _⟩
        exact ⟨data, checkWritten_ok_iff.mp hwritten, rfl⟩
      · intro ⟨other, hlength, hdata⟩
        rw [← (List.cons.inj hdata).2] at hlength
        exact ⟨(), checkWritten_ok_iff.mpr hlength, rfl⟩
    | bits values => exact ⟨fun ⟨_, _, h⟩ => (nomatch h), False.elim⟩
    | registers values => exact ⟨fun ⟨_, _, h⟩ => (nomatch h), False.elim⟩

/-- Response data that are not decoded lack bits or are a protocol error. -/
theorem ModbusCall.decode_error {call : ModbusCall} (h : call.decode data = .error error) :
    error.IsModbus ∨ call.LacksBits (call.functionCode :: data) := by
  cases call with
  | readBits table address count =>
    have hbits := map_eq_error.mp h
    unfold ModbusClient.decodeBits at hbits
    match data with
    | [] =>
      rw [← Except.error.inj hbits]
      exact .inl trivial
    | byteCount :: rawBytes =>
      dsimp only at hbits
      split at hbits
      · rw [← Except.error.inj hbits]
        exact .inl trivial
      · rename_i hlength
        obtain ⟨-, hcount⟩ := byteCount_eq (not_not.mp hlength)
        obtain ⟨index, hindex, hle⟩ := mapM_bitAt_error hbits
        have hlt := List.mem_range.mp hindex
        exact .inr ⟨rawBytes, by rw [hcount]; rfl, by omega⟩
  | readRegisters table address count =>
    left
    have hregisters := map_eq_error.mp h
    unfold ModbusClient.decodeRegisters at hregisters
    match data with
    | [] =>
      rw [← Except.error.inj hregisters]
      trivial
    | byteCount :: registerBytes =>
      dsimp only at hregisters
      split at hregisters
      · rw [← Except.error.inj hregisters]
        trivial
      · nomatch hregisters
  | writeSingleCoil | writeSingleRegister | writeMultipleRegisters =>
    left
    have hwritten := map_eq_error.mp h
    unfold ModbusClient.checkWritten at hwritten
    split at hwritten
    · rw [← Except.error.inj hwritten]
      trivial
    · nomatch hwritten

/-- A client of unit 7 over TCP, whose next request is transaction 1. -/
def tcpClient : ModbusClient := ⟨.tcp 0, 7⟩

end VenusEvcharger.Backend
