import VenusEvcharger.Backend.ModbusCodec

/-!
# Modbus transports

A transport sends the frame of one request and returns the response PDU of what it receives: over a serial line a
frame with a checksum, whose length follows from its first three bytes, and over TCP and UDP the bytes behind a
header that announces their number. What is received in an exchange is a parameter: the bytes of every attempt, and
whether the peer closed after them.

`exchange_frame` says in which frame a returned PDU stands. Neither the unit of the frame nor the transaction of the
header is compared with the request.
-/

namespace VenusEvcharger.Backend

open Library

/-- The exceptions of an exchange and of the client with their texts. -/
inductive ModbusError where
  | timeoutError (message : String)
  | modbusTimeoutError (message : String)
  | modbusSlaveOfflineError (message : String)
  | modbusResponseError (message : String)
  | modbusProtocolError (message : String)
  | modbusDeviceError (message : String)
  | valueError (message : String)
  | indexError (message : String)
  | codecError (error : CodecError)
  deriving DecidableEq

/-- The transport, protocol and device errors of Modbus and the timeouts. -/
def ModbusError.IsModbus : ModbusError → Prop
  | valueError _ | indexError _ | codecError _ => False
  | _ => True

/-- One Modbus request PDU plus unit information. -/
structure ModbusRequest where
  unitId : UInt8
  functionCode : UInt8
  payload : List UInt8

/-- The bytes that arrive in one attempt, and whether the peer closes after them. -/
structure Received where
  bytes : List UInt8
  closed : Bool

/-- What a serial transport keeps of its settings, and the last transaction of the other two. -/
inductive ModbusTransport where
  | serialRtu (device : String) (serialRetryCount : Int)
  | tcp (transactionId : Nat)
  | udp (transactionId : Nat)
  deriving DecidableEq

/-- Two hexadecimal digits, as `:02x` writes a byte. -/
def hexByte (byte : UInt8) : String := String.ofList [Nat.digitChar (byte.toNat / 16), Nat.digitChar (byte.toNat % 16)]

/-! ## Serial RTU -/

/-- One bit of the checksum loop. -/
def crcBit (crc : Nat) : Nat := if crc % 2 = 1 then (crc / 2) ^^^ 0xA001 else crc / 2

/-- `_modbus_crc`. -/
def modbusCrc (frame : List UInt8) : Nat :=
  (frame.foldl (fun crc byte => crcBit^[8] (crc ^^^ byte.toNat)) 0xFFFF) % 0x10000

/-- `_crc_frame`. -/
def crcFrame (frame : List UInt8) : List UInt8 :=
  frame ++ [UInt8.ofNat (modbusCrc frame % 256), UInt8.ofNat (modbusCrc frame / 256 % 256)]

/-- `_expected_rtu_response_length` of a complete header. -/
def expectedRtuResponseLength (functionCode : UInt8) (header : List UInt8) : Except ModbusError Nat :=
  match header with
  | _ :: responseFunction :: byteCount :: _ =>
    if 0x80 ≤ responseFunction then .ok 5
    else if functionCode ∈ [0x01, 0x02, 0x03, 0x04] then .ok (3 + byteCount.toNat + 2)
    else if functionCode ∈ [0x05, 0x06, 0x0F, 0x10] then .ok 8
    else .error (.valueError ("Unsupported Modbus RTU function code 0x" ++ hexByte functionCode))
  | _ => .error (.valueError "Incomplete Modbus RTU header")

/-- `_read_exact`. -/
def readExact (size : Nat) (received : Received) : Except ModbusError (List UInt8 × Received) :=
  if received.bytes.length < size then
    .error (.modbusTimeoutError (if received.closed then
      "Modbus RTU transport closed before full response was received"
      else "Timed out waiting for Modbus RTU response"))
  else .ok (received.bytes.take size, { received with bytes := received.bytes.drop size })

/-- `_exchange_once`. -/
def exchangeOnce (request : ModbusRequest) (received : Received) : Except ModbusError (List UInt8) := do
  let (header, rest) ← readExact 3 received
  let totalLength ← expectedRtuResponseLength request.functionCode header
  let (tail, _) ← readExact (totalLength - 3) rest
  let response := header ++ tail
  if response.length < 5 then .error (.modbusTimeoutError "Incomplete Modbus RTU response")
  else
    match response.reverse with
    | high :: low :: reversedPayload =>
      let payload := reversedPayload.reverse
      if low.toNat ||| high.toNat <<< 8 = modbusCrc payload then .ok (payload.drop 1)
      else .error (.modbusResponseError "Invalid Modbus RTU CRC")
    | _ => .error (.indexError "index out of range")

/-- `_final_serial_exchange_error`. -/
def finalSerialExchangeError (device : String) (request : ModbusRequest) (lastError : ModbusError) : ModbusError :=
  match lastError with
  | .modbusTimeoutError _ => .modbusSlaveOfflineError
      ("Modbus slave " ++ toString request.unitId ++ " on " ++ device ++ " did not respond")
  | lastError => lastError

/-- The attempts of a serial exchange, with the number of those that may follow the first one. -/
def exchangeAttempts (device : String) (request : ModbusRequest) : Nat → List Received →
    Except ModbusError (List UInt8)
  | 0, replies =>
    match exchangeOnce request (replies.headD ⟨[], false⟩) with
    | .ok pdu => .ok pdu
    | .error lastError => .error (finalSerialExchangeError device request lastError)
  | retries + 1, replies =>
    match exchangeOnce request (replies.headD ⟨[], false⟩) with
    | .ok pdu => .ok pdu
    | .error lastError =>
      match lastError with
      | .modbusTimeoutError _ | .modbusResponseError _ => exchangeAttempts device request retries replies.tail
      | lastError => .error lastError

/-! ## TCP and UDP -/

/-- `_recv_exact`. -/
def recvExact (size : Nat) (received : Received) : Except ModbusError (List UInt8 × Received) :=
  if received.bytes.length < size then
    .error (.timeoutError (if received.closed then
      "Modbus transport closed before full response was received" else "timed out"))
  else .ok (received.bytes.take size, { received with bytes := received.bytes.drop size })

/-- The length that a header announces. -/
def mbapLength (header : List UInt8) : Nat := ofBe ((header.drop 4).take 2)

/-- What a TCP exchange returns of the stream. -/
def exchangeTcp (received : Received) : Except ModbusError (List UInt8) := do
  let (header, rest) ← recvExact 7 received
  let (body, _) ← recvExact (mbapLength header - 1) rest
  .ok body

/-- What a UDP exchange returns of the first datagram. -/
def exchangeUdp (replies : List Received) : Except ModbusError (List UInt8) :=
  match replies with
  | [] => .error (.timeoutError "timed out")
  | datagram :: _ =>
    let response := datagram.bytes.take 260
    if response.length < 7 then .error (.timeoutError "Incomplete Modbus UDP response")
    else .ok ((response.drop 7).take (mbapLength response - 1))

namespace ModbusTransport

/-- The frame of a request: with a checksum, or behind a header with the next transaction. -/
def sentFrame (transport : ModbusTransport) (request : ModbusRequest) : List UInt8 :=
  match transport with
  | serialRtu _ _ => crcFrame (request.unitId :: request.functionCode :: request.payload)
  | tcp transactionId | udp transactionId =>
    beBytes 2 ((transactionId + 1) % 0x10000) ++ [0, 0] ++ beBytes 2 (request.payload.length + 2) ++
      request.unitId :: request.functionCode :: request.payload

/-- `exchange` of the three transports. -/
def exchange (transport : ModbusTransport) (request : ModbusRequest) (replies : List Received) :
    Except ModbusError (List UInt8) :=
  match transport with
  | serialRtu device serialRetryCount =>
    exchangeAttempts device request (max 1 (serialRetryCount + 1) - 1).toNat replies
  | tcp _ => exchangeTcp (replies.headD ⟨[], false⟩)
  | udp _ => exchangeUdp replies

/-- A reply holds the PDU in a frame of the transport: with a unit in front and the checksum behind, or behind a
header that announces its length. -/
def Holds (transport : ModbusTransport) (reply : List UInt8) (pdu : List UInt8) : Prop :=
  match transport with
  | serialRtu _ _ => ∃ unitId, crcFrame (unitId :: pdu) <+: reply
  | tcp _ => ∃ header, header.length = 7 ∧ pdu.length = mbapLength header - 1 ∧ header ++ pdu <+: reply
  | udp _ => ∃ header, header.length = 7 ∧ pdu.length ≤ mbapLength header - 1 ∧ header ++ pdu <+: reply

end ModbusTransport

/-! ## Where a returned PDU stands -/

variable {received : Received}

theorem readExact_ok {size : Nat} {rest : Received} {bytes : List UInt8}
    (h : readExact size received = .ok (bytes, rest)) :
    bytes.length = size ∧ received.bytes = bytes ++ rest.bytes := by
  unfold readExact at h
  split at h
  · nomatch h
  · obtain ⟨rfl, rfl⟩ := Prod.mk.inj (Except.ok.inj h)
    rename_i hsize
    refine ⟨?_, (List.take_append_drop _ _).symm⟩
    rw [List.length_take]
    omega

theorem recvExact_ok {size : Nat} {rest : Received} {bytes : List UInt8}
    (h : recvExact size received = .ok (bytes, rest)) :
    bytes.length = size ∧ received.bytes = bytes ++ rest.bytes := by
  unfold recvExact at h
  split at h
  · nomatch h
  · obtain ⟨rfl, rfl⟩ := Prod.mk.inj (Except.ok.inj h)
    rename_i hsize
    refine ⟨?_, (List.take_append_drop _ _).symm⟩
    rw [List.length_take]
    omega

/-- The two checksum bytes of a frame with a matching checksum. -/
theorem crcFrame_of_crc {low high : UInt8} {payload : List UInt8}
    (h : low.toNat ||| high.toNat <<< 8 = modbusCrc payload) : crcFrame payload = payload ++ [low, high] := by
  have hlow := low.toNat_lt
  have hhigh := high.toNat_lt
  have hsum : modbusCrc payload = high.toNat * 256 + low.toNat := by
    rw [← h, Nat.or_comm, ← Nat.shiftLeft_add_eq_or_of_lt (by omega), Nat.shiftLeft_eq]
  have hmod : modbusCrc payload % 256 = low.toNat := by omega
  have hdiv : modbusCrc payload / 256 % 256 = high.toNat := by omega
  rw [crcFrame, hmod, hdiv, UInt8.ofNat_toNat, UInt8.ofNat_toNat]

variable {request : ModbusRequest} {pdu : List UInt8}

/-- A PDU that one attempt returns stands in a frame with a checksum. -/
theorem exchangeOnce_ok (h : exchangeOnce request received = .ok pdu) :
    ∃ unitId, crcFrame (unitId :: pdu) <+: received.bytes := by
  unfold exchangeOnce at h
  obtain ⟨⟨header, rest⟩, hheader, h⟩ := bind_eq_ok.mp h
  obtain ⟨totalLength, -, h⟩ := bind_eq_ok.mp h
  obtain ⟨⟨tail, last⟩, htail, h⟩ := bind_eq_ok.mp h
  obtain ⟨hlength, hbytes⟩ := readExact_ok hheader
  obtain ⟨-, hrest⟩ := readExact_ok htail
  dsimp only at h
  split at h
  · nomatch h
  · rename_i hlong
    split at h
    · rename_i high low reversedPayload hreverse
      split at h
      · rename_i hcrc
        have hresponse : header ++ tail = reversedPayload.reverse ++ [low, high] := by
          rw [← List.reverse_reverse (header ++ tail), hreverse]
          simp
        cases hpayload : reversedPayload.reverse with
        | nil =>
          rw [hresponse, hpayload] at hlong
          exact absurd (show 2 < 5 by omega) hlong
        | cons unitId body =>
          rw [hpayload] at h hcrc hresponse
          obtain rfl : body = pdu := Except.ok.inj h
          refine ⟨unitId, ?_⟩
          rw [crcFrame_of_crc hcrc, ← hresponse, hbytes, hrest, ← List.append_assoc]
          exact List.prefix_append _ _
      · nomatch h
    · nomatch h

variable {replies : List Received}

theorem exchangeAttempts_ok {device : String} {retries : Nat}
    (h : exchangeAttempts device request retries replies = .ok pdu) :
    ∃ reply ∈ replies, ∃ unitId, crcFrame (unitId :: pdu) <+: reply.bytes := by
  -- an attempt without a reply receives nothing
  have hattempt {replies : List Received} {pdu : List UInt8}
      (h : exchangeOnce request (replies.headD ⟨[], false⟩) = .ok pdu) :
      ∃ reply ∈ replies, ∃ unitId, crcFrame (unitId :: pdu) <+: reply.bytes := by
    cases replies with
    | nil =>
      obtain ⟨unitId, hprefix⟩ := exchangeOnce_ok h
      exact absurd (List.prefix_nil.mp hprefix) (List.append_ne_nil_of_left_ne_nil (List.cons_ne_nil _ _) _)
    | cons reply replies => exact ⟨reply, List.mem_cons_self .., exchangeOnce_ok h⟩
  induction retries generalizing replies with
  | zero =>
    unfold exchangeAttempts at h
    split at h
    · rename_i hok
      rw [← Except.ok.inj h]
      exact hattempt hok
    · nomatch h
  | succ retries ih =>
    unfold exchangeAttempts at h
    split at h
    · rename_i hok
      rw [← Except.ok.inj h]
      exact hattempt hok
    · split at h
      · obtain ⟨reply, hreply, hframe⟩ := ih h
        exact ⟨reply, List.mem_of_mem_tail hreply, hframe⟩
      · obtain ⟨reply, hreply, hframe⟩ := ih h
        exact ⟨reply, List.mem_of_mem_tail hreply, hframe⟩
      · nomatch h

theorem exchangeTcp_ok (h : exchangeTcp received = .ok pdu) :
    ∃ header, header.length = 7 ∧ pdu.length = mbapLength header - 1 ∧ header ++ pdu <+: received.bytes := by
  unfold exchangeTcp at h
  obtain ⟨⟨header, rest⟩, hheader, h⟩ := bind_eq_ok.mp h
  obtain ⟨⟨body, last⟩, hbody, h⟩ := bind_eq_ok.mp h
  obtain ⟨hlength, hbytes⟩ := recvExact_ok hheader
  obtain ⟨hbodyLength, hrest⟩ := recvExact_ok hbody
  obtain rfl : body = pdu := Except.ok.inj h
  refine ⟨header, hlength, hbodyLength, ?_⟩
  rw [hbytes, hrest, ← List.append_assoc]
  exact List.prefix_append _ _

theorem exchangeUdp_ok {datagram : Received} (later : List Received)
    (h : exchangeUdp (datagram :: later) = .ok pdu) :
    ∃ header, header.length = 7 ∧ pdu.length ≤ mbapLength header - 1 ∧ header ++ pdu <+: datagram.bytes := by
  unfold exchangeUdp at h
  dsimp only at h
  have hdatagram : datagram.bytes.take 260 <+: datagram.bytes := List.take_prefix _ _
  generalize datagram.bytes.take 260 = response at h hdatagram
  split at h
  · nomatch h
  · rename_i hlong
    obtain rfl := Except.ok.inj h
    have hheader : mbapLength (response.take 7) = mbapLength response := by
      rw [mbapLength, mbapLength, List.drop_take, List.take_take]
      rfl
    refine ⟨response.take 7, ?_, ?_, ?_⟩
    · rw [List.length_take]
      omega
    · rw [hheader]
      exact List.length_take_le _ _
    · have hbody : response.take 7 ++ (response.drop 7).take (mbapLength response - 1) <+:
          response.take 7 ++ response.drop 7 := (List.prefix_append_right_inj _).mpr (List.take_prefix _ _)
      rw [List.take_append_drop] at hbody
      exact hbody.trans hdatagram

theorem exchange_frame {transport : ModbusTransport}
    (h : transport.exchange request replies = .ok pdu) :
    ∃ reply ∈ replies, transport.Holds reply.bytes pdu := by
  cases transport with
  | serialRtu device serialRetryCount => exact exchangeAttempts_ok h
  | tcp transactionId =>
    cases replies with
    | nil => nomatch h
    | cons reply replies => exact ⟨reply, List.mem_cons_self .., exchangeTcp_ok h⟩
  | udp transactionId =>
    cases replies with
    | nil => nomatch h
    | cons reply replies => exact ⟨reply, List.mem_cons_self .., exchangeUdp_ok replies h⟩

/-! ## What an exchange raises -/

variable {error : ModbusError}

theorem readExact_error {size : Nat} (h : readExact size received = .error error) :
    ∃ message, error = .modbusTimeoutError message := by
  unfold readExact at h
  split at h
  · exact ⟨_, (Except.error.inj h).symm⟩
  · nomatch h

theorem recvExact_error {size : Nat} (h : recvExact size received = .error error) :
    error.IsModbus := by
  unfold recvExact at h
  split at h
  · rw [← Except.error.inj h]
    trivial
  · nomatch h

/-- The function codes of the client. -/
def supportedFunctions : List UInt8 := [0x01, 0x02, 0x03, 0x04, 0x05, 0x06, 0x0F, 0x10]

/-- A complete header announces at least five bytes. -/
theorem expectedRtuResponseLength_ok {functionCode : UInt8} (hcode : functionCode ∈ supportedFunctions)
    {header : List UInt8} (hlength : header.length = 3) :
    ∃ totalLength, expectedRtuResponseLength functionCode header = .ok totalLength ∧ 5 ≤ totalLength := by
  match header with
  | [_, responseFunction, byteCount] =>
    unfold expectedRtuResponseLength
    dsimp only
    by_cases hflag : 0x80 ≤ responseFunction
    · exact ⟨5, if_pos hflag, le_rfl⟩
    · rw [if_neg hflag]
      by_cases hread : functionCode ∈ ([0x01, 0x02, 0x03, 0x04] : List UInt8)
      · exact ⟨_, if_pos hread, by omega⟩
      · rw [if_neg hread]
        have hwrite : functionCode ∈ ([0x05, 0x06, 0x0F, 0x10] : List UInt8) := by
          simp only [supportedFunctions, List.mem_cons, List.not_mem_nil, or_false] at hcode hread ⊢
          tauto
        exact ⟨8, if_pos hwrite, by omega⟩

section

variable (hcode : request.functionCode ∈ supportedFunctions)
include hcode

theorem exchangeOnce_error (h : exchangeOnce request received = .error error) :
    (∃ message, error = .modbusTimeoutError message) ∨ ∃ message, error = .modbusResponseError message := by
  unfold exchangeOnce at h
  rcases bind_eq_error.mp h with hheader | ⟨⟨header, rest⟩, hheader, h⟩
  · exact .inl (readExact_error hheader)
  · obtain ⟨totalLength, htotal, hfive⟩ := expectedRtuResponseLength_ok hcode (readExact_ok hheader).1
    dsimp only at h
    rw [htotal, ok_bind] at h
    rcases bind_eq_error.mp h with htail | ⟨⟨tail, last⟩, htail, h⟩
    · exact .inl (readExact_error htail)
    · have hlength : 5 ≤ (header ++ tail).length := by
        rw [List.length_append, (readExact_ok hheader).1, (readExact_ok htail).1]
        omega
      dsimp only at h
      rw [if_neg (not_lt.mpr hlength)] at h
      split at h
      · split at h
        · nomatch h
        · exact .inr ⟨_, (Except.error.inj h).symm⟩
      · rename_i hshort
        rw [← List.length_reverse] at hlength
        match hreverse : (header ++ tail).reverse with
        | [] | [_] =>
          rw [hreverse] at hlength
          simp at hlength
        | high :: low :: rest => exact absurd hreverse (hshort high low rest)

theorem exchangeAttempts_error {device : String} {retries : Nat}
    (h : exchangeAttempts device request retries replies = .error error) : error.IsModbus := by
  induction retries generalizing replies with
  | zero =>
    unfold exchangeAttempts at h
    split at h
    · nomatch h
    · rename_i lastError hlast
      rw [← Except.error.inj h]
      rcases exchangeOnce_error hcode hlast with ⟨message, rfl⟩ | ⟨message, rfl⟩ <;> trivial
  | succ retries ih =>
    unfold exchangeAttempts at h
    split at h
    · nomatch h
    · rename_i lastError hlast
      rcases exchangeOnce_error hcode hlast with ⟨message, rfl⟩ | ⟨message, rfl⟩
      · exact ih h
      · exact ih h

theorem exchange_error {transport : ModbusTransport}
    (h : transport.exchange request replies = .error error) : error.IsModbus := by
  cases transport with
  | serialRtu device serialRetryCount => exact exchangeAttempts_error hcode h
  | tcp transactionId =>
    rcases bind_eq_error.mp h with hheader | ⟨⟨header, rest⟩, -, h⟩
    · exact recvExact_error hheader
    · rcases bind_eq_error.mp h with hbody | ⟨⟨body, last⟩, -, h⟩
      · exact recvExact_error hbody
      · nomatch h
  | udp transactionId =>
    unfold ModbusTransport.exchange exchangeUdp at h
    dsimp only at h
    split at h
    · rw [← Except.error.inj h]
      trivial
    · split at h
      · rw [← Except.error.inj h]
        trivial
      · nomatch h

end

end VenusEvcharger.Backend
