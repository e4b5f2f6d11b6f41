import VenusEvcharger.Backend.ModbusTransport
import VenusEvcharger.Library.CyclicCode

/-!
# The checksum of a serial frame

The checksum loop is a register of sixteen bits that takes in the bytes of a frame, so that it holds the remainder of
the frame modulo the generator of `0xA001` (`mk_modbusCrc`). A response passes the check of an exchange exactly when
the whole response with its trailer is the remainder of the initial value (`crcMatches_iff`), and a response that
differs from it by a burst of at most sixteen bits does not.
-/

namespace VenusEvcharger.Backend

open Library Polynomial

/-- `received_crc` of a response. -/
def receivedCrc (response : List UInt8) : Nat :=
  (response.getD (response.length - 2) 0).toNat ||| (response.getD (response.length - 1) 0).toNat <<< 8

/-- The check of `_exchange_once`: the last two bytes are the checksum of the bytes before. -/
def CrcMatches (response : List UInt8) : Prop :=
  receivedCrc response = modbusCrc (response.take (response.length - 2))

instance (response : List UInt8) : Decidable (CrcMatches response) := inferInstanceAs (Decidable (_ = _))

/-- The bits of a frame as they are transmitted, of each byte the lowest one first. -/
def transmittedBits (frame : List UInt8) : List Bool := frame.flatMap fun byte => lowBits 8 byte.toNat

/-- The bytes of a frame with some of the bits reversed. -/
def corrupted (frame error : List UInt8) : List UInt8 := List.zipWith (· ^^^ ·) frame error

/-- The polynomial of `0xA001`. -/
noncomputable def crcPolynomial : (ZMod 2)[X] := generator 16 0xA001

/-- The polynomial of a frame. -/
noncomputable def framePolynomial (frame : List UInt8) : (ZMod 2)[X] := bitPolynomial (transmittedBits frame)

theorem crcPolynomial_eq : crcPolynomial = X ^ 16 + X ^ 15 + X ^ 2 + 1 := by
  have hbits : lowBits 16 0xA001 = [true, false, false, false, false, false, false, false, false, false, false, false,
      false, true, false, true] := by decide
  rw [crcPolynomial, generator, hbits]
  simp [bitPolynomial]
  ring

/-! ## Bytes on the line -/

theorem transmittedBits_eq (frame : List UInt8) :
    transmittedBits frame = (frame.map UInt8.toNat).flatMap (lowBits 8) := by
  rw [transmittedBits, List.flatMap_map]

theorem transmittedBits_append (xs ys : List UInt8) :
    transmittedBits (xs ++ ys) = transmittedBits xs ++ transmittedBits ys := List.flatMap_append

@[simp] theorem length_transmittedBits (frame : List UInt8) : (transmittedBits frame).length = 8 * frame.length := by
  simp [transmittedBits, List.length_flatMap, mul_comm]

theorem transmittedBits_corrupted {frame error : List UInt8} (h : error.length = frame.length) :
    transmittedBits (corrupted frame error) = List.zipWith xor (transmittedBits frame) (transmittedBits error) := by
  induction frame generalizing error with
  | nil =>
    obtain rfl := List.length_eq_zero_iff.mp h
    rfl
  | cons byte frame ih =>
    cases error with
    | nil => nomatch h
    | cons flips error =>
      have htail := ih (Nat.succ.inj h)
      rw [transmittedBits, transmittedBits, transmittedBits, List.flatMap_cons, List.flatMap_cons,
        List.zipWith_append (by simp), corrupted, List.zipWith_cons_cons, List.flatMap_cons, UInt8.toNat_xor,
        lowBits_xor]
      exact congrArg (_ ++ ·) htail

theorem framePolynomial_corrupted {frame error : List UInt8} (h : error.length = frame.length) :
    framePolynomial (corrupted frame error) = framePolynomial frame + framePolynomial error := by
  rw [framePolynomial, transmittedBits_corrupted h, bitPolynomial_zipWith_xor (by simp [h]), framePolynomial,
    framePolynomial]

/-! ## The checksum as a remainder -/

/-- The class of a polynomial modulo that of `0xA001`. -/
noncomputable abbrev crcClass : (ZMod 2)[X] →+* AdjoinRoot crcPolynomial := AdjoinRoot.mk crcPolynomial

theorem modbusCrc_eq (frame : List UInt8) :
    modbusCrc frame = (frame.map UInt8.toNat).foldl (absorb 0xA001 8) 0xFFFF ∧ modbusCrc frame < 2 ^ 16 := by
  have hwords : ∀ word ∈ frame.map UInt8.toNat, word < 2 ^ 8 := by
    intro word hword
    obtain ⟨byte, -, rfl⟩ := List.mem_map.mp hword
    exact byte.toNat_lt
  have hlt := foldl_absorb_lt (show 8 ≤ 16 by decide) (show 0xA001 < 2 ^ 16 by decide)
    (show 0xFFFF < 2 ^ 16 by decide) hwords
  have hfold : modbusCrc frame = (frame.map UInt8.toNat).foldl (absorb 0xA001 8) 0xFFFF % 0x10000 := by
    rw [modbusCrc, List.foldl_map]
    rfl
  have hmod := hfold.trans (Nat.mod_eq_of_lt hlt)
  exact ⟨hmod, hmod ▸ hlt⟩

/-- The initial value of the checksum. -/
noncomputable def initialPolynomial : (ZMod 2)[X] := bitPolynomial (lowBits 16 0xFFFF)

/-- The checksum is the remainder of the frame behind the initial value. -/
theorem mk_modbusCrc (frame : List UInt8) : crcClass (bitPolynomial (lowBits 16 (modbusCrc frame))) =
    AdjoinRoot.root crcPolynomial ^ (8 * frame.length) * crcClass initialPolynomial +
      AdjoinRoot.root crcPolynomial ^ 16 * crcClass (framePolynomial frame) := by
  have hwords : ∀ word ∈ frame.map UInt8.toNat, word < 2 ^ 8 := by
    intro word hword
    obtain ⟨byte, -, rfl⟩ := List.mem_map.mp hword
    exact byte.toNat_lt
  have h := mk_foldl_absorb (show 8 ≤ 16 by decide) (show 0xA001 < 2 ^ 16 by decide)
    (show 0xFFFF < 2 ^ 16 by decide) hwords
  rw [← (modbusCrc_eq frame).1, List.length_map, ← transmittedBits_eq] at h
  exact h

/-- A trailer has the bits of the number that its bytes make up. -/
theorem transmittedBits_trailer (low high : UInt8) :
    transmittedBits [low, high] = lowBits 16 (low.toNat ||| high.toNat <<< 8) := by
  have hlow : ∀ j < 8, (low.toNat ||| high.toNat <<< 8).testBit j = low.toNat.testBit j := by
    intro j hj
    rw [Nat.testBit_or, Nat.testBit_shiftLeft, decide_eq_false (by omega), Bool.false_and, Bool.or_false]
  have hhigh : ∀ j, (low.toNat ||| high.toNat <<< 8).testBit (8 + j) = high.toNat.testBit j := by
    intro j
    have hzero : low.toNat.testBit (8 + j) = false :=
      Nat.testBit_lt_two_pow (low.toNat_lt.trans_le (Nat.pow_le_pow_right (by omega) (by omega)))
    rw [Nat.testBit_or, Nat.testBit_shiftLeft, hzero, decide_eq_true (by omega), Bool.false_or, Bool.true_and,
      Nat.add_sub_cancel_left]
  show lowBits 8 low.toNat ++ (lowBits 8 high.toNat ++ []) = _
  rw [List.append_nil, lowBits, lowBits, lowBits, show 16 = 8 + 8 from rfl, List.range_add, List.map_append,
    List.map_map]
  congr 1
  · exact List.map_congr_left fun j hj => (hlow j (List.mem_range.mp hj)).symm
  · exact List.map_congr_left fun j _ => (hhigh j).symm

theorem trailer_lt (low high : UInt8) : low.toNat ||| high.toNat <<< 8 < 2 ^ 16 := by
  have hlow := low.toNat_lt
  have hhigh := high.toNat_lt
  rw [Nat.or_comm, ← Nat.shiftLeft_add_eq_or_of_lt (by omega), Nat.shiftLeft_eq]
  omega

theorem crcMatches_append {payload : List UInt8} {low high : UInt8} :
    CrcMatches (payload ++ [low, high]) ↔ low.toNat ||| high.toNat <<< 8 = modbusCrc payload := by
  simp [CrcMatches, receivedCrc]

variable {response : List UInt8}

theorem exists_trailer (h : 2 ≤ response.length) :
    ∃ payload low high, response = payload ++ [low, high] := by
  refine ⟨response.take (response.length - 2), response[response.length - 2], response[response.length - 1], ?_⟩
  have hdrop : response.drop (response.length - 2) =
      [response[response.length - 2], response[response.length - 1]] := by
    rw [List.drop_eq_getElem_cons (by omega), List.drop_eq_getElem_cons (by omega), List.drop_of_length_le (by omega)]
    congr 2
    exact getElem_congr_idx (by omega)
  rw [← hdrop, List.take_append_drop]

/-- A response passes the check when it is the remainder of the initial value. -/
theorem crcMatches_iff (h : 2 ≤ response.length) : CrcMatches response ↔
    crcClass (framePolynomial response) =
      AdjoinRoot.root crcPolynomial ^ (8 * (response.length - 2)) * crcClass initialPolynomial := by
  obtain ⟨payload, low, high, rfl⟩ := exists_trailer h
  have hlength : (payload ++ [low, high]).length - 2 = payload.length := by simp
  have hsplit : crcClass (framePolynomial (payload ++ [low, high])) =
      AdjoinRoot.root crcPolynomial ^ 16 * crcClass (framePolynomial payload) +
        crcClass (bitPolynomial (lowBits 16 (low.toNat ||| high.toNat <<< 8))) := by
    rw [framePolynomial, transmittedBits_append, bitPolynomial_append, transmittedBits_trailer, length_lowBits, map_add,
      map_mul, map_pow, AdjoinRoot.mk_X, framePolynomial, mul_comm]
  rw [crcMatches_append, hlength, hsplit]
  have htwice : ∀ x : AdjoinRoot crcPolynomial, x + x = 0 := by
    intro x
    obtain ⟨p, rfl⟩ := AdjoinRoot.mk_surjective x
    rw [← map_add, CharTwo.add_self_eq_zero, map_zero]
  have hcrc := mk_modbusCrc payload
  constructor
  · intro h
    rw [h, hcrc]
    linear_combination htwice (AdjoinRoot.root crcPolynomial ^ 16 * crcClass (framePolynomial payload))
  · intro h
    refine eq_of_mk_eq (trailer_lt low high) (modbusCrc_eq payload).2 (?_ : crcClass _ = crcClass _)
    rw [hcrc, ← h]
    linear_combination -htwice (AdjoinRoot.root crcPolynomial ^ 16 * crcClass (framePolynomial payload))

/-! ## The check of an exchange -/

/-- A response of the expected length passes exactly when its trailer matches. -/
theorem exchangeOnce_eq {request : ModbusRequest} {closed : Bool} (hlong : 5 ≤ response.length)
    (hlength : expectedRtuResponseLength request.functionCode (response.take 3) = .ok response.length) :
    exchangeOnce request ⟨response, closed⟩ =
      if CrcMatches response then .ok ((response.take (response.length - 2)).drop 1)
      else .error (.modbusResponseError "Invalid Modbus RTU CRC") := by
  obtain ⟨payload, low, high, rfl⟩ := exists_trailer (show 2 ≤ response.length by omega)
  have hheader : readExact 3 ⟨payload ++ [low, high], closed⟩ =
      .ok ((payload ++ [low, high]).take 3, ⟨(payload ++ [low, high]).drop 3, closed⟩) := by
    rw [readExact, if_neg (by show ¬(payload ++ [low, high]).length < 3; omega)]
  have htail : readExact ((payload ++ [low, high]).length - 3) ⟨(payload ++ [low, high]).drop 3, closed⟩ =
      .ok ((payload ++ [low, high]).drop 3,
        ⟨((payload ++ [low, high]).drop 3).drop ((payload ++ [low, high]).length - 3), closed⟩) := by
    rw [readExact, if_neg (by simp), List.take_of_length_le (by simp)]
  unfold exchangeOnce
  rw [hheader]
  show (expectedRtuResponseLength request.functionCode ((payload ++ [low, high]).take 3) >>= _) = _
  rw [hlength]
  show (readExact ((payload ++ [low, high]).length - 3) _ >>= _) = _
  rw [htail]
  show (if ((payload ++ [low, high]).take 3 ++ (payload ++ [low, high]).drop 3).length < 5 then _ else _) = _
  rw [List.take_append_drop, if_neg (by omega)]
  simp [crcMatches_append]

/-- Two frames of one length have the same checksum when the generator divides their difference. -/
theorem modbusCrc_eq_iff {a b : List UInt8} (h : a.length = b.length) :
    modbusCrc a = modbusCrc b ↔ crcPolynomial ∣ framePolynomial (corrupted a b) := by
  have hdifference : crcPolynomial ∣ framePolynomial (corrupted a b) ↔
      crcClass (framePolynomial a) = crcClass (framePolynomial b) := by
    rw [AdjoinRoot.mk_eq_mk, framePolynomial_corrupted h.symm, CharTwo.sub_eq_add]
  have hcoprime : IsCoprime (X ^ 16) crcPolynomial :=
    (isCoprime_X_generator (show (0xA001 : Nat).testBit (16 - 1) = true by decide) (by decide)).pow_left
  rw [hdifference]
  constructor
  · intro hcrc
    have hclass := (mk_modbusCrc a).symm.trans ((congrArg (fun n => crcClass (bitPolynomial (lowBits 16 n))) hcrc).trans
      (mk_modbusCrc b))
    rw [h, add_left_cancel_iff, ← AdjoinRoot.mk_X, ← map_pow, ← map_mul, ← map_mul, AdjoinRoot.mk_eq_mk,
      ← mul_sub] at hclass
    exact AdjoinRoot.mk_eq_mk.mpr (hcoprime.symm.dvd_of_dvd_mul_left hclass)
  · intro hclass
    refine eq_of_mk_eq (modbusCrc_eq a).2 (modbusCrc_eq b).2 (?_ : crcClass _ = crcClass _)
    rw [mk_modbusCrc, mk_modbusCrc, h, hclass]

theorem crcMatches_crcFrame (frame : List UInt8) : CrcMatches (crcFrame frame) := by
  have hlt := (modbusCrc_eq frame).2
  rw [crcFrame, crcMatches_append, UInt8.toNat_ofNat', UInt8.toNat_ofNat', Nat.or_comm,
    ← Nat.shiftLeft_add_eq_or_of_lt (Nat.mod_lt _ (by decide)), Nat.shiftLeft_eq]
  omega

/-- A protected frame passes the check of an exchange, a burst of at most sixteen bits makes it fail, and frames of one
length share a checksum when the polynomial divides their difference. -/
theorem crc_detects_bursts :
    crcPolynomial = X ^ 16 + X ^ 15 + X ^ 2 + 1 ∧
    (∀ frame, CrcMatches (crcFrame frame)) ∧
    (∀ frame error, error.length = (crcFrame frame).length → Burst 16 (transmittedBits error) →
      ¬ CrcMatches (corrupted (crcFrame frame) error)) ∧
    (∀ a b, a.length = b.length → (modbusCrc a = modbusCrc b ↔ crcPolynomial ∣ framePolynomial (corrupted a b))) ∧
    (∀ request response closed, 5 ≤ response.length →
      expectedRtuResponseLength request.functionCode (response.take 3) = .ok response.length →
      exchangeOnce request ⟨response, closed⟩ =
        if CrcMatches response then .ok ((response.take (response.length - 2)).drop 1)
        else .error (.modbusResponseError "Invalid Modbus RTU CRC")) := by
  refine ⟨crcPolynomial_eq, crcMatches_crcFrame, fun frame error hlength hburst hmatches => ?_, fun a b => modbusCrc_eq_iff,
    fun request response closed => exchangeOnce_eq⟩
  have hlong : 2 ≤ (crcFrame frame).length := by simp [crcFrame]
  have hsame : (corrupted (crcFrame frame) error).length = (crcFrame frame).length := by simp [corrupted, hlength]
  -- both responses are the same remainder, and so is their difference
  have hboth := ((crcMatches_iff (hsame ▸ hlong)).mp hmatches).trans
    (hsame ▸ ((crcMatches_iff hlong).mp (crcMatches_crcFrame frame)).symm)
  rw [framePolynomial_corrupted hlength, map_add, add_eq_left, AdjoinRoot.mk_eq_zero] at hboth
  exact not_dvd_of_burst (by decide) (by decide) hburst hboth

end VenusEvcharger.Backend
