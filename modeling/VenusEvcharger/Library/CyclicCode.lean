import Mathlib.Algebra.Field.ZMod
import Mathlib.RingTheory.AdjoinRoot

/-!
# Cyclic redundancy checks

A register shifts to the right and takes in its feedback whenever a one is shifted out. The bits of the register are
the coefficients of a polynomial over `ZMod 2`, the lowest bit the highest one, and a shift is the product with `X`
modulo the generator, which has the feedback behind its leading term (`mk_shiftStep`). A register that takes in words
of some bits holds the remainder of the message (`mk_foldl_absorb`), and a burst that is no longer than the register
is no multiple of the generator (`not_dvd_of_burst`).
-/

namespace Library

open Polynomial

/-! ## Bits and polynomials -/

/-- The polynomial of some bits, the highest coefficient first. -/
noncomputable def bitPolynomial : List Bool → (ZMod 2)[X]
  | [] => 0
  | bit :: bits => (if bit then X ^ bits.length else 0) + bitPolynomial bits

/-- The lowest bits of a number, the lowest one first. -/
def lowBits (width n : Nat) : List Bool := (List.range width).map n.testBit

@[simp] theorem length_lowBits (width n : Nat) : (lowBits width n).length = width := by simp [lowBits]

theorem lowBits_succ (width n : Nat) : lowBits (width + 1) n = n.testBit 0 :: lowBits width (n / 2) := by
  rw [lowBits, List.range_succ_eq_map, List.map_cons, List.map_map]
  refine congrArg (_ :: ·) (List.map_congr_left fun j _ => ?_)
  exact Nat.testBit_succ n j

theorem lowBits_xor (width a b : Nat) :
    lowBits width (a ^^^ b) = List.zipWith xor (lowBits width a) (lowBits width b) := by
  rw [lowBits, lowBits, lowBits, List.zipWith_map, List.zipWith_self]
  exact List.map_congr_left fun j _ => Nat.testBit_xor ..

/-- A number that is small enough has zeros behind its bits. -/
theorem lowBits_add {k : Nat} (extra : Nat) {n : Nat} (h : n < 2 ^ k) :
    lowBits (k + extra) n = lowBits k n ++ List.replicate extra false := by
  rw [lowBits, List.range_add, List.map_append, List.map_map]
  refine congrArg (lowBits k n ++ ·) (List.eq_replicate_iff.mpr ⟨by simp, ?_⟩)
  intro bit hbit
  obtain ⟨j, -, rfl⟩ := List.mem_map.mp hbit
  exact Nat.testBit_lt_two_pow (h.trans_le (Nat.pow_le_pow_right (by omega) (Nat.le_add_right k j)))

theorem lowBits_inj {width a b : Nat} (ha : a < 2 ^ width) (hb : b < 2 ^ width)
    (h : lowBits width a = lowBits width b) : a = b := by
  apply Nat.eq_of_testBit_eq
  intro j
  by_cases hj : j < width
  · exact List.map_inj_left.mp h j (List.mem_range.mpr hj)
  · have hle : 2 ^ width ≤ 2 ^ j := Nat.pow_le_pow_right (by omega) (by omega)
    rw [Nat.testBit_lt_two_pow (ha.trans_le hle), Nat.testBit_lt_two_pow (hb.trans_le hle)]

theorem bitPolynomial_append (xs ys : List Bool) :
    bitPolynomial (xs ++ ys) = bitPolynomial xs * X ^ ys.length + bitPolynomial ys := by
  induction xs with
  | nil => simp [bitPolynomial]
  | cons x xs ih =>
    rw [List.cons_append, bitPolynomial, bitPolynomial, ih, List.length_append, pow_add]
    split <;> ring

theorem bitPolynomial_replicate_false (n : Nat) : bitPolynomial (List.replicate n false) = 0 := by
  induction n with
  | zero => rfl
  | succ n ih => simp [List.replicate_succ, bitPolynomial, ih]

theorem degree_bitPolynomial_lt (bits : List Bool) : (bitPolynomial bits).degree < bits.length := by
  induction bits with
  | nil => simp [bitPolynomial]
  | cons bit bits ih =>
    have hlt : (bits.length : WithBot Nat) < (bit :: bits).length := by
      rw [List.length_cons]
      exact_mod_cast Nat.lt_succ_self bits.length
    rw [bitPolynomial]
    refine (degree_add_le _ _).trans_lt (max_lt ?_ (ih.trans hlt))
    split
    · rwa [degree_X_pow]
    · simp

/-- Exclusive or is the sum. -/
theorem bitPolynomial_zipWith_xor {xs ys : List Bool} (h : xs.length = ys.length) :
    bitPolynomial (List.zipWith xor xs ys) = bitPolynomial xs + bitPolynomial ys := by
  induction xs generalizing ys with
  | nil =>
    obtain rfl := List.length_eq_zero_iff.mp h.symm
    simp [bitPolynomial]
  | cons x xs ih =>
    cases ys with
    | nil => nomatch h
    | cons y ys =>
      have hlength : xs.length = ys.length := Nat.succ.inj h
      -- two leading ones cancel
      have hlead : (if xor x y then X ^ ys.length else 0 : (ZMod 2)[X]) =
          (if x then X ^ ys.length else 0) + if y then X ^ ys.length else 0 := by
        cases x <;> cases y <;> simp [CharTwo.add_self_eq_zero]
      rw [List.zipWith_cons_cons, bitPolynomial, bitPolynomial, bitPolynomial, ih hlength, List.length_zipWith,
        hlength, Nat.min_self, hlead]
      ring

theorem bitPolynomial_ne_zero {bits : List Bool} (h : true ∈ bits) : bitPolynomial bits ≠ 0 := by
  induction bits with
  | nil => nomatch h
  | cons bit bits ih =>
    rw [bitPolynomial]
    cases bit with
    | false =>
      rw [if_neg Bool.false_ne_true, zero_add]
      exact ih (List.mem_of_ne_of_mem Bool.false_ne_true.symm h)
    | true =>
      intro hzero
      have hdegree := degree_bitPolynomial_lt bits
      rw [if_pos rfl] at hzero
      rw [← CharTwo.add_eq_zero.mp hzero, degree_X_pow] at hdegree
      exact lt_irrefl _ hdegree

theorem bitPolynomial_inj {xs ys : List Bool} (hlength : xs.length = ys.length)
    (h : bitPolynomial xs = bitPolynomial ys) : xs = ys := by
  have hzero : bitPolynomial (List.zipWith xor xs ys) = 0 := by
    rw [bitPolynomial_zipWith_xor hlength, h, CharTwo.add_self_eq_zero]
  by_contra hne
  obtain ⟨j, hx, hy, hdiffer⟩ : ∃ (j : Nat) (hx : j < xs.length) (hy : j < ys.length), xs[j] ≠ ys[j] := by
    by_contra hnone
    push Not at hnone
    exact hne (List.ext_getElem hlength hnone)
  refine bitPolynomial_ne_zero (List.mem_iff_getElem.mpr ⟨j, by simp [hx, hy], ?_⟩) hzero
  rw [List.getElem_zipWith]
  simpa using hdiffer

/-! ## The register -/

section

variable (width feedback : Nat)

/-- One shift of a register. -/
def shiftStep (register : Nat) : Nat := if register % 2 = 1 then (register / 2) ^^^ feedback else register / 2

/-- The generator has the feedback behind its leading term. -/
noncomputable def generator : (ZMod 2)[X] := X ^ width + bitPolynomial (lowBits width feedback)

/-- A register takes in a word of some bits. -/
def absorb (bits register word : Nat) : Nat := (shiftStep feedback)^[bits] (register ^^^ word)

end

variable {width feedback : Nat}

theorem degree_generator : (generator width feedback).degree = width := by
  have hlt : (bitPolynomial (lowBits width feedback)).degree < (X ^ width : (ZMod 2)[X]).degree := by
    rw [degree_X_pow]
    simpa using degree_bitPolynomial_lt (lowBits width feedback)
  rw [generator, degree_add_eq_left_of_degree_lt hlt, degree_X_pow]

theorem eq_zero_of_generator_dvd {p : (ZMod 2)[X]} (hdegree : p.degree < width) (h : generator width feedback ∣ p) :
    p = 0 := eq_zero_of_dvd_of_degree_lt h (degree_generator.symm ▸ hdegree)

variable {register : Nat}

theorem shiftStep_lt (hfeedback : feedback < 2 ^ width) (h : register < 2 ^ width) :
    shiftStep feedback register < 2 ^ width := by
  have hhalf : register / 2 < 2 ^ width := (Nat.div_le_self ..).trans_lt h
  unfold shiftStep
  split
  · exact Nat.xor_lt_two_pow hhalf hfeedback
  · exact hhalf

/-- A shift is the product with `X` modulo the generator. -/
theorem mk_shiftStep (h : register < 2 ^ width) :
    AdjoinRoot.mk (generator width feedback) (bitPolynomial (lowBits width (shiftStep feedback register))) =
      AdjoinRoot.root (generator width feedback) *
        AdjoinRoot.mk (generator width feedback) (bitPolynomial (lowBits width register)) := by
  cases width with
  | zero =>
    have hzero : ∀ n, bitPolynomial (lowBits 0 n) = 0 := fun _ => rfl
    simp [hzero]
  | succ width =>
    have hhalf : register / 2 < 2 ^ width := by rw [pow_succ] at h; omega
    have hshifted : bitPolynomial (lowBits (width + 1) (register / 2)) =
        bitPolynomial (lowBits width (register / 2)) * X := by
      rw [lowBits_add 1 hhalf, bitPolynomial_append]
      simp [bitPolynomial]
    rw [lowBits_succ width register, bitPolynomial, map_add, mul_add, ← AdjoinRoot.mk_X, ← map_mul, ← map_mul,
      ← map_add]
    rw [shiftStep]
    by_cases hodd : register % 2 = 1
    · have hbit : register.testBit 0 = true := by simp [hodd]
      rw [if_pos hodd, hbit, if_pos rfl, lowBits_xor, bitPolynomial_zipWith_xor (by simp), hshifted, length_lowBits,
        AdjoinRoot.mk_eq_mk]
      -- the difference is the generator
      refine dvd_of_eq ?_
      rw [generator, CharTwo.sub_eq_add, pow_succ]
      have htwice := CharTwo.add_self_eq_zero (bitPolynomial (lowBits width (register / 2)) * X)
      linear_combination -htwice
    · have hbit : register.testBit 0 = false := by simp [hodd]
      rw [if_neg hodd, hbit, if_neg Bool.false_ne_true, hshifted, mul_zero, zero_add, mul_comm X]

theorem iterate_shiftStep_lt (hfeedback : feedback < 2 ^ width) (h : register < 2 ^ width)
    (count : Nat) : (shiftStep feedback)^[count] register < 2 ^ width := by
  induction count with
  | zero => exact h
  | succ count ih =>
    rw [Function.iterate_succ_apply']
    exact shiftStep_lt hfeedback ih

theorem mk_iterate_shiftStep (hfeedback : feedback < 2 ^ width) (h : register < 2 ^ width)
    (count : Nat) :
    AdjoinRoot.mk (generator width feedback) (bitPolynomial (lowBits width ((shiftStep feedback)^[count] register))) =
      AdjoinRoot.root (generator width feedback) ^ count *
        AdjoinRoot.mk (generator width feedback) (bitPolynomial (lowBits width register)) := by
  induction count with
  | zero => simp
  | succ count ih =>
    rw [Function.iterate_succ_apply', mk_shiftStep (iterate_shiftStep_lt hfeedback h count), ih, pow_succ]
    ring

section

variable {bits : Nat} (hbits : bits ≤ width) (hfeedback : feedback < 2 ^ width)

include hbits hfeedback

variable {register : Nat}

section

variable (h : register < 2 ^ width)
include h

theorem absorb_lt {word : Nat} (hword : word < 2 ^ bits) :
    absorb feedback bits register word < 2 ^ width :=
  iterate_shiftStep_lt hfeedback
    (Nat.xor_lt_two_pow h (hword.trans_le (Nat.pow_le_pow_right (by omega) hbits))) bits

theorem foldl_absorb_lt {words : List Nat}
    (hwords : ∀ word ∈ words, word < 2 ^ bits) : words.foldl (absorb feedback bits) register < 2 ^ width := by
  induction words generalizing register with
  | nil => exact h
  | cons word words ih =>
    exact ih (absorb_lt hbits hfeedback h (hwords word List.mem_cons_self))
      fun other hother => hwords other (List.mem_cons_of_mem _ hother)

/-- A register that takes in a word is shifted past it. -/
theorem mk_absorb {word : Nat} (hword : word < 2 ^ bits) :
    AdjoinRoot.mk (generator width feedback) (bitPolynomial (lowBits width (absorb feedback bits register word))) =
      AdjoinRoot.root (generator width feedback) ^ bits *
        AdjoinRoot.mk (generator width feedback) (bitPolynomial (lowBits width register)) +
      AdjoinRoot.root (generator width feedback) ^ width *
        AdjoinRoot.mk (generator width feedback) (bitPolynomial (lowBits bits word)) := by
  have hwide : word < 2 ^ width := hword.trans_le (Nat.pow_le_pow_right (by omega) hbits)
  have hshifted : bitPolynomial (lowBits width word) = bitPolynomial (lowBits bits word) * X ^ (width - bits) := by
    have hsplit := lowBits_add (width - bits) hword
    rw [Nat.add_sub_cancel' hbits] at hsplit
    rw [hsplit, bitPolynomial_append, bitPolynomial_replicate_false, add_zero, List.length_replicate]
  have hpow : AdjoinRoot.root (generator width feedback) ^ width =
      AdjoinRoot.root (generator width feedback) ^ bits *
        AdjoinRoot.root (generator width feedback) ^ (width - bits) := by
    rw [← pow_add, Nat.add_sub_cancel' hbits]
  rw [absorb, mk_iterate_shiftStep hfeedback (Nat.xor_lt_two_pow h hwide), lowBits_xor,
    bitPolynomial_zipWith_xor (by simp), hshifted, map_add, map_mul, map_pow, AdjoinRoot.mk_X, hpow]
  ring

/-- A register holds the remainder of the message that it has taken in. -/
theorem mk_foldl_absorb {words : List Nat} (hwords : ∀ word ∈ words, word < 2 ^ bits) :
    AdjoinRoot.mk (generator width feedback)
        (bitPolynomial (lowBits width (words.foldl (absorb feedback bits) register))) =
      AdjoinRoot.root (generator width feedback) ^ (bits * words.length) *
        AdjoinRoot.mk (generator width feedback) (bitPolynomial (lowBits width register)) +
      AdjoinRoot.root (generator width feedback) ^ width *
        AdjoinRoot.mk (generator width feedback) (bitPolynomial (words.flatMap (lowBits bits))) := by
  induction words generalizing register with
  | nil => simp [bitPolynomial]
  | cons word words ih =>
    have hlength : (words.flatMap (lowBits bits)).length = bits * words.length := by
      simp [List.length_flatMap, mul_comm]
    have hword := hwords word List.mem_cons_self
    rw [List.foldl_cons, ih (absorb_lt hbits hfeedback h hword) fun other hother =>
        hwords other (List.mem_cons_of_mem _ hother),
      mk_absorb hbits hfeedback h hword, List.flatMap_cons, bitPolynomial_append, hlength, List.length_cons,
      map_add, map_mul, map_pow, AdjoinRoot.mk_X, Nat.mul_succ, pow_add]
    ring

end

end

/-- Registers with the same remainder are the same. -/
theorem eq_of_mk_eq {a b : Nat} (ha : a < 2 ^ width) (hb : b < 2 ^ width)
    (h : AdjoinRoot.mk (generator width feedback) (bitPolynomial (lowBits width a)) =
      AdjoinRoot.mk (generator width feedback) (bitPolynomial (lowBits width b))) : a = b := by
  have hxor := bitPolynomial_zipWith_xor (show (lowBits width a).length = (lowBits width b).length by simp)
  have hdegree : (bitPolynomial (lowBits width a) + bitPolynomial (lowBits width b)).degree < width := by
    rw [← hxor]
    refine (degree_bitPolynomial_lt _).trans_le ?_
    simp
  have hdvd := AdjoinRoot.mk_eq_mk.mp h
  rw [CharTwo.sub_eq_add] at hdvd
  have hzero := eq_zero_of_generator_dvd hdegree hdvd
  exact lowBits_inj ha hb (bitPolynomial_inj (by simp) (CharTwo.add_eq_zero.mp hzero))

/-! ## Bursts -/

/-- The ones of an error pattern stand within some consecutive bits, and there is one. -/
def Burst (limit : Nat) (bits : List Bool) : Prop :=
  ∃ before burst after, bits = List.replicate before false ++ burst ++ List.replicate after false ∧
    burst.length ≤ limit ∧ true ∈ burst

/-- A generator with a constant term has no factor `X`. -/
theorem isCoprime_X_generator (hlast : feedback.testBit (width - 1) = true) (hwidth : 0 < width) :
    IsCoprime X (generator width feedback) := by
  refine irreducible_X.coprime_iff_not_dvd.mpr fun hdvd => ?_
  have hzero := X_dvd_iff.mp hdvd
  have hsplit : lowBits width feedback = (List.range (width - 1)).map feedback.testBit ++ [true] := by
    obtain ⟨n, rfl⟩ : ∃ n, width = n + 1 := ⟨width - 1, by omega⟩
    rw [lowBits, List.range_succ, List.map_append, List.map_singleton]
    exact congrArg (fun bit => _ ++ [bit]) hlast
  rw [generator, hsplit, bitPolynomial_append, coeff_add, coeff_add, coeff_X_pow, if_neg (by omega)] at hzero
  simp [bitPolynomial] at hzero

/-- A burst that is no longer than the register is no multiple of the generator. -/
theorem not_dvd_of_burst (hlast : feedback.testBit (width - 1) = true) (hwidth : 0 < width) {bits : List Bool}
    (h : Burst width bits) : ¬ generator width feedback ∣ bitPolynomial bits := by
  obtain ⟨before, burst, after, rfl, hlength, hone⟩ := h
  rw [bitPolynomial_append, bitPolynomial_append, bitPolynomial_replicate_false, bitPolynomial_replicate_false,
    zero_mul,
    zero_add, add_zero, List.length_replicate]
  intro hdvd
  have hburst : generator width feedback ∣ bitPolynomial burst :=
    (isCoprime_X_generator hlast hwidth).symm.pow_right.dvd_of_dvd_mul_right hdvd
  have hdegree : (bitPolynomial burst).degree < width :=
    (degree_bitPolynomial_lt burst).trans_le (by exact_mod_cast hlength)
  exact bitPolynomial_ne_zero hone (eq_zero_of_generator_dvd hdegree hburst)

end Library
