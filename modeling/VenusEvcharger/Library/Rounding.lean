import Mathlib.Data.Rat.Floor

/-!
# Rounding to the nearest, ties to even

`roundHalfEven` is the nearest integer, and `roundTo` the nearest multiple of a unit. Rounding is monotone and keeps
what is round already, so that the mean of values between two bounds stays between the rounded bounds
(`roundTo_mean_mem`).
-/

namespace Library

/-- The nearest integer; a tie goes to the even one. -/
def roundHalfEven (q : ℚ) : Int :=
  if q - ⌊q⌋ < 1 / 2 ∨ q - ⌊q⌋ = 1 / 2 ∧ ⌊q⌋ % 2 = 0 then ⌊q⌋ else ⌊q⌋ + 1

/-- The nearest multiple of the unit `1 / scale`. -/
def roundTo (scale : Nat) (q : ℚ) : ℚ := roundHalfEven (q * scale) / scale

theorem roundHalfEven_intCast (n : Int) : roundHalfEven n = n := by
  rw [roundHalfEven, if_pos]
  · exact Int.floor_intCast n
  · left
    rw [Int.floor_intCast]
    norm_num

/-- Rounding goes down or up to the next integer. -/
theorem roundHalfEven_cases (q : ℚ) :
    roundHalfEven q = ⌊q⌋ ∧ q - ⌊q⌋ ≤ 1 / 2 ∨ roundHalfEven q = ⌊q⌋ + 1 ∧ 1 / 2 ≤ q - ⌊q⌋ := by
  rw [roundHalfEven]
  split
  · rename_i hdown
    refine .inl ⟨rfl, ?_⟩
    rcases hdown with hlt | ⟨heq, -⟩
    · exact hlt.le
    · exact heq.le
  · rename_i hup
    exact .inr ⟨rfl, not_lt.mp fun hlt => hup (.inl hlt)⟩

/-- Rounding is monotone. -/
theorem roundHalfEven_mono {a b : ℚ} (h : a ≤ b) : roundHalfEven a ≤ roundHalfEven b := by
  rcases (Int.floor_le_floor h).lt_or_eq with hlt | heq
  · have ha : roundHalfEven a ≤ ⌊a⌋ + 1 := by
      rcases roundHalfEven_cases a with ⟨hround, -⟩ | ⟨hround, -⟩ <;> omega
    have hb : ⌊b⌋ ≤ roundHalfEven b := by
      rcases roundHalfEven_cases b with ⟨hround, -⟩ | ⟨hround, -⟩ <;> omega
    omega
  · -- in one unit interval the fractions decide
    rw [roundHalfEven, roundHalfEven, ← heq]
    by_cases hdown : b - ⌊a⌋ < 1 / 2 ∨ b - ⌊a⌋ = 1 / 2 ∧ ⌊a⌋ % 2 = 0
    · have ha : a - ⌊a⌋ < 1 / 2 ∨ a - ⌊a⌋ = 1 / 2 ∧ ⌊a⌋ % 2 = 0 := by
        rcases hdown with hlt | ⟨hhalf, heven⟩
        · exact .inl (by linarith)
        · rcases (show a - ⌊a⌋ ≤ 1 / 2 by linarith).lt_or_eq with hlt | hsame
          · exact .inl hlt
          · exact .inr ⟨hsame, heven⟩
      rw [if_pos hdown, if_pos ha]
    · rw [if_neg hdown]
      split <;> omega

variable {scale : Nat}

theorem roundTo_mono {a b : ℚ} (h : a ≤ b) : roundTo scale a ≤ roundTo scale b := by
  refine div_le_div_of_nonneg_right ?_ (Nat.cast_nonneg scale)
  exact_mod_cast roundHalfEven_mono (mul_le_mul_of_nonneg_right h (Nat.cast_nonneg scale))

/-- A rounded value is round. -/
theorem roundTo_roundTo (q : ℚ) : roundTo scale (roundTo scale q) = roundTo scale q := by
  rcases Nat.eq_zero_or_pos scale with rfl | hpos
  · simp [roundTo]
  · have hne : (scale : ℚ) ≠ 0 := by exact_mod_cast hpos.ne'
    rw [roundTo, roundTo, div_mul_cancel₀ _ hne, roundHalfEven_intCast]

theorem roundTo_zero : roundTo scale 0 = 0 := by
  have hzero : roundHalfEven (0 * scale : ℚ) = 0 := by
    rw [zero_mul]
    exact_mod_cast roundHalfEven_intCast 0
  rw [roundTo, hzero]
  norm_num

/-- The weighted mean of a value between rounded bounds and one between the bounds rounds to a value between the
rounded bounds. -/
theorem roundTo_mean_mem {low high held value weight : ℚ} (hweight : 0 ≤ weight) (hone : weight ≤ 1)
    (hheld : roundTo scale low ≤ held ∧ held ≤ roundTo scale high) (hvalue : low ≤ value ∧ value ≤ high) :
    roundTo scale low ≤ roundTo scale (held + weight * (value - held)) ∧
      roundTo scale (held + weight * (value - held)) ≤ roundTo scale high := by
  have hmean : held + weight * (value - held) = (1 - weight) * held + weight * value := by ring
  have hrest : 0 ≤ 1 - weight := by linarith
  constructor
  · have hbound : min (roundTo scale low) low ≤ held + weight * (value - held) := by
      rw [hmean]
      have hleft := mul_le_mul_of_nonneg_left ((min_le_left (roundTo scale low) low).trans hheld.1) hrest
      have hright := mul_le_mul_of_nonneg_left ((min_le_right (roundTo scale low) low).trans hvalue.1) hweight
      linarith
    refine le_trans (le_of_eq ?_) (roundTo_mono hbound)
    rcases le_total (roundTo scale low) low with hle | hle
    · rw [min_eq_left hle, roundTo_roundTo]
    · rw [min_eq_right hle]
  · have hbound : held + weight * (value - held) ≤ max (roundTo scale high) high := by
      rw [hmean]
      have hleft := mul_le_mul_of_nonneg_left (hheld.2.trans (le_max_left (roundTo scale high) high)) hrest
      have hright := mul_le_mul_of_nonneg_left (hvalue.2.trans (le_max_right (roundTo scale high) high)) hweight
      linarith
    refine le_trans (roundTo_mono hbound) (le_of_eq ?_)
    rcases le_total (roundTo scale high) high with hle | hle
    · rw [max_eq_right hle]
    · rw [max_eq_left hle, roundTo_roundTo]

end Library
