import VenusEvcharger.Library.Rounding

/-!
# Binary floating-point formats

A format has a number of fraction bits, an all-ones exponent `top`, and a least positive value `2 ^ -unit`. A word of
the format is a sign and a magnitude: the exponent and the fraction as one number. Magnitudes are ordered as the
values are, `infinity` is the one above all finite magnitudes, and what lies above it is not a number.

A finite value is a whole number of units. `units` gives it, `encode` rounds a number of units to the nearest
magnitude, and `convert` goes from one format to another. A wider format holds every value of a narrower one
(`units_encode`), so that converting there and back gives the word again, unless it is a signalling NaN
(`convert_convert`).
-/

namespace Library

/-- A binary floating-point format. -/
structure FloatFormat where
  fraction : Nat
  top : Nat
  unit : Nat
  fraction_pos : 0 < fraction
  top_pos : 0 < top

namespace FloatFormat

variable (F G : FloatFormat)

/-- The magnitude of infinity. -/
def infinity : Nat := F.top * 2 ^ F.fraction

/-- The fraction bit that marks a quiet NaN. -/
def quiet : Nat := 2 ^ (F.fraction - 1)

/-- A word: its sign and its magnitude. -/
structure Word where
  negative : Bool
  magnitude : Nat
  inRange : magnitude < F.infinity + 2 ^ F.fraction
  deriving DecidableEq

variable {F}

/-- Not a number, and one that an operation would turn into a quiet one. -/
def Word.Signalling (x : F.Word) : Prop := F.infinity < x.magnitude ∧ x.magnitude < F.infinity + F.quiet

instance (x : F.Word) : Decidable x.Signalling := inferInstanceAs (Decidable (_ ∧ _))

variable (F)

/-- The number of units that a finite magnitude stands for. -/
def units (magnitude : Nat) : Nat :=
  if magnitude / 2 ^ F.fraction = 0 then magnitude
  else (2 ^ F.fraction + magnitude % 2 ^ F.fraction) * 2 ^ (magnitude / 2 ^ F.fraction - 1)

/-- `n / 2 ^ shift`, rounded to the nearest whole number. -/
def roundShift (n shift : Nat) : Nat := (roundHalfEven ((n : ℚ) / (2 ^ shift : Nat))).toNat

/-- The magnitude nearest to `n / 2 ^ k` units, as if the exponent had no bound. -/
def encode (n k : Nat) : Nat :=
  let shift := max k (n.log2 - F.fraction)
  (shift - k) * 2 ^ F.fraction + roundShift n shift

/-! ## Magnitudes and units -/

theorem roundShift_mul (m shift : Nat) : roundShift (m * 2 ^ shift) shift = m := by
  have hquotient : ((m * 2 ^ shift : Nat) : ℚ) / (2 ^ shift : Nat) = ((m : Int) : ℚ) := by
    push_cast
    exact mul_div_cancel_right₀ _ (by positivity)
  rw [roundShift, hquotient, roundHalfEven_intCast]
  rfl

/-- The logarithm of a normalized significand with its exponent. -/
theorem log2_significand {a : Nat} (e : Nat) (hlow : 2 ^ F.fraction ≤ a) (hhigh : a < 2 ^ (F.fraction + 1)) :
    (a * 2 ^ e).log2 = F.fraction + e := by
  have hpos : a * 2 ^ e ≠ 0 := by
    have : 0 < 2 ^ F.fraction := Nat.two_pow_pos _
    exact (Nat.mul_pos (by omega) (Nat.two_pow_pos e)).ne'
  have hge : F.fraction + e ≤ (a * 2 ^ e).log2 := by
    rw [Nat.le_log2 hpos, pow_add]
    exact Nat.mul_le_mul_right _ hlow
  have hlt : (a * 2 ^ e).log2 < F.fraction + 1 + e := by
    rw [Nat.log2_lt hpos, pow_add]
    exact Nat.mul_lt_mul_of_pos_right hhigh (Nat.two_pow_pos e)
  omega

theorem encode_significand {a : Nat} (e k : Nat) (hlow : 2 ^ F.fraction ≤ a) (hhigh : a < 2 ^ (F.fraction + 1)) :
    F.encode (a * 2 ^ (e + k)) k = e * 2 ^ F.fraction + a := by
  have hlog := F.log2_significand (e + k) hlow hhigh
  have hshift : max k (F.fraction + (e + k) - F.fraction) = e + k := by omega
  rw [encode, hlog, hshift, roundShift_mul, Nat.add_sub_cancel]

theorem encode_subnormal {m : Nat} (k : Nat) (h : m < 2 ^ F.fraction) : F.encode (m * 2 ^ k) k = m := by
  have hlog : (m * 2 ^ k).log2 - F.fraction ≤ k := by
    rcases Nat.eq_zero_or_pos m with rfl | hpos
    · simp
    · have hlt : (m * 2 ^ k).log2 < F.fraction + k := by
        rw [Nat.log2_lt (Nat.mul_pos hpos (Nat.two_pow_pos k)).ne', pow_add]
        exact Nat.mul_lt_mul_of_pos_right h (Nat.two_pow_pos k)
      omega
  rw [encode, Nat.max_eq_left hlog, roundShift_mul, Nat.sub_self, Nat.zero_mul, Nat.zero_add]

theorem units_significand {a : Nat} (e : Nat) (hlow : 2 ^ F.fraction ≤ a) (hhigh : a < 2 ^ (F.fraction + 1)) :
    F.units (e * 2 ^ F.fraction + a) = a * 2 ^ e := by
  have hpos : 0 < 2 ^ F.fraction := Nat.two_pow_pos _
  obtain ⟨f, rfl⟩ := Nat.exists_eq_add_of_le hlow
  have hf : f < 2 ^ F.fraction := by
    rw [pow_succ] at hhigh
    omega
  have hsum : e * 2 ^ F.fraction + (2 ^ F.fraction + f) = f + 2 ^ F.fraction * (e + 1) := by ring
  have hdiv : (f + 2 ^ F.fraction * (e + 1)) / 2 ^ F.fraction = e + 1 := by
    rw [Nat.add_mul_div_left _ _ hpos, Nat.div_eq_of_lt hf, Nat.zero_add]
  have hmod : (f + 2 ^ F.fraction * (e + 1)) % 2 ^ F.fraction = f := by
    rw [Nat.add_mul_mod_self_left, Nat.mod_eq_of_lt hf]
  rw [hsum, units, hdiv, hmod, if_neg (Nat.succ_ne_zero e), Nat.add_sub_cancel]

theorem units_subnormal {m : Nat} (h : m < 2 ^ F.fraction) : F.units m = m := by
  rw [units, if_pos (Nat.div_eq_of_lt h)]

/-- A magnitude is subnormal, or a normalized significand with its exponent. -/
theorem magnitude_cases (m : Nat) :
    m < 2 ^ F.fraction ∨ ∃ e a, 2 ^ F.fraction ≤ a ∧ a < 2 ^ (F.fraction + 1) ∧ m = e * 2 ^ F.fraction + a := by
  have hpos : 0 < 2 ^ F.fraction := Nat.two_pow_pos _
  rcases Nat.lt_or_ge m (2 ^ F.fraction) with hlt | hge
  · exact .inl hlt
  · have hexp : 1 ≤ m / 2 ^ F.fraction := (Nat.one_le_div_iff hpos).mpr hge
    have hmod := Nat.mod_lt m hpos
    refine .inr ⟨m / 2 ^ F.fraction - 1, 2 ^ F.fraction + m % 2 ^ F.fraction, by omega, ?_, ?_⟩
    · rw [pow_succ]
      omega
    · obtain ⟨e, he⟩ := Nat.exists_eq_add_of_le hexp
      have hm := Nat.div_add_mod m (2 ^ F.fraction)
      rw [he] at hm ⊢
      rw [Nat.add_sub_cancel_left]
      linarith

variable {s : Nat}

/-- A significand that fits the format, with an exponent, is a small number or a normalized significand with its own
exponent. -/
theorem units_cases (t : Nat) (h : s < 2 ^ (F.fraction + 1)) :
    s * 2 ^ t < 2 ^ F.fraction ∨
      ∃ e a, 2 ^ F.fraction ≤ a ∧ a < 2 ^ (F.fraction + 1) ∧ s * 2 ^ t = a * 2 ^ e := by
  induction t generalizing s with
  | zero =>
    rw [pow_zero, Nat.mul_one]
    rcases Nat.lt_or_ge s (2 ^ F.fraction) with hlt | hge
    · exact .inl hlt
    · exact .inr ⟨0, s, hge, h, by rw [pow_zero, Nat.mul_one]⟩
  | succ t ih =>
    rcases Nat.lt_or_ge s (2 ^ F.fraction) with hlt | hge
    · -- one more doubling of the significand still fits
      have hdouble : s * 2 < 2 ^ (F.fraction + 1) := by
        rw [pow_succ]
        omega
      have hsame : s * 2 ^ (t + 1) = s * 2 * 2 ^ t := by
        rw [pow_succ]
        ring
      rw [hsame]
      exact ih hdouble
    · exact .inr ⟨t + 1, s, hge, h, rfl⟩

/-- A magnitude is the one of its value. -/
theorem encode_units (m k : Nat) : F.encode (F.units m * 2 ^ k) k = m := by
  rcases F.magnitude_cases m with hlt | ⟨e, a, hlow, hhigh, rfl⟩
  · rw [F.units_subnormal hlt, F.encode_subnormal k hlt]
  · rw [F.units_significand e hlow hhigh, Nat.mul_assoc, ← pow_add, F.encode_significand e k hlow hhigh]

/-- A number of units whose significand fits is held exactly. -/
theorem units_encode (t : Nat) (h : s < 2 ^ (F.fraction + 1)) :
    F.units (F.encode (s * 2 ^ t) 0) = s * 2 ^ t := by
  rcases F.units_cases t h with hlt | ⟨e, a, hlow, hhigh, heq⟩
  · have hencode := F.encode_subnormal 0 hlt
    rw [pow_zero, Nat.mul_one] at hencode
    rw [hencode, F.units_subnormal hlt]
  · have hencode := F.encode_significand e 0 hlow hhigh
    rw [Nat.add_zero] at hencode
    rw [heq, hencode, F.units_significand e hlow hhigh]

/-- A number of units whose significand fits is finite when its logarithm leaves room for it. -/
theorem encode_lt_infinity (t : Nat) (h : s < 2 ^ (F.fraction + 1))
    (hroom : s * 2 ^ t < 2 ^ (F.fraction + F.top - 1)) : F.encode (s * 2 ^ t) 0 < F.infinity := by
  have hpos : 0 < 2 ^ F.fraction := Nat.two_pow_pos _
  have htop := F.top_pos
  rcases F.units_cases t h with hlt | ⟨e, a, hlow, hhigh, heq⟩
  · have hencode := F.encode_subnormal 0 hlt
    rw [pow_zero, Nat.mul_one] at hencode
    rw [hencode, infinity]
    exact hlt.trans_le (Nat.le_mul_of_pos_left _ htop)
  · have hencode := F.encode_significand e 0 hlow hhigh
    rw [Nat.add_zero] at hencode
    have hexp : F.fraction + e < F.fraction + F.top - 1 := by
      rw [heq] at hroom
      refine (Nat.pow_lt_pow_iff_right (by omega : 1 < 2)).mp ((?_ : _ ≤ _).trans_lt hroom)
      rw [pow_add]
      exact Nat.mul_le_mul_right _ hlow
    rw [heq, hencode, infinity]
    calc e * 2 ^ F.fraction + a < e * 2 ^ F.fraction + 2 ^ (F.fraction + 1) := by omega
      _ = (e + 2) * 2 ^ F.fraction := by ring
      _ ≤ F.top * 2 ^ F.fraction := Nat.mul_le_mul_right _ (by omega)

/-- The units of a finite magnitude have a significand that fits and leave room for it. -/
theorem units_finite {m : Nat} (h : m < F.infinity) :
    ∃ s t, F.units m = s * 2 ^ t ∧ s < 2 ^ (F.fraction + 1) ∧ s * 2 ^ t < 2 ^ (F.fraction + F.top - 1) := by
  have hpos : 0 < 2 ^ F.fraction := Nat.two_pow_pos _
  have htop := F.top_pos
  rcases F.magnitude_cases m with hlt | ⟨e, a, hlow, hhigh, rfl⟩
  · refine ⟨m, 0, by rw [F.units_subnormal hlt, pow_zero, Nat.mul_one], ?_, ?_⟩
    · rw [pow_succ]
      omega
    · rw [pow_zero, Nat.mul_one]
      exact hlt.trans_le (Nat.pow_le_pow_right (by omega) (by omega))
  · refine ⟨a, e, F.units_significand e hlow hhigh, hhigh, ?_⟩
    have hexp : e + 1 < F.top := by
      rw [infinity] at h
      have hlt : (e + 1) * 2 ^ F.fraction < F.top * 2 ^ F.fraction := by
        rw [Nat.add_mul, Nat.one_mul]
        omega
      exact Nat.lt_of_mul_lt_mul_right hlt
    calc a * 2 ^ e < 2 ^ (F.fraction + 1) * 2 ^ e := Nat.mul_lt_mul_of_pos_right hhigh (Nat.two_pow_pos e)
      _ = 2 ^ (F.fraction + 1 + e) := (pow_add ..).symm
      _ ≤ 2 ^ (F.fraction + F.top - 1) := Nat.pow_le_pow_right (by omega) (by omega)

/-! ## Conversion between formats -/

theorem quiet_add_quiet : F.quiet + F.quiet = 2 ^ F.fraction := by
  obtain ⟨k, hk⟩ := Nat.exists_eq_add_of_lt F.fraction_pos
  rw [quiet, hk, ← Nat.two_mul, ← pow_succ']
  congr 1

variable {F G}

/-- A quiet NaN keeps its payload's leading bits, a signalling one becomes quiet. -/
def quietMagnitude (payload : Nat) : Nat := G.infinity + (payload % G.quiet + G.quiet)

theorem quietMagnitude_lt (payload : Nat) : G.quietMagnitude payload < G.infinity + 2 ^ G.fraction := by
  have hpos : 0 < G.quiet := Nat.two_pow_pos _
  have hmod := Nat.mod_lt payload hpos
  have hquiet := G.quiet_add_quiet
  rw [quietMagnitude]
  omega

/-- A finite magnitude of the format with its sign, or `none` above the largest one. -/
def finite? (negative : Bool) (magnitude : Nat) : Option G.Word :=
  if h : magnitude < G.infinity then some ⟨negative, magnitude, Nat.lt_add_right _ h⟩ else none

variable (G) in
/-- The nearest word of the other format, or `none` when a finite value is too large for it. -/
def Word.convert (x : F.Word) : Option G.Word :=
  if x.magnitude < F.infinity then
    finite? x.negative (G.encode (F.units x.magnitude * 2 ^ (G.unit - F.unit)) (F.unit - G.unit))
  else if x.magnitude = F.infinity then
    some ⟨x.negative, G.infinity, Nat.lt_add_of_pos_right (Nat.two_pow_pos _)⟩
  else
    let payload := (x.magnitude - F.infinity) * 2 ^ (G.fraction - F.fraction) / 2 ^ (F.fraction - G.fraction)
    some ⟨x.negative, G.quietMagnitude payload, G.quietMagnitude_lt payload⟩

variable (G) in
/-- The word nearest to a whole number, or `none` when it is too large. -/
def ofInt (n : Int) : Option G.Word := finite? (decide (n < 0)) (G.encode (n.natAbs * 2 ^ G.unit) 0)

/-- The whole part of a finite word. -/
def Word.truncate (x : F.Word) : Int :=
  let whole : Int := (F.units x.magnitude / 2 ^ F.unit : Nat)
  if x.negative then -whole else whole

/-- The whole number that a word is equal to, if any. -/
def Word.whole? (x : F.Word) : Option Int :=
  if x.magnitude < F.infinity ∧ 2 ^ F.unit ∣ F.units x.magnitude then some x.truncate else none

variable {x : F.Word}

theorem Word.of_whole? {n : Int} (h : x.whole? = some n) :
    x.magnitude < F.infinity ∧ F.units x.magnitude = n.natAbs * 2 ^ F.unit := by
  rw [Word.whole?] at h
  split at h
  · rename_i hwhole
    obtain rfl := Option.some.inj h
    refine ⟨hwhole.1, ?_⟩
    have habs : x.truncate.natAbs = F.units x.magnitude / 2 ^ F.unit := by
      rw [Word.truncate]
      split
      · rw [Int.natAbs_neg, Int.natAbs_natCast]
      · rw [Int.natAbs_natCast]
    rw [habs, Nat.div_mul_cancel hwhole.2]
  · nomatch h

/-- A whole number whose significand fits is equal to its word. -/
theorem whole?_ofInt {n : Int} {t : Nat} {y : G.Word} (hn : n.natAbs = s * 2 ^ t) (hfit : s < 2 ^ (G.fraction + 1))
    (hy : G.ofInt n = some y) : y.whole? = some n := by
  rw [ofInt, finite?] at hy
  split at hy
  · rename_i hfinite
    obtain rfl := Option.some.inj hy
    have hunits : G.units (G.encode (n.natAbs * 2 ^ G.unit) 0) = n.natAbs * 2 ^ G.unit := by
      rw [hn, Nat.mul_assoc, ← pow_add]
      exact G.units_encode _ hfit
    have hwhole : 2 ^ G.unit ∣ G.units (G.encode (n.natAbs * 2 ^ G.unit) 0) := by
      rw [hunits]
      exact Nat.dvd_mul_left _ _
    rw [Word.whole?, if_pos ⟨hfinite, hwhole⟩, Word.truncate]
    dsimp only
    rw [hunits, Nat.mul_div_cancel _ (Nat.two_pow_pos _)]
    split
    · rename_i hneg
      have := of_decide_eq_true hneg
      congr 1
      omega
    · rename_i hnonneg
      have := of_decide_eq_false (Bool.eq_false_iff.mpr hnonneg)
      congr 1
      omega
  · nomatch hy

/-- The format `G` holds every finite value of `F`. -/
structure Narrower (F G : FloatFormat) : Prop where
  fraction_le : F.fraction ≤ G.fraction
  unit_le : F.unit ≤ G.unit
  room : F.fraction + F.top + (G.unit - F.unit) ≤ G.fraction + G.top

/-- Units of the narrower format whose significand fits are finite in the wider one. -/
theorem Narrower.encode_lt (h : Narrower F G) {t : Nat} (hfit : s < 2 ^ (F.fraction + 1))
    (hroom : s * 2 ^ t < 2 ^ (F.fraction + F.top - 1)) :
    G.encode (s * 2 ^ (t + (G.unit - F.unit))) 0 < G.infinity := by
  have htop := F.top_pos
  have hwide : s < 2 ^ (G.fraction + 1) := by
    have := h.fraction_le
    exact hfit.trans_le (Nat.pow_le_pow_right (by omega) (by omega))
  refine G.encode_lt_infinity _ hwide ?_
  calc s * 2 ^ (t + (G.unit - F.unit)) = s * 2 ^ t * 2 ^ (G.unit - F.unit) := by rw [pow_add, Nat.mul_assoc]
    _ < 2 ^ (F.fraction + F.top - 1) * 2 ^ (G.unit - F.unit) := Nat.mul_lt_mul_of_pos_right hroom (Nat.two_pow_pos _)
    _ = 2 ^ (F.fraction + F.top - 1 + (G.unit - F.unit)) := (pow_add ..).symm
    _ ≤ 2 ^ (G.fraction + G.top - 1) := by
        have := h.room
        exact Nat.pow_le_pow_right (by omega) (by omega)

theorem Word.convert_finite (h : x.magnitude < F.infinity) :
    x.convert G =
      finite? x.negative (G.encode (F.units x.magnitude * 2 ^ (G.unit - F.unit)) (F.unit - G.unit)) := by
  rw [Word.convert, if_pos h]

theorem finite?_eq_some {negative : Bool} {magnitude : Nat} (h : magnitude < G.infinity) :
    finite? negative magnitude = some (⟨negative, magnitude, Nat.lt_add_right _ h⟩ : G.Word) := by
  rw [finite?, dif_pos h]

/-- A finite word comes back from a wider format, in which it stands for the same value. -/
theorem Narrower.convert_finite (h : Narrower F G) (hfinite : x.magnitude < F.infinity) :
    ∃ y, x.convert G = some y ∧ y.convert F = some x ∧
      G.units y.magnitude = F.units x.magnitude * 2 ^ (G.unit - F.unit) := by
  have hunit := h.unit_le
  have hfraction := h.fraction_le
  have hdown : F.unit - G.unit = 0 := by omega
  obtain ⟨s, t, hunits, hfit, hroom⟩ := F.units_finite hfinite
  have hscaled : F.units x.magnitude * 2 ^ (G.unit - F.unit) = s * 2 ^ (t + (G.unit - F.unit)) := by
    rw [hunits, Nat.mul_assoc, ← pow_add]
  have hlt := h.encode_lt hfit hroom
  have hwide : s < 2 ^ (G.fraction + 1) := hfit.trans_le (Nat.pow_le_pow_right (by omega) (by omega))
  let y : G.Word := ⟨x.negative, G.encode (s * 2 ^ (t + (G.unit - F.unit))) 0, Nat.lt_add_right _ hlt⟩
  have hsame : G.units y.magnitude = F.units x.magnitude * 2 ^ (G.unit - F.unit) := by
    show G.units (G.encode (s * 2 ^ (t + (G.unit - F.unit))) 0) = _
    rw [G.units_encode _ hwide, hscaled]
  refine ⟨y, ?_, ?_, hsame⟩
  · rw [Word.convert_finite hfinite, hdown, hscaled]
    exact finite?_eq_some hlt
  · have hback : F.encode (G.units y.magnitude * 2 ^ (F.unit - G.unit)) (G.unit - F.unit) = x.magnitude := by
      rw [hdown, pow_zero, Nat.mul_one, hsame, F.encode_units]
    have hfin : y.magnitude < G.infinity := hlt
    rw [Word.convert_finite hfin, hback]
    exact finite?_eq_some hfinite

theorem Word.convert_infinity (h : x.magnitude = F.infinity) :
    x.convert G = some ⟨x.negative, G.infinity, Nat.lt_add_of_pos_right (Nat.two_pow_pos _)⟩ := by
  rw [Word.convert, if_neg h.not_lt, if_pos h]

theorem Word.convert_nan (h : F.infinity < x.magnitude) :
    x.convert G = some ⟨x.negative, _, G.quietMagnitude_lt
      ((x.magnitude - F.infinity) * 2 ^ (G.fraction - F.fraction) / 2 ^ (F.fraction - G.fraction))⟩ := by
  rw [Word.convert, if_neg h.not_gt, if_neg h.ne']

/-- A quiet NaN comes back from a wider format with its payload. -/
theorem Narrower.convert_nan (h : Narrower F G) (hquiet : F.infinity + F.quiet ≤ x.magnitude) :
    ∃ y, x.convert G = some y ∧ y.convert F = some x := by
  have hfraction := h.fraction_le
  have hrange := x.inRange
  have hsum := F.quiet_add_quiet
  have hquietpos : 0 < F.quiet := Nat.two_pow_pos _
  have hpos : 0 < 2 ^ (G.fraction - F.fraction) := Nat.two_pow_pos _
  obtain ⟨p, hp⟩ := Nat.exists_eq_add_of_le hquiet
  have hsmall : p < F.quiet := by omega
  have hcut : F.fraction - G.fraction = 0 := by omega
  have hpayload : x.magnitude - F.infinity = F.quiet + p := by omega
  -- the quiet bit of the wide format is the shifted one
  have hshift : G.quiet = F.quiet * 2 ^ (G.fraction - F.fraction) := by
    have := F.fraction_pos
    rw [quiet, quiet, ← pow_add]
    congr 1
    omega
  have hwide : G.quietMagnitude ((x.magnitude - F.infinity) * 2 ^ (G.fraction - F.fraction) /
      2 ^ (F.fraction - G.fraction)) = G.infinity + (F.quiet + p) * 2 ^ (G.fraction - F.fraction) := by
    have hmod : (F.quiet + p) * 2 ^ (G.fraction - F.fraction) % G.quiet = p * 2 ^ (G.fraction - F.fraction) := by
      rw [hshift, Nat.mul_mod_mul_right, Nat.add_mod_left, Nat.mod_eq_of_lt hsmall]
    rw [quietMagnitude, hcut, pow_zero, Nat.div_one, hpayload, hmod, hshift]
    ring
  let y : G.Word := ⟨x.negative, _, G.quietMagnitude_lt
    ((x.magnitude - F.infinity) * 2 ^ (G.fraction - F.fraction) / 2 ^ (F.fraction - G.fraction))⟩
  have hmagnitude : y.magnitude = G.infinity + (F.quiet + p) * 2 ^ (G.fraction - F.fraction) := hwide
  have hnan : G.infinity < y.magnitude := by
    have : 0 < (F.quiet + p) * 2 ^ (G.fraction - F.fraction) := Nat.mul_pos (by omega) hpos
    omega
  refine ⟨y, Word.convert_nan (by omega), ?_⟩
  rw [Word.convert_nan hnan]
  have hback : F.quietMagnitude ((y.magnitude - G.infinity) * 2 ^ (F.fraction - G.fraction) /
      2 ^ (G.fraction - F.fraction)) = x.magnitude := by
    rw [hmagnitude, Nat.add_sub_cancel_left, hcut, pow_zero, Nat.mul_one, Nat.mul_div_cancel _ hpos, quietMagnitude,
      Nat.add_mod_left, Nat.mod_eq_of_lt hsmall, hp]
    omega
  simp only [hback]
  rfl

/-- A word that is no signalling NaN comes back from a wider format. -/
theorem Narrower.convert_convert (h : Narrower F G) (hquiet : ¬ x.Signalling) :
    ∃ y, x.convert G = some y ∧ y.convert F = some x := by
  rcases Nat.lt_trichotomy x.magnitude F.infinity with hfinite | hinf | hnan
  · obtain ⟨y, hy, hback, -⟩ := h.convert_finite hfinite
    exact ⟨y, hy, hback⟩
  · refine ⟨_, Word.convert_infinity hinf, ?_⟩
    rw [Word.convert_infinity rfl]
    simp only [← hinf]
  · refine h.convert_nan ?_
    by_contra hlow
    exact hquiet ⟨hnan, by omega⟩

/-- No conversion ends with a signalling NaN. -/
theorem Word.not_signalling_convert {y : G.Word} (h : x.convert G = some y) : ¬ y.Signalling := by
  rintro ⟨hnan, hlow⟩
  rcases Nat.lt_trichotomy x.magnitude F.infinity with hfinite | hinf | hnanBefore
  · rw [Word.convert_finite hfinite, finite?] at h
    split at h
    · rename_i hlt
      obtain rfl := Option.some.inj h
      exact Nat.lt_asymm hnan hlt
    · nomatch h
  · rw [Word.convert_infinity hinf] at h
    obtain rfl := Option.some.inj h
    exact lt_irrefl _ hnan
  · rw [Word.convert_nan hnanBefore] at h
    obtain rfl := Option.some.inj h
    change quietMagnitude _ < _ at hlow
    rw [quietMagnitude] at hlow
    omega

/-- A whole number that a word of the narrower format is equal to has a significand that fits it. -/
theorem Narrower.fits_of_whole? (h : Narrower F G) {y : G.Word} {n : Int} (hy : x.convert G = some y)
    (hn : y.whole? = some n) :
    ∃ s t, n.natAbs = s * 2 ^ t ∧ s < 2 ^ (F.fraction + 1) ∧ s * 2 ^ (t + F.unit) < 2 ^ (F.fraction + F.top - 1) := by
  obtain ⟨hfinite, hunits⟩ := Word.of_whole? hn
  rcases Nat.lt_trichotomy x.magnitude F.infinity with hnarrow | hinf | hnan
  · obtain ⟨z, hz, -, hsame⟩ := h.convert_finite hnarrow
    obtain rfl := Option.some.inj (hz.symm.trans hy)
    obtain ⟨s, t, hst, hfit, hroom⟩ := F.units_finite hnarrow
    -- the number in units of the narrower format
    have hvalue : n.natAbs * 2 ^ F.unit = s * 2 ^ t := by
      refine Nat.eq_of_mul_eq_mul_right (Nat.two_pow_pos (G.unit - F.unit)) ?_
      rw [Nat.mul_assoc, ← pow_add, Nat.add_sub_cancel' h.unit_le, ← hunits, hsame, hst]
    rcases Nat.le_total F.unit t with hle | hle
    · obtain ⟨k, rfl⟩ := Nat.exists_eq_add_of_le' hle
      refine ⟨s, k, ?_, hfit, hroom⟩
      rw [pow_add, ← Nat.mul_assoc] at hvalue
      exact Nat.eq_of_mul_eq_mul_right (Nat.two_pow_pos _) hvalue
    · have hsmall : n.natAbs ≤ s := by
        refine Nat.le_of_mul_le_mul_right ?_ (Nat.two_pow_pos F.unit)
        rw [hvalue]
        exact Nat.mul_le_mul_left _ (Nat.pow_le_pow_right (by omega) hle)
      refine ⟨n.natAbs, 0, by rw [pow_zero, Nat.mul_one], hsmall.trans_lt hfit, ?_⟩
      rw [Nat.zero_add, hvalue]
      exact hroom
  · rw [Word.convert_infinity hinf] at hy
    obtain rfl := Option.some.inj hy
    exact absurd hfinite (lt_irrefl _)
  · rw [Word.convert_nan hnan] at hy
    obtain rfl := Option.some.inj hy
    change quietMagnitude _ < _ at hfinite
    rw [quietMagnitude] at hfinite
    omega

/-- Every word has one in a wider format. -/
theorem Narrower.convert_isSome (h : Narrower F G) (x : F.Word) : (x.convert G).isSome := by
  rcases Nat.lt_trichotomy x.magnitude F.infinity with hfinite | hinf | hnan
  · obtain ⟨y, hy, -⟩ := h.convert_finite hfinite
    rw [hy]
    rfl
  · rw [Word.convert_infinity hinf]
    rfl
  · rw [Word.convert_nan hnan]
    rfl

/-- A whole number whose significand fits the narrower format goes through it unchanged. -/
theorem Narrower.ofInt_convert (h : Narrower F G) {n : Int} {t : Nat} (hn : n.natAbs = s * 2 ^ t)
    (hfit : s < 2 ^ (F.fraction + 1)) (hroom : s * 2 ^ (t + F.unit) < 2 ^ (F.fraction + F.top - 1)) :
    ∃ y, G.ofInt n = some y ∧ ∃ x, y.convert F = some x ∧ x.convert G = some y := by
  have hunit := h.unit_le
  have hdown : F.unit - G.unit = 0 := by omega
  have hnarrow : F.encode (n.natAbs * 2 ^ F.unit) 0 < F.infinity := by
    rw [hn, Nat.mul_assoc, ← pow_add]
    exact F.encode_lt_infinity _ hfit hroom
  have hunits : F.units (F.encode (n.natAbs * 2 ^ F.unit) 0) = n.natAbs * 2 ^ F.unit := by
    rw [hn, Nat.mul_assoc, ← pow_add]
    exact F.units_encode _ hfit
  -- the word of the wide format comes from the one of the narrow format
  let x : F.Word := ⟨decide (n < 0), F.encode (n.natAbs * 2 ^ F.unit) 0, Nat.lt_add_right _ hnarrow⟩
  have hscaled : F.units x.magnitude * 2 ^ (G.unit - F.unit) = n.natAbs * 2 ^ G.unit := by
    show F.units (F.encode (n.natAbs * 2 ^ F.unit) 0) * 2 ^ (G.unit - F.unit) = _
    rw [hunits, Nat.mul_assoc, ← pow_add, Nat.add_sub_cancel' hunit]
  have hconvert : x.convert G = G.ofInt n := by
    rw [Word.convert_finite hnarrow, hscaled, hdown, ofInt]
  have hcalm : ¬ x.Signalling := fun hsignalling => Nat.lt_asymm hsignalling.1 hnarrow
  obtain ⟨y, hy, hback⟩ := h.convert_convert hcalm
  exact ⟨y, hconvert ▸ hy, x, hback, hy⟩

/-! ## Bit patterns -/

/-- The bit pattern of a word: the sign bit above the magnitude. -/
def Word.bits (x : F.Word) : Nat := (if x.negative then F.infinity + 2 ^ F.fraction else 0) + x.magnitude

variable (F) in
/-- The word of a bit pattern. -/
def ofBits (bits : Nat) : F.Word :=
  ⟨decide (F.infinity + 2 ^ F.fraction ≤ bits), bits % (F.infinity + 2 ^ F.fraction),
    Nat.mod_lt _ (Nat.add_pos_right _ (Nat.two_pow_pos _))⟩

theorem bits_ofBits {bits : Nat} (h : bits < 2 * (F.infinity + 2 ^ F.fraction)) : (F.ofBits bits).bits = bits := by
  rw [Word.bits, ofBits]
  rcases Nat.lt_or_ge bits (F.infinity + 2 ^ F.fraction) with hlt | hge
  · simp [hlt.not_ge, Nat.mod_eq_of_lt hlt]
  · have hmod : bits % (F.infinity + 2 ^ F.fraction) = bits - (F.infinity + 2 ^ F.fraction) := by
      rw [Nat.mod_eq_sub_mod hge, Nat.mod_eq_of_lt (by omega)]
    simp only [hge, decide_true, if_true, hmod]
    omega

theorem ofBits_bits (x : F.Word) : F.ofBits x.bits = x := by
  obtain ⟨negative, magnitude, hrange⟩ := x
  cases negative with
  | false => simp [ofBits, Word.bits, Nat.mod_eq_of_lt hrange, hrange]
  | true => simp [ofBits, Word.bits, Nat.mod_eq_of_lt hrange]

theorem Word.bits_lt (x : F.Word) : x.bits < 2 * (F.infinity + 2 ^ F.fraction) := by
  have hrange := x.inRange
  rw [Word.bits]
  split <;> omega

end FloatFormat

/-! ## The formats of IEEE 754 -/

/-- Single precision. -/
def binary32 : FloatFormat := ⟨23, 255, 149, by decide, by decide⟩

/-- Double precision. -/
def binary64 : FloatFormat := ⟨52, 2047, 1074, by decide, by decide⟩

theorem binary32_narrower_binary64 : FloatFormat.Narrower binary32 binary64 := ⟨by decide, by decide, by decide⟩

end Library
