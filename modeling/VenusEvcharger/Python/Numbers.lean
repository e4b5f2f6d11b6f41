import VenusEvcharger.Library.Returns
import VenusEvcharger.Python.Texts

/-!
# Python's number conversions

`int(value)` and `float(value)` on JSON values, with the exceptions they raise, and the conversions of
`core/contracts_basic.py` that catch some of them. An infinite float has no integer, and an integer beyond the float
range has no float: both raise `OverflowError`, which none of these conversions catches.

Scope: a finite float is the rational it denotes. The rounding of an integer to a float is left out, but not the range
of floats.
-/

namespace VenusEvcharger

open Library

/-- The exceptions of conversions, of the JSON decoder and of the configuration parser. -/
inductive PyError where
  | typeError
  | valueError
  | overflowError
  | recursionError
  | interpolationError
deriving DecidableEq

/-- `sys.int_info.default_max_str_digits`. -/
def maxStrDigits : Nat := 4300

/-- The parts of the interpreter that the persistence code relies on. -/
class PyRuntime extends PyLib where
  /-- `int` of a string, `none` when it raises `ValueError`. -/
  parseInt : String → Option Int
  /-- Longer numerals are refused. -/
  parseInt_lt : ∀ text i, parseInt text = some i → i.natAbs < 10 ^ maxStrDigits
  /-- How deeply JSON containers may be nested before `RecursionError`. -/
  nestingLimit : Nat

/-- A library whose numerals are not needed. -/
@[reducible] def PyRuntime.withoutNumerals : PyRuntime where
  toPyLib := PyLib.sample
  parseInt := fun _ => none
  parseInt_lt := fun _ _ h => nomatch h
  nestingLimit := 3

/-- The least integer that rounds beyond the largest float. -/
def floatOverflow : Nat := 2 ^ 1024 - 2 ^ 970

/-- A float literal: beyond the float range it reads as an infinity. -/
def PyFloat.ofRat (q : ℚ) : PyFloat :=
  if (floatOverflow : ℚ) ≤ q then .posInf else if q ≤ -(floatOverflow : ℚ) then .negInf else .fin q

namespace Value

variable [PyRuntime]

/-- `int(value)`. A float loses its fraction. -/
def toInt : Value → Except PyError Int
  | bool b => .ok (if b then 1 else 0)
  | int i => .ok i
  | float (.fin q) => .ok (q.num.tdiv q.den)
  | float .nan => .error .valueError
  | float _ => .error .overflowError
  | str s => match PyRuntime.parseInt s with
    | some i => .ok i
    | none => .error .valueError
  | null | list _ | obj _ => .error .typeError

/-- `float(value)`. -/
def toFloat : Value → Except PyError PyFloat
  | bool b => .ok (.fin (if b then 1 else 0))
  | int i => if i.natAbs < floatOverflow then .ok (.fin i) else .error .overflowError
  | float x => .ok x
  | str s => match PyLib.parseFloat s with
    | some x => .ok x
    | none => .error .valueError
  | null | list _ | obj _ => .error .typeError

omit [PyRuntime] in
/-- The value is no infinite float. -/
def HasInt (v : Value) : Prop := v ≠ float .posInf ∧ v ≠ float .negInf

omit [PyRuntime] in
/-- The value is no integer beyond the float range. -/
def HasFloat : Value → Prop
  | int i => i.natAbs < floatOverflow
  | _ => True

instance (v : Value) : Decidable v.HasInt := inferInstanceAs (Decidable (_ ∧ _))

instance (v : Value) : Decidable v.HasFloat :=
  match v with
  | int i => inferInstanceAs (Decidable (i.natAbs < floatOverflow))
  | null | bool _ | float _ | str _ | list _ | obj _ => isTrue trivial

end Value

/-- `except (TypeError, ValueError)`. -/
def typeOrValueError : PyError → Bool
  | .typeError | .valueError => true
  | _ => false

variable [PyRuntime]

/-- `int` overflows on the infinities only. -/
theorem Value.toInt_caught_iff (v : Value) :
    (∀ error, v.toInt = .error error → typeOrValueError error = true) ↔ v.HasInt := by
  unfold HasInt
  cases v with
  | float x => cases x <;> simp [toInt, typeOrValueError]
  | str s => cases h : PyRuntime.parseInt s <;> simp [toInt, h, typeOrValueError]
  | null | bool b | int i | list vs | obj es => simp [toInt, typeOrValueError]

/-- `float` overflows on the large integers only. -/
theorem Value.toFloat_caught_iff (v : Value) :
    (∀ error, v.toFloat = .error error → typeOrValueError error = true) ↔ v.HasFloat := by
  cases v with
  | int i =>
    by_cases h : i.natAbs < floatOverflow
    · simp [toFloat, HasFloat, h]
    · simp [toFloat, HasFloat, h, typeOrValueError]
  | str s => cases h : PyLib.parseFloat s <;> simp [toFloat, h, typeOrValueError, HasFloat]
  | null | bool b | float x | list vs | obj es => simp [toFloat, typeOrValueError, HasFloat]

/-! ## `core/contracts_basic.py` -/

/-- `finite_float_or_none`. -/
def finiteFloatOrNone : Value → Except PyError (Option ℚ)
  | .null | .bool _ => .ok none
  | v => (fun
      | some (.fin q) => some q
      | _ => none) <$> recover typeOrValueError none (some <$> v.toFloat)

/-- `non_negative_float_or_none`. -/
def nonNegativeFloatOrNone (v : Value) : Except PyError (Option ℚ) :=
  (fun normalized => normalized.filter fun q => decide (0 ≤ q)) <$> finiteFloatOrNone v

/-- `non_negative_int`. -/
def nonNegativeInt (v : Value) (default : Nat := 0) : Except PyError Nat :=
  match v with
  | .bool _ => .ok default
  | v => recover typeOrValueError default (Int.toNat <$> v.toInt)

omit [PyRuntime] in
theorem returns_recover_map {α β : Type} {f : α → β} {default : β} {r : Except PyError α} :
    Returns (recover typeOrValueError default (f <$> r)) ↔
      ∀ error, r = .error error → typeOrValueError error = true := by
  rw [returns_recover]
  cases r <;> simp

@[simp] theorem returns_finiteFloatOrNone (v : Value) : Returns (finiteFloatOrNone v) ↔ v.HasFloat := by
  have h := @returns_recover_map _ _ some none v.toFloat
  rw [v.toFloat_caught_iff] at h
  cases v with
  | null | bool b => exact iff_of_true ⟨none, rfl⟩ trivial
  | int i | float x | str s | list vs | obj es => exact returns_map.trans h

@[simp] theorem returns_nonNegativeFloatOrNone (v : Value) : Returns (nonNegativeFloatOrNone v) ↔ v.HasFloat := by
  simp [nonNegativeFloatOrNone]

@[simp] theorem returns_nonNegativeInt (v : Value) (default : Nat) :
    Returns (nonNegativeInt v default) ↔ v.HasInt := by
  have h := @returns_recover_map _ _ Int.toNat default v.toInt
  rw [v.toInt_caught_iff] at h
  cases v with
  | bool b => exact iff_of_true ⟨default, rfl⟩ ⟨nofun, nofun⟩
  | null | int i | float x | str s | list vs | obj es => exact h

end VenusEvcharger
