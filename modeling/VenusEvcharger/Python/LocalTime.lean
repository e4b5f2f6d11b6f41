import VenusEvcharger.Python.Value

/-!
# Dates and local times

`date` and the naive `datetime` of Python's library. A date is its proleptic Gregorian ordinal, and a local time
is a date with the microseconds since midnight. What would leave the years 1 to 9999 is an `OverflowError`, here
`none`.
-/

namespace VenusEvcharger

/-- `date.max.toordinal()`. -/
def maxOrdinal : Nat := 3652059

/-- Microseconds of a minute. -/
def minuteMicros : Nat := 60000000

/-- Microseconds of a day. -/
def dayMicros : Nat := 86400000000

/-- A `date`. -/
structure LocalDate where
  ordinal : Nat
  ordinal_pos : 1 ≤ ordinal
  ordinal_le : ordinal ≤ maxOrdinal
deriving DecidableEq

namespace LocalDate

/-- The date of an ordinal. -/
def ofOrdinal (ordinal : Nat) : Option LocalDate :=
  if h : 1 ≤ ordinal ∧ ordinal ≤ maxOrdinal then some ⟨ordinal, h.1, h.2⟩ else none

/-- `self + timedelta(days=1)`. -/
def next (d : LocalDate) : Option LocalDate := ofOrdinal (d.ordinal + 1)

/-- `self - timedelta(days=1)`. -/
def previous (d : LocalDate) : Option LocalDate := ofOrdinal (d.ordinal - 1)

/-- `weekday()`: Monday is zero. -/
def weekday (d : LocalDate) : Nat := (d.ordinal + 6) % 7

/-- The lengths of the months. -/
def monthLengths (leapYear : Bool) : List Nat :=
  [31, if leapYear then 29 else 28, 31, 30, 31, 30, 31, 31, 30, 31, 30, 31]

/-- The month of a day of the year; days and months before the listed ones are counted already. -/
def monthOfDay : List Nat → Nat → Nat → Nat
  | [], month, _ => month
  | length :: later, month, day => if day < length then month else monthOfDay later (month + 1) (day - length)

/-- `month`. -/
def month (d : LocalDate) : Nat :=
  let n := d.ordinal - 1
  -- cycles of 400, 100, 4 and 1 years
  let n400 := n % 146097
  let n100 := n400 / 36524
  let n4 := n400 % 36524 / 1461
  let n1 := n400 % 36524 % 1461 / 365
  if n1 = 4 ∨ n100 = 4 then 12
  else
    let leapYear := decide (n1 = 3 ∧ (n4 ≠ 24 ∨ n100 = 3))
    monthOfDay (monthLengths leapYear) 1 (n400 % 36524 % 1461 % 365)

theorem ofOrdinal_eq_some {ordinal : Nat} {d : LocalDate} (h : ofOrdinal ordinal = some d) : d.ordinal = ordinal := by
  unfold ofOrdinal at h
  split at h
  · rw [← Option.some.inj h]
  · nomatch h

example : ((ofOrdinal 739726).map fun d => (d.month, d.weekday)) = some (4, 0) := by decide

end LocalDate

/-- A naive `datetime`. -/
structure LocalDateTime where
  date : LocalDate
  micros : Nat
  micros_lt : micros < dayMicros

namespace LocalDateTime

/-- The microseconds since the day before the first date, which is what comparisons look at. -/
def instant (t : LocalDateTime) : Nat := t.date.ordinal * dayMicros + t.micros

/-- `hour * 60 + minute`. -/
def minuteOfDay (t : LocalDateTime) : Nat := t.micros / minuteMicros

/-- `self + timedelta(microseconds=delay)`. -/
def add (t : LocalDateTime) (delay : Nat) : Option LocalDateTime :=
  (LocalDate.ofOrdinal ((t.instant + delay) / dayMicros)).map fun date =>
    ⟨date, (t.instant + delay) % dayMicros, Nat.mod_lt _ (by decide)⟩

theorem instant_add {t later : LocalDateTime} {delay : Nat} (h : t.add delay = some later) :
    later.instant = t.instant + delay := by
  obtain ⟨date, hdate, rfl⟩ := Option.map_eq_some_iff.mp h
  show date.ordinal * dayMicros + (t.instant + delay) % dayMicros = t.instant + delay
  rw [LocalDate.ofOrdinal_eq_some hdate, Nat.mul_comm]
  exact Nat.div_add_mod _ _

/-- A time that is not after another one is a time of the calendar. -/
theorem add_isSome_of_le {t later : LocalDateTime} {delay : Nat} (h : t.instant + delay ≤ later.instant) :
    ∃ sum, t.add delay = some sum := by
  have hlow : 1 ≤ (t.instant + delay) / dayMicros := by
    have hpos : dayMicros ≤ t.date.ordinal * dayMicros := Nat.le_mul_of_pos_left _ t.date.ordinal_pos
    exact (Nat.one_le_div_iff (by decide)).mpr (by unfold instant; omega)
  have hhigh : (t.instant + delay) / dayMicros ≤ maxOrdinal := by
    have hlt : t.instant + delay < (later.date.ordinal + 1) * dayMicros := by
      have := later.micros_lt
      unfold instant at h ⊢
      rw [Nat.add_mul]
      omega
    have := (Nat.div_lt_iff_lt_mul (by decide)).mpr hlt
    have := later.date.ordinal_le
    omega
  have hdate : LocalDate.ofOrdinal ((t.instant + delay) / dayMicros) = some ⟨_, hlow, hhigh⟩ := dif_pos ⟨hlow, hhigh⟩
  exact ⟨_, by rw [add, hdate]; rfl⟩

theorem instant_eq (t : LocalDateTime) : t.instant = t.date.ordinal * dayMicros + t.micros := rfl

-- The large factor must not be unfolded in the comparisons of times.
attribute [irreducible] instant

end LocalDateTime

/-- `timedelta(seconds=max(0.0, delay))` in microseconds, rounded half to even. -/
def delayMicros : PyFloat → Option Nat
  | .nan => some 0
  | .negInf => some 0
  | .posInf => none
  | .fin seconds =>
    let micros := max 0 seconds * 1000000
    let floor := micros.floor.toNat
    let rest := micros - floor
    some (if rest < 1 / 2 ∨ rest = 1 / 2 ∧ floor % 2 = 0 then floor else floor + 1)

end VenusEvcharger
