import Mathlib.Data.List.TakeWhile

/-!
# Streaks

A counter that is increased while a condition holds and set back when it fails counts the length of the
current streak. `le_streak_iff` says that a streak has reached a length exactly when the condition has held
for as many of the last events.
-/

namespace Library

variable {α : Type*} {p : α → Bool}

/-- How many of the last events satisfy `p` without a break; the history has its newest event first. -/
def streak (p : α → Bool) (history : List α) : Nat := (history.takeWhile p).length

/-- `p` holds of the last `n` events, and there are as many. -/
def HeldForLast (p : α → Bool) (n : Nat) (history : List α) : Prop :=
  n ≤ history.length ∧ ∀ x ∈ history.take n, p x = true

instance (n : Nat) (history : List α) : Decidable (HeldForLast p n history) :=
  inferInstanceAs (Decidable (_ ∧ _))

/-- What has held for a while holds of the last event. -/
theorem HeldForLast.head {n : Nat} {x : α} {history : List α} (h : HeldForLast p n (x :: history))
    (hpos : 1 ≤ n) : p x = true := by
  cases n with
  | zero => omega
  | succ n => exact h.2 x (by simp)

@[simp] theorem streak_nil : streak p [] = 0 := rfl

theorem streak_cons (x : α) (history : List α) :
    streak p (x :: history) = if p x then streak p history + 1 else 0 := by
  unfold streak
  rw [List.takeWhile_cons]
  split <;> rfl

/-- A streak of length `n` covers the last `n` events. -/
theorem le_streak_iff {n : Nat} {history : List α} :
    n ≤ streak p history ↔ HeldForLast p n history := by
  unfold HeldForLast
  induction history generalizing n with
  | nil => simp
  | cons x history ih =>
    cases n with
    | zero => simp
    | succ n =>
      rw [streak_cons, List.length_cons, Nat.add_le_add_iff_right, List.take_succ_cons, List.forall_mem_cons]
      cases hx : p x with
      | true => simpa using ih
      | false => simp

end Library
