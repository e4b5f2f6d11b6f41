import Mathlib.Data.List.Pairwise
import Mathlib.Data.List.DropRight
import Mathlib.Order.Lattice

/-!
# Sliding windows

A window holds the times of events, the oldest first. Times below a cutoff leave at the front. As long as the
times do not decrease, what is left are exactly the times from the cutoff on (`prune_eq_filter`), and a later
cutoff does not notice an earlier one (`prune_append`).
-/

namespace Library

universe u

variable {T : Type u} [LinearOrder T]

/-- Remove the times below the cutoff at the front. -/
def prune (cutoff : T) (times : List T) : List T := times.dropWhile fun t => decide (t < cutoff)

/-- Pruning again removes nothing. -/
theorem prune_prune (cutoff : T) (times : List T) : prune cutoff (prune cutoff times) = prune cutoff times :=
  List.dropWhile_idempotent _ _

/-- What is left of a window in order are the times from the cutoff on. -/
theorem prune_eq_filter {times : List T} (hsorted : times.Pairwise (· ≤ ·)) (cutoff : T) :
    prune cutoff times = times.filter fun t => decide (cutoff ≤ t) := by
  unfold prune
  induction times with
  | nil => rfl
  | cons t times ih =>
    rw [List.pairwise_cons] at hsorted
    by_cases hbelow : t < cutoff
    · rw [List.dropWhile_cons_of_pos (by simpa using hbelow), List.filter_cons_of_neg (by simpa using hbelow)]
      exact ih hsorted.2
    · -- the first time that stays keeps all later ones
      rw [List.dropWhile_cons_of_neg (by simpa using hbelow)]
      refine (List.filter_eq_self.mpr fun s hs => ?_).symm
      rcases List.mem_cons.mp hs with rfl | hs
      · exact decide_eq_true (not_lt.mp hbelow)
      · exact decide_eq_true ((not_lt.mp hbelow).trans (hsorted.1 s hs))

/-- A later cutoff does not notice an earlier one, whatever came in between. -/
theorem prune_append {times : List T} {first second : T} (hle : first ≤ second) (new : List T)
    (hsorted : (times ++ new).Pairwise (· ≤ ·)) :
    prune second (prune first times ++ new) = prune second (times ++ new) := by
  have hkept : (prune first times ++ new).Pairwise (· ≤ ·) :=
    hsorted.sublist ((List.dropWhile_sublist _).append (List.Sublist.refl _))
  rw [prune_eq_filter hkept, prune_eq_filter hsorted,
    prune_eq_filter (List.pairwise_append.mp hsorted).1, List.filter_append, List.filter_append,
    List.filter_filter]
  congr 1
  refine List.filter_congr fun t _ => ?_
  rw [Bool.and_eq_left_iff_imp, decide_eq_true_eq, decide_eq_true_eq]
  exact hle.trans

end Library
