import Mathlib.Data.List.Induction
import Mathlib.Data.List.Sort

/-!
# Keeping the smallest elements

A bounded heap takes one element after the other, and gives up its largest one whenever it holds too many.
`foldl_offerSmallest`: it ends with the smallest elements of all it was offered, whatever the order.
-/

namespace Library

universe u

variable {α : Type u} [LinearOrder α]

/-- Put an element into the heap, which is listed from the smallest on, and give up the largest one beyond `k`. -/
def offerSmallest (k : Nat) (kept : List α) (a : α) : List α :=
  if k < (kept.orderedInsert (· ≤ ·) a).length then (kept.orderedInsert (· ≤ ·) a).dropLast
  else kept.orderedInsert (· ≤ ·) a

theorem offerSmallest_eq_take {k : Nat} {kept : List α} (h : kept.length ≤ k) (a : α) :
    offerSmallest k kept a = (kept.orderedInsert (· ≤ ·) a).take k := by
  have hlength : (kept.orderedInsert (· ≤ ·) a).length = kept.length + 1 := List.orderedInsert_length _ _ _
  unfold offerSmallest
  split_ifs with hfull
  · rw [List.dropLast_eq_take, hlength, show kept.length + 1 - 1 = k by omega]
  · rw [List.take_of_length_le (by omega)]

/-- What is beyond the first `k` elements does not come back. -/
theorem take_orderedInsert_take (k : Nat) (a : α) (l : List α) :
    ((l.take k).orderedInsert (· ≤ ·) a).take k = (l.orderedInsert (· ≤ ·) a).take k := by
  induction l generalizing k with
  | nil => simp
  | cons b l ih =>
    cases k with
    | zero => simp
    | succ k =>
      rw [List.take_succ_cons, List.orderedInsert_cons, List.orderedInsert_cons]
      split_ifs with hle
      · cases k with
        | zero => simp
        | succ k => simp [List.take_take]
      · rw [List.take_succ_cons, List.take_succ_cons, ih]

theorem foldl_offerSmallest (k : Nat) (xs : List α) :
    xs.foldl (offerSmallest k) [] = (xs.insertionSort (· ≤ ·)).take k := by
  induction xs using List.reverseRecOn with
  | nil => simp
  | append_singleton xs a ih =>
    have hperm : ((a :: xs).insertionSort (· ≤ ·)).Perm ((xs ++ [a]).insertionSort (· ≤ ·)) :=
      (List.perm_insertionSort _ _).trans ((List.perm_append_singleton a xs).symm.trans (List.perm_insertionSort _ _).symm)
    rw [List.foldl_append, ih, List.foldl_cons, List.foldl_nil, offerSmallest_eq_take (List.length_take_le _ _),
      take_orderedInsert_take, ← List.insertionSort_cons,
      hperm.eq_of_sortedLE List.sortedLE_insertionSort List.sortedLE_insertionSort]

end Library
