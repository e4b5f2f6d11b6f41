import Mathlib.Algebra.Order.BigOperators.Group.List
import Mathlib.Algebra.Order.Field.Basic
import Mathlib.Data.List.MinMax
import Mathlib.Tactic.Linarith
import Mathlib.Tactic.Ring

/-!
# Statistics that grow by one sample

The mean, the largest and the smallest value of a list, the pairs of neighbours in it, and the values that its elements
contribute: what each of them is after one more element, in terms of what it was before.
-/

namespace Library

universe u v

/-! ## Means -/

section mean

variable {α : Type u} [Field α]

/-- The mean of the values, which no values do not have. -/
def mean (xs : List α) : Option α := if xs.isEmpty then none else some (xs.sum / xs.length)

@[simp] theorem mean_nil : mean ([] : List α) = none := rfl

variable {xs : List α}

theorem mean_of_ne_nil (h : xs ≠ []) : mean xs = some (xs.sum / xs.length) := by
  rw [mean, if_neg]
  rwa [List.isEmpty_iff]

theorem mean_eq_none_iff : mean xs = none ↔ xs = [] := by
  constructor
  · intro h
    by_contra hne
    rw [mean_of_ne_nil hne] at h
    nomatch h
  · intro h
    rw [h, mean_nil]

/-- A mean takes in one more value by its old weight. -/
theorem mean_snoc [CharZero α] {average : α} (h : mean xs = some average) (x : α) :
    mean (xs ++ [x]) = some ((average * xs.length + x) / (xs.length + 1)) := by
  have hne : xs ≠ [] := by
    intro hnil
    rw [hnil, mean_nil] at h
    nomatch h
  have hlength : (xs.length : α) ≠ 0 := by
    rwa [Nat.cast_ne_zero, Ne, List.length_eq_zero_iff]
  rw [mean_of_ne_nil hne] at h
  rw [mean_of_ne_nil (List.append_ne_nil_of_left_ne_nil hne _), ← Option.some.inj h, div_mul_cancel₀ _ hlength]
  simp

theorem mean_singleton (x : α) : mean [x] = some x := by
  rw [mean_of_ne_nil (List.cons_ne_nil _ _)]
  simp

/-- Leaving values out keeps the mean only when none is left out, or when what is left has the same sum. -/
theorem mean_eq_mean_iff [CharZero α] {ys : List α} (hsum : xs.sum = ys.sum) (hlength : xs.length ≤ ys.length) :
    mean xs = mean ys ↔ xs.length = ys.length ∨ xs ≠ [] ∧ ys.sum = 0 := by
  by_cases hxs : xs = []
  · rw [hxs, mean_nil, eq_comm, mean_eq_none_iff]
    simp [eq_comm]
  · have hys : ys ≠ [] := by
      intro hnil
      rw [hnil, List.length_nil, Nat.le_zero, List.length_eq_zero_iff] at hlength
      exact hxs hlength
    have hx0 : (xs.length : α) ≠ 0 := by
      rwa [Nat.cast_ne_zero, Ne, List.length_eq_zero_iff]
    have hy0 : (ys.length : α) ≠ 0 := by
      rwa [Nat.cast_ne_zero, Ne, List.length_eq_zero_iff]
    rw [mean_of_ne_nil hxs, mean_of_ne_nil hys, hsum, Option.some.injEq, div_eq_div_iff hx0 hy0,
      mul_eq_mul_left_iff, Nat.cast_inj]
    simp [hxs, eq_comm]

end mean

/-! ## Weighted means -/

section weighted

variable {α : Type u} [Field α] [LinearOrder α] [IsStrictOrderedRing α]

/-- The value of each pair, weighted by its second component. -/
def weightedSum (xs : List (α × α)) : α := (xs.map fun x => x.2 * x.1).sum

/-- The sum of the weights. -/
def totalWeight (xs : List (α × α)) : α := (xs.map Prod.snd).sum

variable {xs : List (α × α)}

section

variable (hpos : ∀ x ∈ xs, 0 < x.2)
include hpos

theorem totalWeight_nonneg : 0 ≤ totalWeight xs := by
  apply List.sum_nonneg
  intro w hw
  obtain ⟨x, hx, rfl⟩ := List.mem_map.mp hw
  exact (hpos x hx).le

theorem totalWeight_pos (hne : xs ≠ []) : 0 < totalWeight xs := by
  cases xs with
  | nil => exact absurd rfl hne
  | cons x xs =>
    obtain ⟨hx, hxs⟩ := List.forall_mem_cons.mp hpos
    show 0 < x.2 + totalWeight xs
    exact add_pos_of_pos_of_nonneg hx (totalWeight_nonneg hxs)

theorem weightedSum_between {lower upper : α} (hbounds : ∀ x ∈ xs, lower ≤ x.1 ∧ x.1 ≤ upper) :
    lower * totalWeight xs ≤ weightedSum xs ∧ weightedSum xs ≤ upper * totalWeight xs := by
  induction xs with
  | nil => simp [totalWeight, weightedSum]
  | cons x xs ih =>
    obtain ⟨hx, hxs⟩ := List.forall_mem_cons.mp hpos
    obtain ⟨⟨hlower, hupper⟩, hbounds⟩ := List.forall_mem_cons.mp hbounds
    obtain ⟨ihlower, ihupper⟩ := ih hxs hbounds
    show lower * (x.2 + totalWeight xs) ≤ x.2 * x.1 + weightedSum xs ∧
      x.2 * x.1 + weightedSum xs ≤ upper * (x.2 + totalWeight xs)
    have hxlower := mul_le_mul_of_nonneg_left hlower hx.le
    have hxupper := mul_le_mul_of_nonneg_left hupper hx.le
    constructor <;> linarith

/-- A weighted mean lies between the smallest and the largest value. -/
theorem weightedMean_between (hne : xs ≠ []) {lower upper : α}
    (hbounds : ∀ x ∈ xs, lower ≤ x.1 ∧ x.1 ≤ upper) :
    lower ≤ weightedSum xs / totalWeight xs ∧ weightedSum xs / totalWeight xs ≤ upper := by
  have htotal := totalWeight_pos hpos hne
  rw [le_div_iff₀ htotal, div_le_iff₀ htotal]
  exact weightedSum_between hpos hbounds

end

end weighted

/-! ## Bounds -/

section bounds

variable {α : Type u} [LinearOrder α]

theorem max?_snoc (xs : List α) (x : α) : (xs ++ [x]).max? = some (xs.max?.elim x (max · x)) := by
  cases xs with
  | nil => rfl
  | cons y xs =>
    rw [List.cons_append, List.max?_cons', List.max?_cons', List.foldl_append]
    rfl

theorem min?_snoc (xs : List α) (x : α) : (xs ++ [x]).min? = some (xs.min?.elim x (min · x)) := by
  cases xs with
  | nil => rfl
  | cons y xs =>
    rw [List.cons_append, List.min?_cons', List.min?_cons', List.foldl_append]
    rfl

end bounds

/-! ## Neighbours and contributions -/

section lists

variable {α : Type u} {β : Type v}

/-- The pairs of neighbours, in order. -/
def neighbours : List α → List (α × α)
  | a :: b :: rest => (a, b) :: neighbours (b :: rest)
  | _ => []

theorem neighbours_snoc (xs : List α) (x : α) :
    neighbours (xs ++ [x]) = neighbours xs ++ (xs.getLast?.map (·, x)).toList := by
  match xs with
  | [] => rfl
  | [a] => rfl
  | a :: b :: rest =>
    have ih := neighbours_snoc (b :: rest) x
    show (a, b) :: neighbours (b :: rest ++ [x]) = (a, b) :: (neighbours (b :: rest) ++ _)
    rw [ih, List.getLast?_cons_cons]

theorem filterMap_snoc (f : α → Option β) (xs : List α) (x : α) :
    (xs ++ [x]).filterMap f = xs.filterMap f ++ (f x).toList := by
  rw [List.filterMap_append]
  cases h : f x <;> simp [h]

theorem countP_snoc (p : α → Bool) (xs : List α) (x : α) :
    (xs ++ [x]).countP p = xs.countP p + if p x then 1 else 0 := by
  rw [List.countP_append, List.countP_singleton]

/-- Contributing at fewer elements, one value each, gives no more values, and as many only when no element that
contributed is left out. -/
theorem length_filterMap_le {f g : α → Option β} (h : ∀ a b, f a = some b → g a = some b) (xs : List α) :
    (xs.filterMap f).length ≤ (xs.filterMap g).length ∧
      ((xs.filterMap f).length = (xs.filterMap g).length ↔ ∀ a ∈ xs, (g a).isSome → (f a).isSome) := by
  induction xs with
  | nil => simp
  | cons a xs ih =>
    obtain ⟨hle, hiff⟩ := ih
    rw [List.forall_mem_cons, ← hiff]
    cases hf : f a with
    | some b =>
      rw [List.filterMap_cons_some hf, List.filterMap_cons_some (h a b hf), List.length_cons, List.length_cons]
      constructor
      · omega
      · simp
    | none =>
      rw [List.filterMap_cons_none hf]
      cases hg : g a with
      | none =>
        rw [List.filterMap_cons_none hg]
        exact ⟨hle, by simp⟩
      | some b =>
        rw [List.filterMap_cons_some hg, List.length_cons]
        constructor
        · omega
        · simp
          omega

/-- Every element together with those before it. -/
def histories : List α → List α → List (List α × α)
  | _, [] => []
  | before, x :: xs => (before, x) :: histories (before ++ [x]) xs

theorem histories_snoc (before xs : List α) (x : α) :
    histories before (xs ++ [x]) = histories before xs ++ [(before ++ xs, x)] := by
  induction xs generalizing before with
  | nil => simp [histories]
  | cons y xs ih =>
    show (before, y) :: histories (before ++ [y]) (xs ++ [x]) = _
    rw [ih, List.append_assoc]
    rfl

end lists

end Library
