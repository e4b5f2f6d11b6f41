import Mathlib.Order.Lattice
import Mathlib.Data.List.Basic

/-!
# The newest of stamped values

`newest a b` keeps the value with the larger stamp, and `b` when the stamps agree. `IsNewest`
says what a register holds after it was merged with a list of values in any order.
-/

namespace Library

universe u v

variable {ι : Type u} {α : Type v} [LinearOrder ι]

/-- The newer of two optional stamped values; at equal stamps the second. -/
def newest : Option (ι × α) → Option (ι × α) → Option (ι × α)
  | none, b => b
  | some a, none => some a
  | some a, some b => if a.1 ≤ b.1 then some b else some a

@[simp] theorem none_newest (b : Option (ι × α)) : newest none b = b := rfl

@[simp] theorem newest_none (a : Option (ι × α)) : newest a none = a := by
  cases a <;> rfl

theorem newest_some (a b : ι × α) :
    newest (some a) (some b) = if a.1 ≤ b.1 then some b else some a := rfl

/-- The stamp of the newer value is the larger stamp. -/
theorem map_fst_newest (a b : Option (ι × α)) :
    (newest a b).map Prod.fst = Option.merge max (a.map Prod.fst) (b.map Prod.fst) := by
  cases a with
  | none => cases b <;> rfl
  | some a =>
    cases b with
    | none => rfl
    | some b =>
      rw [newest_some]
      split_ifs with hle
      · simp [Option.merge, max_eq_right hle]
      · simp [Option.merge, max_eq_left (not_le.mp hle).le]

/-- The larger of two optional stamps is one of them. -/
theorem exists_merge_max {a b : Option ι} (h : a.isSome = true ∨ b.isSome = true) :
    ∃ m, Option.merge max a b = some m ∧ (a = some m ∨ b = some m) := by
  cases a with
  | none =>
    obtain ⟨m, rfl⟩ := Option.isSome_iff_exists.mp (h.resolve_left (by simp))
    exact ⟨m, rfl, .inr rfl⟩
  | some x =>
    cases b with
    | none => exact ⟨x, rfl, .inl rfl⟩
    | some y =>
      rcases le_total x y with hle | hle
      · exact ⟨y, by rw [Option.merge_some_some, max_eq_right hle], .inr rfl⟩
      · exact ⟨x, by rw [Option.merge_some_some, max_eq_left hle], .inl rfl⟩

/-- A bound of two optional stamps bounds the larger one. -/
theorem merge_max_le {a b : Option ι} {m bound : ι} (hm : Option.merge max a b = some m)
    (ha : ∀ x, a = some x → x ≤ bound) (hb : ∀ x, b = some x → x ≤ bound) : m ≤ bound := by
  have hsome : a.isSome = true ∨ b.isSome = true := by
    cases a with
    | some x => exact .inl rfl
    | none =>
      cases b with
      | some y => exact .inr rfl
      | none => exact nomatch hm
  obtain ⟨n, hn, hchoice⟩ := exists_merge_max hsome
  obtain rfl := Option.some.inj (hn.symm.trans hm)
  exact hchoice.elim (ha n) (hb n)

/-- `register` holds a value of the largest stamp among `published`, and nothing without values. -/
def IsNewest (register : Option (ι × α)) (published : List (ι × α)) : Prop :=
  match register with
  | none => published = []
  | some m => m ∈ published ∧ ∀ x ∈ published, x.1 ≤ m.1

theorem isNewest_nil : IsNewest (none : Option (ι × α)) [] := rfl

variable {register : Option (ι × α)} {published : List (ι × α)}

section

variable (h : IsNewest register published)
include h

/-- Merging one more optional value keeps the register newest. -/
theorem IsNewest.merge (next : Option (ι × α)) :
    IsNewest (newest register next) (published ++ next.toList) := by
  cases next with
  | none => simpa using h
  | some b =>
    cases register with
    | none =>
      have hempty : published = [] := h
      subst hempty
      exact ⟨by simp, by simp⟩
    | some a =>
      obtain ⟨hmem, hmax⟩ := h
      rw [newest_some]
      split_ifs with hle
      · refine ⟨by simp, fun x hx => ?_⟩
        rcases List.mem_append.mp hx with hold | hnew
        · exact (hmax x hold).trans hle
        · rw [Option.toList_some, List.mem_singleton] at hnew
          exact hnew ▸ le_rfl
      · refine ⟨List.mem_append_left _ hmem, fun x hx => ?_⟩
        rcases List.mem_append.mp hx with hold | hnew
        · exact hmax x hold
        · rw [Option.toList_some, List.mem_singleton] at hnew
          exact hnew ▸ (not_le.mp hle).le

/-- Two registers that are newest for the same values carry the same stamp. -/
theorem IsNewest.stamp_unique {other : Option (ι × α)} (h' : IsNewest other published) :
    register.map Prod.fst = other.map Prod.fst := by
  cases register with
  | none =>
    have hempty : published = [] := h
    subst hempty
    cases other with
    | none => rfl
    | some b => simp [IsNewest] at h'
  | some a =>
    cases other with
    | none =>
      have hempty : published = [] := h'
      subst hempty
      simp [IsNewest] at h
    | some b => exact congrArg some (le_antisymm (h'.2 a h.1) (h.2 b h'.1))

/-- The order in which the values were published does not matter. -/
theorem IsNewest.perm {other : List (ι × α)} (hperm : published.Perm other) : IsNewest register other := by
  cases register with
  | none =>
    have hempty : published = [] := h
    subst hempty
    exact hperm.nil_eq.symm
  | some m =>
    obtain ⟨hmem, hmax⟩ := h
    exact ⟨hperm.mem_iff.mp hmem, fun x hx => hmax x (hperm.mem_iff.mpr hx)⟩

/-- The stamp of a newest register is the largest stamp. -/
theorem IsNewest.map_fst [Std.LawfulOrderMax ι] :
    register.map Prod.fst = (published.map Prod.fst).max? := by
  cases register with
  | none =>
    have hempty : published = [] := h
    subst hempty
    rfl
  | some m =>
    obtain ⟨hmem, hmax⟩ := h
    refine (List.max?_eq_some_iff.mpr ⟨List.mem_map_of_mem hmem, fun stamp hstamp => ?_⟩).symm
    obtain ⟨x, hx, rfl⟩ := List.mem_map.mp hstamp
    exact hmax x hx

end

end Library
