import Mathlib.Data.List.Nodup

/-!
# Commanding devices one after the other

A sweep sends every device of a list the state it should take and stops at the first one that raises. A device that
raises may be left in any state. `mem_commanded` says which devices are commanded, and `commanded_iff` and
`reaches_iff` when this includes all devices of interest.
-/

namespace Library

universe u v

variable {ι : Type u} {α : Type v}

/-- What a device does with a command. -/
inductive Response (α : Type v) where
  | accepts
  | raises (left : α)
  deriving DecidableEq

/-- The devices after a sweep, those that took their command, and the one that raised. -/
structure Swept (ι : Type u) (α : Type v) where
  state : ι → α
  commanded : List ι
  raisedBy : Option ι

variable [DecidableEq ι]

/-- Command every device in order. -/
def sweep (desired : ι → α) (response : ι → Response α) : List ι → (ι → α) → Swept ι α
  | [], state => ⟨state, [], none⟩
  | item :: rest, state =>
    match response item with
    | .accepts =>
      let swept := sweep desired response rest (Function.update state item (desired item))
      { swept with commanded := item :: swept.commanded }
    | .raises left => ⟨Function.update state item left, [], some item⟩

variable {desired : ι → α} {response : ι → Response α} {items : List ι} {state : ι → α} {q : ι}

theorem sweep_accepts {item : ι} {rest : List ι} (h : response item = .accepts) :
    sweep desired response (item :: rest) state =
      { sweep desired response rest (Function.update state item (desired item)) with
        commanded := item :: (sweep desired response rest (Function.update state item (desired item))).commanded } := by
  simp only [sweep, h]

theorem sweep_raises {item : ι} {rest : List ι} {left : α} (h : response item = .raises left) :
    sweep desired response (item :: rest) state = ⟨Function.update state item left, [], some item⟩ := by
  simp only [sweep, h]

/-- The devices that take their command are those with none before them that raises. -/
theorem mem_commanded : q ∈ (sweep desired response items state).commanded ↔
    ∃ front rest, items = front ++ q :: rest ∧ (∀ p ∈ front, response p = .accepts) ∧ response q = .accepts := by
  induction items generalizing state with
  | nil =>
    constructor
    · intro h
      nomatch h
    · rintro ⟨front, rest, heq, -⟩
      exact absurd heq.symm (by simp)
  | cons item items ih =>
    cases hresponse : response item with
    | accepts =>
      rw [sweep_accepts hresponse]
      show q ∈ item :: _ ↔ _
      rw [List.mem_cons, ih]
      constructor
      · rintro (rfl | ⟨front, rest, rfl, hfront, hq⟩)
        · exact ⟨[], items, rfl, fun p hp => (nomatch hp), hresponse⟩
        · refine ⟨item :: front, rest, rfl, ?_, hq⟩
          intro p hp
          rcases List.mem_cons.mp hp with rfl | hp
          · exact hresponse
          · exact hfront p hp
      · rintro ⟨front, rest, heq, hfront, hq⟩
        cases front with
        | nil => exact .inl (List.cons.inj heq).1.symm
        | cons p front =>
          obtain ⟨rfl, htail⟩ := List.cons.inj heq
          exact .inr ⟨front, rest, htail, fun p hp => hfront p (List.mem_cons_of_mem _ hp), hq⟩
    | raises left =>
      rw [sweep_raises hresponse]
      constructor
      · intro h
        nomatch h
      · rintro ⟨front, rest, heq, hfront, hq⟩
        -- the first device raises, so it is neither in front of `q` nor `q`
        cases front with
        | nil =>
          obtain ⟨rfl, -⟩ := List.cons.inj heq
          rw [hresponse] at hq
          nomatch hq
        | cons p front =>
          obtain ⟨rfl, -⟩ := List.cons.inj heq
          have hp := hfront _ (List.mem_cons_self ..)
          rw [hresponse] at hp
          nomatch hp

/-- A device that the list does not name keeps its state. -/
theorem sweep_state_of_notMem (h : q ∉ items) : (sweep desired response items state).state q = state q := by
  induction items generalizing state with
  | nil => rfl
  | cons item items ih =>
    obtain ⟨hne, hrest⟩ := List.ne_and_not_mem_of_not_mem_cons h
    cases hresponse : response item with
    | accepts =>
      rw [sweep_accepts hresponse]
      exact (ih hrest).trans (Function.update_of_ne hne _ _)
    | raises left =>
      rw [sweep_raises hresponse]
      exact Function.update_of_ne hne _ _

theorem state_of_commanded (hnodup : items.Nodup) (h : q ∈ (sweep desired response items state).commanded) :
    (sweep desired response items state).state q = desired q := by
  induction items generalizing state with
  | nil => nomatch h
  | cons item items ih =>
    obtain ⟨hnotin, hnodup⟩ := List.nodup_cons.mp hnodup
    cases hresponse : response item with
    | accepts =>
      rw [sweep_accepts hresponse] at h ⊢
      rcases List.mem_cons.mp h with rfl | hq
      · exact (sweep_state_of_notMem hnotin).trans (Function.update_self ..)
      · exact ih hnodup hq
    | raises left =>
      rw [sweep_raises hresponse] at h
      nomatch h

/-- A device that would take its command but is not reached keeps its state. -/
theorem state_of_not_commanded (haccepts : response q = .accepts)
    (h : q ∉ (sweep desired response items state).commanded) :
    (sweep desired response items state).state q = state q := by
  induction items generalizing state with
  | nil => rfl
  | cons item items ih =>
    cases hresponse : response item with
    | accepts =>
      rw [sweep_accepts hresponse] at h ⊢
      obtain ⟨hne, hrest⟩ := List.ne_and_not_mem_of_not_mem_cons h
      exact (ih hrest).trans (Function.update_of_ne hne _ _)
    | raises left =>
      rw [sweep_raises hresponse]
      refine Function.update_of_ne ?_ _ _
      rintro rfl
      rw [haccepts] at hresponse
      nomatch hresponse

/-- A sweep returns when every device takes its command. -/
theorem raisedBy_eq_none : (sweep desired response items state).raisedBy = none ↔ ∀ q ∈ items, response q = .accepts := by
  induction items generalizing state with
  | nil => simp [sweep]
  | cons item items ih =>
    cases hresponse : response item with
    | accepts =>
      rw [sweep_accepts hresponse, List.forall_mem_cons]
      show (sweep desired response items _).raisedBy = none ↔ _
      rw [ih]
      exact (and_iff_right hresponse).symm
    | raises left =>
      rw [sweep_raises hresponse, List.forall_mem_cons, hresponse]
      simp

variable (desired response state) in
/-- All wanted devices take their command exactly when none before them raises. -/
theorem commanded_iff (hnodup : items.Nodup) (Wanted : ι → Prop) (hwanted : ∀ q, Wanted q → response q = .accepts) :
    (∀ q ∈ items, Wanted q → q ∈ (sweep desired response items state).commanded) ↔
      ∀ front q rest, items = front ++ q :: rest → Wanted q → ∀ p ∈ front, response p = .accepts := by
  constructor
  · intro h front q rest heq hq
    have hmem : q ∈ items := by
      rw [heq]
      exact List.mem_append_right _ (List.mem_cons_self ..)
    obtain ⟨front', rest', heq', hfront', -⟩ := mem_commanded.mp (h q hmem hq)
    -- a device stands at one place of the list
    have hnot : q ∉ front ∧ q ∉ rest := by
      rw [heq, List.nodup_middle, List.nodup_cons, List.mem_append, not_or] at hnodup
      exact hnodup.1
    have hsame := ((List.append_cons_inj_of_notMem hnot.1 hnot.2).mp (heq.symm.trans heq')).1
    rw [hsame]
    exact hfront'
  · intro h q hmem hq
    obtain ⟨front, rest, heq⟩ := List.append_of_mem hmem
    exact mem_commanded.mpr ⟨front, rest, heq, h front q rest heq hq, hwanted q hq⟩

theorem state_eq_desired_iff (hnodup : items.Nodup) (haccepts : response q = .accepts) :
    (sweep desired response items state).state q = desired q ↔
      q ∈ (sweep desired response items state).commanded ∨ state q = desired q := by
  by_cases hcommanded : q ∈ (sweep desired response items state).commanded
  · exact iff_of_true (state_of_commanded hnodup hcommanded) (.inl hcommanded)
  · rw [state_of_not_commanded haccepts hcommanded]
    exact (or_iff_right hcommanded).symm

variable (desired response state) in
/-- All wanted devices are in the desired state exactly when none raises before one that was not there already. -/
theorem state_iff (hnodup : items.Nodup) (Wanted : ι → Prop) (hwanted : ∀ q, Wanted q → response q = .accepts) :
    (∀ q ∈ items, Wanted q → (sweep desired response items state).state q = desired q) ↔
      ∀ front q rest, items = front ++ q :: rest → Wanted q → state q ≠ desired q →
        ∀ p ∈ front, response p = .accepts := by
  have hopen := commanded_iff desired response state hnodup (fun q => Wanted q ∧ state q ≠ desired q)
    (fun q hq => hwanted q hq.1)
  constructor
  · intro h front q rest heq hq hne
    refine hopen.mp ?_ front q rest heq ⟨hq, hne⟩
    intro q hmem hq
    exact ((state_eq_desired_iff hnodup (hwanted q hq.1)).mp (h q hmem hq.1)).resolve_right hq.2
  · intro h q hmem hq
    rw [state_eq_desired_iff hnodup (hwanted q hq), or_iff_not_imp_right]
    intro hne
    exact hopen.mpr (fun front q rest heq hq => h front q rest heq hq.1 hq.2) q hmem ⟨hq, hne⟩

end Library
