import Mathlib.Order.Lattice

/-!
# One slot for the windows of many keys

A history opens windows, each for a key with a time, and closes windows of keys. A component that keeps
only one window at a time has forgotten the others. `Held` says that its slot stands for every open window
that is not over; `Held.taken` says when opening one more window keeps that, and `Held.passed` does so for
every other event.
-/

namespace Library

universe u v w

variable {ε : Type u} {κ : Type v} {τ : Type w}

/-- The windows of a key that no later event has closed; the newest event stands first. -/
def openWindows (opened : ε → κ → Option τ) (closes : ε → κ → Bool) (k : κ) : List ε → List τ
  | [] => []
  | e :: earlier =>
    (opened e k).toList ++ if closes e k then [] else openWindows opened closes k earlier

variable {opened : ε → κ → Option τ} {closes : ε → κ → Bool}

theorem mem_openWindows_cons {k : κ} {t : τ} {e : ε} {earlier : List ε} :
    t ∈ openWindows opened closes k (e :: earlier) ↔
      opened e k = some t ∨ closes e k = false ∧ t ∈ openWindows opened closes k earlier := by
  rw [openWindows, List.mem_append, Option.mem_toList]
  cases closes e k with
  | true => simp
  | false => simp

variable [LinearOrder τ]

/-- The slot stands for all open windows that are not over, and none of them has a time above the bound. -/
structure Held (opened : ε → κ → Option τ) (closes : ε → κ → Bool) (past : τ → Prop) (bound : τ)
    (history : List ε) (slot : Option (κ × τ)) : Prop where
  bounded : ∀ k, ∀ t ∈ openWindows opened closes k history, t ≤ bound
  stands : ∀ k, ∀ t ∈ openWindows opened closes k history,
    past t ∨ ∃ held, slot = some (k, held) ∧ t ≤ held

namespace Held

variable {past : τ → Prop} {bound : τ} {history : List ε} {slot : Option (κ × τ)}

theorem nil : Held opened closes past bound [] slot where
  bounded := fun _ _ h => nomatch h
  stands := fun _ _ h => nomatch h

section

variable (h : Held opened closes past bound history slot)
include h

/-- Windows that are over stay over. -/
theorem later {past' : τ → Prop} {bound' : τ} (hover : ∀ t, past t → past' t) (hbound : bound ≤ bound') :
    Held opened closes past' bound' history slot where
  bounded := fun k t ht => (h.bounded k t ht).trans hbound
  stands := fun k t ht => (h.stands k t ht).imp_left (hover t)

/-- The slot may give up a window that is over. -/
theorem replace {slot' : Option (κ × τ)} (hover : ∀ s t, s ≤ t → past t → past s)
    (hslot : ∀ k held, slot = some (k, held) → past held ∨ slot' = some (k, held)) :
    Held opened closes past bound history slot' where
  bounded := h.bounded
  stands := by
    intro k t ht
    rcases h.stands k t ht with hdone | ⟨held, hheld, hle⟩
    · exact .inl hdone
    · rcases hslot k held hheld with hdone | hkept
      · exact .inl (hover t held hle hdone)
      · exact .inr ⟨held, hkept, hle⟩

/-- An event that opens no window may only take a window of a key that it closes, or one that is over. -/
theorem passed {e : ε} {slot' : Option (κ × τ)}
    (hover : ∀ s t, s ≤ t → past t → past s) (hopened : ∀ k, opened e k = none)
    (hslot : ∀ k held, slot = some (k, held) →
      closes e k = true ∨ past held ∨ slot' = some (k, held)) :
    Held opened closes past bound (e :: history) slot' := by
  have hopen : ∀ k t, t ∈ openWindows opened closes k (e :: history) →
      closes e k = false ∧ t ∈ openWindows opened closes k history := by
    intro k t ht
    rcases mem_openWindows_cons.mp ht with hnew | hold
    · rw [hopened k] at hnew
      cases hnew
    · exact hold
  refine ⟨fun k t ht => h.bounded k t (hopen k t ht).2, fun k t ht => ?_⟩
  obtain ⟨hclosed, hold⟩ := hopen k t ht
  rcases h.stands k t hold with hdone | ⟨held, hheld, hle⟩
  · exact .inl hdone
  · rcases hslot k held hheld with hcloses | hdone | hkept
    · rw [hcloses] at hclosed
      cases hclosed
    · exact .inl (hover t held hle hdone)
    · exact .inr ⟨held, hkept, hle⟩

/-- A new window takes the slot; the slot must not stand for a running window of another key. -/
theorem taken {e : ε} {k : κ} {time : τ}
    (hover : ∀ s t, s ≤ t → past t → past s) (hopened : ∀ other t, opened e other = some t →
      other = k ∧ t = time) (hbound : bound ≤ time)
    (hslot : ∀ other held, slot = some (other, held) → other = k ∨ past held) :
    Held opened closes past time (e :: history) (some (k, time)) := by
  refine ⟨fun other t ht => ?_, fun other t ht => ?_⟩
  · rcases mem_openWindows_cons.mp ht with hnew | ⟨-, hold⟩
    · exact (hopened other t hnew).2.le
    · exact (h.bounded other t hold).trans hbound
  · rcases mem_openWindows_cons.mp ht with hnew | ⟨-, hold⟩
    · obtain ⟨rfl, rfl⟩ := hopened other t hnew
      exact .inr ⟨t, rfl, le_rfl⟩
    · rcases h.stands other t hold with hdone | ⟨held, hheld, hle⟩
      · exact .inl hdone
      · rcases hslot other held hheld with rfl | hdone
        · exact .inr ⟨time, rfl, (h.bounded other t hold).trans hbound⟩
        · exact .inl (hover t held hle hdone)

end

end Held

end Library
