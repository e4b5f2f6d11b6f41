import VenusEvcharger.Python.Value
import Mathlib.Data.List.DropRight

/-!
# Stripped texts

`strip` leaves exactly the texts without blanks at either end as they are, and `lower` makes no character that is no letter.
-/

namespace VenusEvcharger

/-- Neither the first nor the last character is a blank. -/
def Trimmed (s : String) : Prop :=
  (∀ c ∈ s.toList.head?, ¬isSpace c) ∧ ∀ c ∈ s.toList.getLast?, ¬isSpace c

instance (s : String) : Decidable (Trimmed s) := inferInstanceAs (Decidable (_ ∧ _))

theorem toList_strip (s : String) : (strip s).toList = (s.toList.dropWhile isSpace).rdropWhile isSpace := by
  rw [strip, String.toList_ofList, List.rdropWhile]

/-- A stripped text has no blank at its ends. -/
theorem trimmed_strip (s : String) : Trimmed (strip s) := by
  have hlast : ∀ c ∈ (strip s).toList.getLast?, ¬isSpace c := by
    intro c hc
    rw [toList_strip] at hc
    have hne : (s.toList.dropWhile isSpace).rdropWhile isSpace ≠ [] := by
      intro h
      simp [h] at hc
    rw [List.getLast?_eq_some_getLast hne, Option.mem_some_iff] at hc
    exact hc ▸ List.rdropWhile_last_not _ _ hne
  refine ⟨fun c hc => ?_, hlast⟩
  -- the first character that is kept is the first one that `dropWhile` stops at
  rw [toList_strip] at hc
  obtain ⟨rest, hrest⟩ := List.rdropWhile_prefix isSpace (s.toList.dropWhile isSpace)
  cases hkept : (s.toList.dropWhile isSpace).rdropWhile isSpace with
  | nil => simp [hkept] at hc
  | cons first kept =>
    obtain rfl : first = c := by simpa [hkept] using hc
    rw [hkept, List.cons_append] at hrest
    have hhead := List.head_dropWhile_not isSpace (l := s.toList) (by simp [← hrest])
    simpa [← hrest] using hhead

theorem strip_eq_self_iff {s : String} : strip s = s ↔ Trimmed s := by
  refine ⟨fun h => h ▸ trimmed_strip s, fun ⟨hfirst, hlast⟩ => ?_⟩
  apply String.toList_injective
  rw [toList_strip]
  have hleft : s.toList.dropWhile isSpace = s.toList := by
    cases hs : s.toList with
    | nil => rfl
    | cons c cs => exact List.dropWhile_cons_of_neg (hfirst c (by simp [hs]))
  rw [hleft, List.rdropWhile_eq_self_iff]
  exact fun hne => hlast _ (by simp [List.getLast?_eq_some_getLast hne])

@[simp] theorem strip_strip (s : String) : strip (strip s) = strip s := strip_eq_self_iff.mpr (trimmed_strip s)

/-- Blanks around a stripped text are stripped. -/
theorem strip_padded {before after : List Char} {s : String} (hbefore : ∀ c ∈ before, isSpace c)
    (hafter : ∀ c ∈ after, isSpace c) (hs : Trimmed s) : strip (String.ofList (before ++ s.toList ++ after)) = s := by
  apply String.toList_injective
  rw [toList_strip, String.toList_ofList, List.append_assoc, List.dropWhile_append_of_pos hbefore, List.rdropWhile]
  cases hchars : s.toList with
  | nil => rw [List.nil_append, List.dropWhile_eq_nil_iff.mpr hafter]; rfl
  | cons c cs =>
    have hfirst : ¬isSpace c = true := hs.1 c (by simp [hchars])
    have hself : (c :: cs).rdropWhile isSpace = c :: cs := by
      rw [List.rdropWhile_eq_self_iff]
      intro hne
      exact hs.2 _ (by rw [hchars, List.getLast?_eq_some_getLast hne]; rfl)
    have hrev : ∀ c ∈ after.reverse, isSpace c := by simpa using hafter
    rw [List.cons_append, List.dropWhile_cons_of_neg hfirst, ← List.cons_append, List.reverse_append,
      List.dropWhile_append_of_pos hrev]
    exact hself

/-- A character that is no small letter is no lowered letter. -/
theorem eq_of_toLower_eq {c d : Char} (h : c.toLower = d) (hd : d.toNat < 97 ∨ 122 < d.toNat) : c = d := by
  by_cases hupper : c.val ≥ 'A'.val ∧ c.val ≤ 'Z'.val
  · rw [show c.toLower = _ from dif_pos hupper] at h
    subst h
    have hlow : 65 ≤ c.val.toNat := hupper.1
    have hhigh : c.val.toNat ≤ 90 := hupper.2
    have hsum : (c.val + ('a'.val - 'A'.val)).toNat = c.val.toNat + 32 := by
      rw [UInt32.toNat_add]
      show (c.val.toNat + 32) % 2 ^ 32 = _
      omega
    have hnat : (c.val + ('a'.val - 'A'.val)).toNat < 97 ∨ 122 < (c.val + ('a'.val - 'A'.val)).toNat := hd
    omega
  · rwa [show c.toLower = c from dif_neg hupper] at h

end VenusEvcharger
