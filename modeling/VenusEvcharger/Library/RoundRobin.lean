import Mathlib.Data.Nat.ModEq

/-!
# Round robin

A cursor goes round the places `0, …, n - 1` and serves the first one that is ready. `turnsUntil` counts the places in
front of a place; it falls whenever another place is served (`turnsUntil_next_lt`), so that a place that stays ready is
served after at most `n` rounds.
-/

namespace Library

variable {n cursor place served : Nat} {ready : Nat → Bool}

/-- The first place that is ready, from the cursor on and round. -/
def nextFrom (n cursor : Nat) (ready : Nat → Bool) : Option Nat :=
  ((List.range n).map fun offset => (cursor + offset) % n).find? ready

/-- How many places stand in front of a place, from the cursor on and round. -/
def turnsUntil (n cursor place : Nat) : Nat := (place + (n - cursor % n)) % n

theorem turnsUntil_lt (hplace : place < n) : turnsUntil n cursor place < n := Nat.mod_lt _ (by omega)

theorem add_turnsUntil (hplace : place < n) : (cursor + turnsUntil n cursor place) % n = place := by
  have hdiv := Nat.div_add_mod cursor n
  have hmod : cursor % n < n := Nat.mod_lt _ (by omega)
  have hround : cursor + (place + (n - cursor % n)) = place + n + n * (cursor / n) := by omega
  rw [turnsUntil, Nat.add_mod_mod, hround, Nat.add_mul_mod_self_left, Nat.add_mod_right, Nat.mod_eq_of_lt hplace]

theorem turnsUntil_eq {offset : Nat} (hoffset : offset < n) (h : (cursor + offset) % n = place) :
    turnsUntil n cursor place = offset := by
  have hplace : place < n := h ▸ Nat.mod_lt _ (by omega)
  have hmod : cursor + turnsUntil n cursor place ≡ cursor + offset [MOD n] := (add_turnsUntil hplace).trans h.symm
  exact (Nat.ModEq.add_left_cancel' cursor hmod).eq_of_lt_of_lt (turnsUntil_lt hplace) hoffset

theorem nextFrom_eq_some (h : nextFrom n cursor ready = some served) :
    served < n ∧ ready served = true ∧
      ∀ place < n, ready place = true → turnsUntil n cursor served ≤ turnsUntil n cursor place := by
  obtain ⟨hready, offset, hoffset, hserved, hfirst⟩ := List.find?_eq_some_iff_getElem.mp h
  rw [List.length_map, List.length_range] at hoffset
  rw [List.getElem_map, List.getElem_range] at hserved
  refine ⟨hserved ▸ Nat.mod_lt _ (by omega), hready, fun place hplace hother => ?_⟩
  rw [turnsUntil_eq hoffset hserved]
  by_contra hlt
  have hnot := hfirst (turnsUntil n cursor place) (by omega)
  rw [List.getElem_map, List.getElem_range, add_turnsUntil hplace, hother] at hnot
  nomatch hnot

theorem nextFrom_isSome (hplace : place < n) (hready : ready place = true) :
    (nextFrom n cursor ready).isSome = true := by
  refine List.find?_isSome.mpr ⟨place, List.mem_map.mpr ⟨turnsUntil n cursor place, ?_, add_turnsUntil hplace⟩, hready⟩
  exact List.mem_range.mpr (turnsUntil_lt hplace)

/-- When a place in front is served, a place comes nearer. -/
theorem turnsUntil_next_lt (hserved : served < n) (hplace : place < n) (hne : served ≠ place)
    (hfront : turnsUntil n cursor served ≤ turnsUntil n cursor place) :
    turnsUntil n ((served + 1) % n) place < turnsUntil n cursor place := by
  have hservedTurn : (cursor + turnsUntil n cursor served) % n = served := add_turnsUntil hserved
  have hplaceTurn : (cursor + turnsUntil n cursor place) % n = place := add_turnsUntil hplace
  have hlt : turnsUntil n cursor served < turnsUntil n cursor place := by
    refine lt_of_le_of_ne hfront fun heq => hne ?_
    rw [← hservedTurn, ← hplaceTurn, heq]
  have hplaceLt : turnsUntil n cursor place < n := turnsUntil_lt hplace
  -- what is left of the way after the place that was served
  have hrest : ((served + 1) % n + (turnsUntil n cursor place - turnsUntil n cursor served - 1)) % n = place := by
    generalize turnsUntil n cursor served = front at *
    rw [Nat.mod_add_mod, ← hservedTurn, Nat.add_assoc, Nat.mod_add_mod]
    rw [show cursor + front + (1 + (turnsUntil n cursor place - front - 1)) = cursor + turnsUntil n cursor place by omega]
    exact hplaceTurn
  rw [turnsUntil_eq (by omega) hrest]
  omega

end Library
