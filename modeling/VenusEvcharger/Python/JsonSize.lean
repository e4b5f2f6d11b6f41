import VenusEvcharger.Python.Value
import Mathlib.Algebra.Order.BigOperators.Group.Finset

/-!
# The size of JSON objects

The text of an object grows with each of its entries, in whatever order they stand. So an object is not
longer than another one when no key has a longer entry in it.
-/

namespace VenusEvcharger

open Library

variable [PyLib]

/-- What an entry adds to the text of an object, with its colon and a comma. -/
def entrySize (key : String) : Option Value → Nat
  | none => 0
  | some value => jsonStringSize key + jsonSize value + 2

theorem jsonEntriesSize_add_length (es : List (String × Value)) :
    jsonEntriesSize es + es.length = (es.map fun e => entrySize e.1 (some e.2)).sum := by
  induction es with
  | nil => rfl
  | cons e es ih =>
    obtain ⟨k, v⟩ := e
    rw [jsonEntriesSize, List.length_cons, List.map_cons, List.sum_cons, ← ih]
    show _ = jsonStringSize k + jsonSize v + 2 + _
    omega

/-- The text of an object that has entries is their text, without the last comma, in braces. -/
theorem jsonSize_obj {es : List (String × Value)} (hes : es ≠ []) :
    jsonSize (.obj es) = 1 + (es.map fun e => entrySize e.1 (some e.2)).sum := by
  have hpos : 0 < es.length := List.length_pos_iff.mpr hes
  rw [← jsonEntriesSize_add_length, jsonSize]
  omega

/-- The entries of a dictionary, summed over any keys that cover it. -/
theorem sum_entrySize (d : Dict String Value) {ks : Finset String} (hks : ∀ k ∈ d.keys, k ∈ ks) :
    (d.entries.map fun e => entrySize e.1 (some e.2)).sum = ∑ k ∈ ks, entrySize k (d.get? k) := by
  have hkeys : d.entries.map (fun e => entrySize e.1 (some e.2)) =
      d.keys.map fun k => entrySize k (d.get? k) := by
    rw [Dict.keys, List.map_map]
    refine List.map_congr_left fun e he => ?_
    rw [Function.comp_apply, Dict.mem_entries_iff.mp he]
  have hown : ∑ k ∈ d.keys.toFinset, entrySize k (d.get? k) = ∑ k ∈ ks, entrySize k (d.get? k) := by
    refine Finset.sum_subset (fun k hk => hks k (List.mem_toFinset.mp hk)) fun k _ hk => ?_
    rw [Dict.get?_eq_none_iff.mpr fun hmem => hk (List.mem_toFinset.mpr hmem)]
    rfl
  rw [hkeys, ← hown]
  exact (List.sum_toFinset _ d.nodup).symm

/-- An object is not longer than another one in which no key has a shorter entry. -/
theorem jsonSize_obj_le {d other : Dict String Value}
    (hle : ∀ k, entrySize k (d.get? k) ≤ entrySize k (other.get? k)) :
    jsonSize (.obj d.entries) ≤ jsonSize (.obj other.entries) := by
  have hsum : (d.entries.map fun e => entrySize e.1 (some e.2)).sum ≤
      (other.entries.map fun e => entrySize e.1 (some e.2)).sum := by
    have hcover : ∀ k ∈ d.keys, k ∈ d.keys.toFinset ∪ other.keys.toFinset := by simp +contextual
    have hcoverOther : ∀ k ∈ other.keys, k ∈ d.keys.toFinset ∪ other.keys.toFinset := by simp +contextual
    rw [sum_entrySize d hcover, sum_entrySize other hcoverOther]
    exact Finset.sum_le_sum fun k _ => hle k
  by_cases hd : d.entries = []
  · rw [hd]
    show 2 ≤ jsonSize (.obj other.entries)
    rw [jsonSize]
    omega
  · by_cases hother : other.entries = []
    · -- an entry would be longer than none
      rw [hother, List.map_nil, List.sum_nil] at hsum
      obtain ⟨e, es, hes⟩ := List.exists_cons_of_ne_nil hd
      rw [hes, List.map_cons, List.sum_cons, entrySize] at hsum
      omega
    · rw [jsonSize_obj hd, jsonSize_obj hother]
      omega

theorem entrySize_mono {key : String} {value other : Value} (hle : jsonSize value ≤ jsonSize other) :
    entrySize key (some value) ≤ entrySize key (some other) := by
  show jsonStringSize key + jsonSize value + 2 ≤ jsonStringSize key + jsonSize other + 2
  omega

theorem jsonSize_int (n : Nat) : jsonSize (.int n) = n.repr.length := by
  rw [jsonSize]
  rfl

/-- A larger number has no shorter text. -/
theorem jsonSize_int_le {m n : Nat} (hle : m ≤ n) : jsonSize (.int m) ≤ jsonSize (.int n) := by
  rw [jsonSize_int, jsonSize_int, Nat.length_repr_le_iff Nat.length_repr_pos]
  exact Nat.lt_of_le_of_lt hle ((Nat.length_repr_le_iff Nat.length_repr_pos).mp (Nat.le_refl _))

end VenusEvcharger
