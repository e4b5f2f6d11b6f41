import Mathlib.Tactic.Common

/-!
# Caches that are keyed by a revision

A cache holds the answer to the last query, with the revision at which it was computed. A query that meets its own
revision and its own key is answered from the cache. `answers_iff_coherent` says when every query is answered as if
it was computed afresh, `coherent_of_later` that a new revision is always enough, and `coherent_iff_of_silent` what a
change without a new revision may change.
-/

namespace Library

universe u v

/-- The answer to one query, with the revision and the key it was computed for. -/
structure RevisionCache (κ : Type u) (α : Type v) where
  key : Option (Nat × κ)
  value : α

namespace RevisionCache

variable {κ : Type u} {α : Type v} {c : RevisionCache κ α} {revision : Nat} {compute : κ → α}

section

variable [DecidableEq κ]

/-- Answer a query from the cache, or compute the answer and keep it. -/
def query (c : RevisionCache κ α) (revision : Nat) (compute : κ → α) (k : κ) : α × RevisionCache κ α :=
  if c.key = some (revision, k) then (c.value, c) else (compute k, ⟨some (revision, k), compute k⟩)

end

/-- What the cache would answer is what is computed. -/
def Coherent (c : RevisionCache κ α) (revision : Nat) (compute : κ → α) : Prop :=
  ∀ k, c.key = some (revision, k) → c.value = compute k

/-- The cache was filled at this revision or at an earlier one. -/
def Known (c : RevisionCache κ α) (revision : Nat) : Prop := ∀ filled ∈ c.key, filled.1 ≤ revision

theorem Known.mono {later : Nat} (h : c.Known revision) (hle : revision ≤ later) : c.Known later :=
  fun filled hfilled => Nat.le_trans (h filled hfilled) hle

theorem coherent_of_later {later : Nat} (h : c.Known revision) (hlt : revision < later) (compute : κ → α) :
    c.Coherent later compute := by
  intro k hk
  have hle := h (later, k) hk
  exact absurd hlt (Nat.not_lt.mpr hle)

/-- A change without a new revision keeps a coherent cache coherent exactly when it does not change the answer that
is held. -/
theorem coherent_iff_of_silent {compute' : κ → α} (h : c.Coherent revision compute) :
    c.Coherent revision compute' ↔ ∀ k, c.key = some (revision, k) → compute k = compute' k := by
  constructor
  · intro h' k hk
    exact (h k hk).symm.trans (h' k hk)
  · intro hsame k hk
    exact (h k hk).trans (hsame k hk)

variable [DecidableEq κ]

/-- All queries are answered as computed exactly when the cache is coherent. -/
theorem answers_iff_coherent : (∀ k, (c.query revision compute k).1 = compute k) ↔ c.Coherent revision compute := by
  constructor
  · intro h k hk
    have hanswer := h k
    rwa [query, if_pos hk] at hanswer
  · intro h k
    unfold query
    split_ifs with hk
    · exact h k hk
    · rfl

theorem coherent_query (h : c.Coherent revision compute) (k : κ) :
    (c.query revision compute k).2.Coherent revision compute := by
  unfold query
  split_ifs with hk
  · exact h
  · intro j hj
    obtain ⟨-, rfl⟩ := Prod.mk.inj (Option.some.inj hj)
    rfl

theorem known_query (h : c.Known revision) (k : κ) : (c.query revision compute k).2.Known revision := by
  unfold query
  split_ifs with hk
  · exact h
  · intro filled hfilled
    obtain rfl := Option.some.inj hfilled
    exact Nat.le_refl _

end RevisionCache

end Library
