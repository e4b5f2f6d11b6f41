import Mathlib.Order.Lattice

/-!
# Slots that keep the stamp of their first value

A slot holds one value with a rank and a stamp. A value of smaller rank takes the slot with its own
stamp; a value of equal rank takes it when its stamp is not below the stamp of the slot, and the slot
keeps the stamp it had. So the slot compares with the first value of a rank, not with the value it
holds, and `foldl_offer_eq_best_iff` says when it still ends with the best value.
-/

namespace Library

universe u v w

variable {α : Type u} {ρ : Type v} {τ : Type w} [LinearOrder ρ] [LinearOrder τ]
  (rank : α → ρ) (stamp : α → τ)

/-- Offer a value to a slot. -/
def offer : Option (α × τ) → α → Option (α × τ)
  | none, a => some (a, stamp a)
  | some held, a =>
    if rank a < rank held.1 then some (a, stamp a)
    else if rank a = rank held.1 ∧ held.2 ≤ stamp a then some (a, held.2)
    else some held

variable {rank stamp}

/-- The best value: of least rank, and of greatest stamp among those. -/
def IsBest (rank : α → ρ) (stamp : α → τ) (as : List α) (best : α) : Prop :=
  best ∈ as ∧ ∀ a ∈ as, rank best < rank a ∨ (rank a = rank best ∧ stamp a ≤ stamp best)

/-- A slot whose value has the least rank ends with the last value that reached its stamp. -/
theorem foldl_offer_of_le (held : α) (t : τ) (as : List α) (hle : ∀ a ∈ as, rank held ≤ rank a) :
    as.foldl (offer rank stamp) (some (held, t)) =
      some (((as.filter fun a => decide (rank a = rank held ∧ t ≤ stamp a)).getLast?).getD held, t) := by
  induction as generalizing held with
  | nil => rfl
  | cons a as ih =>
    have hrest : ∀ b ∈ as, rank held ≤ rank b := fun b hb => hle b (List.mem_cons_of_mem _ hb)
    rw [List.foldl_cons, offer, if_neg (not_lt.mpr (hle a List.mem_cons_self))]
    by_cases htakes : rank a = rank held ∧ t ≤ stamp a
    · have hkept : (a :: as).filter (fun b => decide (rank b = rank held ∧ t ≤ stamp b)) =
          a :: as.filter fun b => decide (rank b = rank held ∧ t ≤ stamp b) :=
        List.filter_cons_of_pos (decide_eq_true htakes)
      rw [if_pos htakes, ih a (by rw [htakes.1]; exact hrest), hkept, List.getLast?_cons, htakes.1]
      rfl
    · rw [if_neg htakes, ih held hrest, List.filter_cons_of_neg (by simpa using htakes)]

/-- Offers of a larger rank than `r` leave no smaller rank in a slot. -/
theorem rank_foldl_offer {r : ρ} (as : List α) (slot : Option (α × τ))
    (hslot : ∀ held ∈ slot, r < rank held.1) (has : ∀ a ∈ as, r < rank a) :
    ∀ held ∈ as.foldl (offer rank stamp) slot, r < rank held.1 := by
  induction as generalizing slot with
  | nil => exact hslot
  | cons a as ih =>
    have ha := has a List.mem_cons_self
    refine ih _ ?_ fun b hb => has b (List.mem_cons_of_mem _ hb)
    intro held hheld
    cases slot with
    | none =>
      obtain rfl := Option.some.inj hheld
      exact ha
    | some old =>
      rw [offer, Option.mem_def] at hheld
      split_ifs at hheld
      · obtain rfl := Option.some.inj hheld
        exact ha
      · obtain rfl := Option.some.inj hheld
        exact ha
      · exact Option.some.inj hheld ▸ hslot old rfl

/-- The first value of the least rank takes the slot with its own stamp. -/
theorem foldl_offer_first {first : α} {earlier later : List α}
    (hearlier : ∀ a ∈ earlier, rank first < rank a) (hlater : ∀ a ∈ later, rank first ≤ rank a) :
    (earlier ++ first :: later).foldl (offer rank stamp) none =
      some (((later.filter fun a =>
        decide (rank a = rank first ∧ stamp first ≤ stamp a)).getLast?).getD first, stamp first) := by
  rw [List.foldl_append, List.foldl_cons]
  have htaken : offer rank stamp (earlier.foldl (offer rank stamp) none) first =
      some (first, stamp first) := by
    cases hslot : earlier.foldl (offer rank stamp) none with
    | none => rfl
    | some held =>
      rw [offer, if_pos (rank_foldl_offer earlier none (by simp) hearlier held hslot)]
  rw [htaken, foldl_offer_of_le first (stamp first) later hlater]

theorem mem_of_foldl_offer (as : List α) (slot : Option (α × τ)) {held : α × τ}
    (hheld : as.foldl (offer rank stamp) slot = some held) : held.1 ∈ as ∨ slot = some held := by
  induction as generalizing slot with
  | nil => exact .inr hheld
  | cons a as ih =>
    rcases ih _ hheld with hmem | hnext
    · exact .inl (List.mem_cons_of_mem _ hmem)
    · cases slot with
      | none => exact .inl (by rw [← Option.some.inj hnext]; exact List.mem_cons_self)
      | some old =>
        rw [offer] at hnext
        split_ifs at hnext
        · exact .inl (by rw [← Option.some.inj hnext]; exact List.mem_cons_self)
        · exact .inl (by rw [← Option.some.inj hnext]; exact List.mem_cons_self)
        · exact .inr hnext

/-- A slot ends with the best of the offered values exactly when no later value of its rank reaches
the stamp of the first value of that rank. -/
theorem foldl_offer_eq_best_iff {before after : List α} {best first : α}
    (hbest : IsBest rank stamp (before ++ best :: after) best)
    (hdistinct : (before ++ best :: after).Pairwise fun a b => rank a = rank b → stamp a ≠ stamp b)
    (hfirst : (before ++ best :: after).find? (fun a => decide (rank a = rank best)) = some first) :
    ((before ++ best :: after).foldl (offer rank stamp) none).map Prod.fst = some best ↔
      ∀ a ∈ after, rank a = rank best → stamp a < stamp first := by
  obtain ⟨hrank, earlier, later, hsplit, hearlier⟩ := List.find?_eq_some_iff_append.mp hfirst
  replace hrank : rank first = rank best := of_decide_eq_true hrank
  have hle : ∀ a ∈ before ++ best :: after, rank first ≤ rank a := by
    intro a ha
    rcases hbest.2 a ha with hlt | ⟨heq, -⟩
    · exact hrank.le.trans hlt.le
    · exact (hrank.trans heq.symm).le
  have hsmaller : ∀ a ∈ earlier, rank first < rank a := by
    intro a ha
    refine lt_of_le_of_ne (hle a (hsplit ▸ List.mem_append_left _ ha)) fun heq => ?_
    have hne := hearlier a ha
    rw [decide_eq_true (heq.symm.trans hrank)] at hne
    exact absurd hne (by decide)
  have hlater : ∀ a ∈ later, rank first ≤ rank a := fun a ha =>
    hle a (hsplit ▸ List.mem_append_right _ (List.mem_cons_of_mem _ ha))
  have hafter : ∀ a ∈ after, rank a = rank best → stamp a < stamp best := by
    intro a ha heq
    have hpair := (List.pairwise_append.mp hdistinct).2.1
    have hne := (List.pairwise_cons.mp hpair).1 a ha heq.symm
    rcases hbest.2 a (List.mem_append_right _ (List.mem_cons_of_mem _ ha)) with hlt | ⟨-, hstamp⟩
    · exact absurd heq hlt.ne'
    · exact lt_of_le_of_ne hstamp hne.symm
  have hslot : (List.foldl (offer rank stamp) none (earlier ++ first :: later)).map Prod.fst = _ :=
    congrArg (Option.map Prod.fst) (foldl_offer_first hsmaller hlater)
  rw [← hsplit, Option.map_some] at hslot
  rw [hslot, Option.some.injEq]
  -- `best` is the first value of its rank, or it comes later
  have hfound : (best = first ∧ after = later) ∨ ∃ between, later = between ++ best :: after := by
    rcases List.append_eq_append_iff.mp hsplit with ⟨rest, hrest, htail⟩ | ⟨rest, -, htail⟩
    · cases rest with
      | nil => exact .inl (List.cons.inj htail)
      | cons a rest =>
        obtain ⟨rfl, -⟩ := List.cons.inj htail
        exact absurd hrank (hsmaller best (by simp [hrest])).ne
    · cases rest with
      | nil => exact .inl ⟨(List.cons.inj htail).1.symm, (List.cons.inj htail).2.symm⟩
      | cons a rest => exact .inr ⟨rest, (List.cons.inj htail).2⟩
  rcases hfound with ⟨rfl, rfl⟩ | ⟨between, rfl⟩
  · refine iff_of_true ?_ hafter
    have hnone : after.filter (fun a => decide (rank a = rank best ∧ stamp best ≤ stamp a)) = [] := by
      refine List.filter_eq_nil_iff.mpr fun a ha => ?_
      simp only [decide_eq_true_eq, not_and]
      exact fun heq => not_le.mpr (hafter a ha heq)
    rw [hnone]
    rfl
  · have hstamp : stamp first ≤ stamp best := by
      rcases hbest.2 first (by simp [hsplit]) with hlt | ⟨-, hle'⟩
      · exact absurd hrank hlt.ne'
      · exact hle'
    rw [List.filter_append, List.filter_cons_of_pos (by simp [hrank, hstamp]), List.getLast?_append,
      List.getLast?_cons, Option.some_or, Option.getD_some]
    constructor
    · intro hlast a ha heq
      by_contra hreach
      have hmem : a ∈ after.filter fun a => decide (rank a = rank first ∧ stamp first ≤ stamp a) :=
        List.mem_filter.mpr ⟨ha, by simp [hrank, heq, not_lt.mp hreach]⟩
      obtain ⟨last, hsome⟩ := Option.isSome_iff_exists.mp
        (List.getLast?_isSome.mpr (List.ne_nil_of_mem hmem))
      rw [hsome, Option.getD_some] at hlast
      subst hlast
      have hin := List.mem_filter.mp (List.mem_of_getLast? hsome)
      exact absurd (hafter last hin.1 rfl) (lt_irrefl _)
    · intro hbelow
      have hnone : after.filter (fun a => decide (rank a = rank first ∧ stamp first ≤ stamp a)) = [] := by
        refine List.filter_eq_nil_iff.mpr fun a ha => ?_
        simp only [decide_eq_true_eq, not_and]
        exact fun heq => not_le.mpr (hbelow a ha (heq.trans hrank))
      rw [hnone]
      rfl

end Library
