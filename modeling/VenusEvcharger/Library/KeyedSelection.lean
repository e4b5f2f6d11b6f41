import VenusEvcharger.Library.Dict
import Mathlib.Data.List.MinMax
import Mathlib.Algebra.BigOperators.Group.List.Basic

/-!
# One element for every key

Two ways to take one of several elements with the same key: the element of the best quality (`selectBest`), and the
first one (`keepFirst`), where some keys may be exempt. When the qualities are distinct the best elements do not depend
on the order of the list; the first ones do not when elements with the same key are equal.
-/

namespace Library

universe u v w

variable {κ : Type u} {α : Type v} [DecidableEq κ]

/-! ## The best element -/

section best

variable {ι : Type w} [LinearOrder ι] (key : α → κ) (quality : α → ι)

/-- Keep the element when it is the first with its key or better than the one that is kept. -/
def selectBest (best : Dict κ α) (a : α) : Dict κ α :=
  match best.get? (key a) with
  | none => best.set (key a) a
  | some existing => if quality existing < quality a then best.set (key a) a else best

/-- The best elements of a list, one for every key. -/
def bestByKey (xs : List α) : Dict κ α := xs.foldl (selectBest key quality) .empty

/-- No element of the list with the same key is better. -/
def BestForKey (xs : List α) (a : α) : Prop := a ∈ xs ∧ ∀ b ∈ xs, key b = key a → quality b ≤ quality a

/-- An element with another key changes nothing. -/
theorem get?_selectBest_ne {best : Dict κ α} {x : α} {k : κ} (h : key x ≠ k) :
    (selectBest key quality best x).get? k = best.get? k := by
  unfold selectBest
  split
  · exact Dict.get?_set_ne _ _ (Ne.symm h)
  · split
    · exact Dict.get?_set_ne _ _ (Ne.symm h)
    · rfl

/-- What is kept for a key is the first of the best elements with it. -/
theorem get?_bestByKey_eq_argmax (xs : List α) (k : κ) :
    (bestByKey key quality xs).get? k = (xs.filter (key · = k)).argmax quality := by
  induction xs using List.reverseRecOn with
  | nil => rfl
  | append_singleton xs x ih =>
    have hstep : bestByKey key quality (xs ++ [x]) = selectBest key quality (bestByKey key quality xs) x := by
      rw [bestByKey, List.foldl_append]
      rfl
    rw [hstep, List.filter_append]
    by_cases hk : key x = k
    · subst hk
      rw [List.filter_cons_of_pos (by simp), List.filter_nil, List.argmax_concat, ← ih, selectBest]
      cases hget : (bestByKey key quality xs).get? (key x) with
      | none => exact Dict.get?_set_self _ _ _
      | some existing =>
        dsimp only
        split
        · exact Dict.get?_set_self _ _ _
        · exact hget
    · rw [get?_selectBest_ne key quality hk, ih, List.filter_cons_of_neg (by simpa using hk), List.filter_nil,
        List.append_nil]

/-- What is kept for a key is one of the best elements with it, and something is kept when there is one. -/
theorem get?_bestByKey (xs : List α) (k : κ) :
    ((bestByKey key quality xs).get? k = none ↔ ∀ a ∈ xs, key a ≠ k) ∧
      ∀ a, (bestByKey key quality xs).get? k = some a → key a = k ∧ BestForKey key quality xs a := by
  rw [get?_bestByKey_eq_argmax]
  constructor
  · rw [List.argmax_eq_none, List.filter_eq_nil_iff]
    simp only [decide_eq_true_eq, ne_eq]
  · intro a ha
    obtain ⟨hmem, hkey⟩ := List.mem_filter.mp (List.argmax_mem ha)
    rw [decide_eq_true_eq] at hkey
    refine ⟨hkey, hmem, fun b hb hkeyb => List.le_of_mem_argmax (List.mem_filter.mpr ⟨hb, ?_⟩) ha⟩
    rw [decide_eq_true_eq, hkeyb, hkey]

/-- The best elements of a list. -/
def bestElements (xs : List α) : List α := (bestByKey key quality xs).entries.map Prod.snd

variable {key quality}

theorem map_key_bestElements (xs : List α) :
    (bestElements key quality xs).map key = (bestByKey key quality xs).keys := by
  rw [bestElements, Dict.keys, List.map_map]
  apply List.map_congr_left
  intro e he
  exact ((get?_bestByKey key quality xs e.1).2 e.2 (Dict.mem_entries_iff.mp he)).1

variable (key quality) in
theorem nodup_bestElements (xs : List α) : ((bestElements key quality xs).map key).Nodup := by
  rw [map_key_bestElements]
  exact (bestByKey key quality xs).nodup

variable {xs : List α}

/-- The best element of a key is the first one among those with the key. -/
theorem mem_bestElements_iff_argmax {a : α} :
    a ∈ bestElements key quality xs ↔ a ∈ (xs.filter (key · = key a)).argmax quality := by
  rw [Option.mem_def, ← get?_bestByKey_eq_argmax, bestElements, List.mem_map]
  constructor
  · intro ⟨e, he, heq⟩
    subst heq
    have hget := Dict.mem_entries_iff.mp he
    rw [((get?_bestByKey key quality xs e.1).2 e.2 hget).1]
    exact hget
  · intro hget
    exact ⟨(key a, a), Dict.mem_entries_iff.mpr hget, rfl⟩

theorem bestForKey_of_mem {a : α} (h : a ∈ bestElements key quality xs) : BestForKey key quality xs a := by
  obtain ⟨e, he, rfl⟩ := List.mem_map.mp h
  exact ((get?_bestByKey key quality xs e.1).2 e.2 (Dict.mem_entries_iff.mp he)).2

/-- With distinct qualities exactly the best elements are kept. -/
theorem mem_bestElements_iff (hinj : ∀ a ∈ xs, ∀ b ∈ xs, quality a = quality b → a = b) {a : α} :
    a ∈ bestElements key quality xs ↔ BestForKey key quality xs a := by
  refine ⟨bestForKey_of_mem, ?_⟩
  intro hbest
  obtain ⟨hnone, hsome⟩ := get?_bestByKey key quality xs (key a)
  cases hget : (bestByKey key quality xs).get? (key a) with
  | none => exact absurd rfl (hnone.mp hget a hbest.1)
  | some b =>
    obtain ⟨hkey, hother⟩ := hsome b hget
    have heq : a = b :=
      hinj a hbest.1 b hother.1 (le_antisymm (hother.2 a hbest.1 hkey.symm) (hbest.2 b hother.1 hkey))
    exact List.mem_map.mpr ⟨(key a, b), Dict.mem_entries_iff.mpr hget, heq.symm⟩

/-- With distinct qualities the best elements do not depend on the order. -/
theorem bestElements_perm {ys : List α} (hperm : xs.Perm ys)
    (hinj : ∀ a ∈ xs, ∀ b ∈ xs, quality a = quality b → a = b) :
    (bestElements key quality xs).Perm (bestElements key quality ys) := by
  have hinj' : ∀ a ∈ ys, ∀ b ∈ ys, quality a = quality b → a = b := by
    intro a ha b hb
    exact hinj a (hperm.mem_iff.mpr ha) b (hperm.mem_iff.mpr hb)
  apply (List.perm_ext_iff_of_nodup (nodup_bestElements key quality xs).of_map
    (nodup_bestElements key quality ys).of_map).mpr
  intro a
  rw [mem_bestElements_iff hinj, mem_bestElements_iff hinj', BestForKey, BestForKey, hperm.mem_iff]
  simp only [hperm.mem_iff]

end best

/-! ## The first element -/

section first

variable (exempt : κ → Bool)

/-- Keep the first element with every key that is not exempt and not seen, and all elements with exempt keys. -/
def keepFirst : List κ → List (κ × α) → List (κ × α)
  | _, [] => []
  | seen, e :: es =>
    if exempt e.1 then e :: keepFirst seen es
    else if e.1 ∈ seen then keepFirst seen es
    else e :: keepFirst (e.1 :: seen) es

/-- What `keepFirst` leaves out. -/
def repeats : List κ → List (κ × α) → List (κ × α)
  | _, [] => []
  | seen, e :: es =>
    if exempt e.1 then repeats seen es
    else if e.1 ∈ seen then e :: repeats seen es
    else repeats (e.1 :: seen) es

theorem keepFirst_append_repeats_perm (seen : List κ) (es : List (κ × α)) :
    (keepFirst exempt seen es ++ repeats exempt seen es).Perm es := by
  induction es generalizing seen with
  | nil => exact .nil
  | cons e es ih =>
    rw [keepFirst, repeats]
    split
    · exact (ih seen).cons e
    · split
      · exact List.perm_middle.trans ((ih seen).cons e)
      · exact (ih (e.1 :: seen)).cons e

/-- The elements that pass the test, which also sees the elements before, newest first. -/
def pick (p : List α → α → Bool) : List α → List α → List α
  | _, [] => []
  | before, a :: as => if p before a then a :: pick p (a :: before) as else pick p (a :: before) as

/-- The key of the element is not exempt, and an element before has it. -/
def repeatsKey (key : α → κ) (before : List α) (a : α) : Bool :=
  !exempt (key a) && decide (key a ∈ before.map key)

theorem map_snd_repeats {β : Type*} (key : α → κ) (value : α → β) {seen : List κ} (before : List α)
    (hseen : ∀ k, exempt k = false → (k ∈ seen ↔ k ∈ before.map key)) (as : List α) :
    (repeats exempt seen (as.map fun a => (key a, value a))).map Prod.snd =
      (pick (repeatsKey exempt key) before as).map value := by
  induction as generalizing seen before with
  | nil => rfl
  | cons a as ih =>
    rw [List.map_cons, repeats, pick, repeatsKey]
    cases hexempt : exempt (key a) with
    | true =>
      refine ih _ fun k hk => ?_
      have hne : k ≠ key a := fun heq => by simp [heq, hexempt] at hk
      rw [hseen k hk, List.map_cons, List.mem_cons, or_iff_right hne]
    | false =>
      by_cases hmem : key a ∈ before.map key
      · have hnext : ∀ k, exempt k = false → (k ∈ seen ↔ k ∈ (a :: before).map key) := by
          intro k hk
          rw [hseen k hk, List.map_cons, List.mem_cons, or_iff_right_of_imp fun heq => heq ▸ hmem]
        simp [(hseen _ hexempt).mpr hmem, hmem, ih _ hnext]
      · have hnext : ∀ k, exempt k = false → (k ∈ key a :: seen ↔ k ∈ (a :: before).map key) := by
          intro k hk
          rw [List.map_cons, List.mem_cons, List.mem_cons, hseen k hk]
        simp [(hseen _ hexempt).not.mpr hmem, hmem, ih _ hnext]

/-- Two tests pick the same sum exactly when the elements that pass one of them only have the same sum. -/
theorem sum_pick_eq_iff {β : Type*} [AddCommGroup β] (p q : List α → α → Bool) (value : α → β)
    (before as : List α) :
    ((pick p before as).map value).sum = ((pick q before as).map value).sum ↔
      ((pick (fun before a => p before a && !q before a) before as).map value).sum =
        ((pick (fun before a => q before a && !p before a) before as).map value).sum := by
  have hdifference : ((pick p before as).map value).sum - ((pick q before as).map value).sum =
      ((pick (fun before a => p before a && !q before a) before as).map value).sum -
        ((pick (fun before a => q before a && !p before a) before as).map value).sum := by
    induction as generalizing before with
    | nil => rfl
    | cons a as ih =>
      have ih := ih (a :: before)
      unfold pick
      cases p before a <;> cases q before a
      · simpa using ih
      · simpa [sub_add_eq_sub_sub_swap] using ih
      · simpa [add_sub_assoc] using ih
      · simpa using ih
  rw [← sub_eq_zero, hdifference, sub_eq_zero]

theorem keepFirst_eq_nil_iff {es : List (κ × α)} : keepFirst exempt [] es = [] ↔ es = [] := by
  cases es with
  | nil => simp [keepFirst]
  | cons e es =>
    rw [keepFirst]
    split
    · simp
    · simp

theorem filter_exempt_keepFirst (seen : List κ) (es : List (κ × α)) :
    (keepFirst exempt seen es).filter (exempt ·.1) = es.filter (exempt ·.1) := by
  induction es generalizing seen with
  | nil => rfl
  | cons e es ih =>
    rw [keepFirst]
    rw [List.filter_cons]
    by_cases he : exempt e.1 = true
    · rw [if_pos he, if_pos he, List.filter_cons, if_pos he, ih]
    · rw [if_neg he, if_neg he]
      split
      · exact ih seen
      · rw [List.filter_cons, if_neg he]
        exact ih _

theorem filter_key_keepFirst {k : κ} (hk : exempt k = false) (seen : List κ) (es : List (κ × α)) :
    (keepFirst exempt seen es).filter (·.1 = k) = if k ∈ seen then [] else (es.find? (·.1 = k)).toList := by
  induction es generalizing seen with
  | nil => simp [keepFirst]
  | cons e es ih =>
    rw [keepFirst]
    by_cases hkey : e.1 = k
    · have hnot : ¬ exempt e.1 = true := by
        rw [hkey, hk]
        exact Bool.false_ne_true
      rw [if_neg hnot, List.find?_cons_of_pos (by simpa using hkey)]
      by_cases hseen : e.1 ∈ seen
      · rw [if_pos hseen, ih, if_pos (hkey ▸ hseen), if_pos (hkey ▸ hseen)]
      · rw [if_neg hseen, List.filter_cons_of_pos (by simpa using hkey), ih, if_pos (by simp [hkey]),
          if_neg (hkey ▸ hseen)]
        rfl
    · rw [List.find?_cons_of_neg (by simpa using hkey)]
      split
      · rw [List.filter_cons_of_neg (by simpa using hkey), ih]
      · split
        · exact ih seen
        · rw [List.filter_cons_of_neg (by simpa using hkey), ih]
          simp [Ne.symm hkey]

/-- When elements with the same key are equal, what is kept does not depend on the order. -/
theorem keepFirst_perm [DecidableEq α] {es fs : List (κ × α)} (hperm : es.Perm fs)
    (hsame : ∀ e ∈ es, ∀ f ∈ es, exempt e.1 = false → e.1 = f.1 → e = f) :
    (keepFirst exempt [] es).Perm (keepFirst exempt [] fs) := by
  rw [List.perm_iff_count]
  intro e
  cases hexempt : exempt e.1 with
  | true =>
    rw [← List.count_filter (p := (exempt ·.1)) hexempt, filter_exempt_keepFirst exempt,
      ← List.count_filter (p := (exempt ·.1)) (l := keepFirst exempt [] fs) hexempt, filter_exempt_keepFirst exempt]
    exact (hperm.filter _).count_eq e
  | false =>
    have hself : decide (e.1 = e.1) = true := decide_eq_true rfl
    -- the first element with the key is the same in both orders
    have hfind : es.find? (·.1 = e.1) = fs.find? (·.1 = e.1) := by
      cases hes : es.find? (·.1 = e.1) with
      | none =>
        rw [eq_comm, List.find?_eq_none]
        intro f hf
        exact List.find?_eq_none.mp hes f (hperm.mem_iff.mpr hf)
      | some f =>
        have hfkey : f.1 = e.1 := by simpa using List.find?_some hes
        have hfmem := List.mem_of_find?_eq_some hes
        cases hfs : fs.find? (·.1 = e.1) with
        | none => exact absurd hfkey (by simpa using List.find?_eq_none.mp hfs f (hperm.mem_iff.mp hfmem))
        | some g =>
          have hgkey : g.1 = e.1 := by simpa using List.find?_some hfs
          have hgmem := hperm.mem_iff.mpr (List.mem_of_find?_eq_some hfs)
          rw [hsame f hfmem g hgmem (hfkey ▸ hexempt) (hfkey.trans hgkey.symm)]
    rw [← List.count_filter (p := (·.1 = e.1)) hself, filter_key_keepFirst exempt hexempt,
      ← List.count_filter (p := (·.1 = e.1)) (l := keepFirst exempt [] fs) hself, filter_key_keepFirst exempt hexempt, hfind]

end first

end Library
