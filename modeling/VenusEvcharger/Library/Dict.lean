import Mathlib.Data.List.Nodup
import Mathlib.Data.List.Lookmap
import Mathlib.Data.List.Perm.Subperm

/-!
# Insertion-ordered dictionaries

A `Dict κ ν` is an association list whose keys are distinct, in insertion order. Assigning
to a key that is present keeps its position, and a new key goes to the end. Every operation
comes with the lemma that says what `get?` reads back; proofs about clients use only those.
-/

namespace Library

universe u v w

/-- An association list with distinct keys, oldest insertion first. -/
structure Dict (κ : Type u) (ν : Type v) where
  entries : List (κ × ν)
  nodup : (entries.map Prod.fst).Nodup
deriving DecidableEq

namespace Dict

variable {κ : Type u} {ν : Type v} {ω : Type w}

/-- The keys, in insertion order. -/
def keys (d : Dict κ ν) : List κ := d.entries.map Prod.fst

/-- The number of keys. -/
def length (d : Dict κ ν) : Nat := d.entries.length

/-- The dictionary without keys. -/
def empty : Dict κ ν := ⟨[], List.nodup_nil⟩

instance : Inhabited (Dict κ ν) := ⟨empty⟩

/-- Keep the entries that satisfy `p`. -/
def filter (p : κ → ν → Bool) (d : Dict κ ν) : Dict κ ν where
  entries := d.entries.filter fun e => p e.1 e.2
  nodup := d.nodup.sublist (List.filter_sublist.map Prod.fst)

/-- Rewrite every value, knowing its key. -/
def mapVal (f : κ → ν → ω) (d : Dict κ ν) : Dict κ ω where
  entries := d.entries.map fun e => (e.1, f e.1 e.2)
  nodup := by simpa [Function.comp_def] using d.nodup

variable {d : Dict κ ν}

theorem ext_entries {e : Dict κ ν} (h : d.entries = e.entries) : d = e := by
  cases d
  cases e
  cases h
  rfl

/-- A rewrite that changes no value changes nothing. -/
theorem mapVal_eq_self {f : κ → ν → ν} (h : ∀ e ∈ d.entries, f e.1 e.2 = e.2) : d.mapVal f = d := by
  refine ext_entries ?_
  show d.entries.map (fun e => (e.1, f e.1 e.2)) = d.entries
  calc d.entries.map (fun e => (e.1, f e.1 e.2)) = d.entries.map id :=
        List.map_congr_left fun e he => by rw [h e he, id]
    _ = d.entries := List.map_id _

/-- A filter that keeps every entry changes nothing. -/
theorem filter_eq_self {p : κ → ν → Bool} (h : ∀ e ∈ d.entries, p e.1 e.2 = true) :
    d.filter p = d :=
  ext_entries (List.filter_eq_self.mpr h)

theorem length_eq_keys (d : Dict κ ν) : d.length = d.keys.length := by
  simp [length, keys]

variable [DecidableEq κ]

/-- The value of a key. -/
def get? (d : Dict κ ν) (k : κ) : Option ν := d.entries.lookup k

/-- The value of a key, or `default` when the key is absent. -/
def getD (d : Dict κ ν) (k : κ) (default : ν) : ν := (d.get? k).getD default

/-- Whether a key is present. -/
def contains (d : Dict κ ν) (k : κ) : Bool := (d.get? k).isSome

/-- Assignment on the underlying list. -/
def setEntry : List (κ × ν) → κ → ν → List (κ × ν)
  | [], k, v => [(k, v)]
  | e :: es, k, v => if e.1 = k then (k, v) :: es else e :: setEntry es k v

variable {es : List (κ × ν)} {k : κ} {v : ν}

/-- Assignment adds its key and no other. -/
theorem mem_keys_setEntry {j : κ} :
    j ∈ (setEntry es k v).map Prod.fst ↔ j = k ∨ j ∈ es.map Prod.fst := by
  induction es with
  | nil => simp [setEntry]
  | cons e es ih =>
    rw [setEntry]
    split_ifs with he
    · subst he
      simp
    · rw [List.map_cons, List.mem_cons, ih, List.map_cons, List.mem_cons]
      tauto

theorem nodup_setEntry (h : (es.map Prod.fst).Nodup) : ((setEntry es k v).map Prod.fst).Nodup := by
  induction es with
  | nil => simp [setEntry]
  | cons e es ih =>
    rw [List.map_cons, List.nodup_cons] at h
    rw [setEntry]
    split_ifs with he
    · subst he
      exact List.nodup_cons.mpr h
    · refine List.nodup_cons.mpr ⟨fun hmem => ?_, ih h.2⟩
      rcases mem_keys_setEntry.mp hmem with hk | hk
      · exact he hk
      · exact h.1 hk

/-- `d[k] = v`. -/
def set (d : Dict κ ν) (k : κ) (v : ν) : Dict κ ν := ⟨setEntry d.entries k v, nodup_setEntry d.nodup⟩

/-- `del d[k]`, and nothing when the key is absent. -/
def erase (d : Dict κ ν) (k : κ) : Dict κ ν := d.filter fun j _ => decide (j ≠ k)

/-- Move a key that is present behind all others. -/
def moveToEnd (d : Dict κ ν) (k : κ) : Dict κ ν :=
  match d.get? k with
  | some v => (d.erase k).set k v
  | none => d

/-- The oldest entries, as many as there are beyond the bound. -/
def surplus (bound : Nat) (d : Dict κ ν) : List (κ × ν) := d.entries.take (d.entries.length - bound)

/-- Drop the oldest entries while there are more than the bound. -/
def dropSurplus (bound : Nat) (d : Dict κ ν) : Dict κ ν where
  entries := d.entries.drop (d.entries.length - bound)
  nodup := d.nodup.sublist ((List.drop_sublist _ _).map Prod.fst)

/-- Assign every entry of `e`, in order. -/
def update (d e : Dict κ ν) : Dict κ ν := e.entries.foldl (fun acc p => acc.set p.1 p.2) d

/-- Assign the pairs of a list, in order; the last pair of a repeated key wins. -/
def ofList (es : List (κ × ν)) : Dict κ ν := es.foldl (fun acc p => acc.set p.1 p.2) empty

/-- Assign only when the key is absent. -/
def setDefault (d : Dict κ ν) (k : κ) (v : ν) : Dict κ ν := if d.contains k then d else d.set k v

/-! ## Reading back -/

theorem lookup_cons_ite (e : κ × ν) (es : List (κ × ν)) (k : κ) :
    (e :: es).lookup k = if k = e.1 then some e.2 else es.lookup k := by
  rw [List.lookup_cons]
  by_cases h : k = e.1
  · simp [h]
  · rw [if_neg h, beq_false_of_ne h]

/-- Distinct keys make membership and lookup the same thing. -/
theorem mem_entries_iff : (k, v) ∈ d.entries ↔ d.get? k = some v := by
  obtain ⟨es, hes⟩ := d
  change (k, v) ∈ es ↔ es.lookup k = some v
  induction es with
  | nil => simp
  | cons e es ih =>
    obtain ⟨j, w⟩ := e
    rw [List.map_cons, List.nodup_cons] at hes
    rw [lookup_cons_ite]
    by_cases hk : k = j
    · subst hk
      have hnot : (k, v) ∉ es := fun hmem => hes.1 (List.mem_map.mpr ⟨(k, v), hmem, rfl⟩)
      simp [hnot, eq_comm]
    · simpa [hk] using ih hes.2

/-- A map over the values reads them at their keys only. -/
theorem mapVal_congr {f g : κ → ν → ω} (h : ∀ k v, d.get? k = some v → f k v = g k v) :
    d.mapVal f = d.mapVal g := by
  refine ext_entries (List.map_congr_left fun e he => ?_)
  rw [h e.1 e.2 (mem_entries_iff.mp he)]

theorem mem_keys_iff : k ∈ d.keys ↔ ∃ v, d.get? k = some v := by
  simp only [keys, List.mem_map, ← mem_entries_iff]
  constructor
  · rintro ⟨⟨j, v⟩, hmem, rfl⟩
    exact ⟨v, hmem⟩
  · rintro ⟨v, hmem⟩
    exact ⟨(k, v), hmem, rfl⟩

theorem contains_iff : d.contains k = true ↔ k ∈ d.keys := by
  rw [contains, mem_keys_iff, Option.isSome_iff_exists]

theorem get?_eq_none_iff : d.get? k = none ↔ k ∉ d.keys := by
  rw [mem_keys_iff, not_exists, Option.eq_none_iff_forall_ne_some]

/-- A dictionary without entries answers no key. -/
theorem get?_eq_find? (d : Dict κ ν) (k : κ) : d.get? k = (d.entries.find? fun e => e.1 = k).map Prod.snd := by
  cases hfind : d.entries.find? fun e => e.1 = k with
  | none =>
    rw [Option.map_none, get?_eq_none_iff]
    intro hk
    obtain ⟨e, he, hkey⟩ := List.mem_map.mp hk
    exact List.find?_eq_none.mp hfind e he (decide_eq_true hkey)
  | some e =>
    obtain rfl : e.1 = k := by simpa using List.find?_some hfind
    exact mem_entries_iff.mp (List.mem_of_find?_eq_some hfind)

theorem entries_eq_nil_iff : d.entries = [] ↔ ∀ k, d.get? k = none := by
  constructor
  · intro h k
    rw [get?_eq_none_iff, keys, h]
    exact List.not_mem_nil
  · intro h
    refine List.eq_nil_iff_forall_not_mem.mpr fun e he => ?_
    have hsome : d.get? e.1 = some e.2 := mem_entries_iff.mp he
    rw [h e.1] at hsome
    exact Option.some_ne_none _ hsome.symm

@[simp] theorem get?_empty (k : κ) : (empty : Dict κ ν).get? k = none := rfl

/-- Two lookups that agree as relations agree as options. -/
theorem get?_eq_of_iff {o : Option ν} (h : ∀ v, (k, v) ∈ d.entries ↔ o = some v) : d.get? k = o :=
  Option.ext fun v => mem_entries_iff.symm.trans (h v)

theorem lookup_setEntry (es : List (κ × ν)) (k j : κ) (v : ν) :
    (setEntry es k v).lookup j = if j = k then some v else es.lookup j := by
  induction es with
  | nil => simp [setEntry, lookup_cons_ite]
  | cons e es ih =>
    rw [setEntry]
    split_ifs with he hj hj
    · simp [lookup_cons_ite, hj]
    · have hne : j ≠ e.1 := he ▸ hj
      rw [lookup_cons_ite, lookup_cons_ite, if_neg hj, if_neg hne]
    · rw [lookup_cons_ite, ih, if_pos hj, if_neg (hj ▸ Ne.symm he)]
    · rw [lookup_cons_ite, lookup_cons_ite, ih, if_neg hj]

theorem get?_set (d : Dict κ ν) (k j : κ) (v : ν) :
    (d.set k v).get? j = if j = k then some v else d.get? j :=
  lookup_setEntry d.entries k j v

@[simp] theorem get?_set_self (d : Dict κ ν) (k : κ) (v : ν) : (d.set k v).get? k = some v := by
  simp [get?_set]

theorem get?_set_ne (d : Dict κ ν) {j : κ} (v : ν) (h : j ≠ k) : (d.set k v).get? j = d.get? j := by
  simp [get?_set, h]

@[simp] theorem get?_filter (p : κ → ν → Bool) (d : Dict κ ν) (k : κ) :
    (d.filter p).get? k = (d.get? k).filter (p k) := by
  apply get?_eq_of_iff
  intro v
  change (k, v) ∈ d.entries.filter _ ↔ _
  rw [List.mem_filter, mem_entries_iff, Option.filter_eq_some_iff]

/-- A filter that looks at keys only keeps or drops the whole value. -/
theorem get?_filter_key (p : κ → Bool) (d : Dict κ ν) (k : κ) :
    (d.filter fun j _ => p j).get? k = if p k then d.get? k else none := by
  rw [get?_filter]
  cases d.get? k with
  | none => simp
  | some v => by_cases h : p k <;> simp [h]

/-- A filter that drops a key does not see assignments to it. -/
theorem filter_key_set {p : κ → Bool} (h : p k = false) (d : Dict κ ν) (v : ν) :
    (d.set k v).filter (fun j _ => p j) = d.filter fun j _ => p j := by
  have hentries (es : List (κ × ν)) : (setEntry es k v).filter (fun e => p e.1) = es.filter fun e => p e.1 := by
    induction es with
    | nil => simp [setEntry, h]
    | cons e es ih =>
      rw [setEntry]
      split_ifs with he
      · rw [List.filter_cons_of_neg (by simp [h]), List.filter_cons_of_neg (by simp [he, h])]
      · rw [List.filter_cons, List.filter_cons, ih]
  exact ext_entries (hentries d.entries)

@[simp] theorem get?_mapVal (f : κ → ν → ω) (d : Dict κ ν) (k : κ) :
    (d.mapVal f).get? k = (d.get? k).map (f k) := by
  apply get?_eq_of_iff
  intro w
  simp only [mapVal, List.mem_map, Prod.mk.injEq, Option.map_eq_some_iff, ← mem_entries_iff]
  constructor
  · rintro ⟨⟨j, v⟩, hmem, rfl, rfl⟩
    exact ⟨v, hmem, rfl⟩
  · rintro ⟨v, hmem, rfl⟩
    exact ⟨(k, v), hmem, rfl, rfl⟩

theorem get?_erase (d : Dict κ ν) (k j : κ) :
    (d.erase k).get? j = if j = k then none else d.get? j := by
  rw [erase, get?_filter]
  split_ifs with h
  · simp [h]
  · cases d.get? j <;> simp [h]

@[simp] theorem get?_moveToEnd (d : Dict κ ν) (k j : κ) : (d.moveToEnd k).get? j = d.get? j := by
  rw [moveToEnd]
  cases hk : d.get? k with
  | none => rfl
  | some v =>
    simp only [get?_set, get?_erase]
    split_ifs with h
    · rw [h, hk]
    · rfl

/-- A dictionary whose keys all occur in a list is not longer than the list. -/
theorem length_le_of_keys {ks : List κ} (h : ∀ k, d.get? k ≠ none → k ∈ ks) :
    d.length ≤ ks.length := by
  rw [length_eq_keys]
  refine (List.subperm_of_subset d.nodup fun k hk => ?_).length_le
  obtain ⟨v, hv⟩ := mem_keys_iff.mp hk
  exact h k (by rw [hv]; exact Option.some_ne_none v)

/-- A dictionary with fewer keys is not longer. -/
theorem length_le_of_get? {e : Dict κ ω} (h : ∀ k, d.get? k ≠ none → e.get? k ≠ none) :
    d.length ≤ e.length := by
  rw [e.length_eq_keys]
  refine length_le_of_keys fun k hk => ?_
  obtain ⟨v, hv⟩ := Option.ne_none_iff_exists'.mp (h k hk)
  exact mem_keys_iff.mpr ⟨v, hv⟩

/-- Dictionaries with the same keys have the same length. -/
theorem length_eq_of_get? {e : Dict κ ω} (h : ∀ k, (d.get? k).isSome = (e.get? k).isSome) :
    d.length = e.length := by
  rw [length_eq_keys, length_eq_keys]
  refine ((List.perm_ext_iff_of_nodup d.nodup e.nodup).mpr fun k => ?_).length_eq
  show k ∈ d.keys ↔ k ∈ e.keys
  rw [← contains_iff, ← contains_iff, contains, contains, h]

@[simp] theorem length_moveToEnd (d : Dict κ ν) (k : κ) : (d.moveToEnd k).length = d.length :=
  length_eq_of_get? fun j => by rw [get?_moveToEnd]

/-- Folding assignments over a list reads the last pair of a key, else the start. -/
theorem get?_foldl_set (es : List (κ × ν)) (d : Dict κ ν) (hes : (es.map Prod.fst).Nodup) (k : κ) :
    (es.foldl (fun acc p => acc.set p.1 p.2) d).get? k = (es.lookup k <|> d.get? k) := by
  induction es generalizing d with
  | nil => simp
  | cons e es ih =>
    rw [List.map_cons, List.nodup_cons] at hes
    rw [List.foldl_cons, ih _ hes.2, get?_set, lookup_cons_ite]
    by_cases hk : k = e.1
    · have hnone : es.lookup e.1 = none := by
        rw [List.lookup_eq_none_iff]
        intro p hp
        have hne : e.1 ≠ p.1 := fun heq => hes.1 (List.mem_map.mpr ⟨p, hp, heq.symm⟩)
        simpa using hne
      simp [hk, hnone]
    · simp [hk]

/-- A dictionary made of distinct keys holds its pairs. -/
theorem get?_ofList (hes : (es.map Prod.fst).Nodup) (k : κ) :
    (ofList es).get? k = (⟨es, hes⟩ : Dict κ ν).get? k := by
  rw [ofList, get?_foldl_set es empty hes, get?_empty]
  change (es.lookup k <|> none) = es.lookup k
  cases es.lookup k <;> rfl

/-- Assigning an entry of a kind keeps all entries of that kind. -/
theorem forall_entries_set {P : κ × ν → Prop} (hd : ∀ e ∈ d.entries, P e) (h : P (k, v)) :
    ∀ e ∈ (d.set k v).entries, P e := by
  rintro ⟨j, w⟩ hmem
  rw [mem_entries_iff, get?_set] at hmem
  split at hmem
  · rename_i hj
    obtain rfl := Option.some.inj hmem
    exact hj ▸ h
  · exact hd (j, w) (mem_entries_iff.mpr hmem)

/-- The entries of a dictionary are of the kind of the pairs that it was made from. -/
theorem forall_entries_ofList {P : κ × ν → Prop} (h : ∀ e ∈ es, P e) :
    ∀ e ∈ (ofList es).entries, P e := by
  suffices ∀ d : Dict κ ν, (∀ e ∈ d.entries, P e) → ∀ e ∈ (es.foldl (fun acc p => acc.set p.1 p.2) d).entries, P e from
    this empty (by simp [empty])
  induction es with
  | nil => exact fun d hd => hd
  | cons e es ih =>
    exact fun d hd => ih (fun e he => h e (List.mem_cons_of_mem _ he)) _
      (forall_entries_set hd (h e List.mem_cons_self))

theorem get?_update (d e : Dict κ ν) (k : κ) : (d.update e).get? k = (e.get? k <|> d.get? k) :=
  get?_foldl_set e.entries d e.nodup k

theorem get?_setDefault (d : Dict κ ν) (k j : κ) (v : ν) :
    (d.setDefault k v).get? j = if j = k then some ((d.get? k).getD v) else d.get? j := by
  rw [setDefault]
  cases hk : d.get? k with
  | none =>
    have hc : d.contains k = false := by simp [contains, hk]
    simp [hc, get?_set]
  | some w =>
    have hc : d.contains k = true := by simp [contains, hk]
    split_ifs with h
    · simp [h, hk]
    · rfl

/-! ## Loops over a dictionary -/

section Loops

variable {σ : Type*} {α : Type*} {β : Type*} [DecidableEq α] (view : σ → κ → ω) (target : α → κ)
  {body : σ → α × β → σ} (write : α → β → ω → ω)

omit [DecidableEq α] in
/-- A loop whose passes each rewrite one place leaves every other place alone. -/
theorem view_foldl_of_ne (es : List (α × β)) (hbody : ∀ s, ∀ e ∈ es, ∀ k, view (body s e) k =
    if k = target e.1 then write e.1 e.2 (view s k) else view s k)
    (s : σ) {k : κ} (hk : ∀ e ∈ es, k ≠ target e.1) :
    view (es.foldl body s) k = view s k := by
  induction es generalizing s with
  | nil => rfl
  | cons e es ih =>
    rw [List.foldl_cons, ih (fun s e' he' => hbody s e' (List.mem_cons_of_mem _ he')) _
      fun e' he' => hk e' (List.mem_cons_of_mem _ he'), hbody s e List.mem_cons_self,
      if_neg (hk e List.mem_cons_self)]

/-- A loop over distinct keys whose passes each rewrite the place of their own key rewrites the
place of every key once. -/
theorem view_foldl_entries (d : Dict α β) (hbody : ∀ s, ∀ e ∈ d.entries, ∀ k, view (body s e) k =
    if k = target e.1 then write e.1 e.2 (view s k) else view s k)
    (htarget : Function.Injective target) (s : σ) (a : α) :
    view (d.entries.foldl body s) (target a) =
      match d.get? a with
      | some b => write a b (view s (target a))
      | none => view s (target a) := by
  obtain ⟨es, hes⟩ := d
  change view (es.foldl body s) (target a) = match es.lookup a with
    | some b => write a b (view s (target a))
    | none => view s (target a)
  change ∀ s, ∀ e ∈ es, ∀ k, view (body s e) k =
    if k = target e.1 then write e.1 e.2 (view s k) else view s k at hbody
  induction es generalizing s with
  | nil => rfl
  | cons e es ih =>
    have hrestBody := fun s e' he' => hbody s e' (List.mem_cons_of_mem _ he')
    rw [List.map_cons, List.nodup_cons] at hes
    rw [lookup_cons_ite, List.foldl_cons]
    by_cases ha : a = e.1
    · have hrest : ∀ e' ∈ es, target a ≠ target e'.1 := fun e' he' heq =>
        hes.1 (List.mem_map.mpr ⟨e', he', (htarget heq).symm.trans ha⟩)
      rw [view_foldl_of_ne view target write es hrestBody _ hrest,
        hbody s e List.mem_cons_self, if_pos (congrArg target ha), if_pos ha, ha]
    · rw [ih _ hes.2 hrestBody, hbody s e List.mem_cons_self, if_neg ha,
        if_neg fun heq => ha (htarget heq)]

end Loops

/-! ## Sizes -/

theorem setEntry_of_notMem (h : k ∉ es.map Prod.fst) : setEntry es k v = es ++ [(k, v)] := by
  induction es with
  | nil => rfl
  | cons e es ih =>
    rw [List.map_cons, List.mem_cons, not_or] at h
    rw [setEntry, if_neg (Ne.symm h.1), ih h.2, List.cons_append]

theorem setEntry_of_lookup (h : es.lookup k = some v) : setEntry es k v = es := by
  induction es with
  | nil => simp at h
  | cons e es ih =>
    rw [lookup_cons_ite] at h
    rw [setEntry]
    by_cases hk : k = e.1
    · rw [if_pos hk] at h
      rw [if_pos hk.symm, hk, ← Option.some.inj h]
    · rw [if_neg hk] at h
      rw [if_neg (Ne.symm hk), ih h]

/-- Assigning to a key that is present keeps the keys in place. -/
theorem keys_set_of_mem (h : k ∈ d.keys) (v : ν) : (d.set k v).keys = d.keys := by
  obtain ⟨es, hes⟩ := d
  show (setEntry es k v).map Prod.fst = es.map Prod.fst
  replace h : k ∈ es.map Prod.fst := h
  clear hes
  induction es with
  | nil => exact absurd h List.not_mem_nil
  | cons e es ih =>
    rw [setEntry]
    split_ifs with hk
    · rw [List.map_cons, List.map_cons, hk]
    · rw [List.map_cons, List.mem_cons] at h
      rw [List.map_cons, List.map_cons, ih (h.resolve_left fun heq => hk heq.symm)]

/-- Assigning to a new key adds one entry. -/
theorem length_set_of_notMem (h : k ∉ d.keys) (v : ν) : (d.set k v).length = d.length + 1 := by
  show (setEntry d.entries k v).length = d.entries.length + 1
  rw [setEntry_of_notMem h, List.length_append]
  rfl

/-- Removing a key that is present removes one entry. -/
theorem length_erase_of_mem (h : k ∈ d.keys) : (d.erase k).length + 1 = d.length := by
  have hnot : k ∉ (d.erase k).keys := by
    rw [← get?_eq_none_iff, get?_erase, if_pos rfl]
  obtain ⟨v, hv⟩ := mem_keys_iff.mp h
  rw [← length_set_of_notMem hnot v]
  refine length_eq_of_get? fun j => ?_
  rw [get?_set, get?_erase]
  split_ifs with hj
  · rw [hj, hv]
  · rfl

theorem mapVal_set (f : ν → ω) (d : Dict κ ν) (k : κ) (v : ν) :
    (d.set k v).mapVal (fun _ => f) = (d.mapVal fun _ => f).set k (f v) := by
  refine ext_entries ?_
  show (setEntry d.entries k v).map _ = setEntry (d.entries.map _) k (f v)
  induction d.entries with
  | nil => rfl
  | cons e es ih =>
    rw [setEntry, List.map_cons, setEntry]
    split_ifs
    · rfl
    · rw [List.map_cons, ih]

/-- Assigning the value that a key has changes nothing. -/
theorem set_of_get? (h : d.get? k = some v) : d.set k v = d := by
  exact ext_entries (setEntry_of_lookup h)

/-- The later of two assignments to a key is the one that counts. -/
theorem set_set (d : Dict κ ν) (k : κ) (v w : ν) : (d.set k v).set k w = d.set k w := by
  refine ext_entries ?_
  show setEntry (setEntry d.entries k v) k w = setEntry d.entries k w
  induction d.entries with
  | nil => simp [setEntry]
  | cons e es ih => by_cases he : e.1 = k <;> simp [setEntry, he, ih]

/-- The key that was assigned last stands last. -/
theorem entries_moveToEnd_set (d : Dict κ ν) (k : κ) (v : ν) :
    ∃ rest, ((d.set k v).moveToEnd k).entries = rest ++ [(k, v)] := by
  unfold moveToEnd
  rw [get?_set_self]
  refine ⟨_, setEntry_of_notMem fun hmem => ?_⟩
  obtain ⟨w, hw⟩ := mem_keys_iff.mp hmem
  rw [get?_erase, if_pos rfl] at hw
  exact absurd hw (by simp)

/-- Reading a dictionary back from its entries gives the dictionary. -/
@[simp] theorem ofList_entries (d : Dict κ ν) : ofList d.entries = d := by
  have hfold : ∀ (es : List (κ × ν)) (acc : Dict κ ν), ((acc.entries ++ es).map Prod.fst).Nodup →
      (es.foldl (fun acc p => acc.set p.1 p.2) acc).entries = acc.entries ++ es := by
    intro es
    induction es with
    | nil => intro acc _; simp
    | cons e es ih =>
      intro acc hnodup
      have hnot : e.1 ∉ acc.entries.map Prod.fst := by
        rw [List.map_append, List.nodup_append] at hnodup
        exact fun hmem => hnodup.2.2 _ hmem _ (by simp) rfl
      have hset : (acc.set e.1 e.2).entries = acc.entries ++ [e] := setEntry_of_notMem hnot
      rw [List.foldl_cons, ih _ (by rw [hset]; simpa using hnodup), hset]
      simp
  have hentries := hfold d.entries empty (by simpa [empty] using d.nodup)
  obtain ⟨es, hes⟩ := d
  change ofList es = _
  rw [ofList]
  cases hof : es.foldl (fun acc p => acc.set p.1 p.2) (empty : Dict κ ν) with
  | mk out hout =>
    rw [hof] at hentries
    simpa [empty] using hentries

end Dict

end Library
