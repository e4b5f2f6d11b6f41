import VenusEvcharger.DbusAdapter.CircuitBreaker
import Mathlib.Data.List.Sort

/-!
# The read scheduler of the D-Bus adapter

`DbusReadScheduler` keeps the time of the next read for every configured group. `nextDue` looks at the due groups in
order, and at the first one only: `nextDue_spec` says that this group decides.

Scope: of a read specification the interval and the priority; intervals are finite.
-/

namespace VenusEvcharger

open Library

/-- A `ReadSpec`. -/
structure ReadSpec where
  interval : Option ℚ
  priority : Option String

/-- The priority of a specification, with the default of `next_due`. -/
def ReadSpec.admission (spec : ReadSpec) : String := spec.priority.getD "read"

/-- `effective_interval`, with the default of `_interval_seconds`. -/
def effectiveInterval (spec : ReadSpec) (circuitState : CircuitState) : ℚ :=
  let interval := spec.interval.getD 2
  match circuitState with
  | .protective => interval * 5
  | .degraded => interval * 3
  | .ok => interval

/-- A `DbusReadScheduler`. -/
structure DbusReadScheduler where
  specs : Dict String ReadSpec
  /-- `next_read_at`: every configured key has an entry, zero at first. -/
  nextReadAt : Dict String ℚ
  failureCounts : Dict String Nat

namespace DbusReadScheduler

/-- A new scheduler. -/
def start (specs : Dict String ReadSpec) : DbusReadScheduler where
  specs := specs
  nextReadAt := specs.mapVal fun _ _ => 0
  failureCounts := specs.mapVal fun _ _ => 0

/-- `next_read_at[key]`. -/
def nextAt (s : DbusReadScheduler) (key : String) : ℚ := s.nextReadAt.getD key 0

/-- `_order[key]`. -/
def order (s : DbusReadScheduler) (key : String) : Nat := s.specs.keys.idxOf key

/-- The order of `due_keys.sort`. -/
def Before (s : DbusReadScheduler) (a b : String) : Prop :=
  s.nextAt a < s.nextAt b ∨ s.nextAt a = s.nextAt b ∧ s.order a ≤ s.order b

instance (s : DbusReadScheduler) : DecidableRel s.Before := fun _ _ => inferInstanceAs (Decidable (_ ∨ _))

/-- The due keys, sorted. -/
def dueKeys (s : DbusReadScheduler) (monotonicAt : ℚ) : List String :=
  (s.specs.keys.filter fun key => decide (s.nextAt key ≤ monotonicAt)).insertionSort s.Before

/-- `next_due`: the loop over the due keys ends with the first one. -/
def nextDue (s : DbusReadScheduler) (monotonicAt : ℚ) (circuitState : CircuitState)
    (priorityAllowed : String → Bool) : Option (String × ReadSpec × ℚ) :=
  match s.dueKeys monotonicAt with
  | [] => none
  | key :: _ =>
    match s.specs.get? key with
    | none => none
    | some spec =>
      if priorityAllowed spec.admission then some (key, spec, effectiveInterval spec circuitState) else none

/-- `record_success`. -/
def recordSuccess (s : DbusReadScheduler) (key : String) (monotonicAt interval intervalFactor : ℚ)
    (maximumDelaySeconds : Option ℚ) : DbusReadScheduler :=
  let baseDelay := max 0 interval
  let delay := baseDelay * max 1 intervalFactor
  let delay := match maximumDelaySeconds with
    | none => delay
    | some maximum => min delay (max baseDelay maximum)
  { s with
    failureCounts := s.failureCounts.set key 0
    nextReadAt := s.nextReadAt.set key (monotonicAt + delay) }

/-- `record_error`: the backoff doubles with every failure, up to five minutes. -/
def recordError (s : DbusReadScheduler) (key : String) (monotonicAt interval : ℚ) : DbusReadScheduler :=
  let failures := min 6 (s.failureCounts.getD key 0 + 1)
  let base := max (interval * 10) 30
  { s with
    failureCounts := s.failureCounts.set key failures
    nextReadAt := s.nextReadAt.set key (monotonicAt + min 300 (base * 2 ^ (failures - 1))) }

/-! ## The first due read -/

/-- The read is configured and due. -/
def Due (s : DbusReadScheduler) (monotonicAt : ℚ) (key : String) : Prop :=
  key ∈ s.specs.keys ∧ s.nextAt key ≤ monotonicAt

/-- The read is due, and no due read comes before it. -/
def FirstDue (s : DbusReadScheduler) (monotonicAt : ℚ) (key : String) : Prop :=
  s.Due monotonicAt key ∧ ∀ other, s.Due monotonicAt other → s.Before key other

variable {s : DbusReadScheduler} {monotonicAt : ℚ}

theorem mem_dueKeys {key : String} : key ∈ s.dueKeys monotonicAt ↔ s.Due monotonicAt key := by
  rw [dueKeys, List.mem_insertionSort, List.mem_filter, decide_eq_true_eq]
  exact Iff.rfl

instance (s : DbusReadScheduler) : IsTrans String s.Before where
  trans a b c hab hbc := by
    rcases hab with hab | ⟨hab, horder⟩
    · rcases hbc with hbc | ⟨hbc, -⟩
      · exact .inl (hab.trans hbc)
      · exact .inl (hbc ▸ hab)
    · rcases hbc with hbc | ⟨hbc, horder'⟩
      · exact .inl (hab ▸ hbc)
      · exact .inr ⟨hab.trans hbc, horder.trans horder'⟩

instance (s : DbusReadScheduler) : Std.Total s.Before where
  total a b := by
    rcases lt_trichotomy (s.nextAt a) (s.nextAt b) with h | h | h
    · exact .inl (.inl h)
    · rcases Nat.le_total (s.order a) (s.order b) with horder | horder
      · exact .inl (.inr ⟨h, horder⟩)
      · exact .inr (.inr ⟨h.symm, horder⟩)
    · exact .inr (.inl h)

/-- Two configured keys that come before each other are one key. -/
theorem before_antisymm {a b : String} (ha : a ∈ s.specs.keys) (hab : s.Before a b) (hba : s.Before b a) :
    a = b := by
  have horder : s.order a = s.order b := by
    rcases hab with hab | ⟨hab, hle⟩
    · rcases hba with hba | ⟨hba, -⟩
      · exact absurd (hab.trans hba) (lt_irrefl _)
      · exact absurd hba hab.ne'
    · rcases hba with hba | ⟨-, hle'⟩
      · exact absurd hab hba.ne'
      · exact Nat.le_antisymm hle hle'
  exact (List.idxOf_inj ha).mp horder

/-- The head of the sorted due keys is the first due read. -/
theorem dueKeys_cons {key : String} {rest : List String} (h : s.dueKeys monotonicAt = key :: rest) :
    s.FirstDue monotonicAt key := by
  have hsorted : (s.dueKeys monotonicAt).Pairwise s.Before := List.pairwise_insertionSort s.Before _
  rw [h, List.pairwise_cons] at hsorted
  refine ⟨mem_dueKeys.mp (h ▸ List.mem_cons_self), fun other hother => ?_⟩
  have hmem := mem_dueKeys.mpr hother
  rw [h] at hmem
  rcases List.mem_cons.mp hmem with rfl | hrest
  · exact .inr ⟨rfl, le_rfl⟩
  · exact hsorted.1 other hrest

/-- What `next_due` returns is the first due read with an allowed priority, and it returns nothing otherwise. -/
theorem nextDue_spec (s : DbusReadScheduler) (monotonicAt : ℚ) (circuitState : CircuitState)
    (priorityAllowed : String → Bool) :
    (∀ key spec interval,
      s.nextDue monotonicAt circuitState priorityAllowed = some (key, spec, interval) ↔
        s.FirstDue monotonicAt key ∧ s.specs.get? key = some spec ∧ priorityAllowed spec.admission = true ∧
          interval = effectiveInterval spec circuitState) ∧
    ((∃ key, s.Due monotonicAt key) → ∃ key, s.FirstDue monotonicAt key) := by
  cases hkeys : s.dueKeys monotonicAt with
  | nil =>
    have hnone : ∀ key, ¬s.Due monotonicAt key := by
      intro key hdue
      have hmem := mem_dueKeys.mpr hdue
      rw [hkeys] at hmem
      exact List.not_mem_nil hmem
    refine ⟨fun key spec interval => ?_, fun h => absurd h.choose_spec (hnone _)⟩
    rw [nextDue, hkeys]
    exact iff_of_false (Option.some_ne_none _ ∘ Eq.symm) fun h => hnone key h.1.1
  | cons first rest =>
    have hfirst := dueKeys_cons hkeys
    refine ⟨fun key spec interval => ?_, fun _ => ⟨first, hfirst⟩⟩
    have hunique : ∀ key, s.FirstDue monotonicAt key → first = key := fun key hkey =>
      before_antisymm hfirst.1.1 (hfirst.2 key hkey.1) (hkey.2 first hfirst.1)
    obtain ⟨configured, hspec⟩ := Dict.mem_keys_iff.mp hfirst.1.1
    simp only [nextDue, hkeys, hspec]
    constructor
    · intro h
      split_ifs at h with hallowed
      obtain ⟨rfl, rfl, rfl⟩ : first = key ∧ configured = spec ∧ _ = interval := by
        simpa only [Option.some.injEq, Prod.mk.injEq] using h
      exact ⟨hfirst, hspec, hallowed, rfl⟩
    · intro h
      obtain ⟨hkey, hget, hallowed, rfl⟩ := h
      obtain rfl := hunique key hkey
      obtain rfl := Option.some.inj (hspec.symm.trans hget)
      rw [if_pos hallowed]

/-- An optional group in front of the reads of the grid. -/
def optionalFirst : DbusReadScheduler :=
  start (Dict.ofList [("pv", ⟨some 2, some "optional"⟩), ("grid", ⟨some 2, none⟩)])

/-- In the protective state the due optional group keeps the due and allowed read of the grid from being selected. -/
theorem optional_blocks_grid :
    optionalFirst.Due 10 "grid" ∧ CircuitState.protective.allowsPriority "read" = true ∧
      optionalFirst.nextDue 10 .protective CircuitState.protective.allowsPriority = none := by
  refine ⟨⟨by decide, by decide +kernel⟩, by decide +kernel, ?_⟩
  decide +kernel

end DbusReadScheduler

end VenusEvcharger
