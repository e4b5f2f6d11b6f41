import VenusEvcharger.Library.RevisionCache
import VenusEvcharger.Library.Run
import VenusEvcharger.Python.Numbers
import Mathlib.Data.Finset.Insert
import Mathlib.Data.List.Sort

/-!
# Dormant PV sources

A `PvDormancyTracker` keeps one observation for every PV source and reports which sources are explicitly dormant.
The report is cached under a revision, which a call advances only when it changes the semantic state of an
observation. `update_cases` says what a call changes, and `evidence_faithful_iff` which calls break the cache.

Scope: the clocks are rational. Source identities are opaque.
-/

namespace VenusEvcharger

open Library

/-! ## Observations -/

/-- `PvDormancyReason`. -/
inductive PvDormancyReason where
  | explicitDormantState
deriving DecidableEq

/-- `PvSourceFailureReason`. -/
inductive PvSourceFailureReason where
  | sourcePathUnreadable
deriving DecidableEq

/-- `PvDormancyEvidence`. -/
structure PvDormancyEvidence where
  sourceId : String
  reason : PvDormancyReason
  observedAt : ℚ
deriving DecidableEq

/-- `_PvObservation`. -/
structure PvObservation where
  validated : Bool := false
  available : Option Bool := none
  failureReason : Option PvSourceFailureReason := none
  dormantReason : Option PvDormancyReason := none
  dormantObservedAt : ℚ := 0
  dormantObservedMonotonic : ℚ := 0
  lastObservedMonotonic : ℚ := 0
  nextProbeMonotonic : ℚ := 0

/-- `semantic_state`. -/
def PvObservation.semanticState (o : PvObservation) :
    Bool × Option Bool × Option PvSourceFailureReason × Option PvDormancyReason :=
  (o.validated, o.available, o.failureReason, o.dormantReason)

/-- `_observation_evidence`. -/
def observationEvidence (sourceId : String) (o : PvObservation) (sourceIds : Finset String) :
    Option PvDormancyEvidence :=
  if sourceId ∈ sourceIds ∧ o.validated = true ∧ o.available = some false then
    o.dormantReason.map fun reason => ⟨sourceId, reason, o.dormantObservedAt⟩
  else none

/-! ## Explicit dormancy -/

def dormantWords : List String := ["asleep", "dormant", "sleeping", "standby"]

def negatedDormantPhrases : List String := ["not asleep", "not dormant", "not sleeping", "not in standby"]

/-- `str.lower()` as far as ASCII letters come out of it. Besides the capital letters these are the Kelvin sign and
the dotted capital I. -/
def lowerChars (c : Char) : List Char :=
  if c = Char.ofNat 0x212A then ['k']
  else if c = Char.ofNat 0x130 then ['i', Char.ofNat 0x307]
  else [c.toLower]

/-- A character of `[a-z]`. -/
def isLowerAscii (c : Char) : Bool := decide ('a' ≤ c ∧ c ≤ 'z')

/-- `explicit_dormancy_error`. -/
def explicitDormancyError (error : String) : Bool :=
  let message := (strip error).toList.flatMap lowerChars
  if message.isEmpty || negatedDormantPhrases.any (fun phrase => decide (phrase.toList <:+: message)) then false
  else
    let words := message.splitOnP fun c => !isLowerAscii c
    dormantWords.any fun word => decide (word.toList ∈ words)

/-- `_finite_number`. An integer beyond the float range raises. -/
def finiteNumber : Value → Except PyError (Option ℚ)
  | .int i => if i.natAbs < floatOverflow then .ok (some i) else .error .overflowError
  | .float (.fin x) => .ok (some x)
  | _ => .ok none

/-! ## The tracker -/

/-- The limits of a tracker, as its constructor clamps a `PvDormancyPolicy`. -/
structure PvDormancyLimits where
  evidenceTtlSeconds : ℚ
  observationRetentionSeconds : ℚ
  maxObservations : Nat
  errorBackoffSeconds : ℚ

/-- The limits of a policy. -/
def PvDormancyLimits.clamp (evidenceTtlSeconds observationRetentionSeconds : ℚ) (maxObservations : Int)
    (errorBackoffSeconds : ℚ) : PvDormancyLimits where
  evidenceTtlSeconds := max 1 evidenceTtlSeconds
  observationRetentionSeconds := max (max 1 evidenceTtlSeconds) observationRetentionSeconds
  maxObservations := (max 1 maxObservations).toNat
  errorBackoffSeconds := max 0 errorBackoffSeconds

/-- A `PvDormancyTracker`. -/
structure PvDormancyTracker where
  limits : PvDormancyLimits
  observations : Dict String PvObservation
  revision : Nat
  /-- `_evidence_cache_key` and `_evidence_cache`. -/
  cache : RevisionCache (Finset String) (List PvDormancyEvidence)

namespace PvDormancyTracker

/-- A new tracker. -/
def start (limits : PvDormancyLimits) : PvDormancyTracker := ⟨limits, Dict.empty, 0, ⟨none, []⟩⟩

/-- The order of the eviction: inactive sources first, then the ones observed longest ago. -/
def EvictedBefore (observations : Dict String PvObservation) (active : Finset String) (a b : String) : Prop :=
  let rank := fun k => (if k ∈ active then 1 else 0 : Nat)
  let last := fun k => ((observations.get? k).map (·.lastObservedMonotonic)).getD 0
  rank a < rank b ∨ rank a = rank b ∧ (last a < last b ∨ last a = last b ∧ a ≤ b)

instance (observations : Dict String PvObservation) (active : Finset String) :
    DecidableRel (EvictedBefore observations active) :=
  fun _ _ => inferInstanceAs (Decidable (_ ∨ _))

/-- `_trim_to_capacity`. Every round removes one observation, so `fuel` is their number. -/
def trimToCapacity (active : Finset String) (targetSize : Nat) : Nat → Dict String PvObservation →
    Dict String PvObservation
  | 0, observations => observations
  | fuel + 1, observations =>
    if targetSize < observations.length then
      match observations.keys.insertionSort (EvictedBefore observations active) with
      | [] => observations
      | sourceId :: _ => trimToCapacity active targetSize fuel (observations.erase sourceId)
    else observations

/-- `_observation`: the observation of a source, and the others with room for it. -/
def observation (t : PvDormancyTracker) (sourceId : String) (active : Finset String) :
    PvObservation × Dict String PvObservation :=
  match t.observations.get? sourceId with
  | some o => (o, t.observations)
  | none => ({}, trimToCapacity active (t.limits.maxObservations - 1) t.observations.length t.observations)

/-- `_record_change`. -/
def recordChange (t : PvDormancyTracker) (changed : Bool) : PvDormancyTracker :=
  if changed then { t with revision := t.revision + 1 } else t

/-- Store the next observation of a source, and advance the revision when its semantic state changes. -/
def update (t : PvDormancyTracker) (sourceId : String) (active : Finset String)
    (next : PvObservation → PvObservation) : PvDormancyTracker × Bool :=
  let (o, others) := t.observation sourceId active
  let changed := decide ((next o).semanticState ≠ o.semanticState)
  ({ t with observations := others.set sourceId (next o) }.recordChange changed, changed)

/-- What `record_value` makes of an observation. -/
def confirmed (current : ℚ) (o : PvObservation) : PvObservation :=
  { o with
    validated := true
    available := some true
    failureReason := none
    dormantReason := none
    lastObservedMonotonic := current
    nextProbeMonotonic := 0 }

/-- `record_value`. -/
def recordValue (t : PvDormancyTracker) (sourceId : String) (value : Value) (active : Finset String)
    (monotonic : ℚ) : Except PyError (PvDormancyTracker × Bool) :=
  match finiteNumber value with
  | .error e => .error e
  | .ok none => .ok (t, false)
  | .ok (some _) => .ok (t.update sourceId active (confirmed monotonic))

/-- What `record_error` makes of an observation. -/
def failed (errorBackoffSeconds : ℚ) (explicit : Bool) (current wallClock : ℚ) (o : PvObservation) :
    PvObservation :=
  let o := { o with
    available := some false
    lastObservedMonotonic := current
    nextProbeMonotonic := current + errorBackoffSeconds }
  if explicit then
    { o with
      validated := true
      failureReason := none
      dormantReason := some .explicitDormantState
      dormantObservedAt := max 0 wallClock
      dormantObservedMonotonic := current }
  else if o.dormantReason = none then { o with failureReason := some .sourcePathUnreadable }
  else o

/-- `record_error`. -/
def recordError (t : PvDormancyTracker) (sourceId error : String) (active : Finset String)
    (monotonic wallClock : ℚ) : PvDormancyTracker × Bool :=
  t.update sourceId active (failed t.limits.errorBackoffSeconds (explicitDormancyError error) monotonic wallClock)

/-- The dormancy of an observation has expired. -/
def expires (limits : PvDormancyLimits) (current : ℚ) (o : PvObservation) : Bool :=
  o.dormantReason.isSome && decide (limits.evidenceTtlSeconds ≤ current - o.dormantObservedMonotonic)

/-- `_expire_dormancy` on one observation. -/
def expire (limits : PvDormancyLimits) (current : ℚ) (o : PvObservation) : PvObservation :=
  if expires limits current o then { o with dormantReason := none, failureReason := some .sourcePathUnreadable }
  else o

/-- An inactive observation is old enough to be pruned. -/
def prunes (limits : PvDormancyLimits) (active : Finset String) (current : ℚ) (sourceId : String)
    (o : PvObservation) : Bool :=
  decide (sourceId ∉ active ∧ limits.observationRetentionSeconds ≤ current - o.lastObservedMonotonic)

/-- `maintain`. -/
def maintain (t : PvDormancyTracker) (active : Finset String) (current : ℚ) : PvDormancyTracker × Bool :=
  let expired := t.observations.entries.any fun e => expires t.limits current e.2
  let observations := t.observations.mapVal fun _ o => expire t.limits current o
  let pruned := observations.entries.any fun e => prunes t.limits active current e.1 e.2
  let observations := observations.filter fun k o => !prunes t.limits active current k o
  ({ t with observations := observations }.recordChange (expired || pruned), expired || pruned)

/-- `probe_allowed`. -/
def probeAllowed (t : PvDormancyTracker) (sourceId : String) (monotonic : ℚ) : Bool :=
  match t.observations.get? sourceId with
  | none => true
  | some o => decide (o.nextProbeMonotonic ≤ monotonic)

/-- The evidence of the current observations. -/
def currentEvidence (t : PvDormancyTracker) (sourceIds : Finset String) : List PvDormancyEvidence :=
  (t.observations.keys.insertionSort (· ≤ ·)).filterMap fun sourceId =>
    (t.observations.get? sourceId).bind fun o => observationEvidence sourceId o sourceIds

/-- `evidence`. -/
def evidence (t : PvDormancyTracker) (sourceIds : Finset String) : List PvDormancyEvidence × PvDormancyTracker :=
  let answered := t.cache.query t.revision t.currentEvidence sourceIds
  (answered.1, { t with cache := answered.2 })

/-! ## What an update changes -/

variable {t : PvDormancyTracker} {sourceId : String} {active : Finset String}

theorem length_trimToCapacity (active : Finset String) (targetSize : Nat) {fuel : Nat} {observations : Dict String PvObservation}
    (hfuel : observations.length ≤ fuel) :
    (trimToCapacity active targetSize fuel observations).length ≤ targetSize := by
  induction fuel generalizing observations with
  | zero =>
    rw [trimToCapacity]
    omega
  | succ fuel ih =>
    rw [trimToCapacity]
    split_ifs with hover
    · cases hsort : observations.keys.insertionSort (EvictedBefore observations active) with
      | nil =>
        have hlength := (observations.keys.perm_insertionSort (EvictedBefore observations active)).length_eq
        rw [hsort, ← Dict.length_eq_keys, List.length_nil] at hlength
        omega
      | cons evicted rest =>
        have hmem : evicted ∈ observations.keys := by
          rw [← List.mem_insertionSort (EvictedBefore observations active), hsort]
          exact List.mem_cons_self
        have hfewer := Dict.length_erase_of_mem hmem
        exact ih (by omega)
    · omega

/-- The eviction adds no observation. -/
theorem get?_trimToCapacity (active : Finset String) (targetSize fuel : Nat)
    {observations : Dict String PvObservation} {k : String}
    (h : observations.get? k = none) : (trimToCapacity active targetSize fuel observations).get? k = none := by
  induction fuel generalizing observations with
  | zero => exact h
  | succ fuel ih =>
    rw [trimToCapacity]
    split_ifs
    · split
      · exact h
      · refine ih ?_
        rw [Dict.get?_erase, h, ite_self]
    · exact h

@[simp] theorem recordChange_observations (changed : Bool) :
    (t.recordChange changed).observations = t.observations := by
  cases changed <;> rfl

@[simp] theorem recordChange_limits (changed : Bool) : (t.recordChange changed).limits = t.limits := by
  cases changed <;> rfl

@[simp] theorem recordChange_cache (changed : Bool) : (t.recordChange changed).cache = t.cache := by
  cases changed <;> rfl

theorem update_cases (t : PvDormancyTracker) (sourceId : String) (active : Finset String)
    {next : PvObservation → PvObservation}
    (hnew : (next {}).semanticState ≠ ({} : PvObservation).semanticState) :
    ((t.update sourceId active next).1.revision = t.revision + 1 ∧
        ∀ o, t.observations.get? sourceId = some o → (next o).semanticState ≠ o.semanticState) ∨
      ∃ o, t.observations.get? sourceId = some o ∧ (next o).semanticState = o.semanticState ∧
        (t.update sourceId active next).1 = { t with observations := t.observations.set sourceId (next o) } := by
  unfold update observation
  cases hget : t.observations.get? sourceId with
  | none =>
    left
    refine ⟨?_, nofun⟩
    simp only [recordChange, hnew, ne_eq, not_false_eq_true, decide_true, if_true]
  | some o =>
    dsimp only
    by_cases hsame : (next o).semanticState = o.semanticState
    · exact .inr ⟨o, rfl, hsame, by simp [recordChange, hsame]⟩
    · left
      refine ⟨by simp [recordChange, hsame], fun o' ho' => ?_⟩
      obtain rfl := Option.some.inj ho'
      exact hsame

section

variable (next : PvObservation → PvObservation)

@[simp] theorem update_limits : (t.update sourceId active next).1.limits = t.limits := by
  simp [update]

@[simp] theorem update_cache : (t.update sourceId active next).1.cache = t.cache := by
  simp [update]

theorem revision_le_update : t.revision ≤ (t.update sourceId active next).1.revision := by
  unfold update recordChange
  dsimp only
  split_ifs
  · exact Nat.le_succ _
  · exact Nat.le_refl _

/-- An update keeps the number of observations within the limit. -/
theorem length_update (hpos : 1 ≤ t.limits.maxObservations)
    (h : t.observations.length ≤ t.limits.maxObservations) :
    (t.update sourceId active next).1.observations.length ≤ t.limits.maxObservations := by
  unfold update observation
  cases hget : t.observations.get? sourceId with
  | none =>
    have htrim := length_trimToCapacity active (t.limits.maxObservations - 1) (Nat.le_refl t.observations.length)
    have habsent := Dict.get?_eq_none_iff.mp
      (get?_trimToCapacity active (t.limits.maxObservations - 1) t.observations.length hget)
    simp only [recordChange_observations, Dict.length_set_of_notMem habsent]
    omega
  | some o =>
    have hmem : sourceId ∈ t.observations.keys := Dict.mem_keys_iff.mpr ⟨o, hget⟩
    simp only [recordChange_observations, Dict.length_eq_keys, Dict.keys_set_of_mem hmem]
    rwa [← Dict.length_eq_keys]

end

/-- A maintenance advances the revision, or it changes nothing. -/
theorem maintain_cases (t : PvDormancyTracker) (active : Finset String) (current : ℚ) :
    (t.maintain active current).1.revision = t.revision + 1 ∨ (t.maintain active current).1 = t := by
  unfold maintain
  dsimp only
  cases hexpired : t.observations.entries.any fun e => expires t.limits current e.2 with
  | true => exact .inl rfl
  | false =>
    rw [List.any_eq_false] at hexpired
    have hkept : (t.observations.mapVal fun _ o => expire t.limits current o) = t.observations :=
      Dict.mapVal_eq_self fun e he => if_neg (hexpired e he)
    rw [hkept]
    cases hpruned : t.observations.entries.any fun e => prunes t.limits active current e.1 e.2 with
    | true => exact .inl rfl
    | false =>
      rw [List.any_eq_false] at hpruned
      right
      rw [Dict.filter_eq_self fun e he => by simpa using hpruned e he]
      rfl

theorem length_maintain (t : PvDormancyTracker) (active : Finset String) (current : ℚ) :
    (t.maintain active current).1.observations.length ≤ t.observations.length := by
  unfold maintain
  simp only [recordChange_observations]
  refine Dict.length_le_of_get? fun k hk => ?_
  rw [Dict.get?_filter, Dict.get?_mapVal] at hk
  intro hnone
  exact hk (by rw [hnone]; rfl)

/-! ## The evidence -/

theorem observationEvidence_sourceId {o : PvObservation} {sourceIds : Finset String} {e : PvDormancyEvidence}
    (h : observationEvidence sourceId o sourceIds = some e) : e.sourceId = sourceId := by
  unfold observationEvidence at h
  split_ifs at h
  obtain ⟨reason, -, rfl⟩ := Option.map_eq_some_iff.mp h
  rfl

theorem mem_currentEvidence {sourceIds : Finset String} {e : PvDormancyEvidence} :
    e ∈ t.currentEvidence sourceIds ↔
      ∃ o, t.observations.get? e.sourceId = some o ∧ observationEvidence e.sourceId o sourceIds = some e := by
  unfold currentEvidence
  rw [List.mem_filterMap]
  constructor
  · intro h
    obtain ⟨k, -, hk⟩ := h
    obtain ⟨o, hget, hevidence⟩ := Option.bind_eq_some_iff.mp hk
    obtain rfl := observationEvidence_sourceId hevidence
    exact ⟨o, hget, hevidence⟩
  · intro h
    obtain ⟨o, hget, hevidence⟩ := h
    refine ⟨e.sourceId, ?_, Option.bind_eq_some_iff.mpr ⟨o, hget, hevidence⟩⟩
    exact (List.mem_insertionSort _).mpr (Dict.mem_keys_iff.mpr ⟨o, hget⟩)

/-- A new time of dormancy is the only thing that the same semantic state leaves open in the evidence. -/
theorem currentEvidence_redated {o o' : PvObservation} (hget : t.observations.get? sourceId = some o)
    (sourceIds : Finset String) :
    t.currentEvidence sourceIds =
        ({ t with observations := t.observations.set sourceId o' }).currentEvidence sourceIds ↔
      observationEvidence sourceId o sourceIds = observationEvidence sourceId o' sourceIds := by
  constructor
  · intro h
    -- the evidence of the source is a member of both lists under its own name
    have hmem (e : PvDormancyEvidence) (he : e.sourceId = sourceId) :
        observationEvidence sourceId o sourceIds = some e ↔ observationEvidence sourceId o' sourceIds = some e := by
      have hboth : e ∈ t.currentEvidence sourceIds ↔
          e ∈ ({ t with observations := t.observations.set sourceId o' }).currentEvidence sourceIds := by rw [h]
      simpa [mem_currentEvidence, he, hget] using hboth
    refine Option.ext fun e => ?_
    constructor
    · intro he
      exact (hmem e (observationEvidence_sourceId he)).mp he
    · intro he
      exact (hmem e (observationEvidence_sourceId he)).mpr he
  · intro h
    have hmem : sourceId ∈ t.observations.keys := Dict.mem_keys_iff.mpr ⟨o, hget⟩
    unfold currentEvidence
    rw [Dict.keys_set_of_mem hmem]
    refine List.filterMap_congr fun k _ => ?_
    rw [Dict.get?_set]
    split_ifs with hk
    · rw [hk, hget]
      exact h
    · rfl

end PvDormancyTracker

/-! ## Runs -/

/-- A call of the tracker, with the readings of its clocks. -/
inductive PvDormancyCall where
  | value (sourceId : String) (value : Value) (active : Finset String) (monotonic : ℚ)
  | error (sourceId error : String) (active : Finset String) (monotonic wallClock : ℚ)
  | maintain (active : Finset String) (monotonic : ℚ)
  | evidence (sourceIds : Finset String)

namespace PvDormancyTracker

/-- The tracker after a call. A value whose conversion raises changes nothing. -/
def step (t : PvDormancyTracker) : PvDormancyCall → PvDormancyTracker
  | .value sourceId value active monotonic =>
    match t.recordValue sourceId value active monotonic with
    | .ok (next, _) => next
    | .error _ => t
  | .error sourceId error active monotonic wallClock => (t.recordError sourceId error active monotonic wallClock).1
  | .maintain active monotonic => (t.maintain active monotonic).1
  | .evidence sourceIds => (t.evidence sourceIds).2

/-- Every query is answered as if it was computed from the current observations. -/
def Faithful (t : PvDormancyTracker) : Prop := ∀ sourceIds, (t.evidence sourceIds).1 = t.currentEvidence sourceIds

/-- The call sets a new time for the dormancy that the cached answer reports. -/
def Redates (t : PvDormancyTracker) : PvDormancyCall → Prop
  | .error sourceId error _ _ wallClock =>
    explicitDormancyError error = true ∧
      ∃ o, t.observations.get? sourceId = some o ∧
        o.semanticState = (true, some false, none, some .explicitDormantState) ∧
        o.dormantObservedAt ≠ max 0 wallClock ∧
        ∃ sourceIds, t.cache.key = some (t.revision, sourceIds) ∧ sourceId ∈ sourceIds
  | _ => False

/-- What holds in every state: the cache is not ahead of the revision, and the observations fit. -/
structure Kept (limits : PvDormancyLimits) (t : PvDormancyTracker) : Prop where
  sameLimits : t.limits = limits
  known : t.cache.Known t.revision
  bounded : t.observations.length ≤ limits.maxObservations

variable {t : PvDormancyTracker} {sourceId : String} {active : Finset String} {limits : PvDormancyLimits}

theorem faithful_iff_coherent : t.Faithful ↔ t.cache.Coherent t.revision t.currentEvidence :=
  RevisionCache.answers_iff_coherent

theorem kept_update (next : PvObservation → PvObservation) (hpos : 1 ≤ limits.maxObservations) (h : Kept limits t) :
    Kept limits (t.update sourceId active next).1 := by
  obtain ⟨rfl, hknown, hbounded⟩ := h
  refine ⟨update_limits next, ?_, length_update next hpos hbounded⟩
  rw [update_cache]
  exact hknown.mono (revision_le_update next)

/-- An update keeps the cache faithful exactly when the cached answer does not report what it changes silently. -/
theorem faithful_update_iff {next : PvObservation → PvObservation}
    (hnew : (next {}).semanticState ≠ ({} : PvObservation).semanticState) (hknown : t.cache.Known t.revision)
    (h : t.Faithful) :
    (t.update sourceId active next).1.Faithful ↔
      ∀ o, t.observations.get? sourceId = some o → (next o).semanticState = o.semanticState →
        ∀ sourceIds, t.cache.key = some (t.revision, sourceIds) →
          observationEvidence sourceId o sourceIds = observationEvidence sourceId (next o) sourceIds := by
  rw [faithful_iff_coherent] at h ⊢
  rw [update_cache]
  rcases update_cases t sourceId active hnew with ⟨hrevision, hchanged⟩ | hsilent
  · have hlater : t.revision < (t.update sourceId active next).1.revision := by omega
    exact iff_of_true (RevisionCache.coherent_of_later hknown hlater _)
      fun o ho hsame => absurd hsame (hchanged o ho)
  · obtain ⟨o, hget, hsame, hupdate⟩ := hsilent
    rw [hupdate, RevisionCache.coherent_iff_of_silent h]
    constructor
    · intro hall o' ho' _ sourceIds hkey
      obtain rfl := Option.some.inj (hget.symm.trans ho')
      exact (currentEvidence_redated hget sourceIds).mp (hall sourceIds hkey)
    · intro hall sourceIds hkey
      exact (currentEvidence_redated hget sourceIds).mpr (hall o hget hsame sourceIds hkey)

/-- The semantic state and the time of dormancy determine the evidence. -/
theorem observationEvidence_congr {o o' : PvObservation} (hstate : o'.semanticState = o.semanticState)
    (htime : o'.dormantObservedAt = o.dormantObservedAt) (sourceIds : Finset String) :
    observationEvidence sourceId o sourceIds = observationEvidence sourceId o' sourceIds := by
  simp only [PvObservation.semanticState, Prod.mk.injEq] at hstate
  obtain ⟨hvalidated, havailable, -, hreason⟩ := hstate
  unfold observationEvidence
  rw [hvalidated, havailable, hreason, htime]

/-- An observation that is dormant for an explicit reason is reported with its time. -/
theorem observationEvidence_dormant {o : PvObservation} {sourceIds : Finset String}
    (hstate : o.semanticState = (true, some false, none, some .explicitDormantState)) (hmem : sourceId ∈ sourceIds) :
    observationEvidence sourceId o sourceIds = some ⟨sourceId, .explicitDormantState, o.dormantObservedAt⟩ := by
  simp only [PvObservation.semanticState, Prod.mk.injEq] at hstate
  obtain ⟨hvalidated, havailable, -, hreason⟩ := hstate
  unfold observationEvidence
  rw [if_pos ⟨hmem, hvalidated, havailable⟩, hreason]
  rfl

theorem faithful_recordValue {value : Value} {monotonic : ℚ} {result : PvDormancyTracker × Bool}
    (hresult : t.recordValue sourceId value active monotonic = .ok result) (hknown : t.cache.Known t.revision)
    (h : t.Faithful) : result.1.Faithful := by
  unfold recordValue at hresult
  split at hresult
  · nomatch hresult
  · obtain rfl := Except.ok.inj hresult
    exact h
  · obtain rfl := Except.ok.inj hresult
    refine (faithful_update_iff (by simp [confirmed, PvObservation.semanticState]) hknown h).mpr ?_
    intro o hget hsame sourceIds hkey
    exact observationEvidence_congr hsame rfl sourceIds

/-- An error keeps the cache faithful exactly when it does not re-date the cached answer. -/
theorem faithful_recordError_iff {error : String} {monotonic wallClock : ℚ} (hknown : t.cache.Known t.revision)
    (h : t.Faithful) :
    (t.recordError sourceId error active monotonic wallClock).1.Faithful ↔
      ¬ t.Redates (.error sourceId error active monotonic wallClock) := by
  have hnew : (failed t.limits.errorBackoffSeconds (explicitDormancyError error) monotonic wallClock {}).semanticState ≠
      ({} : PvObservation).semanticState := by
    cases explicitDormancyError error <;> simp [failed, PvObservation.semanticState]
  unfold recordError
  rw [faithful_update_iff hnew hknown h]
  show _ ↔ ¬ (explicitDormancyError error = true ∧ _)
  cases explicitDormancyError error with
  | false =>
    refine iff_of_true (fun o hget hsame sourceIds hkey => observationEvidence_congr hsame ?_ sourceIds) (by simp)
    simp only [failed, Bool.false_eq_true, if_false]
    split_ifs <;> rfl
  | true =>
    constructor
    · intro hall hredates
      obtain ⟨-, o, hget, hstate, hne, sourceIds, hkey, hmem⟩ := hredates
      have hevidence := hall o hget hstate.symm sourceIds hkey
      rw [observationEvidence_dormant hstate hmem, observationEvidence_dormant rfl hmem] at hevidence
      exact hne (congrArg PvDormancyEvidence.observedAt (Option.some.inj hevidence))
    · intro hnot o hget hsame sourceIds hkey
      by_cases hmem : sourceId ∈ sourceIds
      · refine observationEvidence_congr hsame ?_ sourceIds
        by_contra hne
        exact hnot ⟨rfl, o, hget, hsame.symm, fun heq => hne heq.symm, sourceIds, hkey, hmem⟩
      · unfold observationEvidence
        rw [if_neg fun hreports => hmem hreports.1, if_neg fun hreports => hmem hreports.1]

theorem kept_step (call : PvDormancyCall) (hpos : 1 ≤ limits.maxObservations) (h : Kept limits t) :
    Kept limits (t.step call) := by
  cases call with
  | value sourceId value active monotonic =>
    unfold step recordValue
    dsimp only
    cases finiteNumber value with
    | error e => exact h
    | ok number =>
      cases number with
      | none => exact h
      | some x => exact kept_update _ hpos h
  | error sourceId error active monotonic wallClock => exact kept_update _ hpos h
  | maintain active monotonic =>
    have hbounded := (length_maintain t active monotonic).trans h.bounded
    refine ⟨?_, ?_, hbounded⟩
    · show (t.maintain active monotonic).1.limits = limits
      simp [maintain, h.sameLimits]
    · show (t.maintain active monotonic).1.cache.Known (t.maintain active monotonic).1.revision
      have hcache : (t.maintain active monotonic).1.cache = t.cache := by simp [maintain]
      rw [hcache]
      refine h.known.mono ?_
      rcases maintain_cases t active monotonic with hnext | hnext
      · omega
      · rw [hnext]
  | evidence sourceIds => exact ⟨h.sameLimits, RevisionCache.known_query h.known sourceIds, h.bounded⟩

/-- A call keeps the cache faithful exactly when it does not re-date the cached answer. -/
theorem faithful_step_iff (call : PvDormancyCall) (hkept : Kept limits t) (h : t.Faithful) :
    (t.step call).Faithful ↔ ¬ t.Redates call := by
  cases call with
  | value sourceId value active monotonic =>
    refine iff_of_true ?_ id
    show (match t.recordValue sourceId value active monotonic with
      | .ok (next, _) => next
      | .error _ => t).Faithful
    split
    · rename_i next changed hresult
      exact faithful_recordValue hresult hkept.known h
    · exact h
  | error sourceId error active monotonic wallClock => exact faithful_recordError_iff hkept.known h
  | maintain active monotonic =>
    refine iff_of_true ?_ id
    show (t.maintain active monotonic).1.Faithful
    rcases maintain_cases t active monotonic with hnext | hnext
    · rw [faithful_iff_coherent]
      have hcache : (t.maintain active monotonic).1.cache = t.cache := by simp [maintain]
      rw [hcache]
      exact RevisionCache.coherent_of_later hkept.known (by omega) _
    · rwa [hnext]
  | evidence sourceIds =>
    refine iff_of_true ?_ id
    rw [faithful_iff_coherent] at h ⊢
    exact RevisionCache.coherent_query h sourceIds

/-- In every state of a run the cache is faithful and the observations fit, exactly when no call re-dates the cached
answer. -/
theorem evidence_faithful_iff (evidenceTtlSeconds observationRetentionSeconds : ℚ) (maxObservations : Int)
    (errorBackoffSeconds : ℚ) (calls : List PvDormancyCall) :
    (∀ before after, calls = before ++ after →
        (run step (start (.clamp evidenceTtlSeconds observationRetentionSeconds maxObservations errorBackoffSeconds))
            before).Faithful ∧
          ((run step (start (.clamp evidenceTtlSeconds observationRetentionSeconds maxObservations
            errorBackoffSeconds)) before).observations.length : Int) ≤ max 1 maxObservations) ↔
      Along step (fun t call => ¬ t.Redates call)
        (start (.clamp evidenceTtlSeconds observationRetentionSeconds maxObservations errorBackoffSeconds)) calls := by
  generalize hlimits : PvDormancyLimits.clamp evidenceTtlSeconds observationRetentionSeconds maxObservations
    errorBackoffSeconds = limits
  have hmax : limits.maxObservations = (max 1 maxObservations).toNat := by rw [← hlimits]; rfl
  have hpos : 1 ≤ limits.maxObservations := by omega
  have hstart : Kept limits (start limits) := ⟨rfl, nofun, Nat.zero_le _⟩
  have hkept (before : List PvDormancyCall) : Kept limits (run step (start limits) before) :=
    run_invariant (fun t call h => kept_step call hpos h) hstart before
  have hstep : ∀ t call, Kept limits t → True → Kept limits (step t call) := fun t call h _ => kept_step call hpos h
  have hfaithful : ∀ t call, Kept limits t → True → Faithful t → (Faithful (step t call) ↔ ¬ t.Redates call) :=
    fun t call h _ ht => faithful_step_iff call h ht
  rw [← all_states_iff_along hstep hfaithful hstart (fun sourceIds => rfl)
    (along_of_forall_mem step fun _ _ => trivial)]
  refine forall_congr' fun before => forall_congr' fun after => imp_congr_right fun _ => and_iff_left ?_
  have hbounded := (hkept before).bounded
  omega

/-- The same explicit dormancy at a later time is still reported at the earlier one. -/
theorem repeated_dormancy_keeps_time :
    let t := run step (start (.clamp 64800 86400 64 300)) [.error "pv" "device dormant" {"pv"} 1 101,
      .evidence {"pv"}, .error "pv" "device dormant" {"pv"} 2 102]
    (t.evidence {"pv"}).1 = [⟨"pv", .explicitDormantState, 101⟩] ∧
      t.currentEvidence {"pv"} = [⟨"pv", .explicitDormantState, 102⟩] := by
  decide +kernel

end PvDormancyTracker

end VenusEvcharger
