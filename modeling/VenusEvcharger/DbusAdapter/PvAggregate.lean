import Mathlib.Tactic.Linarith

/-!
# The PV aggregate

The PV total is read member by member, one physical read at a time. `PvLastGoodWindow` keeps the last
confirmed value of each member; after a timeout it stands in with a share that decays to zero.
`PvAggregateContinuity` plans the members of a cycle, and adds the estimates when the cycle completes.

Scope: the one read key of the PV total. The answers of the discovery, the advertised services and the
clock are inputs. Floats are rationals without rounding; a total that is no finite number is `none`.
The cache entries of the single members and the read intervals are left out.
-/

namespace VenusEvcharger

/-- A service with a path. -/
abbrev PvMember := String × String

/-- How the read of a member ends. -/
inductive MemberReply where
  | number (value : ℚ)
  /-- An infinity, or not a number. -/
  | nonFinite
  /-- `None`: no usable value. -/
  | missing
  /-- Any other value; the completion raises this error, and the error handler runs instead. -/
  | notNumeric (error : String)
  /-- The call fails; `isTimeout` is `dbus_error_is_timeout`. -/
  | failed (isTimeout : Bool) (error : String)
deriving DecidableEq

/-! ## `PvLastGoodWindow` -/

/-- `_LastGoodSample`. -/
structure LastGoodSample where
  value : ℚ
  holdStartedAt : Option ℚ
deriving DecidableEq

/-- `PvHoldEstimate`. -/
structure PvHoldEstimate where
  member : PvMember
  value : ℚ
  confidence : ℚ
  ageSeconds : ℚ

/-- The validated parameters of the window. -/
structure PvLastGoodPolicy where
  initialFactor : ℚ
  windowSeconds : ℚ
  initialFactor_nonneg : 0 ≤ initialFactor
  initialFactor_le_one : initialFactor ≤ 1
  windowSeconds_pos : 0 < windowSeconds

/-- `PV_LAST_GOOD_INITIAL_FACTOR` and `PV_LAST_GOOD_WINDOW_SECONDS`. -/
def PvLastGoodPolicy.default : PvLastGoodPolicy where
  initialFactor := 4 / 5
  windowSeconds := 5
  initialFactor_nonneg := by norm_num
  initialFactor_le_one := by norm_num
  windowSeconds_pos := by norm_num

/-- `_samples`. -/
abbrev PvSamples := PvMember → Option LastGoodSample

namespace PvSamples

/-- `record_confirmed`, for the result of `_finite_member_value`. -/
def recordConfirmed (samples : PvSamples) (member : PvMember) (value : Option ℚ) : PvSamples :=
  Function.update samples member (value.map (⟨·, none⟩))

/-- `record_error`: a timeout starts a hold unless one is running, any other error forgets the sample. -/
def recordError (samples : PvSamples) (member : PvMember) (isTimeout : Bool) (now : ℚ) : PvSamples :=
  if isTimeout then
    Function.update samples member ((samples member).map fun sample =>
      { sample with holdStartedAt := sample.holdStartedAt.or (some now) })
  else Function.update samples member none

/-- `retain_members`. -/
def retainMembers (samples : PvSamples) (members : List PvMember) : PvSamples :=
  fun member => if member ∈ members then samples member else none

end PvSamples

/-- `_estimate`. -/
def PvLastGoodPolicy.estimate (policy : PvLastGoodPolicy) (member : PvMember) (sample : LastGoodSample)
    (current : ℚ) : Option PvHoldEstimate :=
  match sample.holdStartedAt with
  | none => none
  | some startedAt =>
    let age := max 0 (current - startedAt)
    let remaining := max 0 (1 - age / policy.windowSeconds)
    let confidence := policy.initialFactor * remaining
    if confidence ≤ 0 then none else some ⟨member, sample.value * confidence, confidence, age⟩

/-- `estimates`. -/
def PvLastGoodPolicy.estimates (policy : PvLastGoodPolicy) (samples : PvSamples) (members : List PvMember)
    (current : ℚ) : PvSamples × List PvHoldEstimate :=
  let samples := samples.retainMembers members
  (samples, members.filterMap fun member =>
    (samples member).bind fun sample => policy.estimate member sample current)

/-! ## `AggregateState` -/

/-- `AggregateState` of a PV total; its signature is the list of members. -/
structure AggregateState where
  members : List PvMember
  emptyConfidence : ℚ
  index : Nat
  total : Option ℚ
  sources : List String
  errors : List String
  estimateConfidences : List ℚ

/-- The text of a member in the sources and errors. -/
def PvMember.sourceText (member : PvMember) : String := member.1 ++ member.2

namespace AggregateState

/-- A state with the given signature that has recorded nothing. -/
def fresh (members : List PvMember) (emptyConfidence : ℚ) : AggregateState where
  members := members
  emptyConfidence := emptyConfidence
  index := 0
  total := some 0
  sources := []
  errors := []
  estimateConfidences := []

/-- `record_member` of a number. -/
def recordMember (st : AggregateState) (member : PvMember) (value : Option ℚ) : AggregateState :=
  { st with
    total := st.total.bind fun total => value.map (total + ·)
    sources := st.sources ++ [PvMember.sourceText member] }

/-- `record_error`. -/
def recordError (st : AggregateState) (member : PvMember) (error : String) : AggregateState :=
  { st with errors := st.errors ++ [PvMember.sourceText member ++ ": " ++ error] }

/-- `record_estimate`. -/
def recordEstimate (st : AggregateState) (estimate : PvHoldEstimate) : AggregateState :=
  { st with
    total := st.total.map (· + estimate.value)
    sources := st.sources ++ [PvMember.sourceText estimate.member]
    estimateConfidences := st.estimateConfidences ++ [min 1 (max 0 estimate.confidence)] }

/-- `estimated`. -/
def estimated (st : AggregateState) : Bool := !st.estimateConfidences.isEmpty

/-- The `confidence` of the payload. -/
def confidence (st : AggregateState) : ℚ :=
  match st.estimateConfidences with
  | [] => if st.sources.isEmpty then st.emptyConfidence else 1
  | first :: rest => rest.foldl min first

/-- `state_for`. -/
def stateFor (held : Option AggregateState) (members : List PvMember) (emptyConfidence : ℚ) :
    AggregateState :=
  match held with
  | none => fresh members emptyConfidence
  | some st => if st.members = members then st else fresh members emptyConfidence

end AggregateState

/-! ## The executor and the continuity -/

/-- The read specification of the PV total. -/
structure PvReadSpec where
  key : String
  /-- `read_spec_source`. -/
  source : String
  optionalConfidence : ℚ
  optionalZeroOnError : Bool
  staleAfterSeconds : Option ℚ
  /-- `_pv_read_spec` sets the confidence to 0.2. -/
  optionalConfidence_nonneg : 0 ≤ optionalConfidence
  optionalConfidence_le_one : optionalConfidence ≤ 1

/-- The cache update of the PV total. A stale one has the status `stale`, is not confirmed and has the
reason `transient-hold`. -/
structure PvPublication where
  value : Option ℚ
  source : String
  confidence : ℚ
  lastError : String
  staleAfterSeconds : Option ℚ
  stale : Bool

/-- What a poll reads of the discovery: the explicit members when they are configured, else the advertised
candidates and those of them that may be probed. -/
structure PvPoll where
  explicitMembers : Option (List PvMember)
  candidates : List PvMember
  members : List PvMember
  advertised : List String
  /-- The rate limiter lets the read pass. -/
  submitted : Bool
  now : ℚ

/-- The PV part of `DbusReadExecutor`, with the member whose read is in flight and the publication of the
last step. -/
structure PvExecutor where
  samples : PvSamples
  candidates : List PvMember
  aggregate : Option AggregateState
  inFlight : Option PvMember
  published : Option PvPublication

namespace PvExecutor

/-- Nothing has been read. -/
def initial : PvExecutor where
  samples := fun _ => none
  candidates := []
  aggregate := none
  inFlight := none
  published := none

section Policy

variable (policy : PvLastGoodPolicy) (spec : PvReadSpec)

/-- `add_estimates`. -/
def addEstimates (s : PvExecutor) (st : AggregateState) (advertised : List String) (now : ℚ) :
    PvExecutor × AggregateState :=
  if st.estimated then (s, st)
  else
    let available := policy.estimates s.samples (s.candidates.filter (·.1 ∈ advertised)) now
    ({ s with samples := available.1 }, available.2.foldl .recordEstimate st)

/-- The payload of a completed state with its metadata. -/
def publication (st : AggregateState) : PvPublication where
  value := st.total
  source := if st.sources.isEmpty then spec.key else ",".intercalate st.sources
  confidence := st.confidence
  lastError := "; ".intercalate st.errors
  staleAfterSeconds := spec.staleAfterSeconds
  stale := st.estimated

/-- `complete`. -/
def complete (s : PvExecutor) (st : AggregateState) (advertised : List String) (now : ℚ) : PvExecutor :=
  let (s, st) := s.addEstimates policy st advertised now
  { s with published := some (publication spec st), aggregate := none, candidates := [] }

/-- `_mark_optional_zero`, or `_mark_read_error` which publishes no value. -/
def readError (s : PvExecutor) (error : String) : PvExecutor :=
  { s with
    aggregate := none
    candidates := []
    published :=
      if spec.optionalZeroOnError then
        some ⟨some 0, spec.source, spec.optionalConfidence, error, spec.staleAfterSeconds, false⟩
      else none }

/-- `_hold_only_state`, which completes at once or leaves no source to read. -/
def holdOnly (s : PvExecutor) (advertised : List String) (now : ℚ) : PvExecutor :=
  let (s, st) :=
    s.addEstimates policy (.stateFor s.aggregate [] spec.optionalConfidence) advertised now
  if st.estimated then s.complete policy spec st advertised now
  else s.readError spec "No available AC or DC PV source candidates"

/-- The members that the poll goes on with: those of a cycle in progress, else the planned ones. -/
def planMembers (s : PvExecutor) (p : PvPoll) : List PvMember :=
  match s.aggregate with
  | some st => st.members
  | none => p.explicitMembers.getD p.members

/-- `_poll_pv_total_step` with `plan`; the loop polls only while no operation is in flight. -/
def poll (s : PvExecutor) (p : PvPoll) : PvExecutor :=
  match s.inFlight with
  | some _ => { s with published := none }
  | none =>
    let candidates := p.explicitMembers.getD p.candidates
    let members := s.planMembers p
    let s := { s with
      samples := s.samples.retainMembers candidates
      candidates := candidates
      published := none }
    match members with
    | [] => s.holdOnly policy spec p.advertised p.now
    | _ :: _ =>
      let st := AggregateState.stateFor s.aggregate members spec.optionalConfidence
      { s with
        aggregate := some st
        inFlight := if p.submitted then members[st.index]? else none }

/-- What a reply leaves in the samples and in the state of the cycle. -/
def recordReply (s : PvExecutor) (st : AggregateState) (member : PvMember) (reply : MemberReply) (now : ℚ) :
    PvSamples × AggregateState :=
  match reply with
  | .number value => (s.samples.recordConfirmed member (some value), st.recordMember member (some value))
  | .nonFinite => (s.samples.recordConfirmed member none, st.recordMember member none)
  | .missing => (s.samples.recordConfirmed member none, st)
  | .notNumeric error =>
    ((s.samples.recordConfirmed member none).recordError member false now, st.recordError member error)
  | .failed isTimeout error =>
    (s.samples.recordError member isTimeout now, st.recordError member error)

/-- `_complete_aggregate_member` and `_complete_aggregate_error`. -/
def completeMember (s : PvExecutor) (reply : MemberReply) (advertised : List String) (now : ℚ) :
    PvExecutor :=
  match s.inFlight, s.aggregate with
  | some member, some st =>
    let (samples, st) := s.recordReply st member reply now
    let st := { st with index := st.index + 1 }
    let s := { s with samples := samples, inFlight := none, published := none, aggregate := some st }
    if st.members.length ≤ st.index then s.complete policy spec st advertised now else s
  | _, _ => { s with inFlight := none, published := none }

end Policy

end PvExecutor

/-! ## What an estimate is -/

section Estimates

variable {policy : PvLastGoodPolicy} {member : PvMember} {sample : LastGoodSample} {current : ℚ}
  {held : PvHoldEstimate}

theorem PvLastGoodPolicy.estimate_spec (h : policy.estimate member sample current = some held) :
    ∃ startedAt, sample.holdStartedAt = some startedAt ∧ current - startedAt < policy.windowSeconds ∧
      held.member = member ∧ held.value = sample.value * held.confidence ∧
      0 < held.confidence ∧ held.confidence ≤ policy.initialFactor := by
  unfold estimate at h
  split at h
  · cases h
  · next startedAt hstarted =>
    dsimp only at h
    split at h
    · cases h
    · next hpositive =>
      obtain rfl := Option.some.inj h
      rw [not_le] at hpositive
      refine ⟨startedAt, hstarted, ?_, rfl, rfl, hpositive, ?_⟩
      · by_contra hlong
        have hage : policy.windowSeconds ≤ max 0 (current - startedAt) :=
          (not_lt.mp hlong).trans (le_max_right _ _)
        have hover : 1 - max 0 (current - startedAt) / policy.windowSeconds ≤ 0 := by
          rw [sub_nonpos, le_div_iff₀ policy.windowSeconds_pos, one_mul]
          exact hage
        rw [max_eq_left hover, mul_zero] at hpositive
        exact lt_irrefl _ hpositive
      · have hshare : max 0 (1 - max 0 (current - startedAt) / policy.windowSeconds) ≤ 1 := by
          refine max_le zero_le_one ?_
          have := div_nonneg (le_max_left 0 (current - startedAt)) policy.windowSeconds_pos.le
          linarith
        exact mul_le_of_le_one_right policy.initialFactor_nonneg hshare

/-- The estimates are of distinct members that are asked for, each from its own sample. -/
theorem PvLastGoodPolicy.mem_estimates {samples : PvSamples} {members : List PvMember}
    (h : held ∈ (policy.estimates samples members current).2) :
    held.member ∈ members ∧ ∃ sample, samples held.member = some sample ∧
      policy.estimate held.member sample current = some held := by
  obtain ⟨member, hmem, hbind⟩ := List.mem_filterMap.mp h
  rw [PvSamples.retainMembers, if_pos hmem, Option.bind_eq_some_iff] at hbind
  obtain ⟨sample, hsample, hestimate⟩ := hbind
  obtain ⟨-, -, -, rfl, -⟩ := policy.estimate_spec hestimate
  exact ⟨hmem, sample, hsample, hestimate⟩

theorem PvLastGoodPolicy.estimates_nodup {samples : PvSamples} {members : List PvMember}
    (h : members.Nodup) : ((policy.estimates samples members current).2.map (·.member)).Nodup := by
  have hsub : ((policy.estimates samples members current).2.map (·.member)).Sublist members := by
    unfold estimates
    dsimp only
    generalize samples.retainMembers members = kept
    clear h
    induction members with
    | nil => exact List.Sublist.slnil
    | cons member members ih =>
      rw [List.filterMap_cons]
      split
      · exact ih.cons member
      · next estimate hestimate =>
        obtain ⟨sample, -, hsome⟩ := Option.bind_eq_some_iff.mp hestimate
        obtain ⟨-, -, -, hmember, -⟩ := policy.estimate_spec hsome
        rw [List.map_cons, hmember]
        exact ih.cons_cons member
  exact h.sublist hsub

/-- Recording estimates adds their values, and one confidence each. -/
theorem AggregateState.foldl_recordEstimate (st : AggregateState) (held : List PvHoldEstimate) :
    let after := held.foldl AggregateState.recordEstimate st
    after.total = st.total.map (· + (held.map (·.value)).sum) ∧
      after.estimateConfidences = st.estimateConfidences ++ held.map (min 1 <| max 0 ·.confidence) ∧
      after.emptyConfidence = st.emptyConfidence := by
  induction held generalizing st with
  | nil => simp
  | cons estimate held ih =>
    obtain ⟨htotal, hconfidences, hempty⟩ := ih (st.recordEstimate estimate)
    refine ⟨?_, ?_, hempty⟩
    · rw [List.foldl_cons, htotal, AggregateState.recordEstimate, Option.map_map, List.map_cons,
        List.sum_cons]
      congr 1
      funext total
      exact add_assoc _ _ _
    · rw [List.foldl_cons, hconfidences, AggregateState.recordEstimate, List.append_assoc]
      rfl

/-- The confidence of a state is one of its estimates', or that of an aggregate without estimates. -/
theorem AggregateState.confidence_bounds {st : AggregateState}
    (hestimates : ∀ confidence ∈ st.estimateConfidences, 0 ≤ confidence ∧ confidence ≤ 1)
    (hempty : 0 ≤ st.emptyConfidence ∧ st.emptyConfidence ≤ 1) :
    0 ≤ st.confidence ∧ st.confidence ≤ 1 := by
  have hmin : ∀ (rest : List ℚ) (first : ℚ), 0 ≤ first ∧ first ≤ 1 →
      (∀ confidence ∈ rest, 0 ≤ confidence ∧ confidence ≤ 1) →
      0 ≤ rest.foldl min first ∧ rest.foldl min first ≤ 1 := by
    intro rest
    induction rest with
    | nil => exact fun first hfirst _ => hfirst
    | cons next rest ih =>
      intro first hfirst hrest
      obtain ⟨hnext, hlater⟩ := List.forall_mem_cons.mp hrest
      exact ih (min first next) ⟨le_min hfirst.1 hnext.1, (min_le_left _ _).trans hfirst.2⟩ hlater
  unfold confidence
  split
  · split
    · exact hempty
    · exact ⟨zero_le_one, le_rfl⟩
  · next first rest hconfidences =>
    rw [hconfidences] at hestimates
    obtain ⟨hfirst, hrest⟩ := List.forall_mem_cons.mp hestimates
    exact hmin rest first hfirst hrest

end Estimates

end VenusEvcharger
