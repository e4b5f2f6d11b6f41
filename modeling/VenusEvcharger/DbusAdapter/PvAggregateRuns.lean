import VenusEvcharger.DbusAdapter.PvAggregate
import VenusEvcharger.Library.Run
import Mathlib.Data.List.Nodup

/-!
# The published PV sum

A run polls the PV total and receives replies, while the topology changes. Its history keeps the replies of
the current cycle and all earlier ones. `published_sum_bounded` says what every published sum consists of:
the values confirmed in its cycle and the estimates of other members, which the history bounds.
-/

namespace VenusEvcharger

open Library

/-! ## Histories -/

/-- The reply is a timeout. -/
def MemberReply.timedOut : MemberReply → Bool
  | .failed isTimeout _ => isTimeout
  | _ => false

/-- The value that a reply confirms. -/
def MemberReply.confirmed : MemberReply → Option ℚ
  | .number value => some value
  | _ => none

/-- A reply with its member and time. -/
structure TimedReply where
  member : PvMember
  reply : MemberReply
  time : ℚ

/-- The last confirmed value of a member, when only timeouts have followed, held since the first of these;
the newest reply stands first. -/
def lastGood (replies : List TimedReply) (member : PvMember) : Option LastGoodSample :=
  let own := replies.filter (·.member = member)
  match own.dropWhile (·.reply.timedOut) with
  | [] => none
  | last :: _ => last.reply.confirmed.map fun value =>
    ⟨value, (own.takeWhile (·.reply.timedOut)).getLast?.map (·.time)⟩

/-- The values that a cycle confirms. -/
def confirmedValues (cycle : List (PvMember × MemberReply)) : List (PvMember × ℚ) :=
  cycle.filterMap fun entry => entry.2.confirmed.map (entry.1, ·)

section LastGood

variable {replies : List TimedReply} {member : PvMember}

theorem lastGood_other {newest : TimedReply} (h : newest.member ≠ member) :
    lastGood (newest :: replies) member = lastGood replies member := by
  unfold lastGood
  rw [List.filter_cons_of_neg (by simpa using h)]

theorem lastGood_timeout {error : String} {now : ℚ} :
    lastGood (⟨member, .failed true error, now⟩ :: replies) member =
      (lastGood replies member).map fun sample =>
        { sample with holdStartedAt := sample.holdStartedAt.or (some now) } := by
  have htimeout : (MemberReply.failed true error).timedOut = true := rfl
  unfold lastGood
  rw [List.filter_cons_of_pos (by simp)]
  simp only [List.dropWhile_cons, htimeout, ↓reduceIte, List.takeWhile_cons]
  split
  · rfl
  · next last rest hrest =>
    cases last.reply.confirmed with
    | none => rfl
    | some value =>
      rw [List.getLast?_cons]
      cases ((replies.filter (·.member = member)).takeWhile (·.reply.timedOut)).getLast? with
      | none => rfl
      | some first => rfl

theorem lastGood_decided {reply : MemberReply} {now : ℚ} (h : reply.timedOut = false) :
    lastGood (⟨member, reply, now⟩ :: replies) member = reply.confirmed.map (⟨·, none⟩) := by
  unfold lastGood
  rw [List.filter_cons_of_pos (by simp)]
  simp only [List.dropWhile_cons, h, Bool.false_eq_true, ↓reduceIte, List.takeWhile_cons,
    List.getLast?_nil, Option.map_none]

end LastGood

/-! ## Runs -/

/-- A poll of the PV total, or the reply to the read in flight. -/
inductive PvEvent where
  | poll (p : PvPoll)
  | reply (reply : MemberReply) (advertised : List String) (now : ℚ)

/-- The executor with its history. -/
structure PvHistory where
  executor : PvExecutor
  /-- The candidates of the last poll. -/
  topology : List PvMember
  /-- The members that the last cycle was started with. -/
  plan : List PvMember
  /-- The replies of that cycle in order. -/
  cycle : List (PvMember × MemberReply)
  /-- All replies, the newest first. -/
  replies : List TimedReply

namespace PvEvent

/-- The services that the cache knows at the event. -/
def advertised : PvEvent → List String
  | .poll p => p.advertised
  | .reply _ advertised _ => advertised

def now : PvEvent → ℚ
  | .poll p => p.now
  | .reply _ _ now => now

end PvEvent

namespace PvHistory

/-- Nothing has been read. -/
def initial : PvHistory := ⟨.initial, [], [], [], []⟩

section Policy

variable (policy : PvLastGoodPolicy) (spec : PvReadSpec)

/-- One step of the executor, with what it adds to the history. -/
def step (h : PvHistory) (event : PvEvent) : PvHistory :=
  match event, h.executor.inFlight with
  | .poll p, none =>
    { h with
      executor := h.executor.poll policy spec p
      topology := p.explicitMembers.getD p.candidates
      plan := h.executor.planMembers p
      cycle := if h.executor.aggregate.isSome then h.cycle else [] }
  | .poll p, some _ => { h with executor := h.executor.poll policy spec p }
  | .reply reply advertised now, some member =>
    { h with
      executor := h.executor.completeMember policy spec reply advertised now
      cycle := h.cycle ++ [(member, reply)]
      replies := ⟨member, reply, now⟩ :: h.replies }
  | .reply reply advertised now, none =>
    { h with executor := h.executor.completeMember policy spec reply advertised now }

/-- The members are named once, and the reply is no infinity or NaN. -/
def Clean : PvEvent → Prop
  | .poll p => (p.explicitMembers.getD p.candidates).Nodup ∧ (p.explicitMembers.getD p.members).Nodup
  | .reply reply _ _ => reply ≠ .nonFinite

instance : ∀ event, Decidable (Clean event)
  | .poll _ => inferInstanceAs (Decidable (_ ∧ _))
  | .reply _ _ _ => inferInstanceAs (Decidable (_ ≠ _))


end Policy

/-- What a published sum consists of: every confirmed value of the cycle and the estimates `held`, of
distinct members. -/
structure Bounded (policy : PvLastGoodPolicy) (h : PvHistory) (advertised : List String) (now : ℚ)
    (p : PvPublication) (held : List PvHoldEstimate) : Prop where
  value_eq : p.value =
    some (((confirmedValues h.cycle).map (·.2)).sum + (held.map (·.value)).sum)
  once : ((confirmedValues h.cycle).map (·.1) ++ held.map (·.member)).Nodup
  confirmed_planned : ∀ entry ∈ confirmedValues h.cycle, entry.1 ∈ h.plan
  held_configured : ∀ estimate ∈ held, estimate.member ∈ h.topology ∧ estimate.member.1 ∈ advertised
  held_bounded : ∀ estimate ∈ held, ∃ value startedAt,
    lastGood h.replies estimate.member = some ⟨value, some startedAt⟩ ∧
      now - startedAt < policy.windowSeconds ∧ estimate.value = value * estimate.confidence ∧
      0 < estimate.confidence ∧ estimate.confidence ≤ policy.initialFactor
  stale_iff : p.stale = true ↔ held ≠ []
  confidence_bounds : 0 ≤ p.confidence ∧ p.confidence ≤ 1

/-- The samples are what the history says of their members. -/
def SamplesFaithful (samples : PvSamples) (replies : List TimedReply) : Prop :=
  ∀ member sample, samples member = some sample → lastGood replies member = some sample

/-- What holds of the state of a cycle: the total is that of the confirmed values, and no value that the
cycle has confirmed is held. -/
structure CycleFaithful (plan : List PvMember) (cycle : List (PvMember × MemberReply))
    (samples : PvSamples) (st : AggregateState) : Prop where
  members_eq : st.members = plan
  nodup : plan.Nodup
  cycle_eq : cycle.map (·.1) = plan.take st.index
  total_eq : st.total = some ((confirmedValues cycle).map (·.2)).sum
  no_estimates : st.estimateConfidences = []
  empty_bounds : 0 ≤ st.emptyConfidence ∧ st.emptyConfidence ≤ 1
  not_held : ∀ entry ∈ confirmedValues cycle, ∀ sample, samples entry.1 = some sample →
    sample.holdStartedAt = none

/-- What holds between the events of a run. -/
structure Faithful (h : PvHistory) : Prop where
  samples : SamplesFaithful h.executor.samples h.replies
  cycle : ∀ st, h.executor.aggregate = some st → CycleFaithful h.plan h.cycle h.executor.samples st
  progress : ∀ st, h.executor.aggregate = some st → st.index < h.plan.length
  candidates : ∀ st, h.executor.aggregate = some st →
    h.executor.candidates = h.topology ∧ h.topology.Nodup
  inFlight : ∀ member, h.executor.inFlight = some member → ∃ st,
    h.executor.aggregate = some st ∧ h.plan[st.index]? = some member

/-! ## Samples -/

section Samples

variable {samples : PvSamples} {replies : List TimedReply} {member : PvMember}

section

variable (h : SamplesFaithful samples replies)
include h

theorem SamplesFaithful.retain (members : List PvMember) :
    SamplesFaithful (samples.retainMembers members) replies := by
  intro member sample hsample
  unfold PvSamples.retainMembers at hsample
  split at hsample
  · exact h member sample hsample
  · cases hsample

/-- An update of one member's sample that agrees with the longer history. -/
theorem SamplesFaithful.update {reply : MemberReply} {now : ℚ}
    {value : Option LastGoodSample} (hvalue : ∀ sample, value = some sample →
      lastGood (⟨member, reply, now⟩ :: replies) member = some sample) :
    SamplesFaithful (Function.update samples member value) (⟨member, reply, now⟩ :: replies) := by
  intro other sample hsample
  by_cases heq : other = member
  · subst heq
    rw [Function.update_self] at hsample
    exact hvalue sample hsample
  · rw [Function.update_of_ne heq] at hsample
    rw [lastGood_other (Ne.symm heq)]
    exact h other sample hsample

theorem SamplesFaithful.timeout (error : String) (now : ℚ) :
    SamplesFaithful (samples.recordError member true now)
      (⟨member, .failed true error, now⟩ :: replies) := by
  refine h.update fun sample hsample => ?_
  obtain ⟨old, hold, rfl⟩ := Option.map_eq_some_iff.mp hsample
  rw [lastGood_timeout, h member old hold]
  rfl

theorem SamplesFaithful.decided {reply : MemberReply} (now : ℚ)
    {value : Option ℚ} (hreply : reply.timedOut = false) (hvalue : value = none ∨ value = reply.confirmed) :
    SamplesFaithful (samples.recordConfirmed member value) (⟨member, reply, now⟩ :: replies) := by
  refine h.update fun sample hsample => ?_
  rw [lastGood_decided hreply]
  rcases hvalue with rfl | rfl
  · cases hsample
  · exact hsample

end

theorem recordReply_samples {s : PvExecutor} (h : SamplesFaithful s.samples replies)
    (st : AggregateState) (member : PvMember) (reply : MemberReply) (now : ℚ) :
    SamplesFaithful (s.recordReply st member reply now).1 (⟨member, reply, now⟩ :: replies) := by
  cases reply with
  | number value => exact h.decided now rfl (.inr rfl)
  | nonFinite => exact h.decided now rfl (.inl rfl)
  | missing => exact h.decided now rfl (.inl rfl)
  | notNumeric error =>
    have hdecided : SamplesFaithful (s.samples.recordConfirmed member none)
        (⟨member, .notNumeric error, now⟩ :: replies) := h.decided now rfl (.inl rfl)
    have hsame : (s.recordReply st member (.notNumeric error) now).1 =
        s.samples.recordConfirmed member none := by
      simp [PvExecutor.recordReply, PvSamples.recordError, PvSamples.recordConfirmed]
    rw [hsame]
    exact hdecided
  | failed isTimeout error =>
    cases isTimeout with
    | true => exact h.timeout error now
    | false => exact h.decided now rfl (.inl rfl)

theorem recordReply_samples_other {s : PvExecutor} (st : AggregateState) {member other : PvMember}
    (reply : MemberReply) (now : ℚ) (hother : other ≠ member) :
    (s.recordReply st member reply now).1 other = s.samples other := by
  cases reply with
  | failed isTimeout error =>
    cases isTimeout <;>
      simp [PvExecutor.recordReply, PvSamples.recordError, Function.update_of_ne hother]
  | _ =>
    simp [PvExecutor.recordReply, PvSamples.recordError, PvSamples.recordConfirmed,
      Function.update_of_ne hother]

end Samples

/-! ## Cycles -/

section Cycles

variable {policy : PvLastGoodPolicy} {spec : PvReadSpec} {plan : List PvMember}
  {cycle : List (PvMember × MemberReply)} {s : PvExecutor} {st : AggregateState}

theorem confirmedValues_append (reply : MemberReply) (member : PvMember) :
    confirmedValues (cycle ++ [(member, reply)]) =
      confirmedValues cycle ++ (reply.confirmed.map (member, ·)).toList := by
  rw [confirmedValues, List.filterMap_append]
  cases hconfirmed : reply.confirmed with
  | none => simp [hconfirmed, confirmedValues]
  | some value => simp [hconfirmed, confirmedValues]

/-- The members of confirmed values are among those that were read. -/
theorem confirmedValues_sublist : ((confirmedValues cycle).map (·.1)).Sublist (cycle.map (·.1)) := by
  induction cycle with
  | nil => exact List.Sublist.slnil
  | cons entry cycle ih =>
    rw [confirmedValues, List.filterMap_cons]
    cases entry.2.confirmed with
    | none => exact ih.cons entry.1
    | some value => exact ih.cons_cons entry.1

/-- A reply that is no infinity or NaN adds its confirmed value to the total. -/
theorem recordReply_total {member : PvMember} {reply : MemberReply} (now : ℚ)
    (hclean : reply ≠ .nonFinite) :
    (s.recordReply st member reply now).2.total =
        st.total.map (· + ((reply.confirmed.map (member, ·)).toList.map (·.2)).sum) ∧
      (s.recordReply st member reply now).2.estimateConfidences = st.estimateConfidences ∧
      (s.recordReply st member reply now).2.emptyConfidence = st.emptyConfidence ∧
      (s.recordReply st member reply now).2.members = st.members ∧
      (s.recordReply st member reply now).2.index = st.index := by
  cases reply with
  | number value =>
    refine ⟨?_, rfl, rfl, rfl, rfl⟩
    cases htotal : st.total with
    | none => simp [PvExecutor.recordReply, AggregateState.recordMember, htotal]
    | some total =>
      simp [PvExecutor.recordReply, AggregateState.recordMember, htotal, MemberReply.confirmed]
  | nonFinite => exact absurd rfl hclean
  | missing =>
    refine ⟨?_, rfl, rfl, rfl, rfl⟩
    simp [PvExecutor.recordReply, MemberReply.confirmed]
  | notNumeric error =>
    refine ⟨?_, rfl, rfl, rfl, rfl⟩
    simp [PvExecutor.recordReply, MemberReply.confirmed, AggregateState.recordError]
  | failed isTimeout error =>
    refine ⟨?_, rfl, rfl, rfl, rfl⟩
    simp [PvExecutor.recordReply, MemberReply.confirmed, AggregateState.recordError]

theorem CycleFaithful.fresh (spec : PvReadSpec) (hplan : plan.Nodup) (samples : PvSamples) :
    CycleFaithful plan [] samples (.fresh plan spec.optionalConfidence) where
  members_eq := rfl
  nodup := hplan
  cycle_eq := rfl
  total_eq := rfl
  no_estimates := rfl
  empty_bounds := ⟨spec.optionalConfidence_nonneg, spec.optionalConfidence_le_one⟩
  not_held := nofun

theorem CycleFaithful.reply (h : CycleFaithful plan cycle s.samples st) {member : PvMember}
    (hmember : plan[st.index]? = some member) {reply : MemberReply} (now : ℚ)
    (hclean : reply ≠ .nonFinite) :
    CycleFaithful plan (cycle ++ [(member, reply)]) (s.recordReply st member reply now).1
      { (s.recordReply st member reply now).2 with index := st.index + 1 } := by
  obtain ⟨htotal, hestimates, hempty, hmembers, -⟩ :=
    recordReply_total now hclean
  have hnew : member ∉ cycle.map (·.1) := by
    rw [h.cycle_eq]
    obtain ⟨hlt, hget⟩ := List.getElem?_eq_some_iff.mp hmember
    intro hread
    obtain ⟨earlier, hearlier, heq⟩ := List.getElem_of_mem hread
    rw [List.getElem_take] at heq
    rw [List.length_take] at hearlier
    have hsame : earlier = st.index := h.nodup.getElem_inj_iff.mp (heq.trans hget.symm)
    omega
  refine
    { members_eq := hmembers.trans h.members_eq
      nodup := h.nodup
      cycle_eq := ?_
      total_eq := ?_
      no_estimates := hestimates.trans h.no_estimates
      empty_bounds := by rw [hempty]; exact h.empty_bounds
      not_held := ?_ }
  · rw [List.map_append, h.cycle_eq, List.take_add_one, hmember]
    rfl
  · rw [htotal, h.total_eq, confirmedValues_append, List.map_append, List.sum_append, Option.map_some]
  · intro entry hentry sample hsample
    rw [confirmedValues_append, List.mem_append] at hentry
    rcases hentry with hold | hlast
    · have hother : entry.1 ≠ member := by
        rintro rfl
        exact hnew (confirmedValues_sublist.subset (List.mem_map_of_mem hold))
      rw [recordReply_samples_other st reply now hother] at hsample
      exact h.not_held entry hold sample hsample
    · rw [Option.mem_toList, Option.map_eq_some_iff] at hlast
      obtain ⟨value, hconfirmed, rfl⟩ := hlast
      -- only a number confirms a value, and it starts without a hold
      cases reply with
      | number confirmed =>
        have hnow : Function.update s.samples member (some ⟨confirmed, none⟩) member = some sample :=
          hsample
        rw [Function.update_self] at hnow
        obtain rfl := Option.some.inj hnow
        rfl
      | _ => cases hconfirmed

end Cycles

/-! ## Publications -/

section Publications

variable {policy : PvLastGoodPolicy} {spec : PvReadSpec} {h : PvHistory} {s : PvExecutor}
  {st : AggregateState} {advertised : List String} {now : ℚ}

variable (policy spec advertised now) in
/-- A completed cycle publishes its confirmed values and the estimates of other members. -/
theorem bounded_of_cycle (hsamples : SamplesFaithful s.samples h.replies)
    (hcycle : CycleFaithful h.plan h.cycle s.samples st)
    (hcandidates : s.candidates = h.topology ∧ h.topology.Nodup) :
    let held := (policy.estimates s.samples (s.candidates.filter (·.1 ∈ advertised)) now).2
    Bounded policy h advertised now
      (PvExecutor.publication spec (held.foldl AggregateState.recordEstimate st)) held := by
  intro held
  obtain ⟨htotal, hconfidences, hempty⟩ := AggregateState.foldl_recordEstimate st held
  rw [hcycle.no_estimates, List.nil_append] at hconfidences
  -- An estimate comes from the sample of a configured member that is still being held.
  have hheld : ∀ estimate ∈ held, (estimate.member ∈ h.topology ∧ estimate.member.1 ∈ advertised) ∧
      ∃ sample startedAt, s.samples estimate.member = some sample ∧
        sample.holdStartedAt = some startedAt ∧ now - startedAt < policy.windowSeconds ∧
        estimate.value = sample.value * estimate.confidence ∧ 0 < estimate.confidence ∧
        estimate.confidence ≤ policy.initialFactor := by
    intro estimate hmem
    obtain ⟨hmember, sample, hsample, hestimate⟩ := policy.mem_estimates hmem
    obtain ⟨startedAt, hstarted, hage, -, hvalue, hpositive, hshare⟩ := policy.estimate_spec hestimate
    rw [List.mem_filter, hcandidates.1, decide_eq_true_eq] at hmember
    exact ⟨hmember, sample, startedAt, hsample, hstarted, hage, hvalue, hpositive, hshare⟩
  refine
    { value_eq := ?_
      once := ?_
      confirmed_planned := ?_
      held_configured := fun estimate hmem => (hheld estimate hmem).1
      held_bounded := ?_
      stale_iff := ?_
      confidence_bounds := ?_ }
  · exact htotal.trans (by rw [hcycle.total_eq, Option.map_some])
  · rw [List.nodup_append]
    refine ⟨?_, ?_, ?_⟩
    · have hread : (h.cycle.map (·.1)).Nodup := by
        rw [hcycle.cycle_eq]
        exact hcycle.nodup.sublist (List.take_sublist _ _)
      exact hread.sublist confirmedValues_sublist
    · refine policy.estimates_nodup ?_
      rw [hcandidates.1]
      exact hcandidates.2.filter _
    · rintro member hconfirmed _ hestimated rfl
      obtain ⟨entry, hentry, rfl⟩ := List.mem_map.mp hconfirmed
      obtain ⟨estimate, hmem, hsame⟩ := List.mem_map.mp hestimated
      obtain ⟨-, sample, startedAt, hsample, hstarted, -⟩ := hheld estimate hmem
      rw [hsame] at hsample
      rw [hcycle.not_held entry hentry sample hsample] at hstarted
      cases hstarted
  · intro entry hentry
    have hread : entry.1 ∈ h.cycle.map (·.1) :=
      confirmedValues_sublist.subset (List.mem_map_of_mem hentry)
    rw [hcycle.cycle_eq] at hread
    exact List.mem_of_mem_take hread
  · intro estimate hmem
    obtain ⟨-, sample, startedAt, hsample, hstarted, hage, hvalue, hbounds⟩ := hheld estimate hmem
    refine ⟨sample.value, startedAt, ?_, hage, hvalue, hbounds⟩
    rw [hsamples estimate.member sample hsample, ← hstarted]
  · rw [PvExecutor.publication, AggregateState.estimated, hconfidences]
    cases held with
    | nil => simp
    | cons estimate held => simp
  · refine AggregateState.confidence_bounds ?_ ?_
    · rw [hconfidences]
      intro confidence hmem
      obtain ⟨estimate, -, rfl⟩ := List.mem_map.mp hmem
      exact ⟨le_min zero_le_one (le_max_left _ _), min_le_left _ _⟩
    · rw [hempty]
      exact hcycle.empty_bounds

/-- What a step leaves behind, and what it publishes. -/
def StepBounded (policy : PvLastGoodPolicy) (h : PvHistory) (advertised : List String) (now : ℚ) : Prop :=
  Faithful h ∧ ∀ p, h.executor.published = some p → ∃ held, Bounded policy h advertised now p held

/-- Between two cycles only the samples matter. -/
theorem Faithful.idle (hsamples : SamplesFaithful h.executor.samples h.replies)
    (haggregate : h.executor.aggregate = none) (hinFlight : h.executor.inFlight = none) : Faithful h where
  samples := hsamples
  cycle := by simp [haggregate]
  progress := by simp [haggregate]
  candidates := by simp [haggregate]
  inFlight := by simp [hinFlight]

/-- Completing a cycle publishes a bounded sum. -/
theorem complete_bounded (hsamples : SamplesFaithful s.samples h.replies)
    (hcycle : CycleFaithful h.plan h.cycle s.samples st)
    (hcandidates : s.candidates = h.topology ∧ h.topology.Nodup) (hinFlight : s.inFlight = none)
    (hexecutor : h.executor = s.complete policy spec st advertised now) :
    StepBounded policy h advertised now := by
  have hestimated : st.estimated = false := by
    rw [AggregateState.estimated, hcycle.no_estimates]
    rfl
  rw [PvExecutor.complete, PvExecutor.addEstimates, if_neg (by simp [hestimated])] at hexecutor
  refine ⟨.idle ?_ (by rw [hexecutor]) (by rw [hexecutor]; exact hinFlight), fun p hp => ?_⟩
  · rw [hexecutor]
    exact hsamples.retain _
  · rw [hexecutor] at hp
    obtain rfl := Option.some.inj hp
    exact ⟨_, bounded_of_cycle policy spec advertised now hsamples hcycle hcandidates⟩

/-- Without a member to read, the estimates alone are published, or nothing but zero. -/
theorem holdOnly_bounded (hsamples : SamplesFaithful s.samples h.replies)
    (haggregate : s.aggregate = none) (hplan : h.plan = []) (hcycle : h.cycle = [])
    (hcandidates : s.candidates = h.topology ∧ h.topology.Nodup) (hinFlight : s.inFlight = none)
    (hexecutor : h.executor = s.holdOnly policy spec advertised now) :
    StepBounded policy h advertised now := by
  have hfresh : CycleFaithful h.plan h.cycle s.samples (.fresh [] spec.optionalConfidence) := by
    rw [hplan, hcycle]
    exact .fresh spec List.nodup_nil _
  have hestimates := bounded_of_cycle policy spec advertised now hsamples hfresh hcandidates
  have hnew : ¬ (AggregateState.fresh [] spec.optionalConfidence).estimated = true := Bool.false_ne_true
  rw [PvExecutor.holdOnly, haggregate, AggregateState.stateFor, PvExecutor.addEstimates,
    if_neg hnew] at hexecutor
  dsimp only at hexecutor
  split at hexecutor
  · next hestimated =>
    rw [PvExecutor.complete, PvExecutor.addEstimates, if_pos hestimated] at hexecutor
    refine ⟨.idle ?_ (by rw [hexecutor]) (by rw [hexecutor]; exact hinFlight), fun p hp => ?_⟩
    · rw [hexecutor]
      exact hsamples.retain _
    · rw [hexecutor] at hp
      obtain rfl := Option.some.inj hp
      exact ⟨_, hestimates⟩
  · refine ⟨.idle ?_ (by rw [hexecutor]; rfl) (by rw [hexecutor]; exact hinFlight), fun p hp => ?_⟩
    · rw [hexecutor]
      exact hsamples.retain _
    · rw [hexecutor, PvExecutor.readError] at hp
      simp only [Option.ite_none_right_eq_some, Option.some.injEq] at hp
      obtain ⟨-, rfl⟩ := hp
      refine ⟨[], ?_⟩
      exact
        { value_eq := by simp [hcycle, confirmedValues]
          once := by rw [hcycle]; exact List.nodup_nil
          confirmed_planned := by rw [hcycle]; exact nofun
          held_configured := nofun
          held_bounded := nofun
          stale_iff := by simp
          confidence_bounds := ⟨spec.optionalConfidence_nonneg, spec.optionalConfidence_le_one⟩ }

end Publications

/-! ## Steps and runs -/

section Steps

variable (policy : PvLastGoodPolicy) (spec : PvReadSpec)

/-- An event that finds nothing to do keeps the history, and publishes nothing. -/
theorem StepBounded.of_quiet {h after : PvHistory} (hf : Faithful h) {advertised : List String} {now : ℚ}
    (hsamples : after.executor.samples = h.executor.samples)
    (haggregate : after.executor.aggregate = h.executor.aggregate)
    (hcandidates : after.executor.candidates = h.executor.candidates)
    (hinFlight : ∀ member, after.executor.inFlight = some member → h.executor.inFlight = some member)
    (hpublished : after.executor.published = none)
    (hrest : after.topology = h.topology ∧ after.plan = h.plan ∧ after.cycle = h.cycle ∧
      after.replies = h.replies) : StepBounded policy after advertised now := by
  obtain ⟨htopology, hplan, hcycle, hreplies⟩ := hrest
  refine ⟨?_, fun p hp => ?_⟩
  · exact
      { samples := by rw [hsamples, hreplies]; exact hf.samples
        cycle := by rw [haggregate, hplan, hcycle, hsamples]; exact hf.cycle
        progress := by rw [haggregate, hplan]; exact hf.progress
        candidates := by rw [haggregate, hcandidates, htopology]; exact hf.candidates
        inFlight := fun member hmember => by
          rw [haggregate, hplan]
          exact hf.inFlight member (hinFlight member hmember) }
  · rw [hpublished] at hp
    cases hp

/-- The executor after a poll has stored the candidates. -/
def polled (h : PvHistory) (p : PvPoll) : PvExecutor :=
  { h.executor with
    samples := h.executor.samples.retainMembers (p.explicitMembers.getD p.candidates)
    candidates := p.explicitMembers.getD p.candidates
    published := none }

section Poll

variable {h : PvHistory} (hf : Faithful h) (hidle : h.executor.inFlight = none) {p : PvPoll} (hclean : Clean
  (.poll p))

include hf hidle hclean

/-- A poll goes on with a cycle in progress, whose members are kept. -/
theorem poll_continues {st : AggregateState} (haggregate : h.executor.aggregate = some st) :
    StepBounded policy (h.step policy spec (.poll p)) p.advertised p.now := by
  have hcycle := hf.cycle st haggregate
  have hprogress := hf.progress st haggregate
  have hmembers : h.executor.planMembers p = h.plan := by
    rw [PvExecutor.planMembers, haggregate]
    exact hcycle.members_eq
  obtain ⟨member, rest, hplan⟩ := List.exists_cons_of_length_pos (Nat.zero_lt_of_lt hprogress)
  have hstate : AggregateState.stateFor (some st) h.plan spec.optionalConfidence = st := if_pos hcycle.members_eq
  have hkept : CycleFaithful h.plan h.cycle (h.polled p).samples st :=
    { hcycle with
      not_held := fun entry hentry sample hsample => by
        unfold polled PvSamples.retainMembers at hsample
        dsimp only at hsample
        split at hsample
        · exact hcycle.not_held entry hentry sample hsample
        · cases hsample }
  have hpoll : h.executor.poll policy spec p =
      { h.polled p with aggregate := some st, inFlight := if p.submitted then h.plan[st.index]? else none } := by
    unfold PvExecutor.poll
    simp only [hidle, hmembers, haggregate, hstate]
    rw [hplan]
    rfl
  simp only [step, hidle, hmembers, haggregate, Option.isSome_some, ↓reduceIte, hpoll]
  refine ⟨?_, fun p hp => nomatch hp⟩
  exact
    { samples := hf.samples.retain _
      cycle := fun st' hst' => by
        obtain rfl := Option.some.inj hst'
        exact hkept
      progress := fun st' hst' => by
        obtain rfl := Option.some.inj hst'
        exact hprogress
      candidates := fun st' hst' => ⟨rfl, hclean.1⟩
      inFlight := fun member hmember => by
        dsimp only at hmember
        split at hmember
        · exact ⟨st, rfl, hmember⟩
        · cases hmember }

/-- A poll without members completes without a read. -/
theorem poll_holds (haggregate : h.executor.aggregate = none) (hplan : p.explicitMembers.getD p.members = []) :
    StepBounded policy (h.step policy spec (.poll p)) p.advertised p.now := by
  have hmembers : h.executor.planMembers p = p.explicitMembers.getD p.members := by
    rw [PvExecutor.planMembers, haggregate]
  have hpoll : h.executor.poll policy spec p = (h.polled p).holdOnly policy spec p.advertised p.now := by
    simp only [PvExecutor.poll, hidle, hmembers, hplan, polled]
  have hstep : h.step policy spec (.poll p) =
      { h with
        executor := h.executor.poll policy spec p
        topology := p.explicitMembers.getD p.candidates
        plan := []
        cycle := [] } := by
    simp only [step, hidle, hmembers, hplan, haggregate, Option.isSome_none, Bool.false_eq_true, ↓reduceIte]
  rw [hstep]
  exact holdOnly_bounded (s := h.polled p) (hf.samples.retain _) haggregate rfl rfl ⟨rfl, hclean.1⟩ hidle hpoll

theorem poll_starts (haggregate : h.executor.aggregate = none) {member : PvMember} {rest : List PvMember}
    (hplan : p.explicitMembers.getD p.members = member :: rest) :
    StepBounded policy (h.step policy spec (.poll p)) p.advertised p.now := by
  have hmembers : h.executor.planMembers p = p.explicitMembers.getD p.members := by
    rw [PvExecutor.planMembers, haggregate]
  have hstep : h.step policy spec (.poll p) =
      { h with
        executor := { h.polled p with
          aggregate := some (.fresh (member :: rest) spec.optionalConfidence)
          inFlight := if p.submitted then (member :: rest)[0]? else none }
        topology := p.explicitMembers.getD p.candidates
        plan := member :: rest
        cycle := [] } := by
    simp only [step, hidle, PvExecutor.poll, hmembers, hplan, haggregate, Option.isSome_none, Bool.false_eq_true,
      ↓reduceIte]
    rfl
  have hplanned := hclean.2
  rw [hplan] at hplanned
  rw [hstep]
  refine ⟨?_, fun p hp => nomatch hp⟩
  exact
    { samples := hf.samples.retain _
      cycle := fun st hst => by
        obtain rfl := Option.some.inj hst
        exact .fresh spec hplanned _
      progress := fun st hst => by
        obtain rfl := Option.some.inj hst
        exact Nat.succ_pos _
      candidates := fun st hst => ⟨rfl, hclean.1⟩
      inFlight := fun first hfirst => by
        dsimp only at hfirst
        split at hfirst
        · exact ⟨_, rfl, hfirst⟩
        · cases hfirst }

/-- A poll while nothing is in flight goes on with the cycle, starts one, or completes without a read. -/
theorem poll_bounded : StepBounded policy (h.step policy spec (.poll p)) p.advertised p.now := by
  cases haggregate : h.executor.aggregate with
  | some st => exact poll_continues policy spec hf hidle hclean haggregate
  | none =>
    cases hplan : p.explicitMembers.getD p.members with
    | nil => exact poll_holds policy spec hf hidle hclean haggregate hplan
    | cons member rest => exact poll_starts policy spec hf hidle hclean haggregate hplan

end Poll

/-- The state of a cycle after a reply. -/
def nextState (s : PvExecutor) (st : AggregateState) (member : PvMember) (reply : MemberReply) (now : ℚ) :
    AggregateState :=
  { (s.recordReply st member reply now).2 with index := st.index + 1 }

/-- The executor after a reply, before it looks whether the cycle is complete. -/
def afterReply (s : PvExecutor) (st : AggregateState) (member : PvMember) (reply : MemberReply) (now : ℚ) :
    PvExecutor :=
  { s with
    samples := (s.recordReply st member reply now).1
    inFlight := none
    published := none
    aggregate := some (nextState s st member reply now) }

/-- A reply to the read in flight goes to the next member, or completes the cycle. -/
theorem reply_bounded {h : PvHistory} (hf : Faithful h) {member : PvMember}
    (hinFlight : h.executor.inFlight = some member) (reply : MemberReply) (advertised : List String)
    (now : ℚ) (hclean : Clean (.reply reply advertised now)) :
    StepBounded policy (h.step policy spec (.reply reply advertised now)) advertised now := by
  obtain ⟨st, haggregate, hmember⟩ := hf.inFlight member hinFlight
  have hsamples := recordReply_samples hf.samples st member reply now
  have hcycle : CycleFaithful h.plan (h.cycle ++ [(member, reply)])
      (h.executor.recordReply st member reply now).1 (nextState h.executor st member reply now) :=
    (hf.cycle st haggregate).reply hmember now hclean
  have hcandidates := hf.candidates st haggregate
  have hprogress := hf.progress st haggregate
  have hindex : (h.executor.recordReply st member reply now).2.index = st.index :=
    (recordReply_total now hclean).2.2.2.2
  have hmembers : (h.executor.recordReply st member reply now).2.members.length = h.plan.length :=
    congrArg List.length hcycle.members_eq
  have hread : h.executor.completeMember policy spec reply advertised now =
      if h.plan.length ≤ st.index + 1 then
        (afterReply h.executor st member reply now).complete policy spec
          (nextState h.executor st member reply now) advertised now
      else afterReply h.executor st member reply now := by
    simp only [PvExecutor.completeMember, hinFlight, haggregate, hindex, hmembers, afterReply, nextState]
  have hstep : h.step policy spec (.reply reply advertised now) =
      { h with
        executor := h.executor.completeMember policy spec reply advertised now
        cycle := h.cycle ++ [(member, reply)]
        replies := ⟨member, reply, now⟩ :: h.replies } := by
    simp only [step, hinFlight]
  rw [hstep]
  by_cases hlast : h.plan.length ≤ st.index + 1
  · rw [if_pos hlast] at hread
    exact complete_bounded (s := afterReply h.executor st member reply now) hsamples hcycle hcandidates rfl
      hread
  · rw [hread, if_neg hlast]
    refine ⟨?_, fun p hp => nomatch hp⟩
    exact
      { samples := hsamples
        cycle := fun st' hst => by
          obtain rfl := Option.some.inj hst
          exact hcycle
        progress := fun st' hst => by
          obtain rfl := Option.some.inj hst
          show st.index + 1 < h.plan.length
          omega
        candidates := fun st' _ => hcandidates
        inFlight := fun _ hnone => nomatch hnone }

theorem step_bounded {h : PvHistory} (hf : Faithful h) (event : PvEvent) (hclean : Clean event) :
    StepBounded policy (h.step policy spec event) event.advertised event.now := by
  cases event with
  | poll p =>
    cases hinFlight : h.executor.inFlight with
    | none => exact poll_bounded policy spec hf hinFlight hclean
    | some member =>
      have hstep : h.step policy spec (.poll p) =
          { h with executor := { h.executor with published := none } } := by
        simp only [step, hinFlight, PvExecutor.poll]
      rw [hstep]
      exact .of_quiet policy hf rfl rfl rfl (fun _ hsame => hsame) rfl ⟨rfl, rfl, rfl, rfl⟩
  | reply reply advertised now =>
    cases hinFlight : h.executor.inFlight with
    | none =>
      have hstep : h.step policy spec (.reply reply advertised now) =
          { h with executor := { h.executor with inFlight := none, published := none } } := by
        simp only [step, hinFlight, PvExecutor.completeMember]
      rw [hstep]
      exact .of_quiet policy hf rfl rfl rfl nofun rfl ⟨rfl, rfl, rfl, rfl⟩
    | some member => exact reply_bounded policy spec hf hinFlight reply advertised now hclean

/-- What every publication of a run consists of. -/
def PublishesBounded (h : PvHistory) (event : PvEvent) : Prop :=
  ∀ p, (h.step policy spec event).executor.published = some p → ∃ held,
    Bounded policy (h.step policy spec event) event.advertised event.now p held

/-- In every run without a member named twice or a reply beyond the finite numbers, each published sum
adds, once each, the values confirmed in its cycle for the members the cycle was planned with and the
estimates of other members that are candidates now. -/
theorem published_sum_bounded (events : List PvEvent) (hclean : ∀ event ∈ events, Clean event) :
    Along (step policy spec) (PublishesBounded policy spec) initial events := by
  have hinitial : Faithful initial := .idle nofun rfl rfl
  have hallowed := along_of_forall_mem (step policy spec) (s := initial) hclean
  exact along_of_invariant (fun _ event hf hok => (step_bounded policy spec hf event hok).1)
    (fun _ event hf hok => (step_bounded policy spec hf event hok).2) hinitial hallowed

end Steps

/-! ### A cycle over a changing topology -/

/-- The read of the PV total with the defaults of its configuration. -/
def pvTotalSpec : PvReadSpec where
  key := "pv_power"
  source := "com.victronenergy.pvinverter"
  optionalConfidence := 1 / 5
  optionalZeroOnError := true
  staleAfterSeconds := none
  optionalConfidence_nonneg := by norm_num
  optionalConfidence_le_one := by norm_num

/-- A poll that finds the given inverters. -/
def pollOf (members : List PvMember) (now : ℚ) : PvEvent :=
  .poll ⟨none, members, members, members.map (·.1), true, now⟩

/-- Two inverters. -/
def roof : PvMember := ("com.victronenergy.pvinverter.roof", "/Ac/Power")

def barn : PvMember := ("com.victronenergy.pvinverter.barn", "/Ac/Power")

/-- After a timeout the published sum holds a share of the last value. -/
def heldCycle : List PvEvent :=
  [pollOf [roof] 0, .reply (.number 1000) [roof.1] 0, pollOf [roof] 1,
    .reply (.failed true "NoReply") [roof.1] 1]

example : (run (step .default pvTotalSpec) initial heldCycle).executor.published.map (·.value) =
    some (some 800) := by decide +kernel

theorem published_sum_bounded_heldCycle :
    Along (step .default pvTotalSpec) (PublishesBounded .default pvTotalSpec) initial heldCycle :=
  published_sum_bounded .default pvTotalSpec heldCycle (by decide +kernel)

/-- An inverter leaves the topology during a cycle that has already read it. -/
def removedDuringCycle : List PvEvent :=
  [pollOf [roof, barn] 0, .reply (.number 1000) [roof.1, barn.1] 0, pollOf [barn] 1,
    .reply (.number 500) [barn.1] 1]

/-- An inverter that draws power at night times out. -/
def negativeHeld : List PvEvent :=
  [pollOf [roof] 0, .reply (.number (-10)) [roof.1] 0, pollOf [roof] 1,
    .reply (.failed true "NoReply") [roof.1] 1]

/-- The sum of a cycle keeps the value of a member that has left the topology since, and the share of a
negative value exceeds it. -/
theorem removed_member_stays_in_cycle :
    (let h := run (step .default pvTotalSpec) initial removedDuringCycle;
      (∀ event ∈ removedDuringCycle, Clean event) ∧ h.topology = [barn] ∧
        h.executor.published.map (·.value) = some (some 1500) ∧
        confirmedValues h.cycle = [(roof, 1000), (barn, 500)]) ∧
      (let h := run (step .default pvTotalSpec) initial negativeHeld;
        (∀ event ∈ negativeHeld, Clean event) ∧ confirmedValues h.cycle = [] ∧
          lastGood h.replies roof = some ⟨-10, some 1⟩ ∧
          h.executor.published.map (·.value) = some (some (-8))) := by
  decide +kernel

end PvHistory

end VenusEvcharger
