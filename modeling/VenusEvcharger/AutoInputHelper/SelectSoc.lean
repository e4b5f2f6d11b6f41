import VenusEvcharger.AutoInputHelper.Aggregate
import VenusEvcharger.Energy.SourcePolling
import Mathlib.Data.Int.ConditionallyCompleteOrder

/-!
# The clocks of the combined state of charge

`select_soc` reports the combined state of charge with the oldest times of the sources that `weighted_soc_sources` finds,
which chooses among the observations of a physical battery by another rule than the cluster. `select_soc_clocks_iff` says
when both choose the same.
-/

namespace VenusEvcharger.AutoInputHelper

open Library SourcePolling

/-- `reduce(f64::min)`. -/
def oldest (times : List ℚ) : Option ℚ := times.min?

/-- A source has a state of charge and a capacity. -/
def complete (source : EnergySourceSnapshot) : Bool := source.soc.isSome && source.usableCapacityWh.any (0 < ·)

/-- A source replaces what is kept of its physical battery. -/
def replaces (source : EnergySourceSnapshot) : Option EnergySourceSnapshot → Bool
  | none => true
  | some existing =>
    source.physicalPriority > existing.physicalPriority ||
      (source.physicalPriority = existing.physicalPriority && source.confidence > existing.confidence)

/-- `weighted_soc_sources`. -/
def weightedSocSources (external : List EnergySourceSnapshot) (gateway : Option EnergySourceSnapshot) :
    List EnergySourceSnapshot :=
  let sources := external ++ gateway.toList
  let (independent, physical) := sources.foldl (fun (independent, physical) source =>
    if source.soc = none || source.usableCapacityWh.all (· ≤ 0) then (independent, physical)
    else if source.physicalId = "" then (independent ++ [source], physical)
    else if replaces source (physical.get? source.physicalId) then
      (independent, physical.set source.physicalId source)
    else (independent, physical))
    ([], Dict.empty)
  independent ++ intoValues physical

/-- `select_soc`: the state of charge with its epoch and its monotonic time. Of the gateway measurement only the monotonic
time is used. -/
def selectSoc (cluster : EnergyClusterSnapshot) (external : List EnergySourceSnapshot) (polls : List ExternalSourcePoll)
    (gateway : Option EnergySourceSnapshot) (gatewayMeasurement : Option ℚ) (useCombined : Bool) :
    Option ℚ × Option ℚ × Option ℚ :=
  match if useCombined then cluster.combinedSoc else none with
  | some soc =>
    let weighted := weightedSocSources external gateway
    let epoch := oldest (weighted.filterMap (·.capturedAt))
    let sourceIds := weighted.map (·.sourceId)
    let monotonicValues := (polls.filter (·.snapshot.sourceId ∈ sourceIds)).filterMap (·.observedMonotonic)
    let gatewayValues := if gateway.any (·.sourceId ∈ sourceIds) then gatewayMeasurement.toList else []
    (some soc, epoch, oldest (monotonicValues ++ gatewayValues))
  | none =>
    match external.find? fun source => source.online && source.soc.isSome && source.capturedAt.isSome with
    | some source =>
      (source.soc, source.capturedAt,
        (polls.find? (·.snapshot.sourceId = source.sourceId)).bind (·.observedMonotonic))
    | none =>
      match gateway with
      | none => (none, none, none)
      | some source => (source.soc, source.capturedAt, gatewayMeasurement)

/-! ## The sources of a cycle -/

section

variable (polls : List ExternalSourcePoll) (gateway : Option EnergySourceSnapshot)

/-- The external sources of `collect_cycle`. -/
def contributing : List EnergySourceSnapshot := (polls.filter (·.contributing)).map (·.snapshot)

/-- The sources that `collect_cycle` aggregates. -/
def cycleSources : List EnergySourceSnapshot := contributing polls ++ gateway.toList

/-- The observations of a physical battery. -/
def observations (battery : String) : List EnergySourceSnapshot :=
  (cycleSources polls gateway).filter (·.physicalId = battery)

/-- The order in which `weighted_soc_sources` prefers the observations of a battery. -/
def socPreference (source : EnergySourceSnapshot) : ℤ ×ₗ ℚ := toLex (source.physicalPriority, source.confidence)

/-- A source enters the combined state of charge: it is complete, and of a physical battery it is the first of the
observations with the highest quality. -/
def Enters (source : EnergySourceSnapshot) : Prop :=
  complete source = true ∧ (source.physicalId ≠ "" → source ∈ (observations polls gateway source.physicalId).argmax socQuality)

/-- The clocks of the combined state of charge are those of exactly the sources that enter it. -/
structure CarriesClocks (gatewayMeasurement : Option ℚ) (soc : ℚ) : Prop where
  chosen : (weightedSocSources (contributing polls) gateway).Perm (socContributions (cycleSources polls gateway))
  pollClocks : ∀ poll ∈ polls, poll.snapshot.sourceId ∈ (weightedSocSources (contributing polls) gateway).map (·.sourceId) ↔
    poll.contributing = true ∧ poll.snapshot ∈ socContributions (cycleSources polls gateway)
  gatewayClock : ∀ source ∈ gateway, source.sourceId ∈ (weightedSocSources (contributing polls) gateway).map (·.sourceId) ↔
    source ∈ socContributions (cycleSources polls gateway)
  times : selectSoc (aggregateEnergySources (cycleSources polls gateway)) (contributing polls) polls gateway
      gatewayMeasurement true =
    (some soc, oldest ((socContributions (cycleSources polls gateway)).filterMap (·.capturedAt)),
      oldest ((polls.filter fun poll =>
          poll.contributing && poll.snapshot ∈ socContributions (cycleSources polls gateway)).filterMap
            (·.observedMonotonic) ++
        if gateway.any (· ∈ socContributions (cycleSources polls gateway)) then gatewayMeasurement.toList else []))

/-- Both rules choose the same: of every physical battery the preferred one of the complete observations has the highest
quality of all observations, and a gateway source that shares its id with an external one enters when that one does. -/
structure RulesAgree : Prop where
  batteries : ∀ battery, battery ≠ "" →
    ∀ source ∈ ((observations polls gateway battery).filter (complete ·)).argmax socPreference,
      source ∈ (observations polls gateway battery).argmax socQuality
  ids : ∀ source ∈ gateway, ∀ poll ∈ polls, poll.snapshot.sourceId = source.sourceId →
    (Enters polls gateway source ↔ poll.contributing = true ∧ Enters polls gateway poll.snapshot)

end

/-! ## Both choices -/

variable {polls : List ExternalSourcePoll} {gateway : Option EnergySourceSnapshot}
  {source : EnergySourceSnapshot}

theorem weightedValue_isSome (source : EnergySourceSnapshot) : (weightedValue source).isSome = complete source := by
  unfold weightedValue complete
  cases source.soc with
  | none => rfl
  | some soc =>
    cases source.usableCapacityWh with
    | none => rfl
    | some capacity =>
      show (if 0 < capacity then some (soc, capacity) else none).isSome = (true && decide (0 < capacity))
      split <;> simp_all

/-- The test of `weighted_soc_sources` passes over the sources that are not complete. -/
theorem passedOver_iff (source : EnergySourceSnapshot) :
    (source.soc = none || source.usableCapacityWh.all (· ≤ 0)) = !complete source := by
  unfold complete
  cases source.soc with
  | none => rfl
  | some soc =>
    cases source.usableCapacityWh with
    | none => rfl
    | some capacity =>
      show (false || decide (capacity ≤ 0)) = !(true && decide (0 < capacity))
      by_cases hpos : 0 < capacity
      · simp [hpos, not_le.mpr hpos]
      · simp [hpos, not_lt.mp hpos]

theorem replaces_some (source existing : EnergySourceSnapshot) :
    replaces source (some existing) = decide (socPreference existing < socPreference source) := by
  unfold replaces socPreference
  rw [Bool.eq_iff_iff, decide_eq_true_eq, Prod.Lex.toLex_lt_toLex, Bool.or_eq_true, Bool.and_eq_true, decide_eq_true_eq,
    decide_eq_true_eq, decide_eq_true_eq, eq_comm (a := source.physicalPriority)]

/-- The complete independent sources, and the preferred complete observation of every physical battery. -/
theorem weightedSocSources_perm (external : List EnergySourceSnapshot) (gateway : Option EnergySourceSnapshot) :
    (weightedSocSources external gateway).Perm
      (((external ++ gateway.toList).filter (complete ·)).filter (·.physicalId = "") ++
        bestElements (·.physicalId) socPreference
          (((external ++ gateway.toList).filter (complete ·)).filter (¬ ·.physicalId = ""))) := by
  unfold weightedSocSources
  dsimp only
  generalize external ++ gateway.toList = sources
  have hloop : sources.foldl (fun (independent, physical) source =>
      if source.soc = none || source.usableCapacityWh.all (· ≤ 0) then (independent, physical)
      else if source.physicalId = "" then (independent ++ [source], physical)
      else if replaces source (physical.get? source.physicalId) then
        (independent, physical.set source.physicalId source)
      else (independent, physical)) ([], Dict.empty) =
      ((sources.filter (complete ·)).filter (·.physicalId = ""), bestByKey (·.physicalId) socPreference
        ((sources.filter (complete ·)).filter (¬ ·.physicalId = ""))) := by
    induction sources using List.reverseRecOn with
    | nil => rfl
    | append_singleton sources source ih =>
      rw [List.foldl_append, ih, List.filter_append]
      simp only [List.foldl_cons, List.foldl_nil, passedOver_iff]
      cases hcomplete : complete source with
      | false => simp [hcomplete]
      | true =>
        rw [List.filter_cons_of_pos hcomplete, List.filter_nil, List.filter_append, List.filter_append]
        by_cases hid : source.physicalId = ""
        · simp [hid]
        · rw [List.filter_cons_of_neg (by simpa using hid), List.filter_cons_of_pos (by simpa using hid),
            List.filter_nil, List.append_nil, List.filter_nil, bestByKey, bestByKey, List.foldl_append]
          simp only [Bool.not_true, Bool.false_eq_true, if_false, if_neg hid, List.foldl_cons, List.foldl_nil,
            selectBest]
          generalize List.foldl (selectBest (fun x => x.physicalId) socPreference) Dict.empty _ = physical
          cases hget : physical.get? source.physicalId with
          | none => exact if_pos rfl
          | some existing =>
            rw [replaces_some]
            dsimp only
            by_cases hless : socPreference existing < socPreference source
            · rw [if_pos hless, if_pos (decide_eq_true hless)]
            · rw [if_neg hless, if_neg (by simpa using hless)]
  rw [hloop]
  exact List.Perm.append_left _ (intoValues_perm _)

theorem filter_physical {battery : String} (h : battery ≠ "") (sources : List EnergySourceSnapshot) :
    (sources.filter (¬ ·.physicalId = "")).filter (·.physicalId = battery) =
      sources.filter (·.physicalId = battery) := by
  rw [List.filter_filter]
  refine List.filter_congr fun source _ => ?_
  by_cases hid : source.physicalId = battery
  · simp [hid, h]
  · simp [hid]

/-- The chosen observation of a physical battery is the first of the best ones. -/
theorem mem_bestElements_physical {ι : Type} [LinearOrder ι] {quality : EnergySourceSnapshot → ι}
    {sources : List EnergySourceSnapshot} :
    source ∈ bestElements (·.physicalId) quality (sources.filter (¬ ·.physicalId = "")) ↔
      source.physicalId ≠ "" ∧ source ∈ (sources.filter (·.physicalId = source.physicalId)).argmax quality := by
  rw [mem_bestElements_iff_argmax]
  by_cases hid : source.physicalId = ""
  · refine iff_of_false (fun hmem => ?_) fun h => h.1 hid
    have hmember := List.mem_of_mem_filter (List.argmax_mem hmem)
    rw [List.mem_filter] at hmember
    simp [hid] at hmember
  · rw [filter_physical hid]
    exact ⟨fun h => ⟨hid, h⟩, fun h => h.2⟩

theorem mem_socContributions_iff : source ∈ socContributions (cycleSources polls gateway) ↔
    source ∈ cycleSources polls gateway ∧ Enters polls gateway source := by
  rw [socContributions, List.mem_filter, (uniqueWeightedSocSources_perm _).mem_iff, List.mem_append,
    mem_bestElements_physical, weightedValue_isSome, List.mem_filter, decide_eq_true_eq]
  unfold Enters observations
  constructor
  · rintro ⟨hchosen, hcomplete⟩
    rcases hchosen with ⟨hmem, hid⟩ | ⟨hid, hbest⟩
    · exact ⟨hmem, hcomplete, fun hne => absurd hid hne⟩
    · exact ⟨List.mem_of_mem_filter (List.argmax_mem hbest), hcomplete, fun _ => hbest⟩
  · rintro ⟨hmem, hcomplete, hbest⟩
    refine ⟨?_, hcomplete⟩
    by_cases hid : source.physicalId = ""
    · exact .inl ⟨hmem, hid⟩
    · exact .inr ⟨hid, hbest hid⟩

/-- Both choices are the same when they are the same for every physical battery. -/
theorem weightedSocSources_perm_iff :
    (weightedSocSources (contributing polls) gateway).Perm (socContributions (cycleSources polls gateway)) ↔
      ∀ battery, battery ≠ "" →
        ∀ source ∈ ((observations polls gateway battery).filter (complete ·)).argmax socPreference,
          source ∈ (observations polls gateway battery).argmax socQuality := by
  have hweighted := weightedSocSources_perm (contributing polls) gateway
  have hcontributions : (socContributions (cycleSources polls gateway)).Perm
      (((cycleSources polls gateway).filter (complete ·)).filter (·.physicalId = "") ++
        (bestElements (·.physicalId) socQuality ((cycleSources polls gateway).filter (¬ ·.physicalId = ""))).filter
          (complete ·)) := by
    unfold socContributions
    simp only [weightedValue_isSome]
    refine ((uniqueWeightedSocSources_perm _).filter _).trans ?_
    rw [List.filter_append, List.filter_filter, List.filter_filter]
    simp only [Bool.and_comm]
    exact List.Perm.refl _
  rw [show contributing polls ++ gateway.toList = cycleSources polls gateway from rfl] at hweighted
  have hcommute : ((cycleSources polls gateway).filter (complete ·)).filter (¬ ·.physicalId = "") =
      ((cycleSources polls gateway).filter (¬ ·.physicalId = "")).filter (complete ·) := by
    rw [List.filter_filter, List.filter_filter]
    simp only [Bool.and_comm]
  have hpreferred (battery : String) : ((observations polls gateway battery).filter (complete ·)) =
      ((cycleSources polls gateway).filter (complete ·)).filter (·.physicalId = battery) := by
    unfold observations
    rw [List.filter_filter, List.filter_filter]
    simp only [Bool.and_comm]
  have hcancel : (weightedSocSources (contributing polls) gateway).Perm (socContributions (cycleSources polls gateway)) ↔
      (bestElements (·.physicalId) socPreference
          (((cycleSources polls gateway).filter (complete ·)).filter (¬ ·.physicalId = ""))).Perm
        ((bestElements (·.physicalId) socQuality ((cycleSources polls gateway).filter (¬ ·.physicalId = ""))).filter
          (complete ·)) := by
    constructor
    · intro h
      exact (List.perm_append_left_iff _).mp (hweighted.symm.trans (h.trans hcontributions))
    · intro h
      exact hweighted.trans ((h.append_left _).trans hcontributions.symm)
  rw [hcancel]
  constructor
  · intro hperm battery hbattery source hsource
    have hid : source.physicalId = battery := by
      have hmem := (List.mem_filter.mp (List.mem_of_mem_filter (List.argmax_mem hsource))).2
      rwa [decide_eq_true_eq] at hmem
    subst hid
    rw [hpreferred] at hsource
    have hchosen := hperm.mem_iff.mp (mem_bestElements_physical.mpr ⟨hbattery, hsource⟩)
    exact (mem_bestElements_physical.mp (List.mem_of_mem_filter hchosen)).2
  · intro h
    refine (List.perm_ext_iff_of_nodup (nodup_bestElements _ _ _).of_map
      ((nodup_bestElements _ _ _).of_map.filter _)).mpr fun source => ?_
    rw [List.mem_filter, mem_bestElements_physical, mem_bestElements_physical]
    constructor
    · intro ⟨hid, hsource⟩
      rw [← hpreferred] at hsource
      exact ⟨⟨hid, h source.physicalId hid source hsource⟩, (List.mem_filter.mp (List.argmax_mem hsource)).2⟩
    · intro ⟨⟨hid, hbest⟩, hcomplete⟩
      refine ⟨hid, ?_⟩
      rw [← hpreferred]
      cases hpreference : ((observations polls gateway source.physicalId).filter (complete ·)).argmax socPreference with
      | none =>
        -- the battery has a complete observation
        rw [List.argmax_eq_none, List.filter_eq_nil_iff] at hpreference
        exact absurd hcomplete (hpreference source (List.argmax_mem hbest))
      | some other =>
        have hother := h source.physicalId hid other hpreference
        exact Option.some.inj (hother.symm.trans hbest) ▸ rfl

/-! ## The clocks -/

theorem oldest_perm {times others : List ℚ} (h : times.Perm others) : oldest times = oldest others := by
  unfold oldest
  cases hmin : others.min? with
  | none =>
    rw [List.min?_eq_none_iff] at hmin ⊢
    rw [hmin] at h
    exact h.eq_nil
  | some time =>
    rw [List.min?_eq_some_iff] at hmin ⊢
    exact ⟨h.mem_iff.mpr hmin.1, fun other hother => hmin.2 other (h.mem_iff.mp hother)⟩

/-- Whenever the combined state of charge is reported, its clocks are those of exactly the sources that enter it if and
only if both rules agree on every physical battery. -/
theorem select_soc_clocks_iff (hids : (polls.map (·.snapshot.sourceId)).Nodup) {soc : ℚ}
    (hcombined : (aggregateEnergySources (cycleSources polls gateway)).combinedSoc = some soc)
    (gatewayMeasurement : Option ℚ) :
    CarriesClocks polls gateway gatewayMeasurement soc ↔ RulesAgree polls gateway := by
  have hgateway : ∀ source ∈ gateway, source ∈ cycleSources polls gateway := by
    intro source hsource
    exact List.mem_append_right _ (Option.mem_toList.mpr hsource)
  have hcontributing : ∀ poll ∈ polls, poll.contributing = true → poll.snapshot ∈ cycleSources polls gateway := by
    intro poll hpoll hcontributes
    exact List.mem_append_left _ (List.mem_map_of_mem (List.mem_filter.mpr ⟨hpoll, hcontributes⟩))
  constructor
  · intro h
    refine ⟨weightedSocSources_perm_iff.mp h.chosen, fun source hsource poll hpoll hid => ?_⟩
    have hcarried := h.pollClocks poll hpoll
    rw [hid, h.gatewayClock source hsource, mem_socContributions_iff, mem_socContributions_iff] at hcarried
    constructor
    · intro henters
      obtain ⟨hcontributes, -, hentered⟩ := hcarried.mp ⟨hgateway source hsource, henters⟩
      exact ⟨hcontributes, hentered⟩
    · rintro ⟨hcontributes, henters⟩
      exact (hcarried.mpr ⟨hcontributes, hcontributing poll hpoll hcontributes, henters⟩).2
  · intro h
    have hperm := weightedSocSources_perm_iff.mpr h.batteries
    have hcarried (sourceId : String) : sourceId ∈ (weightedSocSources (contributing polls) gateway).map (·.sourceId) ↔
        ∃ source ∈ cycleSources polls gateway, Enters polls gateway source ∧ source.sourceId = sourceId := by
      rw [(hperm.map _).mem_iff, List.mem_map]
      simp only [mem_socContributions_iff, and_assoc]
    have hpolls : ∀ poll ∈ polls,
        (poll.snapshot.sourceId ∈ (weightedSocSources (contributing polls) gateway).map (·.sourceId) ↔
          poll.contributing = true ∧ poll.snapshot ∈ socContributions (cycleSources polls gateway)) := by
      intro poll hpoll
      rw [hcarried, mem_socContributions_iff]
      constructor
      · rintro ⟨source, hsource, henters, hid⟩
        rcases List.mem_append.mp hsource with hexternal | hother
        · -- another poll has another id
          obtain ⟨found, hfound, rfl⟩ := List.mem_map.mp hexternal
          obtain ⟨hmem, hcontributes⟩ := List.mem_filter.mp hfound
          obtain rfl := List.inj_on_of_nodup_map hids hmem hpoll hid
          exact ⟨hcontributes, hsource, henters⟩
        · obtain ⟨hcontributes, hentered⟩ :=
            (h.ids source (Option.mem_toList.mp hother) poll hpoll hid.symm).mp henters
          exact ⟨hcontributes, hcontributing poll hpoll hcontributes, hentered⟩
      · rintro ⟨_, hsource, henters⟩
        exact ⟨poll.snapshot, hsource, henters, rfl⟩
    have hgateways : ∀ source ∈ gateway,
        (source.sourceId ∈ (weightedSocSources (contributing polls) gateway).map (·.sourceId) ↔
          source ∈ socContributions (cycleSources polls gateway)) := by
      intro source hsource
      rw [hcarried, mem_socContributions_iff]
      constructor
      · rintro ⟨found, hfound, henters, hid⟩
        refine ⟨hgateway source hsource, ?_⟩
        rcases List.mem_append.mp hfound with hexternal | hother
        · obtain ⟨poll, hpoll, rfl⟩ := List.mem_map.mp hexternal
          obtain ⟨hmem, hcontributes⟩ := List.mem_filter.mp hpoll
          exact (h.ids source hsource poll hmem hid).mpr ⟨hcontributes, henters⟩
        · rw [Option.mem_unique hsource (Option.mem_toList.mp hother)]
          exact henters
      · rintro ⟨hmem, henters⟩
        exact ⟨source, hmem, henters, rfl⟩
    refine ⟨hperm, hpolls, hgateways, ?_⟩
    unfold selectSoc
    rw [if_pos rfl, hcombined]
    dsimp only
    rw [oldest_perm (hperm.filterMap _)]
    have hpollClocks : (polls.filter (·.snapshot.sourceId ∈ (weightedSocSources (contributing polls) gateway).map
        (·.sourceId))) = polls.filter fun poll =>
          poll.contributing && poll.snapshot ∈ socContributions (cycleSources polls gateway) := by
      refine List.filter_congr fun poll hpoll => ?_
      rw [Bool.eq_iff_iff, decide_eq_true_eq, hpolls poll hpoll, Bool.and_eq_true, decide_eq_true_eq]
    have hgatewayClock : (gateway.any (·.sourceId ∈ (weightedSocSources (contributing polls) gateway).map
        (·.sourceId))) = gateway.any (· ∈ socContributions (cycleSources polls gateway)) := by
      cases gateway with
      | none => rfl
      | some source =>
        rw [Option.any_some, Option.any_some, Bool.eq_iff_iff, decide_eq_true_eq, decide_eq_true_eq]
        exact hgateways source rfl
    rw [hpollClocks, hgatewayClock]

/-- A battery that is read through one of two external sources. -/
def packSource (sourceId : String) (soc capturedAt : ℚ) : EnergySourceSnapshot :=
  { offlineSource ⟨sourceId, "battery", some 10000, true, 300, none, "pack", 0⟩ with
    soc := some soc
    online := true
    confidence := 1
    capturedAt := some capturedAt }

/-- The poll of a source that contributes. -/
def packPoll (sourceId : String) (soc capturedAt observedMonotonic : ℚ) : ExternalSourcePoll where
  snapshot := packSource sourceId soc capturedAt
  contributing := true
  pollStatus := "idle"
  measurementStatus := "fresh"
  attemptedAt := some capturedAt
  observedAt := some capturedAt
  nextPollAt := capturedAt
  ageSeconds := some 0
  consecutiveFailures := 0
  lastError := ""
  observedMonotonic := some observedMonotonic

/-- Two paths to one battery, of which both rules choose the first. -/
def packPolls : List ExternalSourcePoll := [packPoll "west" 20 975 75, packPoll "east" 80 1000 100]

theorem rulesAgree_packPolls : RulesAgree packPolls none := by
  refine ⟨fun battery _ source hsource => ?_, fun _ hnone => nomatch hnone⟩
  by_cases hpack : battery = "pack"
  · subst hpack
    have hpreferred : ((observations packPolls none "pack").filter (complete ·)).argmax socPreference =
        some (packSource "west" 20 975) := by decide +kernel
    have hbest : (observations packPolls none "pack").argmax socQuality = some (packSource "west" 20 975) := by
      decide +kernel
    rw [hbest]
    exact hpreferred ▸ hsource
  · have hnone : observations packPolls none battery = [] := by
      refine List.filter_eq_nil_iff.mpr fun found hfound hid => hpack ?_
      have hall : ∀ found ∈ cycleSources packPolls none, found.physicalId = "pack" := by decide +kernel
      exact (of_decide_eq_true hid).symm.trans (hall found hfound)
    rw [hnone] at hsource
    nomatch hsource

/-- The state of charge of the first path is reported with its times. -/
theorem select_soc_clocks_iff_packPolls :
    CarriesClocks packPolls none none 20 ∧
      socContributions (cycleSources packPolls none) = [packSource "west" 20 975] :=
  ⟨(select_soc_clocks_iff (by decide) (by decide +kernel) none).mpr rulesAgree_packPolls, by decide +kernel⟩

/-- With two paths of the same priority and confidence the value of the one is reported with the time of the other. -/
theorem soc_with_fresher_clock :
    let polls := [packPoll "east" 80 1000 100, packPoll "west" 20 975 75]
    (aggregateEnergySources (cycleSources polls none)).combinedSoc = some 20 ∧
      socContributions (cycleSources polls none) = [packSource "west" 20 975] ∧
      selectSoc (aggregateEnergySources (cycleSources polls none)) (contributing polls) polls none none true =
        (some 20, some 1000, some 100) ∧
      ¬ CarriesClocks polls none none 20 := by
  intro polls
  refine ⟨by decide +kernel, by decide +kernel, by decide +kernel, fun h => ?_⟩
  exact absurd h.chosen (by decide +kernel)

end VenusEvcharger.AutoInputHelper
