import VenusEvcharger.Energy.Models
import VenusEvcharger.Library.KeyedSelection
import VenusEvcharger.Library.RunningStatistics
import VenusEvcharger.Python.Value
import Mathlib.Data.Prod.Lex
import Mathlib.Data.String.Basic

/-!
# The energy cluster

`aggregate_energy_sources` combines the snapshots of all sources. A physical battery that is observed through several
paths enters the weighted state of charge with its best observation; powers and limits of batteries are summed over
all observations; values with a scope key are counted once for every key, the first one in the order of the sources.
-/

namespace VenusEvcharger

open Library

/-- `sum_optional`. -/
def sumOptional (values : List (Option ℚ)) : Option ℚ :=
  let numericValues := values.filterMap id
  if numericValues.isEmpty then none else some numericValues.sum

namespace EnergySourceSnapshot

/-- `_soc_source_quality`. -/
def socSourceQuality (source : EnergySourceSnapshot) : Bool ×ₗ Bool ×ₗ ℤ ×ₗ ℚ ×ₗ String :=
  toLex (source.online, toLex (source.capturedAt.isSome, toLex (source.physicalPriority,
    toLex (source.confidence, source.sourceId))))

/-- `_weighted_soc_source_values`. -/
def weightedSocSourceValues (source : EnergySourceSnapshot) : Option (ℚ × ℚ) :=
  match source.soc, source.usableCapacityWh with
  | some soc, some usableCapacityWh => if usableCapacityWh ≤ 0 then none else some (soc, usableCapacityWh)
  | _, _ => none

end EnergySourceSnapshot

/-- `_scoped_numeric_value`, the scope key first. -/
def scopedNumericValue (value : EnergySourceSnapshot → Option ℚ) (scope : EnergySourceSnapshot → String)
    (source : EnergySourceSnapshot) : Option (String × ℚ) :=
  (value source).map fun value => (strip (scope source), value)

/-- Aggregated energy picture computed from normalized source snapshots. -/
structure EnergyClusterSnapshot where
  effectiveSoc : Option ℚ
  combinedSoc : Option ℚ
  combinedUsableCapacityWh : Option ℚ
  combinedChargePowerW : Option ℚ
  combinedDischargePowerW : Option ℚ
  combinedChargeLimitPowerW : Option ℚ
  combinedDischargeLimitPowerW : Option ℚ
  combinedNetBatteryPowerW : Option ℚ
  combinedAcPowerW : Option ℚ
  combinedPvInputPowerW : Option ℚ
  combinedGridInteractionW : Option ℚ
  averageConfidence : Option ℚ
  sourceCount : Nat
  onlineSourceCount : Nat
  validSocSourceCount : Nat
  batterySourceCount : Nat
  hybridInverterSourceCount : Nat
  inverterSourceCount : Nat

section

variable (sources : List EnergySourceSnapshot)

/-- `unique_weighted_soc_sources`. -/
def uniqueWeightedSocSources : List EnergySourceSnapshot :=
  let (independent, physical) := sources.foldl (fun (independent, physical) source =>
    if source.physicalId = "" then (independent ++ [source], physical)
    else (independent, selectBest (·.physicalId) (·.socSourceQuality) physical source)) ([], Dict.empty)
  independent ++ physical.entries.map Prod.snd

/-- `_weighted_soc`: the combined state of charge, the total capacity and the number of sources. -/
def weightedSoc : Option ℚ × Option ℚ × Nat :=
  let (totalCapacity, totalSocEnergy, count) := (uniqueWeightedSocSources sources).foldl
    (fun (totalCapacity, totalSocEnergy, count) source =>
      match source.weightedSocSourceValues with
      | none => (totalCapacity, totalSocEnergy, count)
      | some (soc, capacity) => (totalCapacity + capacity, totalSocEnergy + capacity * soc, count + 1))
    ((0, 0, 0) : ℚ × ℚ × Nat)
  if totalCapacity ≤ 0 then (none, none, count) else (some (totalSocEnergy / totalCapacity), some totalCapacity, count)

/-- `_sum_scoped_values`: of the values with one scope key the first counts. -/
def sumScopedValues (value : EnergySourceSnapshot → Option ℚ) (scope : EnergySourceSnapshot → String) : Option ℚ :=
  let numericValues := (keepFirst (· = "") [] (sources.filterMap (scopedNumericValue value scope))).map Prod.snd
  if numericValues.isEmpty then none else some numericValues.sum

/-- `_average_confidence`. -/
def averageConfidence : Option ℚ := mean ((sources.map (·.confidence)).filter (0 ≤ ·))

/-- `_effective_soc`. -/
def effectiveSoc (combinedSoc : Option ℚ) : Option ℚ :=
  match combinedSoc with
  | some combinedSoc => some combinedSoc
  | none =>
    match sources.filter fun source => source.online && source.soc.isSome with
    | [fallback] => fallback.soc
    | _ => none

/-- `_role_count`. -/
def roleCount (role : String) : Nat := sources.countP (·.role = role)

/-- `aggregate_energy_sources`. -/
def aggregateEnergySources : EnergyClusterSnapshot where
  effectiveSoc := effectiveSoc sources (weightedSoc sources).1
  combinedSoc := (weightedSoc sources).1
  combinedUsableCapacityWh := (weightedSoc sources).2.1
  combinedChargePowerW := sumOptional (sources.map (·.chargePowerW))
  combinedDischargePowerW := sumOptional (sources.map (·.dischargePowerW))
  combinedChargeLimitPowerW := sumOptional (sources.map (·.chargeLimitPowerW))
  combinedDischargeLimitPowerW := sumOptional (sources.map (·.dischargeLimitPowerW))
  combinedNetBatteryPowerW := sumOptional (sources.map (·.netBatteryPowerW))
  combinedAcPowerW := sumScopedValues sources (·.acPowerW) (·.acPowerScopeKey)
  combinedPvInputPowerW := sumScopedValues sources (·.pvInputPowerW) (·.pvInputPowerScopeKey)
  combinedGridInteractionW := sumScopedValues sources (·.gridInteractionW) (·.gridInteractionScopeKey)
  averageConfidence := averageConfidence sources
  sourceCount := sources.length
  onlineSourceCount := sources.countP (·.online)
  validSocSourceCount := (weightedSoc sources).2.2
  batterySourceCount := roleCount sources "battery"
  hybridInverterSourceCount := roleCount sources "hybrid-inverter"
  inverterSourceCount := roleCount sources "inverter"

end

/-! ## The observations that count -/

variable {sources : List EnergySourceSnapshot}

open EnergySourceSnapshot

/-- The independent sources, and the best observation of every physical battery. -/
theorem uniqueWeightedSocSources_eq (sources : List EnergySourceSnapshot) : uniqueWeightedSocSources sources =
    sources.filter (·.physicalId = "") ++
      bestElements physicalId socSourceQuality (sources.filter (¬ ·.physicalId = "")) := by
  have hloop : sources.foldl (fun (independent, physical) source =>
      if source.physicalId = "" then (independent ++ [source], physical)
      else (independent, selectBest physicalId socSourceQuality physical source)) ([], Dict.empty) =
      (sources.filter (·.physicalId = ""), bestByKey physicalId socSourceQuality
        (sources.filter (¬ ·.physicalId = ""))) := by
    induction sources using List.reverseRecOn with
    | nil => rfl
    | append_singleton sources source ih =>
      rw [List.foldl_append, ih, List.filter_append, List.filter_append]
      by_cases hid : source.physicalId = ""
      · simp [hid]
      · simp [hid, bestByKey]
  unfold uniqueWeightedSocSources
  rw [hloop]
  rfl

/-- The observations that enter the combined state of charge. -/
def socContributions (sources : List EnergySourceSnapshot) : List EnergySourceSnapshot :=
  (uniqueWeightedSocSources sources).filter (·.weightedSocSourceValues.isSome)

/-- The state of charge and the capacity of those observations. -/
def socContributionValues (sources : List EnergySourceSnapshot) : List (ℚ × ℚ) :=
  (uniqueWeightedSocSources sources).filterMap weightedSocSourceValues

theorem capacity_pos {x : ℚ × ℚ} (h : x ∈ socContributionValues sources) : 0 < x.2 := by
  obtain ⟨source, -, hvalues⟩ := List.mem_filterMap.mp h
  unfold weightedSocSourceValues at hvalues
  split at hvalues
  · split at hvalues
    · nomatch hvalues
    · rename_i hpos
      rw [← Option.some.inj hvalues]
      exact not_le.mp hpos
  · nomatch hvalues

theorem length_socContributionValues : (socContributionValues sources).length = (socContributions sources).length := by
  rw [socContributionValues, socContributions, List.length_filterMap_eq_countP, List.countP_eq_length_filter]

/-- The combined state of charge is the mean of the contributions, weighted by their capacities. -/
theorem weightedSoc_eq (sources : List EnergySourceSnapshot) : weightedSoc sources =
    if (socContributionValues sources).isEmpty then (none, none, 0)
    else (some (weightedSum (socContributionValues sources) / totalWeight (socContributionValues sources)),
      some (totalWeight (socContributionValues sources)), (socContributionValues sources).length) := by
  have hloop (totals : ℚ × ℚ × Nat) : (uniqueWeightedSocSources sources).foldl
      (fun (totalCapacity, totalSocEnergy, count) source =>
        match source.weightedSocSourceValues with
        | none => (totalCapacity, totalSocEnergy, count)
        | some (soc, capacity) => (totalCapacity + capacity, totalSocEnergy + capacity * soc, count + 1)) totals =
      (totals.1 + totalWeight (socContributionValues sources), totals.2.1 + weightedSum (socContributionValues sources),
        totals.2.2 + (socContributionValues sources).length) := by
    unfold socContributionValues
    induction uniqueWeightedSocSources sources generalizing totals with
    | nil => simp [totalWeight, weightedSum]
    | cons source rest ih =>
      obtain ⟨totalCapacity, totalSocEnergy, count⟩ := totals
      rw [List.foldl_cons, ih]
      cases hvalues : source.weightedSocSourceValues with
      | none => rw [List.filterMap_cons_none hvalues]
      | some x =>
        rw [List.filterMap_cons_some hvalues]
        simp only [totalWeight, weightedSum, List.map_cons, List.sum_cons, List.length_cons, Prod.mk.injEq]
        exact ⟨by ring, by ring, by omega⟩
  unfold weightedSoc
  rw [hloop (0, 0, 0)]
  dsimp only
  rw [zero_add, zero_add, zero_add]
  cases hvalues : socContributionValues sources with
  | nil => rfl
  | cons x xs =>
    have hpos : 0 < totalWeight (socContributionValues sources) :=
      totalWeight_pos (fun _ hx => capacity_pos hx) (by rw [hvalues]; exact List.cons_ne_nil _ _)
    rw [hvalues] at hpos
    rw [if_neg (not_le.mpr hpos)]
    rfl

/-! ## The order of the sources -/

theorem sumOptional_perm {xs ys : List (Option ℚ)} (h : xs.Perm ys) : sumOptional xs = sumOptional ys := by
  have hvalues := h.filterMap id
  unfold sumOptional
  dsimp only
  rw [hvalues.sum_eq, hvalues.isEmpty_eq]

/-- Distinct source ids make the qualities distinct. -/
theorem socSourceQuality_inj (hids : (sources.map (·.sourceId)).Nodup) : ∀ a ∈ sources, ∀ b ∈ sources,
    a.socSourceQuality = b.socSourceQuality → a = b := by
  intro a ha b hb h
  have hid : a.sourceId = b.sourceId := congrArg (fun quality => (ofLex (ofLex (ofLex (ofLex quality).2).2).2).2) h
  exact List.inj_on_of_nodup_map hids ha hb hid

variable {other : List EnergySourceSnapshot}

section

variable (h : sources.Perm other)
include h

theorem uniqueWeightedSocSources_perm (hids : (sources.map (·.sourceId)).Nodup) :
    (uniqueWeightedSocSources sources).Perm (uniqueWeightedSocSources other) := by
  rw [uniqueWeightedSocSources_eq, uniqueWeightedSocSources_eq]
  refine (h.filter _).append (bestElements_perm (h.filter _) ?_)
  intro a ha b hb
  exact socSourceQuality_inj hids a (List.mem_of_mem_filter ha) b (List.mem_of_mem_filter hb)

theorem weightedSoc_perm (hids : (sources.map (·.sourceId)).Nodup) :
    weightedSoc sources = weightedSoc other := by
  have hvalues : (socContributionValues sources).Perm (socContributionValues other) :=
    (uniqueWeightedSocSources_perm h hids).filterMap _
  rw [weightedSoc_eq, weightedSoc_eq, weightedSum, weightedSum, totalWeight, totalWeight, hvalues.isEmpty_eq,
    (hvalues.map _).sum_eq, (hvalues.map _).sum_eq, hvalues.length_eq]

theorem effectiveSoc_perm (combinedSoc : Option ℚ) :
    effectiveSoc sources combinedSoc = effectiveSoc other combinedSoc := by
  unfold effectiveSoc
  cases combinedSoc with
  | some combinedSoc => rfl
  | none =>
    have hfallback := h.filter fun source => source.online && source.soc.isSome
    dsimp only
    split
    · rename_i fallback heq
      rw [heq] at hfallback
      rw [← List.singleton_perm.mp hfallback]
    · rename_i hnot
      split
      · rename_i fallback heq
        rw [heq] at hfallback
        exact absurd (List.perm_singleton.mp hfallback) (hnot fallback)
      · rfl

theorem averageConfidence_perm : averageConfidence sources = averageConfidence other := by
  have hvalues := (h.map (·.confidence)).filter (0 ≤ ·)
  rw [averageConfidence, averageConfidence, mean, mean, hvalues.isEmpty_eq, hvalues.sum_eq, hvalues.length_eq]

end

/-- All values under one scope key are the same. -/
def ScopeAgrees (sources : List EnergySourceSnapshot) (value : EnergySourceSnapshot → Option ℚ)
    (scope : EnergySourceSnapshot → String) : Prop :=
  ∀ a ∈ sources, ∀ b ∈ sources, strip (scope a) ≠ "" → strip (scope a) = strip (scope b) →
    ∀ v w, value a = some v → value b = some w → v = w

theorem sumScopedValues_perm (h : sources.Perm other) {value : EnergySourceSnapshot → Option ℚ}
    {scope : EnergySourceSnapshot → String} (hagrees : ScopeAgrees sources value scope) :
    sumScopedValues sources value scope = sumScopedValues other value scope := by
  have hkept := keepFirst_perm (· = "") (h.filterMap (scopedNumericValue value scope)) ?same
  case same =>
    intro e he f hf hexempt hkey
    obtain ⟨a, ha, hea⟩ := List.mem_filterMap.mp he
    obtain ⟨b, hb, hfb⟩ := List.mem_filterMap.mp hf
    obtain ⟨v, hv, rfl⟩ := Option.map_eq_some_iff.mp hea
    obtain ⟨w, hw, rfl⟩ := Option.map_eq_some_iff.mp hfb
    exact Prod.ext hkey (hagrees a ha b hb (of_decide_eq_false hexempt) hkey v w hv hw)
  have hvalues := hkept.map Prod.snd
  unfold sumScopedValues
  dsimp only
  rw [hvalues.sum_eq, hvalues.isEmpty_eq]

/-- But for the totals with scope keys the cluster does not depend on the order of the sources. -/
theorem aggregateEnergySources_perm (h : sources.Perm other)
    (hids : (sources.map (·.sourceId)).Nodup) :
    { aggregateEnergySources other with
      combinedAcPowerW := (aggregateEnergySources sources).combinedAcPowerW
      combinedPvInputPowerW := (aggregateEnergySources sources).combinedPvInputPowerW
      combinedGridInteractionW := (aggregateEnergySources sources).combinedGridInteractionW } =
      aggregateEnergySources sources := by
  unfold aggregateEnergySources roleCount
  dsimp only
  rw [weightedSoc_perm h hids, effectiveSoc_perm h, averageConfidence_perm h, h.length_eq, h.countP_eq, h.countP_eq,
    h.countP_eq, h.countP_eq, sumOptional_perm (h.map _), sumOptional_perm (h.map _), sumOptional_perm (h.map _),
    sumOptional_perm (h.map _), sumOptional_perm (h.map _)]

/-! ## What each total counts -/

/-- An observation of a physical battery counts when it is the best one of it; with distinct ids there is one best. -/
theorem mem_socContributions_iff (hids : (sources.map (·.sourceId)).Nodup) {source : EnergySourceSnapshot} :
    source ∈ socContributions sources ↔ source ∈ sources ∧ source.weightedSocSourceValues.isSome ∧
      (source.physicalId ≠ "" → ∀ other ∈ sources, other.physicalId = source.physicalId →
        other.socSourceQuality ≤ source.socSourceQuality) := by
  have hbest : source ∈ bestElements physicalId socSourceQuality (sources.filter (¬ ·.physicalId = "")) ↔
      BestForKey physicalId socSourceQuality (sources.filter (¬ ·.physicalId = "")) source := by
    apply mem_bestElements_iff
    intro a ha b hb
    exact socSourceQuality_inj hids a (List.mem_of_mem_filter ha) b (List.mem_of_mem_filter hb)
  rw [socContributions, List.mem_filter, uniqueWeightedSocSources_eq, List.mem_append, hbest, BestForKey]
  simp only [List.mem_filter, decide_eq_true_eq]
  by_cases hid : source.physicalId = ""
  · simp [hid]
  · constructor
    · rintro ⟨⟨-, hempty⟩ | ⟨⟨hmem, -⟩, hquality⟩, hvalues⟩
      · exact absurd hempty hid
      · exact ⟨hmem, hvalues, fun _ other hother hkey => hquality other ⟨hother, by rwa [hkey]⟩ hkey⟩
    · rintro ⟨hmem, hvalues, hquality⟩
      exact ⟨.inr ⟨⟨hmem, hid⟩, fun other hother hkey => hquality hid other hother.1 hkey⟩, hvalues⟩

/-- No physical battery counts more than once. -/
theorem countP_socContributions_le {physicalId : String} (hid : physicalId ≠ "") :
    (socContributions sources).countP (·.physicalId = physicalId) ≤ 1 := by
  have hindependent : (sources.filter (·.physicalId = "")).countP (·.physicalId = physicalId) = 0 := by
    rw [List.countP_eq_zero]
    intro source hsource hkey
    have hempty : source.physicalId = "" := by simpa using (List.mem_filter.mp hsource).2
    rw [decide_eq_true_iff, hempty] at hkey
    exact hid hkey.symm
  have hbest : (bestElements (·.physicalId) socSourceQuality (sources.filter (¬ ·.physicalId = ""))).countP
      (·.physicalId = physicalId) ≤ 1 := by
    have hnodup := List.nodup_iff_count_le_one.mp
      (nodup_bestElements (·.physicalId) socSourceQuality (sources.filter (¬ ·.physicalId = ""))) physicalId
    rw [List.count, List.countP_map] at hnodup
    exact hnodup
  calc (socContributions sources).countP (·.physicalId = physicalId)
      ≤ (uniqueWeightedSocSources sources).countP (·.physicalId = physicalId) :=
        List.filter_sublist.countP_le
    _ ≤ 1 := by
        rw [uniqueWeightedSocSources_eq, List.countP_append, hindependent, zero_add]
        exact hbest

/-- The values that a total with scope keys counts. -/
def scopedContributions (sources : List EnergySourceSnapshot) (value : EnergySourceSnapshot → Option ℚ)
    (scope : EnergySourceSnapshot → String) : List (String × ℚ) :=
  keepFirst (· = "") [] (sources.filterMap (scopedNumericValue value scope))

/-- The total counts every value without a scope key, and the first value of every scope key. -/
structure CountsByScope (sources : List EnergySourceSnapshot) (value : EnergySourceSnapshot → Option ℚ)
    (scope : EnergySourceSnapshot → String) (total : Option ℚ) : Prop where
  total_eq : total = sumOptional ((scopedContributions sources value scope).map fun x => some x.2)
  without_key : (scopedContributions sources value scope).filter (·.1 = "") =
    (sources.filterMap (scopedNumericValue value scope)).filter (·.1 = "")
  with_key : ∀ key ≠ "", (scopedContributions sources value scope).filter (·.1 = key) =
    ((sources.filterMap (scopedNumericValue value scope)).find? (·.1 = key)).toList

theorem sumScopedValues_counts (value : EnergySourceSnapshot → Option ℚ) (scope : EnergySourceSnapshot → String) :
    CountsByScope sources value scope (sumScopedValues sources value scope) where
  total_eq := by
    rw [sumOptional, List.filterMap_map, show id ∘ (fun x : String × ℚ => some x.2) = some ∘ Prod.snd from rfl,
      List.filterMap_eq_map]
    rfl
  without_key := filter_exempt_keepFirst (fun key : String => decide (key = "")) [] _
  with_key := by
    intro key hkey
    exact filter_key_keepFirst (fun key : String => decide (key = "")) (decide_eq_false hkey) [] _

/-- The combined state of charge lies between the contributions. -/
theorem combinedSoc_between {combinedSoc lower upper : ℚ} (h : (weightedSoc sources).1 = some combinedSoc)
    (hlower : ((socContributionValues sources).map Prod.fst).min? = some lower)
    (hupper : ((socContributionValues sources).map Prod.fst).max? = some upper) :
    lower ≤ combinedSoc ∧ combinedSoc ≤ upper := by
  rw [weightedSoc_eq] at h
  split at h
  · nomatch h
  · rename_i hne
    have hmean := Option.some.inj h
    have hpos : ∀ x ∈ socContributionValues sources, 0 < x.2 := fun x hx => capacity_pos hx
    rw [← hmean]
    apply weightedMean_between hpos (by rwa [List.isEmpty_iff] at hne)
    intro x hx
    have hmem := List.mem_map_of_mem (f := Prod.fst) hx
    exact ⟨(List.le_min?_iff hlower).mp le_rfl _ hmem, (List.max?_le_iff hupper).mp le_rfl _ hmem⟩

/-- What the cluster of some sources counts:

* every order gives the same cluster but for the totals with scope keys, and the same cluster when all values under
  one scope key agree;
* of every physical battery its best observation counts for the state of charge and the capacity, when it carries
  both, and no other; every independent source that carries both counts;
* the combined state of charge is the mean of the contributions by capacity and lies between the smallest and the
  largest;
* powers and limits of batteries are summed over all observations, and a total with scope keys over all values without
  a key and the first value of every key. -/
structure ClusterCounts (sources : List EnergySourceSnapshot) (cluster : EnergyClusterSnapshot) : Prop where
  order : ∀ other, sources.Perm other →
    { aggregateEnergySources other with
      combinedAcPowerW := cluster.combinedAcPowerW
      combinedPvInputPowerW := cluster.combinedPvInputPowerW
      combinedGridInteractionW := cluster.combinedGridInteractionW } = cluster
  order_of_agreement : ∀ other, sources.Perm other → ScopeAgrees sources (·.acPowerW) (·.acPowerScopeKey) →
    ScopeAgrees sources (·.pvInputPowerW) (·.pvInputPowerScopeKey) →
    ScopeAgrees sources (·.gridInteractionW) (·.gridInteractionScopeKey) → aggregateEnergySources other = cluster
  counted_iff : ∀ source, source ∈ socContributions sources ↔ source ∈ sources ∧
    source.weightedSocSourceValues.isSome ∧ (source.physicalId ≠ "" → ∀ other ∈ sources,
      other.physicalId = source.physicalId → other.socSourceQuality ≤ source.socSourceQuality)
  counted_once : ∀ physicalId ≠ "", (socContributions sources).countP (·.physicalId = physicalId) ≤ 1
  validSocSourceCount : cluster.validSocSourceCount = (socContributions sources).length
  values_eq : socContributionValues sources = (socContributions sources).filterMap weightedSocSourceValues
  combinedSoc : cluster.combinedSoc = if (socContributionValues sources).isEmpty then none
    else some (weightedSum (socContributionValues sources) / totalWeight (socContributionValues sources))
  combinedUsableCapacityWh : cluster.combinedUsableCapacityWh =
    if (socContributionValues sources).isEmpty then none else some (totalWeight (socContributionValues sources))
  soc_between : ∀ soc lower upper, cluster.combinedSoc = some soc →
    ((socContributionValues sources).map Prod.fst).min? = some lower →
    ((socContributionValues sources).map Prod.fst).max? = some upper → lower ≤ soc ∧ soc ≤ upper
  combinedChargePowerW : cluster.combinedChargePowerW = sumOptional (sources.map (·.chargePowerW))
  combinedDischargePowerW : cluster.combinedDischargePowerW = sumOptional (sources.map (·.dischargePowerW))
  combinedNetBatteryPowerW : cluster.combinedNetBatteryPowerW = sumOptional (sources.map (·.netBatteryPowerW))
  combinedChargeLimitPowerW : cluster.combinedChargeLimitPowerW = sumOptional (sources.map (·.chargeLimitPowerW))
  combinedDischargeLimitPowerW :
    cluster.combinedDischargeLimitPowerW = sumOptional (sources.map (·.dischargeLimitPowerW))
  combinedAcPowerW : CountsByScope sources (·.acPowerW) (·.acPowerScopeKey) cluster.combinedAcPowerW
  combinedPvInputPowerW :
    CountsByScope sources (·.pvInputPowerW) (·.pvInputPowerScopeKey) cluster.combinedPvInputPowerW
  combinedGridInteractionW :
    CountsByScope sources (·.gridInteractionW) (·.gridInteractionScopeKey) cluster.combinedGridInteractionW

theorem socContributionValues_eq :
    socContributionValues sources = (socContributions sources).filterMap weightedSocSourceValues := by
  rw [socContributionValues, socContributions, List.filterMap_filter]
  apply List.filterMap_congr
  intro source _
  cases hvalues : source.weightedSocSourceValues <;> simp

/-- Whatever the sources with distinct ids are, the cluster counts what it should. -/
theorem cluster_counts (sources : List EnergySourceSnapshot) (hids : (sources.map (·.sourceId)).Nodup) :
    ClusterCounts sources (aggregateEnergySources sources) := by
  have hsoc := weightedSoc_eq sources
  exact {
    order := fun other hperm => aggregateEnergySources_perm hperm hids
    order_of_agreement := by
      intro other hperm hac hpv hgrid
      rw [← aggregateEnergySources_perm hperm hids]
      show _ = EnergyClusterSnapshot.mk ..
      rw [show (aggregateEnergySources sources).combinedAcPowerW = (aggregateEnergySources other).combinedAcPowerW from
          sumScopedValues_perm hperm hac,
        show (aggregateEnergySources sources).combinedPvInputPowerW =
          (aggregateEnergySources other).combinedPvInputPowerW from sumScopedValues_perm hperm hpv,
        show (aggregateEnergySources sources).combinedGridInteractionW =
          (aggregateEnergySources other).combinedGridInteractionW from sumScopedValues_perm hperm hgrid]
    counted_iff := fun source => mem_socContributions_iff hids
    counted_once := fun physicalId hid => countP_socContributions_le hid
    validSocSourceCount := by
      show (weightedSoc sources).2.2 = _
      rw [hsoc, ← length_socContributionValues]
      split
      · rename_i hempty
        rw [List.isEmpty_iff.mp hempty]
        rfl
      · rfl
    values_eq := socContributionValues_eq
    combinedSoc := by
      show (weightedSoc sources).1 = _
      rw [hsoc]
      split <;> rfl
    combinedUsableCapacityWh := by
      show (weightedSoc sources).2.1 = _
      rw [hsoc]
      split <;> rfl
    soc_between := fun soc lower upper => combinedSoc_between
    combinedChargePowerW := rfl
    combinedDischargePowerW := rfl
    combinedNetBatteryPowerW := rfl
    combinedChargeLimitPowerW := rfl
    combinedDischargeLimitPowerW := rfl
    combinedAcPowerW := sumScopedValues_counts _ _
    combinedPvInputPowerW := sumScopedValues_counts _ _
    combinedGridInteractionW := sumScopedValues_counts _ _ }

/-! ## A battery on two paths -/

/-- An observation of the battery `house`. -/
def house (sourceId : String) (soc : Option ℚ) (priority : Int) (acPowerW : ℚ) : EnergySourceSnapshot :=
  ⟨sourceId, "battery", soc, some 5000, some (-1000), none, none, some acPowerW, none, none, "meter", "", "", true, 1,
    some 0, "house", priority⟩

theorem cluster_counts_house : ClusterCounts [house "a" (some 50) 1 10, house "b" (some 60) 0 20]
    (aggregateEnergySources [house "a" (some 50) 1 10, house "b" (some 60) 0 20]) :=
  cluster_counts _ (by decide)

/-- One battery with two paths is charged twice, the order of the paths decides the total of their common meter, and
the battery has no state of charge when its better path has none. -/
theorem house_on_two_paths :
    (aggregateEnergySources [house "a" (some 50) 1 10, house "b" (some 60) 0 20]).combinedChargePowerW = some 2000 ∧
      (aggregateEnergySources [house "a" (some 50) 1 10, house "b" (some 60) 0 20]).combinedAcPowerW = some 10 ∧
      (aggregateEnergySources [house "b" (some 60) 0 20, house "a" (some 50) 1 10]).combinedAcPowerW = some 20 ∧
      (aggregateEnergySources [house "a" none 1 10, house "b" (some 60) 0 20]).combinedSoc = none := by
  decide +kernel

end VenusEvcharger
