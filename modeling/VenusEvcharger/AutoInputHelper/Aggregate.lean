import VenusEvcharger.AutoInputHelper.CapacityUpsert
import VenusEvcharger.AutoInputHelper.GridFusion
import VenusEvcharger.Energy.Aggregate
import Mathlib.Data.List.Sort

/-!
# The energy cluster of the native helper

The native `aggregate_energy_sources`, over the snapshots and the cluster of the Python helper.
-/

namespace VenusEvcharger.AutoInputHelper

open Library

/-- `count_as_f64`. -/
def countAsF64 (count : Nat) : ℚ := (min count u32Max : Nat)

/-- `BTreeMap::into_values`. -/
def intoValues (physical : Dict String EnergySourceSnapshot) : List EnergySourceSnapshot :=
  (physical.entries.insertionSort (·.1 ≤ ·.1)).map Prod.snd

/-- `soc_quality`. -/
def socQuality (source : EnergySourceSnapshot) : Bool ×ₗ Bool ×ₗ ℤ ×ₗ ℚ ×ₗ String :=
  toLex (source.online, toLex (source.capturedAt.isSome, toLex (source.physicalPriority,
    toLex (source.confidence, source.sourceId))))

section

variable (sources : List EnergySourceSnapshot)

/-- `unique_weighted_soc_sources`. -/
def uniqueWeightedSocSources : List EnergySourceSnapshot :=
  let (independent, physical) := sources.foldl (fun (independent, physical) source =>
    if source.physicalId = "" then (independent ++ [source], physical)
    else
      match physical.get? source.physicalId with
      | some existing =>
        if socQuality source ≤ socQuality existing then (independent, physical)
        else (independent, physical.set source.physicalId source)
      | none => (independent, physical.set source.physicalId source)) ([], Dict.empty)
  independent ++ intoValues physical

/-- The state of charge and the capacity that a source contributes. -/
def weightedValue (source : EnergySourceSnapshot) : Option (ℚ × ℚ) :=
  source.soc.bind fun soc => source.usableCapacityWh.bind fun capacity => if 0 < capacity then some (soc, capacity) else none

/-- The first pass of `aggregate_energy_sources`. -/
def weighted : List (ℚ × ℚ) := (uniqueWeightedSocSources sources).filterMap weightedValue

def totalCapacity : ℚ := ((weighted sources).map Prod.snd).sum

def combinedSoc : Option ℚ :=
  if 0 < totalCapacity sources then some (((weighted sources).map fun (soc, capacity) => soc * capacity).sum / totalCapacity sources)
  else none

def effectiveSoc : Option ℚ :=
  let onlineSoc := (sources.filter (·.online)).filterMap (·.soc)
  (combinedSoc sources).or (if onlineSoc.length = 1 then onlineSoc.head? else none)

/-- `sum_scoped`: the keys that were seen, and the values that count. -/
def sumScoped (value : EnergySourceSnapshot → Option ℚ) (scope : EnergySourceSnapshot → String) : Option ℚ :=
  let (_, values) := sources.foldl (fun (seen, values) source =>
    match value source with
    | none => (seen, values)
    | some item =>
      let key := trim (scope source).toList
      if key = [] then (seen, values ++ [item])
      else if key ∈ seen then (seen, values)
      else (key :: seen, values ++ [item])) (([], []) : List (List Char) × List ℚ)
  if values.isEmpty then none else some values.sum

def averageConfidence : Option ℚ :=
  let confidences := (sources.map (·.confidence)).filter (0 ≤ ·)
  if confidences.isEmpty then none else some (confidences.sum / countAsF64 confidences.length)

/-- Aggregate normalized source readings while deduplicating physical batteries. -/
def aggregateEnergySources : EnergyClusterSnapshot where
  effectiveSoc := effectiveSoc sources
  combinedSoc := combinedSoc sources
  combinedUsableCapacityWh := if 0 < totalCapacity sources then some (totalCapacity sources) else none
  combinedChargePowerW := sumOptional (sources.map (·.chargePowerW))
  combinedDischargePowerW := sumOptional (sources.map (·.dischargePowerW))
  combinedChargeLimitPowerW := sumOptional (sources.map (·.chargeLimitPowerW))
  combinedDischargeLimitPowerW := sumOptional (sources.map (·.dischargeLimitPowerW))
  combinedNetBatteryPowerW := sumOptional (sources.map (·.netBatteryPowerW))
  combinedAcPowerW := sumScoped sources (·.acPowerW) (·.acPowerScopeKey)
  combinedPvInputPowerW := sumScoped sources (·.pvInputPowerW) (·.pvInputPowerScopeKey)
  combinedGridInteractionW := sumScoped sources (·.gridInteractionW) (·.gridInteractionScopeKey)
  averageConfidence := averageConfidence sources
  sourceCount := sources.length
  onlineSourceCount := sources.countP (·.online)
  validSocSourceCount := (weighted sources).length
  batterySourceCount := sources.countP (·.role = "battery")
  hybridInverterSourceCount := sources.countP (·.role = "hybrid-inverter")
  inverterSourceCount := sources.countP (·.role = "inverter")

end

/-! ## The observations that count -/

theorem intoValues_perm (physical : Dict String EnergySourceSnapshot) :
    (intoValues physical).Perm (physical.entries.map Prod.snd) :=
  (List.perm_insertionSort _ _).map _

/-- The independent sources, and the best observation of every physical battery. -/
theorem uniqueWeightedSocSources_perm (sources : List EnergySourceSnapshot) : (uniqueWeightedSocSources sources).Perm
    (sources.filter (·.physicalId = "") ++
      bestElements (·.physicalId) socQuality (sources.filter (¬ ·.physicalId = ""))) := by
  have hloop : sources.foldl (fun (independent, physical) source =>
      if source.physicalId = "" then (independent ++ [source], physical)
      else
        match physical.get? source.physicalId with
        | some existing =>
          if socQuality source ≤ socQuality existing then (independent, physical)
          else (independent, physical.set source.physicalId source)
        | none => (independent, physical.set source.physicalId source)) ([], Dict.empty) =
      (sources.filter (·.physicalId = ""), bestByKey (·.physicalId) socQuality
        (sources.filter (¬ ·.physicalId = ""))) := by
    induction sources using List.reverseRecOn with
    | nil => rfl
    | append_singleton sources source ih =>
      rw [List.foldl_append, ih, List.filter_append, List.filter_append]
      by_cases hid : source.physicalId = ""
      · simp [hid]
      · simp only [List.foldl_cons, List.foldl_nil, if_neg hid]
        rw [List.filter_cons_of_neg (by simpa using hid), List.filter_cons_of_pos (by simpa using hid),
          List.filter_nil, List.append_nil, List.filter_nil, bestByKey, bestByKey, List.foldl_append]
        simp only [List.foldl_cons, List.foldl_nil, selectBest]
        split
        · rename_i existing hget
          rw [hget]
          dsimp only
          by_cases hle : socQuality source ≤ socQuality existing
          · rw [if_pos hle, if_neg (not_lt.mpr hle)]
          · rw [if_neg hle, if_pos (not_le.mp hle)]
        · rename_i hget
          rw [hget]
  unfold uniqueWeightedSocSources
  rw [hloop]
  exact List.Perm.append_left _ (intoValues_perm _)

/-- The observations that enter the combined state of charge. -/
def socContributions (sources : List EnergySourceSnapshot) : List EnergySourceSnapshot :=
  (uniqueWeightedSocSources sources).filter fun source => (weightedValue source).isSome

end VenusEvcharger.AutoInputHelper
