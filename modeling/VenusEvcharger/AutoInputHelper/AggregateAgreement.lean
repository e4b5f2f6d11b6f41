import VenusEvcharger.AutoInputHelper.Aggregate

/-!
# Both helpers aggregate the same

The native energy cluster against the one of the Python helper. Both choose the same observations and use the same
formulas; they differ in the blanks around a scope key, of which the native helper knows four fewer, and in the number
of confidences that they count (`aggregate_agrees_iff`).
-/

namespace VenusEvcharger.AutoInputHelper

open Library

/-- The value of a source with its trimmed scope key. -/
def trimmedValue (value : EnergySourceSnapshot → Option ℚ) (scope : EnergySourceSnapshot → String)
    (source : EnergySourceSnapshot) : Option (List Char × ℚ) :=
  (value source).map fun value => (trim (scope source).toList, value)

/-- The value's scope key repeats an earlier one, as the Python helper reads it. -/
def strippedRepeat : List (String × ℚ) → String × ℚ → Bool := repeatsKey (· = "") fun e => strip e.1

/-- And as the native helper reads it. -/
def trimmedRepeat : List (String × ℚ) → String × ℚ → Bool := repeatsKey (· = []) fun e => trim e.1.toList

section

variable (sources : List EnergySourceSnapshot)

/-- The values with their scope keys. -/
def scopedValues (value : EnergySourceSnapshot → Option ℚ) (scope : EnergySourceSnapshot → String) :
    List (String × ℚ) :=
  sources.filterMap fun source => (value source).map (scope source, ·)

/-- The values whose scope key repeats an earlier one only after U+001C to U+001F are stripped have the sum of those
whose key repeats one only before: keys of these characters alone, which are none once stripped. -/
def RepeatsAgree (value : EnergySourceSnapshot → Option ℚ) (scope : EnergySourceSnapshot → String) : Prop :=
  let entries := scopedValues sources value scope
  ((pick (fun before e => strippedRepeat before e && !trimmedRepeat before e) [] entries).map Prod.snd).sum =
    ((pick (fun before e => trimmedRepeat before e && !strippedRepeat before e) [] entries).map Prod.snd).sum

/-- Both helpers aggregate the sources to the same cluster. -/
structure ClustersAgree : Prop where
  confidences : ((sources.map (·.confidence)).filter (0 ≤ ·)).length ≤ u32Max ∨
    ((sources.map (·.confidence)).filter (0 ≤ ·)).sum = 0
  ac : RepeatsAgree sources (·.acPowerW) (·.acPowerScopeKey)
  pvInput : RepeatsAgree sources (·.pvInputPowerW) (·.pvInputPowerScopeKey)
  gridInteraction : RepeatsAgree sources (·.gridInteractionW) (·.gridInteractionScopeKey)

end

variable {sources : List EnergySourceSnapshot}

/-! ## The state of charge -/

theorem weightedValue_eq (source : EnergySourceSnapshot) : weightedValue source = source.weightedSocSourceValues := by
  unfold weightedValue EnergySourceSnapshot.weightedSocSourceValues
  cases source.soc with
  | none => rfl
  | some soc =>
    cases source.usableCapacityWh with
    | none => rfl
    | some capacity =>
      show (if 0 < capacity then some (soc, capacity) else none) = if capacity ≤ 0 then none else some (soc, capacity)
      by_cases hpos : 0 < capacity
      · rw [if_pos hpos, if_neg (not_le.mpr hpos)]
      · rw [if_neg hpos, if_pos (not_lt.mp hpos)]

section

variable (sources : List EnergySourceSnapshot)

/-- Both helpers weigh the same observations. -/
theorem weighted_perm : (weighted sources).Perm (socContributionValues sources) := by
  have hperm := uniqueWeightedSocSources_perm sources
  have hpython : (VenusEvcharger.uniqueWeightedSocSources sources) = sources.filter (·.physicalId = "") ++
      bestElements (·.physicalId) socQuality (sources.filter (¬ ·.physicalId = "")) :=
    VenusEvcharger.uniqueWeightedSocSources_eq sources
  rw [← hpython] at hperm
  unfold weighted socContributionValues
  rw [funext weightedValue_eq]
  exact hperm.filterMap _

theorem totalCapacity_eq : totalCapacity sources = totalWeight (socContributionValues sources) :=
  ((weighted_perm sources).map Prod.snd).sum_eq

/-- There is a capacity when an observation counts. -/
theorem totalCapacity_pos_iff :
    0 < totalCapacity sources ↔ ¬ (socContributionValues sources).isEmpty := by
  rw [totalCapacity_eq, List.isEmpty_iff]
  constructor
  · intro hpos hempty
    rw [hempty] at hpos
    exact lt_irrefl _ hpos
  · intro hne
    exact totalWeight_pos (fun _ hx => capacity_pos hx) hne

theorem soc_sum_eq :
    ((weighted sources).map fun (soc, capacity) => soc * capacity).sum = weightedSum (socContributionValues sources) := by
  rw [((weighted_perm sources).map _).sum_eq, weightedSum]
  congr 1
  apply List.map_congr_left
  intro x _
  exact mul_comm _ _

theorem combinedSoc_eq : combinedSoc sources = (weightedSoc sources).1 := by
  rw [weightedSoc_eq, combinedSoc, soc_sum_eq, if_congr (totalCapacity_pos_iff sources) rfl rfl, ite_not, totalCapacity_eq]
  split <;> rfl

theorem combinedUsableCapacityWh_eq :
    (if 0 < totalCapacity sources then some (totalCapacity sources) else none) = (weightedSoc sources).2.1 := by
  rw [weightedSoc_eq, if_congr (totalCapacity_pos_iff sources) rfl rfl, ite_not, totalCapacity_eq]
  split <;> rfl

theorem validSocSourceCount_eq : (weighted sources).length = (weightedSoc sources).2.2 := by
  rw [weightedSoc_eq, (weighted_perm sources).length_eq]
  split
  · rename_i hempty
    rw [List.isEmpty_iff.mp hempty]
    rfl
  · rfl

end

/-- The only state of charge of an online source. -/
theorem fallback_eq (fallback : List EnergySourceSnapshot) : (∀ source ∈ fallback, source.soc.isSome) →
    (if (fallback.filterMap (·.soc)).length = 1 then (fallback.filterMap (·.soc)).head? else none) =
      match fallback with
      | [fallback] => fallback.soc
      | _ => none := by
  intro h
  have hsome (source : EnergySourceSnapshot) (hmem : source ∈ fallback) : ∃ soc, source.soc = some soc :=
    Option.isSome_iff_exists.mp (h source hmem)
  match fallback, hsome with
  | [], _ => rfl
  | [source], hsome =>
    obtain ⟨soc, hsoc⟩ := hsome source List.mem_cons_self
    simp [hsoc]
  | first :: second :: rest, hsome =>
    obtain ⟨soc, hsoc⟩ := hsome first List.mem_cons_self
    obtain ⟨soc', hsoc'⟩ := hsome second (List.mem_cons_of_mem _ List.mem_cons_self)
    simp [hsoc, hsoc']

theorem effectiveSoc_eq (sources : List EnergySourceSnapshot) :
    effectiveSoc sources = VenusEvcharger.effectiveSoc sources (weightedSoc sources).1 := by
  have honline : (sources.filter (·.online)).filterMap (·.soc) =
      (sources.filter fun source => source.online && source.soc.isSome).filterMap (·.soc) := by
    rw [List.filterMap_filter, List.filterMap_filter]
    apply List.filterMap_congr
    intro source _
    cases source.online <;> cases source.soc <;> rfl
  have hsome : ∀ source ∈ sources.filter fun source => source.online && source.soc.isSome, source.soc.isSome := by
    intro source hsource
    exact (Bool.and_eq_true _ _ ▸ (List.mem_filter.mp hsource).2).2
  unfold effectiveSoc VenusEvcharger.effectiveSoc
  rw [combinedSoc_eq]
  cases (weightedSoc sources).1 with
  | some soc => rfl
  | none =>
    dsimp only
    rw [Option.none_or, honline]
    exact fallback_eq _ hsome

/-! ## Values with scope keys -/

variable {value : EnergySourceSnapshot → Option ℚ} {scope : EnergySourceSnapshot → String}

/-- The loop of `sumScoped` from what was seen and taken so far. -/
theorem foldl_sumScoped (sources : List EnergySourceSnapshot) (value : EnergySourceSnapshot → Option ℚ)
    (scope : EnergySourceSnapshot → String) (seen : List (List Char)) (values : List ℚ) :
    (sources.foldl (fun (seen, values) source =>
      match value source with
      | none => (seen, values)
      | some item =>
        let key := trim (scope source).toList
        if key = [] then (seen, values ++ [item])
        else if key ∈ seen then (seen, values)
        else (key :: seen, values ++ [item])) (seen, values)).2 =
      values ++ (keepFirst (· = []) seen (sources.filterMap (trimmedValue value scope))).map Prod.snd := by
  induction sources generalizing seen values with
  | nil => simp [keepFirst]
  | cons source sources ih =>
    rw [List.foldl_cons]
    cases hvalue : value source with
    | none =>
      have htrimmed : trimmedValue value scope source = none := by rw [trimmedValue, hvalue, Option.map_none]
      rw [List.filterMap_cons_none htrimmed]
      exact ih seen values
    | some item =>
      have htrimmed : trimmedValue value scope source = some (trim (scope source).toList, item) := by
        rw [trimmedValue, hvalue, Option.map_some]
      rw [List.filterMap_cons_some htrimmed, keepFirst]
      dsimp only
      by_cases hkey : trim (scope source).toList = []
      · rw [if_pos hkey, if_pos (decide_eq_true hkey), ih, List.map_cons, List.append_assoc]
        rfl
      · have hnot : ¬ decide (trim (scope source).toList = []) = true := by simpa using hkey
        rw [if_neg hkey, if_neg hnot]
        by_cases hseen : trim (scope source).toList ∈ seen
        · rw [if_pos hseen, if_pos hseen, ih]
        · rw [if_neg hseen, if_neg hseen, ih, List.map_cons, List.append_assoc]
          rfl

theorem sumScoped_eq (sources : List EnergySourceSnapshot) (value : EnergySourceSnapshot → Option ℚ)
    (scope : EnergySourceSnapshot → String) : sumScoped sources value scope =
      let values := (keepFirst (· = []) [] (sources.filterMap (trimmedValue value scope))).map Prod.snd
      if values.isEmpty then none else some values.sum := by
  unfold sumScoped
  generalize hresult : sources.foldl _ (([], []) : List (List Char) × List ℚ) = result
  have hvalues : result.2 = (keepFirst (· = []) [] (sources.filterMap (trimmedValue value scope))).map Prod.snd := by
    rw [← hresult]
    exact foldl_sumScoped sources value scope [] []
  rw [← hvalues]

theorem kept_add_repeats {κ : Type*} [DecidableEq κ] (exempt : κ → Bool) (es : List (κ × ℚ)) :
    ((keepFirst exempt [] es).map Prod.snd).sum + ((repeats exempt [] es).map Prod.snd).sum = (es.map Prod.snd).sum := by
  rw [← List.sum_append, ← List.map_append]
  exact ((keepFirst_append_repeats_perm exempt [] es).map Prod.snd).sum_eq

theorem sum_repeats_eq {κ : Type*} [DecidableEq κ] (exempt : κ → Bool) (key : String → κ)
    (sources : List EnergySourceSnapshot) (value : EnergySourceSnapshot → Option ℚ)
    (scope : EnergySourceSnapshot → String) :
    (repeats exempt [] (sources.filterMap fun source => (value source).map (key (scope source), ·))).map Prod.snd =
      (pick (repeatsKey exempt fun e => key e.1) [] (scopedValues sources value scope)).map Prod.snd := by
  rw [← map_snd_repeats exempt (fun e : String × ℚ => key e.1) Prod.snd [] fun _ _ => Iff.rfl,
    scopedValues, List.map_filterMap]
  simp only [Option.map_map]
  rfl

section

variable (sources : List EnergySourceSnapshot)

theorem sumScoped_eq_iff (value : EnergySourceSnapshot → Option ℚ)
    (scope : EnergySourceSnapshot → String) :
    sumScoped sources value scope = sumScopedValues sources value scope ↔ RepeatsAgree sources value scope := by
  have hvalues : (sources.filterMap (trimmedValue value scope)).map Prod.snd =
      (sources.filterMap (scopedNumericValue value scope)).map Prod.snd := by
    rw [List.map_filterMap, List.map_filterMap]
    apply List.filterMap_congr
    intro source _
    rw [trimmedValue, scopedNumericValue]
    cases value source <;> rfl
  have hnative := kept_add_repeats (· = []) (sources.filterMap (trimmedValue value scope))
  have hpython := kept_add_repeats (· = "") (sources.filterMap (scopedNumericValue value scope))
  have hrepeats : ((repeats (· = "") [] (sources.filterMap (scopedNumericValue value scope))).map Prod.snd).sum =
      ((repeats (· = []) [] (sources.filterMap (trimmedValue value scope))).map Prod.snd).sum ↔
        RepeatsAgree sources value scope := by
    have hstripped := sum_repeats_eq (· = "") strip sources value scope
    have htrimmed := sum_repeats_eq (· = []) (fun text => trim text.toList) sources value scope
    unfold scopedNumericValue trimmedValue
    rw [hstripped, htrimmed]
    exact sum_pick_eq_iff strippedRepeat trimmedRepeat Prod.snd [] _
  rw [hvalues] at hnative
  rw [sumScoped_eq, sumScopedValues, ← hrepeats]
  have hempty : sources.filterMap (trimmedValue value scope) = [] ↔
      sources.filterMap (scopedNumericValue value scope) = [] := by
    rw [← List.map_eq_nil_iff (f := Prod.snd), hvalues, List.map_eq_nil_iff]
  simp only [List.isEmpty_iff, List.map_eq_nil_iff, keepFirst_eq_nil_iff, hempty]
  split
  · rename_i hnone
    rw [hnone, hempty.mpr hnone]
    simp [repeats]
  · rw [Option.some.injEq]
    constructor
    · intro hkept
      linarith
    · intro hrepeats
      linarith

/-! ## The confidence -/

theorem averageConfidence_eq_iff :
    averageConfidence sources = VenusEvcharger.averageConfidence sources ↔
      ((sources.map (·.confidence)).filter (0 ≤ ·)).length ≤ u32Max ∨
        ((sources.map (·.confidence)).filter (0 ≤ ·)).sum = 0 := by
  unfold averageConfidence VenusEvcharger.averageConfidence mean
  dsimp only
  generalize (sources.map (·.confidence)).filter (0 ≤ ·) = confidences
  cases confidences with
  | nil => simp
  | cons confidence rest =>
    have hlength : ((confidence :: rest).length : ℚ) ≠ 0 := by
      rw [Nat.cast_ne_zero, List.length_cons]
      omega
    have hcapped : countAsF64 (confidence :: rest).length ≠ 0 := by
      rw [countAsF64, Nat.cast_ne_zero, List.length_cons, u32Max]
      omega
    show some (_ / countAsF64 (confidence :: rest).length) = some (_ / ((confidence :: rest).length : ℚ)) ↔ _
    rw [Option.some.injEq, div_eq_div_iff hcapped hlength, mul_eq_mul_left_iff, countAsF64, Nat.cast_inj]
    constructor
    · rintro (hcount | hsum)
      · exact .inl (by omega)
      · exact .inr hsum
    · rintro (hcount | hsum)
      · exact .inl (by omega)
      · exact .inr hsum

/-! ## The cluster -/

/-- Both helpers aggregate the same sources to the same cluster, but for the values with scope keys and the mean of the
confidences. -/
theorem aggregate_eq : aggregateEnergySources sources =
    { VenusEvcharger.aggregateEnergySources sources with
      combinedAcPowerW := sumScoped sources (·.acPowerW) (·.acPowerScopeKey)
      combinedPvInputPowerW := sumScoped sources (·.pvInputPowerW) (·.pvInputPowerScopeKey)
      combinedGridInteractionW := sumScoped sources (·.gridInteractionW) (·.gridInteractionScopeKey)
      averageConfidence := averageConfidence sources } := by
  unfold aggregateEnergySources VenusEvcharger.aggregateEnergySources
  dsimp only
  rw [effectiveSoc_eq, combinedSoc_eq, combinedUsableCapacityWh_eq, validSocSourceCount_eq]
  rfl

theorem aggregate_agrees_iff :
    aggregateEnergySources sources = VenusEvcharger.aggregateEnergySources sources ↔ ClustersAgree sources := by
  rw [aggregate_eq]
  constructor
  · intro heq
    exact {
      confidences := (averageConfidence_eq_iff sources).mp (congrArg EnergyClusterSnapshot.averageConfidence heq)
      ac := (sumScoped_eq_iff sources _ _).mp (congrArg EnergyClusterSnapshot.combinedAcPowerW heq)
      pvInput := (sumScoped_eq_iff sources _ _).mp (congrArg EnergyClusterSnapshot.combinedPvInputPowerW heq)
      gridInteraction :=
        (sumScoped_eq_iff sources _ _).mp (congrArg EnergyClusterSnapshot.combinedGridInteractionW heq) }
  · intro hagree
    rw [(sumScoped_eq_iff sources _ _).mpr hagree.ac, (sumScoped_eq_iff sources _ _).mpr hagree.pvInput,
      (sumScoped_eq_iff sources _ _).mpr hagree.gridInteraction,
      (averageConfidence_eq_iff sources).mpr hagree.confidences]
    rfl

end

end VenusEvcharger.AutoInputHelper
