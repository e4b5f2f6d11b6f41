import VenusEvcharger.AutoInputHelper.GridFusion
import VenusEvcharger.Energy.GridFusionRuns
import Mathlib.Tactic.Linarith

/-!
# Agreement of both grid fusions

Both fusions resolve the same calls, each from a new state. The attributes of the native fusion are those of the
Python fusion with saturated counters, as long as the Python fusion raises nothing (`resolve_native`). A call is
answered alike exactly when it is `Comparable`: nothing raises, no measurement is from the future, and no counter
is at its end (`fusions_agree_iff`).
-/

namespace VenusEvcharger

open Library AutoInputHelper

/-! ## The native side of a call -/

/-- The thresholds of a configuration are 32-bit numbers. -/
def GridFusionConfig.FitsU32 (cfg : GridFusionConfig) : Prop :=
  cfg.failoverSamples ≤ u32Max ∧ cfg.recoverySamples ≤ u32Max ∧ cfg.mismatchSamples ≤ u32Max

instance (cfg : GridFusionConfig) : Decidable cfg.FitsU32 := inferInstanceAs (Decidable (_ ∧ _ ∧ _))

/-- The native configuration of the same policy. -/
def GridFusionConfig.native (cfg : GridFusionConfig) (h : cfg.FitsU32) : AutoInputHelper.GridFusionConfig where
  enabled := cfg.enabled
  primarySourceId := cfg.primarySourceId
  backupSourceId := cfg.backupSourceId
  primaryMaxAgeSeconds := cfg.primaryMaxAgeSeconds
  backupMaxAgeSeconds := cfg.backupMaxAgeSeconds
  minimumConfidence := cfg.minimumConfidence
  failoverSamples := cfg.failoverSamples
  recoverySamples := cfg.recoverySamples
  failoverHoldSeconds := cfg.failoverHoldSeconds
  mismatchAbsoluteWatts := cfg.mismatchAbsoluteWatts
  mismatchRelative := cfg.mismatchRelative
  mismatchSamples := cfg.mismatchSamples
  futureToleranceSeconds := cfg.futureToleranceSeconds
  samples_le := h

/-- The native form of a measurement. -/
def GridMeasurement.native (m : GridMeasurement) : AutoInputHelper.GridMeasurement where
  sourceId := m.sourceId
  powerW := m.measurement.map (·.value)
  capturedAt := m.measurement.map fun o => .fin o.capturedAt
  observedMonotonic := m.measurement.map fun o => .fin o.observedMonotonic
  online := m.online
  confidence := m.confidence

def FusionCall.native (c : FusionCall) : AutoInputHelper.FusionCall :=
  ⟨c.primary.native, c.backup.native, c.monotonicAt⟩

def GridMeasurementFusion.Selection.native (s : GridMeasurementFusion.Selection) : AutoInputHelper.Selection :=
  (s.1.map GridMeasurement.native, s.2)

/-- The native attributes that correspond to the attributes of the Python fusion. -/
def GridMeasurementFusion.native (f : GridMeasurementFusion) : AutoInputHelper.GridMeasurementFusion where
  activeSourceId := f.activeSourceId
  lastPrimary := f.lastPrimary.map GridMeasurement.native
  primaryInvalidSamples := min f.primaryInvalidSamples u32Max
  primaryRecoverySamples := min f.primaryRecoverySamples u32Max
  mismatchSamples := min f.mismatchSamples u32Max

/-- What both results report. -/
structure FusionReport where
  powerW : Option PyFloat
  capturedAt : Option PyFloat
  observedMonotonic : Option PyFloat
  selectedSourceId : String
  state : GridFusionState
  confidence : PyFloat
  primaryValid : Bool
  backupValid : Bool
  primaryAgeSeconds : Option ℚ
  backupAgeSeconds : Option ℚ
  differenceWatts : Option ℚ
  toleranceWatts : Option Limit
  primaryInvalidSamples : Nat
  primaryRecoverySamples : Nat
  mismatchSamples : Nat

def GridFusionResult.report (x : GridFusionResult) : FusionReport where
  powerW := x.measurement.map (·.value)
  capturedAt := x.measurement.map fun o => .fin o.capturedAt
  observedMonotonic := x.measurement.map fun o => .fin o.observedMonotonic
  selectedSourceId := x.selectedSourceId
  state := x.state
  confidence := x.confidence
  primaryValid := x.primaryValid
  backupValid := x.backupValid
  primaryAgeSeconds := x.primaryAgeSeconds
  backupAgeSeconds := x.backupAgeSeconds
  differenceWatts := x.differenceWatts
  toleranceWatts := x.toleranceWatts
  primaryInvalidSamples := x.primaryInvalidSamples
  primaryRecoverySamples := x.primaryRecoverySamples
  mismatchSamples := x.mismatchSamples

def AutoInputHelper.GridFusionResult.report (x : AutoInputHelper.GridFusionResult) : FusionReport where
  powerW := x.measurement.bind (·.powerW)
  capturedAt := x.measurement.bind (·.capturedAt)
  observedMonotonic := x.measurement.bind (·.observedMonotonic)
  selectedSourceId := x.selectedSourceId
  state := x.state
  confidence := x.confidence
  primaryValid := x.primaryValid
  backupValid := x.backupValid
  primaryAgeSeconds := x.primaryAgeSeconds
  backupAgeSeconds := x.backupAgeSeconds
  differenceWatts := x.differenceWatts
  toleranceWatts := x.toleranceWatts
  primaryInvalidSamples := x.primaryInvalidSamples
  primaryRecoverySamples := x.primaryRecoverySamples
  mismatchSamples := x.mismatchSamples

/-! ## Measurements -/

theorem usable_native (m : GridMeasurement) (monotonicAt : ℚ) (maxAge tolerance : Limit) (confidence : ℚ) :
    m.native.usable monotonicAt maxAge confidence tolerance =
      m.isUsable monotonicAt maxAge confidence tolerance := by
  cases hmeasurement : m.measurement with
  | none => simp [GridMeasurement.native, AutoInputHelper.GridMeasurement.usable, GridMeasurement.isUsable, hmeasurement]
  | some o =>
    have hfuture : ((o.observedMonotonic : ℚ) : Limit) ≤ (monotonicAt : Limit) + tolerance ↔
        ((o.observedMonotonic - monotonicAt : ℚ) : Limit) ≤ tolerance := by
      cases tolerance using WithTop.recTopCoe with
      | top => exact iff_of_true le_top le_top
      | coe tolerance =>
        show _ ≤ ((monotonicAt + tolerance : ℚ) : Limit) ↔ _
        rw [WithTop.coe_le_coe, WithTop.coe_le_coe]
        constructor
        · intro h
          linarith
        · intro h
          linarith
    simp only [GridMeasurement.native, AutoInputHelper.GridMeasurement.usable, GridMeasurement.isUsable,
      hmeasurement, Option.map_some, Observation.fresh, hfuture, PyFloat.isFinite, Bool.and_true]
    ac_rfl

/-- A measurement is from the future. -/
def GridMeasurement.Ahead (m : GridMeasurement) (monotonicAt : ℚ) : Prop :=
  ∃ o, m.measurement = some o ∧ monotonicAt < o.observedMonotonic

/-- The ages differ for a measurement from the future only. -/
theorem age_native_iff (m : GridMeasurement) (monotonicAt : ℚ) :
    m.native.age monotonicAt = m.ageSeconds monotonicAt ↔ ¬m.Ahead monotonicAt := by
  cases hmeasurement : m.measurement with
  | none => simp [GridMeasurement.native, AutoInputHelper.GridMeasurement.age, GridMeasurement.ageSeconds,
      GridMeasurement.Ahead, hmeasurement]
  | some o =>
    have hage : m.native.age monotonicAt = some (monotonicAt - o.observedMonotonic) := by
      simp [GridMeasurement.native, AutoInputHelper.GridMeasurement.age, hmeasurement]
    have hseconds : m.ageSeconds monotonicAt = some (max 0 (monotonicAt - o.observedMonotonic)) := by
      simp [GridMeasurement.ageSeconds, hmeasurement]
    have hahead : m.Ahead monotonicAt ↔ monotonicAt < o.observedMonotonic := by
      simp [GridMeasurement.Ahead, hmeasurement]
    rw [hage, hseconds, hahead, Option.some.injEq, eq_comm, max_eq_right_iff, not_lt]
    exact sub_nonneg

/-! ## The native side of a selection -/

/-- The larger of two finite floats. -/
theorem f64Max_fin (x y : ℚ) : f64Max (.fin x) (.fin y) = .fin (max x y) := by
  unfold f64Max
  rw [if_neg PyFloat.noConfusion, if_neg PyFloat.noConfusion, PyFloat.lt_fin]
  rcases lt_or_ge x y with h | h
  · rw [if_pos (decide_eq_true h), max_eq_right h.le]
  · rw [if_neg (by simpa using h), max_eq_left h]

/-- The smaller of two finite floats. -/
theorem f64Min_fin (x y : ℚ) : f64Min (.fin x) (.fin y) = .fin (min x y) := by
  unfold f64Min
  rw [if_neg PyFloat.noConfusion, if_neg PyFloat.noConfusion, PyFloat.lt_fin]
  rcases lt_or_ge y x with h | h
  · rw [if_pos (decide_eq_true h), min_eq_right h.le]
  · rw [if_neg (by simpa using h), min_eq_left h]

theorem minFloat_fin (x y : ℚ) : GridMeasurementFusion.minFloat (.fin x) (.fin y) = .fin (min x y) := by
  unfold GridMeasurementFusion.minFloat
  rw [PyFloat.lt_fin]
  rcases lt_or_ge y x with h | h
  · rw [if_pos (decide_eq_true h), min_eq_right h.le]
  · rw [if_neg (by simpa using h), min_eq_left h]

theorem confidence_of_isUsable {m : GridMeasurement} {at' : ℚ} {maxAge tolerance : Limit} {confidence : ℚ}
    (h : m.isUsable at' maxAge confidence tolerance = true) : ∃ x, m.confidence = .fin x := by
  unfold GridMeasurement.isUsable at h
  cases hmeasurement : m.measurement with
  | none => simp [hmeasurement] at h
  | some o =>
    cases hconfidence : m.confidence with
    | fin x => exact ⟨x, rfl⟩
    | nan | negInf | posInf => simp [hmeasurement, hconfidence, PyFloat.isFinite] at h

/-- The conservative combinations of two usable measurements agree. -/
theorem conservative_native {cfg : GridFusionConfig} {c : FusionCall} {m : GridMeasurement}
    (hprimary : cfg.primaryUsable c = true) (hbackup : cfg.backupUsable c = true)
    (h : GridMeasurementFusion.conservativeMeasurement c.primary c.backup = .ok m) :
    conservative c.primary.native c.backup.native = some m.native := by
  obtain ⟨p, x, hp, hx⟩ := c.primary.available_of_isUsable hprimary
  obtain ⟨b, y, hb, hy⟩ := c.backup.available_of_isUsable hbackup
  obtain ⟨u, hu⟩ := confidence_of_isUsable hprimary
  obtain ⟨v, hv⟩ := confidence_of_isUsable hbackup
  simp only [GridMeasurementFusion.conservativeMeasurement, GridMeasurementFusion.power, hp, hb, hx, hy, hu,
    hv, minFloat_fin, Option.map_some, Except.ok.injEq] at h
  subst h
  simp [conservative, GridMeasurement.native, hp, hb, hx, hy, hu, hv, f64Max_fin, f64Min_fin]

namespace GridMeasurementFusion

variable {cfg : GridFusionConfig} {hfits : cfg.FitsU32} {f g : GridMeasurementFusion} {c : FusionCall}

/-- A saturated counter reaches the thresholds that the counter reaches. -/
theorem saturating_min (n : Nat) : saturatingIncrement (min n u32Max) = min (n + 1) u32Max := by
  unfold saturatingIncrement
  omega

theorem le_saturated {threshold : Nat} (h : threshold ≤ u32Max) (n : Nat) :
    threshold ≤ min n u32Max ↔ threshold ≤ n := by
  omega

theorem recordPrimary_native (primary : GridMeasurement) (primaryValid : Bool) :
    (f.recordPrimary primary primaryValid).native =
      if primaryValid then { f.native with lastPrimary := some primary.native } else f.native := by
  cases primaryValid <;> rfl

theorem heldPrimary_native {at' : ℚ} {held : Option GridMeasurement} (h : f.heldPrimary cfg at' = .ok held) :
    f.native.heldPrimary (cfg.native hfits) at' = held.map GridMeasurement.native := by
  cases hlast : f.lastPrimary with
  | none => simp [heldPrimary, hlast] at h
  | some last =>
    cases hmeasurement : last.measurement with
    | none => simp [heldPrimary, hlast, hmeasurement] at h
    | some o =>
      simp only [heldPrimary, hlast, hmeasurement, Except.ok.injEq] at h
      subst h
      have hnative : f.native.heldPrimary (cfg.native hfits) at' =
          if ((at' - o.observedMonotonic : ℚ) : Limit) ≤ cfg.holdLimit then some last.native else none := by
        simp only [AutoInputHelper.GridMeasurementFusion.heldPrimary, native, hlast, Option.map_some,
          GridMeasurement.native, hmeasurement]
        rfl
      rw [hnative]
      split_ifs <;> rfl

theorem selectInitial_native (primaryValid backupValid : Bool) :
    f.native.selectInitial (cfg.native hfits) c.native primaryValid backupValid =
      ((f.selectInitial cfg c primaryValid backupValid).1.native,
        (f.selectInitial cfg c primaryValid backupValid).2.native) := by
  cases primaryValid <;> cases backupValid <;> rfl

variable {selection : Selection}

theorem selectPrimary_native (primaryValid backupValid : Bool)
    (h : f.selectWhilePrimary cfg c primaryValid backupValid = (g, .ok selection)) :
    f.native.selectPrimary (cfg.native hfits) c.native primaryValid backupValid =
      (g.native, selection.native) := by
  cases primaryValid with
  | true =>
    simp only [selectWhilePrimary, if_true, Prod.mk.injEq, Except.ok.injEq] at h
    obtain ⟨rfl, rfl⟩ := h
    rfl
  | false =>
    -- the Python fusion looks the held value up first, the native one below the threshold only
    have hmissed : ({ f with primaryInvalidSamples := f.primaryInvalidSamples + 1 } :
        GridMeasurementFusion).native =
        { f.native with primaryInvalidSamples := saturatingIncrement f.native.primaryInvalidSamples } := by
      simp only [native, saturating_min]
    have hfew : f.native.primaryInvalidSamples = min f.primaryInvalidSamples u32Max := rfl
    have hthreshold : saturatingIncrement f.native.primaryInvalidSamples < (cfg.native hfits).failoverSamples ↔
        f.primaryInvalidSamples + 1 < cfg.failoverSamples := by
      rw [hfew, saturating_min, ← not_le, ← not_le]
      exact not_congr (le_saturated hfits.1 _)
    simp only [selectWhilePrimary, Bool.false_eq_true, if_false] at h
    simp only [AutoInputHelper.GridMeasurementFusion.selectPrimary, Bool.false_eq_true, if_false, ← hmissed,
      hthreshold]
    split at h
    · cases (Prod.mk.inj h).2
    · rename_i held hheld
      rw [show c.native.monotonic = c.monotonicAt from rfl, heldPrimary_native hheld]
      cases held with
      | none =>
        rw [if_neg fun hboth => Bool.false_ne_true hboth.2] at h
        cases backupValid <;>
        · obtain ⟨rfl, hselection⟩ := Prod.mk.inj h
          obtain rfl := Except.ok.inj hselection
          by_cases hbelow : f.primaryInvalidSamples + 1 < cfg.failoverSamples
          · rw [if_pos hbelow]
            rfl
          · rw [if_neg hbelow]
            rfl
      | some held =>
        by_cases hbelow : f.primaryInvalidSamples + 1 < cfg.failoverSamples
        · rw [if_pos ⟨hbelow, rfl⟩] at h
          obtain ⟨rfl, hselection⟩ := Prod.mk.inj h
          obtain rfl := Except.ok.inj hselection
          rw [if_pos hbelow]
          rfl
        · rw [if_neg fun hboth => hbelow hboth.1] at h
          rw [if_neg hbelow]
          cases backupValid <;>
          · obtain ⟨rfl, hselection⟩ := Prod.mk.inj h
            obtain rfl := Except.ok.inj hselection
            rfl

theorem selectBackup_native (primaryValid backupValid : Bool) :
    f.native.selectBackup (cfg.native hfits) c.native primaryValid backupValid =
      ((f.selectWhileBackup cfg c primaryValid backupValid).1.native,
        (f.selectWhileBackup cfg c primaryValid backupValid).2.native) := by
  cases primaryValid with
  | false => cases backupValid <;> rfl
  | true =>
    have hcount : f.native.primaryRecoverySamples = min f.primaryRecoverySamples u32Max := rfl
    have hthreshold : (cfg.native hfits).recoverySamples ≤ min (f.primaryRecoverySamples + 1) u32Max ↔
        cfg.recoverySamples ≤ f.primaryRecoverySamples + 1 := le_saturated hfits.2.1 _
    simp only [AutoInputHelper.GridMeasurementFusion.selectBackup, selectWhileBackup, if_true, hcount,
      saturating_min, Bool.true_and, decide_eq_true_eq, hthreshold]
    by_cases hmany : cfg.recoverySamples ≤ f.primaryRecoverySamples + 1
    · rw [if_pos hmany, if_pos hmany]
      rfl
    · rw [if_neg hmany, if_neg hmany]
      cases backupValid <;> rfl

variable {primaryValid backupValid : Bool}

theorem select_native (hfits : cfg.FitsU32)
    (h : f.selectMeasurement cfg c primaryValid backupValid = (g, .ok selection)) :
    f.native.select (cfg.native hfits) c.native primaryValid backupValid = (g.native, selection.native) := by
  unfold selectMeasurement at h
  unfold AutoInputHelper.GridMeasurementFusion.select
  cases henabled : cfg.enabled with
  | false =>
    have hdisabled : (cfg.native hfits).enabled = false := henabled
    rw [henabled, if_neg Bool.false_ne_true] at h
    obtain ⟨rfl, hselection⟩ := Prod.mk.inj h
    obtain rfl := Except.ok.inj hselection
    rw [hdisabled, if_neg Bool.false_ne_true]
    cases backupValid <;> rfl
  | true =>
    have hon : (cfg.native hfits).enabled = true := henabled
    rw [henabled, if_pos rfl] at h
    rw [hon, if_pos rfl]
    have hactive : f.native.activeSourceId = f.activeSourceId := rfl
    rw [hactive]
    cases hsource : f.activeSourceId with
    | none =>
      simp only [hsource, Prod.mk.injEq, Except.ok.injEq] at h
      obtain ⟨rfl, rfl⟩ := h
      exact selectInitial_native primaryValid backupValid
    | some active =>
      simp only [hsource] at h
      show (if active = cfg.primarySourceId then _ else _) = _
      by_cases hprimary : active = cfg.primarySourceId
      · rw [if_pos hprimary] at h
        rw [if_pos hprimary]
        exact selectPrimary_native primaryValid backupValid h
      · rw [if_neg hprimary] at h
        rw [if_neg hprimary]
        obtain ⟨rfl, hselection⟩ := Prod.mk.inj h
        obtain rfl := Except.ok.inj hselection
        exact selectBackup_native primaryValid backupValid

/-! ## The native side of a result -/

theorem power_native {m : GridMeasurement} {x : ℚ} (h : power m = .ok x) : m.native.powerW = some (.fin x) := by
  unfold power at h
  split at h
  · rename_i watts hvalue
    obtain rfl := Except.ok.inj h
    exact hvalue
  · nomatch h

theorem applyDisagreementLimit_native (hfits : cfg.FitsU32) {final : Selection}
    (h : f.applyDisagreementLimit cfg c selection (cfg.primaryUsable c) (cfg.backupUsable c) = .ok final) :
    (if (cfg.primaryUsable c && cfg.backupUsable c &&
        decide ((cfg.native hfits).mismatchSamples ≤ f.native.mismatchSamples)) = true then
      (conservative c.native.primary c.native.backup, GridFusionState.disagreement)
    else selection.native) = final.native := by
  have hmany : (cfg.native hfits).mismatchSamples ≤ f.native.mismatchSamples ↔
      cfg.mismatchSamples ≤ f.mismatchSamples := le_saturated hfits.2.2 _
  simp only [hmany]
  unfold applyDisagreementLimit at h
  split at h
  · rename_i hlimit
    rw [if_pos hlimit]
    simp only [Bool.and_eq_true, decide_eq_true_eq] at hlimit
    split at h
    · rename_i m hm
      obtain rfl := Except.ok.inj h
      rw [show conservative c.native.primary c.native.backup = some m.native from
        conservative_native hlimit.1.1 hlimit.1.2 hm]
      rfl
    · nomatch h
  · rename_i hlimit
    obtain rfl := Except.ok.inj h
    rw [if_neg hlimit]

theorem plausibility_native (hfits : cfg.FitsU32) {checked : Option (ℚ × Limit)}
    (h : f.plausibility cfg c primaryValid backupValid = (g, .ok checked)) :
    f.native.plausibility (cfg.native hfits) c.native primaryValid backupValid =
      (g.native, checked.map (·.1), checked.map (·.2)) := by
  unfold plausibility at h
  split at h
  · rename_i hvalid
    obtain ⟨rfl, rfl⟩ := Bool.and_eq_true_iff.mp hvalid
    cases hx : power c.primary with
    | error e => simp [hx] at h
    | ok x =>
      cases hy : power c.backup with
      | error e => simp [hx, hy] at h
      | ok y =>
        simp only [hx, hy, Prod.mk.injEq, Except.ok.injEq] at h
        obtain ⟨rfl, rfl⟩ := h
        have hprimary : c.native.primary.powerW = some (.fin x) := power_native hx
        have hbackup : c.native.backup.powerW = some (.fin y) := power_native hy
        have htolerance : max (cfg.native hfits).mismatchAbsoluteWatts
            ((cfg.native hfits).mismatchRelative * ((max |x| |y| : ℚ) : Limit)) =
            cfg.mismatchTolerance x y := rfl
        simp only [AutoInputHelper.GridMeasurementFusion.plausibility, Bool.not_true, Bool.or_self,
          Bool.false_eq_true, if_false, hprimary, hbackup, htolerance, native, Option.map_some]
        split_ifs
        · rw [saturating_min]
        · rfl
  · rename_i hinvalid
    obtain ⟨rfl, hchecked⟩ := Prod.mk.inj h
    obtain rfl := Except.ok.inj hchecked
    unfold AutoInputHelper.GridMeasurementFusion.plausibility
    rw [if_pos (by cases primaryValid <;> cases backupValid <;> simp_all)]
    rfl

variable {x : GridFusionResult}

/-- The stages of a call that raises nothing. -/
theorem resolve_ok (h : f.resolve cfg c = (g, .ok x)) :
    ∃ selected selection checked final,
      (f.recordPrimary c.primary (cfg.primaryUsable c)).selectMeasurement cfg c (cfg.primaryUsable c)
        (cfg.backupUsable c) = (selected, .ok selection) ∧
      selected.plausibility cfg c (cfg.primaryUsable c) (cfg.backupUsable c) = (g, .ok checked) ∧
      g.applyDisagreementLimit cfg c selection (cfg.primaryUsable c) (cfg.backupUsable c) = .ok final ∧
      x = g.result c final checked (cfg.primaryUsable c) (cfg.backupUsable c) := by
  unfold resolve at h
  dsimp only at h
  split at h
  · nomatch (Prod.mk.inj h).2
  · rename_i selected selection hselect
    split at h
    · nomatch (Prod.mk.inj h).2
    · rename_i checkedFusion checked hchecked
      split at h
      · nomatch (Prod.mk.inj h).2
      · rename_i final hfinal
        obtain ⟨rfl, hx⟩ := Prod.mk.inj h
        exact ⟨selected, selection, checked, final, hselect, hchecked, hfinal, (Except.ok.inj hx).symm⟩

/-- The report of a Python result is the report of the native result, ages and counters apart. -/
theorem result_native (final : Selection) (checked : Option (ℚ × Limit)) (primaryValid backupValid : Bool)
    (n : AutoInputHelper.GridMeasurementFusion) :
    ({ measurement := final.native.1
       selectedSourceId := (final.native.1.map (·.sourceId)).getD ""
       state := final.native.2
       confidence := (final.native.1.map (·.confidence)).getD (.fin 0)
       primaryValid := primaryValid
       backupValid := backupValid
       primaryAgeSeconds := c.native.primary.age c.native.monotonic
       backupAgeSeconds := c.native.backup.age c.native.monotonic
       differenceWatts := checked.map (·.1)
       toleranceWatts := checked.map (·.2)
       primaryInvalidSamples := n.primaryInvalidSamples
       primaryRecoverySamples := n.primaryRecoverySamples
       mismatchSamples := n.mismatchSamples } : AutoInputHelper.GridFusionResult).report =
      { (g.result c final checked primaryValid backupValid).report with
        primaryAgeSeconds := c.primary.native.age c.monotonicAt
        backupAgeSeconds := c.backup.native.age c.monotonicAt
        primaryInvalidSamples := n.primaryInvalidSamples
        primaryRecoverySamples := n.primaryRecoverySamples
        mismatchSamples := n.mismatchSamples } := by
  rcases final with ⟨measurement, state⟩
  cases measurement with
  | none => rfl
  | some m => rfl

/-- What a call that raises nothing returns, and what the native call returns beside it. -/
theorem resolve_native (hfits : cfg.FitsU32) (h : f.resolve cfg c = (g, .ok x)) :
    (f.native.resolve (cfg.native hfits) c.native).1 = g.native ∧
      (f.native.resolve (cfg.native hfits) c.native).2.report =
        { x.report with
          primaryAgeSeconds := c.primary.native.age c.monotonicAt
          backupAgeSeconds := c.backup.native.age c.monotonicAt
          primaryInvalidSamples := min g.primaryInvalidSamples u32Max
          primaryRecoverySamples := min g.primaryRecoverySamples u32Max
          mismatchSamples := min g.mismatchSamples u32Max } := by
  obtain ⟨selected, selection, checked, final, hselect, hchecked, hfinal, rfl⟩ := resolve_ok h
  have hprimary : (cfg.native hfits).primaryUsable c.native = cfg.primaryUsable c := usable_native ..
  have hbackup : (cfg.native hfits).backupUsable c.native = cfg.backupUsable c := usable_native ..
  have hselectNative := select_native hfits hselect
  rw [recordPrimary_native] at hselectNative
  have hcheckedNative := plausibility_native hfits hchecked
  have hlimit := applyDisagreementLimit_native hfits hfinal
  unfold AutoInputHelper.GridMeasurementFusion.resolve
  simp only [hprimary, hbackup]
  rw [show c.native.primary = c.primary.native from rfl] at hlimit ⊢
  rw [hselectNative]
  simp only [hcheckedNative]
  rw [hlimit]
  exact ⟨trivial, result_native final checked _ _ g.native⟩

/-! ## Counters at their end -/

/-- The call counts a 32-bit counter beyond its end. -/
def Saturates (f : GridMeasurementFusion) (cfg : GridFusionConfig) (c : FusionCall) : Prop :=
  cfg.enabled = true ∧ f.activeSourceId = some cfg.primarySourceId ∧ cfg.primaryUsable c = false ∧
      cfg.backupUsable c = false ∧ f.primaryInvalidSamples = u32Max ∨
    cfg.disagrees c = true ∧ f.mismatchSamples = u32Max

instance : Decidable (f.Saturates cfg c) := inferInstanceAs (Decidable (_ ∨ _))

/-- The counters fit, and the recovery counter is below its threshold. -/
structure Counts (f : GridMeasurementFusion) (cfg : GridFusionConfig) : Prop where
  invalid : f.primaryInvalidSamples ≤ u32Max
  recovery : f.primaryRecoverySamples < cfg.recoverySamples
  mismatch : f.mismatchSamples ≤ u32Max

theorem selectWhilePrimary_counts (hfits : cfg.FitsU32) (hf : f.Counts cfg)
    (h : f.selectWhilePrimary cfg c primaryValid backupValid = (g, .ok selection)) :
    g.mismatchSamples = f.mismatchSamples ∧ g.primaryRecoverySamples < cfg.recoverySamples ∧
      (g.primaryInvalidSamples ≤ u32Max ↔
        ¬(primaryValid = false ∧ backupValid = false ∧ f.primaryInvalidSamples = u32Max)) := by
  have hinvalid := hf.invalid
  have hrecovery := hf.recovery
  have hpos := cfg.samples_pos.2.1
  have hthreshold := hfits.1
  unfold selectWhilePrimary at h
  cases primaryValid with
  | true =>
    obtain ⟨rfl, -⟩ := Prod.mk.inj h
    exact ⟨rfl, hrecovery, iff_of_true (Nat.zero_le _) fun hmissing => nomatch hmissing.1⟩
  | false =>
    simp only [Bool.false_eq_true, if_false] at h
    split at h
    · nomatch (Prod.mk.inj h).2
    · split at h
      · rename_i hheld
        obtain ⟨rfl, -⟩ := Prod.mk.inj h
        have hfew := hheld.1
        exact ⟨rfl, hrecovery, iff_of_true (show f.primaryInvalidSamples + 1 ≤ u32Max by omega) (by omega)⟩
      · cases backupValid with
        | true =>
          obtain ⟨rfl, -⟩ := Prod.mk.inj h
          exact ⟨rfl, hpos, iff_of_true (Nat.zero_le _) fun hmissing => nomatch hmissing.2.1⟩
        | false =>
          obtain ⟨rfl, -⟩ := Prod.mk.inj h
          refine ⟨rfl, hrecovery, ?_⟩
          show f.primaryInvalidSamples + 1 ≤ u32Max ↔ _
          simp only [true_and]
          omega

theorem selectWhileBackup_counts (primaryValid backupValid : Bool) :
    (f.selectWhileBackup cfg c primaryValid backupValid).1.mismatchSamples = f.mismatchSamples ∧
      (f.selectWhileBackup cfg c primaryValid backupValid).1.primaryRecoverySamples < cfg.recoverySamples ∧
      (f.primaryInvalidSamples ≤ u32Max →
        (f.selectWhileBackup cfg c primaryValid backupValid).1.primaryInvalidSamples ≤ u32Max) := by
  have hpos := cfg.samples_pos.2.1
  unfold selectWhileBackup
  cases primaryValid with
  | false => cases backupValid <;> exact ⟨rfl, hpos, id⟩
  | true =>
    by_cases hmany : cfg.recoverySamples ≤ f.primaryRecoverySamples + 1
    · simp only [if_true, Bool.true_and, decide_eq_true_eq, if_pos hmany]
      exact ⟨rfl, hpos, fun _ => Nat.zero_le _⟩
    · have hfew : f.primaryRecoverySamples + 1 < cfg.recoverySamples := by omega
      simp only [if_true, Bool.true_and, decide_eq_true_eq, if_neg hmany]
      cases backupValid <;> exact ⟨rfl, hfew, id⟩

theorem selectInitial_counts (hf : f.Counts cfg) (primaryValid backupValid : Bool) :
    (f.selectInitial cfg c primaryValid backupValid).1.mismatchSamples = f.mismatchSamples ∧
      (f.selectInitial cfg c primaryValid backupValid).1.primaryRecoverySamples < cfg.recoverySamples ∧
      (f.selectInitial cfg c primaryValid backupValid).1.primaryInvalidSamples ≤ u32Max := by
  have hpos := cfg.samples_pos.2.1
  cases primaryValid with
  | true => exact ⟨rfl, hpos, Nat.zero_le _⟩
  | false =>
    cases backupValid with
    | true => exact ⟨rfl, hpos, Nat.zero_le _⟩
    | false => exact ⟨rfl, hf.recovery, hf.invalid⟩

/-- After a selection the counters fit, unless the call counts beyond the end. -/
theorem selectMeasurement_counts (hfits : cfg.FitsU32) (hf : f.Counts cfg)
    (h : f.selectMeasurement cfg c primaryValid backupValid = (g, .ok selection)) :
    g.mismatchSamples = f.mismatchSamples ∧ g.primaryRecoverySamples < cfg.recoverySamples ∧
      (g.primaryInvalidSamples ≤ u32Max ↔
        ¬(cfg.enabled = true ∧ f.activeSourceId = some cfg.primarySourceId ∧ primaryValid = false ∧
          backupValid = false ∧ f.primaryInvalidSamples = u32Max)) := by
  unfold selectMeasurement at h
  by_cases henabled : cfg.enabled = true
  · rw [if_pos henabled] at h
    cases hsource : f.activeSourceId with
    | none =>
      simp only [hsource] at h
      obtain ⟨rfl, -⟩ := Prod.mk.inj h
      obtain ⟨hmismatch, hrecovery, hinvalid⟩ :=
        selectInitial_counts (c := c) hf primaryValid backupValid
      exact ⟨hmismatch, hrecovery, iff_of_true hinvalid fun hends => nomatch hends.2.1⟩
    | some active =>
      simp only [hsource] at h
      split_ifs at h with hprimary
      · obtain ⟨hmismatch, hrecovery, hinvalid⟩ := selectWhilePrimary_counts hfits hf h
        refine ⟨hmismatch, hrecovery, hinvalid.trans (not_congr ?_)⟩
        simp [henabled, hprimary]
      · obtain ⟨rfl, -⟩ := Prod.mk.inj h
        obtain ⟨hmismatch, hrecovery, hinvalid⟩ :=
          selectWhileBackup_counts (f := f) (c := c) primaryValid backupValid
        exact ⟨hmismatch, hrecovery,
          iff_of_true (hinvalid hf.invalid) fun hends => hprimary (Option.some.inj hends.2.1)⟩
  · rw [if_neg henabled] at h
    obtain ⟨rfl, -⟩ := Prod.mk.inj h
    exact ⟨rfl, hf.recovery, iff_of_true hf.invalid fun hends => henabled hends.1⟩

/-- A call that raises nothing keeps the counters in their range exactly when it does not saturate. -/
theorem resolve_counts (hfits : cfg.FitsU32) (hf : f.Counts cfg)
    (h : f.resolve cfg c = (g, .ok x)) :
    g.primaryRecoverySamples < cfg.recoverySamples ∧
      (g.primaryInvalidSamples ≤ u32Max ∧ g.mismatchSamples ≤ u32Max ↔ ¬f.Saturates cfg c) := by
  obtain ⟨selected, selection, checked, final, hselect, hchecked, -, -⟩ := resolve_ok h
  have hrecorded : (f.recordPrimary c.primary (cfg.primaryUsable c)).Counts cfg := by
    unfold recordPrimary
    split_ifs
    · exact ⟨hf.invalid, hf.recovery, hf.mismatch⟩
    · exact hf
  obtain ⟨hmismatch, hrecovery, hinvalid⟩ := selectMeasurement_counts hfits hrecorded hselect
  have hsame : ∀ primaryValid, (f.recordPrimary c.primary primaryValid).activeSourceId = f.activeSourceId ∧
      (f.recordPrimary c.primary primaryValid).primaryInvalidSamples = f.primaryInvalidSamples ∧
      (f.recordPrimary c.primary primaryValid).mismatchSamples = f.mismatchSamples := by
    intro primaryValid
    cases primaryValid <;> exact ⟨rfl, rfl, rfl⟩
  obtain ⟨hactive, hinvalidSame, hmismatchSame⟩ := hsame (cfg.primaryUsable c)
  rw [hactive, hinvalidSame] at hinvalid
  obtain ⟨_, hcounted⟩ := plausibility_eq selected cfg c
  obtain ⟨rfl, -⟩ := Prod.mk.inj (hchecked.symm.trans hcounted)
  refine ⟨hrecovery, ?_⟩
  have hmismatchEnd : (selected.counted cfg c).mismatchSamples ≤ u32Max ↔
      ¬(cfg.disagrees c = true ∧ f.mismatchSamples = u32Max) := by
    have hbefore := hf.mismatch
    show (if cfg.disagrees c then selected.mismatchSamples + 1 else 0) ≤ u32Max ↔ _
    rw [hmismatch, hmismatchSame]
    split_ifs with hdisagrees
    · simp only [hdisagrees, true_and]
      omega
    · simp [hdisagrees]
  rw [hmismatchEnd, show (selected.counted cfg c).primaryInvalidSamples = selected.primaryInvalidSamples from rfl,
    hinvalid]
  unfold Saturates
  exact not_or.symm

end GridMeasurementFusion

/-! ## Runs of both fusions -/

/-- Both fusions beside the calls they have answered. -/
structure FusionPair where
  run : FusionRun
  native : AutoInputHelper.GridMeasurementFusion

namespace FusionPair

variable {cfg : GridFusionConfig}

/-- Two new fusions. -/
def start : FusionPair := ⟨.start, .new⟩

/-- One call to both. -/
def step (cfg : GridFusionConfig) (hfits : cfg.FitsU32) (p : FusionPair) (c : FusionCall) : FusionPair where
  run := p.run.step cfg c
  native := (p.native.resolve (cfg.native hfits) c.native).1

/-- Both return, and they report the same. -/
def Agrees (cfg : GridFusionConfig) (hfits : cfg.FitsU32) (p : FusionPair) (c : FusionCall) : Prop :=
  ∃ x, (p.run.fusion.resolve cfg c).2 = .ok x ∧
    (p.native.resolve (cfg.native hfits) c.native).2.report = x.report

/-- No one raises, no measurement is from the future, and no counter is at its end. -/
def Comparable (cfg : GridFusionConfig) (p : FusionPair) (c : FusionCall) : Prop :=
  ¬FusionRun.Stranded cfg p.run c ∧ ¬c.primary.Ahead c.monotonicAt ∧ ¬c.backup.Ahead c.monotonicAt ∧
    ¬p.run.fusion.Saturates cfg c

/-- The native attributes are those of the Python fusion. -/
structure Linked (cfg : GridFusionConfig) (p : FusionPair) : Prop where
  recorded : FusionRun.Recorded cfg p.run
  native : p.native = p.run.fusion.native
  counts : p.run.fusion.Counts cfg

theorem linked_start (cfg : GridFusionConfig) : Linked cfg start :=
  ⟨FusionRun.recorded_start cfg, rfl, ⟨Nat.zero_le _, cfg.samples_pos.2.1, Nat.zero_le _⟩⟩

/-- Two reports of one call agree when the ages and the counters do. -/
theorem report_eq_iff (x : GridFusionResult) (primaryAge backupAge : Option ℚ) (invalid recovery mismatch : Nat) :
    { x.report with
      primaryAgeSeconds := primaryAge
      backupAgeSeconds := backupAge
      primaryInvalidSamples := invalid
      primaryRecoverySamples := recovery
      mismatchSamples := mismatch } = x.report ↔
    primaryAge = x.primaryAgeSeconds ∧ backupAge = x.backupAgeSeconds ∧
      invalid = x.primaryInvalidSamples ∧ recovery = x.primaryRecoverySamples ∧
      mismatch = x.mismatchSamples := by
  simp only [GridFusionResult.report, FusionReport.mk.injEq, true_and]

/-- A call that raises nothing keeps both linked while no counter is at its end, and its reports agree when
in addition no measurement is from the future. -/
theorem step_linked (hfits : cfg.FitsU32) {p : FusionPair} {c : FusionCall} (hp : Linked cfg p)
    {g : GridMeasurementFusion} {x : GridFusionResult} (h : p.run.fusion.resolve cfg c = (g, .ok x)) :
    (¬p.run.fusion.Saturates cfg c → Linked cfg (p.step cfg hfits c)) ∧
      (Agrees cfg hfits p c ↔ (¬c.primary.Ahead c.monotonicAt ∧ ¬c.backup.Ahead c.monotonicAt ∧
        ¬p.run.fusion.Saturates cfg c)) := by
  obtain ⟨hnative, hreport⟩ := GridMeasurementFusion.resolve_native hfits h
  obtain ⟨hrecovery, hcounters⟩ := GridMeasurementFusion.resolve_counts hfits hp.counts h
  obtain ⟨_, _, checked, final, -, -, -, hx⟩ := GridMeasurementFusion.resolve_ok h
  have hafter : (p.run.step cfg c).fusion = g := by
    rw [FusionRun.step, h]
  constructor
  · intro hsaturates
    obtain ⟨hinvalid, hmismatch⟩ := hcounters.mpr hsaturates
    refine ⟨(FusionRun.step_recorded cfg p.run c hp.recorded).1, ?_, ?_⟩
    · rw [step, hafter, hp.native]
      exact hnative
    · rw [step, hafter]
      exact ⟨hinvalid, hrecovery, hmismatch⟩
  · have hrecoveryFits : g.primaryRecoverySamples ≤ u32Max := hrecovery.le.trans hfits.2.1
    have hagrees : Agrees cfg hfits p c ↔
        (p.native.resolve (cfg.native hfits) c.native).2.report = x.report := by
      simp only [Agrees, h, Except.ok.injEq, exists_eq_left']
    rw [hagrees, hp.native, hreport, report_eq_iff, hx]
    simp only [GridMeasurementFusion.result, min_eq_left_iff, hrecoveryFits, true_and, hcounters,
      age_native_iff]

/-- Under the link a call is answered alike exactly when it is comparable. -/
theorem agrees_iff (hfits : cfg.FitsU32) (p : FusionPair) (c : FusionCall) (hp : Linked cfg p) :
    Agrees cfg hfits p c ↔ Comparable cfg p c := by
  have hreturns := (FusionRun.step_recorded cfg p.run c hp.recorded).2
  rcases hresolve : p.run.fusion.resolve cfg c with ⟨g, outcome⟩
  cases outcome with
  | error e =>
    have hraises : ¬FusionRun.Returns cfg p.run c := by
      simp [FusionRun.Returns, hresolve, Except.isOk, Except.toBool]
    refine iff_of_false ?_ fun hcomparable => hraises (hreturns.mpr hcomparable.1)
    intro hagrees
    obtain ⟨x, hx, -⟩ := hagrees
    rw [hresolve] at hx
    cases hx
  | ok x =>
    have hok : FusionRun.Returns cfg p.run c := by
      simp [FusionRun.Returns, hresolve, Except.isOk, Except.toBool]
    rw [(step_linked hfits hp hresolve).2]
    unfold Comparable
    rw [and_iff_right (hreturns.mp hok)]

theorem step_of_comparable (hfits : cfg.FitsU32) (p : FusionPair) (c : FusionCall) (hp : Linked cfg p)
    (hc : Comparable cfg p c) : Linked cfg (p.step cfg hfits c) := by
  have hreturns := (FusionRun.step_recorded cfg p.run c hp.recorded).2.mpr hc.1
  rcases hresolve : p.run.fusion.resolve cfg c with ⟨g, outcome⟩
  cases outcome with
  | error e => simp [FusionRun.Returns, hresolve, Except.isOk, Except.toBool] at hreturns
  | ok x => exact (step_linked hfits hp hresolve).1 hc.2.2.2

/-- Both fusions answer every call of a run alike: the native one exists for 32-bit thresholds only. -/
def AgreeAlong (cfg : GridFusionConfig) (calls : List FusionCall) : Prop :=
  ∃ hfits : cfg.FitsU32, Along (step cfg hfits) (Agrees cfg hfits) start calls

theorem fusions_agree_iff (cfg : GridFusionConfig) (calls : List FusionCall) :
    AgreeAlong cfg calls ↔ ∃ hfits : cfg.FitsU32, Along (step cfg hfits) (Comparable cfg) start calls := by
  refine exists_congr fun hfits => ?_
  exact along_iff_of_invariant (step_of_comparable hfits) (agrees_iff hfits) (linked_start cfg)

/-- A primary observed half a second ahead of the call, within the tolerance: the native age is negative. -/
theorem ahead_disagrees :
    ¬AgreeAlong (FusionRun.twoMeters "meter" FusionRun.meter_named)
      [⟨FusionRun.workingMeter "meter" (3 / 2) (by decide +kernel),
        FusionRun.workingMeter "victron" 1 FusionRun.firstReading_nonneg, 1⟩] := by
  intro hagree
  obtain ⟨hfits, ⟨x, hx, hreport⟩, -⟩ := hagree
  obtain ⟨_, _, _, _, -, -, -, hresult⟩ := GridMeasurementFusion.resolve_ok (Prod.ext rfl hx)
  have hages := congrArg FusionReport.primaryAgeSeconds hreport
  rw [hresult] at hages
  -- the native age is a half second below zero, the Python age is zero
  have hvalues : some ((1 : ℚ) - 3 / 2) = some (max 0 ((1 : ℚ) - 3 / 2)) := hages
  exact absurd hvalues (by decide +kernel)

end FusionPair

end VenusEvcharger
