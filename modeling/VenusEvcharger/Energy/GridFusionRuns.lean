import VenusEvcharger.Library.Run
import VenusEvcharger.Library.Streak
import VenusEvcharger.Energy.GridFusion

/-!
# Runs of the grid fusion

A run is any list of `resolve` calls on one new fusion. `Tracks` says what the attributes of the fusion mean:
the last primary is the newest usable one, and the counters are the current streaks of the calls.
`disciplined` derives the contract of every call from it, when the two sources have different ids.
`never_raises_iff` says when no call of a run raises.
-/

namespace VenusEvcharger

open Library

/-! ## What a call may return -/

namespace GridFusionConfig

/-- The primary is not usable in the call. -/
def primaryMissing (cfg : GridFusionConfig) (c : FusionCall) : Bool := !cfg.primaryUsable c

/-- The primary of the newest call in which it was usable. -/
def lastUsablePrimary (cfg : GridFusionConfig) (history : List FusionCall) : Option GridMeasurement :=
  (history.find? cfg.primaryUsable).map (·.primary)

/-- The measurement was observed at most the hold limit ago. -/
def Held (cfg : GridFusionConfig) (o : Observation) (monotonicAt : ℚ) : Prop :=
  ((monotonicAt - o.observedMonotonic : ℚ) : Limit) ≤ cfg.holdLimit

instance (cfg : GridFusionConfig) (o : Observation) (monotonicAt : ℚ) : Decidable (cfg.Held o monotonicAt) :=
  inferInstanceAs (Decidable (_ ≤ _))

/-- The measurements that a call may return. -/
inductive Admissible (cfg : GridFusionConfig) (history : List FusionCall) (c : FusionCall) :
    GridMeasurement → Prop
  | primary (h : cfg.primaryUsable c = true) : Admissible cfg history c c.primary
  | backup (h : cfg.backupUsable c = true) : Admissible cfg history c c.backup
  | held (last : GridMeasurement) (o : Observation)
      (hlast : cfg.lastUsablePrimary (c :: history) = some last) (hmeasurement : last.measurement = some o)
      (hheld : cfg.Held o c.monotonicAt) : Admissible cfg history c last
  | conservative (m : GridMeasurement) (hprimary : cfg.primaryUsable c = true)
      (hbackup : cfg.backupUsable c = true)
      (h : GridMeasurementFusion.conservativeMeasurement c.primary c.backup = .ok m) :
      Admissible cfg history c m

/-- The newest usable primary is older than the hold limit. -/
def HoldExpired (cfg : GridFusionConfig) (history : List FusionCall) (c : FusionCall) : Prop :=
  ∃ last o, cfg.lastUsablePrimary (c :: history) = some last ∧ last.measurement = some o ∧
    ¬cfg.Held o c.monotonicAt

theorem lastUsablePrimary_cons (cfg : GridFusionConfig) (c : FusionCall) (history : List FusionCall) :
    cfg.lastUsablePrimary (c :: history) =
      if cfg.primaryUsable c then some c.primary else cfg.lastUsablePrimary history := by
  unfold lastUsablePrimary
  rw [List.find?_cons]
  cases cfg.primaryUsable c <;> rfl

theorem lastUsablePrimary_available {cfg : GridFusionConfig} {history : List FusionCall}
    {last : GridMeasurement} (h : cfg.lastUsablePrimary history = some last) :
    ∃ o, last.measurement = some o := by
  unfold lastUsablePrimary at h
  obtain ⟨c, hfind, rfl⟩ := Option.map_eq_some_iff.mp h
  obtain ⟨o, -, hmeasurement, -⟩ :=
    GridMeasurement.available_of_isUsable (List.find?_some hfind : cfg.primaryUsable c = true)
  exact ⟨o, hmeasurement⟩

theorem Admissible.available {cfg : GridFusionConfig} {history : List FusionCall} {c : FusionCall}
    {m : GridMeasurement} (h : cfg.Admissible history c m) : ∃ o, m.measurement = some o := by
  cases h with
  | primary h =>
    obtain ⟨o, -, hmeasurement, -⟩ := GridMeasurement.available_of_isUsable h
    exact ⟨o, hmeasurement⟩
  | backup h =>
    obtain ⟨o, -, hmeasurement, -⟩ := GridMeasurement.available_of_isUsable h
    exact ⟨o, hmeasurement⟩
  | held _ o _ hmeasurement => exact ⟨o, hmeasurement⟩
  | conservative _ hprimary hbackup h =>
    obtain ⟨m', o, hm', hmeasurement⟩ := GridMeasurementFusion.conservative_of_isUsable hprimary hbackup
    obtain rfl : m' = m := by simpa [hm'] using h
    exact ⟨o, hmeasurement⟩

end GridFusionConfig

/-! ## What the attributes mean -/

namespace GridMeasurementFusion

/-- The last primary, the active source and the sample counters against the calls so far. -/
structure Tracks (cfg : GridFusionConfig) (f : GridMeasurementFusion) (history : List FusionCall) : Prop where
  lastPrimary : f.lastPrimary = cfg.lastUsablePrimary history
  active : f.activeSourceId = none ∨ f.activeSourceId = some cfg.primarySourceId ∨
    f.activeSourceId = some cfg.backupSourceId
  whilePrimary : f.activeSourceId = some cfg.primarySourceId →
    f.lastPrimary.isSome ∧ f.primaryInvalidSamples = streak cfg.primaryMissing history
  whileBackup : f.activeSourceId = some cfg.backupSourceId →
    f.primaryRecoverySamples = streak cfg.primaryUsable history

/-- What a selection from `f` to `g` does, up to the mismatch counter. -/
structure Selects (cfg : GridFusionConfig) (history : List FusionCall) (c : FusionCall)
    (f g : GridMeasurementFusion) (selection : Selection) : Prop where
  tracks : Tracks cfg g (c :: history)
  mismatchSamples : g.mismatchSamples = f.mismatchSamples
  admissible : ∀ m ∈ selection.1, cfg.Admissible history c m
  failover : f.activeSourceId = some cfg.primarySourceId → g.activeSourceId = some cfg.backupSourceId →
    cfg.primaryUsable c = false ∧
      (HeldForLast cfg.primaryMissing cfg.failoverSamples (c :: history) ∨ cfg.HoldExpired history c)
  recovery : f.activeSourceId = some cfg.backupSourceId → g.activeSourceId = some cfg.primarySourceId →
    HeldForLast cfg.primaryUsable cfg.recoverySamples (c :: history)
  available : cfg.primaryUsable c = true ∨ cfg.backupUsable c = true → selection.1.isSome
  state : selection.2 ≠ .disagreement

variable {cfg : GridFusionConfig} {f : GridMeasurementFusion} {history : List FusionCall} {c : FusionCall}

/-- The fusion after `_record_primary`. -/
def recorded (f : GridMeasurementFusion) (cfg : GridFusionConfig) (history : List FusionCall)
    (c : FusionCall) : GridMeasurementFusion :=
  { f with lastPrimary := cfg.lastUsablePrimary (c :: history) }

theorem recordPrimary_eq (h : f.lastPrimary = cfg.lastUsablePrimary history) :
    f.recordPrimary c.primary (cfg.primaryUsable c) = f.recorded cfg history c := by
  unfold recordPrimary recorded
  rw [cfg.lastUsablePrimary_cons, ← h]
  split <;> rfl

/-! ## The three selections -/

theorem selectInitial_selects (hids : cfg.primarySourceId ≠ cfg.backupSourceId)
    (hactive : f.activeSourceId = none) :
    Selects cfg history c f
      ((f.recorded cfg history c).selectInitial cfg c (cfg.primaryUsable c) (cfg.backupUsable c)).1
      ((f.recorded cfg history c).selectInitial cfg c (cfg.primaryUsable c) (cfg.backupUsable c)).2 := by
  unfold selectInitial
  cases hprimary : cfg.primaryUsable c with
  | true =>
    refine ⟨⟨rfl, .inr (.inl rfl), fun _ => ?_, fun h => absurd (Option.some.inj h) hids⟩, rfl, ?_, ?_, ?_,
      fun _ => rfl, by simp⟩
    · simp [activatePrimary, recorded, cfg.lastUsablePrimary_cons, streak_cons,
        GridFusionConfig.primaryMissing, hprimary]
    · rintro m ⟨⟩
      exact .primary hprimary
    · simp [hactive]
    · simp [hactive]
  | false =>
    cases hbackup : cfg.backupUsable c with
    | true =>
      refine ⟨⟨rfl, .inr (.inr rfl), fun h => absurd (Option.some.inj h).symm hids, fun _ => ?_⟩, rfl,
        ?_, ?_, ?_, fun _ => rfl, by simp⟩
      · simp [activateBackup, streak_cons, hprimary]
      · rintro m ⟨⟩
        exact .backup hbackup
      · simp [hactive]
      · simp [hactive]
    | false => exact ⟨⟨rfl, by simp [recorded, hactive], by simp [recorded, hactive],
        by simp [recorded, hactive]⟩, rfl, by simp, by simp [hactive], by simp [hactive],
        by simp [hprimary, hbackup], by simp⟩

/-- `_held_primary` with a last primary. -/
theorem heldPrimary_eq {last : GridMeasurement} {o : Observation} {at' : ℚ} (hlast : f.lastPrimary = some last)
    (hmeasurement : last.measurement = some o) :
    f.heldPrimary cfg at' = .ok (if cfg.Held o at' then some last else none) := by
  simp only [heldPrimary, hlast, hmeasurement, GridFusionConfig.Held]
  congr

/-- While the primary is active, an unusable primary is held, replaced by the backup, or missed. -/
theorem selectWhilePrimary_missing (backupValid : Bool) {last : GridMeasurement} {o : Observation}
    (hlast : f.lastPrimary = some last) (hmeasurement : last.measurement = some o) :
    let missed := { f with primaryInvalidSamples := f.primaryInvalidSamples + 1 }
    (cfg.Held o c.monotonicAt ∧ f.selectWhilePrimary cfg c false backupValid =
      (missed, .ok (some last, .primaryHeld))) ∨
    ((cfg.failoverSamples ≤ f.primaryInvalidSamples + 1 ∨ ¬cfg.Held o c.monotonicAt) ∧
      f.selectWhilePrimary cfg c false backupValid =
        if backupValid then (missed.activateBackup cfg, .ok (some c.backup, .backup))
        else (missed, .ok (none, .unavailable))) := by
  intro missed
  have hheld : missed.heldPrimary cfg c.monotonicAt = .ok (if cfg.Held o c.monotonicAt then some last else none) :=
    heldPrimary_eq hlast hmeasurement
  have hselect : f.selectWhilePrimary cfg c false backupValid =
      if missed.primaryInvalidSamples < cfg.failoverSamples ∧
          (if cfg.Held o c.monotonicAt then some last else none).isSome then
        (missed, .ok (if cfg.Held o c.monotonicAt then some last else none, .primaryHeld))
      else if backupValid then (missed.activateBackup cfg, .ok (some c.backup, .backup))
      else (missed, .ok (none, .unavailable)) := by
    simp only [selectWhilePrimary, Bool.false_eq_true, if_false]
    rw [hheld]
  rw [hselect]
  by_cases hin : cfg.Held o c.monotonicAt
  · rcases Nat.lt_or_ge missed.primaryInvalidSamples cfg.failoverSamples with hfew | hmany
    · exact .inl ⟨hin, by simp [hin, hfew]⟩
    · exact .inr ⟨.inl hmany, by simp [Nat.not_lt.mpr hmany]⟩
  · exact .inr ⟨.inr hin, by simp [hin]⟩

theorem selectWhilePrimary_selects (hids : cfg.primarySourceId ≠ cfg.backupSourceId)
    (ht : Tracks cfg f history) (hactive : f.activeSourceId = some cfg.primarySourceId) :
    ∃ g selection, (f.recorded cfg history c).selectWhilePrimary cfg c (cfg.primaryUsable c)
        (cfg.backupUsable c) = (g, .ok selection) ∧ Selects cfg history c f g selection := by
  obtain ⟨hsome, hsamples⟩ := ht.whilePrimary hactive
  have hnotBackup : f.activeSourceId ≠ some cfg.backupSourceId := by
    rw [hactive]
    exact fun h => hids (Option.some.inj h)
  cases hprimary : cfg.primaryUsable c with
  | true =>
    refine ⟨_, _, rfl, ⟨rfl, .inr (.inl hactive), fun _ => ?_, fun h => absurd h hnotBackup⟩, rfl, ?_,
      fun _ h => absurd h hnotBackup, fun h => absurd h hnotBackup, fun _ => rfl, by simp⟩
    · simp [recorded, cfg.lastUsablePrimary_cons, streak_cons, GridFusionConfig.primaryMissing, hprimary]
    · rintro m ⟨⟩
      exact .primary hprimary
  | false =>
    have hlastEq : cfg.lastUsablePrimary (c :: history) = cfg.lastUsablePrimary history := by
      simp [cfg.lastUsablePrimary_cons, hprimary]
    rw [ht.lastPrimary, ← hlastEq] at hsome
    obtain ⟨last, hlast⟩ := Option.isSome_iff_exists.mp hsome
    obtain ⟨o, hmeasurement⟩ := GridFusionConfig.lastUsablePrimary_available hlast
    have hstreak : streak cfg.primaryMissing (c :: history) = f.primaryInvalidSamples + 1 := by
      simp [streak_cons, GridFusionConfig.primaryMissing, hprimary, hsamples]
    -- the counter of the missed call is the new streak, so every exit without failover tracks again
    have htracks : Tracks cfg { f.recorded cfg history c with
        primaryInvalidSamples := f.primaryInvalidSamples + 1 } (c :: history) :=
      ⟨rfl, .inr (.inl hactive), fun _ => ⟨hsome, hstreak.symm⟩, fun h => absurd h hnotBackup⟩
    rcases selectWhilePrimary_missing (f := f.recorded cfg history c) (cfg.backupUsable c) hlast
      hmeasurement with ⟨hheld, hselect⟩ | ⟨hwhy, hselect⟩
    · refine ⟨_, _, hselect, htracks, rfl, ?_, fun _ h => absurd h hnotBackup,
        fun h => absurd h hnotBackup, fun _ => rfl, by simp⟩
      rintro m ⟨⟩
      exact .held last o hlast hmeasurement hheld
    · cases hbackup : cfg.backupUsable c with
      | true =>
        rw [hbackup] at hselect
        refine ⟨_, _, hselect, ⟨rfl, .inr (.inr rfl), fun h => absurd (Option.some.inj h).symm hids,
          fun _ => ?_⟩, rfl, ?_, fun _ _ => ⟨hprimary, ?_⟩, fun h => absurd h hnotBackup, fun _ => rfl,
          by simp⟩
        · simp [activateBackup, streak_cons, hprimary]
        · rintro m ⟨⟩
          exact .backup hbackup
        · rcases hwhy with hmany | hexpired
          · exact .inl (le_streak_iff.mp (by rw [hstreak]; exact hmany))
          · exact .inr ⟨last, o, hlast, hmeasurement, hexpired⟩
      | false =>
        rw [hbackup] at hselect
        exact ⟨_, _, hselect, htracks, rfl, by simp, fun _ h => absurd h hnotBackup,
          fun h => absurd h hnotBackup, by simp [hprimary, hbackup], by simp⟩

theorem selectWhileBackup_selects (hids : cfg.primarySourceId ≠ cfg.backupSourceId)
    (ht : Tracks cfg f history) (hactive : f.activeSourceId = some cfg.backupSourceId) :
    Selects cfg history c f
      ((f.recorded cfg history c).selectWhileBackup cfg c (cfg.primaryUsable c) (cfg.backupUsable c)).1
      ((f.recorded cfg history c).selectWhileBackup cfg c (cfg.primaryUsable c) (cfg.backupUsable c)).2 := by
  have hsamples := ht.whileBackup hactive
  have hnotPrimary : f.activeSourceId ≠ some cfg.primarySourceId := by
    rw [hactive]
    exact fun h => hids (Option.some.inj h).symm
  have hstreak : streak cfg.primaryUsable (c :: history) =
      if cfg.primaryUsable c then f.primaryRecoverySamples + 1 else 0 := by
    rw [streak_cons, hsamples]
  -- while the backup stays active, the counter of the call is the new streak
  have htracks : Tracks cfg { f.recorded cfg history c with
      primaryRecoverySamples := if cfg.primaryUsable c then f.primaryRecoverySamples + 1 else 0 }
      (c :: history) :=
    ⟨rfl, .inr (.inr hactive), fun h => absurd h hnotPrimary, fun _ => hstreak.symm⟩
  unfold selectWhileBackup
  cases hprimary : cfg.primaryUsable c with
  | true =>
    rw [hprimary] at htracks
    by_cases hmany : cfg.recoverySamples ≤ f.primaryRecoverySamples + 1
    · simp only [recorded, if_true, hmany, decide_true, Bool.and_self]
      refine ⟨⟨rfl, .inr (.inl rfl), fun _ => ?_, fun h => absurd (Option.some.inj h) hids⟩, rfl, ?_,
        fun h => absurd h hnotPrimary, fun _ _ => le_streak_iff.mp ?_, fun _ => rfl, by simp⟩
      · simp [activatePrimary, cfg.lastUsablePrimary_cons, streak_cons, GridFusionConfig.primaryMissing,
          hprimary]
      · rintro m ⟨⟩
        exact .primary hprimary
      · rw [hstreak, hprimary]
        exact hmany
    · simp only [recorded, if_true, hmany, decide_false, Bool.and_false, Bool.false_eq_true, if_false]
      cases hbackup : cfg.backupUsable c with
      | true =>
        refine ⟨htracks, rfl, ?_, fun h => absurd h hnotPrimary, fun _ h => absurd h hnotPrimary,
          fun _ => rfl, by simp⟩
        rintro m ⟨⟩
        exact .backup hbackup
      | false =>
        refine ⟨htracks, rfl, ?_, fun h => absurd h hnotPrimary, fun _ h => absurd h hnotPrimary,
          fun _ => rfl, by simp⟩
        rintro m ⟨⟩
        exact .primary hprimary
  | false =>
    rw [hprimary] at htracks
    simp only [recorded, Bool.false_and, Bool.false_eq_true, if_false]
    cases hbackup : cfg.backupUsable c with
    | true =>
      refine ⟨htracks, rfl, ?_, fun h => absurd h hnotPrimary, fun _ h => absurd h hnotPrimary,
        fun _ => rfl, by simp⟩
      rintro m ⟨⟩
      exact .backup hbackup
    | false =>
      exact ⟨htracks, rfl, by simp, fun h => absurd h hnotPrimary, fun _ h => absurd h hnotPrimary,
        by simp [hprimary, hbackup], by simp⟩

/-- With two different source ids every selection succeeds. -/
theorem selectMeasurement_selects (henabled : cfg.enabled = true)
    (hids : cfg.primarySourceId ≠ cfg.backupSourceId) (ht : Tracks cfg f history) :
    ∃ g selection, (f.recordPrimary c.primary (cfg.primaryUsable c)).selectMeasurement cfg c
        (cfg.primaryUsable c) (cfg.backupUsable c) = (g, .ok selection) ∧
      Selects cfg history c f g selection := by
  rw [recordPrimary_eq ht.lastPrimary]
  unfold selectMeasurement
  rw [if_pos henabled]
  rcases ht.active with hactive | hactive | hactive
  · have hsame : (f.recorded cfg history c).activeSourceId = none := hactive
    simp only [hsame]
    exact ⟨_, _, rfl, selectInitial_selects hids hactive⟩
  · have hsame : (f.recorded cfg history c).activeSourceId = some cfg.primarySourceId := hactive
    simp only [hsame, if_true]
    exact selectWhilePrimary_selects hids ht hactive
  · have hsame : (f.recorded cfg history c).activeSourceId = some cfg.backupSourceId := hactive
    simp only [hsame, if_neg hids.symm]
    exact ⟨_, _, rfl, selectWhileBackup_selects hids ht hactive⟩

/-! ## `resolve` after the selection -/

/-- The two outcomes of a call whose selection succeeded. -/
theorem resolve_of_selected {g : GridMeasurementFusion} {selection : Selection}
    (hselect : (f.recordPrimary c.primary (cfg.primaryUsable c)).selectMeasurement cfg c
      (cfg.primaryUsable c) (cfg.backupUsable c) = (g, .ok selection))
    (hmismatch : g.mismatchSamples = streak cfg.disagrees history) :
    ∃ final checked, f.resolve cfg c = (g.counted cfg c,
        .ok ((g.counted cfg c).result c final checked (cfg.primaryUsable c) (cfg.backupUsable c))) ∧
      (¬HeldForLast cfg.disagrees cfg.mismatchSamples (c :: history) ∧ final = selection ∨
        HeldForLast cfg.disagrees cfg.mismatchSamples (c :: history) ∧
          ∃ m, conservativeMeasurement c.primary c.backup = .ok m ∧ final = (some m, .disagreement)) := by
  obtain ⟨checked, hchecked⟩ := plausibility_eq g cfg c
  have hcount : (g.counted cfg c).mismatchSamples = streak cfg.disagrees (c :: history) := by
    rw [streak_cons, ← hmismatch]
    rfl
  have hcounted : 1 ≤ (g.counted cfg c).mismatchSamples → cfg.disagrees c = true := by
    intro h
    by_contra hagree
    rw [hcount, streak_cons, if_neg hagree] at h
    omega
  rw [← le_streak_iff, ← hcount]
  rcases applyDisagreementLimit_eq (g.counted cfg c) selection hcounted with
    ⟨hfew, hlimit⟩ | ⟨hmany, m, hm, hlimit⟩
  · exact ⟨selection, checked, by simp only [resolve, hselect, hchecked, hlimit],
      .inl ⟨Nat.not_le.mpr hfew, rfl⟩⟩
  · exact ⟨(some m, .disagreement), checked, by simp only [resolve, hselect, hchecked, hlimit],
      .inr ⟨hmany, m, hm, rfl⟩⟩

theorem conservative_value {primary backup m : GridMeasurement}
    (h : conservativeMeasurement primary backup = .ok m) :
    ∃ o x y, m.measurement = some o ∧ power primary = .ok x ∧ power backup = .ok y ∧
      o.value = .fin (max x y) := by
  unfold conservativeMeasurement at h
  split at h
  · obtain rfl := Except.ok.inj h
    exact ⟨_, _, _, rfl, ‹_›, ‹_›, rfl⟩
  · nomatch h

end GridMeasurementFusion

/-! ## Runs -/

/-- A fusion with the calls it has answered, newest first. -/
structure FusionRun where
  fusion : GridMeasurementFusion
  history : List FusionCall

namespace FusionRun

/-- A new fusion. -/
def start : FusionRun := ⟨.start, []⟩

/-- One call. -/
def step (cfg : GridFusionConfig) (r : FusionRun) (c : FusionCall) : FusionRun where
  fusion := (r.fusion.resolve cfg c).1
  history := c :: r.history

/-- The source that is active before a call. -/
def active (r : FusionRun) : Option String := r.fusion.activeSourceId

/-- The result `x` of the call: what is returned, and when control passes from one source to the other. -/
structure Contract (cfg : GridFusionConfig) (r : FusionRun) (c : FusionCall) (x : GridFusionResult) :
    Prop where
  /-- The returned measurement is one that may be returned, with its source and its confidence. -/
  measurement : ∀ o ∈ x.measurement, ∃ m, cfg.Admissible r.history c m ∧ m.measurement = some o ∧
    x.selectedSourceId = m.sourceId ∧ x.confidence = m.confidence
  /-- The backup takes over from a primary that was missing for long enough, or that can no longer be held. -/
  failover : r.active = some cfg.primarySourceId → (r.step cfg c).active = some cfg.backupSourceId →
    cfg.primaryUsable c = false ∧
      (HeldForLast cfg.primaryMissing cfg.failoverSamples (c :: r.history) ∨ cfg.HoldExpired r.history c)
  /-- The primary takes over again after enough calls in which it was usable. -/
  recovery : r.active = some cfg.backupSourceId → (r.step cfg c).active = some cfg.primarySourceId →
    HeldForLast cfg.primaryUsable cfg.recoverySamples (c :: r.history)
  /-- One usable measurement is enough. -/
  available : cfg.primaryUsable c = true ∨ cfg.backupUsable c = true → x.measurement.isSome
  /-- A persistent disagreement is reported, and no other one. -/
  disagreement : x.state = .disagreement ↔
    HeldForLast cfg.disagrees cfg.mismatchSamples (c :: r.history)
  /-- A reported disagreement gives the larger import. -/
  conservative : x.state = .disagreement → ∃ m o primaryPower backupPower,
    GridMeasurementFusion.conservativeMeasurement c.primary c.backup = .ok m ∧ m.measurement = some o ∧
      GridMeasurementFusion.power c.primary = .ok primaryPower ∧
      GridMeasurementFusion.power c.backup = .ok backupPower ∧
      o.value = .fin (max primaryPower backupPower) ∧ x.measurement = some o

/-- The call returns a result that meets the contract. -/
def Disciplined (cfg : GridFusionConfig) (r : FusionRun) (c : FusionCall) : Prop :=
  ∃ x, (r.fusion.resolve cfg c).2 = .ok x ∧ Contract cfg r c x

/-- What the attributes of the fusion mean. -/
structure Consistent (cfg : GridFusionConfig) (r : FusionRun) : Prop where
  tracks : r.fusion.Tracks cfg r.history
  mismatchSamples : r.fusion.mismatchSamples = streak cfg.disagrees r.history

theorem consistent_start (cfg : GridFusionConfig) : Consistent cfg start :=
  ⟨⟨rfl, .inl rfl, nofun, nofun⟩, rfl⟩

/-- One call keeps the meaning of the attributes and meets the contract. -/
theorem step_spec {cfg : GridFusionConfig} (henabled : cfg.enabled = true)
    (hids : cfg.primarySourceId ≠ cfg.backupSourceId) (r : FusionRun) (c : FusionCall)
    (hr : Consistent cfg r) : Consistent cfg (r.step cfg c) ∧ Disciplined cfg r c := by
  obtain ⟨g, selection, hselect, hs⟩ :=
    GridMeasurementFusion.selectMeasurement_selects (c := c) henabled hids hr.tracks
  obtain ⟨final, checked, hresolve, hfinal⟩ :=
    GridMeasurementFusion.resolve_of_selected hselect (hs.mismatchSamples.trans hr.mismatchSamples)
  have hnext : (r.step cfg c).fusion = g.counted cfg c := by
    simp only [step, hresolve]
  have hactive : (r.step cfg c).active = g.activeSourceId := by
    simp only [active, hnext, GridMeasurementFusion.counted]
  -- the final measurement is the selected one, or the conservative combination of two usable ones
  have hadmissible : ∀ m ∈ final.1, cfg.Admissible r.history c m := by
    rcases hfinal with ⟨-, rfl⟩ | ⟨hheld, m, hm, rfl⟩
    · exact hs.admissible
    · rintro m' ⟨⟩
      obtain ⟨hprimary, hbackup⟩ := usable_of_disagrees (hheld.head cfg.samples_pos.2.2)
      exact .conservative m hprimary hbackup hm
  have hstate : final.2 = .disagreement ↔
      HeldForLast cfg.disagrees cfg.mismatchSamples (c :: r.history) := by
    rcases hfinal with ⟨hfew, rfl⟩ | ⟨hheld, m, -, rfl⟩
    · exact iff_of_false hs.state hfew
    · exact iff_of_true rfl hheld
  refine ⟨⟨?_, ?_⟩, _, by rw [hresolve], ?_, ?_, ?_, ?_, hstate, ?_⟩
  · rw [hnext]
    exact ⟨hs.tracks.lastPrimary, hs.tracks.active, hs.tracks.whilePrimary, hs.tracks.whileBackup⟩
  · rw [hnext]
    simp only [GridMeasurementFusion.counted, step, streak_cons, hs.mismatchSamples, hr.mismatchSamples]
  · intro o ho
    obtain ⟨m, hm, hmeasurement⟩ := Option.bind_eq_some_iff.mp ho
    exact ⟨m, hadmissible m hm, hmeasurement, by simp [GridMeasurementFusion.result, hm],
      by simp [GridMeasurementFusion.result, hm]⟩
  · rw [hactive]
    exact hs.failover
  · rw [hactive]
    exact hs.recovery
  · intro husable
    have hsome : final.1.isSome := by
      rcases hfinal with ⟨-, rfl⟩ | ⟨-, m, -, rfl⟩
      · exact hs.available husable
      · rfl
    obtain ⟨m, hm⟩ := Option.isSome_iff_exists.mp hsome
    obtain ⟨o, hmeasurement⟩ := (hadmissible m hm).available
    simp [GridMeasurementFusion.result, hm, hmeasurement]
  · intro hdisagreement
    rcases hfinal with ⟨hfew, rfl⟩ | ⟨-, m, hm, rfl⟩
    · exact absurd hdisagreement hs.state
    · obtain ⟨o, x, y, hmeasurement, hx, hy, hvalue⟩ := GridMeasurementFusion.conservative_value hm
      exact ⟨m, o, x, y, hm, hmeasurement, hx, hy, hvalue, hmeasurement⟩

/-- With two different source ids, every call of every run succeeds and meets the contract. -/
theorem disciplined {cfg : GridFusionConfig} (henabled : cfg.enabled = true)
    (hids : cfg.primarySourceId ≠ cfg.backupSourceId) (calls : List FusionCall) :
    Along (step cfg) (Disciplined cfg) start calls :=
  along_of_invariant
    (fun r c hr _ => (step_spec henabled hids r c hr).1)
    (fun r c hr _ => (step_spec henabled hids r c hr).2)
    (consistent_start cfg) (along_of_forall_mem _ fun _ _ => trivial)

theorem meter_named : strip "meter" ≠ "" := by decide +kernel

theorem firstReading_nonneg : (0 : ℚ) ≤ 1 := by decide +kernel

/-- Two sources with their default limits. -/
def twoMeters (primarySourceId : String) (h : strip primarySourceId ≠ "") : GridFusionConfig where
  enabled := true
  primarySourceId := primarySourceId
  backupSourceId := "victron"
  primaryMaxAgeSeconds := (15 : ℚ)
  backupMaxAgeSeconds := (6 : ℚ)
  minimumConfidence := 1 / 2
  failoverSamples := 3
  recoverySamples := 15
  failoverHoldSeconds := (6 : ℚ)
  mismatchAbsoluteWatts := (300 : ℚ)
  mismatchRelative := (3 / 20 : ℚ)
  mismatchSamples := 3
  futureToleranceSeconds := (1 : ℚ)
  primarySourceId_ne := fun _ => h
  backupSourceId_ne := by decide +kernel
  samples_pos := by decide
  ages_nonneg := by decide +kernel
  minimumConfidence_mem := by decide +kernel
  tolerances_nonneg := by decide +kernel
  mismatch_nonneg := by decide +kernel

/-- A missing primary. -/
def missingMeter (sourceId : String) : GridMeasurement := ⟨sourceId, none, false, .fin 0⟩

/-- A meter that reads 500 W. -/
def workingMeter (sourceId : String) (at' : ℚ) (h : 0 ≤ at') : GridMeasurement :=
  ⟨sourceId, some ⟨.fin 500, at', at', ⟨h, h⟩⟩, true, .fin 1⟩

/-- Two samples decide on each change. -/
def quickMeters : GridFusionConfig :=
  { twoMeters "meter" meter_named with
    failoverSamples := 2
    recoverySamples := 2
    mismatchSamples := 2
    samples_pos := by decide }

/-- The primary answers, is missing for two calls, is back for two, and then differs from the backup. -/
def outageCalls : List FusionCall :=
  let backup := workingMeter "victron" 1 firstReading_nonneg
  let primary := workingMeter "meter" 1 firstReading_nonneg
  let high := { primary with measurement := some ⟨.fin 2000, 1, 1, by decide +kernel⟩ }
  [⟨primary, backup, 1⟩, ⟨missingMeter "meter", backup, 2⟩, ⟨missingMeter "meter", backup, 3⟩,
    ⟨primary, backup, 4⟩, ⟨primary, backup, 5⟩, ⟨high, backup, 6⟩, ⟨high, backup, 7⟩]

theorem disciplined_over_outage :
    Along (step quickMeters) (Disciplined quickMeters) start outageCalls ∧
      ((List.range 8).map fun n => ((outageCalls.take n).foldl (step quickMeters) start).active) =
        [none, some "meter", some "meter", some "victron", some "victron", some "meter", some "meter",
          some "meter"] ∧
      HeldForLast quickMeters.disagrees quickMeters.mismatchSamples outageCalls.reverse :=
  ⟨disciplined rfl (by decide +kernel) _, by decide +kernel, by decide +kernel⟩

end FusionRun

/-! ## Calls that raise -/

namespace GridMeasurementFusion

variable {cfg : GridFusionConfig} {f : GridMeasurementFusion} {c : FusionCall}

theorem disagrees_of_counted (h : 1 ≤ (f.counted cfg c).mismatchSamples) : cfg.disagrees c = true := by
  unfold counted at h
  by_contra hagree
  simp [hagree] at h

/-- A call raises only in its selection, and the counters of the later steps do not touch the sources. -/
theorem resolve_after_selection (f : GridMeasurementFusion) (cfg : GridFusionConfig) (c : FusionCall) :
    let selected := (f.recordPrimary c.primary (cfg.primaryUsable c)).selectMeasurement cfg c
      (cfg.primaryUsable c) (cfg.backupUsable c)
    (f.resolve cfg c).1.activeSourceId = selected.1.activeSourceId ∧
      (f.resolve cfg c).1.lastPrimary = selected.1.lastPrimary ∧
      (f.resolve cfg c).2.isOk = selected.2.isOk := by
  intro selected
  rcases hselected : selected with ⟨g, outcome⟩
  cases outcome with
  | error e =>
    simp only [resolve, show selectMeasurement _ _ _ _ _ = _ from hselected]
    exact ⟨trivial, trivial, rfl⟩
  | ok selection =>
    obtain ⟨checked, hchecked⟩ := plausibility_eq g cfg c
    rcases applyDisagreementLimit_eq (g.counted cfg c) selection disagrees_of_counted with
      ⟨-, hlimit⟩ | ⟨-, m, -, hlimit⟩ <;>
    · simp only [resolve, show selectMeasurement _ _ _ _ _ = _ from hselected, hchecked, hlimit]
      exact ⟨rfl, rfl, rfl⟩

theorem selectWhileBackup_lastPrimary (f : GridMeasurementFusion) (cfg : GridFusionConfig) (c : FusionCall)
    (primaryValid backupValid : Bool) :
    (f.selectWhileBackup cfg c primaryValid backupValid).1.lastPrimary = f.lastPrimary := by
  unfold selectWhileBackup
  dsimp only
  split_ifs <;> rfl

/-- With a recorded primary the selection never raises. -/
theorem selectMeasurement_recorded {last : GridMeasurement} {o : Observation}
    (hlast : f.lastPrimary = some last) (hmeasurement : last.measurement = some o)
    (primaryValid backupValid : Bool) :
    (f.selectMeasurement cfg c primaryValid backupValid).1.lastPrimary = some last ∧
      (f.selectMeasurement cfg c primaryValid backupValid).2.isOk = true := by
  unfold selectMeasurement
  split
  · cases hactive : f.activeSourceId with
    | none =>
      refine ⟨?_, rfl⟩
      cases primaryValid <;> cases backupValid <;> exact hlast
    | some active =>
      dsimp only
      split
      · cases primaryValid with
        | true => exact ⟨hlast, rfl⟩
        | false =>
          rcases selectWhilePrimary_missing (c := c) backupValid hlast hmeasurement with
            ⟨-, hselect⟩ | ⟨-, hselect⟩
          · rw [hselect]
            exact ⟨hlast, rfl⟩
          · rw [hselect]
            cases backupValid <;> exact ⟨hlast, rfl⟩
      · exact ⟨(selectWhileBackup_lastPrimary ..).trans hlast, rfl⟩
  · exact ⟨hlast, rfl⟩

/-- Without a recorded primary the selection raises when the backup is taken for the primary. -/
theorem selectMeasurement_unrecorded (henabled : cfg.enabled = true) (hlast : f.lastPrimary = none)
    {seen : Bool} (hactive : f.activeSourceId = if seen then some cfg.backupSourceId else none)
    (backupValid : Bool) :
    (f.selectMeasurement cfg c false backupValid).1.lastPrimary = none ∧
      (f.selectMeasurement cfg c false backupValid).1.activeSourceId =
        (if backupValid || seen then some cfg.backupSourceId else none) ∧
      ((f.selectMeasurement cfg c false backupValid).2.isOk = true ↔
        ¬(seen = true ∧ cfg.primarySourceId = cfg.backupSourceId)) := by
  unfold selectMeasurement
  rw [if_pos henabled]
  cases seen with
  | false =>
    rw [if_neg Bool.false_ne_true] at hactive
    simp only [hactive]
    cases backupValid <;> simp [selectInitial, activateBackup, hlast, hactive, Except.isOk, Except.toBool]
  | true =>
    rw [if_pos rfl] at hactive
    simp only [hactive]
    by_cases hsame : cfg.backupSourceId = cfg.primarySourceId
    · -- the backup is taken for the primary, and there is no primary to hold
      rw [if_pos hsame]
      simp [selectWhilePrimary, heldPrimary, hlast, hactive, hsame, Except.isOk, Except.toBool]
    · rw [if_neg hsame]
      have hdifferent : cfg.primarySourceId ≠ cfg.backupSourceId := fun h => hsame h.symm
      cases backupValid <;>
        simp [selectWhileBackup, hlast, hactive, hdifferent, Except.isOk, Except.toBool]

end GridMeasurementFusion

namespace FusionRun

/-- Both sources have one id, the backup was usable before, and the primary was not and is not. -/
def Stranded (cfg : GridFusionConfig) (r : FusionRun) (c : FusionCall) : Prop :=
  cfg.enabled = true ∧ cfg.primarySourceId = cfg.backupSourceId ∧ r.history.any cfg.backupUsable = true ∧
    (c :: r.history).all cfg.primaryMissing = true

/-- The call raises nothing. -/
def Returns (cfg : GridFusionConfig) (r : FusionRun) (c : FusionCall) : Prop :=
  (r.fusion.resolve cfg c).2.isOk = true

/-- The recorded primary, and the active source while there is none. -/
structure Recorded (cfg : GridFusionConfig) (r : FusionRun) : Prop where
  lastPrimary : r.fusion.lastPrimary = cfg.lastUsablePrimary r.history
  active : cfg.enabled = true → r.fusion.lastPrimary = none →
    r.fusion.activeSourceId = if r.history.any cfg.backupUsable then some cfg.backupSourceId else none

theorem recorded_start (cfg : GridFusionConfig) : Recorded cfg start := ⟨rfl, fun _ _ => rfl⟩

theorem not_stranded_of_primary {cfg : GridFusionConfig} {r : FusionRun} {c : FusionCall}
    (h : (cfg.lastUsablePrimary (c :: r.history)).isSome) : ¬Stranded cfg r c := by
  rintro ⟨-, -, -, hmissing⟩
  obtain ⟨last, hlast⟩ := Option.isSome_iff_exists.mp h
  obtain ⟨c', hfind, -⟩ := Option.map_eq_some_iff.mp hlast
  have husable := List.find?_some hfind
  have hmiss := List.all_eq_true.mp hmissing c' (List.mem_of_find?_eq_some hfind)
  simp [GridFusionConfig.primaryMissing, husable] at hmiss

theorem all_missing {cfg : GridFusionConfig} {history : List FusionCall}
    (h : cfg.lastUsablePrimary history = none) : history.all cfg.primaryMissing = true := by
  have hfind := List.find?_eq_none.mp (Option.map_eq_none_iff.mp h)
  refine List.all_eq_true.mpr fun c hc => ?_
  simpa [GridFusionConfig.primaryMissing] using hfind c hc

/-- One call keeps what is recorded, and raises exactly when it is stranded. -/
theorem step_recorded (cfg : GridFusionConfig) (r : FusionRun) (c : FusionCall) (hr : Recorded cfg r) :
    Recorded cfg (r.step cfg c) ∧ (Returns cfg r c ↔ ¬Stranded cfg r c) := by
  obtain ⟨hsource, hprimary, hok⟩ := r.fusion.resolve_after_selection cfg c
  have hrecord := GridMeasurementFusion.recordPrimary_eq (c := c) hr.lastPrimary
  rw [hrecord] at hsource hprimary hok
  cases hlast : cfg.lastUsablePrimary (c :: r.history) with
  | some last =>
    obtain ⟨o, hmeasurement⟩ := GridFusionConfig.lastUsablePrimary_available hlast
    obtain ⟨hkept, hselected⟩ := GridMeasurementFusion.selectMeasurement_recorded
      (f := r.fusion.recorded cfg r.history c) (c := c) hlast hmeasurement (cfg.primaryUsable c)
      (cfg.backupUsable c)
    refine ⟨⟨hprimary.trans (hkept.trans hlast.symm), fun _ hnone => ?_⟩,
      iff_of_true (hok.trans hselected) (not_stranded_of_primary (by simp [hlast]))⟩
    exact absurd ((hprimary.trans hkept).symm.trans hnone) (Option.some_ne_none last)
  | none =>
    have hmissing := all_missing hlast
    have hunusable : cfg.primaryUsable c = false := by
      have := List.all_eq_true.mp hmissing c List.mem_cons_self
      simpa [GridFusionConfig.primaryMissing] using this
    have hbefore : r.fusion.lastPrimary = none := by
      rw [hr.lastPrimary, ← hlast, cfg.lastUsablePrimary_cons, hunusable]
      rfl
    rw [hunusable] at hsource hprimary hok
    cases henabled : cfg.enabled with
    | false =>
      have hdisabled : ∀ backupValid, (r.fusion.recorded cfg r.history c).selectMeasurement cfg c false
          backupValid = (r.fusion.recorded cfg r.history c,
            .ok (if backupValid then (some c.backup, .backup) else (none, .unavailable))) := by
        intro backupValid
        rw [GridMeasurementFusion.selectMeasurement, henabled, if_neg Bool.false_ne_true]
      rw [hdisabled] at hprimary hok
      refine ⟨⟨hprimary, fun h => absurd (henabled.symm.trans h) Bool.false_ne_true⟩,
        iff_of_true hok fun h => ?_⟩
      exact absurd (henabled.symm.trans h.1) Bool.false_ne_true
    | true =>
      obtain ⟨hnone, hactive, hraises⟩ := GridMeasurementFusion.selectMeasurement_unrecorded
        (f := r.fusion.recorded cfg r.history c) (c := c) henabled hlast
        (hr.active henabled hbefore) (cfg.backupUsable c)
      refine ⟨⟨hprimary.trans (hnone.trans hlast.symm), fun _ _ => ?_⟩, ?_⟩
      · rw [step, hsource, hactive, List.any_cons]
      · unfold Returns
        rw [hok, hraises]
        unfold Stranded
        simp only [henabled, hmissing, true_and, and_true]
        exact not_congr and_comm

theorem never_raises_iff (cfg : GridFusionConfig) (calls : List FusionCall) :
    Along (step cfg) (Returns cfg) start calls ↔
      Along (step cfg) (fun r c => ¬Stranded cfg r c) start calls :=
  along_iff_of_invariant (fun r c hr _ => (step_recorded cfg r c hr).1)
    (fun r c hr => (step_recorded cfg r c hr).2) (recorded_start cfg)

instance (cfg : GridFusionConfig) (r : FusionRun) (c : FusionCall) : Decidable (Returns cfg r c) :=
  inferInstanceAs (Decidable (_ = _))

/-- One id for both sources: the backup answers first, and the next call without the primary raises. -/
theorem one_id_raises :
    ¬Along (step (twoMeters "victron" (by decide +kernel))) (Returns (twoMeters "victron" (by decide +kernel)))
      start
      [⟨missingMeter "victron", workingMeter "victron" 1 firstReading_nonneg, 1⟩,
        ⟨missingMeter "victron", workingMeter "victron" 2 (by decide +kernel), 2⟩] := by
  decide +kernel

end FusionRun

end VenusEvcharger
