import VenusEvcharger.Core.ConfirmedRelay
import Mathlib.Tactic.Linarith

/-!
# PM readings of an update cycle

A cycle works on one PM status: the snapshot of the I/O worker, or for a short time the last confirmed
status. A local placeholder, published as soon as a relay command is queued, is never confirmed.

Scope: readings and clock values are finite, and the clock does not run back within one call. Of a PM
status the fields `output`, `apower`, `current`, `_phase_selection` and `_pm_confirmed` are kept.
-/

namespace VenusEvcharger

/-- A phase selection after `normalize_phase_selection`. -/
inductive PhaseSelection where
  | p1
  | p1p2
  | p1p2p3
deriving DecidableEq

namespace PhaseSelection

/-- `phase_selection_count`. -/
def count : PhaseSelection → Nat
  | .p1 => 1
  | .p1p2 => 2
  | .p1p2p3 => 3

end PhaseSelection

/-- The fields of a PM status that the relay logic reads. -/
structure PmReading where
  output : Bool
  apower : ℚ
  current : ℚ
  phaseSelection : Option PhaseSelection
  pmConfirmed : Bool
deriving DecidableEq

/-- The PM payload of a normalized worker snapshot: `pm_status`, `pm_captured_at`, `pm_confirmed`. -/
structure WorkerPm where
  status : PmReading
  capturedAt : ℚ
  confirmed : Bool

/-- Settings of the relay logic. -/
structure RelaySettings where
  /-- `enable_backend(svc) is not None`: the charger backend has `set_enabled`. -/
  chargerEnableBackend : Bool
  /-- `split_enable_source_key() == "charger"`. -/
  enableSourceIsCharger : Bool
  /-- `phase_selection_requires_pause()`. -/
  phaseSelectionRequiresPause : Bool
  /-- The configured `supported_phase_selections`. -/
  supportedPhaseSelections : List PhaseSelection
  workerPollIntervalSeconds : ℚ
  relaySyncTimeoutSeconds : ℚ
  autoShellySoftFailSeconds : ℚ
  dbusLivePublishIntervalSeconds : Option ℚ
  autoDbusBackoffBaseSeconds : Option ℚ
  phaseSwitchPauseSeconds : Option ℚ
  phaseSwitchStabilizationSeconds : Option ℚ
  mismatchLockoutCount : Nat
  mismatchLockoutSeconds : ℚ
  chargingThresholdWatts : Option ℚ
  minCurrent : Option ℚ
  autoContactorFaultLatchCount : Nat
  autoContactorFaultLatchSeconds : ℚ
  autoManualOverrideSeconds : ℚ
  /-- `initialize_worker_state` keeps the interval at 0.2 seconds or more. -/
  workerPollIntervalSeconds_pos : 0 < workerPollIntervalSeconds
  /-- `initialize_worker_state` keeps the timeout at 2 seconds or more. -/
  relaySyncTimeoutSeconds_pos : 0 < relaySyncTimeoutSeconds

/-- The PM readings that the service remembers. -/
structure PmCaches where
  /-- The PM payload of `_worker_snapshot`. -/
  worker : Option WorkerPm
  lastPmStatus : Option PmReading
  lastPmStatusAt : Option ℚ
  lastPmStatusConfirmed : Bool
  lastConfirmedPmStatus : Option PmReading
  lastConfirmedPmStatusAt : Option ℚ
  /-- A last status that is marked as confirmed is the last confirmed status. -/
  confirmed_eq : lastPmStatusConfirmed = true →
    lastConfirmedPmStatus = lastPmStatus ∧ lastConfirmedPmStatusAt = lastPmStatusAt

/-- The caches of a service that has read nothing yet. -/
def PmCaches.empty : PmCaches where
  worker := none
  lastPmStatus := none
  lastPmStatusAt := none
  lastPmStatusConfirmed := false
  lastConfirmedPmStatus := none
  lastConfirmedPmStatusAt := none
  confirmed_eq := nofun

/-- The last confirmed status as the freshness checks of the relay state read it. -/
def PmCaches.confirmedRelay (c : PmCaches) (cfg : RelaySettings) : ConfirmedRelay where
  pmStatus := c.lastConfirmedPmStatus.map fun reading => ⟨some reading.output⟩
  pmStatusAt := c.lastConfirmedPmStatusAt
  workerPollIntervalSeconds := some cfg.workerPollIntervalSeconds
  relaySyncTimeoutSeconds := some cfg.relaySyncTimeoutSeconds

open ConfirmedRelay (timestampAgeWithin)

/-! ## The snapshot of the worker -/

/-- `update_worker_snapshot`: the stored payload is normalized, which drops one from the future. -/
def PmCaches.storeWorkerPm (c : PmCaches) (pm : Option WorkerPm) (now : ℚ) : PmCaches :=
  { c with worker := pm.filter fun pm => decide (pm.capturedAt ≤ now + 1) }

/-- `publish_local_pm_status`: a placeholder for the commanded state, never confirmed. -/
def PmCaches.publishLocalPmStatus (c : PmCaches) (relayOn : Bool) (now : ℚ) : PmCaches × PmReading :=
  let placeholder : PmReading :=
    { output := relayOn
      apower := 0
      current := 0
      phaseSelection := c.lastPmStatus.bind (·.phaseSelection)
      pmConfirmed := false }
  ({ c with
      worker := some ⟨placeholder, now, false⟩
      lastPmStatus := some placeholder
      lastPmStatusAt := some now
      lastPmStatusConfirmed := false
      confirmed_eq := nofun }, placeholder)

/-! ## `PmSnapshotResolver` -/

/-- `_remember_pm_snapshot`. -/
def PmCaches.rememberPmSnapshot (c : PmCaches) (status : PmReading) (snapshotAt : ℚ) (confirmed : Bool) :
    PmCaches :=
  let remembered := { status with pmConfirmed := confirmed }
  if confirmed then
    { c with
      lastPmStatus := some remembered
      lastPmStatusAt := some snapshotAt
      lastPmStatusConfirmed := true
      lastConfirmedPmStatus := some remembered
      lastConfirmedPmStatusAt := some snapshotAt
      confirmed_eq := fun _ => ⟨rfl, rfl⟩ }
  else
    { c with
      lastPmStatus := some remembered
      lastPmStatusAt := some snapshotAt
      lastPmStatusConfirmed := false
      confirmed_eq := nofun }

/-- `_fresh_confirmed_pm_status`. -/
def freshConfirmedPmStatus (status : Option PmReading) (capturedAt : Option ℚ) (now softFail : ℚ) :
    Option PmReading :=
  match status with
  | none => none
  | some reading =>
    if timestampAgeWithin capturedAt now softFail then some { reading with pmConfirmed := true } else none

/-- `_cached_pm_status_for_soft_fail`. -/
def PmCaches.cachedPmStatusForSoftFail (c : PmCaches) (now softFail : ℚ) : Option PmReading :=
  match freshConfirmedPmStatus c.lastConfirmedPmStatus c.lastConfirmedPmStatusAt now softFail with
  | some confirmed => some confirmed
  | none =>
    if c.lastPmStatusConfirmed then freshConfirmedPmStatus c.lastPmStatus c.lastPmStatusAt now softFail
    else none

/-- `_direct_pm_snapshot_max_age_seconds`. -/
def RelaySettings.directPmSnapshotMaxAgeSeconds (cfg : RelaySettings) : ℚ :=
  max 1 (cfg.workerPollIntervalSeconds * 2)

/-- How old a confirmed status may be for a cutover and for the offline display. -/
def RelaySettings.relayStatusFreshnessSeconds (cfg : RelaySettings) : ℚ :=
  max 1 (min (min 2 (cfg.workerPollIntervalSeconds * 2)) cfg.relaySyncTimeoutSeconds)

/-- `_worker_pm_snapshot_usable`. -/
def workerPmSnapshotUsable (confirmed : Bool) (snapshotAt now : ℚ) : Bool :=
  confirmed && decide (snapshotAt ≤ now + 1)

/-- `_pm_snapshot_newer_than_last`. -/
def PmCaches.pmSnapshotNewerThanLast (c : PmCaches) (snapshotAt : ℚ) : Bool :=
  match c.lastPmStatusAt, c.lastConfirmedPmStatusAt with
  | none, none => true
  | some last, none => decide (last ≤ snapshotAt)
  | none, some last => decide (last ≤ snapshotAt)
  | some last, some confirmed => decide (max last confirmed ≤ snapshotAt)

/-- `resolve_pm_status_for_update`. -/
def PmCaches.resolvePmStatusForUpdate (c : PmCaches) (cfg : RelaySettings) (now : ℚ) :
    PmCaches × Option PmReading :=
  match c.worker with
  | none => (c, c.cachedPmStatusForSoftFail now cfg.autoShellySoftFailSeconds)
  | some pm =>
    if workerPmSnapshotUsable pm.confirmed pm.capturedAt now then
      let withinSoftFail := decide
        (now - pm.capturedAt ≤ max cfg.autoShellySoftFailSeconds cfg.directPmSnapshotMaxAgeSeconds)
      let remembered :=
        if withinSoftFail || c.pmSnapshotNewerThanLast pm.capturedAt then
          c.rememberPmSnapshot pm.status pm.capturedAt pm.confirmed
        else c
      if withinSoftFail then (remembered, some { pm.status with pmConfirmed := true })
      else (remembered, remembered.cachedPmStatusForSoftFail now cfg.autoShellySoftFailSeconds)
    else (c, c.cachedPmStatusForSoftFail now cfg.autoShellySoftFailSeconds)

/-! ## Fresh confirmed outputs -/

/-- The output and time of a confirmed reading that is fresh. -/
def freshReading (relay : ConfirmedRelay) (reading : Option (Bool × ℚ)) (now : ℚ) : Option (Bool × ℚ) :=
  reading.filter fun r => timestampAgeWithin (some r.2) now relay.maxAgeSeconds

/-- The confirmed payload of the worker snapshot. -/
def PmCaches.workerReading (c : PmCaches) : Option (Bool × ℚ) :=
  (c.worker.filter (·.confirmed)).map fun pm => (pm.status.output, pm.capturedAt)

/-- The remembered confirmed status. -/
def PmCaches.lastReading (c : PmCaches) : Option (Bool × ℚ) :=
  match c.lastConfirmedPmStatus, c.lastConfirmedPmStatusAt with
  | some reading, some at' => some (reading.output, at')
  | _, _ => none

/-- The relay output by the newest of the confirmed readings that are fresh. -/
def PmCaches.newestFreshOutput (c : PmCaches) (cfg : RelaySettings) (now : ℚ) : Option Bool :=
  let relay := c.confirmedRelay cfg
  match freshReading relay c.workerReading now, freshReading relay c.lastReading now with
  | some worker, some last => some (if worker.2 < last.2 then last.1 else worker.1)
  | some worker, none => some worker.1
  | none, last => last.map (·.1)

/-- `_fresh_confirmed_relay_output` for the remembered status. -/
def PmCaches.freshConfirmedOutput (c : PmCaches) (cfg : RelaySettings) (now : ℚ) : Option Bool :=
  (c.confirmedRelay cfg).freshOutput now

theorem PmCaches.freshConfirmedOutput_eq (c : PmCaches) (cfg : RelaySettings) (now : ℚ) :
    c.freshConfirmedOutput cfg now =
      (freshReading (c.confirmedRelay cfg) c.lastReading now).map (·.1) := by
  unfold freshConfirmedOutput ConfirmedRelay.freshOutput freshReading lastReading
  cases hstatus : c.lastConfirmedPmStatus with
  | none => simp [confirmedRelay, hstatus]
  | some reading =>
    cases hat : c.lastConfirmedPmStatusAt with
    | none => simp [confirmedRelay, hstatus, hat, timestampAgeWithin]
    | some at' =>
      simp only [confirmedRelay, hstatus, hat, Option.map_some, Option.filter_some]
      split <;> rfl

/-- The freshness budget by the settings. -/
theorem PmCaches.maxAgeSeconds_of_settings (c : PmCaches) (cfg : RelaySettings) :
    (c.confirmedRelay cfg).maxAgeSeconds =
      max 1 (min (min 5 (cfg.workerPollIntervalSeconds * 2)) cfg.relaySyncTimeoutSeconds) := by
  have hpoll : ConfirmedRelay.positiveServiceFloat (some cfg.workerPollIntervalSeconds) =
      some cfg.workerPollIntervalSeconds := by
    simp [ConfirmedRelay.positiveServiceFloat, Option.filter_some, cfg.workerPollIntervalSeconds_pos]
  have hsync : ConfirmedRelay.positiveServiceFloat (some cfg.relaySyncTimeoutSeconds) =
      some cfg.relaySyncTimeoutSeconds := by
    simp [ConfirmedRelay.positiveServiceFloat, Option.filter_some, cfg.relaySyncTimeoutSeconds_pos]
  simp only [confirmedRelay, ConfirmedRelay.maxAgeSeconds, hpoll, hsync]

/-- The freshness budget never exceeds the one for direct worker snapshots. -/
theorem RelaySettings.maxAgeSeconds_le_direct (cfg : RelaySettings) (c : PmCaches) :
    (c.confirmedRelay cfg).maxAgeSeconds ≤ cfg.directPmSnapshotMaxAgeSeconds := by
  rw [c.maxAgeSeconds_of_settings cfg]
  exact max_le_max le_rfl ((min_le_left _ _).trans (min_le_right _ _))

/-- A fresh confirmed payload of the worker snapshot has been remembered. -/
def PmCaches.WorkerRemembered (c : PmCaches) (cfg : RelaySettings) (now : ℚ) : Prop :=
  ∀ worker, freshReading (c.confirmedRelay cfg) c.workerReading now = some worker →
    c.lastReading = some worker

variable {c : PmCaches} {cfg : RelaySettings} {now : ℚ}

theorem PmCaches.WorkerRemembered.newestFreshOutput_eq
    (h : c.WorkerRemembered cfg now) : c.newestFreshOutput cfg now = c.freshConfirmedOutput cfg now := by
  rw [freshConfirmedOutput_eq]
  unfold newestFreshOutput
  cases hworker : freshReading (c.confirmedRelay cfg) c.workerReading now with
  | none => simp only [hworker]
  | some worker =>
    have hlast : freshReading (c.confirmedRelay cfg) c.lastReading now = some worker := by
      rw [h worker hworker, freshReading, Option.filter_eq_some_iff]
      exact ⟨rfl, (Option.filter_eq_some_iff.mp hworker).2⟩
    simp only [hworker, hlast, lt_irrefl, ↓reduceIte, Option.map_some]

/-! ## Which reading a cycle works on -/

@[simp] theorem PmCaches.rememberPmSnapshot_worker (c : PmCaches) (status : PmReading) (snapshotAt : ℚ)
    (confirmed : Bool) : (c.rememberPmSnapshot status snapshotAt confirmed).worker = c.worker := by
  cases confirmed <;> rfl

theorem PmCaches.lastReading_remember (c : PmCaches) (status : PmReading) (snapshotAt : ℚ) :
    (c.rememberPmSnapshot status snapshotAt true).lastReading = some (status.output, snapshotAt) := rfl

/-- Resolving leaves the worker snapshot as it is. -/
@[simp] theorem PmCaches.resolve_worker (c : PmCaches) (cfg : RelaySettings) (now : ℚ) :
    (c.resolvePmStatusForUpdate cfg now).1.worker = c.worker := by
  unfold resolvePmStatusForUpdate
  cases hworker : c.worker with
  | none => exact hworker
  | some pm =>
    simp only
    split
    · split <;> split <;> simp [hworker]
    · exact hworker

variable {reading : PmReading}

theorem freshConfirmedPmStatus_eq_some {status : Option PmReading} {capturedAt : Option ℚ}
    {softFail : ℚ}
    (h : freshConfirmedPmStatus status capturedAt now softFail = some reading) :
    ∃ confirmed, status = some confirmed ∧ timestampAgeWithin capturedAt now softFail = true ∧
      reading = { confirmed with pmConfirmed := true } := by
  cases status with
  | none => simp [freshConfirmedPmStatus] at h
  | some confirmed =>
    simp only [freshConfirmedPmStatus, Option.ite_none_right_eq_some, Option.some.injEq] at h
    exact ⟨confirmed, rfl, h.1, h.2.symm⟩

theorem PmCaches.cachedPmStatusForSoftFail_eq_some {softFail : ℚ}
    (h : c.cachedPmStatusForSoftFail now softFail = some reading) :
    ∃ confirmed, c.lastConfirmedPmStatus = some confirmed ∧
      timestampAgeWithin c.lastConfirmedPmStatusAt now softFail = true ∧
      reading = { confirmed with pmConfirmed := true } := by
  unfold cachedPmStatusForSoftFail at h
  split at h
  · next confirmed hconfirmed =>
    cases h
    exact freshConfirmedPmStatus_eq_some hconfirmed
  · split at h
    · next hmarked =>
      obtain ⟨hstatus, hat⟩ := c.confirmed_eq hmarked
      rw [hstatus, hat]
      exact freshConfirmedPmStatus_eq_some h
    · cases h

theorem PmCaches.resolve_status (h : (c.resolvePmStatusForUpdate cfg now).2 = some reading) :
    reading.pmConfirmed = true ∧ ∃ confirmed,
      (c.resolvePmStatusForUpdate cfg now).1.lastConfirmedPmStatus = some confirmed ∧
      confirmed.output = reading.output := by
  have hcached : ∀ {d : PmCaches}, d.cachedPmStatusForSoftFail now cfg.autoShellySoftFailSeconds = some reading →
      reading.pmConfirmed = true ∧ ∃ confirmed,
        d.lastConfirmedPmStatus = some confirmed ∧ confirmed.output = reading.output := by
    intro d hd
    obtain ⟨confirmed, hstatus, -, rfl⟩ := cachedPmStatusForSoftFail_eq_some hd
    exact ⟨rfl, confirmed, hstatus, rfl⟩
  unfold resolvePmStatusForUpdate at h ⊢
  cases hworker : c.worker with
  | none =>
    simp only [hworker] at h ⊢
    exact hcached h
  | some pm =>
    simp only [hworker] at h ⊢
    by_cases husable : workerPmSnapshotUsable pm.confirmed pm.capturedAt now = true
    · have hconfirmed : pm.confirmed = true := (Bool.and_eq_true_iff.mp husable).1
      rw [hconfirmed] at husable
      by_cases hwithin : now - pm.capturedAt ≤
          max cfg.autoShellySoftFailSeconds cfg.directPmSnapshotMaxAgeSeconds
      · simp only [husable, ↓reduceIte, hconfirmed, hwithin, decide_true, Bool.true_or,
          Option.some.injEq] at h ⊢
        subst h
        exact ⟨rfl, _, rfl, rfl⟩
      · simp only [husable, ↓reduceIte, hconfirmed, hwithin, decide_false, Bool.false_or,
          Bool.false_eq_true] at h ⊢
        exact hcached h
    · simp only [husable, Bool.false_eq_true, ↓reduceIte] at h ⊢
      exact hcached h

theorem PmCaches.freshConfirmedOutput_of_resolve {output : Bool}
    (h : (c.resolvePmStatusForUpdate cfg now).2 = some reading)
    (hfresh : (c.resolvePmStatusForUpdate cfg now).1.freshConfirmedOutput cfg now = some output) :
    output = reading.output := by
  obtain ⟨-, confirmed, hstatus, houtput⟩ := resolve_status h
  simp only [freshConfirmedOutput, ConfirmedRelay.freshOutput, confirmedRelay, hstatus,
    Option.map_some, Option.ite_none_right_eq_some, Option.some.injEq] at hfresh
  rw [← hfresh.2, houtput]

/-- Resolving remembers a worker reading that is fresh. -/
theorem PmCaches.resolve_workerRemembered (c : PmCaches) (cfg : RelaySettings) (now : ℚ) :
    (c.resolvePmStatusForUpdate cfg now).1.WorkerRemembered cfg now := by
  intro reading hfresh
  obtain ⟨hreading, hage⟩ := Option.filter_eq_some_iff.mp hfresh
  simp only [workerReading, resolve_worker] at hreading
  cases hworker : c.worker with
  | none => simp [hworker] at hreading
  | some pm =>
    simp only [hworker, Option.filter_some] at hreading
    split at hreading
    · next hconfirmed =>
      cases hreading
      simp only [timestampAgeWithin, Bool.and_eq_true, decide_eq_true_eq] at hage
      have husable : workerPmSnapshotUsable true pm.capturedAt now = true := by
        simp only [workerPmSnapshotUsable, Bool.true_and, decide_eq_true_eq]
        linarith [hage.1]
      have hwithin : now - pm.capturedAt ≤
          max cfg.autoShellySoftFailSeconds cfg.directPmSnapshotMaxAgeSeconds :=
        (hage.2.trans (cfg.maxAgeSeconds_le_direct _)).trans (le_max_right _ _)
      simp only [resolvePmStatusForUpdate, hworker, hconfirmed, husable, ↓reduceIte, hwithin,
        decide_true, Bool.true_or, lastReading_remember]
    · cases hreading

/-- Publishing a placeholder keeps the last confirmed status and withdraws the worker reading. -/
theorem PmCaches.publishLocalPmStatus_workerRemembered (c : PmCaches) (cfg : RelaySettings)
    (relayOn : Bool) (at' now : ℚ) : (c.publishLocalPmStatus relayOn at').1.WorkerRemembered cfg now := by
  intro worker h
  simp [publishLocalPmStatus, workerReading, freshReading] at h

end VenusEvcharger
