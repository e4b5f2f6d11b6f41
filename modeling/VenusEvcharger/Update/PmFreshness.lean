import VenusEvcharger.Library.Run
import VenusEvcharger.Update.RelayService

/-!
# How fresh the resolved PM status is

`resolve_pm_status_for_update` is called once a cycle with the snapshot of the worker. The snapshot is normalized, and
its sample is used directly when it is confirmed and within its age budget; otherwise the last confirmed sample is
used while it is within the soft-fail budget. Here the samples keep their capture times, so that it can be said how
old what is returned or remembered is, over every sequence of calls.

A sample within its budget is remembered whether it is newer than the remembered one or not, which is where the
freshest sample can be lost (`freshest_iff`).
-/

namespace VenusEvcharger

open Library
open ConfirmedRelay (timestampAgeWithin)

/-! ## Snapshots -/

/-- The PM part of a worker snapshot; a `pm_status` without an output is none. -/
structure SnapshotPm where
  pmStatus : Option PmReading
  pmCapturedAt : Option ℚ
  capturedAt : Option ℚ
  pmConfirmed : Bool

/-- The PM part after `normalized_worker_snapshot` without clamping: a sample without a time of its own has the time
of the snapshot, and that is the present when it is missing as well. -/
def SnapshotPm.normalized (snapshot : SnapshotPm) (now : ℚ) : Option WorkerPm :=
  let capturedAt := ((snapshot.capturedAt.filter (0 ≤ ·))).getD now
  snapshot.pmStatus.map fun status => ⟨status, (snapshot.pmCapturedAt.filter (0 ≤ ·)).getD capturedAt,
    snapshot.pmConfirmed⟩

/-- A call of the resolver. -/
structure PmCall where
  now : ℚ
  snapshot : SnapshotPm

/-- A confirmed status with its capture time. -/
abbrev PmSample := PmReading × ℚ

def WorkerPm.sample (pm : WorkerPm) : PmSample := ({ pm.status with pmConfirmed := true }, pm.capturedAt)

namespace PmCaches

/-- The remembered confirmed sample. -/
def sample (c : PmCaches) : Option PmSample :=
  c.lastConfirmedPmStatus.bind fun status =>
    c.lastConfirmedPmStatusAt.map fun capturedAt => ({ status with pmConfirmed := true }, capturedAt)

/-- The caches as the call finds them. -/
def receive (c : PmCaches) (call : PmCall) : PmCaches := { c with worker := call.snapshot.normalized call.now }

/-- The caches after a call. -/
def step (cfg : RelaySettings) (c : PmCaches) (call : PmCall) : PmCaches :=
  ((c.receive call).resolvePmStatusForUpdate cfg call.now).1

end PmCaches

/-- How old a sample may be that a snapshot brings. -/
def RelaySettings.directBudget (cfg : RelaySettings) : ℚ :=
  max cfg.autoShellySoftFailSeconds cfg.directPmSnapshotMaxAgeSeconds

/-- The sample of the snapshot is used directly. -/
def PmCall.Direct (call : PmCall) (cfg : RelaySettings) (pm : WorkerPm) : Prop :=
  call.snapshot.normalized call.now = some pm ∧ pm.confirmed = true ∧ pm.capturedAt ≤ call.now + 1 ∧
    call.now - pm.capturedAt ≤ cfg.directBudget

namespace PmCaches

variable (cfg : RelaySettings) (c : PmCaches) (call : PmCall)

/-- The cached sample within the soft-fail budget. -/
def cachedSample (now : ℚ) : Option PmSample :=
  c.sample.filter fun x => timestampAgeWithin (some x.2) now cfg.autoShellySoftFailSeconds

/-- The sample whose status a call returns. -/
def returned : Option PmSample :=
  match call.snapshot.normalized call.now with
  | none => c.cachedSample cfg call.now
  | some pm =>
    if pm.confirmed = true ∧ pm.capturedAt ≤ call.now + 1 ∧ call.now - pm.capturedAt ≤ cfg.directBudget then
      some pm.sample
    else (c.step cfg call).cachedSample cfg call.now

/-! ## One call -/

variable {cfg c call}

theorem cached_eq (now : ℚ) :
    c.cachedPmStatusForSoftFail now cfg.autoShellySoftFailSeconds = (c.cachedSample cfg now).map (·.1) := by
  have hfresh : freshConfirmedPmStatus c.lastConfirmedPmStatus c.lastConfirmedPmStatusAt now
      cfg.autoShellySoftFailSeconds = (c.cachedSample cfg now).map (·.1) := by
    unfold freshConfirmedPmStatus cachedSample sample
    cases c.lastConfirmedPmStatus with
    | none => rfl
    | some status =>
      cases c.lastConfirmedPmStatusAt with
      | none => rfl
      | some capturedAt =>
        simp only [Option.bind_some, Option.map_some, Option.filter_some]
        split <;> rfl
  unfold cachedPmStatusForSoftFail
  rw [hfresh]
  cases hcached : c.cachedSample cfg now with
  | some x => rfl
  | none =>
    dsimp only [Option.map_none]
    split
    · -- the older cache holds the same status when it is marked as confirmed
      rename_i hmarked
      obtain ⟨hstatus, hat⟩ := c.confirmed_eq hmarked
      rw [← hstatus, ← hat, hfresh, hcached]
      rfl
    · rfl

theorem sample_remember (status : PmReading) (capturedAt : ℚ) :
    (c.rememberPmSnapshot status capturedAt true).sample = some ({ status with pmConfirmed := true }, capturedAt) := rfl

theorem sample_receive : (c.receive call).sample = c.sample := rfl

variable {x : PmSample}

/-- A sample that counts as newer than the last is as new as the remembered one. -/
theorem le_of_newerThanLast {capturedAt : ℚ} (h : c.pmSnapshotNewerThanLast capturedAt = true)
    (hx : c.sample = some x) : x.2 ≤ capturedAt := by
  obtain ⟨status, hstatus, hmap⟩ := Option.bind_eq_some_iff.mp hx
  obtain ⟨confirmedAt, hat, rfl⟩ := Option.map_eq_some_iff.mp hmap
  unfold pmSnapshotNewerThanLast at h
  rw [hat] at h
  cases hlast : c.lastPmStatusAt with
  | none =>
    rw [hlast] at h
    exact of_decide_eq_true h
  | some last =>
    rw [hlast] at h
    exact (le_max_right _ _).trans (of_decide_eq_true h)

theorem cachedSample_congr {d : PmCaches} (h : d.sample = c.sample) (now : ℚ) :
    d.cachedSample cfg now = c.cachedSample cfg now := by
  rw [cachedSample, cachedSample, h]

/-- A sample beyond the direct budget is beyond the soft-fail budget. -/
theorem cachedSample_of_old {pm : WorkerPm} (h : c.sample = some pm.sample) {now : ℚ}
    (hold : cfg.directBudget < now - pm.capturedAt) : c.cachedSample cfg now = none := by
  have hsoft : ¬ now - pm.capturedAt ≤ cfg.autoShellySoftFailSeconds :=
    not_le.mpr ((le_max_left _ _).trans_lt hold)
  rw [cachedSample, h, Option.filter_some]
  simp [WorkerPm.sample, timestampAgeWithin, hsoft]

variable (cfg call) in
/-- Everything that a call does with the remembered sample: the sample of the snapshot is returned and remembered; it
is too old to be returned, but newer than the remembered one, which it replaces; or the remembered one stays and is
returned while it is fresh. -/
theorem step_cases :
    (∃ pm, call.Direct cfg pm ∧ (c.step cfg call).sample = some pm.sample ∧ c.returned cfg call = some pm.sample) ∨
    (∃ pm, call.snapshot.normalized call.now = some pm ∧ pm.confirmed = true ∧
      cfg.directBudget < call.now - pm.capturedAt ∧ (∀ x, c.sample = some x → x.2 ≤ pm.capturedAt) ∧
      (c.step cfg call).sample = some pm.sample ∧ c.returned cfg call = none) ∨
    ((∀ pm, ¬ call.Direct cfg pm) ∧ (c.step cfg call).sample = c.sample ∧
      c.returned cfg call = c.cachedSample cfg call.now) := by
  unfold returned
  cases hpm : call.snapshot.normalized call.now with
  | none =>
    have hstep : c.step cfg call = c.receive call := by
      rw [step, resolvePmStatusForUpdate, show (c.receive call).worker = none from hpm]
    refine .inr (.inr ⟨?_, by rw [hstep, sample_receive], rfl⟩)
    intro pm hdirect
    rw [hdirect.1] at hpm
    cases hpm
  | some pm =>
    have hworker : (c.receive call).worker = some pm := hpm
    have hdirect {other : WorkerPm} (h : call.Direct cfg other) : other = pm :=
      Option.some.inj (h.1.symm.trans hpm)
    dsimp only
    -- A reading counts when it is confirmed and not from the future, and is returned within the budget only.
    by_cases husable : pm.confirmed = true ∧ pm.capturedAt ≤ call.now + 1
    · have hcode : workerPmSnapshotUsable true pm.capturedAt call.now = true := by
        simp [workerPmSnapshotUsable, husable.2]
      by_cases hwithin : call.now - pm.capturedAt ≤ cfg.directBudget
      · left
        refine ⟨pm, ⟨hpm, husable.1, husable.2, hwithin⟩, ?_, if_pos ⟨husable.1, husable.2, hwithin⟩⟩
        unfold RelaySettings.directBudget at hwithin
        simp only [step, resolvePmStatusForUpdate, hworker, husable.1, hcode, hwithin, if_true, decide_true,
          Bool.true_or, sample_remember]
        rfl
      · have hreturned : ¬ (pm.confirmed = true ∧ pm.capturedAt ≤ call.now + 1 ∧
            call.now - pm.capturedAt ≤ cfg.directBudget) := fun h => hwithin h.2.2
        rw [if_neg hreturned]
        have hnot := hwithin
        unfold RelaySettings.directBudget at hnot
        by_cases hnewer : (c.receive call).pmSnapshotNewerThanLast pm.capturedAt = true
        · have hsample : (c.step cfg call).sample = some pm.sample := by
            simp only [step, resolvePmStatusForUpdate, hworker, husable.1, hcode, hnot, hnewer, if_true,
              decide_false, Bool.false_or, Bool.false_eq_true, if_false, sample_remember]
            rfl
          have hold := not_le.mp hwithin
          exact .inr (.inl ⟨pm, rfl, husable.1, hold, fun x hx => le_of_newerThanLast hnewer hx, hsample,
            cachedSample_of_old hsample hold⟩)
        · have hsample : (c.step cfg call).sample = c.sample := by
            simp only [step, resolvePmStatusForUpdate, hworker, husable.1, hcode, hnot, hnewer, if_true,
              decide_false, Bool.false_or, Bool.false_eq_true, if_false, sample_receive]
          refine .inr (.inr ⟨fun other h => hwithin ?_, hsample, cachedSample_congr hsample _⟩)
          exact hdirect h ▸ h.2.2.2
    · have hcode : workerPmSnapshotUsable pm.confirmed pm.capturedAt call.now = false := by
        rw [workerPmSnapshotUsable, Bool.and_eq_false_iff, decide_eq_false_iff_not]
        by_cases hconfirmed : pm.confirmed = true
        · exact .inr fun hfuture => husable ⟨hconfirmed, hfuture⟩
        · exact .inl (Bool.eq_false_of_not_eq_true hconfirmed)
      have hreturned : ¬ (pm.confirmed = true ∧ pm.capturedAt ≤ call.now + 1 ∧
          call.now - pm.capturedAt ≤ cfg.directBudget) := fun h => husable ⟨h.1, h.2.1⟩
      rw [if_neg hreturned]
      have hsample : (c.step cfg call).sample = c.sample := by
        simp only [step, resolvePmStatusForUpdate, hworker, hcode, Bool.false_eq_true, if_false, sample_receive]
      refine .inr (.inr ⟨fun other h => husable ?_, hsample, cachedSample_congr hsample _⟩)
      exact hdirect h ▸ ⟨h.2.1, h.2.2.1⟩

theorem resolve_eq_returned :
    ((c.receive call).resolvePmStatusForUpdate cfg call.now).2 = (c.returned cfg call).map (·.1) := by
  unfold returned
  cases hpm : call.snapshot.normalized call.now with
  | none =>
    rw [resolvePmStatusForUpdate, show (c.receive call).worker = none from hpm]
    exact cached_eq call.now
  | some pm =>
    have hworker : (c.receive call).worker = some pm := hpm
    dsimp only
    by_cases hdirect : pm.confirmed = true ∧ pm.capturedAt ≤ call.now + 1 ∧
        call.now - pm.capturedAt ≤ cfg.directBudget
    · rw [if_pos hdirect]
      have hwithin := hdirect.2.2
      unfold RelaySettings.directBudget at hwithin
      simp [resolvePmStatusForUpdate, hworker, workerPmSnapshotUsable, hdirect.1, hdirect.2.1, hwithin,
        WorkerPm.sample]
    · rw [if_neg hdirect, ← cached_eq, step]
      by_cases husable : workerPmSnapshotUsable pm.confirmed pm.capturedAt call.now = true
      · have hwithin : ¬ call.now - pm.capturedAt ≤
            max cfg.autoShellySoftFailSeconds cfg.directPmSnapshotMaxAgeSeconds := by
          rw [workerPmSnapshotUsable, Bool.and_eq_true_iff, decide_eq_true_eq] at husable
          exact fun h => hdirect ⟨husable.1, husable.2, h⟩
        simp only [resolvePmStatusForUpdate, hworker, husable, hwithin, if_true, decide_false, Bool.false_or,
          Bool.false_eq_true, if_false]
      · simp only [resolvePmStatusForUpdate, hworker, husable, Bool.false_eq_true, if_false]

/-- What a call owes to the relay logic: what it returns is within the window, the remembered capture time does not go
back, and nothing older than a fresh remembered sample is returned. -/
structure Freshest (cfg : RelaySettings) (c : PmCaches) (call : PmCall) : Prop where
  window : ∀ x, c.returned cfg call = some x → call.now - cfg.directBudget ≤ x.2 ∧ x.2 ≤ call.now + 1
  never_back : ∀ x, c.sample = some x → ∃ y, (c.step cfg call).sample = some y ∧ x.2 ≤ y.2
  newest : ∀ x y, c.returned cfg call = some x → c.sample = some y →
    timestampAgeWithin (some y.2) call.now cfg.autoShellySoftFailSeconds = true → y.2 ≤ x.2

/-- The snapshot brings a sample within its budget that is older than the remembered one. -/
def Late (cfg : RelaySettings) (c : PmCaches) (call : PmCall) : Prop :=
  ∃ pm x, call.Direct cfg pm ∧ c.sample = some x ∧ pm.capturedAt < x.2

theorem cachedSample_window {now : ℚ} (h : c.cachedSample cfg now = some x) :
    c.sample = some x ∧ now - cfg.directBudget ≤ x.2 ∧ x.2 ≤ now + 1 := by
  obtain ⟨hsample, hage⟩ := Option.filter_eq_some_iff.mp h
  simp only [timestampAgeWithin, Bool.and_eq_true, decide_eq_true_eq] at hage
  have hbudget : cfg.autoShellySoftFailSeconds ≤ cfg.directBudget := le_max_left _ _
  exact ⟨hsample, by linarith [hage.2], by linarith [hage.1]⟩

/-- A call keeps to the freshest sample exactly when it is not late. -/
theorem freshest_iff_not_late : c.Freshest cfg call ↔ ¬ c.Late cfg call := by
  constructor
  · intro ⟨_, hback, _⟩ ⟨pm, x, hdirect, hx, hlate⟩
    obtain ⟨y, hy, hle⟩ := hback x hx
    rcases c.step_cases cfg call with
      ⟨pm', hdirect', hstep, -⟩ | ⟨pm', hpm', -, hold, -⟩ | ⟨hnone, -⟩
    · obtain rfl : pm' = pm := Option.some.inj (hdirect'.1.symm.trans hdirect.1)
      rw [hstep] at hy
      rw [← Option.some.inj hy] at hle
      exact absurd hlate (not_lt.mpr hle)
    · obtain rfl : pm' = pm := Option.some.inj (hpm'.symm.trans hdirect.1)
      exact absurd hdirect.2.2.2 (not_le.mpr hold)
    · exact hnone pm hdirect
  · intro hnot
    rcases c.step_cases cfg call with
      ⟨pm, hdirect, hstep, hreturned⟩ | ⟨pm, -, -, -, hnewer, hstep, hreturned⟩ | ⟨-, hstep, hreturned⟩
    · have hle (x : PmSample) (hx : c.sample = some x) : x.2 ≤ pm.capturedAt :=
        not_lt.mp fun hlt => hnot ⟨pm, x, hdirect, hx, hlt⟩
      refine ⟨?_, fun x hx => ⟨pm.sample, hstep, hle x hx⟩, ?_⟩
      · intro x hx
        rw [hreturned] at hx
        rw [← Option.some.inj hx]
        refine ⟨?_, hdirect.2.2.1⟩
        have hage := hdirect.2.2.2
        show call.now - cfg.directBudget ≤ pm.capturedAt
        linarith
      · intro x y hx hy _
        rw [hreturned] at hx
        rw [← Option.some.inj hx]
        exact hle y hy
    · refine ⟨?_, fun x hx => ⟨pm.sample, hstep, hnewer x hx⟩, ?_⟩
      · intro x hx
        rw [hreturned] at hx
        nomatch hx
      · intro x y hx
        rw [hreturned] at hx
        nomatch hx
    · refine ⟨?_, fun x hx => ⟨x, hstep.trans hx, le_rfl⟩, ?_⟩
      · intro x hx
        rw [hreturned] at hx
        exact (cachedSample_window hx).2
      · intro x y hx hy _
        rw [hreturned] at hx
        rw [(cachedSample_window hx).1] at hy
        rw [Option.some.inj hy]

/-! ## Runs -/

/-- The sample is remembered from before, or a confirmed one of the calls. -/
def Confirmed (c : PmCaches) (calls : List PmCall) (x : PmSample) : Prop :=
  c.sample = some x ∨ ∃ call ∈ calls, ∃ pm, call.snapshot.normalized call.now = some pm ∧ pm.confirmed = true ∧
    pm.sample = x

theorem confirmed_step (h : (c.step cfg call).sample = some x) : c.Confirmed [call] x := by
  rcases c.step_cases cfg call with
    ⟨pm, hdirect, hstep, -⟩ | ⟨pm, hpm, hconfirmed, -, -, hstep, -⟩ | ⟨-, hstep, -⟩
  · rw [hstep] at h
    exact .inr ⟨call, List.mem_singleton_self _, pm, hdirect.1, hdirect.2.1, Option.some.inj h⟩
  · rw [hstep] at h
    exact .inr ⟨call, List.mem_singleton_self _, pm, hpm, hconfirmed, Option.some.inj h⟩
  · rw [hstep] at h
    exact .inl h

theorem confirmed_run {calls : List PmCall} (h : (run (step cfg) c calls).sample = some x) :
    c.Confirmed calls x := by
  induction calls generalizing c with
  | nil => exact .inl h
  | cons call calls ih =>
    rcases ih h with hstep | ⟨other, hother, hsample⟩
    · rcases confirmed_step hstep with hbefore | ⟨other, hother, hsample⟩
      · exact .inl hbefore
      · exact .inr ⟨call, List.mem_cons_self .., List.mem_singleton.mp hother ▸ hsample⟩
    · exact .inr ⟨other, List.mem_cons_of_mem _ hother, hsample⟩

theorem confirmed_returned {before : List PmCall}
    (h : (run (step cfg) c before).returned cfg call = some x) : c.Confirmed (before ++ [call]) x := by
  rcases (run (step cfg) c before).step_cases cfg call with
    ⟨pm, hdirect, -, hreturned⟩ | ⟨pm, -, -, -, -, -, hreturned⟩ | ⟨-, -, hreturned⟩
  · rw [hreturned] at h
    exact .inr ⟨call, List.mem_append_right _ (List.mem_singleton_self _), pm, hdirect.1, hdirect.2.1,
      Option.some.inj h⟩
  · rw [hreturned] at h
    nomatch h
  · rw [hreturned] at h
    rcases confirmed_run (cachedSample_window h).1 with hbefore | ⟨other, hother, hsample⟩
    · exact .inl hbefore
    · exact .inr ⟨other, List.mem_append_left _ hother, hsample⟩

/-- In a sequence of calls the freshest confirmed sample is kept and used exactly when no call is late. -/
theorem freshest_iff (cfg : RelaySettings) (c : PmCaches) (calls : List PmCall) :
    (∀ before call after, calls = before ++ call :: after →
      (((run (step cfg) c before).receive call).resolvePmStatusForUpdate cfg call.now).2 =
        ((run (step cfg) c before).returned cfg call).map (·.1) ∧
      (∀ x, (run (step cfg) c before).returned cfg call = some x → c.Confirmed (before ++ [call]) x) ∧
      (run (step cfg) c before).Freshest cfg call) ↔
    ∀ before call after, calls = before ++ call :: after → ¬ (run (step cfg) c before).Late cfg call := by
  constructor
  · intro h before call after hsplit
    exact freshest_iff_not_late.mp (h before call after hsplit).2.2
  · intro h before call after hsplit
    exact ⟨resolve_eq_returned, fun x hx => confirmed_returned hx,
      freshest_iff_not_late.mpr (h before call after hsplit)⟩

/-- The relay of an 11 kW load, on or off. -/
def readingOf (output : Bool) : PmReading := ⟨output, if output then 11000 else 0, 0, none, true⟩

/-- A confirmed sample of the worker. -/
def confirmedAt (output : Bool) (capturedAt : ℚ) : SnapshotPm :=
  ⟨some (readingOf output), some capturedAt, some capturedAt, true⟩

/-- At 103 a sample of 100 arrives after one of 102: it is returned and remembered in its place. -/
theorem late_sample_replaces :
    ¬ ∀ (cfg : RelaySettings) (c : PmCaches) (calls before : List PmCall) (call : PmCall) (after : List PmCall),
      calls = before ++ call :: after → (run (step cfg) c before).Freshest cfg call := by
  intro h
  have hfresh := h .default .empty _ [⟨102, confirmedAt true 102⟩] ⟨103, confirmedAt false 100⟩ [] rfl
  obtain ⟨y, hy, hle⟩ := hfresh.never_back ({ readingOf true with pmConfirmed := true }, 102) (by decide +kernel)
  have hlate : (run (step .default) .empty [⟨102, confirmedAt true 102⟩, ⟨103, confirmedAt false 100⟩]).sample =
      some ({ readingOf false with pmConfirmed := true }, 100) := by decide +kernel
  rw [show (step .default (run (step .default) .empty [⟨102, confirmedAt true 102⟩])
    ⟨103, confirmedAt false 100⟩).sample = _ from hlate] at hy
  rw [← Option.some.inj hy] at hle
  norm_num at hle

end PmCaches

end VenusEvcharger
