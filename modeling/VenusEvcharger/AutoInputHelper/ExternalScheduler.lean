import VenusEvcharger.Inputs.ExternalScheduler

/-!
# The external sources of the native helper

The native scheduler is that of the Python helper, but it holds the states by the positions of the sources and counts
failures in 32 bits. In both helpers every run is fair and fresh, with a backoff that stops growing after 31 failures
(`external_sources_fair_and_fresh`).

Scope: a connector that cannot be built is a failed read.
-/

namespace VenusEvcharger.AutoInputHelper

open Library SourcePolling

/-- `u32::saturating_add(1)`. -/
def nativeCounter : FailureCounter where
  increment failures := min (failures + 1) (2 ^ 32 - 1)
  counts failures := by omega

/-- The scheduler of the native helper, which holds the states by the positions of the sources. -/
def externalSourceScheduler (definitions : List EnergySourceDefinition) (policy : ExternalPollingPolicy) :
    PollingRun Nat :=
  .start (definitions.zipIdx.map Prod.swap) policy nativeCounter

/-- In both helpers at most one source is attempted in a poll, a source that is due is attempted within as many polls as
there are sources, after its backoff, it contributes exactly while its last confirmed snapshot is no older than the
limit, and only a successful attempt replaces that snapshot. -/
theorem external_sources_fair_and_fresh (definitions : List EnergySourceDefinition)
    (hdistinct : (definitions.map EnergySourceDefinition.sourceId).Nodup) (policy : ExternalPollingPolicy) :
    let delay (policy : ExternalPollingPolicy) (failures : Nat) : ℚ :=
      min policy.backoffMaxSeconds (policy.backoffBaseSeconds * 2 ^ min 30 (failures - 1))
    (∀ cycles, PollingRun.InSequence cycles →
      PollingRun.FairAndFresh delay (Inputs.externalSourceScheduler definitions policy) cycles) ∧
    ∀ cycles, PollingRun.InSequence cycles →
      PollingRun.FairAndFresh delay (externalSourceScheduler definitions policy) cycles := by
  intro delay
  constructor
  · intro cycles hcycles
    refine PollingRun.fairAndFresh ?_ hcycles
    rw [List.map_map]
    exact hdistinct
  · intro cycles hcycles
    refine PollingRun.fairAndFresh ?_ hcycles
    have hkeys : (definitions.zipIdx.map Prod.swap).map Prod.fst = List.range' 0 definitions.length := by
      rw [List.map_map]
      exact List.zipIdx_map_snd 0 definitions
    rw [hkeys]
    exact List.nodup_range'

/-- Two sources, and a maximum that the backoff does not reach. -/
def silentSource : EnergySourceDefinition := ⟨"house", "battery", none, true, 300, none, "", 0⟩

def silentMeter : EnergySourceDefinition := ⟨"meter", "inverter", none, true, 300, none, "", 0⟩

def patientPolicy : ExternalPollingPolicy where
  pollIntervalSeconds := 1
  backoffBaseSeconds := 1
  backoffMaxSeconds := 2 ^ 40
  lastGoodMaxAgeSeconds := 30
  pollInterval_pos := by norm_num
  backoffBase_pos := by norm_num
  backoffMax_covers := by norm_num
  lastGoodMaxAge_nonneg := by norm_num

/-- A poll in which every read fails. -/
def failingCycle (κ : Type) (time : ℚ) : PollCycle κ :=
  ⟨time, time, time, time, fun _ => .failed "timed out", le_refl _, le_refl _⟩

/-- Thirty-two polls, each long after the one before. -/
def failingCycles (κ : Type) : List (PollCycle κ) := (List.range 32).map fun (i : Nat) => failingCycle κ (2 ^ 31 * i)

theorem inSequence_failingCycles (κ : Type) : PollingRun.InSequence (failingCycles κ) := by
  refine List.pairwise_map.mpr (List.pairwise_lt_range.imp fun {i j} hlt => ?_)
  have hcast : (i : ℚ) ≤ j := Nat.cast_le.mpr (Nat.le_of_lt hlt)
  show (2 ^ 31 * i : ℚ) ≤ 2 ^ 31 * j
  linarith

/-- Two sources whose reads all fail. -/
theorem external_sources_fair_and_fresh_silent :
    PollingRun.FairAndFresh backoffSeconds (Inputs.externalSourceScheduler [silentSource, silentMeter] patientPolicy)
        (failingCycles String) ∧
      PollingRun.FairAndFresh backoffSeconds (externalSourceScheduler [silentSource, silentMeter] patientPolicy)
        (failingCycles Nat) := by
  have h := external_sources_fair_and_fresh [silentSource, silentMeter] (by decide) patientPolicy
  exact ⟨h.1 (failingCycles String) (inSequence_failingCycles String), h.2 (failingCycles Nat) (inSequence_failingCycles Nat)⟩

theorem not_fairAndFresh_of_early {κ : Type} [DecidableEq κ] {delay : ExternalPollingPolicy → Nat → ℚ}
    {start : PollingRun κ} {before : List (PollCycle κ)} {cycle : PollCycle κ} {key : κ} {failures : Nat} {failed : ℚ}
    (hattempted : (run PollingRun.step start before).scheduler.attempted cycle = some key)
    (hfailures : failuresSince ((run PollingRun.step start before).history key) = failures + 1)
    (hfailed : lastFailure ((run PollingRun.step start before).history key) = some failed)
    (hearly : cycle.cycleMonotonic <
      failed + delay (run PollingRun.step start before).scheduler.policy (failures + 1)) :
    ¬ PollingRun.FairAndFresh delay start (before ++ [cycle]) := by
  intro h
  have hpoll := (along_iff_splits.mp h.disciplined) before cycle [] rfl
  have hwaited := hpoll.backsOff key hattempted (by omega) failed hfailed
  rw [hfailures] at hwaited
  exact absurd hwaited (not_le.mpr hearly)

/-- After 32 failures a source is attempted again before the 32nd doubling of the backoff has passed. -/
theorem external_backoff_capped :
    let delay (policy : ExternalPollingPolicy) (failures : Nat) : ℚ :=
      min policy.backoffMaxSeconds (policy.backoffBaseSeconds * 2 ^ (failures - 1))
    (PollingRun.InSequence (failingCycles String ++ [failingCycle String (31 * 2 ^ 31 + 2 ^ 30)]) ∧
      ¬ PollingRun.FairAndFresh delay (Inputs.externalSourceScheduler [silentSource] patientPolicy)
        (failingCycles String ++ [failingCycle String (31 * 2 ^ 31 + 2 ^ 30)])) ∧
    PollingRun.InSequence (failingCycles Nat ++ [failingCycle Nat (31 * 2 ^ 31 + 2 ^ 30)]) ∧
      ¬ PollingRun.FairAndFresh delay (externalSourceScheduler [silentSource] patientPolicy)
        (failingCycles Nat ++ [failingCycle Nat (31 * 2 ^ 31 + 2 ^ 30)]) := by
  intro delay
  refine ⟨⟨?_, ?_⟩, ?_, ?_⟩
  · show List.Pairwise (fun earlier later : PollCycle String => earlier.resultMonotonic ≤ later.cycleMonotonic) _
    decide +kernel
  · exact @not_fairAndFresh_of_early String _ delay _ _ _ "house" 31 (31 * 2 ^ 31) (by decide +kernel) (by decide +kernel)
      (by decide +kernel) (by decide +kernel)
  · show List.Pairwise (fun earlier later : PollCycle Nat => earlier.resultMonotonic ≤ later.cycleMonotonic) _
    decide +kernel
  · exact @not_fairAndFresh_of_early Nat _ delay _ _ _ 0 31 (31 * 2 ^ 31) (by decide +kernel) (by decide +kernel)
      (by decide +kernel) (by decide +kernel)

end VenusEvcharger.AutoInputHelper
