import VenusEvcharger.Library.SharedSlot
import VenusEvcharger.Update.PhaseTarget

/-!
# Retry windows and lockouts of phase selections

A mismatch of a selection starts a window in which Auto does not try it again, and the mismatch that
reaches the threshold locks it out. Mismatches are counted per selection, but only one mismatch and one
lockout are remembered. `SlotsHeld` says that the two slots stand for every window of a history that is
still running; each operation on the slots keeps it while it displaces no running window.
-/

namespace VenusEvcharger

open Library

/-- What the history of the phase switches records. -/
inductive PhaseRecord where
  /-- A staged switch is verified, or Auto has applied the selection at once. -/
  | succeeded (selection : PhaseSelection)
  | mismatch (selection : PhaseSelection) (at' : ℚ)
  | lockedOut (selection : PhaseSelection) (until' : ℚ)
  | lockoutReset
deriving DecidableEq

namespace PhaseRecord

/-- A mismatch starts the retry window of its selection. -/
def startsRetry : PhaseRecord → PhaseSelection → Option ℚ
  | .mismatch selection at', target => if selection = target then some at' else none
  | _, _ => none

/-- Only a success ends a retry window early. -/
def endsRetry : PhaseRecord → PhaseSelection → Bool
  | .succeeded selection, target => selection == target
  | _, _ => false

def startsLockout : PhaseRecord → PhaseSelection → Option ℚ
  | .lockedOut selection until', target => if selection = target then some until' else none
  | _, _ => none

/-- A success ends the lockout of its selection, the operator's reset every lockout. -/
def endsLockout : PhaseRecord → PhaseSelection → Bool
  | .succeeded selection, target => selection == target
  | .lockoutReset, _ => true
  | _, _ => false

end PhaseRecord

/-- The mismatches of a selection since its last success; the newest record stands first. -/
def retryWindows (records : List PhaseRecord) (selection : PhaseSelection) : List ℚ :=
  openWindows PhaseRecord.startsRetry PhaseRecord.endsRetry selection records

/-- The ends of the lockouts of a selection since its last success and the last reset. -/
def lockoutWindows (records : List PhaseRecord) (selection : PhaseSelection) : List ℚ :=
  openWindows PhaseRecord.startsLockout PhaseRecord.endsLockout selection records

/-- No window of the selection is running. -/
def WindowsOver (policy : AutoPhasePolicy) (records : List PhaseRecord) (selection : PhaseSelection)
    (now : ℚ) : Prop :=
  (∀ at' ∈ retryWindows records selection, at' + policy.mismatchRetrySeconds ≤ now) ∧
    ∀ until' ∈ lockoutWindows records selection, until' ≤ now

instance (policy : AutoPhasePolicy) (records : List PhaseRecord) (selection : PhaseSelection) (now : ℚ) :
    Decidable (WindowsOver policy records selection now) :=
  inferInstanceAs (Decidable (_ ∧ _))

/-! ## What the coordinator records -/

namespace PhaseVars

section

variable (p : PhaseVars) (cfg : RelaySettings)

/-- The pending selection that this pass reports as a mismatch. -/
def mismatchDue (observed : Option PhaseSelection) (now : ℚ) :
    Option PhaseSelection :=
  match p.pendingSelection, p.state with
  | some pending, some .stabilizing =>
    if p.stillStabilizing now || observed == some pending || !p.verificationExpired cfg now then none
    else some pending
  | _, _ => none

/-- The next mismatch of the selection locks it out. -/
def lockoutDue (selection : PhaseSelection) : Bool :=
  decide (0 < cfg.mismatchLockoutCount ∧ cfg.mismatchLockoutCount ≤ p.mismatchCounts selection + 1 ∧
    0 < cfg.mismatchLockoutSeconds)

/-- The records of a reported mismatch. -/
def mismatchRecords (selection : PhaseSelection) (now : ℚ) :
    List PhaseRecord :=
  if p.lockoutDue cfg selection then
    [.lockedOut selection (now + cfg.mismatchLockoutSeconds), .mismatch selection now]
  else [.mismatch selection now]

/-- The records of a pass of the coordinator. -/
def switchRecords (observed : Option PhaseSelection) (now : ℚ) :
    List PhaseRecord :=
  match p.pendingSelection, p.state with
  | some pending, some .stabilizing =>
    if p.stillStabilizing now then []
    else if observed = some pending then [.succeeded pending]
    else if p.verificationExpired cfg now then p.mismatchRecords cfg pending now
    else []
  | _, _ => []

/-- What this pass remembers displaces no running window of another selection. -/
def KeepsWindows (policy : AutoPhasePolicy)
    (observed : Option PhaseSelection) (now : ℚ) : Prop :=
  ∀ pending ∈ p.mismatchDue cfg observed now,
    (∀ slot ∈ p.mismatchSlot, slot.1 = pending ∨ slot.2 + policy.mismatchRetrySeconds ≤ now) ∧
      (p.lockoutDue cfg pending = true → ∀ slot ∈ p.lockoutSlot, slot.1 = pending ∨ slot.2 ≤ now)

end

instance (p : PhaseVars) (cfg : RelaySettings) (policy : AutoPhasePolicy)
    (observed : Option PhaseSelection) (now : ℚ) : Decidable (p.KeepsWindows cfg policy observed now) :=
  inferInstanceAs (Decidable (∀ _ ∈ _, _))

/-! ## The slots -/

/-- The slots stand for all windows that are still running. -/
structure SlotsHeld (p : PhaseVars) (cfg : RelaySettings) (policy : AutoPhasePolicy) (now : ℚ)
    (records : List PhaseRecord) : Prop where
  retry : Held PhaseRecord.startsRetry PhaseRecord.endsRetry
    (fun at' => at' + policy.mismatchRetrySeconds ≤ now) now records p.mismatchSlot
  lockout : Held PhaseRecord.startsLockout PhaseRecord.endsLockout (fun until' => until' ≤ now)
    (now + cfg.mismatchLockoutSeconds) records p.lockoutSlot

section Slots

variable {p : PhaseVars} {cfg : RelaySettings} {policy : AutoPhasePolicy} {now : ℚ}
  {records : List PhaseRecord}

/-- A window is over before one that starts later. -/
theorem retry_antitone (s t : ℚ) (hle : s ≤ t) (h : t + policy.mismatchRetrySeconds ≤ now) :
    s + policy.mismatchRetrySeconds ≤ now := by
  linarith

/-- The clock may advance. -/
theorem SlotsHeld.later (h : p.SlotsHeld cfg policy now records) {now' : ℚ} (hle : now ≤ now') :
    p.SlotsHeld cfg policy now' records where
  retry := h.retry.later (fun _ hover => hover.trans hle) hle
  lockout := h.lockout.later (fun _ hover => hover.trans hle) (by linarith)

theorem SlotsHeld.congr (h : p.SlotsHeld cfg policy now records) {p' : PhaseVars}
    (hmismatch : p'.mismatchSlot = p.mismatchSlot) (hlockout : p'.lockoutSlot = p.lockoutSlot) :
    p'.SlotsHeld cfg policy now records where
  retry := by
    rw [hmismatch]
    exact h.retry
  lockout := by
    rw [hlockout]
    exact h.lockout

theorem mismatchSlot_of_selection {selection : PhaseSelection} {slot : PhaseSelection × ℚ}
    (hselection : p.lastMismatchSelection = some selection) (hslot : p.mismatchSlot = some slot) :
    slot.1 = selection := by
  rw [mismatchSlot, hselection, Option.bind_some, Option.map_eq_some_iff] at hslot
  obtain ⟨at', -, rfl⟩ := hslot
  rfl

theorem lockoutSlot_of_selection {selection : PhaseSelection} {slot : PhaseSelection × ℚ}
    (hselection : p.lockoutSelection = some selection) (hslot : p.lockoutSlot = some slot) :
    slot.1 = selection := by
  rw [lockoutSlot, hselection, Option.bind_some, Option.map_eq_some_iff] at hslot
  obtain ⟨until', -, rfl⟩ := hslot
  rfl

theorem clearPhaseSwitchMismatchTracking_slots (selection : PhaseSelection) :
    (p.clearPhaseSwitchMismatchTracking selection).lockoutSlot = p.lockoutSlot ∧
      ∀ slot, p.mismatchSlot = some slot → slot.1 = selection ∨
        (p.clearPhaseSwitchMismatchTracking selection).mismatchSlot = some slot := by
  unfold clearPhaseSwitchMismatchTracking
  dsimp only
  split
  · next hselection =>
    exact ⟨rfl, fun slot hslot => .inl (mismatchSlot_of_selection hselection hslot)⟩
  · exact ⟨rfl, fun slot hslot => .inr hslot⟩

theorem clearMatchingPhaseSwitchLockout_slots (selection : PhaseSelection) :
    (p.clearMatchingPhaseSwitchLockout selection).mismatchSlot = p.mismatchSlot ∧
      ∀ slot, p.lockoutSlot = some slot → slot.1 = selection ∨
        (p.clearMatchingPhaseSwitchLockout selection).lockoutSlot = some slot := by
  unfold clearMatchingPhaseSwitchLockout
  split
  · next hselection =>
    exact ⟨rfl, fun slot hslot => .inl (lockoutSlot_of_selection hselection hslot)⟩
  · exact ⟨rfl, fun slot hslot => .inr hslot⟩

section

variable (h : p.SlotsHeld cfg policy now records)
include h

/-- A success ends the windows of its selection, in the history and in the slots. -/
theorem SlotsHeld.succeeded (selection : PhaseSelection) :
    ((p.clearPhaseSwitchMismatchTracking selection).clearMatchingPhaseSwitchLockout selection).SlotsHeld
      cfg policy now (.succeeded selection :: records) := by
  obtain ⟨hlockout, hmismatch⟩ := p.clearPhaseSwitchMismatchTracking_slots selection
  obtain ⟨hmismatch', hlockout'⟩ :=
    (p.clearPhaseSwitchMismatchTracking selection).clearMatchingPhaseSwitchLockout_slots selection
  refine ⟨h.retry.passed retry_antitone (fun _ => rfl) fun k held hslot => ?_,
    h.lockout.passed (fun _ _ => le_trans) (fun _ => rfl) fun k held hslot => ?_⟩
  · rw [hmismatch']
    rcases hmismatch _ hslot with rfl | hkept
    · exact .inl (beq_self_eq_true _)
    · exact .inr (.inr hkept)
  · rw [← hlockout] at hslot
    rcases hlockout' _ hslot with rfl | hkept
    · exact .inl (beq_self_eq_true _)
    · exact .inr (.inr hkept)

/-- A mismatch that displaces no running window of another selection. -/
theorem SlotsHeld.remember (selection : PhaseSelection)
    (hslot : ∀ slot ∈ p.mismatchSlot, slot.1 = selection ∨ slot.2 + policy.mismatchRetrySeconds ≤ now) :
    (p.rememberPhaseSwitchMismatch selection now).SlotsHeld cfg policy now
      (.mismatch selection now :: records) := by
  have hstarts : ∀ other t, PhaseRecord.startsRetry (.mismatch selection now) other = some t →
      other = selection ∧ t = now := by
    intro other t hsome
    rw [PhaseRecord.startsRetry, Option.ite_none_right_eq_some, Option.some.injEq] at hsome
    exact ⟨hsome.1.symm, hsome.2.symm⟩
  exact ⟨h.retry.taken retry_antitone hstarts le_rfl fun k held hheld => hslot _ hheld,
    h.lockout.passed (fun _ _ => le_trans) (fun _ => rfl) fun _ _ hheld => .inr (.inr hheld)⟩

/-- A lockout that displaces no running lockout of another selection. -/
theorem SlotsHeld.lockOut (selection : PhaseSelection) (hpositive : 0 < cfg.mismatchLockoutSeconds)
    (hslot : ∀ slot ∈ p.lockoutSlot, slot.1 = selection ∨ slot.2 ≤ now) :
    (p.engagePhaseSwitchLockout cfg selection now).SlotsHeld cfg policy now
      (.lockedOut selection (now + cfg.mismatchLockoutSeconds) :: records) := by
  have hstarts : ∀ other t, PhaseRecord.startsLockout
      (.lockedOut selection (now + cfg.mismatchLockoutSeconds)) other = some t →
      other = selection ∧ t = now + cfg.mismatchLockoutSeconds := by
    intro other t hsome
    rw [PhaseRecord.startsLockout, Option.ite_none_right_eq_some, Option.some.injEq] at hsome
    exact ⟨hsome.1.symm, hsome.2.symm⟩
  rw [engagePhaseSwitchLockout, if_neg (not_le.mpr hpositive)]
  exact ⟨h.retry.passed retry_antitone (fun _ => rfl) fun _ _ hheld => .inr (.inr hheld),
    h.lockout.taken (fun _ _ => le_trans) hstarts le_rfl fun k held hheld => hslot _ hheld⟩

/-- Lockouts of no duration are over when they begin, so one that clears the slot takes none away. -/
theorem SlotsHeld.unlocked (hnonpositive : cfg.mismatchLockoutSeconds ≤ 0) :
    p.clearPhaseSwitchLockout.SlotsHeld cfg policy now records where
  retry := h.retry
  lockout := by
    refine ⟨h.lockout.bounded, fun k until' hopen => .inl ?_⟩
    have := h.lockout.bounded k until' hopen
    linarith

/-- A reported mismatch keeps the slots when neither slot is running for another selection. -/
theorem SlotsHeld.report (selection : PhaseSelection) (hmismatch : ∀ slot ∈ p.mismatchSlot,
      slot.1 = selection ∨ slot.2 + policy.mismatchRetrySeconds ≤ now)
    (hlockout : p.lockoutDue cfg selection = true →
      ∀ slot ∈ p.lockoutSlot, slot.1 = selection ∨ slot.2 ≤ now) :
    (p.reportPhaseSwitchMismatch cfg selection now).SlotsHeld cfg policy now
      (p.mismatchRecords cfg selection now ++ records) := by
  have hremembered := h.remember selection hmismatch
  have hcount : (p.rememberPhaseSwitchMismatch selection now).mismatchCounts selection =
      p.mismatchCounts selection + 1 := if_pos rfl
  unfold reportPhaseSwitchMismatch mismatchRecords
  dsimp only
  rw [hcount]
  split
  · next hreached =>
    by_cases hpositive : 0 < cfg.mismatchLockoutSeconds
    · have hdue : p.lockoutDue cfg selection = true :=
        decide_eq_true ⟨hreached.1, hreached.2, hpositive⟩
      rw [if_pos hdue]
      exact hremembered.lockOut selection hpositive (hlockout hdue)
    · have hdue : p.lockoutDue cfg selection = false :=
        decide_eq_false fun hall => hpositive hall.2.2
      rw [if_neg (by simp [hdue]), engagePhaseSwitchLockout, if_pos (not_lt.mp hpositive)]
      exact hremembered.unlocked (not_lt.mp hpositive)
  · next hreached =>
    have hdue : p.lockoutDue cfg selection = false :=
      decide_eq_false fun hall => hreached ⟨hall.1, hall.2.1⟩
    rw [if_neg (by simp [hdue])]
    exact hremembered

end

end Slots

end PhaseVars

end VenusEvcharger
