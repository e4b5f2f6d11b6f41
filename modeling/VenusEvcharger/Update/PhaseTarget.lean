import VenusEvcharger.Update.RelayCycle

/-!
# The Auto phase target

`AutoPhaseTargetSelector` derives the next phase selection from the surplus: one step up when the surplus
carries it and neither a lockout nor a recent mismatch of that selection stands in the way, one step down
when the surplus no longer carries the current one. `runPhaseCycle` is the update cycle with this selector.

Scope: the surplus and the voltage are inputs. The recorded metrics are left out.
-/

namespace VenusEvcharger

/-- `AutoPhasePolicy`, with the `phase_voltage` function that the selector is given. The two lockout
settings are in `RelaySettings`. -/
structure AutoPhasePolicy where
  enabled : Bool
  upshiftDelaySeconds : ℚ
  downshiftDelaySeconds : ℚ
  upshiftHeadroomWatts : ℚ
  downshiftMarginWatts : ℚ
  mismatchRetrySeconds : ℚ
  preferLowestPhaseWhenIdle : Bool
  phaseVoltage : ℚ → PhaseSelection → ℚ

/-- The policy of an unchanged configuration, for voltages that are given per phase. -/
def AutoPhasePolicy.default : AutoPhasePolicy where
  enabled := true
  upshiftDelaySeconds := 120
  downshiftDelaySeconds := 30
  upshiftHeadroomWatts := 250
  downshiftMarginWatts := 150
  mismatchRetrySeconds := 300
  preferLowestPhaseWhenIdle := true
  phaseVoltage voltage _ := voltage

/-- What the selector reads of the Auto metrics and of the meter. -/
structure PhaseReading where
  /-- `_last_auto_metrics["surplus"]`. -/
  surplusWatts : Option ℚ
  voltage : ℚ

/-- The reason that is recorded with a target. -/
inductive PhaseReason where
  | policyDisabled
  | capabilitiesUnavailable
  | singlePhaseOnly
  | idleLowestPhase
  | idleHoldPhase
  | surplusMissing
  | upshiftBlockedLockout
  | upshiftBlockedMismatch
  | upshift
  | downshift
  | hold
deriving DecidableEq

/-- The target with its reason and threshold. -/
structure PhaseTarget where
  selection : Option PhaseSelection
  reason : PhaseReason
  thresholdWatts : Option ℚ

/-! ## Retry window and lockout -/

namespace PhaseVars

/-- The remembered mismatch with its time. -/
def mismatchSlot (p : PhaseVars) : Option (PhaseSelection × ℚ) :=
  p.lastMismatchSelection.bind fun selection => p.lastMismatchAt.map (selection, ·)

/-- The remembered lockout with its end. -/
def lockoutSlot (p : PhaseVars) : Option (PhaseSelection × ℚ) :=
  p.lockoutSelection.bind fun selection => p.lockoutUntil.map (selection, ·)

/-- `_current_lockout_selection`; an expired lockout is cleared. -/
def currentLockoutSelection (p : PhaseVars) (now : ℚ) : PhaseVars × Option PhaseSelection :=
  match p.lockoutSlot with
  | none => (p, none)
  | some (selection, until') =>
    if until' ≤ now then (p.clearPhaseSwitchLockout, none) else (p, some selection)

/-- `_phase_switch_mismatch_retry_active`. -/
def mismatchRetryActive (p : PhaseVars) (policy : AutoPhasePolicy) (current target : PhaseSelection)
    (now : ℚ) : Bool :=
  decide (current.count < target.count) &&
    match p.mismatchSlot with
    | none => false
    | some (selection, at') =>
      selection == target && decide (max 0 (now - at') < max 0 policy.mismatchRetrySeconds)

/-- `_phase_upshift_block_reason`. -/
def phaseUpshiftBlockReason (p : PhaseVars) (policy : AutoPhasePolicy) (current next : PhaseSelection)
    (now : ℚ) : PhaseVars × Option PhaseReason :=
  let locked := p.currentLockoutSelection now
  if locked.2 = some next then (locked.1, some .upshiftBlockedLockout)
  else if locked.1.mismatchRetryActive policy current next now then
    (locked.1, some .upshiftBlockedMismatch)
  else (locked.1, none)

/-- Asking for the lockout keeps the slots, or clears a lockout that has expired. -/
theorem currentLockoutSelection_cases (p : PhaseVars) (now : ℚ) :
    (p.currentLockoutSelection now).1 = p ∨
      (p.currentLockoutSelection now).1 = p.clearPhaseSwitchLockout ∧
        ∀ slot, p.lockoutSlot = some slot → slot.2 ≤ now := by
  unfold currentLockoutSelection
  split
  · exact .inl rfl
  · next selection until' hslot =>
    split
    · next hexpired =>
      refine .inr ⟨rfl, fun slot hsome => ?_⟩
      obtain rfl := Option.some.inj (hslot.symm.trans hsome)
      exact hexpired
    · exact .inl rfl

theorem phaseUpshiftBlockReason_phase (p : PhaseVars) (policy : AutoPhasePolicy)
    (current next : PhaseSelection) (now : ℚ) :
    (p.phaseUpshiftBlockReason policy current next now).1 = (p.currentLockoutSelection now).1 := by
  unfold phaseUpshiftBlockReason
  dsimp only
  split
  · rfl
  · split <;> rfl

theorem lockout_expired_of_not_blocked {p : PhaseVars} {policy : AutoPhasePolicy}
    {current next : PhaseSelection} {now until' : ℚ}
    (h : (p.phaseUpshiftBlockReason policy current next now).2 = none)
    (hslot : p.lockoutSlot = some (next, until')) : until' ≤ now := by
  by_contra hrunning
  have hlocked : p.currentLockoutSelection now = (p, some next) := by
    rw [currentLockoutSelection, hslot]
    exact if_neg hrunning
  rw [phaseUpshiftBlockReason, hlocked] at h
  simp at h

theorem retry_over_of_not_blocked {p : PhaseVars} {policy : AutoPhasePolicy}
    {current next : PhaseSelection} {now at' : ℚ} (hup : current.count < next.count)
    (h : (p.phaseUpshiftBlockReason policy current next now).2 = none)
    (hslot : p.mismatchSlot = some (next, at')) (hpositive : 0 < policy.mismatchRetrySeconds) :
    at' + policy.mismatchRetrySeconds ≤ now := by
  have hkept : (p.currentLockoutSelection now).1.mismatchSlot = p.mismatchSlot := by
    rcases p.currentLockoutSelection_cases now with heq | ⟨heq, -⟩
    · rw [heq]
    · rw [heq]
      rfl
  unfold phaseUpshiftBlockReason at h
  dsimp only at h
  split at h
  · cases h
  · split at h
    · cases h
    · next hidle =>
      have hwaited : 0 < policy.mismatchRetrySeconds → policy.mismatchRetrySeconds ≤ now - at' := by
        simpa [mismatchRetryActive, hkept, hslot, hup] using hidle
      linarith [hwaited hpositive]

end PhaseVars

/-! ## `AutoPhaseTargetSelector` -/

/-- `_ordered_auto_phase_selections`. -/
def RelaySettings.orderedPhaseSelections (cfg : RelaySettings) : List PhaseSelection :=
  [.p1, .p1p2, .p1p2p3].filter (· ∈ cfg.supportedPhaseSelections)

/-- `_current_phase_selection`. -/
def PhaseVars.currentPhaseSelection (p : PhaseVars) (supported : List PhaseSelection) : PhaseSelection :=
  match supported with
  | [] => p.activePhaseSelection
  | lowest :: _ =>
    if p.requestedPhaseSelection ∈ supported then p.requestedPhaseSelection
    else if p.activePhaseSelection ∈ supported then p.activePhaseSelection
    else lowest

/-- `_phase_selection_min_surplus_watts`. -/
def phaseSelectionMinSurplusWatts (cfg : RelaySettings) (policy : AutoPhasePolicy)
    (selection : PhaseSelection) (voltage : ℚ) : Option ℚ :=
  let phaseVoltage := policy.phaseVoltage voltage selection
  match cfg.minCurrent with
  | none => none
  | some minCurrent =>
    if minCurrent ≤ 0 ∨ phaseVoltage ≤ 0 then none
    else some (minCurrent * phaseVoltage * selection.count)

/-- `_upshift_auto_phase_target`; without an answer the downshift is looked at. -/
def upshiftAutoPhaseTarget (p : PhaseVars) (cfg : RelaySettings) (policy : AutoPhasePolicy)
    (supported : List PhaseSelection) (current : PhaseSelection) (surplus voltage now : ℚ) :
    PhaseVars × Option PhaseTarget :=
  match supported[supported.idxOf current + 1]? with
  | none => (p, none)
  | some next =>
    match phaseSelectionMinSurplusWatts cfg policy next voltage with
    | none => (p, none)
    | some minSurplus =>
      let threshold := minSurplus + policy.upshiftHeadroomWatts
      if surplus < threshold then (p, none)
      else
        let blocked := p.phaseUpshiftBlockReason policy current next now
        match blocked.2 with
        | some reason => (blocked.1, some ⟨none, reason, some threshold⟩)
        | none => (blocked.1, some ⟨some next, .upshift, some threshold⟩)

/-- `_downshift_auto_phase_target`. -/
def downshiftAutoPhaseTarget (cfg : RelaySettings) (policy : AutoPhasePolicy)
    (supported : List PhaseSelection) (current : PhaseSelection) (surplus voltage : ℚ) :
    Option PhaseTarget :=
  match supported.idxOf current with
  | 0 => none
  | lower + 1 =>
    match phaseSelectionMinSurplusWatts cfg policy current voltage with
    | none => none
    | some minSurplus =>
      let threshold := max 0 (minSurplus - policy.downshiftMarginWatts)
      if threshold ≤ surplus then none else some ⟨supported[lower]?, .downshift, some threshold⟩

/-- `_surplus_auto_phase_target`. -/
def surplusAutoPhaseTarget (p : PhaseVars) (cfg : RelaySettings) (policy : AutoPhasePolicy)
    (supported : List PhaseSelection) (current : PhaseSelection) (reading : PhaseReading) (now : ℚ) :
    PhaseVars × PhaseTarget :=
  match reading.surplusWatts with
  | none => (p, ⟨none, .surplusMissing, none⟩)
  | some surplus =>
    match upshiftAutoPhaseTarget p cfg policy supported current surplus reading.voltage now with
    | (p, some target) => (p, target)
    | (p, none) =>
      match downshiftAutoPhaseTarget cfg policy supported current surplus reading.voltage with
      | some target => (p, target)
      | none => (p, ⟨none, .hold, none⟩)

/-- `_auto_phase_target_selection`, after the checks of `_auto_phase_policy_state` and
`_idle_auto_phase_target`. -/
def autoPhaseTargetSelection (p : PhaseVars) (cfg : RelaySettings) (policy : AutoPhasePolicy)
    (supported : List PhaseSelection) (current : PhaseSelection) (desiredRelay relayOn : Bool)
    (reading : PhaseReading) (now : ℚ) : PhaseVars × PhaseTarget :=
  match policy.enabled, supported with
  | false, _ => (p, ⟨none, .policyDisabled, none⟩)
  | true, [] => (p, ⟨none, .capabilitiesUnavailable, none⟩)
  | true, [_] => (p, ⟨none, .singlePhaseOnly, none⟩)
  | true, lowest :: _ =>
    if desiredRelay || relayOn then surplusAutoPhaseTarget p cfg policy supported current reading now
    else if policy.preferLowestPhaseWhenIdle && current != lowest then
      (p, ⟨some lowest, .idleLowestPhase, none⟩)
    else (p, ⟨none, .idleHoldPhase, none⟩)

/-! ## What the selector answers -/

/-- The supported selections stand in the order of their phases. -/
theorem orderedPhaseSelections_sorted (cfg : RelaySettings) :
    cfg.orderedPhaseSelections.Pairwise fun lower higher => lower.count < higher.count := by
  have hall : [PhaseSelection.p1, .p1p2, .p1p2p3].Pairwise fun lower higher =>
      lower.count < higher.count := by
    decide
  exact hall.sublist List.filter_sublist

theorem currentPhaseSelection_mem (p : PhaseVars) {supported : List PhaseSelection} (h : supported ≠ []) :
    p.currentPhaseSelection supported ∈ supported := by
  cases supported with
  | nil => exact absurd rfl h
  | cons lowest rest =>
    unfold PhaseVars.currentPhaseSelection
    dsimp only
    split
    · assumption
    · split
      · assumption
      · exact List.mem_cons_self

section Selection

variable (p : PhaseVars) (cfg : RelaySettings) (policy : AutoPhasePolicy)
  (supported : List PhaseSelection) (current : PhaseSelection)

/-- Looking for an upshift answers nothing, or names the next selection unless it is blocked. -/
theorem upshiftAutoPhaseTarget_cases (surplus voltage now : ℚ) :
    upshiftAutoPhaseTarget p cfg policy supported current surplus voltage now = (p, none) ∨
      ∃ next target, upshiftAutoPhaseTarget p cfg policy supported current surplus voltage now =
          ((p.currentLockoutSelection now).1, some target) ∧
        ∀ selection, target.selection = some selection → selection = next ∧
          (p.phaseUpshiftBlockReason policy current next now).2 = none := by
  unfold upshiftAutoPhaseTarget
  split
  · exact .inl rfl
  · next next hnext =>
    split
    · exact .inl rfl
    · next minSurplus hminimum =>
      dsimp only
      split
      · exact .inl rfl
      · have hphase := p.phaseUpshiftBlockReason_phase policy current next now
        split
        · next reason hblocked =>
          refine .inr ⟨next, _, by rw [hphase], fun selection hselection => ?_⟩
          cases hselection
        · next hfree =>
          refine .inr ⟨next, _, by rw [hphase], fun selection hselection => ?_⟩
          exact ⟨(Option.some.inj hselection).symm, hfree⟩

/-- A downshift names a selection with fewer phases. -/
theorem downshiftAutoPhaseTarget_lower
    (hsorted : supported.Pairwise fun lower higher => lower.count < higher.count)
    (hmem : current ∈ supported) (surplus voltage : ℚ) {target : PhaseTarget} {selection : PhaseSelection}
    (h : downshiftAutoPhaseTarget cfg policy supported current surplus voltage = some target)
    (hselection : target.selection = some selection) : selection.count < current.count := by
  unfold downshiftAutoPhaseTarget at h
  split at h
  · cases h
  · next lower hindex =>
    split at h
    · cases h
    · dsimp only at h
      split at h
      · cases h
      · obtain rfl := Option.some.inj h
        obtain ⟨hlower, hget⟩ := List.getElem?_eq_some_iff.mp hselection
        have hcurrent : supported.idxOf current < supported.length := List.idxOf_lt_length_of_mem hmem
        have hlt := List.pairwise_iff_getElem.mp hsorted lower (supported.idxOf current) hlower hcurrent
          (by omega)
        rwa [hget, List.getElem_idxOf hcurrent] at hlt

/-- What the selector hands back: the phase variables without an expired lockout at most, and an upshift
only where it is not blocked. -/
theorem autoPhaseTargetSelection_spec
    (hsorted : supported.Pairwise fun lower higher => lower.count < higher.count)
    (hmem : supported ≠ [] → current ∈ supported) (desiredRelay relayOn : Bool) (reading : PhaseReading)
    (now : ℚ) :
    let selected := autoPhaseTargetSelection p cfg policy supported current desiredRelay relayOn reading now
    (selected.1 = p ∨ selected.1 = (p.currentLockoutSelection now).1) ∧
      ∀ selection, selected.2.selection = some selection → current.count < selection.count →
        (p.phaseUpshiftBlockReason policy current selection now).2 = none := by
  unfold autoPhaseTargetSelection
  split
  · exact ⟨.inl rfl, nofun⟩
  · exact ⟨.inl rfl, nofun⟩
  · exact ⟨.inl rfl, nofun⟩
  · next lowest rest _ _ =>
    have hcurrent : current ∈ lowest :: rest := hmem (List.cons_ne_nil _ _)
    have hlowest : ∀ selection, some lowest = some selection → ¬ current.count < selection.count := by
      intro selection hselection
      obtain rfl := Option.some.inj hselection
      rcases List.mem_cons.mp hcurrent with rfl | hrest
      · exact lt_irrefl _
      · exact not_lt.mpr ((List.pairwise_cons.mp hsorted).1 current hrest).le
    dsimp only
    split
    · unfold surplusAutoPhaseTarget
      split
      · exact ⟨.inl rfl, nofun⟩
      · next surplus hsurplus =>
        rcases upshiftAutoPhaseTarget_cases p cfg policy (lowest :: rest) current surplus reading.voltage
          now with hnone | ⟨next, target, hsome, hfree⟩
        · rw [hnone]
          dsimp only
          split
          · next target hdown =>
            refine ⟨.inl rfl, fun selection hselection hup => ?_⟩
            have hlower := downshiftAutoPhaseTarget_lower cfg policy (lowest :: rest) current hsorted
              hcurrent surplus reading.voltage hdown hselection
            omega
          · exact ⟨.inl rfl, nofun⟩
        · rw [hsome]
          refine ⟨.inr rfl, fun selection hselection _ => ?_⟩
          obtain ⟨rfl, hunblocked⟩ := hfree selection hselection
          exact hunblocked
    · split
      · exact ⟨.inl rfl, fun selection hselection hup => absurd hup (hlowest selection hselection)⟩
      · exact ⟨.inl rfl, nofun⟩

end Selection

/-! ## The cycle with the selector -/

/-- `_auto_phase_switch_delay_seconds`. -/
def AutoPhasePolicy.switchDelaySeconds (policy : AutoPhasePolicy) (current target : PhaseSelection) : ℚ :=
  if current.count < target.count then max 0 policy.upshiftDelaySeconds
  else max 0 policy.downshiftDelaySeconds

namespace RelayService

/-- The relay decision that the selector is asked with. -/
def decidedRelay (s : RelayService) (cfg : RelaySettings) (view : RelayView) (override : Option Bool)
    (i : CycleInput) : Bool :=
  let wanted := s.desiredRelayTarget view override i
  wanted && (s.contactor.switchFeedbackHealthOverride cfg i.switch i.charger wanted view i.now).2.isNone &&
    (chargerHealthOverride cfg s.transport i.charger i.now).isNone

/-- `_auto_phase_selection_decision`, asked in Auto mode while no switch is staged; the answer becomes the
target that `maybe_apply_auto_phase_selection` goes on with. -/
def selectAutoPhase (s : RelayService) (cfg : RelaySettings) (policy : AutoPhasePolicy)
    (reading : PhaseReading) (desiredRelay relayOn : Bool) (i : CycleInput) : RelayService × CycleInput :=
  if s.autoModeActive && !s.phaseSwitchActive then
    let supported := cfg.orderedPhaseSelections
    let current := s.phase.currentPhaseSelection supported
    let selected :=
      autoPhaseTargetSelection s.phase cfg policy supported current desiredRelay relayOn reading i.now
    let target := selected.2.selection.filter (· ≠ current)
    ({ s with phase := selected.1 },
      { i with
        autoPhaseTarget := target
        autoPhaseDelaySeconds := (target.map (policy.switchDelaySeconds current)).getD 0 })
  else (s, { i with autoPhaseTarget := none })

/-- The decision and its application, with the selector's answer. -/
def decideWithSelector (s : RelayService) (cfg : RelaySettings) (policy : AutoPhasePolicy)
    (reading : PhaseReading) (pm : PmReading) (view : RelayView) (override : Option Bool) (i : CycleInput) :
    RelayService × CycleReport :=
  let selected :=
    s.selectAutoPhase cfg policy reading (s.decidedRelay cfg view override i) view.relayOn i
  selected.1.decideAndApply cfg pm view override selected.2

/-- `RuntimeCycleCoordinator.run` with the selector. -/
def runPhaseCycle (s : RelayService) (cfg : RelaySettings) (policy : AutoPhasePolicy)
    (reading : PhaseReading) (i : CycleInput) : RelayService :=
  match s.prepareOnlineUpdate cfg i with
  | (s, none) => s.publishOfflineUpdate cfg i
  | (s, some pm) =>
    let pass := s.orchestratePendingPhaseSwitch cfg pm pm.view i
    match pass.result with
    | none => pass.service
    | some (view, override) => (pass.service.decideWithSelector cfg policy reading pm view override i).1

end RelayService

end VenusEvcharger
