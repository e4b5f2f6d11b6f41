import VenusEvcharger.Update.RelayCycle

/-!
# Enable commands while a fault is active

Three parts of a cycle may switch the charger on: the startup target, the resumption after a phase switch,
and the relay decision. Faults are looked at between the second and the third, so only the decision
respects them. `no_enable_under_fault_iff` says which cycles with a fault issue no enable command.
-/

namespace VenusEvcharger

/-- A blocking fault as the decision of a cycle sees it: the switch feedback, a latched contactor lockout,
or the charger. -/
def CycleReport.faultPresent (r : CycleReport) : Bool :=
  r.switchSafety.isSome || r.contactorLockout.isSome || r.chargerHealth.isSome

namespace RelayService

section

variable (s : RelayService) (cfg : RelaySettings) (i : CycleInput)

/-- The same faults for a wanted and a measured relay state. -/
def faultPresent (wanted relayOn : Bool) : Bool :=
  (switchFeedbackSafetyOverride i.switch wanted relayOn).isSome || s.contactor.activeLockoutHealth.isSome ||
    (chargerHealthOverride cfg s.transport i.charger i.now).isSome

/-- A blocking fault is present in the cycle: for the PM status that it works on, or at its decision. -/
def BlockingFault : Prop :=
  (∃ pm, (s.prepareOnlineUpdate cfg i).2 = some pm ∧
    (s.prepareOnlineUpdate cfg i).1.faultPresent cfg i pm.output pm.output = true) ∨
  ∃ report, (s.runUpdateCycle cfg i).2 = some report ∧ report.faultPresent = true

/-- The cycle switches on for a startup target that is due. -/
def startupEnables : Bool :=
  match s.resolvedStatus cfg i with
  | none => false
  | some pm => s.startupTargetDue pm == some true && s.issues cfg i.now

/-- The cycle ends a staged phase switch in manual mode and switches on again. -/
def resumeEnables : Bool :=
  match (s.prepareOnlineUpdate cfg i).2 with
  | none => false
  | some pm => (s.prepareOnlineUpdate cfg i).1.resumeIssues cfg pm pm.view i

end

section Effects

variable {s : RelayService} {cfg : RelaySettings} {i : CycleInput}

theorem StagedApplication.not_enable {view : RelayView} {applied : List RelayEffect}
    (h : s.StagedApplication cfg view i applied) : ∀ effect ∈ applied, effect.isEnable = false := by
  intro effect hmem
  obtain ⟨-, -, -, selection, rfl⟩ := h.of_mem hmem
  rfl

theorem AutoApplication.not_enable {relayOn : Bool} {applied : List RelayEffect}
    (h : s.AutoApplication cfg relayOn i applied) : ∀ effect ∈ applied, effect.isEnable = false := by
  intro effect hmem
  obtain ⟨-, -, -, selection, rfl⟩ := h.of_mem hmem
  rfl

/-- The first steps of a cycle switch on only for the startup target. -/
theorem preparationEffects_not_enable_iff :
    (∀ effect ∈ s.preparationEffects cfg i, effect.isEnable = false) ↔ s.startupEnables cfg i = false := by
  unfold preparationEffects startupEnables startupEffects
  cases s.resolvedStatus cfg i with
  | none => simp
  | some pm =>
    cases hdue : s.startupTargetDue pm with
    | none => simp [hdue]
    | some target =>
      simp only [hdue]
      split
      · next hissues => cases target <;> simp [hissues]
      · next hissues => cases target <;> simp [hissues]

/-- With a fault in the report, the final decision is off. -/
theorem desiredRelay_of_faultPresent {view : RelayView} {override : Option Bool}
    (h : (s.resolveRelayDecision cfg view override i).2.faultPresent = true) :
    (s.resolveRelayDecision cfg view override i).2.desiredRelay = false := by
  by_contra hon
  rw [Bool.not_eq_false] at hon
  obtain ⟨-, hswitch, hcharger⟩ := s.wanted_of_desiredRelay cfg view override i hon
  simp only [CycleReport.faultPresent, hcharger, Option.isSome_none, Bool.or_false, Bool.or_eq_true] at h
  have hhealth := s.contactor.switchFeedbackHealthOverride_isSome cfg i.charger i.now h
  have hnone : (s.contactor.switchFeedbackHealthOverride cfg i.switch i.charger
      (s.desiredRelayTarget view override i) view i.now).2 = none := hswitch
  rw [hnone] at hhealth
  cases hhealth

/-- A fault that is there before the phase switch is still there at the decision, unless the phase switch
keeps the relay off or has switched it on. -/
theorem desiredRelay_of_faultPresent_before {pm : PmReading} {pass : SwitchPass} {view : RelayView}
    {override : Option Bool} (hstep : SwitchStep s cfg pm pm.view i pass)
    (hresult : pass.result = some (view, override)) (hquiet : s.resumeIssues cfg pm pm.view i = false)
    (h : s.faultPresent cfg i pm.output pm.output = true) :
    (pass.service.resolveRelayDecision cfg view override i).2.desiredRelay = false := by
  obtain ⟨htransport, hshown⟩ := hstep.quiet hquiet
  obtain ⟨-, hcontactor, -⟩ := hstep.frame
  rcases hshown view override hresult with rfl | ⟨rfl, rfl⟩
  · by_contra hon
    rw [Bool.not_eq_false] at hon
    exact Bool.false_ne_true (pass.service.wanted_of_desiredRelay cfg view _ i hon).1
  · apply desiredRelay_of_faultPresent
    simp only [faultPresent, Bool.or_eq_true] at h
    simp only [CycleReport.faultPresent, resolveRelayDecision, hcontactor, htransport, Bool.or_eq_true]
    rcases h with (hsafety | hlockout) | hcharger
    · exact .inl (.inl (switchFeedbackSafetyOverride_isSome_of_relayOn _ hsafety))
    · exact .inl (.inr hlockout)
    · exact .inr hcharger

end Effects

/-! ## The result -/

/-- In a cycle with a blocking fault no enable command is issued exactly when neither the startup target
nor the resumption after a phase switch switches on. -/
theorem no_enable_under_fault_iff (s : RelayService) (cfg : RelaySettings) (i : CycleInput)
    (hlog : s.log = []) (hfault : s.BlockingFault cfg i) :
    (∀ effect ∈ (s.runUpdateCycle cfg i).1.log, effect.isEnable = false) ↔
      s.startupEnables cfg i = false ∧ s.resumeEnables cfg i = false := by
  obtain ⟨-, -, -, hprepare⟩ := s.prepareOnlineUpdate_frame cfg i
  rw [hlog, List.nil_append] at hprepare
  have hresume : ∀ pm, (s.prepareOnlineUpdate cfg i).2 = some pm → s.resumeEnables cfg i =
      (s.prepareOnlineUpdate cfg i).1.resumeIssues cfg pm pm.view i := by
    intro pm hpm
    simp only [resumeEnables, hpm]
  -- what the phase switch adds to the log of the first steps
  have hpass : ∀ pm pass, (s.prepareOnlineUpdate cfg i).2 = some pm →
      SwitchStep (s.prepareOnlineUpdate cfg i).1 cfg pm pm.view i pass →
      ((∀ effect ∈ pass.service.log, effect.isEnable = false) ↔
        s.startupEnables cfg i = false ∧ s.resumeEnables cfg i = false) := by
    intro pm pass hpm hstep
    obtain ⟨applied, happlied, hpasslog⟩ := hstep.log
    rw [hpasslog, hprepare, ← hresume pm hpm, List.forall_mem_append, List.forall_mem_append,
      preparationEffects_not_enable_iff]
    cases s.resumeEnables cfg i with
    | true => simp
    | false => simpa using fun _ => happlied.not_enable
  have hcycle := s.runUpdateCycle_step cfg i
  generalize hend : s.runUpdateCycle cfg i = ended at hcycle
  cases hcycle with
  | offline hpm =>
    have hnone : s.resumeEnables cfg i = false := by simp only [resumeEnables, hpm]
    rw [publishOfflineUpdate_log, hprepare, hnone, preparationEffects_not_enable_iff]
    simp
  | left pm pass hpm hstep hresult => exact hpass pm pass hpm hstep
  | decided pm pass view override hpm hstep hresult =>
    obtain ⟨applied, command, happlied, hcommand, hdecided⟩ :=
      pass.service.decideAndApply_log cfg pm view override i
    rw [← hpass pm pass hpm hstep, hdecided, List.forall_mem_append, List.forall_mem_append]
    constructor
    · exact fun h => h.1.1
    · intro hquiet
      refine ⟨⟨hquiet, happlied.not_enable⟩, ?_⟩
      have hresumed := ((hpass pm pass hpm hstep).mp hquiet).2
      rw [hresume pm hpm] at hresumed
      have hoff : (pass.service.resolveRelayDecision cfg view override i).2.desiredRelay = false := by
        rcases hfault with ⟨pm', hpm', hbefore⟩ | ⟨report, hreport, hpresent⟩
        · rw [hpm] at hpm'
          cases hpm'
          exact desiredRelay_of_faultPresent_before hstep hresult hresumed hbefore
        · rw [hend] at hreport
          cases hreport
          exact desiredRelay_of_faultPresent hpresent
      rcases hcommand with rfl | rfl
      · simp
      · simp [hoff]

/-- A relay that is off, with a contactor lockout latched before the service was started. -/
def lockedOut (mode : Nat) (enable : Bool) : RelayService :=
  { (RelayService.initial mode enable).withReading false 0 with
    contactor := { ContactorVars.initial with lockoutReason := some .suspectedOpen } }

/-- The lockout is a blocking fault of every cycle with a PM status. -/
theorem lockedOut_fault (mode : Nat) (enable : Bool) (hprepare :
    ((lockedOut mode enable).prepareOnlineUpdate .default (.calm 1)).2.isSome) :
    (lockedOut mode enable).BlockingFault .default (.calm 1) := by
  obtain ⟨pm, hpm⟩ := Option.isSome_iff_exists.mp hprepare
  refine .inl ⟨pm, hpm, ?_⟩
  obtain ⟨-, -, hcontactor, -⟩ := (lockedOut mode enable).prepareOnlineUpdate_frame .default (.calm 1)
  have hlockout : (lockedOut mode enable).contactor.activeLockoutHealth.isSome = true := rfl
  simp only [faultPresent, hcontactor, hlockout, Bool.or_true, Bool.true_or]

/-- Without a startup target, the lockout keeps the relay off. -/
theorem no_enable_under_lockout :
    (lockedOut 1 true).BlockingFault .default (.calm 1) ∧
      ∀ effect ∈ ((lockedOut 1 true).runUpdateCycle .default (.calm 1)).1.log, effect.isEnable = false := by
  have hfault := lockedOut_fault 1 true (by decide +kernel)
  exact ⟨hfault, (no_enable_under_fault_iff (lockedOut 1 true) .default (.calm 1) rfl hfault).mpr
    ⟨by decide +kernel, by decide +kernel⟩⟩

/-- The lockout does not keep the startup target from queuing an enable command. -/
theorem startup_enables_under_lockout :
    (lockedOut 0 true).BlockingFault .default (.calm 1) ∧
      .queueRelayCommand .startupTarget true ∈
        ((lockedOut 0 true).runUpdateCycle .default (.calm 1)).1.log :=
  ⟨lockedOut_fault 0 true (by decide +kernel), by decide +kernel⟩

end RelayService

end VenusEvcharger
