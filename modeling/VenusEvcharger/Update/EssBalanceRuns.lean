import VenusEvcharger.Update.EssBalance
import VenusEvcharger.Library.Run

/-!
# Withdrawing the ESS balance bias

Runs of calls from the start of the service. Every way out of tracking but one restores the base
setpoint as soon as the rate limit allows: only a call that finds the feature switched off leaves a
biased setpoint in force.
-/

namespace VenusEvcharger

open Library

namespace EssState

/-- The attributes at the start of the service. -/
def start : EssState where
  lastWriteAt := none
  lastSetpointW := none
  writes := []

/-- The last write that the gateway accepted. -/
def lastAccepted (s : EssState) : Option EssWrite := (s.writes.filter (·.accepted)).getLast?

section

variable [PyLib]

def step (s : EssState) (call : EssCall) : EssState := (s.applyBias call).1

/-- The call tracks. -/
def Tracking (call : EssCall) : Prop :=
  call.config.enabled = true ∧ essPrepareTrackingState call = .ok ()

/-- A call that does not track leaves no biased setpoint in force: no accepted one is outstanding, or
the outstanding one is within a watt of the base, or the base setpoint is handed to the gateway now,
or the minimum interval since the last accepted write is not over. -/
def Withdrawn (s : EssState) (call : EssCall) : Prop :=
  Tracking call ∨
  (∀ write ∈ s.lastAccepted, write.intent = .restore) ∨
  (∃ write ∈ s.lastAccepted, |call.config.baseSetpointW - write.setpointW| < 1) ∨
  (s.step call).writes =
    s.writes ++ [⟨call.config.baseSetpointW, .restore, call.now, call.gatewayAccepts⟩] ∨
  ∃ write ∈ s.lastAccepted, call.now - write.writtenAt < max 0 call.config.minUpdateSeconds

/-- A biased setpoint has to be withdrawn now: a tracking write was accepted last, it is a watt or
more from the base, and the minimum interval is over. -/
def Overdue (s : EssState) (call : EssCall) : Prop :=
  ∃ write ∈ s.lastAccepted, write.intent = .tracking ∧
    1 ≤ |call.config.baseSetpointW - write.setpointW| ∧
    max 0 call.config.minUpdateSeconds ≤ call.now - write.writtenAt

/-- The call does not find the feature switched off while a biased setpoint is overdue. -/
def NotSwitchedOff (s : EssState) (call : EssCall) : Prop :=
  call.config.enabled = false → ¬ s.Overdue call

/-- The attributes record the last accepted write. -/
structure Recorded (s : EssState) : Prop where
  writeAt : s.lastWriteAt = s.lastAccepted.map (·.writtenAt)
  setpoint : s.lastSetpointW =
    (s.lastAccepted.filter (decide <| ·.intent = .tracking)).map (·.setpointW)

omit [PyLib] in
theorem lastAccepted_writeSetpoint (s : EssState) (setpointW : ℚ) (intent : EssSetpointIntent)
    (now : ℚ) (accepted : Bool) :
    (s.writeSetpoint setpointW intent now accepted).lastAccepted =
      if accepted then some ⟨setpointW, intent, now, accepted⟩ else s.lastAccepted := by
  cases accepted with
  | false => simp [writeSetpoint, lastAccepted]
  | true => simp [writeSetpoint, lastAccepted]

variable {s : EssState}

omit [PyLib] in
theorem recorded_writeSetpoint (h : s.Recorded) (setpointW : ℚ)
    (intent : EssSetpointIntent) (now : ℚ) (accepted : Bool) :
    (s.writeSetpoint setpointW intent now accepted).Recorded := by
  constructor
  · rw [lastAccepted_writeSetpoint]
    cases accepted with
    | false => exact h.writeAt
    | true => rfl
  · rw [lastAccepted_writeSetpoint]
    cases accepted with
    | false => exact h.setpoint
    | true => cases intent <;> rfl

theorem recorded_step (h : s.Recorded) (call : EssCall) : (s.step call).Recorded := by
  unfold step applyBias
  split
  · exact h
  · split
    · unfold restoreBaseSetpoint
      split
      · exact h
      · split
        · exact h
        · exact recorded_writeSetpoint h _ _ _ _
    · unfold applyTracking
      dsimp only
      split
      · exact recorded_writeSetpoint h _ _ _ _
      · split <;> exact h

omit [PyLib] in
theorem shouldWrite_of_overdue (h : s.Recorded) {call : EssCall} (hoverdue : s.Overdue call) :
    s.lastSetpointW.isNone = false ∧
      s.shouldWrite call.config call.now call.config.baseSetpointW = true := by
  obtain ⟨write, hlast, hintent, hfar, hdue⟩ := hoverdue
  rw [Option.mem_def] at hlast
  have hat : s.lastWriteAt = some write.writtenAt := by rw [h.writeAt, hlast]; rfl
  have hsetpoint : s.lastSetpointW = some write.setpointW := by
    rw [h.setpoint, hlast]
    simp [hintent]
  refine ⟨by rw [hsetpoint]; rfl, ?_⟩
  unfold shouldWrite
  simp only [hat, hsetpoint, not_lt.mpr hdue, decide_false, Bool.false_eq_true, if_false, hfar,
    decide_true]

omit [PyLib] in
/-- What is not overdue is not outstanding, or near the base, or too recent. -/
theorem not_overdue {call : EssCall} (h : ¬ s.Overdue call) :
    (∀ write ∈ s.lastAccepted, write.intent = .restore) ∨
    (∃ write ∈ s.lastAccepted, |call.config.baseSetpointW - write.setpointW| < 1) ∨
    ∃ write ∈ s.lastAccepted, call.now - write.writtenAt < max 0 call.config.minUpdateSeconds := by
  cases hlast : s.lastAccepted with
  | none => exact .inl fun write hwrite => absurd hwrite (by simp)
  | some write =>
    by_cases hnear : |call.config.baseSetpointW - write.setpointW| < 1
    · exact .inr (.inl ⟨write, rfl, hnear⟩)
    · by_cases hrecent : call.now - write.writtenAt < max 0 call.config.minUpdateSeconds
      · exact .inr (.inr ⟨write, rfl, hrecent⟩)
      · left
        intro other hother
        obtain rfl := Option.some.inj hother
        cases hintent : write.intent with
        | restore => rfl
        | tracking =>
          exact absurd ⟨write, hlast, hintent, not_lt.mp hnear, not_lt.mp hrecent⟩ h

omit [PyLib] in
/-- What is overdue is outstanding, far from the base, and old enough. -/
theorem Overdue.not_settled {call : EssCall} (h : s.Overdue call) :
    (¬ ∀ write ∈ s.lastAccepted, write.intent = .restore) ∧
    (¬ ∃ write ∈ s.lastAccepted, |call.config.baseSetpointW - write.setpointW| < 1) ∧
    ¬ ∃ write ∈ s.lastAccepted,
      call.now - write.writtenAt < max 0 call.config.minUpdateSeconds := by
  obtain ⟨write, hlast, hintent, hfar, hdue⟩ := h
  refine ⟨fun hrestore => ?_, ?_, ?_⟩
  · have := hrestore write hlast
    rw [hintent] at this
    exact absurd this (by decide)
  · rintro ⟨other, hother, hnear⟩
    obtain rfl := Option.some.inj (hlast.symm.trans hother)
    exact absurd hnear (not_lt.mpr hfar)
  · rintro ⟨other, hother, hrecent⟩
    obtain rfl := Option.some.inj (hlast.symm.trans hother)
    exact absurd hrecent (not_lt.mpr hdue)

/-- Whether a call withdraws the bias is decided by the feature being on. -/
theorem withdrawn_iff (h : s.Recorded) (call : EssCall) :
    s.Withdrawn call ↔ s.NotSwitchedOff call := by
  constructor
  · intro hwithdrawn hoff hoverdue
    obtain ⟨hrestore, hnear, hrecent⟩ := hoverdue.not_settled
    rcases hwithdrawn with htracking | hdone | hdone | hwritten | hdone
    · rw [htracking.1] at hoff
      exact Bool.noConfusion hoff
    · exact hrestore hdone
    · exact hnear hdone
    · -- A call that finds the feature switched off writes nothing.
      have hstep : s.step call = s := by
        unfold step applyBias
        rw [hoff]
        rfl
      rw [hstep] at hwritten
      have hlength := congrArg List.length hwritten
      rw [List.length_append, List.length_singleton] at hlength
      omega
    · exact hrecent hdone
  · intro hon
    by_cases hoverdue : s.Overdue call
    · have henabled : call.config.enabled = true := by
        cases henabled : call.config.enabled with
        | true => rfl
        | false => exact absurd hoverdue (hon henabled)
      cases hprepare : essPrepareTrackingState call with
      | ok done => exact .inl ⟨henabled, hprepare⟩
      | error reason =>
        refine .inr (.inr (.inr (.inl ?_)))
        obtain ⟨hlast, hwrite⟩ := shouldWrite_of_overdue h hoverdue
        have hstep : s.step call = s.writeSetpoint call.config.baseSetpointW .restore call.now
            call.gatewayAccepts := by
          unfold step applyBias restoreBaseSetpoint
          simp only [henabled, hprepare, hlast, hwrite, Bool.not_true, Bool.false_eq_true, if_false]
        rw [hstep]
        unfold writeSetpoint
        cases call.gatewayAccepts <;> rfl
    · rcases not_overdue hoverdue with hrestore | hnear | hrecent
      · exact .inr (.inl hrestore)
      · exact .inr (.inr (.inl hnear))
      · exact .inr (.inr (.inr (.inr hrecent)))

/-- In every run from the start, every call leaves no biased setpoint in force exactly when no call
finds the feature switched off while one is overdue. -/
theorem bias_withdrawn_iff (calls : List EssCall) :
    Along step Withdrawn start calls ↔ Along step NotSwitchedOff start calls := by
  have hstep : ∀ s call, Recorded s → Recorded (step s call) := fun s call h => recorded_step h call
  have hstart : Recorded start := ⟨rfl, rfl⟩
  exact along_iff_of_invariant (fun s call h _ => hstep s call h) (fun _ call h => withdrawn_iff h call) hstart

end

section

local instance essSampleLib : PyLib := PyLib.sample

/-- Two sources, one of them a Victron battery on the bus. -/
def sampleCluster : CommandPayload :=
  Dict.ofList
    [("battery_discharge_balance_eligible_source_count", .int 2),
      ("battery_sources", .list
        [.obj [("source_id", .str "victron"),
          ("discharge_balance_control_connector_type", .str "dbus"),
          ("discharge_balance_error_w", .float (.fin 400))]])]

/-- A call at some time with the feature on or off. -/
def sampleEssCall (enabled : Bool) (now : ℚ) : EssCall where
  now := now
  autoModeActive := true
  config := ⟨enabled, "", "", "", 50, 2⟩
  cluster := sampleCluster
  profile := ⟨"export", "above_reserve_band"⟩
  overshootCooldownUntil := none
  oscillationLockoutUntil := none
  pidOutputW := 100
  gatewayAccepts := true

/-- A biased setpoint is accepted, and then the feature is switched off: the setpoint stays. -/
theorem biased_setpoint_left_when_disabled :
    ¬ Along step Withdrawn start [sampleEssCall true 100, sampleEssCall false 200] := by
  intro hrun
  have hrecorded : (step start (sampleEssCall true 100)).Recorded :=
    recorded_step ⟨rfl, rfl⟩ _
  have hoff := (withdrawn_iff hrecorded (sampleEssCall false 200)).mp hrun.2.1 rfl
  refine hoff ⟨⟨150, .tracking, 100, true⟩, ?_, rfl, ?_, ?_⟩
  · show (step start (sampleEssCall true 100)).lastAccepted = _
    decide +kernel
  · decide +kernel
  · decide +kernel

end

end EssState

end VenusEvcharger
