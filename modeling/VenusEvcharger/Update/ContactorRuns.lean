import VenusEvcharger.Library.HeldSince
import VenusEvcharger.Library.Run
import VenusEvcharger.Update.RelayService

/-!
# Contactor faults over a run

`switch_feedback_health_override` keeps a timer for each suspicion about the contactor, counts the episodes of
each fault, and latches a lockout. `contactor_faults_latched` says what these attributes mean for the ticks so
far, in every run of ticks and operator resets.

Scope: a reading of power or current that is missing counts as zero, which is below both thresholds. The source
and the time of the lockout are left out.
-/

namespace VenusEvcharger

open Library

/-- A call of `switch_feedback_health_override`. -/
structure ContactorTick where
  cfg : RelaySettings
  switch : Option SwitchReadback
  charger : Option ChargerReadback
  desiredRelay : Bool
  view : RelayView
  now : ℚ

namespace ContactorTick

/-- `_switch_feedback_safety_override`. -/
def safety (t : ContactorTick) : Option HealthOverride :=
  switchFeedbackSafetyOverride t.switch t.desiredRelay t.view.relayOn

/-- `_suspected_open_condition` and `_suspected_welded_condition`. -/
def suspects (t : ContactorTick) : ContactorFault → Bool
  | .suspectedOpen =>
    t.view.relayOn && chargerRequestsLoad t.cfg t.charger && !combinedLoadActive t.cfg t.view t.charger
  | .suspectedWelded => !t.view.relayOn && combinedLoadActive t.cfg t.view t.charger

/-- `_contactor_heuristic_delay_seconds`. -/
def delay (t : ContactorTick) : ℚ := max 0 t.cfg.autoShellySoftFailSeconds

end ContactorTick

/-! ## Records of a run -/

/-- A tick, or the operator reset of the lockout. -/
inductive ContactorEvent where
  | tick (t : ContactorTick)
  | reset

/-- What is remembered of an event; of a tick also whether it evaluated the heuristics, and the reported
health. -/
inductive ContactorRecord where
  | tick (t : ContactorTick) (evaluated : Bool) (reported : Option HealthOverride)
  | reset

namespace ContactorRecord

/-- The fault that an evaluated tick reports, as a suspicion or with the lockout that it engages. -/
def fault : ContactorRecord → Option ContactorFault
  | .tick _ true (some (.contactorSuspected fault)) => some fault
  | .tick _ true (some (.contactorLockout fault)) => some fault
  | _ => none

/-- The lockout that an evaluated tick engages. -/
def engaged : ContactorRecord → Option ContactorFault
  | .tick _ true (some (.contactorLockout fault)) => some fault
  | _ => none

/-- The tick was evaluated with the condition of the fault. -/
def Suspects (fault : ContactorFault) : ContactorRecord → Prop
  | .tick t true _ => t.suspects fault = true
  | _ => False

/-- The time of a tick. -/
def time : ContactorRecord → ℚ
  | .tick t _ _ => t.now
  | .reset => 0

/-- A tick at the time or before it; a reset has no time. -/
def NotAfter (now : ℚ) : ContactorRecord → Prop
  | .tick t _ _ => t.now ≤ now
  | .reset => True

instance (now : ℚ) : (record : ContactorRecord) → Decidable (record.NotAfter now)
  | .tick t _ _ => inferInstanceAs (Decidable (t.now ≤ now))
  | .reset => inferInstanceAs (Decidable True)

end ContactorRecord

/-- The fault of the newest record. -/
def currentFault (records : List ContactorRecord) : Option ContactorFault := records.head?.bind (·.fault)

/-- The episodes of a fault since the last reset: the ticks that report it, and whose predecessor does not. -/
def episodes (fault : ContactorFault) : List ContactorRecord → Nat
  | [] => 0
  | .reset :: _ => 0
  | record :: older =>
    if record.fault = some fault ∧ currentFault older ≠ some fault then episodes fault older + 1
    else episodes fault older

/-- The time of the first tick of the current episode. -/
def episodeStart : List ContactorRecord → Option ℚ
  | [] => none
  | record :: older =>
    match record.fault with
    | none => none
    | some fault => if currentFault older = some fault then episodeStart older else some record.time

/-- The lockout that was engaged since the last reset. -/
def engagedFault : List ContactorRecord → Option ContactorFault
  | [] => none
  | .reset :: _ => none
  | record :: older => (engagedFault older).or record.engaged

/-! ## One evaluated tick -/

namespace ContactorVars

/-- `_clear_contactor_lockout_state`, and the attributes at start. -/
def cleared : ContactorVars := ⟨fun _ => 0, none, none, none, none, none⟩

/-- The timer of a suspicion. -/
def suspectedSince (c : ContactorVars) : ContactorFault → Option ℚ
  | .suspectedOpen => c.suspectedOpenSince
  | .suspectedWelded => c.suspectedWeldedSince

section Tick

variable (c : ContactorVars) (t : ContactorTick)

/-- Start and age of a suspicion at a tick. -/
def age (fault : ContactorFault) : Option ℚ × Option ℚ :=
  heuristicConditionAge (c.suspectedSince fault) (t.suspects fault) t.now

/-- The attributes after the timers are updated. -/
def aged : ContactorVars :=
  { c with suspectedOpenSince := (c.age t .suspectedOpen).1, suspectedWeldedSince := (c.age t .suspectedWelded).1 }

/-- The age of the suspicion reaches the delay. -/
def ripe (fault : ContactorFault) : Bool := (c.age t fault).2.any (decide <| t.delay ≤ ·)

/-- The fault that a tick remembers. -/
def raised : Option ContactorFault :=
  if c.ripe t .suspectedWelded then some .suspectedWelded
  else if c.ripe t .suspectedOpen then some .suspectedOpen
  else none

/-- The heuristics update the timers, and remember the fault whose timer is ripe. -/
theorem heuristicOverride_eq :
    c.heuristicOverride t.cfg t.view t.charger t.now =
      match c.raised t with
      | some fault => (((c.aged t).rememberFault t.cfg fault t.now).1,
          some ((c.aged t).rememberFault t.cfg fault t.now).2)
      | none => ((c.aged t).clearFaultActiveState, none) := by
  have hraised : c.raised t =
      if c.ripe t .suspectedWelded then some .suspectedWelded
      else if c.ripe t .suspectedOpen then some .suspectedOpen else none := rfl
  show (if c.ripe t .suspectedWelded then _ else if c.ripe t .suspectedOpen then _ else _) = _
  cases hwelded : c.ripe t .suspectedWelded with
  | true =>
    rw [hwelded] at hraised
    rw [hraised]
    rfl
  | false =>
    cases hopen : c.ripe t .suspectedOpen with
    | true =>
      rw [hwelded, hopen] at hraised
      rw [hraised]
      rfl
    | false =>
      rw [hwelded, hopen] at hraised
      rw [hraised]
      rfl

/-- A timer after the update. -/
theorem suspectedSince_aged (fault : ContactorFault) : (c.aged t).suspectedSince fault = (c.age t fault).1 := by
  cases fault <;> rfl

theorem ripe_of_raised {fault : ContactorFault} (h : c.raised t = some fault) : c.ripe t fault = true := by
  unfold raised at h
  split at h
  · rw [← Option.some.inj h]
    assumption
  · split at h
    · rw [← Option.some.inj h]
      assumption
    · nomatch h

/-- The timer of a condition that holds runs on, or starts. -/
theorem suspectedSince_of_suspects {fault : ContactorFault} (h : t.suspects fault = true) :
    (c.aged t).suspectedSince fault = some ((c.suspectedSince fault).getD t.now) := by
  rw [suspectedSince_aged]
  unfold age heuristicConditionAge
  rw [if_pos h]
  cases c.suspectedSince fault <;> rfl

/-- A suspicion whose timer has run for the delay is raised: the two suspicions exclude each other. -/
theorem raised_of_since {fault : ContactorFault} {since : ℚ} (hsuspects : t.suspects fault = true)
    (hsince : (c.aged t).suspectedSince fault = some since) (hdelay : t.delay ≤ t.now - since) :
    c.raised t = some fault := by
  rw [c.suspectedSince_of_suspects t hsuspects] at hsince
  obtain rfl := Option.some.inj hsince
  have hripe : c.ripe t fault = true := by
    unfold ripe age heuristicConditionAge
    rw [if_pos hsuspects]
    cases hold : c.suspectedSince fault with
    | none => simpa [hold] using hdelay
    | some before => exact decide_eq_true ((by simpa [hold] using hdelay : t.delay ≤ t.now - before).trans (le_max_right ..))
  unfold raised
  cases fault with
  | suspectedWelded => rw [if_pos hripe]
  | suspectedOpen =>
    have hwelded : c.ripe t .suspectedWelded = false := by
      unfold ripe age heuristicConditionAge
      unfold ContactorTick.suspects at hsuspects ⊢
      simp_all
    rw [if_neg (by simp [hwelded]), if_pos hripe]

/-- The timer of a ripe suspicion has run for the delay. -/
theorem since_of_ripe {fault : ContactorFault} (h : c.ripe t fault = true) :
    ∃ since, (c.aged t).suspectedSince fault = some since ∧ t.delay ≤ max 0 (t.now - since) := by
  rw [suspectedSince_aged]
  unfold ripe age heuristicConditionAge at *
  cases hsuspects : t.suspects fault with
  | false => simp [hsuspects] at h
  | true =>
    cases hsince : c.suspectedSince fault with
    | none =>
      refine ⟨t.now, by simp, ?_⟩
      simpa [hsuspects, hsince] using h
    | some since =>
      refine ⟨since, by simp, ?_⟩
      simpa [hsuspects, hsince] using h

end Tick

/-- Since when the fault is active once it is remembered. -/
def activeStart (c : ContactorVars) (fault : ContactorFault) (now : ℚ) : ℚ :=
  (if c.faultActiveReason = some fault then c.faultActiveSince else none).getD now

/-- The counters once the fault is remembered: a fault that was not active is counted. -/
def countsAfter (c : ContactorVars) (fault f : ContactorFault) : Nat :=
  if f = fault ∧ ¬ (c.faultActiveReason = some fault ∧ c.faultActiveSince.isSome) then c.faultCounts f + 1
  else c.faultCounts f

/-- The lockout is engaged: the counter has reached the threshold, or the fault lasts. -/
def Engages (c : ContactorVars) (cfg : RelaySettings) (fault : ContactorFault) (now : ℚ) : Prop :=
  (0 < cfg.autoContactorFaultLatchCount ∧ cfg.autoContactorFaultLatchCount ≤ c.countsAfter fault fault) ∨
    (0 < cfg.autoContactorFaultLatchSeconds ∧ cfg.autoContactorFaultLatchSeconds ≤ now - c.activeStart fault now)

instance (c : ContactorVars) (cfg : RelaySettings) (fault : ContactorFault) (now : ℚ) :
    Decidable (c.Engages cfg fault now) :=
  inferInstanceAs (Decidable (_ ∨ _))

/-- A fault is active from its first tick on. -/
theorem activateFaultReason_eq (c : ContactorVars) (fault : ContactorFault) (now : ℚ) :
    c.activateFaultReason fault now =
      ({ c with
          faultCounts := c.countsAfter fault
          faultActiveReason := some fault
          faultActiveSince := some (c.activeStart fault now) }, c.activeStart fault now) := by
  have hstart : ¬ (c.faultActiveReason = some fault ∧ c.faultActiveSince.isSome) →
      activateFaultReason.start c fault now =
        ({ c with
            faultCounts := c.countsAfter fault
            faultActiveReason := some fault
            faultActiveSince := some (c.activeStart fault now) }, c.activeStart fault now) := by
    intro hnew
    have hnow : c.activeStart fault now = now := by
      unfold activeStart
      split
      · have hnone : c.faultActiveSince = none := by
          rw [← Option.not_isSome_iff_eq_none]
          exact fun hsome => hnew ⟨‹_›, hsome⟩
        rw [hnone]
        rfl
      · rfl
    have hcounts : c.countsAfter fault = fun f => if f = fault then c.faultCounts f + 1 else c.faultCounts f := by
      funext f
      exact if_congr (and_iff_left hnew) rfl rfl
    rw [hnow, hcounts]
    rfl
  unfold activateFaultReason
  cases hreason : c.faultActiveReason with
  | none => exact hstart (by simp [hreason])
  | some active =>
    cases hsince : c.faultActiveSince with
    | none => exact hstart (by simp [hsince])
    | some since =>
      by_cases hactive : active = fault
      · -- the fault was active already
        have hcounts : c.countsAfter fault = c.faultCounts := by
          funext f
          unfold countsAfter
          rw [if_neg (by simp [hreason, hsince, hactive])]
        have hnow : c.activeStart fault now = since := by
          unfold activeStart
          rw [if_pos (by rw [hreason, hactive]), hsince]
          rfl
        simp only [if_pos hactive]
        rw [hcounts, hnow, ← hactive, ← hreason, ← hsince]
      · simp only [if_neg hactive]
        exact hstart (by simp [hreason, hactive])

/-- A remembered fault is active and counted, and it engages the lockout when it is due. -/
theorem rememberFault_eq (c : ContactorVars) (cfg : RelaySettings) (fault : ContactorFault) (now : ℚ) :
    c.rememberFault cfg fault now =
      ({ c with
          faultCounts := c.countsAfter fault
          faultActiveReason := some fault
          faultActiveSince := some (c.activeStart fault now)
          lockoutReason := if c.Engages cfg fault now then some fault else c.lockoutReason },
        if c.Engages cfg fault now then .contactorLockout fault else .contactorSuspected fault) := by
  unfold rememberFault
  rw [activateFaultReason_eq]
  dsimp only
  by_cases hcount : 0 < cfg.autoContactorFaultLatchCount ∧
      cfg.autoContactorFaultLatchCount ≤ c.countsAfter fault fault
  · have hengages : c.Engages cfg fault now := Or.inl hcount
    rw [if_pos hcount, if_pos hengages, if_pos hengages]
  · by_cases hlasts : 0 < cfg.autoContactorFaultLatchSeconds ∧
        cfg.autoContactorFaultLatchSeconds ≤ now - c.activeStart fault now
    · have hengages : c.Engages cfg fault now := Or.inr hlasts
      rw [if_neg hcount, if_pos hlasts, if_pos hengages, if_pos hengages]
    · have hengages : ¬ c.Engages cfg fault now := fun h => h.elim hcount hlasts
      rw [if_neg hcount, if_neg hlasts, if_neg hengages, if_neg hengages]

end ContactorVars

/-! ## Runs -/

/-- The attributes with the records so far, the newest first. -/
structure ContactorRun where
  vars : ContactorVars
  records : List ContactorRecord

namespace ContactorRun

/-- Nothing is suspected, counted or latched. -/
def start : ContactorRun := ⟨.cleared, []⟩

/-- The health that a tick reports, with the attributes after it. -/
def override (r : ContactorRun) (t : ContactorTick) : ContactorVars × Option HealthOverride :=
  r.vars.switchFeedbackHealthOverride t.cfg t.switch t.charger t.desiredRelay t.view t.now

/-- The tick reaches the heuristics: no safety override and no latched lockout comes before them. -/
def Evaluates (r : ContactorRun) (t : ContactorTick) : Prop := t.safety = none ∧ r.vars.lockoutReason = none

instance (r : ContactorRun) (t : ContactorTick) : Decidable (r.Evaluates t) :=
  inferInstanceAs (Decidable (_ ∧ _))

/-- The record of a tick. -/
def record (r : ContactorRun) (t : ContactorTick) : ContactorRecord :=
  .tick t (decide (r.Evaluates t)) (r.override t).2

/-- The run after an event. -/
def step (r : ContactorRun) : ContactorEvent → ContactorRun
  | .tick t => ⟨(r.override t).1, r.record t :: r.records⟩
  | .reset => ⟨.cleared, .reset :: r.records⟩

/-- No earlier tick has a later time. -/
def Later (r : ContactorRun) : ContactorEvent → Prop
  | .tick t => ∀ earlier ∈ r.records, earlier.NotAfter t.now
  | .reset => True

instance (r : ContactorRun) : (event : ContactorEvent) → Decidable (r.Later event)
  | .tick t => inferInstanceAs (Decidable (∀ earlier ∈ r.records, earlier.NotAfter t.now))
  | .reset => inferInstanceAs (Decidable True)

/-- The episode of the newest record is due for the lockout: its counter has reached the threshold, or it lasts. -/
def Due (records : List ContactorRecord) (t : ContactorTick) (fault : ContactorFault) : Prop :=
  (0 < t.cfg.autoContactorFaultLatchCount ∧ t.cfg.autoContactorFaultLatchCount ≤ episodes fault records) ∨
    (0 < t.cfg.autoContactorFaultLatchSeconds ∧
      ∃ first, episodeStart records = some first ∧ t.cfg.autoContactorFaultLatchSeconds ≤ t.now - first)

/-- What a tick does, in terms of the records with its own one. -/
structure TickSound (r : ContactorRun) (t : ContactorTick) : Prop where
  /-- A reported suspicion is the fault of the tick. -/
  reported : ∀ fault, (r.override t).2 = some (.contactorSuspected fault) → (r.record t).fault = some fault
  /-- The condition of a reported fault held at every tick since one that lies the delay back. -/
  held : ∀ fault, (r.record t).fault = some fault → ∃ since,
    HeldSince (·.Suspects fault) ContactorRecord.time since (r.record t :: r.records) ∧ t.delay ≤ t.now - since
  /-- A condition that held at every tick since one that lies the delay back is reported. -/
  reports : ∀ fault since, HeldSince (·.Suspects fault) ContactorRecord.time since (r.record t :: r.records) →
    t.delay ≤ t.now - since → (r.record t).fault = some fault
  /-- The counters are the episodes since the last reset. -/
  counted : ∀ fault, (r.override t).1.faultCounts fault = episodes fault (r.record t :: r.records)
  /-- The lockout is engaged exactly when the reported fault is due. -/
  engaged : ∀ fault, (r.record t).engaged = some fault ↔
    (r.record t).fault = some fault ∧ Due (r.record t :: r.records) t fault
  /-- An engaged lockout is reported unless a safety override is, and stays. -/
  latched : ∀ fault, engagedFault r.records = some fault →
    (t.safety = none → (r.override t).2 = some (.contactorLockout fault)) ∧
      (r.override t).1.lockoutReason = some fault

/-- What an event does; a reset clears every attribute. -/
def Sound (r : ContactorRun) : ContactorEvent → Prop
  | .tick t => r.TickSound t
  | .reset => (r.step .reset).vars = .cleared

/-- The meaning of the attributes. -/
structure Faithful (r : ContactorRun) : Prop where
  counts : ∀ fault, r.vars.faultCounts fault = episodes fault r.records
  lockout : r.vars.lockoutReason = engagedFault r.records
  active : r.vars.lockoutReason = none →
    r.vars.faultActiveReason = currentFault r.records ∧ r.vars.faultActiveSince = episodeStart r.records
  held : r.vars.lockoutReason = none → ∀ fault, ∀ since ∈ r.vars.suspectedSince fault,
    HeldSince (·.Suspects fault) ContactorRecord.time since r.records

/-- A condition that has held is timed from no later on. -/
def Timed (r : ContactorRun) : Prop :=
  r.vars.lockoutReason = none → ∀ fault since, HeldSince (·.Suspects fault) ContactorRecord.time since r.records →
    ∃ armed, r.vars.suspectedSince fault = some armed ∧ armed ≤ since

section Step

variable {r : ContactorRun} {t : ContactorTick}

/-- A tick that does not evaluate the heuristics reports no fault of its own. -/
theorem record_of_not_evaluates (h : ¬ r.Evaluates t) : r.record t = .tick t false (r.override t).2 := by
  rw [record, decide_eq_false h]

theorem record_of_evaluates (h : r.Evaluates t) : r.record t = .tick t true (r.override t).2 := by
  rw [record, decide_eq_true h]

/-- An evaluated tick goes through the heuristics. -/
theorem override_of_evaluates (h : r.Evaluates t) :
    r.override t = r.vars.heuristicOverride t.cfg t.view t.charger t.now := by
  have hsafety : switchFeedbackSafetyOverride t.switch t.desiredRelay t.view.relayOn = none := h.1
  rw [override, ContactorVars.switchFeedbackHealthOverride, hsafety, ContactorVars.activeLockoutHealth, h.2]
  rfl

theorem override_of_safety {reason : HealthOverride} (h : t.safety = some reason) :
    r.override t = (r.vars.clearSuspicions, some reason) := by
  have hsafety : switchFeedbackSafetyOverride t.switch t.desiredRelay t.view.relayOn = some reason := h
  rw [override, ContactorVars.switchFeedbackHealthOverride, hsafety]

variable {fault : ContactorFault}

theorem override_of_latched (hsafety : t.safety = none)
    (h : r.vars.lockoutReason = some fault) : r.override t = (r.vars, some (.contactorLockout fault)) := by
  have hsafety : switchFeedbackSafetyOverride t.switch t.desiredRelay t.view.relayOn = none := hsafety
  rw [override, ContactorVars.switchFeedbackHealthOverride, hsafety, ContactorVars.activeLockoutHealth, h]
  rfl

/-- The record of a tick without a fault changes no count and ends the episode. -/
theorem records_of_no_fault (older : List ContactorRecord) (evaluated : Bool) (reported : Option HealthOverride)
    (h : (ContactorRecord.tick t evaluated reported).fault = none) :
    (∀ fault, episodes fault (.tick t evaluated reported :: older) = episodes fault older) ∧
      currentFault (.tick t evaluated reported :: older) = none ∧
      episodeStart (.tick t evaluated reported :: older) = none := by
  refine ⟨fun fault => ?_, h, ?_⟩
  · show (if (ContactorRecord.tick t evaluated reported).fault = some fault ∧ _ then _ else _) = _
    rw [h]
    exact if_neg fun hc => nomatch hc.1
  · rw [episodeStart, h]

theorem episodeStart_isSome {records : List ContactorRecord}
    (h : currentFault records = some fault) : (episodeStart records).isSome := by
  induction records with
  | nil => exact nomatch h
  | cons record older ih =>
    have hfault : record.fault = some fault := h
    rw [episodeStart, hfault]
    dsimp only
    split
    · exact ih ‹_›
    · rfl

/-- What an evaluated tick with a ripe suspicion does. -/
theorem override_of_raised (hev : r.Evaluates t) (hraised : r.vars.raised t = some fault) :
    r.override t = (((r.vars.aged t).rememberFault t.cfg fault t.now).1,
      some ((r.vars.aged t).rememberFault t.cfg fault t.now).2) := by
  rw [override_of_evaluates hev, ContactorVars.heuristicOverride_eq, hraised]

/-- An evaluated tick without a ripe suspicion ends the episode. -/
theorem override_of_not_raised (hev : r.Evaluates t) (hraised : r.vars.raised t = none) :
    r.override t = ((r.vars.aged t).clearFaultActiveState, none) := by
  rw [override_of_evaluates hev, ContactorVars.heuristicOverride_eq, hraised]

/-- The record of an evaluated tick with a ripe suspicion. -/
theorem record_of_raised (hev : r.Evaluates t) (hraised : r.vars.raised t = some fault) :
    (r.record t).fault = some fault ∧
      (r.record t).engaged = if (r.vars.aged t).Engages t.cfg fault t.now then some fault else none := by
  rw [record_of_evaluates hev, override_of_raised hev hraised, ContactorVars.rememberFault_eq]
  dsimp only
  split
  · exact ⟨rfl, rfl⟩
  · exact ⟨rfl, rfl⟩

/-- The counters are the episodes with the one of the tick. -/
theorem counts_of_raised (hr : r.Faithful) (hev : r.Evaluates t)
    (hraised : r.vars.raised t = some fault) (f : ContactorFault) :
    (r.vars.aged t).countsAfter fault f = episodes f (r.record t :: r.records) := by
  obtain ⟨hreason, hsince⟩ := hr.active hev.2
  have hepisodes : episodes f (r.record t :: r.records) =
      if (r.record t).fault = some f ∧ currentFault r.records ≠ some f then episodes f r.records + 1
      else episodes f r.records := rfl
  have hcounts : (r.vars.aged t).faultCounts f = episodes f r.records := hr.counts f
  have hactive : (r.vars.aged t).faultActiveReason = currentFault r.records := hreason
  have hstart : (r.vars.aged t).faultActiveSince = episodeStart r.records := hsince
  rw [hepisodes, (record_of_raised hev hraised).1]
  unfold ContactorVars.countsAfter
  rw [hcounts, hactive, hstart]
  refine if_congr ?_ rfl rfl
  constructor
  · rintro ⟨rfl, hnew⟩
    exact ⟨rfl, fun hsame => hnew ⟨hsame, episodeStart_isSome hsame⟩⟩
  · rintro ⟨heq, hnew⟩
    obtain rfl : fault = f := Option.some.inj heq
    exact ⟨rfl, fun hsame => hnew hsame.1⟩

/-- The fault is active since the first tick of the episode. -/
theorem start_of_raised (hr : r.Faithful) (hev : r.Evaluates t)
    (hraised : r.vars.raised t = some fault) :
    episodeStart (r.record t :: r.records) = some ((r.vars.aged t).activeStart fault t.now) := by
  obtain ⟨hreason, hsince⟩ := hr.active hev.2
  have hactive : (r.vars.aged t).faultActiveReason = currentFault r.records := hreason
  have hstart : (r.vars.aged t).faultActiveSince = episodeStart r.records := hsince
  rw [episodeStart, (record_of_raised hev hraised).1]
  unfold ContactorVars.activeStart
  rw [hactive, hstart]
  dsimp only
  by_cases hsame : currentFault r.records = some fault
  · rw [if_pos hsame, if_pos hsame]
    obtain ⟨first, hfirst⟩ := Option.isSome_iff_exists.mp (episodeStart_isSome hsame)
    rw [hfirst]
    rfl
  · rw [if_neg hsame, if_neg hsame]
    rfl

theorem engages_iff_due (hr : r.Faithful) (hev : r.Evaluates t)
    (hraised : r.vars.raised t = some fault) :
    (r.vars.aged t).Engages t.cfg fault t.now ↔ Due (r.record t :: r.records) t fault := by
  unfold ContactorVars.Engages Due
  rw [counts_of_raised hr hev hraised, start_of_raised hr hev hraised]
  simp

/-- The timer of an evaluated tick runs since its condition holds. -/
theorem held_of_evaluates (hr : r.Faithful) (hev : r.Evaluates t) (fault : ContactorFault) :
    ∀ since ∈ (r.vars.aged t).suspectedSince fault,
      HeldSince (·.Suspects fault) ContactorRecord.time since (r.record t :: r.records) := by
  intro since hsince
  rw [record_of_evaluates hev]
  cases hsuspects : t.suspects fault with
  | false =>
    rw [ContactorVars.suspectedSince_aged] at hsince
    unfold ContactorVars.age heuristicConditionAge at hsince
    simp [hsuspects] at hsince
  | true =>
    rw [r.vars.suspectedSince_of_suspects t hsuspects] at hsince
    obtain rfl := Option.some.inj hsince
    have hown : ContactorRecord.Suspects fault (.tick t true (r.override t).2) := hsuspects
    cases hold : r.vars.suspectedSince fault with
    | none => exact heldSince_arm hown r.records
    | some before => exact (hr.held hev.2 fault before hold).extend hown

/-- The record of a tick that does not reach the heuristics. -/
theorem records_of_not_evaluates (hev : ¬ r.Evaluates t) :
    (r.record t).fault = none ∧ (r.record t).engaged = none := by
  rw [record_of_not_evaluates hev]
  exact ⟨rfl, rfl⟩

/-- The lockout after a tick is the one that was engaged, or the one that the tick engages. -/
theorem engagedFault_record : engagedFault (r.record t :: r.records) =
    (engagedFault r.records).or (r.record t).engaged := rfl

/-- A tick that reports no fault adds nothing to the counts and ends the episode. -/
theorem faithful_of_no_fault (hr : r.Faithful) {vars : ContactorVars} (hvars : (r.step (.tick t)).vars = vars)
    (hfault : (r.record t).fault = none) (hengaged : (r.record t).engaged = none)
    (hcounts : vars.faultCounts = r.vars.faultCounts) (hlockout : vars.lockoutReason = r.vars.lockoutReason)
    (hactive : vars.lockoutReason = none → vars.faultActiveReason = none ∧ vars.faultActiveSince = none)
    (hheld : vars.lockoutReason = none → ∀ fault, ∀ since ∈ vars.suspectedSince fault,
      HeldSince (·.Suspects fault) ContactorRecord.time since (r.record t :: r.records)) :
    (r.step (.tick t)).Faithful := by
  obtain ⟨hkept, hcurrent, hstart⟩ := records_of_no_fault r.records _ _ hfault
  constructor
  · intro fault
    rw [hvars, hcounts]
    exact (hr.counts fault).trans (hkept fault).symm
  · rw [hvars, hlockout]
    show r.vars.lockoutReason = (engagedFault r.records).or (r.record t).engaged
    rw [hengaged, Option.or_none]
    exact hr.lockout
  · rw [hvars]
    intro hnone
    exact ⟨(hactive hnone).1.trans hcurrent.symm, (hactive hnone).2.trans hstart.symm⟩
  · rw [hvars]
    exact hheld

/-- A tick keeps the meaning of the attributes. -/
theorem faithful_tick (hr : r.Faithful) : (r.step (.tick t)).Faithful := by
  -- Only a tick that evaluates the contactor can add to the counts; the others leave a record without a fault.
  cases hsafety : t.safety with
  | some reason =>
    have hev : ¬ r.Evaluates t := fun h => nomatch hsafety.symm.trans h.1
    obtain ⟨hfault, hengaged⟩ := records_of_not_evaluates hev
    refine faithful_of_no_fault hr (congrArg Prod.fst (override_of_safety hsafety)) hfault hengaged rfl rfl
      (fun _ => ⟨rfl, rfl⟩) ?_
    intro _ fault since hsince
    cases fault <;> exact nomatch hsince
  | none =>
    cases hlockout : r.vars.lockoutReason with
    | some latched =>
      have hev : ¬ r.Evaluates t := fun h => nomatch hlockout.symm.trans h.2
      have hlatched : r.vars.lockoutReason ≠ none := by
        rw [hlockout]
        exact Option.some_ne_none latched
      obtain ⟨hfault, hengaged⟩ := records_of_not_evaluates hev
      exact faithful_of_no_fault hr (congrArg Prod.fst (override_of_latched hsafety hlockout)) hfault hengaged rfl rfl
        (fun hnone => absurd hnone hlatched) (fun hnone => absurd hnone hlatched)
    | none =>
      have hev : r.Evaluates t := ⟨hsafety, hlockout⟩
      cases hraised : r.vars.raised t with
      | none =>
        have hover := override_of_not_raised hev hraised
        have hrecord : r.record t = .tick t true none := by rw [record_of_evaluates hev, hover]
        have hfault : (r.record t).fault = none := by rw [hrecord]; rfl
        have hengaged : (r.record t).engaged = none := by rw [hrecord]; rfl
        refine faithful_of_no_fault hr (congrArg Prod.fst hover) hfault hengaged rfl rfl (fun _ => ⟨rfl, rfl⟩) ?_
        intro _ fault since hsince
        exact held_of_evaluates hr hev fault since (by cases fault <;> exact hsince)
      | some fault =>
        have hnoLockout : engagedFault r.records = none := hr.lockout.symm.trans hlockout
        have hover := override_of_raised hev hraised
        obtain ⟨hfault, hengaged⟩ := record_of_raised hev hraised
        have hcurrent : currentFault (r.record t :: r.records) = some fault := hfault
        have hvars : (r.step (.tick t)).vars = ((r.vars.aged t).rememberFault t.cfg fault t.now).1 :=
          congrArg Prod.fst hover
        rw [ContactorVars.rememberFault_eq] at hvars
        constructor
        · intro f
          rw [hvars]
          exact counts_of_raised hr hev hraised f
        · rw [hvars]
          show (if _ then some fault else r.vars.lockoutReason) =
            (engagedFault r.records).or (r.record t).engaged
          rw [hnoLockout, hengaged, hlockout]
          rfl
        · intro _
          rw [hvars]
          exact ⟨hcurrent.symm, (start_of_raised hr hev hraised).symm⟩
        · intro _ f since hsince
          rw [hvars] at hsince
          exact held_of_evaluates hr hev f since (by cases f <;> exact hsince)

/-- Every event keeps the meaning of the attributes. -/
theorem faithful_step (hr : r.Faithful) (event : ContactorEvent) : (r.step event).Faithful := by
  cases event with
  | tick t => exact faithful_tick hr
  | reset => exact ⟨fun _ => rfl, rfl, fun _ => ⟨rfl, rfl⟩, fun _ fault => by cases fault <;> exact nofun⟩

/-- A reported fault is a ripe suspicion of an evaluated tick. -/
theorem raised_of_fault (h : (r.record t).fault = some fault) :
    r.Evaluates t ∧ r.vars.raised t = some fault := by
  by_cases hev : r.Evaluates t
  · refine ⟨hev, ?_⟩
    cases hraised : r.vars.raised t with
    | none =>
      rw [record_of_evaluates hev, override_of_not_raised hev hraised] at h
      nomatch h
    | some raised => exact (record_of_raised hev hraised).1.symm.trans h
  · nomatch (records_of_not_evaluates hev).1.symm.trans h

/-- Only the heuristics report a suspicion. -/
theorem fault_of_suspected (h : (r.override t).2 = some (.contactorSuspected fault)) :
    (r.record t).fault = some fault := by
  cases hsafety : t.safety with
  | some reason =>
    rw [override_of_safety hsafety] at h
    obtain rfl : reason = .contactorSuspected fault := Option.some.inj h
    unfold ContactorTick.safety switchFeedbackSafetyOverride at hsafety
    cases hswitch : t.switch with
    | none => simp [hswitch] at hsafety
    | some state =>
      rw [hswitch] at hsafety
      dsimp only at hsafety
      split_ifs at hsafety
      · nomatch hsafety
      · nomatch hsafety
  | none =>
    cases hlockout : r.vars.lockoutReason with
    | some latched =>
      rw [override_of_latched hsafety hlockout] at h
      nomatch h
    | none =>
      rw [record_of_evaluates ⟨hsafety, hlockout⟩, h]
      rfl

theorem since_le_now (hlater : r.Later (.tick t)) {since : ℚ}
    (h : HeldSince (·.Suspects fault) ContactorRecord.time since (r.record t :: r.records)) : since ≤ t.now := by
  obtain ⟨recent, first, older, hsplit, rfl, hfirst, -⟩ := h
  have hmem : first ∈ r.record t :: r.records := by
    rw [hsplit]
    exact List.mem_append_right _ List.mem_cons_self
  cases first with
  | reset => exact hfirst.elim
  | tick earlier evaluated reported =>
    rcases List.mem_cons.mp hmem with hown | hold
    · obtain ⟨rfl, -, -⟩ := ContactorRecord.tick.inj hown
      exact le_rfl
    · exact hlater _ hold

/-- The condition of the newest record held only at a tick that was evaluated. -/
theorem suspects_of_record (h : (r.record t).Suspects fault) : r.Evaluates t ∧ t.suspects fault = true := by
  by_cases hev : r.Evaluates t
  · rw [record_of_evaluates hev] at h
    exact ⟨hev, h⟩
  · rw [record_of_not_evaluates hev] at h
    exact h.elim

/-- An evaluated tick times a condition from no later on than it has held. -/
theorem aged_of_held (hr : r.Faithful) (htimed : r.Timed) (hlater : r.Later (.tick t)) {since : ℚ}
    (h : HeldSince (·.Suspects fault) ContactorRecord.time since (r.record t :: r.records)) :
    ∃ armed, (r.vars.aged t).suspectedSince fault = some armed ∧ armed ≤ since := by
  obtain ⟨hev, hsuspects⟩ := suspects_of_record h.newest
  have harmed := r.vars.suspectedSince_of_suspects t hsuspects
  refine ⟨_, harmed, ?_⟩
  rcases h.older with rfl | hold
  · exact since_le_now hlater (held_of_evaluates hr hev fault _ harmed)
  · obtain ⟨before, hbefore, hle⟩ := htimed hev.2 fault since hold
    rwa [hbefore]

theorem suspectedSince_of_evaluates (hev : r.Evaluates t) (fault : ContactorFault) :
    (r.step (.tick t)).vars.suspectedSince fault = (r.vars.aged t).suspectedSince fault := by
  show (r.override t).1.suspectedSince fault = _
  cases hraised : r.vars.raised t with
  | none =>
    rw [override_of_not_raised hev hraised]
    cases fault <;> rfl
  | some raised =>
    rw [override_of_raised hev hraised, ContactorVars.rememberFault_eq]
    cases fault <;> rfl

theorem timed_step (hr : r.Faithful) (htimed : r.Timed) (event : ContactorEvent) (hlater : r.Later event) :
    (r.step event).Timed := by
  intro _ fault since h
  cases event with
  | tick t =>
    rw [suspectedSince_of_evaluates (suspects_of_record h.newest).1]
    exact aged_of_held hr htimed hlater h
  | reset => exact h.newest.elim

/-- A tick does what the records say. -/
theorem tickSound (hr : r.Faithful) (htimed : r.Timed) (hlater : r.Later (.tick t)) : r.TickSound t where
  reported := fun _ hreported => fault_of_suspected hreported
  held := by
    intro fault hfault
    obtain ⟨hev, hraised⟩ := raised_of_fault hfault
    obtain ⟨since, hsince, hdelay⟩ := r.vars.since_of_ripe t (r.vars.ripe_of_raised t hraised)
    have hheld := held_of_evaluates hr hev fault since hsince
    have hle : since ≤ t.now := since_le_now hlater hheld
    refine ⟨since, hheld, ?_⟩
    rwa [max_eq_right (sub_nonneg.mpr hle)] at hdelay
  reports := by
    intro fault since hheld hdelay
    obtain ⟨hev, hsuspects⟩ := suspects_of_record hheld.newest
    obtain ⟨armed, harmed, hle⟩ := aged_of_held hr htimed hlater hheld
    have hraised := r.vars.raised_of_since t hsuspects harmed (by linarith)
    exact (record_of_raised hev hraised).1
  counted := (faithful_tick hr).counts
  engaged := by
    intro fault
    constructor
    · intro hengaged
      by_cases hev : r.Evaluates t
      · cases hraised : r.vars.raised t with
        | none =>
          rw [record_of_evaluates hev, override_of_not_raised hev hraised] at hengaged
          nomatch hengaged
        | some raised =>
          obtain ⟨hfault, hengages⟩ := record_of_raised hev hraised
          rw [hengages] at hengaged
          split at hengaged
          · obtain rfl : raised = fault := Option.some.inj hengaged
            exact ⟨hfault, (engages_iff_due hr hev hraised).mp ‹_›⟩
          · nomatch hengaged
      · nomatch (records_of_not_evaluates hev).2.symm.trans hengaged
    · rintro ⟨hfault, hdue⟩
      obtain ⟨hev, hraised⟩ := raised_of_fault hfault
      rw [(record_of_raised hev hraised).2, if_pos ((engages_iff_due hr hev hraised).mpr hdue)]
  latched := by
    intro fault hlatched
    have hlockout : r.vars.lockoutReason = some fault := hr.lockout.trans hlatched
    constructor
    · intro hsafety
      rw [override_of_latched hsafety hlockout]
    · have hstays := (faithful_tick (t := t) hr).lockout
      rw [show (r.step (.tick t)).records = r.record t :: r.records from rfl, engagedFault_record, hlatched] at hstays
      exact hstays

theorem faithful_start : start.Faithful where
  counts := fun _ => rfl
  lockout := rfl
  active := fun _ => ⟨rfl, rfl⟩
  held := fun _ fault => by cases fault <;> exact nofun

end Step

/-- In every run of ticks at non-decreasing times and operator resets, each tick reports a fault exactly when its
condition held at every tick over the delay, counts each episode once, engages the lockout exactly when the
episode is due, and reports an engaged lockout until the reset, which clears every attribute. -/
theorem contactor_faults_latched (events : List ContactorEvent) (hclock : Along step Later start events) :
    Along step Sound start events := by
  have hkeeps : ∀ r event, Faithful r ∧ Timed r → r.Later event → (r.step event).Faithful ∧ (r.step event).Timed :=
    fun _ event hr hlater => ⟨faithful_step hr.1 event, timed_step hr.1 hr.2 event hlater⟩
  have hstart : start.Faithful ∧ start.Timed := ⟨faithful_start, fun _ _ _ ⟨_, _, _, hsplit, _⟩ => by simp [start] at hsplit⟩
  refine along_of_invariant hkeeps (fun r event hr hlater => ?_) hstart hclock
  cases event with
  | tick t => exact tickSound hr.1 hr.2 hlater
  | reset => rfl

/-- The relay is off, and the meter shows a load. -/
def loadWhileOff (now : ℚ) : ContactorTick := ⟨.default, none, none, false, ⟨false, 2300, 10, true⟩, now⟩

/-- The suspicion is reported after ten seconds, and latched when it has lasted a minute. -/
theorem contactor_faults_latched_welded :
    Along step Sound start
      [.tick (loadWhileOff 0), .tick (loadWhileOff 10), .tick (loadWhileOff 70), .tick (loadWhileOff 71), .reset] :=
  contactor_faults_latched _ (by decide +kernel)

end ContactorRun

end VenusEvcharger
