import VenusEvcharger.Library.Run
import VenusEvcharger.Python.Value

/-!
# The oscillation lockout of the ESS bias

`_victron_ess_balance_note_action_direction` records an action when its direction differs from the last one,
or when nothing is recorded. Records older than the window are dropped, and the number of changes is taken to
be the number of records less one. So the first record counts as no change: right while it began the records
without a change, and one change too few once it has left the window. `lockout_counts_iff` says when.

Scope: times and settings are finite. The reset of the integral is left to the controller.
-/

namespace VenusEvcharger

open Library

/-! ## Noting an action -/

/-- `more_export` and `less_export`. -/
inductive ExportDirection where
  | moreExport
  | lessExport
deriving DecidableEq

/-- `raw_action`: the stripped text, unless it is none of the two directions. -/
def exportDirection (actionDirection : String) : Option ExportDirection :=
  if strip actionDirection = "more_export" then some .moreExport
  else if strip actionDirection = "less_export" then some .lessExport
  else none

/-- An entry of `_victron_ess_balance_recent_action_changes`. -/
structure ActionChange where
  time : ℚ
  direction : ExportDirection

/-- The settings of the lockout as they are configured; a missing one and zero mean the default. -/
structure OscillationConfig where
  lockoutEnabled : Bool
  windowSeconds : Option ℚ
  minDirectionChanges : Option Int
  durationSeconds : Option ℚ

namespace OscillationConfig

section

variable (cfg : OscillationConfig)

/-- `_victron_ess_balance_direction_change_window_seconds`. -/
def window : ℚ := max 0 ((cfg.windowSeconds.filter (· ≠ 0)).getD 120)

/-- `min_direction_changes`. -/
def threshold : Int := max 1 ((cfg.minDirectionChanges.filter (· ≠ 0)).getD 3)

/-- `_victron_ess_balance_oscillation_lockout_duration_seconds`. -/
def duration : ℚ := max 0 ((cfg.durationSeconds.filter (· ≠ 0)).getD 180)

/-- `_victron_ess_balance_should_enter_oscillation_lockout`. -/
def shouldEnter (directionChangeCount : Nat) : Bool :=
  cfg.lockoutEnabled && decide (cfg.threshold ≤ directionChangeCount)

theorem window_nonneg : 0 ≤ cfg.window := le_max_left _ _

theorem threshold_pos : 1 ≤ cfg.threshold := le_max_left _ _

end

end OscillationConfig

/-- The service attributes of the lockout. -/
structure OscillationVars where
  recentActionChanges : List ActionChange
  lastActionDirection : Option ExportDirection
  lockoutUntil : Option ℚ

namespace OscillationVars

/-- The attributes at start. -/
def initial : OscillationVars := ⟨[], none, none⟩

/-- `_victron_ess_balance_recent_direction_change_count`. -/
def recentDirectionChangeCount (v : OscillationVars) (cfg : OscillationConfig) (now : ℚ) :
    OscillationVars × Nat :=
  let kept := v.recentActionChanges.filter fun entry => decide (now - cfg.window ≤ entry.time)
  ({ v with recentActionChanges := kept }, kept.length - 1)

/-- `_victron_ess_balance_note_action_direction` of a directed action. -/
def noteDirection (v : OscillationVars) (cfg : OscillationConfig) (rawAction : ExportDirection) (now : ℚ) :
    OscillationVars × Nat :=
  let entries :=
    if v.recentActionChanges = [] ∨ v.lastActionDirection ≠ some rawAction then
      v.recentActionChanges ++ [⟨now, rawAction⟩]
    else v.recentActionChanges
  let (v, directionChangeCount) :=
    { v with recentActionChanges := entries, lastActionDirection := some rawAction }.recentDirectionChangeCount
      cfg now
  if cfg.shouldEnter directionChangeCount then
    ({ v with lockoutUntil := some (now + cfg.duration) }, directionChangeCount)
  else (v, directionChangeCount)

/-- `_victron_ess_balance_note_action_direction`. -/
def noteActionDirection (v : OscillationVars) (cfg : OscillationConfig) (actionDirection : String) (now : ℚ) :
    OscillationVars × Nat :=
  match exportDirection actionDirection with
  | none => v.recentDirectionChangeCount cfg now
  | some rawAction => v.noteDirection cfg rawAction now

/-- `_victron_ess_balance_oscillation_lockout_active`. -/
def lockoutActive (v : OscillationVars) (now : ℚ) : Bool := v.lockoutUntil.any fun lockoutUntil => decide (now < lockoutUntil)

end OscillationVars

/-! ## What the notes mean -/

/-- A call that notes an action. -/
structure ActionNote where
  action : String
  now : ℚ

/-- The direction of the newest directed note; the newest note stands first. -/
def lastDirection : List ActionNote → Option ExportDirection
  | [] => none
  | note :: older => (exportDirection note.action).or (lastDirection older)

/-- The note changes from one of the two directions to the other. -/
def ActionNote.changes (note : ActionNote) (older : List ActionNote) : Bool :=
  match exportDirection note.action, lastDirection older with
  | some d, some last => decide (last ≠ d)
  | _, _ => false

/-- The times of the changes, the oldest first. -/
def changeTimes : List ActionNote → List ℚ
  | [] => []
  | note :: older => changeTimes older ++ if note.changes older then [note.now] else []

/-- The changes in the trailing window of the newest note. -/
def recentChanges (window : ℚ) (notes : List ActionNote) : List ℚ :=
  (changeTimes notes).filter fun t => notes.head?.all fun note => decide (note.now - window ≤ t)

/-- The time of the action that began the records without a change, while the window holds it. -/
def anchor (window : ℚ) : List ActionNote → Option ℚ
  | [] => none
  | note :: older =>
    if (exportDirection note.action).isSome ∧ note.changes older = false ∧ anchor window older = none ∧
        recentChanges window older = [] then some note.now
    else (anchor window older).filter fun t => decide (note.now - window ≤ t)

/-! ## Runs -/

/-- The attributes with the notes so far, the newest first, and the times at which the lockout was engaged. -/
structure OscillationRun where
  vars : OscillationVars
  notes : List ActionNote
  engagedAt : List ℚ

namespace OscillationRun

/-- Nothing is noted. -/
def start : OscillationRun := ⟨.initial, [], []⟩

section Config

variable (cfg : OscillationConfig)

/-- The note engages the lockout. -/
def Engages (r : OscillationRun) (note : ActionNote) : Prop :=
  (exportDirection note.action).isSome ∧
    cfg.shouldEnter (r.vars.noteActionDirection cfg note.action note.now).2 = true

instance (r : OscillationRun) (note : ActionNote) : Decidable (r.Engages cfg note) :=
  inferInstanceAs (Decidable (_ ∧ _))

/-- The run after a note. -/
def step (r : OscillationRun) (note : ActionNote) : OscillationRun where
  vars := (r.vars.noteActionDirection cfg note.action note.now).1
  notes := note :: r.notes
  engagedAt := if r.Engages cfg note then note.now :: r.engagedAt else r.engagedAt

theorem step_vars (r : OscillationRun) (note : ActionNote) :
    (r.step cfg note).vars = (r.vars.noteActionDirection cfg note.action note.now).1 := rfl

theorem mem_step_engagedAt {r : OscillationRun} {note : ActionNote} {t : ℚ} :
    t ∈ (r.step cfg note).engagedAt ↔ t ∈ if r.Engages cfg note then note.now :: r.engagedAt else r.engagedAt := Iff.rfl

/-- The clock does not run backwards. -/
def Later (r : OscillationRun) (note : ActionNote) : Prop := ∀ last ∈ r.notes.head?, last.now ≤ note.now

instance (r : OscillationRun) (note : ActionNote) : Decidable (r.Later note) := by
  unfold Later
  infer_instance

/-- A directed note engages the lockout exactly when the trailing window holds at least the threshold of
changes, and every lockout that was engaged is active before its end. -/
def CountsChanges (r : OscillationRun) (note : ActionNote) : Prop :=
  ((exportDirection note.action).isSome →
    (r.Engages cfg note ↔ cfg.threshold ≤ (recentChanges cfg.window (note :: r.notes)).length)) ∧
  ∀ engagedAt ∈ (r.step cfg note).engagedAt, ∀ t, t < engagedAt + cfg.duration →
    (r.step cfg note).vars.lockoutActive t = true

/-- The window of a directed note holds just the threshold of changes, and not the action that began the
records without a change. -/
def MissesChange (r : OscillationRun) (note : ActionNote) : Prop :=
  (exportDirection note.action).isSome ∧
    (recentChanges cfg.window (note :: r.notes)).length = cfg.threshold ∧
    anchor cfg.window (note :: r.notes) = none

instance (r : OscillationRun) (note : ActionNote) : Decidable (r.MissesChange cfg note) :=
  inferInstanceAs (Decidable (_ ∧ _ ∧ _))

/-- What holds between the notes of a run. -/
structure Faithful (r : OscillationRun) : Prop where
  direction : r.vars.lastActionDirection = lastDirection r.notes
  records : r.vars.recentActionChanges.map (·.time) =
    (anchor cfg.window r.notes).toList ++ recentChanges cfg.window r.notes
  engaged : ∀ engagedAt ∈ r.engagedAt, ∃ last ∈ r.notes.head?, engagedAt ≤ last.now
  standing : ∀ engagedAt ∈ r.engagedAt, ∃ lockoutUntil, r.vars.lockoutUntil = some lockoutUntil ∧
    engagedAt + cfg.duration ≤ lockoutUntil

end Config

/-! ## One note -/

section Step

variable {cfg : OscillationConfig} {r : OscillationRun} {note : ActionNote}

/-- A later window does not notice what an earlier one dropped. -/
theorem filter_later {first second : ℚ} (hle : first ≤ second) (times : List ℚ) :
    (times.filter fun t => decide (first ≤ t)).filter (fun t => decide (second ≤ t)) =
      times.filter fun t => decide (second ≤ t) := by
  rw [List.filter_filter]
  refine List.filter_congr fun t _ => ?_
  rw [Bool.and_eq_left_iff_imp, decide_eq_true_eq, decide_eq_true_eq]
  exact hle.trans

/-- The changes in the window of a new note: those of the earlier window that are still in it, and its own. -/
theorem recentChanges_cons (hlater : r.Later note) :
    recentChanges cfg.window (note :: r.notes) =
      ((recentChanges cfg.window r.notes).filter fun t => decide (note.now - cfg.window ≤ t)) ++
        if note.changes r.notes then [note.now] else [] := by
  have hold : (changeTimes r.notes).filter (fun t => decide (note.now - cfg.window ≤ t)) =
      (recentChanges cfg.window r.notes).filter fun t => decide (note.now - cfg.window ≤ t) := by
    unfold recentChanges
    cases hnotes : r.notes with
    | nil => rfl
    | cons last older =>
      have hle : last.now ≤ note.now := hlater last (by rw [hnotes]; rfl)
      exact (filter_later (sub_le_sub_right hle cfg.window) _).symm
  show ((changeTimes r.notes ++ _).filter fun t => decide (note.now - cfg.window ≤ t)) = _
  rw [List.filter_append, hold]
  refine congrArg (List.append _) ?_
  split
  · simp [cfg.window_nonneg]
  · rfl

/-- Without a directed note nothing has changed and nothing began the records. -/
theorem nothing_noted (window : ℚ) {notes : List ActionNote} (hnone : lastDirection notes = none) :
    changeTimes notes = [] ∧ anchor window notes = none := by
  induction notes with
  | nil => exact ⟨rfl, rfl⟩
  | cons note older ih =>
    obtain ⟨hundirected, holder⟩ := Option.or_eq_none_iff.mp hnone
    obtain ⟨htimes, hanchor⟩ := ih holder
    have hsame : note.changes older = false := by rw [ActionNote.changes, hundirected]
    constructor
    · rw [changeTimes, htimes, hsame]
      rfl
    · rw [anchor, hanchor, hundirected]
      rfl

theorem recorded_iff (hf : r.Faithful cfg) {d : ExportDirection} (hd : exportDirection note.action = some d) :
    (r.vars.recentActionChanges = [] ∨ r.vars.lastActionDirection ≠ some d) ↔
      note.changes r.notes = true ∨ anchor cfg.window r.notes = none ∧ recentChanges cfg.window r.notes = [] := by
  have hempty : r.vars.recentActionChanges = [] ↔
      anchor cfg.window r.notes = none ∧ recentChanges cfg.window r.notes = [] := by
    rw [← List.map_eq_nil_iff (f := (·.time)), hf.records, List.append_eq_nil_iff, Option.toList_eq_nil_iff]
  rw [hf.direction, hempty, ActionNote.changes, hd]
  cases hlast : lastDirection r.notes with
  | some last => simp [or_comm]
  | none =>
    -- without a directed note there is nothing that could be recorded
    obtain ⟨htimes, hanchor⟩ := nothing_noted cfg.window hlast
    have hrecent : recentChanges cfg.window r.notes = [] := by
      rw [recentChanges, htimes]
      rfl
    simp [hanchor, hrecent]

theorem kept_times (cutoff : ℚ) (entries : List ActionChange) :
    (entries.filter fun entry => decide (cutoff ≤ entry.time)).map (·.time) =
      (entries.map (·.time)).filter fun t => decide (cutoff ≤ t) := by
  rw [List.filter_map]
  rfl

/-- What a directed action does, the lockout apart. -/
theorem noteDirection_spec (v : OscillationVars) (d : ExportDirection) (now : ℚ) :
    (v.noteDirection cfg d now).1.lastActionDirection = some d ∧
    (v.noteDirection cfg d now).1.recentActionChanges =
      (if v.recentActionChanges = [] ∨ v.lastActionDirection ≠ some d then v.recentActionChanges ++ [⟨now, d⟩]
        else v.recentActionChanges).filter (fun entry => decide (now - cfg.window ≤ entry.time)) ∧
    (v.noteDirection cfg d now).2 = (v.noteDirection cfg d now).1.recentActionChanges.length - 1 := by
  unfold OscillationVars.noteDirection
  dsimp only [OscillationVars.recentDirectionChangeCount]
  generalize (if v.recentActionChanges = [] ∨ v.lastActionDirection ≠ some d then v.recentActionChanges ++ [⟨now, d⟩]
    else v.recentActionChanges) = entries
  split
  · exact ⟨rfl, rfl, rfl⟩
  · exact ⟨rfl, rfl, rfl⟩

/-- What a directed action does to the lockout. -/
theorem noteDirection_lockoutUntil (v : OscillationVars) (d : ExportDirection) (now : ℚ) :
    (v.noteDirection cfg d now).1.lockoutUntil =
      if cfg.shouldEnter (v.noteDirection cfg d now).2 then some (now + cfg.duration) else v.lockoutUntil := by
  unfold OscillationVars.noteDirection
  dsimp only [OscillationVars.recentDirectionChangeCount]
  generalize (if v.recentActionChanges = [] ∨ v.lastActionDirection ≠ some d then v.recentActionChanges ++ [⟨now, d⟩]
    else v.recentActionChanges) = entries
  by_cases henter : cfg.shouldEnter
      ((entries.filter fun entry => decide (now - cfg.window ≤ entry.time)).length - 1) = true
  · simp only [if_pos henter]
  · simp only [if_neg henter]

theorem records_after (hf : r.Faithful cfg) (hlater : r.Later note) :
    (r.step cfg note).vars.recentActionChanges.map (·.time) =
      (anchor cfg.window (note :: r.notes)).toList ++ recentChanges cfg.window (note :: r.notes) := by
  have hstays : ∀ o : Option ℚ, (o.filter fun t => decide (note.now - cfg.window ≤ t)).toList =
      o.toList.filter fun t => decide (note.now - cfg.window ≤ t) := by
    intro o
    cases o with
    | none => rfl
    | some t =>
      rw [Option.filter_some, Option.toList_some, List.filter_singleton]
      cases decide (note.now - cfg.window ≤ t) <;> rfl
  have hkept : (r.vars.recentActionChanges.map (·.time)).filter (fun t => decide (note.now - cfg.window ≤ t)) =
      ((anchor cfg.window r.notes).filter fun t => decide (note.now - cfg.window ≤ t)).toList ++
        (recentChanges cfg.window r.notes).filter fun t => decide (note.now - cfg.window ≤ t) := by
    rw [hf.records, List.filter_append, hstays]
  have hown : ([note.now].filter fun t => decide (note.now - cfg.window ≤ t)) = [note.now] := by
    simp [cfg.window_nonneg]
  rw [recentChanges_cons hlater, anchor]
  rw [step_vars]
  unfold OscillationVars.noteActionDirection
  cases hd : exportDirection note.action with
  | none =>
    -- an undirected action only drops what left the window
    have hsame : note.changes r.notes = false := by rw [ActionNote.changes, hd]
    rw [hsame, if_neg (by simp), if_neg (by simp), List.append_nil, ← hkept]
    exact kept_times _ _
  | some d =>
    dsimp only
    rw [(noteDirection_spec r.vars d note.now).2.1, kept_times]
    by_cases hrecord : r.vars.recentActionChanges = [] ∨ r.vars.lastActionDirection ≠ some d
    · rw [if_pos hrecord, List.map_append, List.filter_append]
      show _ ++ ([note.now].filter fun t => decide (note.now - cfg.window ≤ t)) = _
      rw [hown, hkept]
      cases hchange : note.changes r.notes with
      | true => simp
      | false =>
        -- the action begins the records
        have hbegins := ((recorded_iff hf hd).mp hrecord).resolve_left (by simp [hchange])
        simp [hbegins]
    · have hnot := mt (recorded_iff hf hd).mpr hrecord
      rw [not_or, Bool.not_eq_true] at hnot
      rw [if_neg hrecord, hkept, if_neg (fun h => hnot.2 h.2.2), hnot.1]
      simp

/-- The direction is the one of the newest directed note. -/
theorem direction_after (hf : r.Faithful cfg) :
    (r.step cfg note).vars.lastActionDirection = lastDirection (note :: r.notes) := by
  rw [step_vars, lastDirection]
  unfold OscillationVars.noteActionDirection
  cases hd : exportDirection note.action with
  | none => exact hf.direction
  | some d => exact (noteDirection_spec r.vars d note.now).1

/-- A note that engages the lockout sets its end, and no other note moves it. -/
theorem lockoutUntil_after :
    (r.step cfg note).vars.lockoutUntil =
      if r.Engages cfg note then some (note.now + cfg.duration) else r.vars.lockoutUntil := by
  rw [step_vars]
  cases hd : exportDirection note.action with
  | none =>
    have hnot : ¬ r.Engages cfg note := by
      rintro ⟨hdirected, -⟩
      rw [hd] at hdirected
      exact absurd hdirected (by decide)
    have hsame : r.vars.noteActionDirection cfg note.action note.now =
        r.vars.recentDirectionChangeCount cfg note.now := by
      unfold OscillationVars.noteActionDirection
      rw [hd]
    rw [if_neg hnot, hsame]
    rfl
  | some d =>
    have hsame : r.vars.noteActionDirection cfg note.action note.now = r.vars.noteDirection cfg d note.now := by
      unfold OscillationVars.noteActionDirection
      rw [hd]
    have hengages : r.Engages cfg note ↔ cfg.shouldEnter (r.vars.noteDirection cfg d note.now).2 = true := by
      unfold Engages
      rw [hsame, hd]
      exact and_iff_right rfl
    rw [hsame, noteDirection_lockoutUntil]
    exact (if_congr hengages rfl rfl).symm

/-- A note keeps what holds between the notes. -/
theorem faithful_step (hf : r.Faithful cfg) (hlater : r.Later note) : (r.step cfg note).Faithful cfg where
  direction := direction_after hf
  records := records_after hf hlater
  engaged := by
    intro engagedAt hmem
    refine ⟨note, rfl, ?_⟩
    have hold : engagedAt ∈ r.engagedAt → engagedAt ≤ note.now := by
      intro h
      obtain ⟨last, hlast, hle⟩ := hf.engaged engagedAt h
      exact hle.trans (hlater last hlast)
    rw [mem_step_engagedAt] at hmem
    split at hmem
    · rcases List.mem_cons.mp hmem with heq | h
      · exact heq.le
      · exact hold h
    · exact hold hmem
  standing := by
    intro engagedAt hmem
    rw [lockoutUntil_after]
    rw [mem_step_engagedAt] at hmem
    split at hmem
    · refine ⟨note.now + cfg.duration, if_pos ‹_›, ?_⟩
      rcases List.mem_cons.mp hmem with heq | h
      · exact add_le_add_left heq.le _
      · obtain ⟨last, hlast, hle⟩ := hf.engaged engagedAt h
        exact add_le_add_left (hle.trans (hlater last hlast)) _
    · rw [if_neg ‹_›]
      exact hf.standing engagedAt hmem

theorem active_of_engaged (hf : r.Faithful cfg) {engagedAt t : ℚ} (hmem : engagedAt ∈ r.engagedAt)
    (ht : t < engagedAt + cfg.duration) : r.vars.lockoutActive t = true := by
  obtain ⟨lockoutUntil, hsome, hle⟩ := hf.standing engagedAt hmem
  rw [OscillationVars.lockoutActive, hsome]
  exact decide_eq_true (ht.trans_le hle)

/-- A directed note engages the lockout when the records, less one, reach the threshold. -/
theorem engages_iff (hf : r.Faithful cfg) (hlater : r.Later note) (hon : cfg.lockoutEnabled = true)
    (hdirected : (exportDirection note.action).isSome) :
    r.Engages cfg note ↔
      cfg.threshold + 1 ≤ (anchor cfg.window (note :: r.notes)).toList.length +
        (recentChanges cfg.window (note :: r.notes)).length := by
  obtain ⟨d, hd⟩ := Option.isSome_iff_exists.mp hdirected
  have hrecords := congrArg List.length (records_after hf hlater)
  rw [List.length_map, List.length_append] at hrecords
  have hcount : (r.vars.noteActionDirection cfg note.action note.now).2 =
      (r.step cfg note).vars.recentActionChanges.length - 1 := by
    rw [step_vars]
    unfold OscillationVars.noteActionDirection
    rw [hd]
    exact (noteDirection_spec r.vars d note.now).2.2
  have hpos := cfg.threshold_pos
  unfold Engages OscillationConfig.shouldEnter
  rw [hcount, hrecords, hon, Bool.true_and, decide_eq_true_eq]
  refine ⟨fun h => ?_, fun h => ⟨hdirected, ?_⟩⟩
  · have := h.2
    omega
  · omega

/-- A note counts the changes unless the threshold is just reached without the action that began the
records. -/
theorem countsChanges_iff (hon : cfg.lockoutEnabled = true) (hf : r.Faithful cfg) (hlater : r.Later note) :
    r.CountsChanges cfg note ↔ ¬ r.MissesChange cfg note := by
  have hactive : ∀ engagedAt ∈ (r.step cfg note).engagedAt, ∀ t, t < engagedAt + cfg.duration →
      (r.step cfg note).vars.lockoutActive t = true :=
    fun _ hmem _ ht => active_of_engaged (faithful_step hf hlater) hmem ht
  unfold CountsChanges MissesChange
  rw [and_iff_left hactive]
  by_cases hdirected : (exportDirection note.action).isSome = true
  · rw [engages_iff hf hlater hon hdirected]
    cases hanchor : anchor cfg.window (note :: r.notes) with
    | none =>
      simp only [hdirected, forall_const, Option.toList_none, List.length_nil, true_and, and_true]
      omega
    | some t =>
      simp only [hdirected, forall_const, Option.toList_some, List.length_singleton, reduceCtorEq, and_false,
        not_false_eq_true, iff_true]
      omega
  · simp [hdirected]

theorem faithful_start : start.Faithful cfg where
  direction := rfl
  records := rfl
  engaged := nofun
  standing := nofun

end Step

/-- While the clock does not run backwards and the lockout is enabled, it is engaged at exactly the directed
actions with at least the threshold of changes in their window, in every run in which no action just reaches
the threshold without the action that began the records. -/
theorem lockout_counts_iff (cfg : OscillationConfig) (hon : cfg.lockoutEnabled = true) (notes : List ActionNote)
    (hclock : Along (step cfg) Later start notes) :
    Along (step cfg) (CountsChanges cfg) start notes ↔
      Along (step cfg) (fun r note => ¬ r.MissesChange cfg note) start notes :=
  along_iff_of_permitted (fun _ _ hf hlater => faithful_step hf hlater)
    (fun _ _ hf hlater => countsChanges_iff hon hf hlater) faithful_start hclock

/-- Two seconds of window and a threshold of two changes. -/
def shortWindow : OscillationConfig := ⟨true, some 2, some 2, none⟩

/-- One direction after the other, one in each second. -/
def alternating : List ActionNote :=
  [⟨"more_export", 0⟩, ⟨"less_export", 1⟩, ⟨"more_export", 2⟩]

/-- The first action and two changes are in the window. -/
theorem lockout_counts_alternating : Along (step shortWindow) (CountsChanges shortWindow) start alternating :=
  (lockout_counts_iff shortWindow rfl alternating (by decide +kernel)).mpr (by decide +kernel)

/-- One second later the window still holds two changes, but it has lost the first action; the action is the
second of two changes and does not engage the lockout. -/
theorem lockout_misses_change :
    ¬ Along (step shortWindow) (CountsChanges shortWindow) start
      [⟨"more_export", 0⟩, ⟨"less_export", 3⟩, ⟨"more_export", 4⟩] := by
  intro h
  have hlast := (along_cons.mp (along_cons.mp (along_cons.mp h).2).2).1.1
  have hengages := (hlast (by decide)).mpr (by decide +kernel)
  exact absurd hengages (by decide +kernel)

end OscillationRun

end VenusEvcharger
