import VenusEvcharger.Library.Sweep
import VenusEvcharger.State.Normalizer
import Mathlib.Data.Finset.Basic

/-!
# The switch group

A switch group is one logical switch made of single-phase child switches, one for each phase. `set_phase_selection`
stores which phases the next enable uses, and `set_enabled` commands every member in the order of the phases: it
enables the members of the selection and disables the others. A command may raise, and the exception leaves the loop.

What a member reports is the state it was last left in. After a call that returns, the group reads back what was
commanded (`read_after_return`); when a call raises, the members behind the one that raised are not commanded
(`fail_safe_iff`).
-/

namespace VenusEvcharger.Backend

open Library

/-- `_PHASE_LABELS`. -/
inductive Phase where
  | p1
  | p2
  | p3
  deriving DecidableEq

def Phase.labels : List Phase := [.p1, .p2, .p3]

/-- `_PHASE_SELECTION_MEMBERS`. -/
def phaseSelectionMembers : PhaseSelection → List Phase
  | .p1 => [.p1]
  | .p1p2 => [.p1, .p2]
  | .p1p2p3 => [.p1, .p2, .p3]

/-! ## Settings -/

/-- `_normalized_phase_label`. -/
def normalizedPhaseLabel (rawKey : String) : Option Phase :=
  match State.upper (strip rawKey) with
  | "P1" => some .p1
  | "P2" => some .p2
  | "P3" => some .p3
  | _ => none

/-- `_required_phase_label`. -/
def requiredPhaseLabel (rawKey : String) : Except String Phase :=
  match normalizedPhaseLabel rawKey with
  | none => .error ("Unsupported switch-group member key '" ++ rawKey ++ "'")
  | some label => .ok label

/-- The labels of `phase_members` after `_validate_phase_members`. -/
structure PhaseMembers where
  members : List Phase
  p1_mem : .p1 ∈ members
  p2_mem : .p3 ∈ members → .p2 ∈ members

/-- `_phase_members`, of which only the labels are used by the group's commands. -/
def phaseMembers (rawKeys : List String) : Except String PhaseMembers := do
  let labels ← rawKeys.mapM requiredPhaseLabel
  if h1 : .p1 ∈ labels then
    if h2 : .p3 ∈ labels → .p2 ∈ labels then return ⟨labels, h1, h2⟩
    else throw "Switch group requires P2 when P3 is configured"
  else throw "Switch group requires a member config for P1"

/-- `_available_supported_phase_selections`. -/
def availableSupportedPhaseSelections (phaseMembers : PhaseMembers) : List PhaseSelection :=
  if .p2 ∉ phaseMembers.members then [.p1]
  else if .p3 ∉ phaseMembers.members then [.p1, .p1p2]
  else [.p1, .p1p2, .p1p2p3]

theorem members_of_available {phaseMembers : PhaseMembers} {selection : PhaseSelection}
    (h : selection ∈ availableSupportedPhaseSelections phaseMembers) :
    ∀ p ∈ phaseSelectionMembers selection, p ∈ phaseMembers.members := by
  have hp1 := phaseMembers.p1_mem
  unfold availableSupportedPhaseSelections at h
  split at h
  · simp only [List.mem_singleton] at h
    subst h
    simpa [phaseSelectionMembers] using hp1
  · rename_i hp2
    have hp2 := not_not.mp hp2
    split at h
    · simp only [List.mem_cons, List.not_mem_nil, or_false] at h
      rcases h with rfl | rfl <;> simp [phaseSelectionMembers, hp1, hp2]
    · rename_i hp3
      have hp3 := not_not.mp hp3
      simp only [List.mem_cons, List.not_mem_nil, or_false] at h
      rcases h with rfl | rfl | rfl <;> simp [phaseSelectionMembers, hp1, hp2, hp3]

/-- The settings of a group as far as its commands use them. -/
structure SwitchGroupSettings where
  phaseMembers : PhaseMembers
  supportedPhaseSelections : List PhaseSelection
  p1_mem : .p1 ∈ supportedPhaseSelections
  available : ∀ selection ∈ supportedPhaseSelections, selection ∈ availableSupportedPhaseSelections phaseMembers

/-- `normalize_phase_selection_tuple` of the configured text. -/
def requestedPhaseSelections (raw : String) (default : List PhaseSelection) : List PhaseSelection :=
  let text := strip raw
  if text = "" then default
  else (text.splitOn ",").map fun part =>
    (State.phaseSelectionAliases.lookup (State.upper (strip part))).getD .p1

/-- `load_switch_group_settings` for the keys of `[Members]` and the text of `SupportedPhaseSelections`. -/
def loadSwitchGroupSettings (rawKeys : List String) (rawRequested : Option String) :
    Except String SwitchGroupSettings := do
  let phaseMembers ← phaseMembers rawKeys
  let available := availableSupportedPhaseSelections phaseMembers
  let requested := rawRequested.elim available fun raw => requestedPhaseSelections raw available
  match hfind : requested.find? (· ∉ available) with
  | some selection =>
    throw ("Switch group requested unsupported phase selection '" ++ State.phaseText selection ++
      "' for configured members")
  | none =>
    -- every selection once, at its first place
    let normalized := requested.reverse.dedup.reverse
    if h : .p1 ∈ normalized then
      return ⟨phaseMembers, normalized, h, fun selection hselection => by
        have hrequested : selection ∈ requested := by simpa [normalized] using hselection
        simpa using List.find?_eq_none.mp hfind selection hrequested⟩
    else throw "Switch group SupportedPhaseSelections must include P1"

/-! ## Commands -/

/-- The group: its settings, the stored selection, and the state that each member was last left in. -/
structure SwitchGroup where
  settings : SwitchGroupSettings
  selectedPhaseSelection : PhaseSelection
  on : Phase → Bool
  selected_mem : selectedPhaseSelection ∈ settings.supportedPhaseSelections

/-- A new group over devices in any state. -/
def SwitchGroup.init (settings : SwitchGroupSettings) (on : Phase → Bool) : SwitchGroup where
  settings := settings
  selectedPhaseSelection := settings.supportedPhaseSelections.head (List.ne_nil_of_mem settings.p1_mem)
  on := on
  selected_mem := List.head_mem _

namespace SwitchGroup

/-- `_phase_labels`. -/
def phaseLabels (group : SwitchGroup) : List Phase :=
  Phase.labels.filter (· ∈ group.settings.phaseMembers.members)

/-- What the members do with a command, given as its flag. -/
abbrev Responses := Phase → Bool → Response Bool

/-- The flag that `set_enabled` sends to a member. -/
def desired (group : SwitchGroup) (enabled : Bool) (label : Phase) : Bool :=
  enabled && decide (label ∈ phaseSelectionMembers group.selectedPhaseSelection)

/-- The loop of `set_enabled`. -/
def setEnabled (group : SwitchGroup) (enabled : Bool) (responses : Responses) : Swept Phase Bool :=
  sweep (group.desired enabled) (fun label => responses label (group.desired enabled label)) group.phaseLabels group.on

/-- A call of the service, with what the members do with their commands. -/
inductive Call where
  | setPhaseSelection (selection : PhaseSelection)
  | setEnabled (enabled : Bool) (responses : Responses)

/-- The group after a call, whether it returned or raised. -/
def step (group : SwitchGroup) : Call → SwitchGroup
  | .setPhaseSelection selection =>
    -- an unsupported selection raises before it is stored
    if h : selection ∈ group.settings.supportedPhaseSelections then
      { group with selectedPhaseSelection := selection, selected_mem := h }
    else group
  | .setEnabled enabled responses => { group with on := (group.setEnabled enabled responses).state }

/-- The group after a sequence of calls. -/
def run (group : SwitchGroup) (calls : List Call) : SwitchGroup := calls.foldl step group

end SwitchGroup

/-! ## Reading -/

/-- A child state as far as the group reads it, and the state of the group. -/
structure SwitchState where
  enabled : Bool
  phaseSelection : PhaseSelection
  feedbackClosed : Option Bool
  interlockOk : Option Bool

/-- `_aggregate_feedback_closed`. -/
def aggregateFeedbackClosed (labels : List Phase) (states : Phase → SwitchState) (activeLabels : Finset Phase) :
    Option Bool :=
  let explicit := labels.filterMap fun label => (states label).feedbackClosed.map fun closed => (label, closed)
  if explicit = [] then none
  else if explicit.any fun (label, closed) => closed != decide (label ∈ activeLabels) then some false
  else if explicit.length ≠ labels.length then none
  else some (decide (activeLabels ≠ ∅))

/-- `_aggregate_interlock_ok`. -/
def aggregateInterlockOk (labels : List Phase) (states : Phase → SwitchState) : Option Bool :=
  let explicit := labels.filterMap fun label => (states label).interlockOk
  if explicit = [] then none
  else if !explicit.all id then some false
  else if explicit.length ≠ labels.length then none
  else some true

namespace SwitchGroup

variable (group : SwitchGroup)

/-- `_phase_selection_from_active_labels`. -/
def phaseSelectionFromActiveLabels (activeLabels : Finset Phase) : PhaseSelection :=
  if activeLabels = ∅ then group.selectedPhaseSelection
  else
    (group.settings.supportedPhaseSelections.reverse.find? fun selection =>
      (phaseSelectionMembers selection).toFinset = activeLabels).getD group.selectedPhaseSelection

/-- `read_switch_state`, with what the members report. -/
def readSwitchState (states : Phase → SwitchState) : SwitchState :=
  let activeLabels := (group.phaseLabels.filter fun label => (states label).enabled).toFinset
  { enabled := decide (activeLabels ≠ ∅)
    phaseSelection := group.phaseSelectionFromActiveLabels activeLabels
    feedbackClosed := aggregateFeedbackClosed group.phaseLabels states activeLabels
    interlockOk := aggregateInterlockOk group.phaseLabels states }

/-- The members report the state they were left in. -/
def Reports (states : Phase → SwitchState) : Prop := ∀ label ∈ group.phaseLabels, (states label).enabled = group.on label

/-! ## After a call that returns -/

variable {group}

variable {label : Phase}

theorem mem_phaseLabels : label ∈ group.phaseLabels ↔ label ∈ group.settings.phaseMembers.members := by
  rw [phaseLabels, List.mem_filter]
  cases label <;> simp [Phase.labels]

variable (group) in
theorem nodup_phaseLabels : group.phaseLabels.Nodup := List.Nodup.filter _ (by decide)

/-- The phases of the selection are configured. -/
theorem selected_subset (h : label ∈ phaseSelectionMembers group.selectedPhaseSelection) :
    label ∈ group.phaseLabels :=
  mem_phaseLabels.mpr (members_of_available (group.settings.available _ group.selected_mem) _ h)

/-- Selections are told apart by their phases. -/
theorem phaseSelectionMembers_injective {a b : PhaseSelection}
    (h : (phaseSelectionMembers a).toFinset = (phaseSelectionMembers b).toFinset) : a = b := by
  revert h
  cases a <;> cases b <;> decide

/-- A selection is recognized by its phases. -/
theorem phaseSelectionFromActiveLabels_selected :
    group.phaseSelectionFromActiveLabels (phaseSelectionMembers group.selectedPhaseSelection).toFinset =
      group.selectedPhaseSelection := by
  rw [phaseSelectionFromActiveLabels]
  split
  · rfl
  · cases hfind : group.settings.supportedPhaseSelections.reverse.find? fun selection =>
        (phaseSelectionMembers selection).toFinset = (phaseSelectionMembers group.selectedPhaseSelection).toFinset with
    | none => rfl
    | some selection =>
      have hsame := List.find?_some hfind
      exact phaseSelectionMembers_injective (of_decide_eq_true hsame)

variable {enabled : Bool} {responses : Responses}

section

variable (h : (group.setEnabled enabled responses).raisedBy = none)
include h

/-- Every member is in its desired state after a `set_enabled` that returns. -/
theorem on_of_returned
    (hlabel : label ∈ group.phaseLabels) : (group.setEnabled enabled responses).state label = group.desired enabled label := by
  have haccepts := raisedBy_eq_none.mp h
  refine state_of_commanded group.nodup_phaseLabels (mem_commanded.mpr ?_)
  obtain ⟨front, rest, heq⟩ := List.append_of_mem hlabel
  refine ⟨front, rest, heq, ?_, haccepts label hlabel⟩
  intro p hp
  refine haccepts p ?_
  rw [heq]
  exact List.mem_append_left _ hp

/-- The members that are on after a `set_enabled` that returns. -/
theorem activeLabels_of_returned
    {states : Phase → SwitchState} (hreports : (group.step (.setEnabled enabled responses)).Reports states) :
    (group.phaseLabels.filter fun label => (states label).enabled).toFinset =
      if enabled then (phaseSelectionMembers group.selectedPhaseSelection).toFinset else ∅ := by
  ext label
  rw [List.mem_toFinset, List.mem_filter]
  have hstate (hlabel : label ∈ group.phaseLabels) : (states label).enabled = group.desired enabled label :=
    (hreports label hlabel).trans (on_of_returned h hlabel)
  cases enabled with
  | false =>
    simp only [Bool.false_eq_true, if_false, Finset.notMem_empty, iff_false, not_and]
    intro hlabel hon
    rw [hstate hlabel] at hon
    exact absurd hon (by simp [desired])
  | true =>
    rw [if_pos rfl, List.mem_toFinset]
    constructor
    · intro ⟨hlabel, hon⟩
      rw [hstate hlabel] at hon
      simpa [desired] using hon
    · intro hselected
      have hlabel := selected_subset hselected
      refine ⟨hlabel, ?_⟩
      rw [hstate hlabel]
      simpa [desired] using hselected

/-- The group reads back what was commanded. -/
theorem read_after_return {states : Phase → SwitchState}
    (hreports : (group.step (.setEnabled enabled responses)).Reports states) :
    ((group.step (.setEnabled enabled responses)).readSwitchState states).enabled = enabled ∧
      (enabled = true →
        ((group.step (.setEnabled enabled responses)).readSwitchState states).phaseSelection =
          group.selectedPhaseSelection) := by
  have hactive := activeLabels_of_returned h hreports
  constructor
  · show decide ((group.phaseLabels.filter fun label => (states label).enabled).toFinset ≠ ∅) = enabled
    rw [hactive]
    cases enabled with
    | false => rfl
    | true =>
      rw [if_pos rfl]
      cases group.selectedPhaseSelection <;> decide
  · intro henabled
    show group.phaseSelectionFromActiveLabels (group.phaseLabels.filter fun label => (states label).enabled).toFinset = _
    rw [hactive, if_pos henabled, phaseSelectionFromActiveLabels_selected]

end

/-! ## After any call -/

variable (group)

/-- What a call owes to the installation behind it. -/
def FailSafe : Call → Prop
  | .setPhaseSelection _ => True
  | .setEnabled enabled responses =>
    let swept := group.setEnabled enabled responses
    (enabled = false → ∀ label ∈ group.phaseLabels, responses label false = .accepts →
      label ∈ swept.commanded ∧ swept.state label = false) ∧
    (enabled = true → swept.raisedBy ≠ none → ∀ label ∈ group.phaseLabels,
      label ∉ phaseSelectionMembers group.selectedPhaseSelection → responses label false = .accepts →
        swept.state label = false) ∧
    (swept.raisedBy = none → ∀ states, (group.step (.setEnabled enabled responses)).Reports states →
      ((group.step (.setEnabled enabled responses)).readSwitchState states).enabled = enabled ∧
        (enabled = true →
          ((group.step (.setEnabled enabled responses)).readSwitchState states).phaseSelection =
            group.selectedPhaseSelection))

/-- No member that has to be switched off stands behind one that raises. -/
def Spared : Call → Prop
  | .setPhaseSelection _ => True
  | .setEnabled enabled responses =>
    ∀ front label rest, group.phaseLabels = front ++ label :: rest → responses label false = .accepts →
      enabled = false ∨ label ∉ phaseSelectionMembers group.selectedPhaseSelection ∧ group.on label = true →
      ∀ p ∈ front, responses p (group.desired enabled p) = .accepts

variable {group}

/-- Off: the members that accept are all commanded when none before them raises. -/
theorem off_iff : (∀ label ∈ group.phaseLabels, responses label false = .accepts →
      label ∈ (group.setEnabled false responses).commanded ∧ (group.setEnabled false responses).state label = false) ↔
    ∀ front label rest, group.phaseLabels = front ++ label :: rest → responses label false = .accepts →
      ∀ p ∈ front, responses p (group.desired false p) = .accepts := by
  rw [← commanded_iff (group.desired false) (fun label => responses label (group.desired false label)) group.on
    group.nodup_phaseLabels (fun label => responses label false = .accepts) (fun label h => h)]
  constructor
  · intro h label hlabel haccepts
    exact (h label hlabel haccepts).1
  · intro h label hlabel haccepts
    have hcommanded := h label hlabel haccepts
    exact ⟨hcommanded, state_of_commanded group.nodup_phaseLabels hcommanded⟩

/-- On: the members outside the selection that accept are all left off when none raises before one that was on. -/
theorem on_iff : (∀ label ∈ group.phaseLabels, label ∉ phaseSelectionMembers group.selectedPhaseSelection →
      responses label false = .accepts → (group.setEnabled true responses).state label = false) ↔
    ∀ front label rest, group.phaseLabels = front ++ label :: rest → responses label false = .accepts →
      label ∉ phaseSelectionMembers group.selectedPhaseSelection ∧ group.on label = true →
      ∀ p ∈ front, responses p (group.desired true p) = .accepts := by
  have hdesired {label : Phase} (h : label ∉ phaseSelectionMembers group.selectedPhaseSelection) :
      group.desired true label = false := by simpa [desired] using h
  have hiff := state_iff (group.desired true) (fun label => responses label (group.desired true label)) group.on
    group.nodup_phaseLabels
    (fun label => label ∉ phaseSelectionMembers group.selectedPhaseSelection ∧ responses label false = .accepts)
    (fun label h => by rw [hdesired h.1]; exact h.2)
  constructor
  · intro h front label rest heq haccepts ⟨houtside, hon⟩
    refine hiff.mp ?_ front label rest heq ⟨houtside, haccepts⟩ ?_
    · intro label hlabel hwanted
      exact (h label hlabel hwanted.1 hwanted.2).trans (hdesired hwanted.1).symm
    · rw [hdesired houtside, hon]
      exact Bool.noConfusion
  · intro h label hlabel houtside haccepts
    refine (hiff.mpr ?_ label hlabel ⟨houtside, haccepts⟩).trans (hdesired houtside)
    intro front label rest heq hwanted hne
    refine h front label rest heq hwanted.2 ⟨hwanted.1, ?_⟩
    rw [hdesired hwanted.1] at hne
    exact Bool.eq_true_of_not_eq_false hne

/-- The second demand on a call that enables holds of a call that returns, too. -/
theorem outside_off_of_returned (h : (group.setEnabled true responses).raisedBy = none)
    (hlabel : label ∈ group.phaseLabels) (houtside : label ∉ phaseSelectionMembers group.selectedPhaseSelection) :
    (group.setEnabled true responses).state label = false := by
  rw [on_of_returned h hlabel]
  simpa [desired] using houtside

/-- A call is fail-safe exactly when no member to be switched off stands behind one that raises, after every sequence of
calls. -/
theorem fail_safe_iff (settings : SwitchGroupSettings) (on : Phase → Bool) (calls : List Call) (call : Call) :
    ((init settings on).run calls).FailSafe call ↔ ((init settings on).run calls).Spared call := by
  generalize (init settings on).run calls = group
  cases call with
  | setPhaseSelection selection => exact Iff.rfl
  | setEnabled enabled responses =>
    cases enabled with
    | false =>
      constructor
      · intro ⟨hoff, _, _⟩ front label rest heq haccepts _
        exact off_iff.mp (hoff rfl) front label rest heq haccepts
      · intro h
        refine ⟨fun _ => off_iff.mpr fun front label rest heq haccepts => h front label rest heq haccepts (.inl rfl),
          fun henabled => Bool.noConfusion henabled, fun hreturned states hreports => ?_⟩
        exact read_after_return hreturned hreports
    | true =>
      constructor
      · intro ⟨_, hon, _⟩ front label rest heq haccepts hbehind
        refine on_iff.mp ?_ front label rest heq haccepts (hbehind.resolve_left Bool.noConfusion)
        intro label hlabel houtside haccepts
        by_cases hreturned : (group.setEnabled true responses).raisedBy = none
        · exact outside_off_of_returned hreturned hlabel houtside
        · exact hon rfl hreturned label hlabel houtside haccepts
      · intro h
        refine ⟨fun henabled => Bool.noConfusion henabled, fun _ _ => ?_,
          fun hreturned states hreports => read_after_return hreturned hreports⟩
        exact on_iff.mpr fun front label rest heq haccepts hbehind => h front label rest heq haccepts (.inr hbehind)

/-- Three phases. -/
def threePhases : SwitchGroupSettings where
  phaseMembers := ⟨[.p1, .p2, .p3], by decide, by decide⟩
  supportedPhaseSelections := [.p1, .p1p2, .p1p2p3]
  p1_mem := by decide
  available := by decide

example : (loadSwitchGroupSettings ["P1", "P2", " p3 "] none).toOption.map (·.supportedPhaseSelections) =
    some threePhases.supportedPhaseSelections := by decide +kernel

/-- All three phases are on when the first member stops answering: the off command reaches none of the others. -/
theorem unreachable_member_keeps_others_on :
    ¬ ∀ (settings : SwitchGroupSettings) (on : Phase → Bool) (calls : List Call) (call : Call),
      ((init settings on).run calls).FailSafe call := by
  intro h
  let silent : Responses := fun label _ => if label = .p1 then .raises true else .accepts
  have hsafe := h threePhases (fun _ => false)
    [.setPhaseSelection .p1p2p3, .setEnabled true fun _ _ => .accepts] (.setEnabled false silent)
  have hcommanded := (hsafe.1 rfl .p2 (by decide) rfl).1
  exact absurd hcommanded (by decide)

end SwitchGroup

end VenusEvcharger.Backend
