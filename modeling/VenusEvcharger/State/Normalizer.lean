import VenusEvcharger.Python.JsonLoads
import VenusEvcharger.Update.RelayService

/-!
# Normalising persisted runtime state

`controllers/state_runtime_normalize.py` and the normalisers of `backend/models.py` and `core/contracts_basic.py` that it
calls: each takes any JSON value to a value of the attribute it is for. The texts of an enumeration are read with
`str(value).strip()` in upper or lower case, so any value has a reading; the numeric conversions raise what they do
not catch.
-/

namespace VenusEvcharger.State

open Library

/-- `str.upper()` on ASCII letters. It is only compared with names that no other letter is raised into. -/
def upper (s : String) : String := String.ofList (s.toList.map Char.toUpper)

/-! ## Texts of the enumerations -/

def phaseText : PhaseSelection → String
  | .p1 => "P1"
  | .p1p2 => "P1_P2"
  | .p1p2p3 => "P1_P2_P3"

/-- `_PHASE_SELECTION_ALIASES`. -/
def phaseSelectionAliases : List (String × PhaseSelection) :=
  [("P1", .p1), ("L1", .p1), ("L2", .p1), ("L3", .p1), ("1P", .p1), ("P1_P2", .p1p2), ("P1+P2", .p1p2), ("2P", .p1p2),
    ("P1_P2_P3", .p1p2p3), ("P1+P2+P3", .p1p2p3), ("3P", .p1p2p3)]

/-- `LEARNED_CHARGE_POWER_STATES`. -/
inductive LearnedState where
  | unknown
  | learning
  | stable
  | stale
deriving DecidableEq

def LearnedState.text : LearnedState → String
  | .unknown => "unknown"
  | .learning => "learning"
  | .stable => "stable"
  | .stale => "stale"

/-- `LEARNED_CHARGE_POWER_PHASES`. -/
inductive LearnedPhase where
  | l1
  | l2
  | l3
  | threeP
deriving DecidableEq

def LearnedPhase.text : LearnedPhase → String
  | .l1 => "L1"
  | .l2 => "L2"
  | .l3 => "L3"
  | .threeP => "3P"

def switchStateText : PhaseSwitchState → String
  | .waitingRelayOff => "waiting-relay-off"
  | .stabilizing => "stabilizing"

def faultText : ContactorFault → String
  | .suspectedOpen => "contactor-suspected-open"
  | .suspectedWelded => "contactor-suspected-welded"

/-- `supported_phase_selections`, a tuple that is never empty. -/
structure SupportedPhases where
  first : PhaseSelection
  more : List PhaseSelection

def SupportedPhases.toList (phases : SupportedPhases) : List PhaseSelection := phases.first :: phases.more

/-- An optional float attribute as a value. -/
def ofFloat? : Option ℚ → Value
  | none => .null
  | some q => .float (.fin q)

/-- An optional text as a value. -/
def ofText? : Option String → Value
  | none => .null
  | some text => .str text

variable [PyRuntime]

/-! ## Normalisers -/

/-- `normalize_mode` of `core/common_values.py`. -/
def normalizeMode (mode : Value) : Except PyError Nat :=
  (fun i => if i = 1 then 1 else if i = 2 then 2 else 0) <$> recover typeOrValueError 0 mode.toInt

/-- `normalize_phase_selection_or_none`. -/
def normalizePhaseSelectionOrNone : Value → Option PhaseSelection
  | .null => none
  | v => phaseSelectionAliases.lookup (upper (strip v.text))

/-- `normalize_phase_selection`, which is also `phase_selection`. -/
def phaseSelection (v : Value) (default : PhaseSelection := .p1) : PhaseSelection :=
  (normalizePhaseSelectionOrNone v).getD default

/-- `optional_phase_selection`. -/
def optionalPhaseSelection (v : Value) (default : PhaseSelection := .p1) : Option PhaseSelection :=
  match v with
  | .null => none
  | v => some (phaseSelection v default)

/-- `_normalized_phase_selection_values`: the items of a list, or the parts of a comma-separated text. -/
def normalizedPhaseSelectionValues : Value → List PhaseSelection
  | .list vs => vs.map fun v => phaseSelection v
  | .null => []
  | v =>
    if strip v.text = "" then []
    else ((strip v.text).splitOn ",").map fun part => phaseSelection (.str part)

/-- `supported_phase_selections`, which is `normalize_phase_selection_tuple` with the default `("P1",)`. -/
def supportedPhaseSelections (v : Value) : SupportedPhases :=
  match normalizedPhaseSelectionValues v with
  | [] => ⟨.p1, []⟩
  | first :: more => ⟨first, more⟩

/-- `normalize_learning_state`. -/
def learnedChargePowerState : Value → LearnedState
  | .null => .unknown
  | v =>
    let state := lower (strip v.text)
    if state = "learning" then .learning
    else if state = "stable" then .stable
    else if state = "stale" then .stale
    else .unknown

/-- `normalize_learning_phase`. -/
def learnedChargePowerPhase : Value → Option LearnedPhase
  | .null => none
  | v =>
    let phase := upper (strip v.text)
    if phase = "L1" then some .l1
    else if phase = "L2" then some .l2
    else if phase = "L3" then some .l3
    else if phase = "3P" then some .threeP
    else none

/-- `phase_switch_state`. -/
def phaseSwitchState : Value → Option PhaseSwitchState
  | .null => none
  | v =>
    let state := lower (strip v.text)
    if state = "waiting-relay-off" then some .waitingRelayOff
    else if state = "stabilizing" then some .stabilizing
    else none

/-- `coerce_runtime_int`. -/
def coerceRuntimeInt (v : Value) (default : Int := 0) : Except PyError Int :=
  match v with
  | .str _ | .int _ | .float _ => recover typeOrValueError default v.toInt
  | .null | .bool _ | .list _ | .obj _ => .ok default

/-- `coerce_runtime_float`. -/
def coerceRuntimeFloat (v : Value) (default : ℚ := 0) : Except PyError ℚ :=
  (fun normalized => normalized.getD default) <$> finiteFloatOrNone v

/-- `optional_float`. -/
def optionalFloat : Value → Except PyError (Option ℚ)
  | .null => .ok none
  | v => some <$> coerceRuntimeFloat v

/-- A timestamp that is at most a second ahead. -/
def notFuture (now : ℚ) (timestamp : Option ℚ) : Option ℚ := timestamp.filter fun t => decide (t ≤ now + 1)

/-- `optional_past_time`. -/
def optionalPastTime (v : Value) (now : ℚ) : Except PyError (Option ℚ) := notFuture now <$> optionalFloat v

/-! ## When the normalisers return -/

@[simp] theorem returns_normalizeMode (v : Value) : Returns (normalizeMode v) ↔ v.HasInt := by
  rw [normalizeMode, returns_map, returns_recover, v.toInt_caught_iff]

@[simp] theorem returns_coerceRuntimeInt (v : Value) (default : Int) :
    Returns (coerceRuntimeInt v default) ↔ v.HasInt := by
  rw [← v.toInt_caught_iff]
  cases v with
  | str s | int i | float x => simp only [coerceRuntimeInt, returns_recover]
  | null | bool b | list vs | obj es => simp [coerceRuntimeInt, Value.toInt, typeOrValueError]

@[simp] theorem returns_coerceRuntimeFloat (v : Value) (default : ℚ) :
    Returns (coerceRuntimeFloat v default) ↔ v.HasFloat := by
  simp [coerceRuntimeFloat]

@[simp] theorem returns_optionalFloat (v : Value) : Returns (optionalFloat v) ↔ v.HasFloat := by
  cases v with
  | null => exact iff_of_true ⟨none, rfl⟩ trivial
  | bool b | int i | float x | str s | list vs | obj es => simp [optionalFloat]

@[simp] theorem returns_optionalPastTime (v : Value) (now : ℚ) : Returns (optionalPastTime v now) ↔ v.HasFloat := by
  simp [optionalPastTime]

end VenusEvcharger.State
