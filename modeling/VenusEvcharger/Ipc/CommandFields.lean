import VenusEvcharger.Python.Value
import Mathlib.Tactic.NormNum

/-!
# Fields of a command

The readings that every queue policy applies to the untyped fields of a command: its text fields,
its priority rank, its numbers, and its deadline.

Scope: sums of clock readings and deadlines are exact.
-/

namespace VenusEvcharger

open Library

variable [PyLib]

/-- `_command_text(command, key)`. -/
def commandText (command : CommandPayload) (key : String) : String := orText (command.get? key)

/-- `_command_key(command)`. -/
def commandKey (command : CommandPayload) : String := strip (commandText command "coalesce_key")

/-- `command_float`: zero for what is no number. -/
def commandFloat : Option Value → PyFloat
  | some (.bool b) => .fin (if b then 1 else 0)
  | some (.int i) => .fin i
  | some (.float x) => x
  | some (.str s) => (PyLib.parseFloat s).getD (.fin 0)
  | _ => .fin 0

/-- `COMMAND_PRIORITY_RANKS`. -/
def commandPriorityRanks : List (String × Nat) :=
  [("safety", 0), ("user", 1), ("publish", 2), ("read", 3), ("normal", 4), ("optional", 5),
    ("discovery", 5), ("diagnostic", 6)]

/-- `command_priority_rank`: smaller is more urgent, and unknown names are the least urgent. -/
def commandPriorityRank (priority : Option Value) : Nat :=
  match priority with
  | none | some .null => 6
  | some value => (commandPriorityRanks.lookup (lower (strip value.text))).getD 6

/-- The rank of a command's own priority. -/
def commandRank (command : CommandPayload) : Nat := commandPriorityRank (command.get? "priority")

/-! ## Deadlines -/

def commandDeadlineFutureSkewSeconds : ℚ := 5

def transientPublicationDeadlineSeconds : ℚ := 30

omit [PyLib] in
/-- `valid_deadline_anchor`: a positive finite timestamp with only a small future skew. -/
def validDeadlineAnchor (createdAt : PyFloat) (now : ℚ) : Bool :=
  match createdAt with
  | .fin created => decide (0 < created ∧ created ≤ now + commandDeadlineFutureSkewSeconds)
  | _ => false

/-- `command_deadline_expired`. -/
def commandDeadlineExpired (command : CommandPayload) (now : ℚ) : Bool :=
  if !command.contains "deadline_s" then false
  else
    match commandFloat (command.get? "deadline_s") with
    | .fin deadline =>
      if deadline ≤ 0 then false
      else
        match commandFloat (command.get? "created_at") with
        | .fin created =>
          if !validDeadlineAnchor (.fin created) now then true else decide (created + deadline < now)
        | _ => true
    | _ => true

/-- `normalized_transient_deadline`: clamped to a finite positive maximum. -/
def normalizedTransientDeadline (value : Option Value) : ℚ :=
  match commandFloat value with
  | .fin deadline =>
    if deadline ≤ 0 then transientPublicationDeadlineSeconds
    else min deadline transientPublicationDeadlineSeconds
  | _ => transientPublicationDeadlineSeconds

/-- `remaining_transient_ttl`: no lifetime is left with a bad anchor. -/
def remainingTransientTtl (command : CommandPayload) (now : ℚ) : ℚ :=
  let deadline := normalizedTransientDeadline (command.get? "deadline_s")
  if !command.contains "created_at" then if command.contains "deadline_s" then 0 else deadline
  else
    match commandFloat (command.get? "created_at") with
    | .fin created =>
      if !validDeadlineAnchor (.fin created) now then 0
      else max 0 (min deadline (created + deadline - now))
    | _ => 0

/-- A transient deadline is positive and at most the maximum. -/
theorem normalizedTransientDeadline_bounds (value : Option Value) :
    0 < normalizedTransientDeadline value ∧
      normalizedTransientDeadline value ≤ transientPublicationDeadlineSeconds := by
  have hmax : 0 < transientPublicationDeadlineSeconds := by
    norm_num [transientPublicationDeadlineSeconds]
  unfold normalizedTransientDeadline
  split
  · split_ifs with hdeadline
    · exact ⟨hmax, le_rfl⟩
    · exact ⟨lt_min (not_le.mp hdeadline) hmax, min_le_right _ _⟩
  · exact ⟨hmax, le_rfl⟩

end VenusEvcharger
