import Mathlib.Data.Prod.Lex
import Mathlib.Data.List.Sort
import VenusEvcharger.NativeGateway.Json

/-!
# Commands of the native gateway

The classification of commands, their deadlines, the budget of their queue class, and the order in which pending
commands are considered.

Scope: the pressure is a parameter, and the adjustments of budgets under pressure are left out.
-/

namespace VenusEvcharger.NativeGateway

/-! ## Kinds and deadlines -/

/-- `is_publication`. -/
def isPublication (kind : String) : Bool :=
  decide (kind ∈ ["register_evcs", "publish_evcs_fields", "register_companion", "publish_companion_fields"])

/-- `command_kind`. -/
def commandKind (command : JsonMap) : String := (command.text? "kind").getD ""

/-- `MAX_FUTURE_DEADLINE_SKEW`. -/
def maxFutureDeadlineSkew : ℚ := 5

/-- `command_deadline_expired`. -/
def commandDeadlineExpired (command : JsonMap) (now : ℚ) : Bool :=
  let canonical := command.get? "deadline_s"
  let legacy := command.get? "max_age_seconds"
  if canonical.isNone && legacy.isNone then false
  else
    let canonicalDeadline := command.number? "deadline_s"
    let legacyDeadline := command.number? "max_age_seconds"
    if (canonical.isSome && canonicalDeadline.isNone) || (legacy.isSome && legacyDeadline.isNone) then true
    else if canonicalDeadline.isSome && legacyDeadline.isSome && canonicalDeadline ≠ legacyDeadline then true
    else
      match canonicalDeadline <|> legacyDeadline with
      | none => true
      | some deadline =>
        if deadline ≤ 0 then false
        else
          match command.number? "created_at" with
          | none => true
          | some createdAt =>
            decide (createdAt ≤ 0) || decide (now + maxFutureDeadlineSkew < createdAt) ||
              decide (createdAt + deadline < now)

/-! ## Queue classes -/

/-- `char::is_whitespace`. -/
def isWhitespace (c : Char) : Bool :=
  let n := c.toNat
  (9 ≤ n && n ≤ 13) || n == 0x20 || n == 0x85 || n == 0xA0 || n == 0x1680 || (0x2000 ≤ n && n ≤ 0x200A) ||
    n == 0x2028 || n == 0x2029 || n == 0x202F || n == 0x205F || n == 0x3000

/-- `str::trim`. -/
def trim (text : String) : String :=
  String.ofList ((text.toList.dropWhile isWhitespace).reverse.dropWhile isWhitespace).reverse

/-- `command_queue_class`. -/
def commandQueueClass (command : JsonMap) : String :=
  match (command.text? "queue_class").filter (· ≠ "") with
  | some queueClass => queueClass
  | none =>
    let kind := commandKind command
    if kind = "register_evcs" ∨ kind = "register_companion" then "startup/register"
    else if isPublication kind then
      if command.text? "publication_priority" = some "critical" then "gui-critical-publish"
      else "local-publish"
    else
      match kind with
      | "refresh_energy_inputs" =>
        if command.text? "scope" = some "topology" then "discovery" else "read-fast"
      | "introspect" => "introspection"
      | "gx_relay_refresh" => "read-fast"
      | "gx_relay_set_enabled" | "ess_grid_setpoint" => "remote-write"
      | "disable_matching_generic_shelly_once" => "configuration"
      | _ => "diagnostic"

/-- `QUEUE_CLASSES`, with the least budget of each. -/
def queueClasses : List (String × Nat) :=
  [("startup/register", 1), ("gui-critical-publish", 1), ("local-publish", 1), ("remote-write", 1),
    ("read-fast", 1), ("read-slow", 0), ("discovery", 0), ("introspection", 0), ("diagnostic", 0)]

/-- The budget of a class without pressure, from the configured budgets; other classes have a budget of one. -/
def budgetLimit (configured : String → Int) (queueClass : String) : Nat :=
  match queueClasses.lookup queueClass with
  | some least => (max (configured queueClass) least).toNat
  | none => 1

/-- `WINDOW`. -/
def budgetWindow : ℚ := 1

/-- An attempt that was recorded, with its instant and its class. -/
abbrev BudgetEvent := ℚ × String

/-- `prune` on the attempts. -/
def pruneBudget (events : List BudgetEvent) (now : ℚ) : List BudgetEvent :=
  events.dropWhile fun event => decide (budgetWindow < now - event.1)

/-- `budget_available`, on pruned attempts. -/
def budgetAvailable (configured : String → Int) (events : List BudgetEvent) (command : JsonMap) : Bool :=
  decide (events.countP (·.2 = commandQueueClass command) < budgetLimit configured (commandQueueClass command))

/-! ## Pressure -/

/-- `PressureState`. -/
inductive PressureState where
  | ok
  | congested
  | slow
  | protective
deriving DecidableEq

/-- `command_priority`. -/
def commandPriority (command : JsonMap) : String :=
  (((command.text? "priority").map trim).filter (· ≠ "")).getD "diagnostic"

/-- `command_allowed`. -/
def commandAllowed (command : JsonMap) (pressure : PressureState) : Bool :=
  let queueClass := commandQueueClass command
  let priority := commandPriority command
  if queueClass = "startup/register" then true
  else
    match pressure with
    | .ok => true
    | .congested => decide (priority ∉ ["optional", "diagnostic"]) && decide (queueClass ≠ "diagnostic")
    | .slow => decide (queueClass = "gui-critical-publish") || decide (priority ∈ ["safety", "user"])
    | .protective =>
      decide (queueClass ∈ ["gui-critical-publish", "remote-write"]) && decide (priority ∈ ["safety", "user"])

/-- `runtime_work_allowed`. -/
def runtimeWorkAllowed (command : JsonMap) (pressure : PressureState) : Bool :=
  isPublication (commandKind command) || commandAllowed command pressure

/-- `is_advisory`. -/
def isAdvisory (command : JsonMap) : Bool :=
  decide (commandQueueClass command ∈ ["diagnostic", "discovery", "introspection"])

/-! ## The order of pending commands -/

/-- `command_age`. -/
def commandAge (command : JsonMap) (capturedAt : ℚ) : ℚ :=
  let stamp := match command.get? "updated_at" with
    | some value => some value
    | none => command.get? "created_at"
  max (capturedAt - (((stamp.bind Json.asF64).filter (0 < ·)).getD capturedAt)) 0

/-- `AGED_REFRESH_SECONDS`. -/
def agedRefreshSeconds : ℚ := 15

/-- `aged_refresh`. -/
def agedRefresh (command : JsonMap) (capturedAt : ℚ) : Bool :=
  decide (commandQueueClass command ∈ ["read-fast", "read-slow", "discovery", "introspection"]) &&
    decide (agedRefreshSeconds ≤ commandAge command capturedAt)

/-- `priority_rank`. -/
def priorityRank : String → Nat
  | "safety" => 0
  | "user" => 1
  | "publish" => 2
  | "read" => 3
  | "normal" => 4
  | "optional" | "discovery" => 5
  | _ => 6

/-- `queue_rank`. -/
def queueRank : String → Nat
  | "startup/register" => 0
  | "gui-critical-publish" => 1
  | "remote-write" => 2
  | "local-publish" => 3
  | "read-fast" => 4
  | "read-slow" => 5
  | "discovery" => 6
  | "introspection" => 7
  | "diagnostic" => 8
  | _ => 9

/-- `command_order`. The bits of a non-negative float are ordered like its value. -/
def commandOrder (command : JsonMap) (capturedAt : ℚ) : ℕ ×ₗ ℕ ×ₗ ℚ :=
  let priority := if agedRefresh command capturedAt then 3 else 2 * priorityRank (commandPriority command)
  toLex (priority, toLex (queueRank (commandQueueClass command),
    ((command.number? "created_at").filter (0 < ·)).getD 0))

/-- `prioritize`, a stable sort. -/
def prioritize {α : Type} (commandOf : α → JsonMap) (capturedAt : ℚ) (commands : List α) : List α :=
  commands.insertionSort fun left right =>
    commandOrder (commandOf left) capturedAt ≤ commandOrder (commandOf right) capturedAt

end VenusEvcharger.NativeGateway
