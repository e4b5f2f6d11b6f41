import VenusEvcharger.DbusAdapter.WriteQueue

/-!
# The durable GX relay command

A relay command carries its own progress: the phase, the index of the manual-function setting it
works on, and the number of retries. Every attempt performs one bus operation, and its callback
rewrites the command in the mailbox for the next attempt.

Scope: an attempt is the operation together with its callback, run on the mailbox as it is when the
answer arrives. Log lines are left out.
-/

namespace VenusEvcharger

open Library

/-! ## Numbers on the bus -/

section

variable [PyLib]

/-- `_coerce_scalar_numeric`. -/
def coerceScalarNumeric : Value → Option PyFloat
  | .int i => some (.fin i)
  | .float x => some x
  | .str s => PyLib.parseFloat s
  | _ => none

/-- `coerce_dbus_numeric`, as far as its result is a number: a scalar, or the only item of a list. -/
def coerceDbusNumeric : Value → Option PyFloat
  | .list [item] => coerceScalarNumeric item
  | value => coerceScalarNumeric value

end

/-! ## Relay topology -/

def systemService : String := "com.victronenergy.system"

def settingsService : String := "com.victronenergy.settings"

def manualFunctionValue : Int := 2

/-- `relay_state_path`. -/
def relayStatePath (relayIndex : Fin 2) : String := "/Relay/" ++ toString relayIndex.val ++ "/State"

/-- `manual_function_paths`: relay 0 also has a legacy setting. -/
def manualFunctionPaths (relayIndex : Fin 2) : List String :=
  let primary := "/Settings/Relay/" ++ toString relayIndex.val ++ "/Function"
  if relayIndex = 0 then [primary, "/Settings/Relay/Function"] else [primary]

section

variable [PyLib]

/-- `binary_relay_state`. -/
def binaryRelayState (value : Value) : Option Int :=
  match coerceDbusNumeric value with
  | some x => if x.eq (.fin 0) then some 0 else if x.eq (.fin 1) then some 1 else none
  | none => none

/-- `manual_function_selected`. -/
def manualFunctionSelected (value : Value) : Bool :=
  match coerceDbusNumeric value with
  | some x => x.eq (.fin manualFunctionValue)
  | none => false

end

/-- `relay_state_matches`. -/
def relayStateMatches (state : Option Int) (targetState : Int) : Bool := state == some targetState

/-! ## The wire contract -/

def gxRelaySetKind : String := "gx_relay_set_enabled"

/-- `RelayPhase`. -/
inductive RelayPhase where
  | manualRead
  | manualWrite
  | output
  | verify
  | retry
deriving DecidableEq

def RelayPhase.text : RelayPhase → String
  | .manualRead => "manual_read"
  | .manualWrite => "manual_write"
  | .output => "output"
  | .verify => "verify"
  | .retry => "retry"

/-- `GxRelayContactMode`. -/
inductive GxRelayContactMode where
  | normallyOpen
  | normallyClosed
deriving DecidableEq

def GxRelayContactMode.text : GxRelayContactMode → String
  | .normallyOpen => "NO"
  | .normallyClosed => "NC"

/-- `GxRelaySetOperation`. The indices and the seconds are those that pass validation. -/
structure GxRelaySetOperation where
  relayIndex : Fin 2
  contactMode : GxRelayContactMode
  enabled : Bool
  ensureManual : Bool
  verifySettleSeconds : ℚ≥0
  verifyRetrySeconds : ℚ≥0
  phase : RelayPhase
  manualTarget : Fin 2
  retries : Nat
  notBefore : ℚ≥0
deriving DecidableEq

/-- `target_state`. -/
def GxRelaySetOperation.targetState (operation : GxRelaySetOperation) : Int :=
  let energized :=
    if operation.contactMode = .normallyOpen then operation.enabled else !operation.enabled
  if energized then 1 else 0

section

variable (relayIndex : Fin 2) (contactMode : GxRelayContactMode) (enabled ensureManual : Bool)
  (verifySettleSeconds verifyRetrySeconds : ℚ≥0)

/-- The entries that `gx_relay_set_command` starts from. -/
def gxRelaySetEntries :
    List (String × Value) :=
  let phase : RelayPhase := if ensureManual then .manualRead else .output
  [("kind", .str gxRelaySetKind),
    ("source", .str "gx-relay-backend"),
    ("relay_index", .int relayIndex.val),
    ("contact_mode", .str contactMode.text),
    ("enabled", .bool enabled),
    ("ensure_manual", .bool ensureManual),
    ("verify_settle_seconds", .float (.fin verifySettleSeconds)),
    ("verify_retry_seconds", .float (.fin verifyRetrySeconds)),
    ("phase", .str phase.text),
    ("retries", .int 0),
    ("not_before", .float (.fin 0)),
    ("priority", .str (if enabled then "user" else "safety")),
    ("coalesce_key", .str ("gateway-operation:gx-relay:" ++ toString relayIndex.val ++ ":enabled"))]

/-- `gx_relay_set_command`: only an enabling command has a deadline. -/
def gxRelaySetCommand : CommandPayload :=
  let payload := Dict.ofList (gxRelaySetEntries relayIndex contactMode enabled ensureManual
    verifySettleSeconds verifyRetrySeconds)
  if enabled then
    payload.set "deadline_s"
      (.float (.fin (max 10 (2 * (verifySettleSeconds : ℚ) + verifyRetrySeconds + 5))))
  else payload

end

/-- `_parsed_relay_index`. -/
def parsedRelayIndex : Option Value → Option (Fin 2)
  | some (.int 0) => some 0
  | some (.int 1) => some 1
  | _ => none

/-- A value that passes `_is_contact_mode`. -/
def parsedContactMode : Option Value → Option GxRelayContactMode
  | some (.str "NO") => some .normallyOpen
  | some (.str "NC") => some .normallyClosed
  | _ => none

/-- A value that passes `_is_relay_phase`. -/
def parsedRelayPhase : Option Value → Option RelayPhase
  | some (.str "manual_read") => some .manualRead
  | some (.str "manual_write") => some .manualWrite
  | some (.str "output") => some .output
  | some (.str "verify") => some .verify
  | some (.str "retry") => some .retry
  | _ => none

/-- A value of type `bool`. -/
def parsedBool : Option Value → Option Bool
  | some (.bool b) => some b
  | _ => none

/-- `_parsed_non_negative_float`. -/
def parsedNonNegativeFloat : Option Value → Option ℚ≥0
  | some (.int i) => if 0 ≤ i then some i.toNat else none
  | some (.float (.fin x)) => if 0 ≤ x then some x.toNNRat else none
  | _ => none

/-- A `retries` field that passes `_parsed_relay_set_progress`. -/
def parsedRetries : Option Value → Option Nat
  | some (.int i) => if 0 ≤ i then some i.toNat else none
  | _ => none

/-- A `manual_target` field that passes `_parsed_relay_set_progress`: zero when it is missing. -/
def parsedManualTarget : Option Value → Option (Fin 2)
  | none => some 0
  | some value => parsedRelayIndex (some value)

/-- `parse_gx_relay_set`. -/
def parseGxRelaySet (command : CommandPayload) : Option GxRelaySetOperation := do
  guard (command.get? "kind" = some (.str gxRelaySetKind))
  let relayIndex ← parsedRelayIndex (command.get? "relay_index")
  let contactMode ← parsedContactMode (command.get? "contact_mode")
  let phase ← parsedRelayPhase (command.get? "phase")
  let enabled ← parsedBool (command.get? "enabled")
  let ensureManual ← parsedBool (command.get? "ensure_manual")
  let settle ← parsedNonNegativeFloat (command.get? "verify_settle_seconds")
  let retry ← parsedNonNegativeFloat (command.get? "verify_retry_seconds")
  let notBefore ← parsedNonNegativeFloat (command.get? "not_before")
  let manualTarget ← parsedManualTarget (command.get? "manual_target")
  let retries ← parsedRetries (command.get? "retries")
  return {
    relayIndex := relayIndex
    contactMode := contactMode
    enabled := enabled
    ensureManual := ensureManual
    verifySettleSeconds := settle
    verifyRetrySeconds := retry
    phase := phase
    manualTarget := manualTarget
    retries := retries
    notBefore := notBefore }

/-! ## One attempt -/

/-- What the bus answers to a read and to a write of one service and path. -/
structure GxBus where
  read : String → String → Except String Value
  write : String → String → Int → Except String Unit

/-- A write to the cached state of a GX relay: a verified state, or an error. -/
inductive RelayCacheUpdate where
  | state (relayIndex : Fin 2) (source : String) (state : Int)
  | error (relayIndex : Fin 2) (source error : String)
deriving DecidableEq

/-- What an attempt leaves: its outcome, the mailbox, and the update of the cache. -/
structure RelayAttempt where
  outcome : CommandOutcome
  files : MailboxFiles
  cache : Option RelayCacheUpdate

section

variable [PyLib]

section

variable (files : MailboxFiles) (path : String) (command : CommandPayload)

/-- `_rewrite`: the command with changed entries takes the place of the one that was dispatched. -/
def rewriteRelayCommand (changes : List (String × Value)) : RelayAttempt :=
  let replaced := replaceIfCurrent gatewayCommandQueuePolicy files path command
    (changes.foldl (fun command change => command.set change.1 change.2) command)
  ⟨if replaced.1 then .deferred else .dropped, replaced.2, none⟩

/-- `_manual_fallback`. -/
def manualFallback (operation : GxRelaySetOperation) (now : ℚ≥0) : RelayAttempt :=
  let nextTarget := operation.manualTarget.val + 1
  if (manualFunctionPaths operation.relayIndex).length ≤ nextTarget then
    -- The last candidate failed. The next attempt starts at this candidate again.
    rewriteRelayCommand files path command
      [("not_before", .float (.fin (now + max 1 operation.verifyRetrySeconds)))]
  else
    rewriteRelayCommand files path command
      [("phase", .str RelayPhase.manualRead.text), ("manual_target", .int nextTarget)]

/-- `_read_manual_function`. A target beyond the candidates raises `IndexError`. -/
def readManualFunction
    (operation : GxRelaySetOperation) (bus : GxBus) (now : ℚ≥0) : Except String RelayAttempt :=
  match (manualFunctionPaths operation.relayIndex)[operation.manualTarget.val]? with
  | none => .error "tuple index out of range"
  | some target =>
    match bus.read settingsService target with
    | .ok value =>
      let nextPhase : RelayPhase := if manualFunctionSelected value then .output else .manualWrite
      .ok (rewriteRelayCommand files path command [("phase", .str nextPhase.text)])
    | .error _ => .ok (manualFallback files path command operation now)

/-- `_write_manual_function`. -/
def writeManualFunction
    (operation : GxRelaySetOperation) (bus : GxBus) (now : ℚ≥0) : Except String RelayAttempt :=
  match (manualFunctionPaths operation.relayIndex)[operation.manualTarget.val]? with
  | none => .error "tuple index out of range"
  | some target =>
    match bus.write settingsService target manualFunctionValue with
    | .ok () => .ok (rewriteRelayCommand files path command [("phase", .str RelayPhase.output.text)])
    | .error _ => .ok (manualFallback files path command operation now)

/-- `_write_relay_output` and `_retry_relay_output`, which also counts the retry. -/
def writeRelayState
    (operation : GxRelaySetOperation) (bus : GxBus) (now : ℚ≥0) (retries : List (String × Value)) :
    RelayAttempt :=
  match bus.write systemService (relayStatePath operation.relayIndex) operation.targetState with
  | .ok () =>
    rewriteRelayCommand files path command
      ([("phase", .str RelayPhase.verify.text)] ++ retries ++
        [("not_before", .float (.fin (now + operation.verifySettleSeconds)))])
  | .error _ => ⟨.deferred, files, none⟩

/-- `_write_relay_output`. -/
def writeRelayOutput (operation : GxRelaySetOperation) (bus : GxBus) (now : ℚ≥0) : RelayAttempt :=
  writeRelayState files path command operation bus now []

/-- `_retry_relay_output`. -/
def retryRelayOutput (operation : GxRelaySetOperation) (bus : GxBus) (now : ℚ≥0) : RelayAttempt :=
  writeRelayState files path command operation bus now [("retries", .int (operation.retries + 1))]

/-- `_relay_mismatch_outcome`. -/
def relayMismatchOutcome (operation : GxRelaySetOperation) (source : String) (state : Option Int) (now : ℚ≥0) :
    RelayAttempt :=
  if operation.retries = 0 then
    rewriteRelayCommand files path command
      [("phase", .str RelayPhase.retry.text),
        ("not_before", .float (.fin (now + operation.verifyRetrySeconds)))]
  else
    let shown := match state with
      | some state => toString state
      | none => "None"
    ⟨.dropped, files, some (.error operation.relayIndex source
      ("relay stayed at " ++ shown ++ ", expected " ++ toString operation.targetState))⟩

/-- `_verify_relay_output`. -/
def verifyRelayOutput (operation : GxRelaySetOperation) (bus : GxBus) (now : ℚ≥0) : RelayAttempt :=
  let statePath := relayStatePath operation.relayIndex
  let source := systemService ++ statePath
  match bus.read systemService statePath with
  | .error error => ⟨.applied, files, some (.error operation.relayIndex source error)⟩
  | .ok value =>
    let state := binaryRelayState value
    if relayStateMatches state operation.targetState then
      ⟨.applied, files, some (.state operation.relayIndex source operation.targetState)⟩
    else relayMismatchOutcome files path command operation source state now

/-- `_set_gx_relay` on the command that was loaded from a file, with the answer of the bus. -/
def setGxRelay (bus : GxBus)
    (now : ℚ≥0) : Except String RelayAttempt :=
  match parseGxRelaySet command with
  | none => .ok ⟨.dropped, files, none⟩
  | some operation =>
    if path = "" then .ok ⟨.dropped, files, none⟩
    else
      match operation.phase with
      | .manualRead => readManualFunction files path command operation bus now
      | .manualWrite => writeManualFunction files path command operation bus now
      | .output => .ok (writeRelayOutput files path command operation bus now)
      | .verify => .ok (verifyRelayOutput files path command operation bus now)
      | .retry => .ok (retryRelayOutput files path command operation bus now)

end

end

end VenusEvcharger
