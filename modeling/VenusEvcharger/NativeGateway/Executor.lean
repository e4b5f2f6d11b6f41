import VenusEvcharger.Library.Wire
import VenusEvcharger.NativeGateway.Command
import VenusEvcharger.NativeGateway.Publication

/-!
# The executor of semantic commands

`CommandExecutor` holds at most one active command and takes it through its stages, one bus operation after the
other. An answer moves it to the next stage or ends it with an outcome, and an error drops it from the executor.

Scope: an answer is given by what the readings of it give. The clock does not fail, and the delays of a command
are within the range of a duration. The relay states that are kept for the cache are left out.
-/

namespace VenusEvcharger.NativeGateway

open Library

/-- `CommandOutcome`. -/
inductive CommandOutcome where
  | applied
  | deferred
  | dropped
deriving DecidableEq

/-- `DbusOperation`. -/
inductive DbusOperation where
  | listNames
  | read (service path : String)
  | write (service path : String) (value : BusValue)
  | introspect (service path : String)
deriving DecidableEq

def DbusOperation.isWrite : DbusOperation → Bool
  | .write _ _ _ => true
  | _ => false

/-- The `result` of a `DbusResult`: a value with its readings as a number and as text, a write code, an
introspection with the device nodes found in it, a list of names, or an error. -/
inductive DbusAnswer where
  | names (names : List String)
  | value (number : Option ℚ) (text : Option String)
  | writeCode (code : Int)
  | xml (nodes : Except String (List String))
  | error (error : String)

/-- `Stage`. -/
inductive Stage where
  | relayRefresh (relay : Fin 2)
  | relayManualRead (relay : Fin 2) (candidate : Nat)
  | relayManualWrite (relay : Fin 2) (candidate : Nat)
  | relayOutput (relay : Fin 2) (retry : Nat)
  | relayVerify (relay : Fin 2) (retry : Nat)
  | essWrite
  | shellyDiscover
  | shellyIdentify (devices : List String) (cursor : Nat)
  | shellyEnabled (device : String)
  | shellyDisable (device : String)

/-! ## The contract of the commands -/

/-- `relay_index`. -/
def relayIndex (command : JsonMap) : Except String (Fin 2) :=
  match (command.get? "relay_index").bind Json.asU64 with
  | some 0 => .ok 0
  | some 1 => .ok 1
  | _ => .error "GX relay index must be 0 or 1"

/-- `strict_bool`. -/
def strictBool (command : JsonMap) (field : String) : Except String Bool :=
  match (command.get? field).bind Json.asBool with
  | some b => .ok b
  | none => .error (field ++ " must be boolean")

/-- `relay_target`. -/
def relayTarget (command : JsonMap) : Except String Int := do
  let enabled ← strictBool command "enabled"
  match command.text? "contact_mode" with
  | some "NO" => return if enabled then 1 else 0
  | some "NC" => return if enabled then 0 else 1
  | _ => .error "GX relay contact mode must be NO or NC"

/-- `finite_number`. -/
def finiteNumber (command : JsonMap) (field : String) : Except String ℚ :=
  match command.number? field with
  | some x => .ok x
  | none => .error (field ++ " must be finite")

/-- `nonnegative_number`. -/
def nonnegativeNumber (command : JsonMap) (field : String) : Except String ℚ := do
  let value ← finiteNumber command field
  if 0 ≤ value then return value else .error (field ++ " must be non-negative")

/-- `command_delay` at an epoch and an instant. -/
def commandDelay (command : JsonMap) (epoch now : ℚ) : Except String ℚ :=
  let requested := (command.number? "not_before").getD 0
  if requested < 0 then .error "not_before must be finite and non-negative"
  else .ok (now + max (requested - epoch) 0)

/-- `relay_state_path`. -/
def relayStatePath (relay : Fin 2) : String := "/Relay/" ++ toString relay.val ++ "/State"

/-- `manual_paths`. -/
def manualPaths (relay : Fin 2) : List String :=
  let primary := "/Settings/Relay/" ++ toString relay.val ++ "/Function"
  if relay = 0 then [primary, "/Settings/Relay/Function"] else [primary]

/-- `normalize_mac`. -/
def normalizeMac (value : String) : Option String :=
  let normalized := (value.toList.filter fun c =>
    c.isDigit || (decide ('a' ≤ c) && decide (c ≤ 'f')) || (decide ('A' ≤ c) && decide (c ≤ 'F'))).map
      Char.toUpper
  if normalized.length = 12 then some (String.ofList normalized) else none

/-- `selector`. -/
def selector (command : JsonMap) : Except String (String × String) :=
  match command.object? "selector" with
  | none => .error "generic Shelly selector is invalid"
  | some payload =>
    match (payload.text? "kind").filter fun kind => kind = "ip" || kind = "mac" with
    | none => .error "generic Shelly selector kind is invalid"
    | some kind =>
      match payload.text? "value" with
      | none => .error "generic Shelly selector value is invalid"
      | some raw =>
        if kind = "mac" then
          match normalizeMac raw with
          | none => .error "generic Shelly MAC is invalid"
          | some mac => .ok (kind, mac)
        else .ok (kind, raw)

/-- `channel`. -/
def channel (command : JsonMap) : Except String Int :=
  match ((command.get? "channel").bind Json.asI64).filter (0 ≤ ·) with
  | some value => .ok value
  | none => .error "generic Shelly channel is invalid"

/-- `shelly_enabled_path`. -/
def shellyEnabledPath (device : String) (channel : Int) : String :=
  "/Devices/" ++ device ++ "/" ++ toString channel ++ "/Enabled"

/-! ## Readings of an answer -/

/-- `numeric_value`. -/
def numericValue : DbusAnswer → Except String (Option ℚ)
  | .value number _ => .ok number
  | .error error => .error error
  | _ => .error "D-Bus operation did not return a value"

/-- `binary_value`. -/
def binaryValue (answer : DbusAnswer) : Except String (Option Int) := do
  let value ← numericValue answer
  return if value = some 0 then some 0 else if value = some 1 then some 1 else none

/-- `string_value`. -/
def stringValue : DbusAnswer → Except String String
  | .value _ (some text) => .ok text
  | .error error => .error error
  | _ => .error "D-Bus operation did not return text"

/-- `xml_value` and `device_nodes`. -/
def deviceNodes : DbusAnswer → Except String (List String)
  | .xml nodes => nodes
  | .error error => .error error
  | _ => .error "D-Bus introspection did not return XML"

/-- `write_code`. -/
def writeCode : DbusAnswer → Except String Int
  | .writeCode code => .ok code
  | .error error => .error error
  | _ => .error "D-Bus operation did not return a write code"

/-! ## The active command -/

/-- `ActiveCommand`. -/
structure ActiveCommand where
  path : String
  payload : JsonMap
  stage : Stage
  notBefore : ℚ
  awaiting : Bool

/-- The services and the path that the executor is configured with. -/
structure ExecutorSettings where
  genericShellyService : String
  essService : String
  essPath : String

/-- The stage in which `start` takes on a command, none for an unknown kind. -/
def startStage (payload : JsonMap) : Except String (Option Stage) :=
  match commandKind payload with
  | "gx_relay_refresh" => do
    let relay ← relayIndex payload
    return some (.relayRefresh relay)
  | "gx_relay_set_enabled" => do
    let relay ← relayIndex payload
    let ensureManual ← strictBool payload "ensure_manual"
    return some (if ensureManual then .relayManualRead relay 0 else .relayOutput relay 0)
  | "ess_grid_setpoint" => return some .essWrite
  | "disable_matching_generic_shelly_once" => return some .shellyDiscover
  | _ => return none

/-- What `start` makes of a command while none is active: an outcome, or the active command. -/
def startCommand (path : String) (payload : JsonMap) (epoch now : ℚ) :
    Except String (CommandOutcome ⊕ ActiveCommand) :=
  match startStage payload with
  | .error error => .error error
  | .ok none => .ok (.inl .dropped)
  | .ok (some stage) =>
    match commandDelay payload epoch now with
    | .error error => .error error
    | .ok notBefore => .ok (.inr ⟨path, payload, stage, notBefore, false⟩)

/-- `operation_for`. -/
def operationFor (settings : ExecutorSettings) (active : ActiveCommand) : Except String DbusOperation :=
  let manualPath (relay : Fin 2) (candidate : Nat) := ((manualPaths relay)[candidate]?).getD ""
  match active.stage with
  | .relayRefresh relay | .relayVerify relay _ =>
    .ok (.read "com.victronenergy.system" (relayStatePath relay))
  | .relayManualRead relay candidate =>
    .ok (.read "com.victronenergy.settings" (manualPath relay candidate))
  | .relayManualWrite relay candidate =>
    .ok (.write "com.victronenergy.settings" (manualPath relay candidate) (.i32 2))
  | .relayOutput relay _ => do
    let target ← relayTarget active.payload
    return .write "com.victronenergy.system" (relayStatePath relay) (.i32 target)
  | .essWrite => do
    let watts ← finiteNumber active.payload "watts"
    return .write settings.essService settings.essPath (.f64 watts)
  | .shellyDiscover => .ok (.introspect settings.genericShellyService "/Devices")
  | .shellyIdentify devices cursor =>
    match devices[cursor]? with
    | none => .error "generic Shelly cursor is invalid"
    | some device => do
      let selector ← selector active.payload
      return .read settings.genericShellyService
        ("/Devices/" ++ device ++ "/" ++ if selector.1 = "ip" then "Ip" else "Mac")
  | .shellyEnabled device => do
    let channel ← channel active.payload
    return .read settings.genericShellyService (shellyEnabledPath device channel)
  | .shellyDisable device => do
    let channel ← channel active.payload
    return .write settings.genericShellyService (shellyEnabledPath device channel) (.i32 0)

/-! ## Transitions -/

/-- What a transition leads to: the next stage with the time before which nothing is sent, or an outcome. -/
inductive Transition where
  | next (stage : Stage) (notBefore : ℚ)
  | done (outcome : CommandOutcome)

/-- `transition_error`. -/
def transitionError (active : ActiveCommand) : Transition :=
  match active.stage with
  | .relayManualRead relay candidate | .relayManualWrite relay candidate =>
    if candidate + 1 < (manualPaths relay).length then
      .next (.relayManualRead relay (candidate + 1)) active.notBefore
    else .done .deferred
  | .relayVerify _ _ => .done .applied
  | _ => .done .deferred

/-- `transition_relay`. -/
def transitionRelay (active : ActiveCommand) (answer : DbusAnswer) (now : ℚ) : Except String Transition :=
  match active.stage with
  | .relayRefresh _ => do
    let observed ← binaryValue answer
    return .done (if observed.isSome then .applied else .dropped)
  | .relayManualRead relay candidate => do
    let value ← numericValue answer
    return .next (if value = some 2 then .relayOutput relay 0 else .relayManualWrite relay candidate)
      active.notBefore
  | .relayManualWrite relay _ => do
    let _ ← writeCode answer
    return .next (.relayOutput relay 0) active.notBefore
  | .relayOutput relay retry => do
    let _ ← writeCode answer
    let settle ← nonnegativeNumber active.payload "verify_settle_seconds"
    return .next (.relayVerify relay retry) (now + settle)
  | .relayVerify relay retry => do
    let observed ← binaryValue answer
    let target ← relayTarget active.payload
    if observed = some target then return .done .applied
    else if retry = 0 then
      let delay ← nonnegativeNumber active.payload "verify_retry_seconds"
      return .next (.relayOutput relay 1) (now + delay)
    else return .done .dropped
  | _ => .error "non-relay stage reached relay transition"

/-- `transition_shelly`. -/
def transitionShelly (active : ActiveCommand) (answer : DbusAnswer) : Except String Transition :=
  match active.stage with
  | .shellyDiscover => do
    let devices ← deviceNodes answer
    if devices = [] then return .done .applied
    else
      let selector ← selector active.payload
      let device := if selector.1 = "mac" then
        devices.find? fun device => decide (normalizeMac device = some selector.2) else none
      match device with
      | some device => return .next (.shellyEnabled device) active.notBefore
      | none => return .next (.shellyIdentify devices 0) active.notBefore
  | .shellyIdentify devices cursor => do
    let candidate ← stringValue answer
    let selector ← selector active.payload
    let found := if selector.1 = "ip" then decide (trim candidate = selector.2)
      else decide (normalizeMac candidate = some selector.2)
    if found then return .next (.shellyEnabled ((devices[cursor]?).getD "")) active.notBefore
    else if cursor + 1 < devices.length then
      return .next (.shellyIdentify devices (cursor + 1)) active.notBefore
    else return .done .applied
  | .shellyEnabled device => do
    let enabled ← binaryValue answer
    match enabled with
    | some 0 => return .done .applied
    | some 1 => return .next (.shellyDisable device) active.notBefore
    | _ => return .done .dropped
  | _ => .error "non-Shelly stage reached Shelly transition"

/-- `transition`. -/
def transition (active : ActiveCommand) (answer : DbusAnswer) (now : ℚ) : Except String Transition :=
  match answer with
  | .error _ => .ok (transitionError active)
  | answer =>
    match active.stage with
    | .relayRefresh _ | .relayManualRead _ _ | .relayManualWrite _ _ | .relayOutput _ _ | .relayVerify _ _ =>
      transitionRelay active answer now
    | .essWrite | .shellyDisable _ => do
      let _ ← writeCode answer
      return .done .applied
    | .shellyDiscover | .shellyIdentify _ _ | .shellyEnabled _ => transitionShelly active answer

/-! ## What a transition can do -/

/-- The stages that a stage can lead to. -/
inductive Stage.Successor : Stage → Stage → Prop where
  | nextCandidate (relay candidate) :
    Successor (.relayManualRead relay candidate) (.relayManualRead relay (candidate + 1))
  | notManual (relay candidate) :
    Successor (.relayManualRead relay candidate) (.relayManualWrite relay candidate)
  | manual (relay candidate) : Successor (.relayManualRead relay candidate) (.relayOutput relay 0)
  | writeFailed (relay candidate) :
    Successor (.relayManualWrite relay candidate) (.relayManualRead relay (candidate + 1))
  | madeManual (relay candidate) : Successor (.relayManualWrite relay candidate) (.relayOutput relay 0)
  | written (relay retry) : Successor (.relayOutput relay retry) (.relayVerify relay retry)
  | again (relay) : Successor (.relayVerify relay 0) (.relayOutput relay 1)
  | discovered (device) : Successor .shellyDiscover (.shellyEnabled device)
  | candidates (devices) : Successor .shellyDiscover (.shellyIdentify devices 0)
  | identified (devices cursor device) : Successor (.shellyIdentify devices cursor) (.shellyEnabled device)
  | nextDevice (devices cursor) :
    Successor (.shellyIdentify devices cursor) (.shellyIdentify devices (cursor + 1))
  | enabled (device) : Successor (.shellyEnabled device) (.shellyDisable device)

/-- The stages that can end with the command applied. -/
def Stage.CanApply : Stage → Prop
  | .relayRefresh _ | .relayVerify _ _ | .essWrite => True
  | .shellyDiscover | .shellyIdentify _ _ | .shellyEnabled _ | .shellyDisable _ => True
  | .relayManualRead _ _ | .relayManualWrite _ _ | .relayOutput _ _ => False

/-- A result leads to a successor of the stage, or ends the command, as applied only where the stage can. -/
inductive Transition.Legal (stage : Stage) : Transition → Prop where
  | next {next : Stage} (h : stage.Successor next) (notBefore : ℚ) : Legal stage (.next next notBefore)
  | applied (h : stage.CanApply) : Legal stage (.done .applied)
  | deferred : Legal stage (.done .deferred)
  | dropped : Legal stage (.done .dropped)

theorem transitionError_legal (active : ActiveCommand) : (transitionError active).Legal active.stage := by
  unfold transitionError
  cases active.stage with
  | relayManualRead relay candidate =>
    dsimp only
    split
    · exact .next (.nextCandidate relay candidate) _
    · exact .deferred
  | relayManualWrite relay candidate =>
    dsimp only
    split
    · exact .next (.writeFailed relay candidate) _
    · exact .deferred
  | relayVerify relay retry => exact .applied trivial
  | _ => exact .deferred

variable {active : ActiveCommand} {answer : DbusAnswer} {result : Transition}

theorem transitionRelay_legal {now : ℚ}
    (h : transitionRelay active answer now = .ok result) : result.Legal active.stage := by
  unfold transitionRelay at h
  split at h <;> rename_i hstage
  · obtain ⟨observed, -, h⟩ := bind_eq_ok.mp h
    obtain rfl := Except.ok.inj h
    rw [hstage]
    split
    · exact .applied trivial
    · exact .dropped
  · obtain ⟨value, -, h⟩ := bind_eq_ok.mp h
    obtain rfl := Except.ok.inj h
    rw [hstage]
    refine .next ?_ _
    split
    · exact .manual _ _
    · exact .notManual _ _
  · obtain ⟨code, -, h⟩ := bind_eq_ok.mp h
    obtain rfl := Except.ok.inj h
    rw [hstage]
    exact .next (.madeManual _ _) _
  · obtain ⟨code, -, h⟩ := bind_eq_ok.mp h
    obtain ⟨settle, -, h⟩ := bind_eq_ok.mp h
    obtain rfl := Except.ok.inj h
    rw [hstage]
    exact .next (.written _ _) _
  · obtain ⟨observed, -, h⟩ := bind_eq_ok.mp h
    obtain ⟨target, -, h⟩ := bind_eq_ok.mp h
    split at h
    · obtain rfl := Except.ok.inj h
      rw [hstage]
      exact .applied trivial
    · split at h
      · rename_i hretry
        obtain ⟨delay, -, h⟩ := bind_eq_ok.mp h
        obtain rfl := Except.ok.inj h
        rw [hstage, hretry]
        exact .next (.again _) _
      · obtain rfl := Except.ok.inj h
        exact .dropped
  · nomatch h

theorem transitionShelly_legal
    (h : transitionShelly active answer = .ok result) : result.Legal active.stage := by
  unfold transitionShelly at h
  split at h <;> rename_i hstage
  · obtain ⟨devices, -, h⟩ := bind_eq_ok.mp h
    split at h
    · obtain rfl := Except.ok.inj h
      rw [hstage]
      exact .applied trivial
    · obtain ⟨selector, -, h⟩ := bind_eq_ok.mp h
      dsimp only at h
      split at h
      · obtain rfl := Except.ok.inj h
        rw [hstage]
        exact .next (.discovered _) _
      · obtain rfl := Except.ok.inj h
        rw [hstage]
        exact .next (.candidates _) _
  · obtain ⟨candidate, -, h⟩ := bind_eq_ok.mp h
    obtain ⟨selector, -, h⟩ := bind_eq_ok.mp h
    dsimp only at h
    generalize (if selector.1 = "ip" then _ else _) = found at h
    cases found with
    | true =>
      obtain rfl := Except.ok.inj h
      rw [hstage]
      exact .next (.identified _ _ _) _
    | false =>
      rw [if_neg Bool.false_ne_true] at h
      split at h
      · obtain rfl := Except.ok.inj h
        rw [hstage]
        exact .next (.nextDevice _ _) _
      · obtain rfl := Except.ok.inj h
        rw [hstage]
        exact .applied trivial
  · obtain ⟨enabled, -, h⟩ := bind_eq_ok.mp h
    split at h
    · obtain rfl := Except.ok.inj h
      rw [hstage]
      exact .applied trivial
    · obtain rfl := Except.ok.inj h
      rw [hstage]
      exact .next (.enabled _) _
    · obtain rfl := Except.ok.inj h
      exact .dropped
  · nomatch h

/-- Everything that an answer can lead to. -/
theorem transition_legal {now : ℚ}
    (h : transition active answer now = .ok result) : result.Legal active.stage := by
  unfold transition at h
  split at h
  · obtain rfl := Except.ok.inj h
    exact transitionError_legal active
  · cases hstage : active.stage with
    | relayRefresh | relayManualRead | relayManualWrite | relayOutput | relayVerify =>
      rw [hstage] at h
      exact hstage ▸ transitionRelay_legal h
    | shellyDiscover | shellyIdentify | shellyEnabled =>
      rw [hstage] at h
      exact hstage ▸ transitionShelly_legal h
    | essWrite | shellyDisable =>
      rw [hstage] at h
      obtain ⟨code, -, h⟩ := bind_eq_ok.mp h
      obtain rfl := Except.ok.inj h
      exact .applied trivial

end VenusEvcharger.NativeGateway
