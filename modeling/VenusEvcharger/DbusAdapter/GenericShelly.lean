import VenusEvcharger.DbusAdapter.RelaySet
import VenusEvcharger.DbusAdapter.ShellyExchanges

/-!
# The command that disables a generic Shelly

`GenericShellyConfigurationExecutor` takes a persisted command through its phases, with one bus operation for every
attempt: it discovers the devices, reads their identities one after the other until one matches, reads whether the
channel of that device is enabled, and disables it. The progress is rewritten into the command file.

Scope: `replaced` says whether the file still holds the dispatched command when it is rewritten; what else is in the
file stays. The introspection is given by the names of the child nodes of the parsed document. Log lines are left out.
-/

namespace VenusEvcharger

open Library

/-! ## Selectors -/

/-- `_MAC_SEPARATORS`. -/
def isMacSeparator (c : Char) : Bool := c = ':' || c = '.' || c = '-' || isSpace c

/-- The upper case of a character, as far as it has hexadecimal digits: a ligature of two letters f has two. -/
def upperDigits (c : Char) : List Char := if c.toNat = 0xFB00 then ['F', 'F'] else [c.toUpper]

/-- `normalize_mac_address`, `none` where it raises `ValueError`. -/
def normalizeMacAddress (value : String) : Option String :=
  let normalized := (value.toList.filter fun c => !isMacSeparator c).flatMap upperDigits
  if normalized.length = 12 ∧ normalized.all (fun c => c.isDigit || (decide ('A' ≤ c) && decide (c ≤ 'F'))) then
    some (String.ofList normalized)
  else none

/-- `GenericShellySelectorKind`. -/
inductive GenericShellySelectorKind where
  | ip
  | mac
deriving DecidableEq

def GenericShellySelectorKind.text : GenericShellySelectorKind → String
  | .ip => "ip"
  | .mac => "mac"

/-- `GenericShellyDeviceSelector`. -/
structure GenericShellyDeviceSelector where
  kind : GenericShellySelectorKind
  value : String
deriving DecidableEq

/-- `DisableMatchingGenericShellyOnceRequest`. -/
structure DisableMatchingGenericShellyOnceRequest where
  selector : GenericShellyDeviceSelector
  channel : Int
  channel_pos : 1 ≤ channel
deriving DecidableEq

/-! ## The wire contract -/

def disableMatchingGenericShellyOnceKind : String := "disable_matching_generic_shelly_once"

def genericShellyConfigurationSource : String := "generic-shelly-configuration"

def genericShellyConfigurationQueueClass : String := "remote-write"

def genericShellyConfigurationSchemaVersion : Int := 1

/-- `_BASE_FIELDS`. -/
def shellyBaseFields : List String :=
  ["kind", "source", "selector", "channel", "execution", "persistence", "priority", "coalesce_key"]

/-- `_TRANSPORT_REQUIRED_FIELDS`. -/
def shellyTransportRequiredFields : List String :=
  ["schema_version", "id", "created_at", "queue_class", "lifecycle_state"]

/-- `_TRANSPORT_OPTIONAL_FIELDS`. -/
def shellyTransportOptionalFields : List String := ["updated_at"]

/-- `_LIFECYCLE_STATES`. -/
def shellyLifecycleStates : List String := ["queued", "coalesced", "deferred", "applied", "dropped", "expired"]

/-- `_coalesce_key`. -/
def shellyCoalesceKey (request : DisableMatchingGenericShellyOnceRequest) : String :=
  "generic-shelly-configuration:disable-once:" ++ request.selector.kind.text ++ ":" ++ request.selector.value ++
    ":channel:" ++ toString request.channel

/-- `disable_matching_generic_shelly_once_command`. -/
def disableMatchingGenericShellyOnceCommand (request : DisableMatchingGenericShellyOnceRequest) : CommandPayload :=
  Dict.ofList [("kind", .str disableMatchingGenericShellyOnceKind),
    ("source", .str genericShellyConfigurationSource),
    ("selector", .obj [("kind", .str request.selector.kind.text), ("value", .str request.selector.value)]),
    ("channel", .int request.channel),
    ("execution", .str "once"),
    ("persistence", .str "persistent"),
    ("priority", .str "user"),
    ("coalesce_key", .str (shellyCoalesceKey request))]

/-- `_valid_field_set`. -/
def validShellyFieldSet (command : CommandPayload) : Bool :=
  let transportFields := command.keys.filter (· ∉ shellyBaseFields)
  if transportFields.isEmpty then shellyBaseFields.all command.contains
  else
    (shellyBaseFields ++ shellyTransportRequiredFields).all command.contains &&
      transportFields.all (· ∈ shellyTransportRequiredFields ++ shellyTransportOptionalFields)

/-- A value that passes `_is_selector_kind`. -/
def parsedSelectorKind : Option Value → Option GenericShellySelectorKind
  | some (.str "ip") => some .ip
  | some (.str "mac") => some .mac
  | _ => none

/-- `_is_positive_finite_number`. -/
def isPositiveFiniteNumber : Value → Bool
  | .int i => decide (0 < i)
  | .float (.fin x) => decide (0 < x)
  | _ => false

/-- `_is_non_empty_text`. -/
def isNonEmptyText : Option Value → Bool
  | some (.str s) => decide (strip s ≠ "")
  | _ => false

/-- `_valid_required_transport_fields`. -/
def validRequiredTransportFields (command : CommandPayload) : Bool :=
  command.get? "schema_version" = some (.int genericShellyConfigurationSchemaVersion) &&
    isNonEmptyText (command.get? "id") &&
    (command.get? "created_at").any isPositiveFiniteNumber &&
    command.get? "queue_class" = some (.str genericShellyConfigurationQueueClass) &&
    match command.get? "lifecycle_state" with
    | some (.str state) => state ∈ shellyLifecycleStates
    | _ => false

/-- `_valid_transport_envelope`. -/
def validTransportEnvelope (command : CommandPayload) : Bool :=
  if !command.contains "schema_version" then true
  else
    validRequiredTransportFields command &&
      match command.get? "updated_at" with
      | none | some .null => true
      | some value => isPositiveFiniteNumber value

/-- `_valid_semantic_envelope`. -/
def validSemanticEnvelope (command : CommandPayload) (request : DisableMatchingGenericShellyOnceRequest) : Bool :=
  command.get? "kind" = some (.str disableMatchingGenericShellyOnceKind) &&
    command.get? "source" = some (.str genericShellyConfigurationSource) &&
    command.get? "execution" = some (.str "once") &&
    command.get? "persistence" = some (.str "persistent") &&
    command.get? "priority" = some (.str "user") &&
    command.get? "coalesce_key" = some (.str (shellyCoalesceKey request))

section

-- `str(ipaddress.ip_address(value))`, `none` where it raises `ValueError`
variable (ipAddress : String → Option String)

/-- `_normalized_selector_value`. -/
def normalizedSelectorValue (kind : GenericShellySelectorKind) (value : String) : Option String :=
  match kind with
  | .ip => ipAddress (strip value)
  | .mac => normalizeMacAddress value

/-- `_parsed_selector`. -/
def parsedSelector (value : Option Value) : Option GenericShellyDeviceSelector := do
  let payload ← stringMapping value
  guard (payload.keys.all (· ∈ ["kind", "value"]) && payload.contains "kind" && payload.contains "value")
  let kind ← parsedSelectorKind (payload.get? "kind")
  match payload.get? "value" with
  | some (.str selectorValue) =>
    if normalizedSelectorValue ipAddress kind selectorValue = some selectorValue then some ⟨kind, selectorValue⟩
    else none
  | _ => none

/-- `_parsed_request`. -/
def parsedRequest (command : CommandPayload) : Option DisableMatchingGenericShellyOnceRequest :=
  match parsedSelector ipAddress (command.get? "selector"), command.get? "channel" with
  | some selector, some (.int channel) => if h : 1 ≤ channel then some ⟨selector, channel, h⟩ else none
  | _, _ => none

/-- `parse_disable_matching_generic_shelly_once`. -/
def parseDisableMatchingGenericShellyOnce (command : CommandPayload) : Option DisableMatchingGenericShellyOnceRequest :=
  if validShellyFieldSet command then
    match parsedRequest ipAddress command with
    | none => none
    | some request =>
      if validSemanticEnvelope command request && validTransportEnvelope command then some request else none
  else none

end

/-! ## Progress -/

/-- `GenericShellyPhase`. -/
inductive GenericShellyPhase where
  | discover
  | identify
  | enabled
  | disable
deriving DecidableEq

def GenericShellyPhase.text : GenericShellyPhase → String
  | .discover => "discover"
  | .identify => "identify"
  | .enabled => "enabled"
  | .disable => "disable"

/-- `_PROGRESS_FIELDS`. -/
def shellyProgressFields : List String := ["phase", "devices", "cursor", "matched_device"]

/-- `_Progress`. -/
structure ShellyProgress where
  phase : GenericShellyPhase
  devices : List String
  cursor : Nat
  matchedDevice : String

/-- A value that passes `_is_phase`; without one the command starts with the discovery. -/
def parsedShellyPhase : Option Value → Option GenericShellyPhase
  | none | some (.str "discover") => some .discover
  | some (.str "identify") => some .identify
  | some (.str "enabled") => some .enabled
  | some (.str "disable") => some .disable
  | _ => none

/-- The stripped text of an item, empty for what is no text. -/
def strippedText : Value → String
  | .str s => strip s
  | _ => ""

/-- `_normalized_devices`, where every item passes `_is_device_sequence`. -/
def normalizedDevices : Option Value → Option (List String)
  | none => some []
  | some (.list items) => if items.all (strippedText · ≠ "") then some (items.map strippedText) else none
  | _ => none

/-- A value that passes `_valid_cursor`. -/
def parsedCursor : Option Value → Option Nat
  | none => some 0
  | some (.int i) => if 0 ≤ i then some i.toNat else none
  | _ => none

/-- The stripped `matched_device`. -/
def parsedMatchedDevice : Option Value → Option String
  | none => some ""
  | some (.str s) => some (strip s)
  | _ => none

/-- `_progress`. -/
def shellyProgress (command : CommandPayload) : Option ShellyProgress := do
  let phase ← parsedShellyPhase (command.get? "phase")
  let devices ← normalizedDevices (command.get? "devices")
  let cursor ← parsedCursor (command.get? "cursor")
  let matchedDevice ← parsedMatchedDevice (command.get? "matched_device")
  return ⟨phase, devices, cursor, matchedDevice⟩

/-- The command without its progress, as `_operation` parses it. -/
def shellyEnvelope (command : CommandPayload) : CommandPayload :=
  command.filter fun key _ => decide (key ∉ shellyProgressFields)

/-! ## One attempt -/

/-- What the bus answers: to an introspection the names of the child nodes, `none` for a document that is rejected. -/
structure ShellyBus where
  introspect : String → String → Except String (Option (List (Option String)))
  getValue : String → String → Except String Value
  setValue : String → String → Int → Except String Unit

/-- `_devices_from_xml`. -/
def devicesFromXml (nodes : Option (List (Option String))) : List String :=
  (nodes.getD []).filterMap fun name => if strip (name.getD "") = "" then none else some (strip (name.getD ""))

/-- What an attempt leaves: the exchange on the bus, the outcome, and the command in the file. -/
structure ShellyAttempt where
  exchange : Option ShellyExchange
  outcome : CommandOutcome
  command : CommandPayload

section

variable [PyLib]

/-- The reading of a value. -/
def shellyReading (value : Value) : ShellyReading where
  text := value.text
  number :=
    match coerceDbusNumeric value with
    | some (.fin x) => some x
    | _ => none

end

/-- `_identity_field`. -/
def identityField (kind : GenericShellySelectorKind) : String := if kind = .ip then "Ip" else "Mac"

/-- `_identity_matches` on the text of the value. -/
def identityMatches (kind : GenericShellySelectorKind) (candidate expected : String) : Bool :=
  if kind = .ip then strip candidate = expected else normalizeMacAddress candidate = some expected

/-- `_serial_matches_mac`. -/
def serialMatchesMac (serial expected : String) : Bool := normalizeMacAddress serial = some expected

/-- What the command looks for on its service. -/
def shellyTarget (service : String) (request : DisableMatchingGenericShellyOnceRequest) : ShellyTarget where
  service := service
  identityField := identityField request.selector.kind
  named device := request.selector.kind = .mac && serialMatchesMac device request.selector.value
  identified candidate := identityMatches request.selector.kind candidate request.selector.value
  channel := toString request.channel

/-- `_rewrite`. -/
def rewriteShellyCommand (command : CommandPayload) (replaced : Bool) (exchange : Option ShellyExchange)
    (changes : List (String × Value)) : ShellyAttempt :=
  if replaced then ⟨exchange, .deferred, changes.foldl (fun command change => command.set change.1 change.2) command⟩
  else ⟨exchange, .dropped, command⟩

section

variable [PyLib] (t : ShellyTarget) (command : CommandPayload) (progress : ShellyProgress) (bus : ShellyBus)
  (replaced : Bool)

/-- `_discover` with its callback. -/
def shellyDiscover : ShellyAttempt :=
  match bus.introspect t.service "/Devices" with
  | .error _ => ⟨some (.introspect t.service "/Devices" none), .deferred, command⟩
  | .ok nodes =>
    let devices := devicesFromXml nodes
    let exchange := some (.introspect t.service "/Devices" (some devices))
    if devices.isEmpty then ⟨exchange, .applied, command⟩
    else
      rewriteShellyCommand command replaced exchange
        [("phase", .str GenericShellyPhase.identify.text), ("devices", .list (devices.map .str)), ("cursor", .int 0)]

/-- `_identify` with its callback. -/
def shellyIdentify : ShellyAttempt :=
  match progress.devices[progress.cursor]? with
  | none => ⟨none, .applied, command⟩
  | some device =>
    let found := [("phase", Value.str GenericShellyPhase.enabled.text), ("matched_device", .str device)]
    if t.named device then rewriteShellyCommand command replaced none found
    else
      match bus.getValue t.service (t.identityPath device) with
      | .error _ => ⟨some (.read t.service (t.identityPath device) none), .deferred, command⟩
      | .ok value =>
        rewriteShellyCommand command replaced
          (some (.read t.service (t.identityPath device) (some (shellyReading value))))
          (if t.identified value.text then found else [("cursor", .int (progress.cursor + 1))])

/-- `_read_enabled` with its callback. -/
def shellyReadEnabled : ShellyAttempt :=
  if progress.matchedDevice = "" then ⟨none, .dropped, command⟩
  else
    let path := t.enabledPath progress.matchedDevice
    match bus.getValue t.service path with
    | .error _ => ⟨some (.read t.service path none), .deferred, command⟩
    | .ok value =>
      let exchange := some (.read t.service path (some (shellyReading value)))
      let enabled := (coerceDbusNumeric value).getD .nan
      if enabled.eq (.fin 0) then ⟨exchange, .applied, command⟩
      else if !enabled.eq (.fin 1) then ⟨exchange, .dropped, command⟩
      else rewriteShellyCommand command replaced exchange [("phase", .str GenericShellyPhase.disable.text)]

/-- `_disable` with its callback. -/
def shellyDisable : ShellyAttempt :=
  if progress.matchedDevice = "" then ⟨none, .dropped, command⟩
  else
    let path := t.enabledPath progress.matchedDevice
    match bus.setValue t.service path 0 with
    | .error _ => ⟨some (.write t.service path 0 false), .deferred, command⟩
    | .ok () => ⟨some (.write t.service path 0 true), .applied, command⟩

/-- `schedule` with the answer of the bus; the service and the command file are configured. -/
def scheduleGenericShelly (ipAddress : String → Option String) (configuredService commandFile : String) :
    ShellyAttempt :=
  match parseDisableMatchingGenericShellyOnce ipAddress (shellyEnvelope command), shellyProgress command with
  | some request, some progress =>
    if commandFile = "" then ⟨none, .dropped, command⟩
    else if strip configuredService = "" then ⟨none, .dropped, command⟩
    else
      let t := shellyTarget (strip configuredService) request
      match progress.phase with
      | .discover => shellyDiscover t command bus replaced
      | .identify => shellyIdentify t command progress bus replaced
      | .enabled => shellyReadEnabled t command progress bus
          replaced
      | .disable => shellyDisable t command progress bus
  | _, _ => ⟨none, .dropped, command⟩

end

end VenusEvcharger
