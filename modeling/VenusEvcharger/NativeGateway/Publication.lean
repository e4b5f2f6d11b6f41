import VenusEvcharger.NativeGateway.Json

/-!
# The publication registry of the native gateway

`PublicationRegistry::apply` registers D-Bus services and publishes their fields. A publication may carry a
transport order, one for all fields or one for each, and a field with an order below the recorded one is left
out. The result of a call lists the fields that it made visible, also when the call fails after some of them.

Scope: the bus and the clock answer as the call is told. Text formats of values, freshness observations and the
handler for writes from the bus are left out.
-/

namespace VenusEvcharger.NativeGateway

open Library

/-! ## Values on the bus -/

/-- `BusValue`. -/
inductive BusValue where
  | invalid
  | bool (b : Bool)
  | i32 (i : Int)
  | i64 (i : Int)
  | f64 (x : ℚ)
  | text (s : String)
deriving DecidableEq

/-- `number_from_json` on an integer. -/
def BusValue.ofInt (i : Int) : BusValue := if -2 ^ 31 ≤ i ∧ i < 2 ^ 31 then .i32 i else .i64 i

/-- `BusValue::from_json`. -/
def BusValue.fromJson : Json → Except String BusValue
  | .null => .ok .invalid
  | .bool b => .ok (.bool b)
  | .int i =>
    match (Json.int i).asI64 with
    | some i => .ok (.ofInt i)
    | none => .ok (.f64 i)
  | .float x => .ok (.f64 x)
  | .string s => .ok (.text s)
  | .array _ | .object _ => .error "publication values must be scalar"

/-! ## The publication contract -/

/-- `PathSpec`. -/
structure PathSpec where
  path : String
  default : Json
  formatter : Option String

/-- The fields of one publication surface. -/
abbrev Surface := List (String × PathSpec)

/-- `PublicationContract`. -/
structure PublicationContract where
  evcs : Surface
  companion : List (String × Surface)

/-- `validate_fields`. -/
def validateFields (fields : JsonMap) (specs : Surface) : Except String Unit :=
  match fields.find? fun entry => (specs.lookup entry.1).isNone with
  | some (field, _) => .error ("unknown semantic publication field: " ++ field)
  | none => .ok ()

/-- `text_format`, as far as it fails. -/
def textFormat : Option String → Except String Unit
  | none => .ok ()
  | some value =>
    if value ∈ ["kwh", "amps", "watts", "volts", "status"] then .ok ()
    else .error ("unknown D-Bus text formatter: " ++ value)

/-! ## Transport orders -/

/-- `positive_u64`. -/
def positiveU64 : Option Json → Option Nat
  | some (.int i) => (Json.int i).asU64.filter (0 < ·)
  | some (.string text) => (parseUnsigned text).filter fun n => 0 < n && n < 2 ^ 64
  | _ => none

/-- The order of a field as `accepted_fields` reads it: its own one, or the one of the command. -/
def transportOrder (command : JsonMap) (field : String) : Option Nat :=
  ((command.object? "transport_field_orders").bind fun orders => positiveU64 (orders.get? field)) <|>
    positiveU64 (command.get? "transport_order")

/-! ## Published services -/

/-- What the bus and the clock answer during one call. -/
structure BusAnswers where
  /-- The error of `Clocks::now`, if any. -/
  clock : Option String
  /-- The error of `PublishedService::register` after the values were stored, if any. -/
  register : Option String
  /-- The error of emitting `PropertiesChanged` for a path, if any. -/
  signal : String → Option String

/-- `PublishedService`, with the value of every path. -/
structure PublishedService where
  serviceName : String
  paths : Dict String BusValue

/-- `PublishedService::publish`: whether the value was new, and the service with the value stored. -/
def PublishedService.publish (answers : BusAnswers) (service : PublishedService) (path : String)
    (value : BusValue) : PublishedService × Except String Bool :=
  match service.paths.get? path with
  | none => (service, .error ("unknown publication path: " ++ path))
  | some current =>
    if current = value then (service, .ok false)
    else
      let service := { service with paths := service.paths.set path value }
      match answers.signal path with
      | some error => (service, .error error)
      | none => (service, .ok true)

/-- `RegisteredService`. -/
structure RegisteredService where
  kind : String
  service : PublishedService
  updateIndex : Int

/-- `PublicationOutcome`. -/
inductive PublicationOutcome where
  | applied
  | deferred
  | dropped
deriving DecidableEq

/-- The settings that give the services their identities. -/
structure PublicationIdentity where
  evcsServiceName : String
  deviceInstance : Int
  position : Int
  /-- `companion_identity` of a kind and a service id. -/
  companion : String → String → String × Int

/-- `PublicationRegistry`. -/
structure PublicationRegistry where
  contract : PublicationContract
  identity : PublicationIdentity
  services : Dict String RegisteredService
  serviceNames : Dict String String
  deviceInstances : Dict Int String
  fieldOrders : Dict (String × String) Nat

/-- `PublicationRegistry::new`. -/
def PublicationRegistry.new (contract : PublicationContract) (identity : PublicationIdentity) :
    PublicationRegistry :=
  ⟨contract, identity, Dict.empty, Dict.empty, Dict.empty, Dict.empty⟩

/-- A field that a call has made visible. -/
structure ShownField where
  serviceId : String
  field : String
  value : BusValue

/-- What a call returns: the registry, the fields it has made visible, and its result. -/
structure ApplyResult where
  registry : PublicationRegistry
  shown : List ShownField
  result : Except String PublicationOutcome

/-! ## Identities -/

/-- The mappings of `common_identity_paths`. -/
def identityMappings : List (String × String) :=
  [("process_name", "/Mgmt/ProcessName"), ("process_version", "/Mgmt/ProcessVersion"),
    ("connection_name", "/Mgmt/Connection"), ("product_name", "/ProductName"),
    ("custom_name", "/CustomName"), ("firmware_version", "/FirmwareVersion"),
    ("hardware_version", "/HardwareVersion"), ("serial", "/Serial")]

/-- `common_identity_paths`, which is all of `companion_identity_paths`. -/
def commonIdentityPaths (identity : JsonMap) (deviceInstance : Int) :
    Except String (List (String × BusValue)) := do
  let paths ← identityMappings.mapM fun (field, path) =>
    match identity.text? field with
    | some value => .ok (path, BusValue.text value)
    | none => .error ("publication identity lacks " ++ field)
  return paths ++ [("/DeviceInstance", .ofInt deviceInstance), ("/ProductId", .i32 0xffff)]

/-- `evcs_identity_paths`. -/
def evcsIdentityPaths (position : Int) (identity : JsonMap) (deviceInstance : Int) :
    Except String (List (String × BusValue)) := do
  let paths ← commonIdentityPaths identity deviceInstance
  return paths ++ [("/Position", .ofInt position)]

namespace PublicationRegistry

/-- `specs`. -/
def specs (r : PublicationRegistry) (kind : String) : Option Surface :=
  if kind = "evcs" then some r.contract.evcs else r.contract.companion.lookup kind

/-- `reserve_identity`. -/
def reserveIdentity (r : PublicationRegistry) (serviceId serviceName : String) (deviceInstance : Int) :
    Except String PublicationRegistry :=
  if (r.serviceNames.get? serviceName).any (· ≠ serviceId) then
    .error ("D-Bus service-name collision: " ++ serviceName)
  else if (r.deviceInstances.get? deviceInstance).any (· ≠ serviceId) then
    .error ("D-Bus DeviceInstance collision: " ++ toString deviceInstance)
  else .ok { r with
    serviceNames := r.serviceNames.set serviceName serviceId
    deviceInstances := r.deviceInstances.set deviceInstance serviceId }

/-- The initial value of a field. -/
def initialValue (fields : JsonMap) (entry : String × PathSpec) : Except String (String × BusValue) := do
  let value ← BusValue.fromJson ((fields.get? entry.1).getD entry.2.default)
  textFormat entry.2.formatter
  return (entry.1, value)

/-! ## Registration -/

/-- The steps of `create_service` after the identity was reserved. -/
def buildService (r : PublicationRegistry) (answers : BusAnswers) (serviceId kind serviceName : String)
    (identityPaths : List (String × BusValue)) (fields : JsonMap) :
    Except String (RegisteredService × List ShownField) :=
  match r.specs kind with
  | none => .error ("unknown publication surface: " ++ kind)
  | some specs =>
    match validateFields fields specs with
    | .error error => .error error
    | .ok () =>
      match specs.mapM (initialValue fields) with
      | .error error => .error error
      | .ok values =>
        match answers.clock <|> answers.register with
        | some error => .error error
        | none =>
          let paths := (specs.zip values).map fun (spec, value) => (spec.2.path, value.2)
          .ok (⟨kind, ⟨serviceName, Dict.ofList (identityPaths ++ paths ++ [("/UpdateIndex", .i32 0)])⟩, 0⟩,
            values.map fun (field, value) => ⟨serviceId, field, value⟩)

/-- `create_service`. -/
def createService (r : PublicationRegistry) (answers : BusAnswers) (serviceId kind serviceName : String)
    (deviceInstance : Int) (identityPaths : List (String × BusValue)) (fields : JsonMap) : ApplyResult :=
  match r.reserveIdentity serviceId serviceName deviceInstance with
  | .error error => ⟨r, [], .error error⟩
  | .ok r =>
    match r.buildService answers serviceId kind serviceName identityPaths fields with
    | .error error => ⟨r, [], .error error⟩
    | .ok (service, shown) =>
      ⟨{ r with services := r.services.set serviceId service }, shown, .ok .applied⟩

/-! ## Publication -/

/-- One field of `accepted_fields`. -/
def acceptField (serviceId : String) (command : JsonMap) (r : PublicationRegistry) (field : String) :
    PublicationRegistry × Bool :=
  match transportOrder command field with
  | none => (r, true)
  | some order =>
    if order < (r.fieldOrders.get? (serviceId, field)).getD 0 then (r, false)
    else ({ r with fieldOrders := r.fieldOrders.set (serviceId, field) order }, true)

/-- `accepted_fields`, which records the order of every field it accepts. -/
def acceptedFields (serviceId : String) (command : JsonMap) :
    PublicationRegistry → JsonMap → PublicationRegistry × JsonMap
  | r, [] => (r, [])
  | r, (field, value) :: fields =>
    let (r, accepted) := acceptField serviceId command r field
    let (r, rest) := acceptedFields serviceId command r fields
    (r, if accepted then (field, value) :: rest else rest)

/-- A field that is to be published: its name, its path and its value. -/
abbrev FieldUpdate := String × String × BusValue

/-- The update of an accepted field. -/
def fieldUpdate (specs : Surface) (entry : String × Json) : Except String FieldUpdate := do
  let some spec := specs.lookup entry.1 | .error "missing path"
  return (entry.1, spec.path, ← BusValue.fromJson entry.2)

/-- The loop of `publish` over the updates: the service, the updates that were stored, and whether one of
them was new. -/
def publishUpdates (answers : BusAnswers) :
    PublishedService → Bool → List FieldUpdate → PublishedService × List FieldUpdate × Except String Bool
  | service, changed, [] => (service, [], .ok changed)
  | service, changed, (field, path, value) :: updates =>
    match service.publish answers path value with
    | (service, .error error) =>
      (service, if service.paths.get? path = some value then [(field, path, value)] else [], .error error)
    | (service, .ok new) =>
      let (service, stored, result) := publishUpdates answers service (changed || new) updates
      (service, (field, path, value) :: stored, result)

/-- The update index after a change. -/
def nextUpdateIndex (index : Int) : Int := if 255 ≤ index then 0 else index + 1

section

variable (r : PublicationRegistry) (answers : BusAnswers)

/-- `publish`. -/
def publish (serviceId : String) (command : JsonMap) :
    ApplyResult :=
  match r.services.get? serviceId with
  | none => ⟨r, [], .ok .deferred⟩
  | some record =>
    match command.object? "fields" with
    | none => ⟨r, [], .ok .dropped⟩
    | some fields =>
      match r.specs record.kind with
      | none => ⟨r, [], .error ("unknown publication surface: " ++ record.kind)⟩
      | some specs =>
        match validateFields fields specs with
        | .error error => ⟨r, [], .error error⟩
        | .ok () =>
          let (r, accepted) := acceptedFields serviceId command r fields
          match accepted.mapM (fieldUpdate specs) with
          | .error error => ⟨r, [], .error error⟩
          | .ok updates =>
            match answers.clock with
            | some error => ⟨r, [], .error error⟩
            | none =>
              let (service, stored, result) := publishUpdates answers record.service false updates
              let shown := stored.map fun (field, _, value) => ⟨serviceId, field, value⟩
              match result with
              | .error error =>
                ⟨{ r with services := r.services.set serviceId { record with service := service } }, shown,
                  .error error⟩
              | .ok false =>
                ⟨{ r with services := r.services.set serviceId { record with service := service } }, shown,
                  .ok .applied⟩
              | .ok true =>
                let index := nextUpdateIndex record.updateIndex
                let (service, indexed) := service.publish answers "/UpdateIndex" (.i32 index)
                let r := { r with
                  services := r.services.set serviceId ⟨record.kind, service, index⟩ }
                match indexed with
                | .error error => ⟨r, shown, .error error⟩
                | .ok _ => ⟨r, shown, .ok .applied⟩

/-! ## `apply` -/

/-- `register_evcs`. -/
def registerEvcs (command : JsonMap) : ApplyResult :=
  if r.services.contains "evcs" then r.publish answers "evcs" command
  else
    match command.object? "identity" with
    | none => ⟨r, [], .ok .dropped⟩
    | some identity =>
      let fields := (command.object? "fields").getD []
      match evcsIdentityPaths r.identity.position identity r.identity.deviceInstance with
      | .error error => ⟨r, [], .error error⟩
      | .ok identityPaths =>
        r.createService answers "evcs" "evcs" r.identity.evcsServiceName r.identity.deviceInstance
          identityPaths fields

/-- `register_companion`. -/
def registerCompanion (command : JsonMap) : ApplyResult :=
  match command.object? "identity" with
  | none => ⟨r, [], .ok .dropped⟩
  | some identity =>
    match identity.text? "service_id", identity.text? "kind" with
    | some serviceId, some kind =>
      if r.services.contains serviceId then r.publish answers serviceId command
      else if (r.contract.companion.lookup kind).isNone then ⟨r, [], .ok .dropped⟩
      else
        let (serviceName, deviceInstance) := r.identity.companion kind serviceId
        match commonIdentityPaths identity deviceInstance with
        | .error error => ⟨r, [], .error error⟩
        | .ok identityPaths =>
          r.createService answers serviceId kind serviceName deviceInstance identityPaths
            ((command.object? "fields").getD [])
    | _, _ => ⟨r, [], .ok .dropped⟩

/-- `apply`. -/
def apply (command : JsonMap) : ApplyResult :=
  match (command.text? "kind").getD "" with
  | "register_evcs" => r.registerEvcs answers command
  | "publish_evcs_fields" => r.publish answers "evcs" command
  | "register_companion" => r.registerCompanion answers command
  | "publish_companion_fields" =>
    match command.text? "service_id" with
    | none => ⟨r, [], .ok .dropped⟩
    | some serviceId => r.publish answers serviceId command
  | _ => ⟨r, [], .ok .dropped⟩

end

end PublicationRegistry

end VenusEvcharger.NativeGateway
