import VenusEvcharger.DbusAdapter.WriteQueue

/-!
# The publication registry of the D-Bus adapter

A `GatewayPublicationRegistry` owns the concrete D-Bus services. A registration reserves a name and a device
instance, builds the service and registers it on the bus, and a publication sets the values that differ from the
recorded ones and then moves the update index. `failed_registration_iff` says which failed registrations leave
nothing reserved.

Scope: the bus answers as the request is told. The concrete names and instances of companions, the table of the
charger's fields, text formats, writes from the bus, the value cache and the clocks of the observations are left out.
-/

namespace VenusEvcharger

open Library

/-! ## Services on the bus -/

/-- What becomes of a value that is set on a service. -/
inductive SetOutcome where
  | done
  | raised
  /-- The value became visible, and then the call raised. -/
  | raisedAfter
deriving DecidableEq

/-- The answers of the bus during one request. -/
structure BusBehavior where
  /-- `service[path] = value`. -/
  set : String → SetOutcome := fun _ => .done
  construct : Bool := true
  addPath : String → Bool := fun _ => true
  register : Bool := true

/-- A `VeDbusService` as its clients see it, with the update index apart from the other values. -/
structure DbusServiceLike where
  values : Dict String Value
  updateIndex : Nat
  /-- What a client holds that reads all values whenever it sees another update index. -/
  polled : Dict String Value

namespace DbusServiceLike

/-- `service[path] = value`, and whether it returned. -/
def setItem (s : DbusServiceLike) (path : String) (value : Value) : SetOutcome → DbusServiceLike × Bool
  | .done => ({ s with values := s.values.set path value }, true)
  | .raised => (s, false)
  | .raisedAfter => ({ s with values := s.values.set path value }, false)

/-- The service with another update index. -/
def moved (s : DbusServiceLike) (index : Nat) : DbusServiceLike :=
  if index = s.updateIndex then s else ⟨s.values, index, s.values⟩

/-- `service["/UpdateIndex"] = index`, and whether it returned. -/
def setUpdateIndex (s : DbusServiceLike) (index : Nat) : SetOutcome → DbusServiceLike × Bool
  | .done => (s.moved index, true)
  | .raised => (s, false)
  | .raisedAfter => (s.moved index, false)

end DbusServiceLike

/-! ## Fields -/

/-- `CompanionServiceKind`. -/
inductive CompanionServiceKind where
  | battery
  | grid
  | pvInverter
deriving DecidableEq

def CompanionServiceKind.text : CompanionServiceKind → String
  | .battery => "battery"
  | .grid => "grid"
  | .pvInverter => "pv_inverter"

/-- The kind of a registered service. -/
inductive PublicationKind where
  | evcs
  | companion (kind : CompanionServiceKind)
deriving DecidableEq

def PublicationKind.text : PublicationKind → String
  | .evcs => "evcs"
  | .companion kind => kind.text

/-- `PublicationPathSpec`. -/
structure PublicationPathSpec where
  path : String
  default : Value

abbrev PublicationSpecs := Dict String PublicationPathSpec

/-- The specs of a meter: `COMPANION_PUBLICATION_SPECS["grid"]` and `["pv_inverter"]`. -/
def meterPublicationSpecs : PublicationSpecs :=
  .ofList [("connected", ⟨"/Connected", .int 0⟩), ("ac_power_w", ⟨"/Ac/Power", .float (.fin 0)⟩),
    ("l1_power_w", ⟨"/Ac/L1/Power", .float (.fin 0)⟩), ("l2_power_w", ⟨"/Ac/L2/Power", .float (.fin 0)⟩),
    ("l3_power_w", ⟨"/Ac/L3/Power", .float (.fin 0)⟩)]

/-- `COMPANION_PUBLICATION_SPECS`. -/
def companionPublicationSpecs : CompanionServiceKind → PublicationSpecs
  | .battery =>
    .ofList [("connected", ⟨"/Connected", .int 0⟩), ("soc_percent", ⟨"/Soc", .null⟩),
      ("dc_power_w", ⟨"/Dc/0/Power", .float (.fin 0)⟩), ("capacity_wh", ⟨"/Capacity", .null⟩)]
  | .grid => meterPublicationSpecs
  | .pvInverter => meterPublicationSpecs

/-- The exceptions of a request. -/
inductive PublicationError where
  | unknownFields (surface : String) (unknown : List String)
  | nameCollision (owner serviceId : String)
  | instanceCollision (owner serviceId : String)
  | changedKind (serviceId : String)
  | unsupportedKind (kind : String)
  | bus
deriving DecidableEq

/-- `validate_fields`. -/
def validateFields (fields : CommandPayload) (specs : PublicationSpecs) (surface : String) :
    Except PublicationError CommandPayload :=
  let unknown := (fields.keys.filter fun field => !specs.contains field).insertionSort (· ≤ ·)
  if unknown.isEmpty then .ok fields else .error (.unknownFields surface unknown)

/-! ## Records -/

/-- `RegisteredPublicationService`. -/
structure RegisteredPublicationService where
  serviceId : String
  kind : PublicationKind
  serviceName : String
  deviceInstance : Int
  service : DbusServiceLike
  /-- The values that the registry set, by path. -/
  values : Dict String Value
  semanticValues : Dict String Value
  updateIndex : Nat

namespace RegisteredPublicationService

def maxUpdateIndex : Nat := 255

/-- `record.values.get(path) == value`. -/
def holds (r : RegisteredPublicationService) (path : String) (value : Value) : Bool :=
  (r.values.getD path .null).pyEq value

/-- The record after a value was set. -/
def recorded (r : RegisteredPublicationService) (service : DbusServiceLike) (field path : String) (value : Value) :
    RegisteredPublicationService :=
  { r with
    service := service
    values := r.values.set path value
    semanticValues := r.semanticValues.set field value }

/-- The loop of `_publish_fields`. The second result is `changed`, and nothing when the loop was left by an
exception. -/
def publishLoop (specs : PublicationSpecs) (bus : BusBehavior) : List (String × Value) →
    RegisteredPublicationService → Bool → RegisteredPublicationService × Option Bool
  | [], r, changed => (r, some changed)
  | (field, value) :: rest, r, changed =>
    match specs.get? field with
    | none => (r, none)  -- `specs[field]` raises, which the validation excludes
    | some spec =>
      if r.holds spec.path value then publishLoop specs bus rest r changed
      else
        match r.service.setItem spec.path value (bus.set spec.path) with
        | (service, false) => ({ r with service := service }, none)
        | (service, true) => publishLoop specs bus rest (r.recorded service field spec.path value) true

/-- The next update index. -/
def nextIndex (r : RegisteredPublicationService) : Nat :=
  if maxUpdateIndex ≤ r.updateIndex then 0 else r.updateIndex + 1

/-- `_bump_update_index`, and whether it returned. -/
def bumpUpdateIndex (r : RegisteredPublicationService) (outcome : SetOutcome) : RegisteredPublicationService × Bool :=
  let (service, done) := r.service.setUpdateIndex r.nextIndex outcome
  ({ r with service := service, updateIndex := r.nextIndex }, done)

/-- `_publish_fields`. -/
def publishFields (r : RegisteredPublicationService) (fields : CommandPayload) (specs : PublicationSpecs)
    (bus : BusBehavior) : RegisteredPublicationService × Except PublicationError CommandOutcome :=
  match validateFields fields specs r.kind.text with
  | .error e => (r, .error e)
  | .ok normalized =>
    match publishLoop specs bus normalized.entries r false with
    | (r, none) => (r, .error .bus)
    | (r, some false) => (r, .ok .applied)
    | (r, some true) =>
      match r.bumpUpdateIndex (bus.set "/UpdateIndex") with
      | (r, true) => (r, .ok .applied)
      | (r, false) => (r, .error .bus)

/-- What the registration of a service settles. -/
def identity (r : RegisteredPublicationService) : PublicationKind × String × Int :=
  (r.kind, r.serviceName, r.deviceInstance)

theorem publishLoop_identity (specs : PublicationSpecs) (bus : BusBehavior) (fields : List (String × Value))
    (r : RegisteredPublicationService) (changed : Bool) :
    (publishLoop specs bus fields r changed).1.identity = r.identity := by
  induction fields generalizing r changed with
  | nil => rfl
  | cons e rest ih =>
    obtain ⟨field, value⟩ := e
    unfold publishLoop
    split
    · rfl
    · split_ifs
      · exact ih r changed
      · split
        · rfl
        · exact ih _ true

theorem publishFields_identity (r : RegisteredPublicationService) (fields : CommandPayload) (specs : PublicationSpecs)
    (bus : BusBehavior) : (r.publishFields fields specs bus).1.identity = r.identity := by
  unfold publishFields
  split
  · rfl
  · rename_i normalized hvalid
    have hloop := publishLoop_identity specs bus normalized.entries r false
    split
    · rename_i next hnext
      rw [hnext] at hloop
      exact hloop
    · rename_i next hnext
      rw [hnext] at hloop
      exact hloop
    · rename_i next hnext
      rw [hnext] at hloop
      split
      · rename_i bumped hbump
        obtain rfl := congrArg Prod.fst hbump
        exact hloop
      · rename_i bumped hbump
        obtain rfl := congrArg Prod.fst hbump
        exact hloop

end RegisteredPublicationService

/-! ## The registry -/

/-- `EvcsServiceIdentity`. -/
structure EvcsServiceIdentity where
  productName : String
  customName : String
  firmwareVersion : String
  hardwareVersion : String
  serial : String
  connectionName : String
  processName : String
  processVersion : String

/-- `CompanionServiceIdentity`. -/
structure CompanionServiceIdentity extends EvcsServiceIdentity where
  serviceId : String
  kind : CompanionServiceKind

/-- The configuration of the registry. -/
structure PublicationSettings where
  evcsServiceName : String
  deviceInstance : Int
  position : Int
  /-- `companion_concrete_identity`: the service name and the device instance. -/
  companion : CompanionServiceIdentity → String × Int
  /-- `EVCS_PUBLICATION_SPECS`. -/
  evcsSpecs : PublicationSpecs

/-- `PublicationServicePlan`. -/
structure PublicationServicePlan where
  serviceId : String
  kind : PublicationKind
  serviceName : String
  deviceInstance : Int
  identityPaths : Dict String Value
  specs : PublicationSpecs
  initialFields : CommandPayload

/-- The paths that the two kinds of identity have in common. -/
def identityPaths (identity : EvcsServiceIdentity) (deviceInstance : Int) : List (String × Value) :=
  [("/Mgmt/ProcessName", .str identity.processName), ("/Mgmt/ProcessVersion", .str identity.processVersion),
    ("/Mgmt/Connection", .str identity.connectionName), ("/DeviceInstance", .int deviceInstance),
    ("/ProductId", .int 0xFFFF), ("/ProductName", .str identity.productName),
    ("/CustomName", .str identity.customName), ("/FirmwareVersion", .str identity.firmwareVersion),
    ("/HardwareVersion", .str identity.hardwareVersion), ("/Serial", .str identity.serial)]

/-- `_evcs_identity_paths`. -/
def evcsIdentityPaths (identity : EvcsServiceIdentity) (settings : PublicationSettings) : Dict String Value :=
  .ofList (identityPaths identity settings.deviceInstance ++ [("/Position", .int settings.position)])

/-- `_companion_identity_paths`. -/
def companionIdentityPaths (identity : CompanionServiceIdentity) (deviceInstance : Int) : Dict String Value :=
  .ofList (identityPaths identity.toEvcsServiceIdentity deviceInstance)

def evcsServiceId : String := "evcs"

/-- The plan of `register_evcs`. -/
def evcsPlan (settings : PublicationSettings) (identity : EvcsServiceIdentity) (initialFields : CommandPayload) :
    PublicationServicePlan where
  serviceId := evcsServiceId
  kind := .evcs
  serviceName := settings.evcsServiceName
  deviceInstance := settings.deviceInstance
  identityPaths := evcsIdentityPaths identity settings
  specs := settings.evcsSpecs
  initialFields := initialFields

/-- The plan of `register_companion`. -/
def companionPlan (settings : PublicationSettings) (identity : CompanionServiceIdentity)
    (initialFields : CommandPayload) : PublicationServicePlan where
  serviceId := identity.serviceId
  kind := .companion identity.kind
  serviceName := (settings.companion identity).1
  deviceInstance := (settings.companion identity).2
  identityPaths := companionIdentityPaths identity (settings.companion identity).2
  specs := companionPublicationSpecs identity.kind
  initialFields := initialFields

/-- `GatewayPublicationRegistry`. -/
structure GatewayPublicationRegistry where
  services : Dict String RegisteredPublicationService
  serviceNames : Dict String String
  deviceInstances : Dict Int String

/-- A request to the registry. -/
inductive PublicationRequest where
  | registerEvcs (identity : EvcsServiceIdentity) (initialFields : CommandPayload)
  | publishEvcs (fields : CommandPayload)
  | registerCompanion (identity : CompanionServiceIdentity) (initialFields : CommandPayload)
  | publishCompanion (serviceId : String) (fields : CommandPayload)

namespace GatewayPublicationRegistry

/-- A new registry. -/
def start : GatewayPublicationRegistry := ⟨Dict.empty, Dict.empty, Dict.empty⟩

/-- `_reserve_identity`. -/
def reserveIdentity (g : GatewayPublicationRegistry) (serviceId serviceName : String) (deviceInstance : Int) :
    Except PublicationError GatewayPublicationRegistry :=
  match (g.serviceNames.get? serviceName).filter (· ≠ serviceId) with
  | some owner => .error (.nameCollision owner serviceId)
  | none =>
    match (g.deviceInstances.get? deviceInstance).filter (· ≠ serviceId) with
    | some owner => .error (.instanceCollision owner serviceId)
    | none =>
      .ok { g with
        serviceNames := g.serviceNames.set serviceName serviceId
        deviceInstances := g.deviceInstances.set deviceInstance serviceId }

/-- `add_path` for every pair, while it returns. -/
def addPaths (bus : BusBehavior) : List (String × Value) → Dict String Value → Option (Dict String Value)
  | [], values => some values
  | (path, value) :: rest, values =>
    if bus.addPath path then addPaths bus rest (values.set path value) else none

/-- The part of `_create_service` that builds the service and registers it on the bus. -/
def buildService (plan : PublicationServicePlan) (normalized : CommandPayload) (bus : BusBehavior) :
    Option RegisteredPublicationService :=
  if !bus.construct then none
  else
    let semanticValues := plan.specs.mapVal fun field spec => normalized.getD field spec.default
    let paths := plan.identityPaths.entries ++
      plan.specs.entries.map fun e => (e.2.path, normalized.getD e.1 e.2.default)
    match addPaths bus paths Dict.empty with
    | none => none
    | some values =>
      if bus.addPath "/UpdateIndex" && bus.register then
        some ⟨plan.serviceId, plan.kind, plan.serviceName, plan.deviceInstance, ⟨values, 0, values⟩, values,
          semanticValues, 0⟩
      else none

/-- `_create_service`. -/
def createService (g : GatewayPublicationRegistry) (plan : PublicationServicePlan) (bus : BusBehavior) :
    GatewayPublicationRegistry × Except PublicationError CommandOutcome :=
  match g.reserveIdentity plan.serviceId plan.serviceName plan.deviceInstance with
  | .error e => (g, .error e)
  | .ok g =>
    match validateFields plan.initialFields plan.specs plan.kind.text with
    | .error e => (g, .error e)
    | .ok normalized =>
      match buildService plan normalized bus with
      | none => (g, .error .bus)
      | some record => ({ g with services := g.services.set plan.serviceId record }, .ok .applied)

/-- Publish on a registered service. -/
def publishOn (g : GatewayPublicationRegistry) (serviceId : String) (record : RegisteredPublicationService)
    (fields : CommandPayload) (specs : PublicationSpecs) (bus : BusBehavior) :
    GatewayPublicationRegistry × Except PublicationError CommandOutcome :=
  let published := record.publishFields fields specs bus
  ({ g with services := g.services.set serviceId published.1 }, published.2)

variable (settings : PublicationSettings)

section

variable (g : GatewayPublicationRegistry)

/-- `register_evcs`. -/
def registerEvcs (identity : EvcsServiceIdentity) (initialFields : CommandPayload)
    (bus : BusBehavior) : GatewayPublicationRegistry × Except PublicationError CommandOutcome :=
  match g.services.get? evcsServiceId with
  | some existing => g.publishOn evcsServiceId existing initialFields settings.evcsSpecs bus
  | none => g.createService (evcsPlan settings identity initialFields) bus

/-- `publish_evcs`. -/
def publishEvcs (fields : CommandPayload) (bus : BusBehavior) :
    GatewayPublicationRegistry × Except PublicationError CommandOutcome :=
  match g.services.get? evcsServiceId with
  | none => (g, .ok .deferred)
  | some record => g.publishOn evcsServiceId record fields settings.evcsSpecs bus

/-- `register_companion`. -/
def registerCompanion (identity : CompanionServiceIdentity)
    (initialFields : CommandPayload) (bus : BusBehavior) :
    GatewayPublicationRegistry × Except PublicationError CommandOutcome :=
  match g.services.get? identity.serviceId with
  | some existing =>
    if existing.kind ≠ .companion identity.kind then (g, .error (.changedKind identity.serviceId))
    else g.publishOn identity.serviceId existing initialFields (companionPublicationSpecs identity.kind) bus
  | none => g.createService (companionPlan settings identity initialFields) bus

/-- `publish_companion`. -/
def publishCompanion (serviceId : String) (fields : CommandPayload)
    (bus : BusBehavior) : GatewayPublicationRegistry × Except PublicationError CommandOutcome :=
  match g.services.get? serviceId with
  | none => (g, .ok .deferred)
  | some record =>
    match record.kind with
    | .evcs => (g, .error (.unsupportedKind record.kind.text))
    | .companion kind => g.publishOn serviceId record fields (companionPublicationSpecs kind) bus

/-- One request. -/
def process (bus : BusBehavior) : PublicationRequest →
    GatewayPublicationRegistry × Except PublicationError CommandOutcome
  | .registerEvcs identity initialFields => g.registerEvcs settings identity initialFields bus
  | .publishEvcs fields => g.publishEvcs settings fields bus
  | .registerCompanion identity initialFields => g.registerCompanion settings identity initialFields bus
  | .publishCompanion serviceId fields => g.publishCompanion serviceId fields bus

end

/-! ## What a request allots -/

section Allotment

variable {settings} {g : GatewayPublicationRegistry} {bus : BusBehavior}

/-- What the registry has allotted: the identities of its services, the names and the device instances. -/
def allotted (g : GatewayPublicationRegistry) :
    Dict String (PublicationKind × String × Int) × Dict String String × Dict Int String :=
  (g.services.mapVal fun _ r => r.identity, g.serviceNames, g.deviceInstances)

/-- Another service has the name or the device instance of the plan. -/
def Collides (g : GatewayPublicationRegistry) (plan : PublicationServicePlan) : Prop :=
  (∃ owner, g.serviceNames.get? plan.serviceName = some owner ∧ owner ≠ plan.serviceId) ∨
    ∃ owner, g.deviceInstances.get? plan.deviceInstance = some owner ∧ owner ≠ plan.serviceId

/-- The name and the device instance are reserved for the service of the plan. -/
def Reserved (g : GatewayPublicationRegistry) (plan : PublicationServicePlan) : Prop :=
  g.serviceNames.get? plan.serviceName = some plan.serviceId ∧
    g.deviceInstances.get? plan.deviceInstance = some plan.serviceId

/-- The plan of a registration. -/
def plan? (settings : PublicationSettings) : PublicationRequest → Option PublicationServicePlan
  | .registerEvcs identity initialFields => some (evcsPlan settings identity initialFields)
  | .registerCompanion identity initialFields => some (companionPlan settings identity initialFields)
  | .publishEvcs _ => none
  | .publishCompanion _ _ => none

/-- A reservation fails on a collision and else reserves the name and the device instance. -/
theorem reserveIdentity_cases (plan : PublicationServicePlan) :
    (g.Collides plan ∧ ∃ e, g.reserveIdentity plan.serviceId plan.serviceName plan.deviceInstance = .error e) ∨
      ¬ g.Collides plan ∧ g.reserveIdentity plan.serviceId plan.serviceName plan.deviceInstance = .ok { g with
        serviceNames := g.serviceNames.set plan.serviceName plan.serviceId
        deviceInstances := g.deviceInstances.set plan.deviceInstance plan.serviceId } := by
  unfold reserveIdentity Collides
  cases hname : (g.serviceNames.get? plan.serviceName).filter (· ≠ plan.serviceId) with
  | some owner =>
    obtain ⟨howner, hne⟩ := Option.filter_eq_some_iff.mp hname
    exact .inl ⟨.inl ⟨owner, howner, by simpa using hne⟩, _, rfl⟩
  | none =>
    cases hinstance : (g.deviceInstances.get? plan.deviceInstance).filter (· ≠ plan.serviceId) with
    | some owner =>
      obtain ⟨howner, hne⟩ := Option.filter_eq_some_iff.mp hinstance
      exact .inl ⟨.inr ⟨owner, howner, by simpa using hne⟩, _, rfl⟩
    | none =>
      refine .inr ⟨fun hcollides => ?_, rfl⟩
      rw [Option.filter_eq_none_iff] at hname hinstance
      rcases hcollides with ⟨owner, howner, hne⟩ | ⟨owner, howner, hne⟩
      · exact hname owner howner (by simpa using hne)
      · exact hinstance owner howner (by simpa using hne)

/-- A reservation changes nothing exactly when it was made before. -/
theorem reserved_iff (plan : PublicationServicePlan) :
    g.serviceNames.set plan.serviceName plan.serviceId = g.serviceNames ∧
      g.deviceInstances.set plan.deviceInstance plan.serviceId = g.deviceInstances ↔ g.Reserved plan := by
  refine and_congr ⟨fun h => ?_, Dict.set_of_get?⟩ ⟨fun h => ?_, Dict.set_of_get?⟩
  · rw [← h, Dict.get?_set_self]
  · rw [← h, Dict.get?_set_self]

/-- A creation that fails leaves the registry as it was on a collision, and with the reservation else. -/
theorem createService_failed {plan : PublicationServicePlan} {e : PublicationError}
    (hfails : (g.createService plan bus).2 = .error e) :
    g.Collides plan ∧ (g.createService plan bus).1 = g ∨
      ¬ g.Collides plan ∧ (g.createService plan bus).1 = { g with
        serviceNames := g.serviceNames.set plan.serviceName plan.serviceId
        deviceInstances := g.deviceInstances.set plan.deviceInstance plan.serviceId } := by
  unfold createService at hfails ⊢
  rcases reserveIdentity_cases (g := g) plan with ⟨hcollides, error, hreserve⟩ | ⟨hfree, hreserve⟩
  · rw [hreserve]
    exact .inl ⟨hcollides, rfl⟩
  · right
    rw [hreserve] at hfails ⊢
    refine ⟨hfree, ?_⟩
    dsimp only at hfails ⊢
    cases hvalid : validateFields plan.initialFields plan.specs plan.kind.text with
    | error error => rfl
    | ok normalized =>
      rw [hvalid] at hfails
      dsimp only at hfails ⊢
      cases hbuild : buildService plan normalized bus with
      | none => rfl
      | some record =>
        rw [hbuild] at hfails
        nomatch hfails

theorem createService_failed_iff {plan : PublicationServicePlan} {e : PublicationError}
    (hfails : (g.createService plan bus).2 = .error e) :
    (g.createService plan bus).1.allotted = g.allotted ↔ g.Collides plan ∨ g.Reserved plan := by
  rcases createService_failed hfails with ⟨hcollides, hsame⟩ | ⟨hfree, hreserved⟩
  · rw [hsame]
    exact iff_of_true rfl (.inl hcollides)
  · rw [hreserved, or_iff_right hfree, ← reserved_iff]
    constructor
    · intro h
      exact ⟨congrArg (·.2.1) h, congrArg (·.2.2) h⟩
    · intro h
      unfold allotted
      rw [h.1, h.2]

theorem publishOn_allotted {serviceId : String} {record : RegisteredPublicationService}
    (hrecord : g.services.get? serviceId = some record) (fields : CommandPayload) (specs : PublicationSpecs) :
    (g.publishOn serviceId record fields specs bus).1.allotted = g.allotted := by
  unfold publishOn allotted
  dsimp only
  rw [Dict.mapVal_set, RegisteredPublicationService.publishFields_identity, Dict.set_of_get?]
  rw [Dict.get?_mapVal, hrecord]
  rfl

/-- A registration that fails leaves the allotment unchanged exactly when its service was registered before, when the
name or the device instance belongs to another service, or when both were reserved for this service before. -/
theorem failed_registration_iff {request : PublicationRequest} {plan : PublicationServicePlan} {e : PublicationError}
    (hplan : plan? settings request = some plan) (hfails : (g.process settings bus request).2 = .error e) :
    (g.process settings bus request).1.allotted = g.allotted ↔
      (∃ record, g.services.get? plan.serviceId = some record) ∨ g.Collides plan ∨ g.Reserved plan := by
  cases request with
  | publishEvcs fields => exact nomatch hplan
  | publishCompanion serviceId fields => exact nomatch hplan
  | registerEvcs identity initialFields =>
    obtain rfl := Option.some.inj hplan
    change (g.registerEvcs settings identity initialFields bus).2 = .error e at hfails
    show (g.registerEvcs settings identity initialFields bus).1.allotted = g.allotted ↔
      (∃ record, g.services.get? evcsServiceId = some record) ∨ _
    unfold registerEvcs at hfails ⊢
    cases hrecord : g.services.get? evcsServiceId with
    | some record => exact iff_of_true (publishOn_allotted hrecord _ _) (.inl ⟨record, rfl⟩)
    | none =>
      simp only [hrecord] at hfails
      have hnew : ¬ ∃ record : RegisteredPublicationService, none = some record := fun ⟨_, h⟩ => nomatch h
      exact (createService_failed_iff hfails).trans (or_iff_right hnew).symm
  | registerCompanion identity initialFields =>
    obtain rfl := Option.some.inj hplan
    change (g.registerCompanion settings identity initialFields bus).2 = .error e at hfails
    show (g.registerCompanion settings identity initialFields bus).1.allotted = g.allotted ↔
      (∃ record, g.services.get? identity.serviceId = some record) ∨ _
    unfold registerCompanion at hfails ⊢
    cases hrecord : g.services.get? identity.serviceId with
    | some record =>
      refine iff_of_true ?_ (.inl ⟨record, rfl⟩)
      dsimp only
      split_ifs
      · rfl
      · exact publishOn_allotted hrecord _ _
    | none =>
      simp only [hrecord] at hfails
      have hnew : ¬ ∃ record : RegisteredPublicationService, none = some record := fun ⟨_, h⟩ => nomatch h
      exact (createService_failed_iff hfails).trans (or_iff_right hnew).symm

end Allotment

/-- Two source meters whose device instances are the same. -/
def meterSettings : PublicationSettings where
  evcsServiceName := "com.victronenergy.evcharger.http_60"
  deviceInstance := 60
  position := 1
  companion identity :=
    if identity.serviceId = "meter-1" then ("com.victronenergy.grid.external.meter_1_091fcb67", 461)
    else ("com.victronenergy.grid.external.meter_19_5ed88cb5", 461)
  evcsSpecs := Dict.empty

def meterIdentity (serviceId : String) : CompanionServiceIdentity :=
  ⟨⟨"Meter", "Meter", "1", "1", serviceId, "gateway", "gateway", "1"⟩, serviceId, .grid⟩

/-- A registration with an unknown field. -/
def misspelled : PublicationRequest := .registerCompanion (meterIdentity "meter-1") (.ofList [("power", .int 1)])

theorem misspelled_fails :
    (start.process meterSettings {} misspelled).2 = .error (.unknownFields "grid" ["power"]) := by
  decide +kernel

theorem failed_registration_misspelled :
    (start.process meterSettings {} misspelled).1.allotted = start.allotted ↔
      (∃ record, start.services.get? "meter-1" = some record) ∨
        start.Collides (companionPlan meterSettings (meterIdentity "meter-1") (.ofList [("power", .int 1)])) ∨
          start.Reserved (companionPlan meterSettings (meterIdentity "meter-1") (.ofList [("power", .int 1)])) :=
  failed_registration_iff rfl misspelled_fails

/-- The failed registration keeps the device instance, and a valid registration of another meter is refused. -/
theorem failed_registration_blocks_other :
    (start.process meterSettings {} misspelled).2 = .error (.unknownFields "grid" ["power"]) ∧
      (start.process meterSettings {} misspelled).1.allotted ≠ start.allotted ∧
      ((start.process meterSettings {} misspelled).1.process meterSettings {}
        (.registerCompanion (meterIdentity "meter-19") Dict.empty)).2 =
          .error (.instanceCollision "meter-1" "meter-19") ∧
      (start.process meterSettings {} (.registerCompanion (meterIdentity "meter-19") Dict.empty)).2 = .ok .applied := by
  decide +kernel

end GatewayPublicationRegistry

end VenusEvcharger
