import VenusEvcharger.DbusAdapter.GenericShellyReplies
import VenusEvcharger.NativeGateway.ShellyCommand

/-!
# Disabling a generic Shelly, on both gateways

`shelly_disabling_iff` says of both gateways what the exchanges of a command may be, and when it is applied. A command
of the mailbox is not applied by the Python gateway at all, and a device that does not answer keeps both gateways from
the devices after it (`shelly_disabling_blocked`).
-/

namespace VenusEvcharger

open Library

section

variable [PyLib]

/-- On both gateways only discovered devices are addressed, and a channel is disabled only on a device that equals the
selector, after it was read as enabled. While the devices keep to their replies, and one that matches can be disabled,
the command is applied exactly when the Python gateway accepts it and no device before the first matching one fails to
answer; the native gateway takes a device with a matching name first. -/
theorem shelly_disabling_iff (ipAddress : String → Option String) (configuredService commandFile : String)
    (command : CommandPayload) (hstart : ∀ key ∈ shellyProgressFields, command.contains key = false)
    (settings : NativeGateway.ExecutorSettings) (path : String) (payload : NativeGateway.JsonMap)
    (hkind : NativeGateway.commandKind payload = "disable_matching_generic_shelly_once") :
    (parseDisableMatchingGenericShellyOnce ipAddress (semanticCommand command) = none →
      ∀ answers, (run (attemptShelly ipAddress configuredService commandFile) (.begin command) answers).log = []) ∧
    (∀ request, parseDisableMatchingGenericShellyOnce ipAddress (semanticCommand command) = some request →
      let t := shellyTarget (strip configuredService) request;
      (∀ answers,
        Safe t (run (attemptShelly ipAddress configuredService commandFile) (.begin command) answers).log) ∧
      (strip configuredService ≠ "" → commandFile ≠ "" → ∀ devices replies,
        (∃ device ∈ devices, Matching t replies device ∧ CanDisable replies device) →
        ∀ answers, (∀ answer ∈ answers, answer.Keeps t devices replies) → devices.length + 3 ≤ answers.length →
          ((run (attemptShelly ipAddress configuredService commandFile) (.begin command) answers).ended = some .applied ↔
            (validShellyFieldSet command = true ∧ validTransportEnvelope command = true) ∧
              FirstMatches t replies devices))) ∧
    (let t := NativeGateway.executorTarget settings payload;
      (∀ events, Safe t (run (NativeGateway.attemptShelly settings path payload) .begin events).log) ∧
      (∀ sel number, NativeGateway.isSemantic payload = true → NativeGateway.selector payload = .ok sel →
        NativeGateway.channel payload = .ok number → ∀ devices replies,
        (∃ device ∈ devices, Matching t replies device ∧ CanDisable replies device) →
        ∀ events, (∀ event ∈ events, event.Keeps t devices replies) → devices.length + 3 ≤ events.length →
          ((run (NativeGateway.attemptShelly settings path payload) .begin events).ended = some .applied ↔
            NativeGateway.NamedOrFirstMatches t replies devices))) := by
  refine ⟨fun hrejected answers => ?_, fun request hcommand => ⟨shelly_safe hstart hcommand, ?_⟩,
    NativeGateway.shelly_safe settings path hkind, ?_⟩
  · have hparse : parseDisableMatchingGenericShellyOnce ipAddress command = none := by
      cases hparse : parseDisableMatchingGenericShellyOnce ipAddress command with
      | none => rfl
      | some request => exact absurd (parseShelly_semantic.mp hparse).1 (by rw [hrejected]; nofun)
    exact (unscheduled_run (scheduleGenericShelly_rejected hstart hparse) answers).log
  · intro hservice hfile devices replies ⟨device, hmem, hmatch, _⟩ answers hkeeps hlength
    exact ⟨firstMatches_of_applied hstart hcommand hservice hfile ⟨device, hmem, hmatch⟩ hkeeps,
      fun ⟨haccepted, hfirst⟩ => applied_of_firstMatches (parseShelly_semantic.mpr ⟨hcommand, haccepted⟩) hservice hfile
        hfirst hkeeps hlength⟩
  · intro sel number htaken hselector hchannel devices replies ⟨device, hmem, hmatch, _⟩ events hkeeps hlength
    exact ⟨NativeGateway.namedOrFirstMatches_of_applied hkind htaken hselector hchannel ⟨device, hmem, hmatch⟩ hkeeps,
      fun hfirst => NativeGateway.applied_of_namedOrFirstMatches hkind htaken hselector hchannel
        (List.ne_nil_of_mem hmem) hfirst hkeeps hlength⟩

end

/-! ## Two devices, of which one does not answer -/

local instance shellySampleLib : PyLib := PyLib.sample

/-- Disable channel 1 of the device with a MAC address. -/
def exampleShellyRequest : DisableMatchingGenericShellyOnceRequest := ⟨⟨.mac, "AABBCCDDEEFF"⟩, 1, by decide⟩

/-- The command on the wire. -/
def exampleShellyCommand : CommandPayload := disableMatchingGenericShellyOnceCommand exampleShellyRequest

/-- The command as the mailbox stores it. -/
def storedShellyCommand : CommandPayload :=
  (newPayload gatewayCommandQueuePolicy "shelly" (normalizeGatewayCommand exampleShellyCommand)
    ⟨exampleShellyCommand, 10, 10, "revision", "unique"⟩).setDefault "lifecycle_state" (.str "queued")

/-- What the tree gives for a read: only the second device answers. -/
def exampleReading (path : String) : Option ShellyReading :=
  if path = "/Devices/second/Mac" then some ⟨"AA:BB:CC:DD:EE:FF", none⟩
  else if path = "/Devices/second/1/Enabled" then some ⟨"1", some 1⟩
  else none

/-- An answer of the tree to the Python gateway. -/
def exampleShellyAnswer (devices : List String) : ShellyAnswer where
  bus :=
    { introspect := fun _ _ => .ok (some (devices.map some))
      getValue := fun _ path =>
        match exampleReading path with
        | some reading => .ok (if reading.number = some 1 then .int 1 else .str reading.text)
        | none => .error "no reply"
      setValue := fun _ _ _ => .ok () }
  replaced := true

/-- The command of the native gateway. -/
def exampleShellyPayload : NativeGateway.JsonMap :=
  [("kind", .string "disable_matching_generic_shelly_once"),
    ("selector", .object [("kind", .string "mac"), ("value", .string "AABBCCDDEEFF")]), ("channel", .int 1)]

/-- An answer of the tree to the native gateway. -/
def exampleShellyEvent (devices : List String) : NativeGateway.ShellyEvent where
  bus operation :=
    match operation with
    | .introspect _ _ => .xml (.ok devices)
    | .read _ path =>
      match exampleReading path with
      | some reading => .value reading.number (some reading.text)
      | none => .error "no reply"
    | .write _ _ _ => .writeCode 0
    | .listNames => .error "no reply"
  epoch := 0
  now := 0

def exampleService : String := "com.victronenergy.shelly"

def exampleShellySettings : NativeGateway.ExecutorSettings := ⟨exampleService, "", ""⟩

/-- What the command looks for on the Python gateway, and what the devices reply to it. -/
def exampleShellyTarget : ShellyTarget := shellyTarget (strip exampleService) exampleShellyRequest

def exampleShellyReplies (devices : List String) : DeviceReplies :=
  (exampleShellyAnswer devices).bus.replies exampleShellyTarget

/-- The same on the native gateway. -/
def exampleExecutorTarget : ShellyTarget := NativeGateway.executorTarget exampleShellySettings exampleShellyPayload

def exampleBusReplies (devices : List String) : DeviceReplies :=
  NativeGateway.busReplies exampleExecutorTarget (exampleShellyEvent devices).bus

theorem exampleShellyReplies_second (devices : List String) :
    Matching exampleShellyTarget (exampleShellyReplies devices) "second" ∧
      CanDisable (exampleShellyReplies devices) "second" := by
  refine ⟨.inr ⟨"AA:BB:CC:DD:EE:FF", ?_, by decide +kernel⟩, .inr ⟨?_, rfl⟩⟩
  · show (exampleShellyReplies []).identity "second" = _
    decide +kernel
  · show (exampleShellyReplies []).enabled "second" = _
    decide +kernel

theorem exampleBusReplies_second (devices : List String) :
    Matching exampleExecutorTarget (exampleBusReplies devices) "second" ∧
      CanDisable (exampleBusReplies devices) "second" := by
  refine ⟨.inr ⟨"AA:BB:CC:DD:EE:FF", ?_, by decide +kernel⟩, .inr ⟨?_, rfl⟩⟩
  · show (exampleBusReplies []).identity "second" = _
    decide +kernel
  · show (exampleBusReplies []).enabled "second" = _
    decide +kernel

theorem exampleShellyAnswer_keeps {devices : List String}
    (hdevices : devicesFromXml (some (devices.map some)) = devices) (n : Nat) :
    ∀ answer ∈ List.replicate n (exampleShellyAnswer devices),
      answer.Keeps exampleShellyTarget devices (exampleShellyReplies devices) := by
  intro answer hanswer
  rw [List.eq_of_mem_replicate hanswer]
  exact ⟨rfl, ⟨_, rfl, hdevices⟩, rfl⟩

theorem exampleShellyEvent_keeps (devices : List String) (n : Nat) :
    ∀ event ∈ List.replicate n (exampleShellyEvent devices),
      event.Keeps exampleExecutorTarget devices (exampleBusReplies devices) := by
  intro event hevent
  rw [List.eq_of_mem_replicate hevent]
  exact ⟨rfl, rfl⟩

/-- A command without an envelope is applied when the matching device is the first one. -/
theorem shelly_disabled_first :
    (run (attemptShelly (fun _ => none) exampleService "shelly.json") (.begin exampleShellyCommand)
      (List.replicate 5 (exampleShellyAnswer ["second", "first"]))).ended = some .applied ∧
    (run (NativeGateway.attemptShelly exampleShellySettings "shelly.json" exampleShellyPayload) .begin
      (List.replicate 5 (exampleShellyEvent ["second", "first"]))).ended = some .applied := by
  obtain ⟨-, hpython, -, hnative⟩ := shelly_disabling_iff (fun _ => none) exampleService "shelly.json"
    exampleShellyCommand (by decide +kernel) exampleShellySettings "shelly.json" exampleShellyPayload (by decide +kernel)
  have hsecond := exampleShellyReplies_second ["second", "first"]
  have hsecond' := exampleBusReplies_second ["second", "first"]
  constructor
  · refine ((hpython exampleShellyRequest (by decide +kernel)).2 (by decide +kernel) (by decide) _ _
      ⟨"second", List.mem_cons_self, hsecond⟩ _ (exampleShellyAnswer_keeps (by decide +kernel) 5) le_rfl).mpr
      ⟨by decide +kernel, ?_⟩
    exact firstMatches_cons.mpr (.inl hsecond)
  · refine (hnative ("mac", "AABBCCDDEEFF") 1 (by decide +kernel) rfl rfl _ _ ⟨"second", List.mem_cons_self, hsecond'⟩ _
      (exampleShellyEvent_keeps _ 5) le_rfl).mpr ?_
    have hunnamed : ["second", "first"].find?
        (NativeGateway.executorTarget exampleShellySettings exampleShellyPayload).named = none := by decide +kernel
    rw [NativeGateway.NamedOrFirstMatches, hunnamed]
    exact firstMatches_cons.mpr (.inl hsecond')

/-- The second device matches, answers and accepts the write, but a command of the mailbox is dropped, and a first device
that does not answer keeps both gateways from it for any number of attempts. -/
theorem shelly_disabling_blocked :
    (Matching exampleShellyTarget (exampleShellyReplies ["first", "second"]) "second" ∧
      CanDisable (exampleShellyReplies ["first", "second"]) "second") ∧
    (Matching exampleExecutorTarget (exampleBusReplies ["first", "second"]) "second" ∧
      CanDisable (exampleBusReplies ["first", "second"]) "second") ∧
    ∀ n,
      (run (attemptShelly (fun _ => none) exampleService "shelly.json") (.begin storedShellyCommand)
        (List.replicate n (exampleShellyAnswer ["second", "first"]))).ended ≠ some .applied ∧
      (run (attemptShelly (fun _ => none) exampleService "shelly.json") (.begin exampleShellyCommand)
        (List.replicate n (exampleShellyAnswer ["first", "second"]))).ended ≠ some .applied ∧
      (run (NativeGateway.attemptShelly exampleShellySettings "shelly.json" exampleShellyPayload) .begin
        (List.replicate n (exampleShellyEvent ["first", "second"]))).ended ≠ some .applied := by
  have hsecond := exampleShellyReplies_second ["first", "second"]
  have hsecond' := exampleBusReplies_second ["first", "second"]
  have hstored : parseDisableMatchingGenericShellyOnce (fun _ => none) (semanticCommand storedShellyCommand) =
      some exampleShellyRequest := by decide +kernel
  have hcommand : parseDisableMatchingGenericShellyOnce (fun _ => none) (semanticCommand exampleShellyCommand) =
      some exampleShellyRequest := by decide +kernel
  have hselector : NativeGateway.selector exampleShellyPayload = .ok ("mac", "AABBCCDDEEFF") := rfl
  have hchannel : NativeGateway.channel exampleShellyPayload = .ok 1 := rfl
  refine ⟨hsecond, hsecond', fun n => ⟨fun happlied => ?_, fun happlied => ?_, fun happlied => ?_⟩⟩
  · have hfields := (firstMatches_of_applied (by decide +kernel) hstored (by decide +kernel) (by decide)
      ⟨"second", List.mem_cons_self, (exampleShellyReplies_second _).1⟩
      (exampleShellyAnswer_keeps (by decide +kernel) n) happlied).1.1
    rw [validShellyFieldSet_revision (by decide +kernel)] at hfields
    nomatch hfields
  · refine not_firstMatches_of_silent ?_ ?_ _ (firstMatches_of_applied (by decide +kernel) hcommand (by decide +kernel) (by decide)
      ⟨"second", List.mem_cons_of_mem _ List.mem_cons_self, hsecond.1⟩
      (exampleShellyAnswer_keeps (by decide +kernel) n) happlied).2
    · decide +kernel
    · decide +kernel
  · have hfirst := NativeGateway.namedOrFirstMatches_of_applied (by decide +kernel) (by decide +kernel) hselector
      hchannel ⟨"second", List.mem_cons_of_mem _ List.mem_cons_self, hsecond'.1⟩ (exampleShellyEvent_keeps _ n) happlied
    have hunnamed : ["first", "second"].find? exampleExecutorTarget.named = none := by decide +kernel
    unfold NativeGateway.NamedOrFirstMatches at hfirst
    rw [show ["first", "second"].find? (NativeGateway.executorTarget exampleShellySettings exampleShellyPayload).named =
      none from hunnamed] at hfirst
    refine not_firstMatches_of_silent ?_ ?_ _ hfirst
    · decide +kernel
    · decide +kernel

end VenusEvcharger
