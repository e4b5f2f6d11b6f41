import VenusEvcharger.Ipc.CommandMailbox
import VenusEvcharger.Ipc.FastPublicationWork

/-!
# The two queue policies

Commands to the core are never merged. The gateway bounds the deadline of transient publications and
merges field publications of one target, where a less urgent command adds missing fields only.
-/

namespace VenusEvcharger

open Library

/-! ## Commands to the core -/

/-- `CoreCommandQueuePolicy`. -/
def coreCommandQueuePolicy : CommandQueuePolicy where
  schemaVersion := 1
  normalize := id
  queueClass := fun _ => "core-control"
  mergeCoalesced := fun _ _ => .ok none
  get?_normalize := fun _ _ _ => rfl
  revision_merge := by simp

/-! ## Queue classes of the gateway -/

/-- `_STATIC_QUEUE_CLASSES`. -/
def staticQueueClasses : List (String × String) :=
  [("register_evcs", "startup/register"), ("register_companion", "startup/register"),
    ("refresh_energy_inputs", "read-fast"), ("introspect", "introspection"),
    ("gx_relay_refresh", "read-fast"), ("gx_relay_set_enabled", "remote-write"),
    ("ess_grid_setpoint", "remote-write"),
    ("disable_matching_generic_shelly_once", "configuration")]

/-- `_is_publish_command`. -/
def isPublishKind (kind : String) : Bool :=
  decide (kind = publishEvcsFieldsKind ∨ kind = publishCompanionFieldsKind)

variable [PyLib]

/-- `command_queue_class`. -/
def commandQueueClass (command : CommandPayload) : String :=
  let kind := commandText command "kind"
  if isPublishKind kind then
    if commandText command "publication_priority" = "critical" then "gui-critical-publish"
    else "local-publish"
  else if kind = "refresh_energy_inputs" then
    if commandText command "scope" = "topology" then "discovery" else "read-fast"
  else (staticQueueClasses.lookup kind).getD "diagnostic"

/-! ## Merging publications -/

/-- `_is_transient_publication` of the gateway policy, which does not check the fields. -/
def isTransientPublishCommand (command : CommandPayload) : Bool :=
  isPublishKind (commandText command "kind") &&
    decide (commandText command "publication_priority" ∈ transientPriorities)

/-- `normalize` of the gateway policy. -/
def normalizeGatewayCommand (command : CommandPayload) : CommandPayload :=
  if isTransientPublishCommand command then
    command.set "deadline_s"
      (.float (.fin (normalizedTransientDeadline (command.get? "deadline_s"))))
  else command

/-- `_raise_for_oversized_publication`. -/
def oversizedPublication (command : CommandPayload) : Option String :=
  if !isPublishKind (commandText command "kind") then none
  else
    let reason := publicationPayloadLimitReason command
    if reason ≠ "" then some ("Gateway publication violates " ++ reason) else none

/-- `_same_publish_fields_payload`: one publication kind and one target. -/
def samePublishFieldsPayload (existing payload : CommandPayload) : Bool :=
  let kind := commandText payload "kind"
  decide (commandText existing "kind" = kind) && isPublishKind kind &&
    (decide (kind ≠ publishCompanionFieldsKind) ||
      ((existing.get? "service_id").getD .null).pyEq ((payload.get? "service_id").getD .null))

/-- `_accepted_lower_priority_fields`: `none` when all fields of the candidate count. -/
def acceptedLowerPriorityFields (existing candidate : CommandPayload) : Option (List String) :=
  if commandRank existing < commandRank candidate then
    some ((publicationFields candidate).keys.filter fun field =>
      !(publicationFields existing).contains field)
  else none

/-- `_set_merged_field_orders`. -/
def setMergedFieldOrders (merged mergedFields : CommandPayload) : CommandPayload :=
  match mergedFields.get? "transport_field_orders" with
  | none | some .null => merged.erase "transport_field_orders"
  | some orders => merged.set "transport_field_orders" orders

/-- `_set_candidate_revision`. -/
def setCandidateRevision (merged candidate : CommandPayload) : CommandPayload :=
  match candidate.get? mailboxRevisionField with
  | none | some .null => merged.erase mailboxRevisionField
  | some revision => merged.set mailboxRevisionField revision

/-- `_merged_publish_command`: merged fields on the metadata of the winner. -/
def mergedPublishCommand (existing candidate : CommandPayload) (acceptedFields : Option (List String)) :
    CommandPayload :=
  let mergedFields := mergePublicationPayload (some existing) candidate acceptedFields
  let winner := if shouldReplaceCommand existing candidate then candidate else existing
  let merged := winner.set "fields" ((mergedFields.get? "fields").getD .null)
  setCandidateRevision (setMergedFieldOrders merged mergedFields) candidate

/-- `_merge_publish_fields`. -/
def mergePublishFields (existing : Option CommandPayload) (payload : CommandPayload) :
    Except String (Option CommandPayload) :=
  match existing with
  | none => .ok none
  | some existing =>
    if !samePublishFieldsPayload existing payload then .ok none
    else
      let acceptedFields := acceptedLowerPriorityFields existing payload
      if acceptedFields = some [] then .ok none
      else
        let merged := mergedPublishCommand existing payload acceptedFields
        match oversizedPublication merged with
        | some reason => .error reason
        | none => .ok (some merged)

omit [PyLib] in
theorem revision_setCandidateRevision (merged : CommandPayload) {candidate : CommandPayload}
    {revision : String} (hrevision : candidate.get? mailboxRevisionField = some (.str revision)) :
    (setCandidateRevision merged candidate).get? mailboxRevisionField = some (.str revision) := by
  rw [setCandidateRevision, hrevision]
  exact Dict.get?_set_self _ _ _

omit [PyLib] in
theorem get?_setCandidateRevision_of_ne (merged candidate : CommandPayload) {key : String}
    (hkey : key ≠ mailboxRevisionField) :
    (setCandidateRevision merged candidate).get? key = merged.get? key := by
  rw [setCandidateRevision]
  split
  · rw [Dict.get?_erase, if_neg hkey]
  · rw [Dict.get?_erase, if_neg hkey]
  · rw [Dict.get?_set_ne _ _ hkey]

omit [PyLib] in
theorem get?_setMergedFieldOrders_of_ne (merged mergedFields : CommandPayload) {key : String}
    (hkey : key ≠ "transport_field_orders") :
    (setMergedFieldOrders merged mergedFields).get? key = merged.get? key := by
  rw [setMergedFieldOrders]
  split
  · rw [Dict.get?_erase, if_neg hkey]
  · rw [Dict.get?_erase, if_neg hkey]
  · rw [Dict.get?_set_ne _ _ hkey]

theorem mergePublishFields_eq_some {existing : Option CommandPayload} {payload merged : CommandPayload}
    (h : mergePublishFields existing payload = .ok (some merged)) :
    ∃ kept, existing = some kept ∧ samePublishFieldsPayload kept payload = true ∧
      merged = mergedPublishCommand kept payload (acceptedLowerPriorityFields kept payload) ∧
      oversizedPublication merged = none := by
  cases existing with
  | none => exact absurd h (by simp [mergePublishFields])
  | some kept =>
    simp only [mergePublishFields] at h
    split_ifs at h with hsame hempty
    · exact absurd h (by simp)
    · exact absurd h (by simp)
    · cases hsize : oversizedPublication
          (mergedPublishCommand kept payload (acceptedLowerPriorityFields kept payload)) with
      | some reason => simp [hsize] at h
      | none =>
        rw [hsize] at h
        obtain rfl := Option.some.inj (Except.ok.inj h)
        exact ⟨kept, rfl, by simpa using hsame, rfl, hsize⟩

/-- `DbusGatewayCommandQueuePolicy`. -/
def gatewayCommandQueuePolicy : CommandQueuePolicy where
  schemaVersion := 1
  normalize := normalizeGatewayCommand
  queueClass := commandQueueClass
  mergeCoalesced := mergePublishFields
  get?_normalize := by
    intro command key hkey
    rw [normalizeGatewayCommand]
    split_ifs
    · rw [Dict.get?_set_ne _ _ hkey]
    · rfl
  revision_merge := by
    intro existing payload merged revision hmerge hrevision
    obtain ⟨kept, -, -, rfl, -⟩ := mergePublishFields_eq_some hmerge
    exact revision_setCandidateRevision _ hrevision

/-- The call as `DbusGatewayCommandInbox.enqueue` passes it on. -/
def EnqueueCall.normalized (call : EnqueueCall) : EnqueueCall :=
  { call with command := normalizeGatewayCommand call.command }

/-- `DbusGatewayCommandInbox.enqueue`: an oversized publication is refused before it is queued. -/
def enqueueGatewayCommand (files : MailboxFiles) (call : EnqueueCall) :
    Except String String × MailboxFiles :=
  match oversizedPublication call.normalized.command with
  | some reason => (.error reason, files)
  | none => enqueueCommand gatewayCommandQueuePolicy files call.normalized

end VenusEvcharger
