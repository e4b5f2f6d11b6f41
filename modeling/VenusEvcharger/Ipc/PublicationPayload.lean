import VenusEvcharger.Ipc.CommandFields
import VenusEvcharger.Library.Newest

/-!
# Publication payloads

A publication is a command whose `fields` object carries one value per field and whose
`transport_field_orders` object may carry one order per field. A field without an order of its own
takes the order of the command. Two payloads merge field by field, and the larger order wins.
-/

namespace VenusEvcharger

open Library

/-- `publication_order`: the order of the whole command, zero when there is none. -/
def publicationOrder (command : CommandPayload) : Nat :=
  positiveInteger (command.get? "transport_order")

/-- `publication_fields`. -/
def publicationFields (command : CommandPayload) : Dict String Value :=
  (stringMapping (command.get? "fields")).getD Dict.empty

/-- The orders that the command states per field. -/
def configuredOrders (command : CommandPayload) : Dict String Value :=
  (stringMapping (command.get? "transport_field_orders")).getD Dict.empty

/-- The stated order of a field, or the order of the command. -/
def fieldOrder (command : CommandPayload) (field : String) : Nat :=
  let configured := positiveInteger ((configuredOrders command).get? field)
  if configured = 0 then publicationOrder command else configured

/-- `publication_field_orders`: one order for every field. -/
def publicationFieldOrders (command : CommandPayload) : Dict String Nat :=
  (publicationFields command).mapVal fun field _ => fieldOrder command field

/-- One pass of `_merge_ordered_fields`. -/
def mergeCandidateField (candidateOrders : Dict String Nat)
    (merged : Dict String Value × Dict String Nat) (entry : String × Value) :
    Dict String Value × Dict String Nat :=
  let order := candidateOrders.getD entry.1 0
  if !merged.1.contains entry.1 || decide (merged.2.getD entry.1 0 ≤ order) then
    (merged.1.set entry.1 entry.2, merged.2.set entry.1 order)
  else merged

/-- `_merge_ordered_fields`. -/
def mergeOrderedFields (existingFields candidateFields : Dict String Value)
    (existingOrders candidateOrders : Dict String Nat) : Dict String Value × Dict String Nat :=
  candidateFields.entries.foldl (mergeCandidateField candidateOrders) (existingFields, existingOrders)

/-- `_set_field_orders`: orders are stated only when one of them is positive. -/
def setFieldOrders (payload : CommandPayload) (orders : Dict String Nat) : CommandPayload :=
  if orders.entries.any fun entry => decide (entry.2 ≠ 0) then
    payload.set "transport_field_orders" (.obj (orders.mapVal fun _ order => .int order).entries)
  else payload.erase "transport_field_orders"

/-- `_accepted_candidate_fields`: all fields when no selection is given. -/
def acceptedCandidateFields (candidate : CommandPayload) (acceptedFields : Option (List String)) :
    Dict String Value :=
  match acceptedFields with
  | none => publicationFields candidate
  | some allowed => (publicationFields candidate).filter fun field _ => decide (field ∈ allowed)

/-- `merge_publication_payload`: fields by their order, everything else from the candidate. -/
def mergePublicationPayload (existing : Option CommandPayload) (candidate : CommandPayload)
    (acceptedFields : Option (List String)) : CommandPayload :=
  let base := existing.getD Dict.empty
  let merged := mergeOrderedFields (publicationFields base)
    (acceptedCandidateFields candidate acceptedFields) (publicationFieldOrders base)
    (publicationFieldOrders candidate)
  setFieldOrders ((base.update candidate).set "fields" (.obj merged.1.entries)) merged.2

/-- `filter_publication_payload`: exactly the requested fields that exist, `none` without any. -/
def filterPublicationPayload (command : CommandPayload) (fields : List String) :
    Option CommandPayload :=
  let values := (publicationFields command).filter fun field _ => decide (field ∈ fields)
  if values.entries = [] then none
  else
    let orders := publicationFieldOrders command
    some (setFieldOrders (command.set "fields" (.obj values.entries))
      (values.mapVal fun field _ => orders.getD field 0))

/-! ## Limits -/

def maxPublicationCoalesceKeyBytes : Nat := 512

def maxPublicationFieldNameBytes : Nat := 256

def maxPublicationFieldsPerKey : Nat := 256

def maxPublicationPayloadBytes : Nat := 48 * 1024

/-- `_coalesce_key_limit_reason` of the given key text. -/
def coalesceKeyLimitReason (key : String) : String :=
  if maxPublicationCoalesceKeyBytes < key.utf8ByteSize then "coalesce-key-too-large" else ""

/-- `_field_shape_limit_reason`. -/
def fieldShapeLimitReason (fields : Dict String Value) : String :=
  if maxPublicationFieldsPerKey < fields.length then "field-limit"
  else if fields.keys.any fun field => decide (maxPublicationFieldNameBytes < field.utf8ByteSize) then
    "field-name-too-large"
  else ""

/-- The first reason that is not empty. -/
def firstReason (reasons : List String) : String := (reasons.find? fun reason => reason ≠ "").getD ""

section

variable [PyLib]

/-- The size check on the JSON text of a whole payload. -/
def payloadSizeLimitReason (command : CommandPayload) : String :=
  if maxPublicationPayloadBytes < jsonSize (.obj command.entries) then "payload-limit" else ""

/-- `publication_payload_limit_reason`. -/
def publicationPayloadLimitReason (command : CommandPayload) : String :=
  firstReason [coalesceKeyLimitReason (commandText command "coalesce_key"),
    fieldShapeLimitReason (publicationFields command), payloadSizeLimitReason command]

/-- `fast_publication_payload_limit_reason`: a false key keeps its text here. -/
def fastPublicationPayloadLimitReason (command : CommandPayload) : String :=
  let key :=
    match command.get? "coalesce_key" with
    | none | some .null => ""
    | some value => value.text
  firstReason [coalesceKeyLimitReason key, fieldShapeLimitReason (publicationFields command),
    payloadSizeLimitReason command]

end

/-! ## What a merge and a filter publish -/

/-- The order and the value that a command publishes for a field. -/
def publishedField (command : CommandPayload) (field : String) : Option (Nat × Value) :=
  ((publicationFields command).get? field).map fun value => (fieldOrder command field, value)

/-- The order that a command publishes for a field. -/
def publishedOrder (command : CommandPayload) (field : String) : Option Nat :=
  (publishedField command field).map Prod.fst

variable {command : CommandPayload}

/-- What a command publishes is read from three of its entries. -/
theorem publishedField_congr {other : CommandPayload}
    (hfields : command.get? "fields" = other.get? "fields")
    (horders : command.get? "transport_field_orders" = other.get? "transport_field_orders")
    (horder : command.get? "transport_order" = other.get? "transport_order") (field : String) :
    publishedField command field = publishedField other field := by
  have hvalues : publicationFields command = publicationFields other := by
    rw [publicationFields, hfields, publicationFields]
  have hconfigured : configuredOrders command = configuredOrders other := by
    rw [configuredOrders, horders, configuredOrders]
  have hfallback : publicationOrder command = publicationOrder other := by
    rw [publicationOrder, horder, publicationOrder]
  rw [publishedField, publishedField, hvalues, fieldOrder, fieldOrder, hconfigured, hfallback]

@[simp] theorem get?_publicationFieldOrders (command : CommandPayload) (field : String) :
    (publicationFieldOrders command).get? field = publishedOrder command field := by
  simp [publicationFieldOrders, publishedOrder, publishedField, Function.comp_def]

@[simp] theorem getD_publicationFieldOrders (command : CommandPayload) (field : String) :
    (publicationFieldOrders command).getD field 0 = (publishedOrder command field).getD 0 := by
  rw [Dict.getD, get?_publicationFieldOrders]

theorem mem_keys_publicationFieldOrders {field : String} :
    field ∈ (publicationFieldOrders command).keys ↔ (publishedOrder command field).isSome := by
  rw [← Dict.contains_iff, Dict.contains, get?_publicationFieldOrders]

theorem contains_publicationFields (command : CommandPayload) (field : String) :
    (publicationFields command).contains field = (publishedOrder command field).isSome := by
  simp [Dict.contains, publishedOrder, publishedField]

/-- The order and the value of a field inside the merge loop. -/
def mergedField (merged : Dict String Value × Dict String Nat) (field : String) :
    Option (Nat × Value) :=
  (merged.1.get? field).map fun value => (merged.2.getD field 0, value)

theorem mergedField_mergeCandidateField (candidateOrders : Dict String Nat)
    (merged : Dict String Value × Dict String Nat) (entry : String × Value) (field : String) :
    mergedField (mergeCandidateField candidateOrders merged entry) field =
      if field = entry.1 then
        newest (mergedField merged field) (some (candidateOrders.getD entry.1 0, entry.2))
      else mergedField merged field := by
  have hwritten : mergedField (merged.1.set entry.1 entry.2,
      merged.2.set entry.1 (candidateOrders.getD entry.1 0)) field =
      if field = entry.1 then some (candidateOrders.getD entry.1 0, entry.2)
      else mergedField merged field := by
    rw [mergedField, Dict.get?_set, Dict.getD, Dict.get?_set]
    split_ifs <;> rfl
  rw [mergeCandidateField]
  by_cases hfield : field = entry.1
  · subst hfield
    cases hcurrent : merged.1.get? entry.1 with
    | none =>
      have hmissing : merged.1.contains entry.1 = false := by simp [Dict.contains, hcurrent]
      simp only [hmissing, Bool.not_false, Bool.true_or, if_true, hwritten]
      simp [mergedField, hcurrent]
    | some value =>
      have hpresent : merged.1.contains entry.1 = true := by simp [Dict.contains, hcurrent]
      have hview : mergedField merged entry.1 = some (merged.2.getD entry.1 0, value) := by
        simp [mergedField, hcurrent]
      simp only [hpresent, Bool.not_true, Bool.false_or, decide_eq_true_eq, if_true, hview,
        newest_some]
      split_ifs
      · rw [hwritten, if_pos rfl]
      · exact hview
  · simp only [hfield, if_false] at hwritten ⊢
    split_ifs
    · exact hwritten
    · rfl

theorem mergedField_mergeOrderedFields (existingFields candidateFields : Dict String Value)
    (existingOrders candidateOrders : Dict String Nat) (field : String) :
    mergedField (mergeOrderedFields existingFields candidateFields existingOrders candidateOrders)
        field =
      newest (mergedField (existingFields, existingOrders) field)
        ((candidateFields.get? field).map fun value => (candidateOrders.getD field 0, value)) := by
  have hloop := Dict.view_foldl_entries mergedField id
    (fun field value current => newest current (some (candidateOrders.getD field 0, value)))
    candidateFields (fun merged entry _ => mergedField_mergeCandidateField candidateOrders merged entry)
    Function.injective_id (existingFields, existingOrders) field
  rw [mergeOrderedFields]
  refine hloop.trans ?_
  cases candidateFields.get? field with
  | none => exact (newest_none _).symm
  | some value => rfl

/-- Setting the field orders changes no other entry. -/
theorem get?_setFieldOrders_of_ne (payload : CommandPayload) (orders : Dict String Nat)
    {key : String} (hkey : key ≠ "transport_field_orders") :
    (setFieldOrders payload orders).get? key = payload.get? key := by
  rw [setFieldOrders]
  split_ifs
  · rw [Dict.get?_set_ne _ _ hkey]
  · rw [Dict.get?_erase, if_neg hkey]

theorem get?_setFieldOrders_self (payload : CommandPayload) (orders : Dict String Nat) :
    (setFieldOrders payload orders).get? "transport_field_orders" =
      if orders.entries.any fun entry => decide (entry.2 ≠ 0) then
        some (.obj (orders.mapVal fun _ order => .int order).entries)
      else none := by
  rw [setFieldOrders]
  split_ifs
  · rw [Dict.get?_set_self]
  · rw [Dict.get?_erase, if_pos rfl]

theorem configured_setFieldOrders (payload : CommandPayload) (orders : Dict String Nat)
    (field : String) :
    positiveInteger ((configuredOrders (setFieldOrders payload orders)).get? field) =
      orders.getD field 0 := by
  rw [configuredOrders, get?_setFieldOrders_self, Dict.getD]
  split_ifs with hany
  · rw [stringMapping_obj, Option.getD_some, Dict.get?_mapVal]
    cases orders.get? field <;> rfl
  · cases horder : orders.get? field with
    | none => rfl
    | some order =>
      have hzero : order = 0 := by
        by_contra hne
        refine hany (List.any_eq_true.mpr ⟨(field, order), Dict.mem_entries_iff.mpr horder, ?_⟩)
        simpa using hne
      rw [hzero]
      rfl

/-- An unordered field takes the order of its command. -/
def withFallback (fallback : Nat) (published : Nat × Value) : Nat × Value :=
  (if published.1 = 0 then fallback else published.1, published.2)

theorem publishedField_setFieldOrders (payload : CommandPayload) (fields : Dict String Value)
    (orders : Dict String Nat) (field : String) :
    publishedField (setFieldOrders (payload.set "fields" (.obj fields.entries)) orders) field =
      (mergedField (fields, orders) field).map (withFallback (publicationOrder payload)) := by
  have hfields : publicationFields
      (setFieldOrders (payload.set "fields" (.obj fields.entries)) orders) = fields := by
    rw [publicationFields, get?_setFieldOrders_of_ne _ _ (by decide), Dict.get?_set_self,
      stringMapping_obj, Option.getD_some]
  have horder : publicationOrder
      (setFieldOrders (payload.set "fields" (.obj fields.entries)) orders) =
      publicationOrder payload := by
    rw [publicationOrder, get?_setFieldOrders_of_ne _ _ (by decide),
      Dict.get?_set_ne _ _ (by decide), publicationOrder]
  rw [publishedField, hfields, mergedField, Option.map_map]
  congr 1
  funext value
  simp only [fieldOrder, configured_setFieldOrders, horder, withFallback, Function.comp]

theorem mergedField_publication (command : CommandPayload) (field : String) :
    mergedField (publicationFields command, publicationFieldOrders command) field =
      publishedField command field := by
  rw [mergedField, getD_publicationFieldOrders, publishedOrder, publishedField]
  cases (publicationFields command).get? field <;> rfl

/-- The merge loop on two commands: the newest of what both publish. -/
theorem mergedField_merge (existing candidate : CommandPayload) (acceptedFields : Option (List String))
    (field : String) :
    mergedField (mergeOrderedFields (publicationFields existing)
      (acceptedCandidateFields candidate acceptedFields) (publicationFieldOrders existing)
      (publicationFieldOrders candidate)) field =
      newest (publishedField existing field)
        (if ∀ allowed ∈ acceptedFields, field ∈ allowed then publishedField candidate field
          else none) := by
  rw [mergedField_mergeOrderedFields, mergedField_publication]
  congr 1
  have hcandidate : ((publicationFields candidate).get? field).map
      (fun value => ((publicationFieldOrders candidate).getD field 0, value)) =
      publishedField candidate field :=
    mergedField_publication candidate field
  cases acceptedFields with
  | none => simpa [acceptedCandidateFields] using hcandidate
  | some allowed =>
    rw [acceptedCandidateFields, Dict.get?_filter_key]
    by_cases hallowed : field ∈ allowed
    · simpa [hallowed] using hcandidate
    · simp [hallowed]

theorem publishedField_merge (existing : Option CommandPayload) (candidate : CommandPayload)
    (acceptedFields : Option (List String)) (field : String) :
    publishedField (mergePublicationPayload existing candidate acceptedFields) field =
      (newest (publishedField (existing.getD Dict.empty) field)
        (if ∀ allowed ∈ acceptedFields, field ∈ allowed then publishedField candidate field
          else none)).map
        (withFallback (publicationOrder ((existing.getD Dict.empty).update candidate))) := by
  rw [mergePublicationPayload, publishedField_setFieldOrders, Prod.mk.eta, mergedField_merge]

theorem get?_merge_of_ne (existing : Option CommandPayload) (candidate : CommandPayload)
    (acceptedFields : Option (List String)) {key : String} (hfields : key ≠ "fields")
    (horders : key ≠ "transport_field_orders") :
    (mergePublicationPayload existing candidate acceptedFields).get? key =
      (candidate.get? key <|> (existing.getD Dict.empty).get? key) := by
  rw [mergePublicationPayload, get?_setFieldOrders_of_ne _ _ horders, Dict.get?_set_ne _ _ hfields,
    Dict.get?_update]

variable {filtered : CommandPayload} {fields : List String}

theorem publishedField_filter
    (hfilter : filterPublicationPayload command fields = some filtered) (field : String) :
    publishedField filtered field =
      if field ∈ fields then publishedField command field else none := by
  rw [filterPublicationPayload] at hfilter
  split_ifs at hfilter with hempty
  obtain rfl := Option.some.inj hfilter
  rw [publishedField_setFieldOrders, mergedField, Dict.get?_filter_key, Dict.getD,
    Dict.get?_mapVal, Dict.get?_filter_key]
  by_cases hmem : field ∈ fields
  · cases hvalue : (publicationFields command).get? field with
    | none => simp [publishedField, hvalue]
    | some value =>
      have hpublished : publishedField command field = some (fieldOrder command field, value) := by
        simp [publishedField, hvalue]
      have hfallback : fieldOrder command field = 0 → publicationOrder command = 0 := by
        rw [fieldOrder]
        split_ifs with hconfigured
        · exact id
        · exact fun hzero => absurd hzero hconfigured
      simp only [hmem, decide_true, if_true, Option.map_some, Option.getD_some,
        getD_publicationFieldOrders, publishedOrder, hpublished, withFallback]
      split_ifs with hzero
      · rw [hfallback hzero, hzero]
      · rfl
  · simp [hmem]

/-- Nothing is left of a payload exactly when none of the requested fields exists. -/
theorem filterPublicationPayload_eq_none :
    filterPublicationPayload command fields = none ↔
      ∀ field ∈ fields, publishedField command field = none := by
  have hempty : filterPublicationPayload command fields = none ↔
      ((publicationFields command).filter fun field _ => decide (field ∈ fields)).entries = [] := by
    rw [filterPublicationPayload]
    split_ifs with h
    · simp [h]
    · simp [h]
  rw [hempty, Dict.entries_eq_nil_iff]
  simp only [Dict.get?_filter_key, publishedField, Option.map_eq_none_iff]
  refine forall_congr' fun field => ?_
  by_cases hmem : field ∈ fields
  · simp [hmem]
  · simp [hmem]

theorem get?_filter_of_ne
    (hfilter : filterPublicationPayload command fields = some filtered) {key : String}
    (hfields : key ≠ "fields") (horders : key ≠ "transport_field_orders") :
    filtered.get? key = command.get? key := by
  rw [filterPublicationPayload] at hfilter
  split_ifs at hfilter with hempty
  obtain rfl := Option.some.inj hfilter
  rw [get?_setFieldOrders_of_ne _ _ horders, Dict.get?_set_ne _ _ hfields]

theorem publishedOrder_merge (existing : Option CommandPayload) (candidate : CommandPayload)
    (acceptedFields : Option (List String)) (field : String) :
    publishedOrder (mergePublicationPayload existing candidate acceptedFields) field =
      (Option.merge max (publishedOrder (existing.getD Dict.empty) field)
        (if ∀ allowed ∈ acceptedFields, field ∈ allowed then publishedOrder candidate field
          else none)).map fun order =>
        if order = 0 then publicationOrder ((existing.getD Dict.empty).update candidate) else order := by
  have hcandidate : (if ∀ allowed ∈ acceptedFields, field ∈ allowed then
      publishedOrder candidate field else none) =
      (if ∀ allowed ∈ acceptedFields, field ∈ allowed then publishedField candidate field
        else none).map Prod.fst := by
    split_ifs <;> rfl
  rw [publishedOrder, publishedField_merge, hcandidate, publishedOrder, ← map_fst_newest,
    Option.map_map, Option.map_map]
  rfl

theorem publishedOrder_merge_of_pos {existing : Option CommandPayload} {candidate : CommandPayload}
    {acceptedFields : Option (List String)} {field : String} {order : Nat}
    (hmerge : Option.merge max (publishedOrder (existing.getD Dict.empty) field)
      (if ∀ allowed ∈ acceptedFields, field ∈ allowed then publishedOrder candidate field
        else none) = some order) (hpos : 0 < order) :
    publishedOrder (mergePublicationPayload existing candidate acceptedFields) field = some order := by
  rw [publishedOrder_merge, hmerge, Option.map_some, if_neg hpos.ne']

theorem publishedOrder_filter
    (hfilter : filterPublicationPayload command fields = some filtered) (field : String) :
    publishedOrder filtered field =
      if field ∈ fields then publishedOrder command field else none := by
  rw [publishedOrder, publishedField_filter hfilter]
  split_ifs <;> rfl

section

variable [PyLib]

theorem commandKey_filter {command filtered : CommandPayload} {fields : List String}
    (hfilter : filterPublicationPayload command fields = some filtered) :
    commandKey filtered = commandKey command := by
  rw [commandKey, commandText, get?_filter_of_ne hfilter (by decide) (by decide), commandKey,
    commandText]

theorem commandKey_merge (existing : Option CommandPayload) {candidate : CommandPayload}
    (acceptedFields : Option (List String)) (hkey : commandKey candidate ≠ "") :
    commandKey (mergePublicationPayload existing candidate acceptedFields) = commandKey candidate := by
  rw [commandKey, commandText, get?_merge_of_ne existing candidate acceptedFields (by decide)
    (by decide), commandKey, commandText]
  cases hvalue : candidate.get? "coalesce_key" with
  | none =>
    refine absurd ?_ hkey
    rw [commandKey, commandText, hvalue]
    rfl
  | some value => rfl

end

end VenusEvcharger
