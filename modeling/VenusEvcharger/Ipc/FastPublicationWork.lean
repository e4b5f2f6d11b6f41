import VenusEvcharger.Ipc.PublicationPayload

/-!
# Transient publications and their leases

A transient publication is a field publication that may disappear with the gateway process. The
queue hands it out as a lease: the command, the expiry of each field, and the retry state.
-/

namespace VenusEvcharger

open Library

def publishEvcsFieldsKind : String := "publish_evcs_fields"

def publishCompanionFieldsKind : String := "publish_companion_fields"

/-! ## Admission -/

/-- `PublishEvcsFields`. -/
structure PublishEvcsFields where
  fields : Dict String Value
  priority : String

/-- `PublishCompanionFields`. -/
structure PublishCompanionFields where
  serviceId : String
  fields : Dict String Value
  priority : String

/-- `_valid_field_name`: nonempty text without surrounding space. -/
def validFieldName (name : String) : Bool := decide (name ≠ "" ∧ name = strip name)

/-- `_parsed_fields`: a nonempty object with valid names. -/
def parsedFields (value : Option Value) : Option (Dict String Value) :=
  match stringMapping value with
  | none => none
  | some fields => if fields.keys.all validFieldName && !fields.entries.isEmpty then some fields else none

/-- `_is_service_id`: nonempty text without any space. -/
def parsedServiceId : Option Value → Option String
  | some (.str id) => if id ≠ "" ∧ id = strip id ∧ !id.toList.any isSpace then some id else none
  | _ => none

/-- `_is_publication_priority`. -/
def parsedPublicationPriority : Option Value → Option String
  | some (.str priority) => if priority ∈ ["critical", "live", "diagnostic"] then some priority else none
  | _ => none

/-- `parse_publish_evcs_fields`. -/
def parsePublishEvcsFields (command : CommandPayload) : Option PublishEvcsFields := do
  guard (command.get? "kind" = some (.str publishEvcsFieldsKind))
  let fields ← parsedFields (command.get? "fields")
  let priority ← parsedPublicationPriority (command.get? "publication_priority")
  return ⟨fields, priority⟩

/-- `parse_publish_companion_fields`. -/
def parsePublishCompanionFields (command : CommandPayload) : Option PublishCompanionFields := do
  guard (command.get? "kind" = some (.str publishCompanionFieldsKind))
  let serviceId ← parsedServiceId (command.get? "service_id")
  let fields ← parsedFields (command.get? "fields")
  let priority ← parsedPublicationPriority (command.get? "publication_priority")
  return ⟨serviceId, fields, priority⟩

/-- `_TRANSIENT_PRIORITIES`. -/
def transientPriorities : List String := ["live", "diagnostic"]

/-- A publication with its expiry times and retry state. -/
structure FastPublicationWork where
  command : CommandPayload
  fieldExpiresAt : Dict String ℚ
  retryAt : ℚ
  deferred : Bool
deriving DecidableEq

section

variable [PyLib]

/-- `_valid_transient_kind`. -/
def validTransientKind (command : CommandPayload) : Bool :=
  let kind := commandText command "kind"
  if kind = publishEvcsFieldsKind then (parsePublishEvcsFields command).isSome
  else if kind = publishCompanionFieldsKind then (parsePublishCompanionFields command).isSome
  else false

/-- `is_transient_publication`. -/
def isTransientPublication (command : CommandPayload) : Bool :=
  decide (commandText command "publication_priority" ∈ transientPriorities) &&
    validTransientKind command

/-- `fast_command_id`. -/
def fastCommandId (key : String) : String := "fast-" ++ ((PyLib.sha256Hex key).take 24).toString

end

/-! ## Leases -/

/-- `retained_fast_work`: the fields that have not expired, `none` without any. -/
def retainedFastWork (work : FastPublicationWork) (now : ℚ) : Option FastPublicationWork :=
  let expiry := work.fieldExpiresAt.filter fun _ expiresAt => decide (now < expiresAt)
  (filterPublicationPayload work.command expiry.keys).map fun payload =>
    { work with command := payload, fieldExpiresAt := expiry }

/-- `fast_requeue_candidate`. -/
def fastRequeueCandidate [PyLib] (work : FastPublicationWork) (now : ℚ) :
    Option (String × FastPublicationWork) :=
  match retainedFastWork work now with
  | none => none
  | some retained =>
    let key := commandKey retained.command
    if key = "" then none else some (key, retained)

/-- `fast_field_selection`: the present and the remaining fields, `none` when none is present. -/
def fastFieldSelection (work : FastPublicationWork) (fields : List String) :
    Option (List String × List String) :=
  let queuedFields := publicationFields work.command
  let removed := fields.filter fun field => queuedFields.contains field
  if removed = [] then none
  else some (removed, queuedFields.keys.filter fun field => decide (field ∉ removed))

/-- One pass of `_merged_field_expiry`. -/
def mergeFieldExpiry (requeuedOrders queuedOrders : Dict String Nat) (expiry : Dict String ℚ)
    (entry : String × ℚ) : Dict String ℚ :=
  if !expiry.contains entry.1 ||
      decide (requeuedOrders.getD entry.1 0 ≤ queuedOrders.getD entry.1 0) then
    expiry.set entry.1 entry.2
  else expiry

/-- `_merged_field_expiry`. -/
def mergedFieldExpiry (requeued queued : FastPublicationWork) : Dict String ℚ :=
  queued.fieldExpiresAt.entries.foldl (mergeFieldExpiry (publicationFieldOrders requeued.command)
    (publicationFieldOrders queued.command)) requeued.fieldExpiresAt

/-- `merge_fast_work`: a queued publication of the key is the newer side. -/
def mergeFastWork (requeued : FastPublicationWork) (queued : Option FastPublicationWork)
    (retryAt : ℚ) (deferred : Bool) : FastPublicationWork :=
  match queued with
  | none => ⟨requeued.command, requeued.fieldExpiresAt, retryAt, deferred⟩
  | some queued =>
    ⟨mergePublicationPayload (some requeued.command) queued.command none,
      mergedFieldExpiry requeued queued, min retryAt queued.retryAt, deferred && queued.deferred⟩

/-! ## What a lease publishes -/

namespace FastPublicationWork

/-- The order of a field of the publication. -/
def order? (work : FastPublicationWork) (field : String) : Option Nat :=
  publishedOrder work.command field

/-- Whether the lifetime of a field has ended. -/
def Expired (work : FastPublicationWork) (now : ℚ) (field : String) : Prop :=
  ∃ expiresAt, work.fieldExpiresAt.get? field = some expiresAt ∧ expiresAt ≤ now

instance (work : FastPublicationWork) (now : ℚ) (field : String) :
    Decidable (work.Expired now field) :=
  match h : work.fieldExpiresAt.get? field with
  | some expiresAt => decidable_of_iff (expiresAt ≤ now) (by simp [Expired, h])
  | none => isFalse (by simp [Expired, h])

variable [PyLib]

/-- What queue and leases hold: a publication of the key, with an expiry for each field. -/
structure WellFormed (work : FastPublicationWork) (key : String) : Prop where
  key_eq : commandKey work.command = key
  key_ne : key ≠ ""
  expiry_iff : ∀ field, (work.fieldExpiresAt.get? field).isSome = (work.order? field).isSome

end FastPublicationWork

variable [PyLib] {work retained : FastPublicationWork} {key : String} {now : ℚ}

/-- The fields that a retained lease keeps. -/
theorem mem_unexpired (hwf : work.WellFormed key) (now : ℚ) (field : String) :
    field ∈ (work.fieldExpiresAt.filter fun _ expiresAt => decide (now < expiresAt)).keys ↔
      (work.order? field).isSome ∧ ¬ work.Expired now field := by
  rw [Dict.mem_keys_iff, ← hwf.expiry_iff field, FastPublicationWork.Expired]
  cases hat : work.fieldExpiresAt.get? field with
  | none => simp [hat]
  | some expiresAt =>
    by_cases hlt : now < expiresAt
    · simp [hat, hlt, not_le.mpr hlt]
    · simp [hat, hlt, not_lt.mp hlt]

/-- A retained lease holds the fields that have not expired. -/
theorem order?_retained (hwf : work.WellFormed key) (hretained : retainedFastWork work now = some retained)
    (field : String) :
    retained.order? field = if work.Expired now field then none else work.order? field := by
  simp only [retainedFastWork, Option.map_eq_some_iff] at hretained
  obtain ⟨payload, hpayload, rfl⟩ := hretained
  have hkept := mem_unexpired hwf now field
  rw [FastPublicationWork.order?, publishedOrder_filter hpayload]
  by_cases hmem : field ∈
      (work.fieldExpiresAt.filter fun _ expiresAt => decide (now < expiresAt)).keys
  · rw [if_pos hmem, if_neg (hkept.mp hmem).2, FastPublicationWork.order?]
  · rw [if_neg hmem]
    split_ifs with hexpired
    · rfl
    · by_contra hsome
      exact hmem (hkept.mpr ⟨Option.isSome_iff_ne_none.mpr fun hnone => hsome hnone.symm, hexpired⟩)

theorem retainedFastWork_eq_none (hwf : work.WellFormed key) :
    retainedFastWork work now = none ↔
      ∀ field, (work.order? field).isSome → work.Expired now field := by
  rw [retainedFastWork, Option.map_eq_none_iff, filterPublicationPayload_eq_none]
  constructor
  · intro h field hsome
    by_contra hexpired
    have hnone := h field ((mem_unexpired hwf now field).mpr ⟨hsome, hexpired⟩)
    simp [FastPublicationWork.order?, publishedOrder, hnone] at hsome
  · intro h field hmem
    obtain ⟨hsome, hexpired⟩ := (mem_unexpired hwf now field).mp hmem
    exact absurd (h field hsome) hexpired

omit [PyLib] in
theorem get?_fieldExpiresAt_retained (hretained : retainedFastWork work now = some retained)
    (field : String) :
    retained.fieldExpiresAt.get? field =
      (work.fieldExpiresAt.get? field).filter fun expiresAt => decide (now < expiresAt) := by
  simp only [retainedFastWork, Option.map_eq_some_iff] at hretained
  obtain ⟨payload, -, rfl⟩ := hretained
  exact Dict.get?_filter _ _ _

theorem wellFormed_retained (hwf : work.WellFormed key)
    (hretained : retainedFastWork work now = some retained) : retained.WellFormed key where
  key_eq := by
    simp only [retainedFastWork, Option.map_eq_some_iff] at hretained
    obtain ⟨payload, hpayload, rfl⟩ := hretained
    exact (commandKey_filter hpayload).trans hwf.key_eq
  key_ne := hwf.key_ne
  expiry_iff := by
    intro field
    rw [get?_fieldExpiresAt_retained hretained, order?_retained hwf hretained]
    have hexpiry := hwf.expiry_iff field
    cases hat : work.fieldExpiresAt.get? field with
    | none =>
      rw [hat] at hexpiry
      simpa [FastPublicationWork.Expired, hat] using hexpiry
    | some expiresAt =>
      rw [hat] at hexpiry
      by_cases hlt : now < expiresAt
      · simpa [FastPublicationWork.Expired, hat, hlt, not_le.mpr hlt] using hexpiry
      · simp [FastPublicationWork.Expired, hat, hlt, not_lt.mp hlt]

/-- What a lease brings back to the queue is well formed and unexpired. -/
theorem fastRequeueCandidate_cases (hwf : work.WellFormed key) (now : ℚ) :
    (fastRequeueCandidate work now = none ∧
      ∀ field, (work.order? field).isSome → work.Expired now field) ∨
    ∃ retained, fastRequeueCandidate work now = some (key, retained) ∧
      retained.WellFormed key ∧
      ∀ field, retained.order? field =
        if work.Expired now field then none else work.order? field := by
  cases hretained : retainedFastWork work now with
  | none =>
    refine .inl ⟨?_, (retainedFastWork_eq_none hwf).mp hretained⟩
    rw [fastRequeueCandidate, hretained]
  | some retained =>
    have hkept := wellFormed_retained hwf hretained
    refine .inr ⟨retained, ?_, hkept, order?_retained hwf hretained⟩
    rw [fastRequeueCandidate, hretained]
    simp only [hkept.key_eq, if_neg hkept.key_ne]

/-! ## Selecting fields -/

omit [PyLib] in
/-- Nothing is selected when the publication has none of the fields. -/
theorem order?_of_selection_none {fields : List String}
    (hselection : fastFieldSelection work fields = none) {field : String} (hmem : field ∈ fields) :
    work.order? field = none := by
  rw [fastFieldSelection] at hselection
  split_ifs at hselection with hremoved
  have hnot := List.filter_eq_nil_iff.mp hremoved field hmem
  rw [contains_publicationFields] at hnot
  exact Option.not_isSome_iff_eq_none.mp hnot

omit [PyLib] in
/-- The remaining fields are those of the publication that were not selected. -/
theorem mem_remaining {fields removed remaining : List String}
    (hselection : fastFieldSelection work fields = some (removed, remaining)) {field : String} :
    field ∈ remaining ↔ (work.order? field).isSome ∧ field ∉ fields := by
  rw [fastFieldSelection] at hselection
  split_ifs at hselection with hremoved
  obtain ⟨rfl, rfl⟩ := Prod.mk.inj (Option.some.inj hselection)
  rw [List.mem_filter, ← Dict.contains_iff, contains_publicationFields, FastPublicationWork.order?]
  simp only [List.mem_filter, contains_publicationFields, decide_eq_true_eq, not_and]
  constructor
  · rintro ⟨hsome, hnot⟩
    exact ⟨hsome, fun hmem => hnot hmem hsome⟩
  · rintro ⟨hsome, hnot⟩
    exact ⟨hsome, fun hmem => absurd hmem hnot⟩

/-! ## Merging a lease back -/

omit [PyLib] in
/-- A pass over the queued expiries writes or keeps one expiry. -/
theorem isSome_mergeFieldExpiry (requeuedOrders queuedOrders : Dict String Nat)
    (expiry : Dict String ℚ) (entry : String × ℚ) (field : String) :
    ((mergeFieldExpiry requeuedOrders queuedOrders expiry entry).get? field).isSome =
      if field = entry.1 then true else (expiry.get? field).isSome := by
  rw [mergeFieldExpiry]
  by_cases hfield : field = entry.1
  · subst hfield
    rw [if_pos rfl]
    split_ifs with hwrite
    · simp
    · simp only [Bool.or_eq_true, Bool.not_eq_true', not_or, Bool.not_eq_false] at hwrite
      exact hwrite.1
  · rw [if_neg hfield]
    split_ifs
    · rw [Dict.get?_set_ne _ _ hfield]
    · rfl

omit [PyLib] in
theorem isSome_mergedFieldExpiry (requeued queued : FastPublicationWork) (field : String) :
    ((mergedFieldExpiry requeued queued).get? field).isSome =
      ((requeued.fieldExpiresAt.get? field).isSome || (queued.fieldExpiresAt.get? field).isSome) := by
  have hloop := Dict.view_foldl_entries (fun expiry field => (Dict.get? expiry field).isSome) id
    (fun _ _ _ => true) queued.fieldExpiresAt
    (fun expiry entry _ field => isSome_mergeFieldExpiry (publicationFieldOrders requeued.command)
      (publicationFieldOrders queued.command) expiry entry field)
    Function.injective_id requeued.fieldExpiresAt field
  refine hloop.trans ?_
  cases queued.fieldExpiresAt.get? field <;> simp

theorem wellFormed_mergeFastWork {requeued queued : FastPublicationWork}
    (hrequeued : requeued.WellFormed key) (hqueued : queued.WellFormed key) (retryAt : ℚ)
    (deferred : Bool) : (mergeFastWork requeued (some queued) retryAt deferred).WellFormed key where
  key_eq := (commandKey_merge _ _ (hqueued.key_eq.symm ▸ hqueued.key_ne)).trans hqueued.key_eq
  key_ne := hqueued.key_ne
  expiry_iff := by
    intro field
    rw [FastPublicationWork.order?, mergeFastWork, isSome_mergedFieldExpiry,
      hrequeued.expiry_iff, hqueued.expiry_iff, publishedOrder_merge, Option.isSome_map,
      FastPublicationWork.order?, FastPublicationWork.order?]
    simp only [Option.not_mem_none, IsEmpty.forall_iff, implies_true, if_true, Option.getD_some]
    cases publishedOrder requeued.command field <;> cases publishedOrder queued.command field <;> rfl

omit [PyLib] in
/-- A positive order of a merge is the larger order of both sides. -/
theorem order?_mergeFastWork {requeued queued : FastPublicationWork} {retryAt : ℚ} {deferred : Bool}
    {field : String} {order : Nat}
    (hmerge : Option.merge max (requeued.order? field) (queued.order? field) = some order)
    (hpos : 0 < order) :
    (mergeFastWork requeued (some queued) retryAt deferred).order? field = some order :=
  publishedOrder_merge_of_pos (by simpa [FastPublicationWork.order?] using hmerge) hpos

end VenusEvcharger
