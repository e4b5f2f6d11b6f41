import VenusEvcharger.Ipc.FastPublicationEffects
import VenusEvcharger.Ipc.PublicationMerge
import VenusEvcharger.Python.JsonSize

/-!
# Limits of queued publications

A publication is checked against the limits when it is queued, and afterwards the queue filters it and
stores less of it than it checked. `Settled` says that a payload states the orders that it publishes; such
a payload only shrinks when it is filtered. What `enqueue` stores is within the limits that it checked
when the stored stamp and the fields that were superseded are not longer than the ones it checked.
-/

namespace VenusEvcharger

open Library

theorem eq_empty_of_firstReason {reasons : List String} (hfirst : firstReason reasons = "") {reason : String}
    (hmem : reason ∈ reasons) : reason = "" := by
  unfold firstReason at hfirst
  by_contra hne
  cases hfound : reasons.find? fun reason => decide (reason ≠ "") with
  | none =>
    have hall := List.find?_eq_none.mp hfound reason hmem
    simp [hne] at hall
  | some found =>
    have hpositive := List.find?_some hfound
    rw [hfound, Option.getD_some] at hfirst
    simp [hfirst] at hpositive

section

variable [PyLib]

/-- The field count and the payload size that `enqueue` permits. -/
structure WithinLimits (command : CommandPayload) : Prop where
  fields : (publicationFields command).length ≤ maxPublicationFieldsPerKey
  size : jsonSize (.obj command.entries) ≤ maxPublicationPayloadBytes

instance (command : CommandPayload) : Decidable (WithinLimits command) :=
  decidable_of_iff (_ ∧ _) ⟨fun h => ⟨h.1, h.2⟩, fun h => ⟨h.fields, h.size⟩⟩

/-- What passes the check of `enqueue` is within the limits. -/
theorem withinLimits_of_limitReason {command : CommandPayload}
    (hreason : fastPublicationPayloadLimitReason command = "") : WithinLimits command := by
  constructor
  · have hshape := eq_empty_of_firstReason hreason (List.mem_cons_of_mem _ List.mem_cons_self)
    unfold fieldShapeLimitReason at hshape
    by_contra hlong
    rw [if_pos (Nat.lt_of_not_le hlong)] at hshape
    exact absurd hshape (by decide)
  · have hsize := eq_empty_of_firstReason hreason
      (List.mem_cons_of_mem _ (List.mem_cons_of_mem _ List.mem_cons_self))
    unfold payloadSizeLimitReason at hsize
    by_contra hlong
    rw [if_pos (Nat.lt_of_not_le hlong)] at hsize
    exact absurd hsize (by decide)

end

/-! ## Payloads that state the orders they publish -/

/-- The payload holds its fields, and the order of each of them unless there is none. -/
structure Settled (command : CommandPayload) : Prop where
  fields : command.get? "fields" = some (.obj (publicationFields command).entries)
  orders : (∃ orders : Dict String Nat, command.get? "transport_field_orders" =
        some (.obj (orders.mapVal fun _ order => .int order).entries) ∧
      ∀ field order, publishedOrder command field = some order → orders.get? field = some order) ∨
    ∀ field order, publishedOrder command field = some order → order = 0

variable {command : CommandPayload}

theorem Settled.congr {other : CommandPayload} (hsettled : Settled command)
    (hfields : other.get? "fields" = command.get? "fields")
    (horders : other.get? "transport_field_orders" = command.get? "transport_field_orders")
    (horder : other.get? "transport_order" = command.get? "transport_order") : Settled other := by
  have hpublished : ∀ field, publishedOrder other field = publishedOrder command field := by
    intro field
    rw [publishedOrder, publishedField_congr hfields horders horder, publishedOrder]
  have hvalues : publicationFields other = publicationFields command := by
    rw [publicationFields, hfields, publicationFields]
  refine ⟨by rw [hfields, hvalues, hsettled.fields], ?_⟩
  rw [horders]
  simp only [hpublished]
  exact hsettled.orders

/-- What is stored by `_set_field_orders`. -/
theorem settled_setFieldOrders {payload : CommandPayload} {fields : Dict String Value}
    {orders : Dict String Nat}
    (hpublished : ∀ field order, publishedOrder (setFieldOrders (payload.set "fields" (.obj fields.entries))
      orders) field = some order → orders.get? field = some order) :
    Settled (setFieldOrders (payload.set "fields" (.obj fields.entries)) orders) := by
  have hfields : (setFieldOrders (payload.set "fields" (.obj fields.entries)) orders).get? "fields" =
      some (.obj fields.entries) := by
    rw [get?_setFieldOrders_of_ne _ _ (by decide), Dict.get?_set_self]
  refine ⟨?_, ?_⟩
  · rw [publicationFields, hfields, stringMapping_obj, Option.getD_some]
  · rw [get?_setFieldOrders_self]
    split_ifs with hany
    · exact .inl ⟨orders, rfl, hpublished⟩
    · -- no order of the payload is positive
      refine .inr fun field order horder => ?_
      by_contra hne
      refine hany (List.any_eq_true.mpr ⟨(field, order), Dict.mem_entries_iff.mpr (hpublished field order horder), ?_⟩)
      simpa using hne

variable {filtered : CommandPayload} {fields : List String}

theorem get?_publicationFields_filter
    (hfilter : filterPublicationPayload command fields = some filtered) :
    filtered.get? "fields" =
        some (.obj ((publicationFields command).filter fun field _ => decide (field ∈ fields)).entries) ∧
      publicationFields filtered = (publicationFields command).filter fun field _ => decide (field ∈ fields) := by
  rw [filterPublicationPayload] at hfilter
  split_ifs at hfilter with hempty
  obtain rfl := Option.some.inj hfilter
  set values := (publicationFields command).filter fun field _ => decide (field ∈ fields)
  set orders := values.mapVal fun field _ => (publicationFieldOrders command).getD field 0
  have hfields : (setFieldOrders (command.set "fields" (.obj values.entries)) orders).get? "fields" =
      some (.obj values.entries) := by
    rw [get?_setFieldOrders_of_ne _ _ (by decide), Dict.get?_set_self]
  exact ⟨hfields, by rw [publicationFields, hfields, stringMapping_obj, Option.getD_some]⟩

theorem settled_filter
    (hfilter : filterPublicationPayload command fields = some filtered) : Settled filtered := by
  have hpublished := publishedOrder_filter hfilter
  rw [filterPublicationPayload] at hfilter
  split_ifs at hfilter with hempty
  obtain rfl := Option.some.inj hfilter
  refine settled_setFieldOrders fun field order horder => ?_
  rw [hpublished] at horder
  split_ifs at horder with hmem
  obtain ⟨value, hvalue⟩ := mem_publishedOrder horder
  obtain ⟨stated, hstated, -⟩ := Option.map_eq_some_iff.mp hvalue
  rw [Dict.get?_mapVal, Dict.get?_filter_key, hstated, getD_publicationFieldOrders, horder]
  simp [hmem]

/-- Larger orders of at least the same fields have no shorter text. -/
theorem jsonSize_orders_le [PyLib] {orders other : Dict String Nat}
    (hle : ∀ field order, orders.get? field = some order → ∃ larger, other.get? field = some larger ∧ order ≤ larger) :
    jsonSize (.obj (orders.mapVal fun _ order => .int order).entries) ≤
      jsonSize (.obj (other.mapVal fun _ order => .int order).entries) := by
  refine jsonSize_obj_le fun field => ?_
  rw [Dict.get?_mapVal, Dict.get?_mapVal]
  cases horder : orders.get? field with
  | none => exact Nat.zero_le _
  | some order =>
    obtain ⟨larger, hlarger, hsmaller⟩ := hle field order horder
    rw [hlarger]
    exact entrySize_mono (jsonSize_int_le hsmaller)

theorem withinLimits_filter [PyLib] (hsettled : Settled command) (hlimits : WithinLimits command)
    (hfilter : filterPublicationPayload command fields = some filtered) : WithinLimits filtered := by
  obtain ⟨hstored, hfields⟩ := get?_publicationFields_filter hfilter
  have hkept : ∀ field, (publicationFields filtered).get? field ≠ none →
      (publicationFields command).get? field ≠ none := by
    intro field hsome
    rw [hfields, Dict.get?_filter_key] at hsome
    split_ifs at hsome
    · exact hsome
    · exact absurd rfl hsome
  refine ⟨(Dict.length_le_of_get? hkept).trans hlimits.fields, (jsonSize_obj_le fun key => ?_).trans hlimits.size⟩
  by_cases hisFields : key = "fields"
  · subst hisFields
    rw [hstored, hsettled.fields]
    refine entrySize_mono (jsonSize_obj_le fun field => ?_)
    rw [Dict.get?_filter_key]
    split_ifs
    · exact Nat.le_refl _
    · exact Nat.zero_le _
  · by_cases hisOrders : key = "transport_field_orders"
    · subst hisOrders
      rw [filterPublicationPayload] at hfilter
      split_ifs at hfilter with hempty
      obtain rfl := Option.some.inj hfilter
      rw [get?_setFieldOrders_self]
      split_ifs with hany
      · have hstated : ∀ field order, (((publicationFields command).filter fun field _ =>
            decide (field ∈ fields)).mapVal fun field _ => (publicationFieldOrders command).getD field 0).get? field =
              some order → publishedOrder command field = some order := by
          intro field order horder
          rw [Dict.get?_mapVal, Dict.get?_filter_key] at horder
          split_ifs at horder with hmem
          · obtain ⟨value, hvalue, rfl⟩ := Option.map_eq_some_iff.mp horder
            rw [getD_publicationFieldOrders, publishedOrder, publishedField, hvalue]
            rfl
          · cases horder
        rcases hsettled.orders with ⟨orders, horders, hown⟩ | hzero
        · rw [horders]
          exact entrySize_mono (jsonSize_orders_le fun field order horder =>
            ⟨order, hown field order (hstated field order horder), Nat.le_refl _⟩)
        · -- a payload without orders leaves none to state
          obtain ⟨entry, hentry, hne⟩ := List.any_eq_true.mp hany
          have := hzero entry.1 entry.2 (hstated entry.1 entry.2 (Dict.mem_entries_iff.mp hentry))
          simp [this] at hne
      · exact Nat.zero_le _
    · rw [get?_filter_of_ne hfilter hisFields hisOrders]

/-! ## Merging -/

/-- A merge that gives no transport order to an unordered field. -/
def KeepsOrders (existing : Option CommandPayload) (candidate : CommandPayload)
    (acceptedFields : Option (List String)) : Prop :=
  publicationOrder ((existing.getD Dict.empty).update candidate) = 0 ∨
    ∀ field, Option.merge max (publishedOrder (existing.getD Dict.empty) field)
      (if ∀ allowed ∈ acceptedFields, field ∈ allowed then publishedOrder candidate field else none) ≠ some 0

/-- The fields and the orders of a merge. -/
def mergedFields (existing : Option CommandPayload) (candidate : CommandPayload)
    (acceptedFields : Option (List String)) : Dict String Value × Dict String Nat :=
  mergeOrderedFields (publicationFields (existing.getD Dict.empty))
    (acceptedCandidateFields candidate acceptedFields) (publicationFieldOrders (existing.getD Dict.empty))
    (publicationFieldOrders candidate)

theorem isSome_mergeOrderedFields (existingFields candidateFields : Dict String Value)
    (existingOrders candidateOrders : Dict String Nat)
    (hsame : ∀ field, (existingOrders.get? field).isSome = (existingFields.get? field).isSome) (field : String) :
    ((mergeOrderedFields existingFields candidateFields existingOrders candidateOrders).2.get? field).isSome =
      ((mergeOrderedFields existingFields candidateFields existingOrders candidateOrders).1.get? field).isSome := by
  unfold mergeOrderedFields
  generalize candidateFields.entries = entries
  induction entries generalizing existingFields existingOrders with
  | nil => exact hsame field
  | cons entry entries ih =>
    rw [List.foldl_cons]
    unfold mergeCandidateField
    simp only []
    split_ifs
    · refine ih _ _ fun other => ?_
      rw [Dict.get?_set, Dict.get?_set]
      split_ifs
      · rfl
      · exact hsame other
    · exact ih _ _ hsame

theorem get?_mergedFields (existing : Option CommandPayload) (candidate : CommandPayload)
    (acceptedFields : Option (List String)) (field : String) :
    (mergedFields existing candidate acceptedFields).1.get? field =
        (mergedField (mergedFields existing candidate acceptedFields) field).map Prod.snd ∧
      (mergedFields existing candidate acceptedFields).2.get? field =
        (mergedField (mergedFields existing candidate acceptedFields) field).map Prod.fst := by
  have hsame := isSome_mergeOrderedFields (publicationFields (existing.getD Dict.empty))
    (acceptedCandidateFields candidate acceptedFields) (publicationFieldOrders (existing.getD Dict.empty))
    (publicationFieldOrders candidate) (fun other => by
      rw [get?_publicationFieldOrders, ← contains_publicationFields, Dict.contains]) field
  unfold mergedField
  change ((mergedFields existing candidate acceptedFields).2.get? field).isSome =
    ((mergedFields existing candidate acceptedFields).1.get? field).isSome at hsame
  cases hvalue : (mergedFields existing candidate acceptedFields).1.get? field with
  | none =>
    rw [hvalue] at hsame
    exact ⟨rfl, Option.not_isSome_iff_eq_none.mp (by rw [hsame]; exact Bool.false_ne_true)⟩
  | some value =>
    rw [hvalue] at hsame
    obtain ⟨order, horder⟩ := Option.isSome_iff_exists.mp hsame
    exact ⟨rfl, by rw [horder, Dict.getD, horder]; rfl⟩

theorem publishedOrder_merge_of_keeps {existing : Option CommandPayload} {candidate : CommandPayload}
    {acceptedFields : Option (List String)} (hkeeps : KeepsOrders existing candidate acceptedFields)
    (field : String) :
    publishedOrder (mergePublicationPayload existing candidate acceptedFields) field =
      Option.merge max (publishedOrder (existing.getD Dict.empty) field)
        (if ∀ allowed ∈ acceptedFields, field ∈ allowed then publishedOrder candidate field else none) := by
  rw [publishedOrder_merge]
  cases hmerge : Option.merge max (publishedOrder (existing.getD Dict.empty) field)
      (if ∀ allowed ∈ acceptedFields, field ∈ allowed then publishedOrder candidate field else none) with
  | none => rfl
  | some order =>
    rw [Option.map_some]
    rcases hkeeps with hzero | hordered
    · rw [hzero]
      split_ifs with hunordered
      · rw [hunordered]
      · rfl
    · have hne : order ≠ 0 := fun hunordered => hordered field (hunordered ▸ hmerge)
      rw [if_neg hne]

theorem settled_merge {existing : Option CommandPayload} {candidate : CommandPayload}
    {acceptedFields : Option (List String)} (hkeeps : KeepsOrders existing candidate acceptedFields) :
    Settled (mergePublicationPayload existing candidate acceptedFields) := by
  refine settled_setFieldOrders fun field order horder => ?_
  rw [← horder]
  show (mergedFields existing candidate acceptedFields).2.get? field =
    publishedOrder (mergePublicationPayload existing candidate acceptedFields) field
  rw [(get?_mergedFields existing candidate acceptedFields field).2, mergedFields, mergedField_merge,
    map_fst_newest, publishedOrder_merge_of_keeps hkeeps]
  unfold publishedOrder
  split_ifs <;> rfl

/-- What a merge holds under its names. -/
theorem get?_mergePublicationPayload (existing : Option CommandPayload) (candidate : CommandPayload)
    (acceptedFields : Option (List String)) :
    (mergePublicationPayload existing candidate acceptedFields).get? "fields" =
        some (.obj (mergedFields existing candidate acceptedFields).1.entries) ∧
      (mergePublicationPayload existing candidate acceptedFields).get? "transport_field_orders" =
        if (mergedFields existing candidate acceptedFields).2.entries.any fun entry => decide (entry.2 ≠ 0) then
          some (.obj ((mergedFields existing candidate acceptedFields).2.mapVal fun _ order => .int order).entries)
        else none := by
  constructor
  · show (setFieldOrders _ _).get? "fields" = _
    rw [get?_setFieldOrders_of_ne _ _ (by decide), Dict.get?_set_self]
    rfl
  · show (setFieldOrders _ _).get? "transport_field_orders" = _
    rw [get?_setFieldOrders_self]
    rfl

/-! ## What is checked and what is stored -/

section

variable [PyLib] {existing : Option CommandPayload} {candidate : CommandPayload} {acceptedFields : List String}

/-- The fields that are superseded hide nothing longer: a field that stays queued instead of a newer one of the
publication has no longer value. -/
def HidesNothingLonger (existing : Option CommandPayload) (candidate : CommandPayload)
    (acceptedFields : List String) : Prop :=
  ∀ field stated queued, publishedField candidate field = some stated → field ∉ acceptedFields →
    publishedField (existing.getD Dict.empty) field = some queued → queued.1 ≤ stated.1 →
      jsonSize queued.2 ≤ jsonSize stated.2

theorem stored_le_checked (hhides : HidesNothingLonger existing candidate acceptedFields) {field : String}
    {order : Nat} {value : Value}
    (hstored : mergedField (mergedFields existing candidate (some acceptedFields)) field = some (order, value)) :
    ∃ larger longer, mergedField (mergedFields existing candidate none) field = some (larger, longer) ∧
      order ≤ larger ∧ jsonSize value ≤ jsonSize longer := by
  rw [mergedFields, mergedField_merge] at hstored ⊢
  simp only [Option.mem_def, Option.some.injEq, forall_eq', reduceCtorEq, IsEmpty.forall_iff, implies_true,
    if_true] at hstored ⊢
  by_cases haccepted : field ∈ acceptedFields
  · rw [if_pos haccepted] at hstored
    exact ⟨order, value, hstored, Nat.le_refl _, Nat.le_refl _⟩
  · rw [if_neg haccepted, newest_none] at hstored
    rw [hstored]
    cases hstated : publishedField candidate field with
    | none => exact ⟨order, value, rfl, Nat.le_refl _, Nat.le_refl _⟩
    | some stated =>
      rw [newest_some]
      split_ifs with hle
      · exact ⟨stated.1, stated.2, rfl, hle, hhides field stated (order, value) hstated haccepted hstored hle⟩
      · exact ⟨order, value, rfl, Nat.le_refl _, Nat.le_refl _⟩

/-- What `enqueue` stores is within the limits that it checked. -/
theorem withinLimits_stored {key : String} {checkedEpoch storedEpoch : ℚ}
    (hhides : HidesNothingLonger existing candidate acceptedFields)
    (hstamp : jsonSize (.float ((commandFloat
        (((existing.getD Dict.empty).update candidate).get? "created_at")).orElse storedEpoch)) ≤
      jsonSize (.float ((commandFloat
        (((existing.getD Dict.empty).update candidate).get? "created_at")).orElse checkedEpoch)))
    (hchecked : WithinLimits (FastPublicationQueue.stampPayload
      (mergePublicationPayload existing candidate none) key checkedEpoch)) :
    WithinLimits (FastPublicationQueue.stampPayload
      (mergePublicationPayload existing candidate (some acceptedFields)) key storedEpoch) := by
  have hfields : ∀ accepted epoch, (FastPublicationQueue.stampPayload
      (mergePublicationPayload existing candidate accepted) key epoch).get? "fields" =
        some (.obj (mergedFields existing candidate accepted).1.entries) := by
    intro accepted epoch
    rw [FastPublicationQueue.get?_stampPayload_of_ne _ _ _ (by decide) (by decide) (by decide),
      (get?_mergePublicationPayload existing candidate accepted).1]
  have hpublication : ∀ accepted epoch, publicationFields (FastPublicationQueue.stampPayload
      (mergePublicationPayload existing candidate accepted) key epoch) =
        (mergedFields existing candidate accepted).1 := by
    intro accepted epoch
    rw [publicationFields, hfields, stringMapping_obj, Option.getD_some]
  have hcreated : ∀ accepted, (mergePublicationPayload existing candidate accepted).get? "created_at" =
      ((existing.getD Dict.empty).update candidate).get? "created_at" := by
    intro accepted
    rw [get?_merge_of_ne _ _ _ (by decide) (by decide), Dict.get?_update]
  -- the fields and the orders, entry by entry
  have hentries : ∀ field entry,
      mergedField (mergedFields existing candidate (some acceptedFields)) field = some entry →
      ∃ other, mergedField (mergedFields existing candidate none) field = some other ∧
        entry.1 ≤ other.1 ∧ jsonSize entry.2 ≤ jsonSize other.2 := by
    intro field entry hentry
    obtain ⟨larger, longer, hother, hle, hsize⟩ := stored_le_checked hhides hentry
    exact ⟨(larger, longer), hother, hle, hsize⟩
  refine ⟨?_, (jsonSize_obj_le fun name => ?_).trans hchecked.size⟩
  · refine (Dict.length_le_of_get? fun field hsome => ?_).trans hchecked.fields
    rw [hpublication, (get?_mergedFields existing candidate _ field).1] at hsome ⊢
    cases hentry : mergedField (mergedFields existing candidate (some acceptedFields)) field with
    | none =>
      rw [hentry] at hsome
      exact absurd rfl hsome
    | some entry =>
      obtain ⟨other, hother, -⟩ := hentries field entry hentry
      rw [hother]
      exact Option.some_ne_none _
  · by_cases hname : name = "fields"
    · subst hname
      rw [hfields, hfields]
      refine entrySize_mono (jsonSize_obj_le fun field => ?_)
      rw [(get?_mergedFields existing candidate _ field).1, (get?_mergedFields existing candidate _ field).1]
      cases hentry : mergedField (mergedFields existing candidate (some acceptedFields)) field with
      | none => exact Nat.zero_le _
      | some entry =>
        obtain ⟨other, hother, -, hsize⟩ := hentries field entry hentry
        rw [hother]
        exact entrySize_mono hsize
    · by_cases hcreatedAt : name = "created_at"
      · subst hcreatedAt
        simp only [FastPublicationQueue.stampPayload, Dict.get?_set, hcreated]
        exact entrySize_mono hstamp
      · by_cases horders : name = "transport_field_orders"
        · subst horders
          rw [FastPublicationQueue.get?_stampPayload_of_ne _ _ _ (by decide) (by decide) (by decide),
            FastPublicationQueue.get?_stampPayload_of_ne _ _ _ (by decide) (by decide) (by decide),
            (get?_mergePublicationPayload existing candidate _).2,
            (get?_mergePublicationPayload existing candidate _).2]
          split_ifs with hany hanyChecked
          · refine entrySize_mono (jsonSize_orders_le fun field order horder => ?_)
            rw [(get?_mergedFields existing candidate _ field).2] at horder
            obtain ⟨entry, hentry, rfl⟩ := Option.map_eq_some_iff.mp horder
            obtain ⟨other, hother, hle, -⟩ := hentries field entry hentry
            refine ⟨other.1, ?_, hle⟩
            rw [(get?_mergedFields existing candidate _ field).2, hother, Option.map_some]
          · -- a positive order that is stored was checked
            obtain ⟨⟨field, order⟩, hmem, hpositive⟩ := List.any_eq_true.mp hany
            have horder := Dict.mem_entries_iff.mp hmem
            rw [(get?_mergedFields existing candidate _ field).2] at horder
            obtain ⟨entry, hentry, rfl⟩ := Option.map_eq_some_iff.mp horder
            obtain ⟨other, hother, hle, -⟩ := hentries field entry hentry
            refine absurd (List.any_eq_true.mpr ⟨(field, other.1), Dict.mem_entries_iff.mpr ?_, ?_⟩) hanyChecked
            · rw [(get?_mergedFields existing candidate _ field).2, hother, Option.map_some]
            · simp only [decide_eq_true_eq] at hpositive ⊢
              omega
          · exact Nat.zero_le _
          · exact Nat.zero_le _
        · -- every other entry is the same
          simp only [FastPublicationQueue.stampPayload, Dict.get?_set, if_neg hcreatedAt,
            get?_merge_of_ne _ _ _ hname horders]
          exact Nat.le_refl _

end

end VenusEvcharger
