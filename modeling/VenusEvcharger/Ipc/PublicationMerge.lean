import VenusEvcharger.Ipc.PublicationPayload
import Mathlib.Data.List.Induction

/-!
# Merging any number of publications

Queue, mailbox and gateway merge the publications of one key one after the other. `mergeAll` is such a
chain. It is a join of the fields, whatever the order of the chain, as long as no unordered field takes the
order of another publication: `merge_fieldwise_iff` says when that is.

Scope: everything but fields and orders is taken from the last publication that has it, as
`mergePublicationPayload` says.
-/

namespace VenusEvcharger

open Library

section

variable (payloads : List CommandPayload)

/-- Publications merged in the order of the list. -/
def mergeAll : Option CommandPayload :=
  payloads.foldl (fun merged payload => some (mergePublicationPayload merged payload none)) none

/-- What the payloads publish for a field. -/
def publishedFields (field : String) : List (Nat × Value) :=
  payloads.filterMap (publishedField · field)

/-- No two payloads publish a field at one positive order. -/
def DistinctOrders : Prop :=
  ∀ field, (((publishedFields payloads field).filter fun entry => 0 < entry.1).map Prod.fst).Nodup

/-- The merge is a join: for each field the value of the greatest order, with that order, whatever the
order of the merges; and each selection of its fields keeps them as they are. -/
def MergesFieldwise : Prop :=
  ∀ chain, chain.Perm payloads → ∀ merged ∈ mergeAll chain, ∀ field,
    IsNewest (publishedField merged field) (publishedFields payloads field) ∧
    (publicationFieldOrders merged).get? field =
      (payloads.filterMap fun payload => (publicationFieldOrders payload).get? field).max? ∧
    (∀ other, other.Perm payloads → ∀ again ∈ mergeAll other,
      publishedField again field = publishedField merged field) ∧
    ∀ fields, ∀ filtered ∈ filterPublicationPayload merged fields,
      publishedField filtered field = if field ∈ fields then publishedField merged field else none

/-- Nobody can pass an order on to an unordered field: whoever orders the publication and not the field is
outranked by a payload that orders the field. And payloads that all leave a field unordered agree on it. -/
def KeepsUnordered : Prop :=
  ∀ field,
    (∀ unordered ∈ payloads, publishedOrder unordered field = some 0 → ∀ ranked ∈ payloads,
      0 < publicationOrder ranked → publishedOrder ranked field = none →
        ∃ payload ∈ payloads, ∃ order ∈ publishedOrder payload field, publicationOrder ranked ≤ order) ∧
    ((∀ entry ∈ publishedFields payloads field, entry.1 = 0) →
      ∀ entry ∈ publishedFields payloads field, ∀ other ∈ publishedFields payloads field, entry = other)

end

/-! ## The chain -/

variable {payloads : List CommandPayload} {field : String}

variable {entry : Nat × Value}

theorem mem_publishedFields :
    entry ∈ publishedFields payloads field ↔ ∃ payload ∈ payloads, publishedField payload field = some entry :=
  List.mem_filterMap

theorem publishedFields_concat (payloads : List CommandPayload) (payload : CommandPayload) (field : String) :
    publishedFields (payloads ++ [payload]) field =
      publishedFields payloads field ++ (publishedField payload field).toList := by
  unfold publishedFields
  rw [List.filterMap_append]
  cases hfield : publishedField payload field with
  | none => simp [hfield]
  | some entry => simp [hfield]

theorem perm_publishedFields {other : List CommandPayload} (hperm : payloads.Perm other)
    (field : String) : (publishedFields payloads field).Perm (publishedFields other field) :=
  hperm.filterMap _

theorem map_fst_publishedFields (payloads : List CommandPayload) (field : String) :
    (publishedFields payloads field).map Prod.fst =
      payloads.filterMap fun payload => (publicationFieldOrders payload).get? field := by
  unfold publishedFields
  rw [List.map_filterMap]
  refine List.filterMap_congr fun payload _ => ?_
  rw [get?_publicationFieldOrders, publishedOrder]

variable {command : CommandPayload}

/-- A payload without an order for one of its fields has no order at all. -/
theorem publicationOrder_of_publishedOrder (hzero : publishedOrder command field = some 0) :
    publicationOrder command = 0 := by
  unfold publishedOrder publishedField at hzero
  cases hvalue : (publicationFields command).get? field with
  | none =>
    rw [hvalue] at hzero
    nomatch hzero
  | some value =>
    rw [hvalue] at hzero
    have horder : fieldOrder command field = 0 := Option.some.inj hzero
    unfold fieldOrder at horder
    simp only [] at horder
    split at horder <;> omega

theorem publishedField_mergeNext (merged : Option CommandPayload) (payload : CommandPayload) (field : String) :
    publishedField (mergePublicationPayload merged payload none) field =
      (newest (publishedField (merged.getD Dict.empty) field) (publishedField payload field)).map
        (withFallback (publicationOrder (mergePublicationPayload merged payload none))) := by
  rw [publishedField_merge, if_pos (by simp)]
  congr 2
  rw [publicationOrder, publicationOrder, get?_merge_of_ne _ _ _ (by decide) (by decide), Dict.get?_update]

theorem publicationOrder_mergeNext (merged : Option CommandPayload) (payload : CommandPayload) :
    publicationOrder (mergePublicationPayload merged payload none) = publicationOrder payload ∨
      publicationOrder (mergePublicationPayload merged payload none) =
        publicationOrder (merged.getD Dict.empty) := by
  unfold publicationOrder
  rw [get?_merge_of_ne _ _ _ (by decide) (by decide)]
  cases payload.get? "transport_order" with
  | none => exact .inr rfl
  | some value => exact .inl rfl

theorem publicationOrder_mergeNext_of_pos (merged : Option CommandPayload) {payload : CommandPayload}
    (hpos : 0 < publicationOrder payload) :
    publicationOrder (mergePublicationPayload merged payload none) = publicationOrder payload := by
  unfold publicationOrder at hpos ⊢
  rw [get?_merge_of_ne _ _ _ (by decide) (by decide)]
  cases hvalue : payload.get? "transport_order" with
  | none =>
    rw [hvalue] at hpos
    exact absurd hpos (Nat.lt_irrefl 0)
  | some value => rfl

theorem mergeAll_concat (payloads : List CommandPayload) (payload : CommandPayload) :
    mergeAll (payloads ++ [payload]) = some (mergePublicationPayload (mergeAll payloads) payload none) := by
  unfold mergeAll
  rw [List.foldl_append]
  rfl

/-- A field of the merge that no payload orders like this: it took the order of `ranked`, which does not
publish it. -/
def Inherited (payloads : List CommandPayload) (merged : CommandPayload) (field : String) : Prop :=
  ∃ unordered ∈ payloads, publishedOrder unordered field = some 0 ∧
    ∃ ranked ∈ payloads, 0 < publicationOrder ranked ∧ publishedOrder ranked field = none ∧
      publishedOrder merged field = some (publicationOrder ranked) ∧
      ∀ entry ∈ publishedFields payloads field, entry.1 < publicationOrder ranked

/-- What a chain of merges keeps: every field is the newest one or inherited its order. -/
structure Chained (payloads : List CommandPayload) (merged : CommandPayload) : Prop where
  order : publicationOrder merged = 0 ∨
    ∃ payload ∈ payloads, publicationOrder merged = publicationOrder payload
  fields : ∀ field, IsNewest (publishedField merged field) (publishedFields payloads field) ∨
    Inherited payloads merged field

theorem chained_nil : Chained [] Dict.empty where
  order := .inl rfl
  fields := fun _ => .inl isNewest_nil

/-- An ordered value is not changed by the order of its payload. -/
theorem withFallback_of_pos {fallback : Nat} (hpos : 0 < entry.1) :
    withFallback fallback entry = entry := by
  unfold withFallback
  rw [if_neg hpos.ne']

theorem withFallback_zero (entry : Nat × Value) : withFallback 0 entry = entry := by
  unfold withFallback
  split_ifs with hzero
  · rw [← hzero]
  · rfl

theorem publishedOrder_of_unordered (hpos : 0 < publicationOrder command)
    (hzero : ∀ order ∈ publishedOrder command field, order = 0) :
    publishedOrder command field = none := by
  cases horder : publishedOrder command field with
  | none => rfl
  | some order =>
    obtain rfl := hzero order horder
    have := publicationOrder_of_publishedOrder horder
    omega

theorem mem_publishedOrder {order : Nat} (horder : order ∈ publishedOrder command field) :
    ∃ value, publishedField command field = some (order, value) := by
  obtain ⟨entry, hentry, rfl⟩ := Option.map_eq_some_iff.mp horder
  exact ⟨entry.2, hentry⟩

variable {merged : Option CommandPayload}

theorem next_of_newest {payload : CommandPayload}
    (horder : publicationOrder (mergePublicationPayload merged payload none) = 0 ∨
      ∃ stated ∈ payloads ++ [payload],
        publicationOrder (mergePublicationPayload merged payload none) = publicationOrder stated)
    (hnewest : IsNewest (publishedField (merged.getD Dict.empty) field) (publishedFields payloads field)) :
    IsNewest (publishedField (mergePublicationPayload merged payload none) field)
        (publishedFields (payloads ++ [payload]) field) ∨
      Inherited (payloads ++ [payload]) (mergePublicationPayload merged payload none) field := by
  have hnext := hnewest.merge (publishedField payload field)
  rw [← publishedFields_concat] at hnext
  have hpublished := publishedField_mergeNext merged payload field
  cases hentry : newest (publishedField (merged.getD Dict.empty) field) (publishedField payload field) with
  | none =>
    rw [hentry] at hpublished hnext
    rw [hpublished]
    exact .inl hnext
  | some entry =>
    rw [hentry, Option.map_some] at hpublished
    rw [hentry] at hnext
    by_cases hkeeps : 0 < entry.1 ∨ publicationOrder (mergePublicationPayload merged payload none) = 0
    · have hsame : withFallback (publicationOrder (mergePublicationPayload merged payload none)) entry = entry := by
        rcases hkeeps with hpos | hzero
        · exact withFallback_of_pos hpos
        · rw [hzero, withFallback_zero]
      rw [hpublished, hsame]
      exact .inl hnext
    · -- the field is unordered and the merge has the order of a payload that does not publish it
      obtain ⟨hmem, hmax⟩ := hnext
      have hzero : entry.1 = 0 := by omega
      obtain ⟨ranked, hranked, hstated⟩ := horder.resolve_left (by omega)
      obtain ⟨unordered, hunordered, hvalue⟩ := mem_publishedFields.mp hmem
      refine .inr ⟨unordered, hunordered, ?_, ranked, hranked, by omega, ?_, ?_, ?_⟩
      · rw [publishedOrder, hvalue, Option.map_some, hzero]
      · refine publishedOrder_of_unordered (by omega) fun order hmine => ?_
        obtain ⟨value, hpublishes⟩ := mem_publishedOrder hmine
        have hle := hmax _ (mem_publishedFields.mpr ⟨ranked, hranked, hpublishes⟩)
        have : order ≤ entry.1 := hle
        omega
      · rw [publishedOrder, hpublished, Option.map_some, withFallback, if_pos hzero, ← hstated]
      · intro other hother
        have := hmax other hother
        omega

theorem next_of_inherited (payload : CommandPayload)
    (hinherited : Inherited payloads (merged.getD Dict.empty) field) :
    IsNewest (publishedField (mergePublicationPayload merged payload none) field)
        (publishedFields (payloads ++ [payload]) field) ∨
      Inherited (payloads ++ [payload]) (mergePublicationPayload merged payload none) field := by
  obtain ⟨unordered, hunordered, hzero, ranked, hranked, hpos, hnone, horder, hbelow⟩ := hinherited
  obtain ⟨value, hvalue⟩ := mem_publishedOrder horder
  have hpublished := publishedField_mergeNext merged payload field
  rw [hvalue] at hpublished
  rw [publishedFields_concat]
  by_cases houtranked : ∃ entry ∈ publishedField payload field, publicationOrder ranked ≤ entry.1
  · obtain ⟨entry, hentry, hle⟩ := houtranked
    have hentry : publishedField payload field = some entry := hentry
    rw [hentry, newest_some, if_pos hle, Option.map_some, withFallback_of_pos (by omega)] at hpublished
    rw [hpublished, hentry, Option.toList_some]
    refine .inl ⟨List.mem_append_right _ (List.mem_singleton_self entry), fun other hother => ?_⟩
    rcases List.mem_append.mp hother with hold | hnew
    · have := hbelow other hold
      omega
    · rw [List.mem_singleton.mp hnew]
  · have hstays : newest (some (publicationOrder ranked, value)) (publishedField payload field) =
        some (publicationOrder ranked, value) := by
      cases hentry : publishedField payload field with
      | none => rfl
      | some entry =>
        rw [newest_some, if_neg fun hle => houtranked ⟨entry, hentry, hle⟩]
    rw [hstays, Option.map_some, withFallback_of_pos hpos] at hpublished
    refine .inr ⟨unordered, List.mem_append_left _ hunordered, hzero, ranked,
      List.mem_append_left _ hranked, hpos, hnone, ?_, fun other hother => ?_⟩
    · rw [publishedOrder, hpublished, Option.map_some]
    · rw [publishedFields_concat] at hother
      rcases List.mem_append.mp hother with hold | hnew
      · exact hbelow other hold
      · exact Nat.lt_of_not_le fun hle => houtranked ⟨other, Option.mem_toList.mp hnew, hle⟩

theorem Chained.next (hchained : Chained payloads (merged.getD Dict.empty))
    (payload : CommandPayload) :
    Chained (payloads ++ [payload]) (mergePublicationPayload merged payload none) := by
  have horder : publicationOrder (mergePublicationPayload merged payload none) = 0 ∨
      ∃ stated ∈ payloads ++ [payload],
        publicationOrder (mergePublicationPayload merged payload none) = publicationOrder stated := by
    rcases publicationOrder_mergeNext merged payload with hlast | hbase
    · exact .inr ⟨payload, List.mem_append_right _ (List.mem_singleton_self payload), hlast⟩
    · rcases hchained.order with hzero | ⟨stated, hstated, hsame⟩
      · exact .inl (hbase.trans hzero)
      · exact .inr ⟨stated, List.mem_append_left _ hstated, hbase.trans hsame⟩
  refine ⟨horder, fun field => ?_⟩
  rcases hchained.fields field with hnewest | hinherited
  · exact next_of_newest horder hnewest
  · exact next_of_inherited payload hinherited

theorem chained_mergeAll (payloads : List CommandPayload) :
    Chained payloads ((mergeAll payloads).getD Dict.empty) := by
  induction payloads using List.reverseRecOn with
  | nil => exact chained_nil
  | append_singleton payloads payload ih =>
    rw [mergeAll_concat]
    exact ih.next payload

/-! ## When the chain is a join -/

/-- Where nobody passes an order on, every chain keeps the newest value of every field. -/
theorem newest_of_keepsUnordered {chain : List CommandPayload} (hkeeps : KeepsUnordered payloads)
    (hperm : chain.Perm payloads) {merged : CommandPayload} (hmerged : merged ∈ mergeAll chain)
    (field : String) : IsNewest (publishedField merged field) (publishedFields payloads field) := by
  have hchained := (chained_mergeAll chain).fields field
  have hmerged : mergeAll chain = some merged := hmerged
  rw [hmerged, Option.getD_some] at hchained
  rcases hchained with hnewest | ⟨unordered, hunordered, hzero, ranked, hranked, hpos, hnone, -, hbelow⟩
  · exact hnewest.perm (perm_publishedFields hperm field)
  · obtain ⟨payload, hpayload, order, horder, hle⟩ := (hkeeps field).1 unordered (hperm.mem_iff.mp hunordered)
      hzero ranked (hperm.mem_iff.mp hranked) hpos hnone
    obtain ⟨value, hvalue⟩ := mem_publishedOrder horder
    have hlt := hbelow (order, value) (mem_publishedFields.mpr ⟨payload, hperm.mem_iff.mpr hpayload, hvalue⟩)
    exact absurd hle (Nat.not_le_of_lt hlt)

theorem newest_unique (hdistinct : DistinctOrders payloads) (hkeeps : KeepsUnordered payloads)
    {register other : Option (Nat × Value)}
    (hnewest : IsNewest register (publishedFields payloads field))
    (hother : IsNewest other (publishedFields payloads field)) : other = register := by
  have hstamps := hnewest.stamp_unique hother
  cases register with
  | none => exact (Option.map_eq_none_iff.mp hstamps.symm)
  | some entry =>
    obtain ⟨again, rfl, hsame⟩ := Option.map_eq_some_iff.mp hstamps.symm
    by_cases hpos : 0 < entry.1
    · have hinj := List.inj_on_of_nodup_map (hdistinct field)
      exact congrArg some (hinj (List.mem_filter.mpr ⟨hother.1, by simp [hsame, hpos]⟩)
        (List.mem_filter.mpr ⟨hnewest.1, by simp [hpos]⟩) hsame)
    · -- all payloads leave the field unordered
      have hzero : ∀ stated ∈ publishedFields payloads field, stated.1 = 0 := by
        intro stated hstated
        have := hnewest.2 stated hstated
        omega
      rw [(hkeeps field).2 hzero again hother.1 entry hnewest.1]

theorem mergesFieldwise_of_keepsUnordered (hdistinct : DistinctOrders payloads)
    (hkeeps : KeepsUnordered payloads) : MergesFieldwise payloads := by
  intro chain hperm merged hmerged field
  have hnewest := newest_of_keepsUnordered hkeeps hperm hmerged field
  refine ⟨hnewest, ?_, ?_, ?_⟩
  · rw [get?_publicationFieldOrders, publishedOrder, hnewest.map_fst, map_fst_publishedFields]
  · intro other hother again hagain
    exact newest_unique hdistinct hkeeps hnewest (newest_of_keepsUnordered hkeeps hother hagain field)
  · intro fields filtered hfiltered
    exact publishedField_filter hfiltered field

/-- An inherited order stays with its field as long as no payload outranks it. -/
theorem publishedOrder_foldl {inherited : Nat} (hpos : 0 < inherited)
    (payloads : List CommandPayload)
    (hbelow : ∀ entry ∈ publishedFields payloads field, entry.1 < inherited)
    {merged : CommandPayload} (horder : publishedOrder merged field = some inherited) :
    ∃ final, payloads.foldl (fun merged payload => some (mergePublicationPayload merged payload none))
        (some merged) = some final ∧ publishedOrder final field = some inherited := by
  induction payloads generalizing merged with
  | nil => exact ⟨merged, rfl, horder⟩
  | cons payload rest ih =>
    have hrest : ∀ entry ∈ publishedFields rest field, entry.1 < inherited := by
      intro entry hentry
      obtain ⟨stated, hstated, hvalue⟩ := mem_publishedFields.mp hentry
      exact hbelow entry (mem_publishedFields.mpr ⟨stated, List.mem_cons_of_mem _ hstated, hvalue⟩)
    refine ih hrest ?_
    refine @publishedOrder_merge_of_pos (some merged) payload none field inherited ?_ hpos
    rw [if_pos (by simp), Option.getD_some, horder]
    cases hmine : publishedOrder payload field with
    | none => rfl
    | some order =>
      obtain ⟨value, hvalue⟩ := mem_publishedOrder hmine
      have hlt := hbelow (order, value) (mem_publishedFields.mpr ⟨payload, List.mem_cons_self, hvalue⟩)
      show some (max inherited order) = some inherited
      rw [max_eq_left (Nat.le_of_lt hlt)]

theorem publishedField_first (payload : CommandPayload) (field : String) :
    publishedField (mergePublicationPayload none payload none) field = publishedField payload field := by
  rw [publishedField_merge, if_pos (by simp)]
  show (newest none (publishedField payload field)).map (withFallback _) = _
  rw [none_newest]
  cases hvalue : publishedField payload field with
  | none => rfl
  | some entry =>
    rw [Option.map_some]
    by_cases hpos : 0 < entry.1
    · rw [withFallback_of_pos hpos]
    · have hzero : publicationOrder payload = 0 := by
        have hunordered : publishedOrder payload field = some 0 := by
          rw [publishedOrder, hvalue, Option.map_some, Nat.eq_zero_of_not_pos hpos]
        exact publicationOrder_of_publishedOrder hunordered
      have hfallback : publicationOrder (Dict.update ((none : Option CommandPayload).getD Dict.empty) payload) = 0 := by
        rw [← hzero, publicationOrder, publicationOrder, Dict.get?_update]
        cases payload.get? "transport_order" <;> rfl
      rw [hfallback, withFallback_zero]

/-- A payload that passes its order on to an unordered field breaks the join: right after the unordered one,
its order becomes the one of the field. -/
theorem outranked_of_mergesFieldwise (hmerges : MergesFieldwise payloads)
    {unordered ranked : CommandPayload} (hunordered : unordered ∈ payloads)
    (hzero : publishedOrder unordered field = some 0) (hranked : ranked ∈ payloads)
    (hpos : 0 < publicationOrder ranked) (hnone : publishedOrder ranked field = none) :
    ∃ payload ∈ payloads, ∃ order ∈ publishedOrder payload field, publicationOrder ranked ≤ order := by
  by_contra hnobody
  have hbelow : ∀ entry ∈ publishedFields payloads field, entry.1 < publicationOrder ranked := by
    intro entry hentry
    obtain ⟨payload, hpayload, hvalue⟩ := mem_publishedFields.mp hentry
    refine Nat.lt_of_not_le fun hle => hnobody ⟨payload, hpayload, entry.1, ?_, hle⟩
    show publishedOrder payload field = some entry.1
    rw [publishedOrder, hvalue, Option.map_some]
  have hne : ranked ≠ unordered := by
    intro hsame
    rw [hsame, hzero] at hnone
    cases hnone
  have hperm : (unordered :: ranked :: (payloads.erase unordered).erase ranked).Perm payloads :=
    ((List.perm_cons_erase hunordered).trans
      ((List.perm_cons_erase ((List.mem_erase_of_ne hne).mpr hranked)).cons unordered)).symm
  have hinherits : publishedOrder (mergePublicationPayload (some (mergePublicationPayload none unordered none))
      ranked none) field = some (publicationOrder ranked) := by
    obtain ⟨value, hvalue⟩ := mem_publishedOrder hzero
    have hnothing : publishedField ranked field = none := Option.map_eq_none_iff.mp hnone
    rw [publishedOrder, publishedField_mergeNext, Option.getD_some, publishedField_first, hvalue, hnothing,
      newest_none, publicationOrder_mergeNext_of_pos _ hpos]
    rfl
  have hrest : ∀ entry ∈ publishedFields ((payloads.erase unordered).erase ranked) field,
      entry.1 < publicationOrder ranked := by
    intro entry hentry
    obtain ⟨payload, hpayload, hvalue⟩ := mem_publishedFields.mp hentry
    exact hbelow entry (mem_publishedFields.mpr ⟨payload, List.mem_of_mem_erase (List.mem_of_mem_erase hpayload), hvalue⟩)
  obtain ⟨final, hfinal, horder⟩ := publishedOrder_foldl hpos _ hrest hinherits
  obtain ⟨hnewest, -⟩ := hmerges _ hperm final hfinal field
  obtain ⟨value, hvalue⟩ := mem_publishedOrder horder
  rw [hvalue] at hnewest
  exact Nat.lt_irrefl _ (hbelow _ hnewest.1)

/-- Payloads that all leave a field unordered are a join only when they agree: the last one wins. -/
theorem agree_of_mergesFieldwise (hmerges : MergesFieldwise payloads)
    (hzero : ∀ entry ∈ publishedFields payloads field, entry.1 = 0) {other : Nat × Value}
    (hentry : entry ∈ publishedFields payloads field)
    (hother : other ∈ publishedFields payloads field) : entry = other := by
  -- no payload has an order at all that the field could inherit
  have hlast : ∀ last ∈ payloads, ∀ stated, publishedField last field = some stated →
      ∃ merged ∈ mergeAll (payloads.erase last ++ [last]), publishedField merged field = some stated := by
    intro last hlast stated hstated
    have hmem : stated ∈ publishedFields payloads field := mem_publishedFields.mpr ⟨last, hlast, hstated⟩
    refine ⟨_, mergeAll_concat _ _, ?_⟩
    have hperm : (payloads.erase last ++ [last]).Perm payloads :=
      (List.perm_append_singleton last _).trans (List.perm_cons_erase hlast).symm
    obtain ⟨hnewest, -⟩ := hmerges _ hperm _ (mergeAll_concat _ _) field
    have hpublished := publishedField_mergeNext (mergeAll (payloads.erase last)) last field
    rw [hstated] at hpublished
    rw [hpublished] at hnewest ⊢
    have hunordered := hzero stated hmem
    obtain ⟨kept, hkept, hcase⟩ : ∃ kept,
        newest (publishedField ((mergeAll (payloads.erase last)).getD Dict.empty) field) (some stated) = some kept ∧
          (kept = stated ∨ 0 < kept.1) := by
      cases hprevious : publishedField ((mergeAll (payloads.erase last)).getD Dict.empty) field with
      | none => exact ⟨stated, rfl, .inl rfl⟩
      | some previous =>
        rw [newest_some]
        split_ifs with hle
        · exact ⟨stated, rfl, .inl rfl⟩
        · exact ⟨previous, rfl, .inr (by omega)⟩
    rw [hkept, Option.map_some] at hnewest ⊢
    have hresult := hzero _ hnewest.1
    rcases hcase with rfl | hpos
    · rw [withFallback, if_pos hunordered] at hresult
      have hfallback : publicationOrder (mergePublicationPayload (mergeAll (payloads.erase last)) last none) = 0 :=
        hresult
      rw [hfallback, withFallback_zero]
    · rw [withFallback_of_pos hpos] at hresult
      omega
  obtain ⟨first, hfirst, hvalue⟩ := mem_publishedFields.mp hentry
  obtain ⟨second, hsecond, hagain⟩ := mem_publishedFields.mp hother
  have hperm : ∀ last ∈ payloads, (payloads.erase last ++ [last]).Perm payloads := fun last hlast =>
    (List.perm_append_singleton last _).trans (List.perm_cons_erase hlast).symm
  obtain ⟨merged, hmerged, hpublished⟩ := hlast first hfirst entry hvalue
  obtain ⟨again, hmergedAgain, hpublishedAgain⟩ := hlast second hsecond other hagain
  obtain ⟨-, -, hindependent, -⟩ := hmerges _ (hperm first hfirst) merged hmerged field
  have hsame := hindependent _ (hperm second hsecond) again hmergedAgain
  rw [hpublished, hpublishedAgain] at hsame
  exact (Option.some.inj hsame).symm

/-- Chains of merges are field-wise joins exactly when no payload passes its order on. -/
theorem merges_fieldwise_iff {payloads : List CommandPayload} (hdistinct : DistinctOrders payloads) :
    MergesFieldwise payloads ↔ KeepsUnordered payloads := by
  constructor
  · intro hmerges field
    constructor
    · intro unordered hunordered hzero ranked hranked hpos hnone
      exact outranked_of_mergesFieldwise hmerges hunordered hzero hranked hpos hnone
    · intro hzero entry hentry other hother
      exact agree_of_mergesFieldwise hmerges hzero hentry hother
  · exact mergesFieldwise_of_keepsUnordered hdistinct

/-- A payload of one field, and its order. -/
def fieldPayload (field : String) (value : Int) (order : Nat) : CommandPayload :=
  (Dict.empty.set "fields" (.obj [(field, .int value)])).set "transport_order" (.int order)

theorem publicationOrder_fieldPayload (field : String) (value : Int) (order : Nat) :
    publicationOrder (fieldPayload field value order) = order := by
  rw [fieldPayload, publicationOrder, Dict.get?_set_self]
  show (order : Int).toNat = order
  omega

theorem publishedField_fieldPayload (field : String) (value : Int) (order : Nat) (other : String) :
    publishedField (fieldPayload field value order) other =
      if other = field then some (order, .int value) else none := by
  have hfields : publicationFields (fieldPayload field value order) = Dict.empty.set field (.int value) := by
    rw [fieldPayload, publicationFields, Dict.get?_set_ne _ _ (by decide), Dict.get?_set_self]
    rfl
  have hconfigured : configuredOrders (fieldPayload field value order) = Dict.empty := by
    rw [fieldPayload, configuredOrders, Dict.get?_set_ne _ _ (by decide), Dict.get?_set_ne _ _ (by decide)]
    rfl
  have hown : fieldOrder (fieldPayload field value order) other = order := by
    rw [fieldOrder, hconfigured, publicationOrder_fieldPayload]
    rfl
  rw [publishedField, hfields, Dict.get?_set, hown]
  split_ifs <;> rfl

/-- An unordered value and an ordered one. -/
def restated : List CommandPayload := [fieldPayload "power" 1 0, fieldPayload "power" 2 10]

theorem publishedFields_restated (field : String) :
    publishedFields restated field = if field = "power" then [(0, .int 1), (10, .int 2)] else [] := by
  unfold publishedFields restated
  by_cases hfield : field = "power" <;> simp [publishedField_fieldPayload, hfield]

/-- The ordered payload publishes the field itself, so it passes no order on. -/
theorem restated_merges : MergesFieldwise restated := by
  refine (merges_fieldwise_iff fun field => ?_).mpr fun field => ?_
  · rw [publishedFields_restated]
    split_ifs <;> decide
  · rw [publishedFields_restated]
    constructor
    · intro unordered hunordered hzero ranked hranked _ hnone
      have hsame : ∀ payload ∈ restated, publishedOrder payload field = none ↔ field ≠ "power" := by
        intro payload hpayload
        simp only [restated, List.mem_cons, List.not_mem_nil, or_false] at hpayload
        rcases hpayload with rfl | rfl
        · simp [publishedOrder, publishedField_fieldPayload]
        · simp [publishedOrder, publishedField_fieldPayload]
      rw [(hsame unordered hunordered).mpr ((hsame ranked hranked).mp hnone)] at hzero
      cases hzero
    · intro hzero
      split_ifs at hzero ⊢ with hfield
      · exact absurd (hzero (10, .int 2) (by simp)) (by decide)
      · simp

/-- A reading that no one ordered, another field at order 10, and a newer reading at order 5. -/
def reverted : List CommandPayload :=
  [fieldPayload "power" 1 0, fieldPayload "energy" 2 10, fieldPayload "power" 3 5]

theorem publishedFields_reverted (field : String) :
    publishedFields reverted field =
      if field = "power" then [(0, .int 1), (5, .int 3)]
      else if field = "energy" then [(10, .int 2)] else [] := by
  unfold publishedFields reverted
  by_cases hpower : field = "power"
  · simp [publishedField_fieldPayload, hpower]
  · by_cases henergy : field = "energy" <;> simp [publishedField_fieldPayload, hpower, henergy]

/-- The unordered reading takes order 10 and so wins over the newer one. -/
theorem reverted_reading :
    DistinctOrders reverted ∧ ¬ MergesFieldwise reverted ∧
      (mergeAll reverted).bind (publishedField · "power") = some (10, .int 1) := by
  have hwins : (mergeAll reverted).bind (publishedField · "power") = some (10, .int 1) := by decide +kernel
  refine ⟨fun field => ?_, fun hmerges => ?_, hwins⟩
  · rw [publishedFields_reverted]
    split_ifs <;> decide
  · obtain ⟨merged, hmerged, hpower⟩ := Option.bind_eq_some_iff.mp hwins
    obtain ⟨hnewest, -⟩ := hmerges reverted (List.Perm.refl _) merged hmerged "power"
    rw [hpower, publishedFields_reverted] at hnewest
    exact absurd hnewest.1 (by decide)

end VenusEvcharger
