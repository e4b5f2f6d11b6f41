import VenusEvcharger.Ipc.CommandMailboxDeadline
import VenusEvcharger.Library.Run
import Mathlib.Data.List.Induction

/-!
# Merged publications in the durable mailbox

Publications of one key, kind, target and priority are merged into one file. Whatever order they
arrive in, the file publishes every field with the newest of all its values, as long as the file
stays within the limits; a call that would exceed them is refused.
-/

namespace VenusEvcharger

open Library

section

variable [PyLib]

/-- The mailbox directory after a call. -/
def enqueueGatewayFiles (files : MailboxFiles) (call : EnqueueCall) : MailboxFiles :=
  (enqueueGatewayCommand files call).2

/-- Publications that merge with each other: one key, one kind and target, one priority, and an
order for every field. -/
structure SamePublication (key : String) (calls : List EnqueueCall) : Prop where
  keyed : ∀ call ∈ calls, commandKey call.command = key
  target : ∀ call ∈ calls, ∀ other ∈ calls,
    samePublishFieldsPayload call.command other.command = true
  priority : ∀ call ∈ calls, ∀ other ∈ calls, commandRank call.command = commandRank other.command
  ordered : ∀ call ∈ calls, ∀ field order, publishedOrder call.command field = some order → 0 < order

variable {calls : List EnqueueCall}

variable {key : String}

theorem SamePublication.of_subset {others : List EnqueueCall}
    (h : SamePublication key others) (hsubset : calls ⊆ others) : SamePublication key calls where
  keyed := fun call hcall => h.keyed call (hsubset hcall)
  target := fun call hcall other hother => h.target call (hsubset hcall) other (hsubset hother)
  priority := fun call hcall other hother => h.priority call (hsubset hcall) other (hsubset hother)
  ordered := fun call hcall => h.ordered call (hsubset hcall)

/-- Neither the call's own payload nor what it merges into exceeds the limits. -/
def WithinLimit (files : MailboxFiles) (call : EnqueueCall) : Prop :=
  oversizedPublication call.normalized.command = none ∧
    ∀ existing, coalescedExisting files call.normalized = some existing →
      oversizedPublication (mergedPublishCommand existing
        (enqueuePayload gatewayCommandQueuePolicy call.normalized) none) = none

/-! ## What the gateway reads from a normalized call -/

theorem get?_normalizeGatewayCommand (command : CommandPayload) (hkey : key ≠ "deadline_s") :
    (normalizeGatewayCommand command).get? key = command.get? key :=
  gatewayCommandQueuePolicy.get?_normalize command key hkey

theorem get?_gatewayPayload (call : EnqueueCall) (hdeadline : key ≠ "deadline_s")
    (hidentity : key ∉ mailboxIdentityKeys) :
    (enqueuePayload gatewayCommandQueuePolicy call.normalized).get? key = call.command.get? key := by
  rw [get?_enqueuePayload _ _ hidentity, gatewayCommandQueuePolicy.get?_normalize _ _ hdeadline,
    EnqueueCall.normalized, get?_normalizeGatewayCommand _ hdeadline]

theorem commandKey_normalized (call : EnqueueCall) :
    commandKey call.normalized.command = commandKey call.command :=
  @commandKey_normalize _ gatewayCommandQueuePolicy _

theorem publishedField_gatewayPayload (call : EnqueueCall) (field : String) :
    publishedField (enqueuePayload gatewayCommandQueuePolicy call.normalized) field =
      publishedField call.command field :=
  publishedField_congr (get?_gatewayPayload call (by decide) (by decide))
    (get?_gatewayPayload call (by decide) (by decide))
    (get?_gatewayPayload call (by decide) (by decide)) field

theorem contains_created_gatewayPayload (call : EnqueueCall) :
    (enqueuePayload gatewayCommandQueuePolicy call.normalized).contains "created_at" = true := by
  rw [enqueuePayload, newPayload, Dict.contains, Dict.get?_set_ne _ _ (by decide),
    Dict.get?_set_ne _ _ (by decide), Dict.get?_set_self]
  rfl

variable {payload : CommandPayload}

/-- Kind and target of a publication are read from two of its entries. -/
theorem samePublishFieldsPayload_congr {existing other next : CommandPayload}
    (hkind : existing.get? "kind" = other.get? "kind")
    (hservice : existing.get? "service_id" = other.get? "service_id")
    (hkind' : payload.get? "kind" = next.get? "kind")
    (hservice' : payload.get? "service_id" = next.get? "service_id") :
    samePublishFieldsPayload existing payload = samePublishFieldsPayload other next := by
  have hexisting : commandText existing "kind" = commandText other "kind" := by
    rw [commandText, hkind, commandText]
  have hpayload : commandText payload "kind" = commandText next "kind" := by
    rw [commandText, hkind', commandText]
  simp only [samePublishFieldsPayload]
  rw [hexisting, hpayload, hservice, hservice']

/-! ## What a merged file publishes -/

theorem publishedField_mergedPublishCommand (existing candidate : CommandPayload)
    (acceptedFields : Option (List String)) (field : String) :
    publishedField (mergedPublishCommand existing candidate acceptedFields) field =
      (newest (publishedField existing field)
        (if ∀ allowed ∈ acceptedFields, field ∈ allowed then publishedField candidate field
          else none)).map
        (withFallback (publicationOrder (coalescedWinner existing candidate))) := by
  rw [← mergedField_merge, coalescedWinner]
  set winner := if shouldReplaceCommand existing candidate then candidate else existing with hwinner
  set merged := mergeOrderedFields (publicationFields existing)
    (acceptedCandidateFields candidate acceptedFields) (publicationFieldOrders existing)
    (publicationFieldOrders candidate) with hmerged
  set mergedFields := mergePublicationPayload (some existing) candidate acceptedFields with hpayload
  have hfields : mergedFields.get? "fields" = some (.obj merged.1.entries) := by
    rw [hpayload, mergePublicationPayload, get?_setFieldOrders_of_ne _ _ (by decide),
      Dict.get?_set_self]
    rfl
  have horders : mergedFields.get? "transport_field_orders" =
      (setFieldOrders (winner.set "fields" (.obj merged.1.entries)) merged.2).get?
        "transport_field_orders" := by
    rw [get?_setFieldOrders_self, hpayload, mergePublicationPayload, get?_setFieldOrders_self]
    rfl
  rw [← Prod.mk.eta (p := merged), ← publishedField_setFieldOrders]
  refine publishedField_congr ?_ ?_ ?_ field
  · rw [mergedPublishCommand, get?_setCandidateRevision_of_ne _ _ (by decide),
      get?_setMergedFieldOrders_of_ne _ _ (by decide), Dict.get?_set_self, hfields,
      get?_setFieldOrders_of_ne _ _ (by decide), Dict.get?_set_self, Option.getD_some]
  · rw [mergedPublishCommand, get?_setCandidateRevision_of_ne _ _ (by decide), setMergedFieldOrders,
      horders, get?_setFieldOrders_self]
    by_cases hany : (merged.2.entries.any fun entry => decide (entry.2 ≠ 0)) = true
    · rw [if_pos hany, Dict.get?_set_self]
    · rw [if_neg hany, Dict.get?_erase, if_pos rfl]
  · rw [get?_mergedPublishCommand _ _ _ (by decide) (by decide) (by decide),
      get?_setFieldOrders_of_ne _ _ (by decide), Dict.get?_set_ne _ _ (by decide)]

/-- A payload with a creation time can be marked, and keeps one. -/
theorem markCoalescedPayload_eq_ok (existing : Option CommandPayload)
    (now : ℚ) (hcreated : payload.contains "created_at" = true) :
    ∃ marked, markCoalescedPayload existing payload now = .ok marked ∧
      marked.contains "created_at" = true := by
  cases existing with
  | none => exact ⟨_, rfl, by rwa [Dict.contains, Dict.get?_set_ne _ _ (by decide)]⟩
  | some existing =>
    simp only [markCoalescedPayload]
    split_ifs with hpriority htruthy
    · exact ⟨_, rfl, by rwa [Dict.contains, Dict.get?_set_ne _ _ (by decide)]⟩
    · refine ⟨_, rfl, ?_⟩
      rw [Dict.contains, Dict.get?_set_ne _ _ (by decide), Dict.get?_set_self]
      rfl
    · obtain ⟨value, hvalue⟩ := Option.isSome_iff_exists.mp hcreated
      rw [hvalue]
      refine ⟨_, rfl, ?_⟩
      rw [Dict.contains, Dict.get?_set_ne _ _ (by decide), Dict.get?_set_self]
      rfl

/-- What a file publishes after the calls: the newest value of every field, under the kind, the
target and the priority of one of them. -/
structure StoresMerge (calls : List EnqueueCall) (stored : CommandPayload) : Prop where
  created : stored.contains "created_at" = true
  origin : ∃ call ∈ calls, ∀ key ∈ ["kind", "service_id", "priority"],
    stored.get? key = call.command.get? key
  publishes : ∀ field, IsNewest (publishedField stored field)
    (calls.filterMap fun call => publishedField call.command field)

/-- The file of a key after the calls. -/
def HoldsMerge (key : String) (calls : List EnqueueCall) (files : MailboxFiles) : Prop :=
  match files.get? (coalescedPath key) with
  | none => calls = []
  | some (.command stored) => StoresMerge calls stored
  | some .unreadable => False

variable {stored : CommandPayload}

omit [PyLib] in
/-- The metadata that the mailbox adds does not change what a file publishes. -/
theorem StoresMerge.congr {other : CommandPayload} (h : StoresMerge calls stored)
    (hcreated : other.contains "created_at" = true)
    (hreads : ∀ key ∈ ["kind", "service_id", "priority", "fields", "transport_field_orders",
      "transport_order"], other.get? key = stored.get? key) : StoresMerge calls other where
  created := hcreated
  origin := by
    obtain ⟨call, hmem, horigin⟩ := h.origin
    refine ⟨call, hmem, fun key hkey => (hreads key ?_).trans (horigin key hkey)⟩
    simp only [List.mem_cons, List.not_mem_nil, or_false] at hkey ⊢
    tauto
  publishes := fun field => by
    rw [publishedField_congr (hreads _ (by simp)) (hreads _ (by simp)) (hreads _ (by simp))]
    exact h.publishes field

theorem storesMerge_first (call : EnqueueCall) :
    StoresMerge [call] (enqueuePayload gatewayCommandQueuePolicy call.normalized) where
  created := contains_created_gatewayPayload call
  origin := by
    refine ⟨call, List.mem_singleton_self call, fun key hkey => ?_⟩
    simp only [List.mem_cons, List.not_mem_nil, or_false] at hkey
    rcases hkey with rfl | rfl | rfl <;> exact get?_gatewayPayload call (by decide) (by decide)
  publishes := fun field => by
    rw [publishedField_gatewayPayload]
    have hfirst := isNewest_nil.merge (publishedField call.command field)
    rw [none_newest, List.nil_append] at hfirst
    cases hfield : publishedField call.command field with
    | none => simpa [hfield] using hfirst
    | some published => simpa [hfield] using hfirst

variable {call : EnqueueCall}

theorem StoresMerge.merge (h : StoresMerge calls stored)
    (hsame : SamePublication key (calls ++ [call])) :
    StoresMerge (calls ++ [call]) (mergedPublishCommand stored
      (enqueuePayload gatewayCommandQueuePolicy call.normalized) none) where
  created := by
    rw [Dict.contains, get?_mergedPublishCommand _ _ _ (by decide) (by decide) (by decide)]
    split_ifs
    · exact contains_created_gatewayPayload call
    · exact h.created
  origin := by
    obtain ⟨first, hmem, horigin⟩ := h.origin
    have hreads : ∀ name ∈ ["kind", "service_id", "priority"],
        (mergedPublishCommand stored (enqueuePayload gatewayCommandQueuePolicy call.normalized)
          none).get? name = (if shouldReplaceCommand stored
            (enqueuePayload gatewayCommandQueuePolicy call.normalized) then call else first).command.get?
          name := by
      intro name hname
      have hfirst := horigin name hname
      simp only [List.mem_cons, List.not_mem_nil, or_false] at hname
      have hne : name ≠ "fields" ∧ name ≠ "transport_field_orders" ∧ name ≠ mailboxRevisionField ∧
          name ≠ "deadline_s" ∧ name ∉ mailboxIdentityKeys := by
        rcases hname with rfl | rfl | rfl <;> decide
      rw [get?_mergedPublishCommand _ _ _ hne.1 hne.2.1 hne.2.2.1]
      split_ifs
      · exact get?_gatewayPayload call hne.2.2.2.1 hne.2.2.2.2
      · exact hfirst
    refine ⟨_, ?_, hreads⟩
    split_ifs
    · exact List.mem_append_right _ (List.mem_singleton_self call)
    · exact List.mem_append_left _ hmem
  publishes := fun field => by
    have hmerged := (h.publishes field).merge (publishedField call.command field)
    have hlist : (calls ++ [call]).filterMap (fun call => publishedField call.command field) =
        calls.filterMap (fun call => publishedField call.command field) ++
          (publishedField call.command field).toList := by
      rw [List.filterMap_append]
      cases hfield : publishedField call.command field <;> simp [hfield]
    rw [← hlist] at hmerged
    rw [publishedField_mergedPublishCommand, publishedField_gatewayPayload]
    simp only [Option.mem_def, reduceCtorEq, false_implies, implies_true, if_true]
    cases hwinner : newest (publishedField stored field) (publishedField call.command field) with
    | none => rwa [hwinner] at hmerged
    | some published =>
      rw [hwinner] at hmerged
      -- the winner is one of the published values, so its order is positive
      obtain ⟨source, hsource, hpublished⟩ := List.mem_filterMap.mp hmerged.1
      have hpos : 0 < published.1 :=
        hsame.ordered source hsource field published.1 (by rw [publishedOrder, hpublished]; rfl)
      rw [Option.map_some, withFallback, if_neg hpos.ne']
      exact hmerged

/-- A call of the sequence merges with what the earlier calls stored, at their priority. -/
theorem StoresMerge.compatible (h : StoresMerge calls stored)
    (hsame : SamePublication key (calls ++ [call])) :
    samePublishFieldsPayload stored (enqueuePayload gatewayCommandQueuePolicy call.normalized) =
        true ∧
      acceptedLowerPriorityFields stored (enqueuePayload gatewayCommandQueuePolicy call.normalized) =
        none := by
  obtain ⟨first, hmem, horigin⟩ := h.origin
  have hfirst : first ∈ calls ++ [call] := List.mem_append_left _ hmem
  have hcall : call ∈ calls ++ [call] := List.mem_append_right _ (List.mem_singleton_self call)
  constructor
  · rw [samePublishFieldsPayload_congr (horigin "kind" (by simp)) (horigin "service_id" (by simp))
      (get?_gatewayPayload call (by decide) (by decide))
      (get?_gatewayPayload call (by decide) (by decide))]
    exact hsame.target first hfirst call hcall
  · have hrank : commandRank stored =
        commandRank (enqueuePayload gatewayCommandQueuePolicy call.normalized) := by
      rw [commandRank, horigin "priority" (by simp), commandRank,
        get?_gatewayPayload call (by decide) (by decide)]
      exact hsame.priority first hfirst call hcall
    rw [acceptedLowerPriorityFields, if_neg hrank.not_lt]

variable {files : MailboxFiles}

theorem coalescedPayload_merge {path : String}
    {normalized : CommandPayload} (updatedNow : ℚ) (hkey : commandKey normalized ≠ "")
    (hstored : files.get? path = some (.command stored))
    (hsame : samePublishFieldsPayload stored payload = true)
    (haccepted : acceptedLowerPriorityFields stored payload = none) :
    coalescedPayload gatewayCommandQueuePolicy files path normalized payload updatedNow =
      match oversizedPublication (mergedPublishCommand stored payload none) with
      | some reason => .error reason
      | none =>
        (markCoalescedPayload (some stored) (mergedPublishCommand stored payload none)
          updatedNow).map some := by
  have hcontains : files.contains path = true := by
    rw [Dict.contains, hstored]
    rfl
  have hread : readCommand files path = some stored := readCommand_eq_some.mpr hstored
  rw [coalescedPayload, if_neg (by simp [hkey, hcontains]), hread]
  cases hsize : oversizedPublication (mergedPublishCommand stored payload none) with
  | some reason =>
    have hmerge : gatewayCommandQueuePolicy.mergeCoalesced (some stored) payload = .error reason := by
      change mergePublishFields (some stored) payload = _
      simp [mergePublishFields, hsame, haccepted, hsize]
    simp only [hmerge]
  | none =>
    have hmerge : gatewayCommandQueuePolicy.mergeCoalesced (some stored) payload =
        .ok (some (mergedPublishCommand stored payload none)) := by
      change mergePublishFields (some stored) payload = _
      simp [mergePublishFields, hsame, haccepted, hsize]
    simp only [hmerge]

/-- What a call of the sequence does: it merges with the file within the limits, and is refused
otherwise. -/
theorem enqueueGatewayCommand_step (hkey : key ≠ "") (hholds : HoldsMerge key calls files)
    (hsame : SamePublication key (calls ++ [call])) :
    (WithinLimit files call ∧
      (enqueueGatewayCommand files call).1 = .ok (coalescedPath key) ∧
      HoldsMerge key (calls ++ [call]) (enqueueGatewayCommand files call).2) ∨
    (¬ WithinLimit files call ∧ ∃ reason, enqueueGatewayCommand files call = (.error reason, files)) := by
  have hcall : commandKey call.command = key :=
    hsame.keyed call (List.mem_append_right _ (List.mem_singleton_self call))
  have hnormalized : commandKey call.normalized.command = key := (commandKey_normalized call).trans hcall
  have hpath : enqueuePath gatewayCommandQueuePolicy call.normalized = coalescedPath key :=
    enqueuePath_eq_coalescedPath hnormalized hkey
  have hexisting : coalescedExisting files call.normalized = readCommand files (coalescedPath key) := by
    rw [coalescedExisting, hnormalized, if_neg hkey, hpath]
  rw [WithinLimit, hexisting, enqueueGatewayCommand]
  cases hown : oversizedPublication call.normalized.command with
  | some reason => exact .inr ⟨by simp, reason, rfl⟩
  | none =>
    -- The first call of the key stores its own payload; a later one is merged into the stored command.
    cases hfile : files.get? (coalescedPath key) with
    | none =>
      have hfirst : calls = [] := by simpa [HoldsMerge, hfile] using hholds
      subst hfirst
      have hread : readCommand files (coalescedPath key) = none := by rw [readCommand, hfile]
      have hpayload : coalescedPayload gatewayCommandQueuePolicy files (coalescedPath key)
          (gatewayCommandQueuePolicy.normalize call.normalized.command)
          (enqueuePayload gatewayCommandQueuePolicy call.normalized) call.normalized.updatedNow =
          .ok (some (enqueuePayload gatewayCommandQueuePolicy call.normalized)) := by
        rw [coalescedPayload, if_pos (.inr (by simp [Dict.contains, hfile]))]
      rw [enqueueCommand, hpath, hpayload]
      refine .inl ⟨⟨rfl, by simp [hread]⟩, rfl, ?_⟩
      rw [HoldsMerge, Dict.get?_set_self]
      refine (storesMerge_first call).congr ?_ fun name hname => ?_
      · rw [Dict.contains, Dict.get?_setDefault, if_neg (by decide)]
        exact contains_created_gatewayPayload call
      · rw [Dict.get?_setDefault, if_neg (by rintro rfl; simp at hname)]
    | some file =>
      cases file with
      | unreadable => simp [HoldsMerge, hfile] at hholds
      | command stored =>
        have hstores : StoresMerge calls stored := by simpa [HoldsMerge, hfile] using hholds
        obtain ⟨hcompatible, haccepted⟩ := hstores.compatible hsame
        have hkeyed : commandKey (gatewayCommandQueuePolicy.normalize
            call.normalized.command) ≠ "" := by
          rwa [commandKey_normalize, hnormalized]
        have hpayload := coalescedPayload_merge call.normalized.updatedNow hkeyed hfile
          hcompatible haccepted
        rw [readCommand_eq_some.mpr hfile, enqueueCommand, hpath, hpayload]
        cases hsize : oversizedPublication (mergedPublishCommand stored
            (enqueuePayload gatewayCommandQueuePolicy call.normalized) none) with
        | some reason => exact .inr ⟨by simp [hsize], reason, rfl⟩
        | none =>
          have hmerged := hstores.merge hsame
          obtain ⟨marked, hmarked, hcreated⟩ := markCoalescedPayload_eq_ok (some stored)
            call.normalized.updatedNow hmerged.created
          rw [hmarked]
          refine .inl ⟨⟨rfl, by simpa using hsize⟩, rfl, ?_⟩
          simp only [HoldsMerge, Except.map, Dict.get?_set_self]
          refine hmerged.congr ?_ fun name hname => ?_
          · rwa [Dict.contains, Dict.get?_setDefault, if_neg (by decide)]
          · have hne : name ≠ "lifecycle_state" ∧ name ≠ "created_at" ∧ name ≠ "updated_at" := by
              simp only [List.mem_cons, List.not_mem_nil, or_false] at hname
              rcases hname with rfl | rfl | rfl | rfl | rfl | rfl <;> decide
            rw [Dict.get?_setDefault, if_neg hne.1,
              get?_markCoalescedPayload hmarked hne.1 hne.2.1 hne.2.2]

/-- A sequence of publications within the limits leaves their merge in the file. -/
theorem holdsMerge_run (hkey : key ≠ "")
    (hfree : files.get? (coalescedPath key) = none) (hsame : SamePublication key calls)
    (hlimit : Along enqueueGatewayFiles WithinLimit files calls) :
    HoldsMerge key calls (run enqueueGatewayFiles files calls) := by
  induction calls using List.reverseRecOn with
  | nil => rw [run_nil, HoldsMerge, hfree]
  | append_singleton calls call ih =>
    obtain ⟨hbefore, hlast, -⟩ := along_append.mp hlimit
    have hholds := ih (hsame.of_subset (List.subset_append_left calls [call])) hbefore
    rcases enqueueGatewayCommand_step hkey hholds hsame with ⟨-, -, hnext⟩ | ⟨hexceeds, -⟩
    · rwa [run_append]
    · exact absurd hlast hexceeds

/-- Whatever order publications arrive in, the stored command publishes every field with a value of
the greatest order among all that were published for it, and a call that would exceed the limits
is refused and leaves the directory unchanged. -/
theorem durable_merge_keeps_newest {key : String} (hkey : key ≠ "") {files : MailboxFiles}
    (hfree : files.get? (coalescedPath key) = none) {calls : List EnqueueCall}
    (hsame : SamePublication key calls) (hlimit : Along enqueueGatewayFiles WithinLimit files calls) :
    (∀ field, IsNewest
      ((readCommand (run enqueueGatewayFiles files calls) (coalescedPath key)).bind fun stored =>
        publishedField stored field)
      (calls.filterMap fun call => publishedField call.command field)) ∧
    ∀ call, SamePublication key (calls ++ [call]) →
      ¬ WithinLimit (run enqueueGatewayFiles files calls) call →
        ∃ reason, enqueueGatewayCommand (run enqueueGatewayFiles files calls) call =
          (.error reason, run enqueueGatewayFiles files calls) := by
  have hholds := holdsMerge_run hkey hfree hsame hlimit
  refine ⟨fun field => ?_, fun call hnext hexceeds => ?_⟩
  · rw [HoldsMerge] at hholds
    split at hholds
    · next hnone =>
      have hread : readCommand (run enqueueGatewayFiles files calls) (coalescedPath key) = none := by
        rw [readCommand, hnone]
      rw [hread, hholds]
      exact isNewest_nil
    · next stored hstored =>
      rw [readCommand_eq_some.mpr hstored]
      exact hholds.publishes field
    · exact hholds.elim
  · rcases enqueueGatewayCommand_step hkey hholds hnext with ⟨hwithin, -⟩ | ⟨-, hrefused⟩
    · exact absurd hwithin hexceeds
    · exact hrefused

end

section

local instance durableSampleLib : PyLib := PyLib.sample

/-- A publication of one field with its own order. -/
def durablePublication (value : Int) (order : Int) (revision : String) : EnqueueCall where
  command := Dict.ofList [("kind", .str publishEvcsFieldsKind), ("coalesce_key", .str "k"),
    ("fields", .obj [("power", .int value)]),
    ("transport_field_orders", .obj [("power", .int order)])]
  createdNow := 10
  updatedNow := 10
  revision := revision
  uniqueId := ""

/-- The older of two publications arrives last. -/
def reorderedPublications : List EnqueueCall :=
  [durablePublication 7 2 "r1", durablePublication 5 1 "r2"]

theorem samePublication_reordered : SamePublication "k" reorderedPublications where
  keyed := by decide +kernel
  target := by decide +kernel
  priority := by decide +kernel
  ordered := by
    have hpos : ∀ call ∈ reorderedPublications,
        ∀ entry ∈ (publicationFieldOrders call.command).entries, 0 < entry.2 := by decide +kernel
    intro call hcall field order horder
    rw [← get?_publicationFieldOrders] at horder
    exact hpos call hcall _ (Dict.mem_entries_iff.mpr horder)

theorem withinLimit_reordered : Along enqueueGatewayFiles WithinLimit Dict.empty reorderedPublications := by
  have hcheck : ∀ files call, oversizedPublication call.normalized.command = none →
      ((coalescedExisting files call.normalized).all fun existing =>
        decide (oversizedPublication (mergedPublishCommand existing
          (enqueuePayload gatewayCommandQueuePolicy call.normalized) none) = none)) = true →
      WithinLimit files call := by
    intro files call hown hmerged
    refine ⟨hown, fun existing hexisting => ?_⟩
    rw [hexisting] at hmerged
    simpa using hmerged
  exact ⟨hcheck _ _ (by decide +kernel) (by decide +kernel),
    hcheck _ _ (by decide +kernel) (by decide +kernel), trivial⟩

/-- After the two publications the file holds the newer value, which arrived first. -/
theorem durable_merge_keeps_newest_reordered :
    (readCommand (run enqueueGatewayFiles Dict.empty reorderedPublications) (coalescedPath "k")).bind
      (fun stored => publishedField stored "power") = some (2, .int 7) := by
  have hnewest := (durable_merge_keeps_newest (by decide) (Dict.get?_empty _)
    samePublication_reordered withinLimit_reordered).1 "power"
  have hpublished : reorderedPublications.filterMap (fun call => publishedField call.command "power") =
      [(2, .int 7), (1, .int 5)] := by decide +kernel
  rw [hpublished] at hnewest
  generalize (readCommand (run enqueueGatewayFiles Dict.empty reorderedPublications)
    (coalescedPath "k")).bind (fun stored => publishedField stored "power") = register at hnewest ⊢
  cases register with
  | none => exact absurd hnewest (by simp [IsNewest])
  | some newest =>
    obtain ⟨hmem, hmax⟩ := hnewest
    have hfirst := hmax (2, .int 7) (by simp)
    simp only [List.mem_cons, List.not_mem_nil, or_false] at hmem
    rcases hmem with rfl | rfl
    · rfl
    · exact absurd hfirst (by decide)

end

end VenusEvcharger
