import VenusEvcharger.Ipc.QueuePolicies
import VenusEvcharger.Library.StickySlot

/-!
# Which command a coalesced file ends with

A file of one coalesce key is a slot: a more urgent command takes it, and an equally urgent one
when it was not created before the file. The file keeps the creation time of the first command of
its priority, so the latest command wins only as long as no later call reaches that first time.
-/

namespace VenusEvcharger

open Library

section

variable [PyLib]

/-- Calls of `enqueue` one after the other. -/
def enqueueAll (policy : CommandQueuePolicy) (files : MailboxFiles) (calls : List EnqueueCall) :
    MailboxFiles :=
  calls.foldl (fun files call => (enqueueCommand policy files call).2) files

/-- The priority rank of a call. -/
def callRank (call : EnqueueCall) : Nat := commandRank call.command

/-- The creation time that a call states. -/
def callCreated (call : EnqueueCall) : ℚ :=
  match commandFloat (call.command.get? "created_at") with
  | .fin created => created
  | _ => 0

/-- Calls of one key that are never merged, with positive distinct creation times. -/
structure PlainCalls (policy : CommandQueuePolicy) (key : String) (calls : List EnqueueCall) :
    Prop where
  keyed : ∀ call ∈ calls, commandKey call.command = key
  unmerged : ∀ call ∈ calls, ∀ existing,
    policy.mergeCoalesced existing (enqueuePayload policy call) = .ok none
  created_pos : ∀ call ∈ calls, 0 < callCreated call
  distinct : calls.Pairwise fun a b => callRank a = callRank b → callCreated a ≠ callCreated b
  revisions : (calls.map EnqueueCall.revision).Nodup

/-- The keys that the mailbox itself writes. -/
def mailboxMetadataKeys : List String := mailboxIdentityKeys ++ ["lifecycle_state", "updated_at"]

/-- A payload is what a call wrote, up to the metadata. -/
structure StoresCall (policy : CommandQueuePolicy) (call : EnqueueCall) (payload : CommandPayload) :
    Prop where
  revision : payload.get? mailboxRevisionField = some (.str call.revision)
  content : ∀ key ∉ mailboxMetadataKeys,
    payload.get? key = (policy.normalize call.command).get? key

/-- A file holds the payload of a call. -/
def HoldsCall (policy : CommandQueuePolicy) (files : MailboxFiles) (path : String)
    (call : EnqueueCall) : Prop :=
  ∃ payload, files.get? path = some (.command payload) ∧ StoresCall policy call payload

/-- A file agrees with a slot: free, or with the payload of the slot's call at the slot's time. -/
def AgreesWithSlot (policy : CommandQueuePolicy) (files : MailboxFiles) (path : String) :
    Option (EnqueueCall × ℚ) → Prop
  | none => files.get? path = none
  | some (call, created) => 0 < created ∧ ∃ payload, files.get? path = some (.command payload) ∧
      StoresCall policy call payload ∧ commandFloat (payload.get? "created_at") = .fin created

variable {policy : CommandQueuePolicy}

theorem commandRank_normalize (call : EnqueueCall) :
    commandRank (policy.normalize call.command) = callRank call := by
  rw [commandRank, policy.get?_normalize _ _ (by decide), callRank, commandRank]

variable {call : EnqueueCall} {payload : CommandPayload}

theorem commandRank_of_storesCall
    (h : StoresCall policy call payload) : commandRank payload = callRank call := by
  rw [commandRank, h.content _ (by decide), ← commandRank, commandRank_normalize]

theorem storesCall_enqueuePayload (call : EnqueueCall) :
    StoresCall policy call (enqueuePayload policy call) where
  revision := revision_enqueuePayload policy call
  content := fun _ hkey => get?_enqueuePayload policy call fun hmem =>
    hkey (List.mem_append_left _ hmem)

/-- A stated creation time is stored. -/
theorem created_enqueuePayload (hpos : 0 < callCreated call) :
    commandFloat ((enqueuePayload policy call).get? "created_at") = .fin (callCreated call) := by
  have hstated : commandFloat (call.command.get? "created_at") = .fin (callCreated call) := by
    rw [callCreated] at hpos ⊢
    split at hpos
    · next created heq => rw [heq]
    · exact absurd hpos (lt_irrefl 0)
  rw [enqueuePayload, newPayload, Dict.get?_set_ne _ _ (by decide), Dict.get?_set_ne _ _ (by decide),
    Dict.get?_set_self, policy.get?_normalize _ _ (by decide), hstated, PyFloat.orElse]
  rw [if_pos (by simp [PyFloat.truthy, hpos.ne'])]
  rfl

theorem storesCall_markCoalesced {marked : CommandPayload}
    {existing : Option CommandPayload} {now : ℚ} (h : StoresCall policy call payload)
    (hmarked : markCoalescedPayload existing payload now = .ok marked) :
    StoresCall policy call marked where
  revision := by
    rw [get?_markCoalescedPayload hmarked (by decide) (by decide) (by decide), h.revision]
  content := by
    intro key hkey
    have hkeys : key ≠ "lifecycle_state" ∧ key ≠ "created_at" ∧ key ≠ "updated_at" := by
      refine ⟨?_, ?_, ?_⟩
      · rintro rfl
        exact hkey (by decide)
      · rintro rfl
        exact hkey (by decide)
      · rintro rfl
        exact hkey (by decide)
    rw [get?_markCoalescedPayload hmarked hkeys.1 hkeys.2.1 hkeys.2.2, h.content key hkey]

omit [PyLib] in
theorem storesCall_setDefault (h : StoresCall policy call payload) (state : Value) :
    StoresCall policy call (payload.setDefault "lifecycle_state" state) where
  revision := by
    rw [Dict.get?_setDefault, if_neg (by decide), h.revision]
  content := by
    intro key hkey
    have hstate : key ≠ "lifecycle_state" := by
      rintro rfl
      exact hkey (by decide)
    rw [Dict.get?_setDefault, if_neg hstate, h.content key hkey]

theorem sameCommandPriority_of_storesCall {other : EnqueueCall} {existing : CommandPayload}
    (h : StoresCall policy call payload) (hexisting : StoresCall policy other existing) :
    sameCommandPriority existing payload = decide (callRank call = callRank other) := by
  rw [sameCommandPriority, commandRank_of_storesCall h, commandRank_of_storesCall hexisting]
  simp only [eq_comm]

/-- One call of the key moves the file as one offer moves the slot. -/
theorem agreesWithSlot_enqueue {key : String} (hkey : key ≠ "")
    (hcall : commandKey call.command = key)
    (hunmerged : ∀ existing, policy.mergeCoalesced existing (enqueuePayload policy call) = .ok none)
    (hpos : 0 < callCreated call) {files : MailboxFiles} {slot : Option (EnqueueCall × ℚ)}
    (hagrees : AgreesWithSlot policy files (coalescedPath key) slot) :
    AgreesWithSlot policy (enqueueCommand policy files call).2 (coalescedPath key)
      (offer callRank callCreated slot call) := by
  have hpath : enqueuePath policy call = coalescedPath key := enqueuePath_eq_coalescedPath hcall hkey
  have hnew : StoresCall policy call (enqueuePayload policy call) := storesCall_enqueuePayload call
  have hcreated : commandFloat ((enqueuePayload policy call).get? "created_at") =
      .fin (callCreated call) := created_enqueuePayload hpos
  have hkeyed : commandKey (policy.normalize call.command) ≠ "" := by
    rw [commandKey_normalize, hcall]
    exact hkey
  -- A payload of the call that is written to the file is what the slot holds after an offer.
  have hwritten : ∀ (payload : CommandPayload) (created : ℚ), 0 < created →
      StoresCall policy call payload → commandFloat (payload.get? "created_at") = .fin created →
      AgreesWithSlot policy (files.set (coalescedPath key)
        (.command (payload.setDefault "lifecycle_state" (.str "queued")))) (coalescedPath key)
        (some (call, created)) := by
    intro payload created hcreatedPos hstores hcreatedAt
    refine ⟨hcreatedPos, _, Dict.get?_set_self _ _ _, storesCall_setDefault hstores _, ?_⟩
    rw [Dict.get?_setDefault, if_neg (by decide), hcreatedAt]
  rw [enqueueCommand, hpath, coalescedPayload]
  cases slot with
  | none =>
    have hfree : files.contains (coalescedPath key) = false := by
      rw [Dict.contains, show files.get? (coalescedPath key) = none from hagrees]
      rfl
    rw [if_pos (.inr (by simp [hfree]))]
    exact hwritten _ _ hpos hnew hcreated
  | some held =>
    obtain ⟨other, t⟩ := held
    obtain ⟨htpos, existing, hfile, hstores, ht⟩ := hagrees
    have htaken : files.contains (coalescedPath key) = true := by
      rw [Dict.contains, hfile]
      rfl
    have hsame := sameCommandPriority_of_storesCall hnew hstores
    rw [if_neg (by simp [hkeyed, htaken]), readCommand_eq_some.mpr hfile]
    simp only [hunmerged, shouldReplaceCommand, commandRank_of_storesCall hnew,
      commandRank_of_storesCall hstores, ht, hcreated, PyFloat.le_fin, offer]
    -- A more urgent call keeps its own time, one of equal rank takes over that of the file.
    by_cases hurgent : callRank call < callRank other
    · have hmarked : markCoalescedPayload (some existing) (enqueuePayload policy call)
          call.updatedNow = .ok ((enqueuePayload policy call).set "lifecycle_state"
            (.str "coalesced")) := by
        simp [markCoalescedPayload, hsame, hurgent.ne]
      rw [if_pos hurgent]
      simp only [hurgent, decide_true, Bool.true_or, Bool.not_true, Bool.false_eq_true, if_false,
        hmarked, Except.map]
      refine hwritten _ _ hpos (storesCall_markCoalesced hnew hmarked) ?_
      rw [Dict.get?_set_ne _ _ (by decide), hcreated]
    · rw [if_neg hurgent]
      by_cases htakes : callRank call = callRank other ∧ t ≤ callCreated call
      · have hmarked : markCoalescedPayload (some existing) (enqueuePayload policy call)
            call.updatedNow = .ok ((((enqueuePayload policy call).set "lifecycle_state"
              (.str "coalesced")).set "created_at" (.float (.fin t))).set "updated_at"
              (.float (.fin call.updatedNow))) := by
          simp [markCoalescedPayload, hsame, htakes.1, ht, PyFloat.truthy, htpos.ne']
        rw [if_pos htakes]
        simp only [htakes.1, htakes.2, decide_true, Bool.and_true, Bool.or_true, Bool.not_true,
          Bool.false_eq_true, if_false, hmarked, Except.map]
        refine hwritten _ _ htpos (storesCall_markCoalesced hnew hmarked) ?_
        rw [Dict.get?_set_ne _ _ (by decide), Dict.get?_set_self]
        rfl
      · rw [if_neg htakes]
        have hkept : (decide (callRank call < callRank other) ||
            (decide (callRank call = callRank other) && decide (t ≤ callCreated call))) = false := by
          simpa [hurgent] using htakes
        simp only [hkept, Bool.not_false, if_true]
        exact ⟨htpos, existing, hfile, hstores, ht⟩

/-- Calls of one key move the file as their offers move the slot. -/
theorem agreesWithSlot_enqueueAll {key : String} (hkey : key ≠ "") {files : MailboxFiles}
    {calls : List EnqueueCall} (hcalls : PlainCalls policy key calls)
    (hfree : files.get? (coalescedPath key) = none) :
    AgreesWithSlot policy (enqueueAll policy files calls) (coalescedPath key)
      (calls.foldl (offer callRank callCreated) none) := by
  have hrun : ∀ (rest : List EnqueueCall) (files : MailboxFiles) slot, (∀ call ∈ rest, call ∈ calls) →
      AgreesWithSlot policy files (coalescedPath key) slot →
      AgreesWithSlot policy (enqueueAll policy files rest) (coalescedPath key)
        (rest.foldl (offer callRank callCreated) slot) := by
    intro rest
    induction rest with
    | nil => exact fun files slot _ hagrees => hagrees
    | cons call rest ih =>
      intro files slot hmem hagrees
      have hcall := hmem call List.mem_cons_self
      exact ih _ _ (fun other hother => hmem other (List.mem_cons_of_mem _ hother))
        (agreesWithSlot_enqueue hkey (hcalls.keyed call hcall) (hcalls.unmerged call hcall)
          (hcalls.created_pos call hcall) hagrees)
  exact hrun calls files none (fun _ h => h) hfree

/-- The file ends with the latest of the most urgent calls exactly when no later call of that
priority was created at or after the first call of that priority. -/
theorem latest_wins_iff {key : String} (hkey : key ≠ "") {files : MailboxFiles}
    (hfree : files.get? (coalescedPath key) = none) {before after : List EnqueueCall}
    {best first : EnqueueCall} (hcalls : PlainCalls policy key (before ++ best :: after))
    (hbest : IsBest callRank callCreated (before ++ best :: after) best)
    (hfirst : (before ++ best :: after).find? (fun call => decide (callRank call = callRank best)) =
      some first) :
    HoldsCall policy (enqueueAll policy files (before ++ best :: after)) (coalescedPath key) best ↔
      ∀ call ∈ after, callRank call = callRank best → callCreated call < callCreated first := by
  rw [← foldl_offer_eq_best_iff hbest hcalls.distinct hfirst]
  have hagrees := agreesWithSlot_enqueueAll hkey hcalls hfree
  cases hslot : (before ++ best :: after).foldl (offer callRank callCreated) none with
  | none =>
    rw [hslot] at hagrees
    refine iff_of_false ?_ (by simp)
    rintro ⟨payload, hfile, -⟩
    rw [show _ = none from hagrees] at hfile
    exact absurd hfile (by simp)
  | some held =>
    rw [hslot] at hagrees
    obtain ⟨-, payload, hfile, hstores, -⟩ := hagrees
    have hheld : held.1 ∈ before ++ best :: after :=
      (mem_of_foldl_offer _ none hslot).resolve_right (by simp)
    rw [Option.map_some, Option.some.injEq]
    constructor
    · rintro ⟨other, hother, hbestStores⟩
      obtain rfl := MailboxFile.command.inj (Option.some.inj (hfile.symm.trans hother))
      have hrevision := hstores.revision.symm.trans hbestStores.revision
      exact List.inj_on_of_nodup_map hcalls.revisions hheld hbest.1
        (Value.str.inj (Option.some.inj hrevision))
    · rintro rfl
      exact ⟨payload, hfile, hstores⟩

end

section

local instance coalescingSampleLib : PyLib := PyLib.sample

/-- A call that states its creation time. -/
def timedCall (created : Int) (revision : String) : EnqueueCall where
  command := Dict.ofList [("kind", .str "user_command"), ("coalesce_key", .str "k"),
    ("priority", .str "user"), ("created_at", .int created), ("value", .int created)]
  createdNow := 100
  updatedNow := 100
  revision := revision
  uniqueId := ""

theorem plainCalls_timed (calls : List EnqueueCall)
    (hkeyed : ∀ call ∈ calls, commandKey call.command = "k")
    (hpos : ∀ call ∈ calls, 0 < callCreated call)
    (hdistinct : calls.Pairwise fun a b => callRank a = callRank b → callCreated a ≠ callCreated b)
    (hrevisions : (calls.map EnqueueCall.revision).Nodup) :
    PlainCalls coreCommandQueuePolicy "k" calls :=
  ⟨hkeyed, fun _ _ _ => rfl, hpos, hdistinct, hrevisions⟩

/-- Calls that arrive in the order of their creation end with the latest. -/
theorem latest_wins_in_order :
    HoldsCall coreCommandQueuePolicy
      (enqueueAll coreCommandQueuePolicy Dict.empty
        ([timedCall 10 "r1", timedCall 20 "r2"] ++ timedCall 30 "r3" :: []))
      (coalescedPath "k") (timedCall 30 "r3") :=
  (latest_wins_iff (by decide) rfl
    (plainCalls_timed _ (by decide +kernel) (by decide +kernel) (by decide +kernel)
      (by decide +kernel))
    (by rw [IsBest]; decide +kernel) (by decide +kernel : _ = some (timedCall 10 "r1"))).mpr
    (by simp)

/-- A call that arrives after the latest one replaces it when it is later than the first. -/
theorem latest_command_replaced :
    IsBest callRank callCreated [timedCall 10 "r1", timedCall 30 "r3", timedCall 20 "r2"]
        (timedCall 30 "r3") ∧
      ¬ HoldsCall coreCommandQueuePolicy
        (enqueueAll coreCommandQueuePolicy Dict.empty
          [timedCall 10 "r1", timedCall 30 "r3", timedCall 20 "r2"])
        (coalescedPath "k") (timedCall 30 "r3") := by
  refine ⟨by rw [IsBest]; decide +kernel, ?_⟩
  rintro ⟨payload, hfile, hstores⟩
  have hread : (readCommand (enqueueAll coreCommandQueuePolicy Dict.empty
      [timedCall 10 "r1", timedCall 30 "r3", timedCall 20 "r2"]) (coalescedPath "k")).bind
      (·.get? mailboxRevisionField) = some (.str "r2") := by decide +kernel
  rw [readCommand_eq_some.mpr hfile, Option.bind_some, hstores.revision] at hread
  exact absurd hread (by decide)

end

end VenusEvcharger
