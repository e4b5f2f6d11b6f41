import VenusEvcharger.Ipc.CommandFields
import Mathlib.Data.List.Sort

/-!
# The file mailbox of commands

`FileCommandMailbox` keeps one JSON file per coalesce key, and one per command without a key.
Producers write with `enqueue`; consumers load the pending commands and retire or replace a file
only while it still holds the revision they loaded. The domain rules are a `CommandQueuePolicy`.

Scope: every operation is atomic, as it runs under the mailbox lock. Clock readings and random
identifiers are parameters. A file holds the payload it was written with; the order of the keys in
its text, lock timeouts, scan errors and log lines are left out, and the quarantine is an arbitrary
choice of corrupt files to skip.
-/

namespace VenusEvcharger

open Library

def mailboxRevisionField : String := "mailbox_revision"

/-- What a path of the command directory holds: a JSON object, or text that is none. -/
inductive MailboxFile where
  | command (payload : CommandPayload)
  | unreadable
deriving DecidableEq

/-- The files of the command directory. -/
abbrev MailboxFiles := Dict String MailboxFile

/-- `normalized_mapping(read_command_json(path))`. -/
def readCommand (files : MailboxFiles) (path : String) : Option CommandPayload :=
  match files.get? path with
  | some (.command payload) => some payload
  | _ => none

/-- What a policy contributes to the neutral transport. A merge fails, changes the payload, or
leaves it alone. Normalizing touches the deadline only, and a merge keeps the new revision. -/
structure CommandQueuePolicy where
  schemaVersion : Int
  normalize : CommandPayload → CommandPayload
  queueClass : CommandPayload → String
  mergeCoalesced : Option CommandPayload → CommandPayload → Except String (Option CommandPayload)
  get?_normalize : ∀ command key, key ≠ "deadline_s" →
    (normalize command).get? key = command.get? key
  revision_merge : ∀ existing payload merged revision,
    mergeCoalesced existing payload = .ok (some merged) →
    payload.get? mailboxRevisionField = some (.str revision) →
    merged.get? mailboxRevisionField = some (.str revision)

/-- A call of `enqueue`: the command, both clock readings, and the identifiers it draws. -/
structure EnqueueCall where
  command : CommandPayload
  createdNow : ℚ
  updatedNow : ℚ
  revision : String
  uniqueId : String
deriving DecidableEq

section

variable [PyLib]

/-- `command_file_id`: commands of one coalesce key share a file. -/
def commandFileId (command : CommandPayload) (uniqueId : String) : String :=
  let key := commandKey command
  if key ≠ "" then "coalesced-" ++ ((PyLib.sha256Hex key).take 24).toString else uniqueId

def commandFilePath (id : String) : String := id ++ ".json"

/-- The file of a coalesce key. -/
def coalescedPath (key : String) : String :=
  commandFilePath ("coalesced-" ++ ((PyLib.sha256Hex key).take 24).toString)

/-- `_new_payload`. -/
def newPayload (policy : CommandQueuePolicy) (id : String) (normalized : CommandPayload)
    (call : EnqueueCall) : CommandPayload :=
  let created := (commandFloat (normalized.get? "created_at")).orElse call.createdNow
  ((((normalized.set "schema_version" (.int policy.schemaVersion)).set "id" (.str id)).set
    "created_at" (.float created)).set mailboxRevisionField (.str call.revision)).set
    "queue_class" (.str (policy.queueClass normalized))

/-- `should_replace_command`: more urgent, or equally urgent and not created earlier. -/
def shouldReplaceCommand (existing candidate : CommandPayload) : Bool :=
  decide (commandRank candidate < commandRank existing) ||
    (decide (commandRank candidate = commandRank existing) &&
      (commandFloat (existing.get? "created_at")).le (commandFloat (candidate.get? "created_at")))

/-- `same_command_priority`. -/
def sameCommandPriority (first second : CommandPayload) : Bool :=
  decide (commandRank first = commandRank second)

/-- `mark_coalesced_payload`: a payload of equal priority takes over the creation time of the file.
Without a creation time on either side the lookup fails. -/
def markCoalescedPayload (existing : Option CommandPayload) (payload : CommandPayload) (now : ℚ) :
    Except String CommandPayload :=
  let marked := payload.set "lifecycle_state" (.str "coalesced")
  match existing with
  | none => .ok marked
  | some existing =>
    if !sameCommandPriority existing payload then .ok marked
    else
      let created := commandFloat (existing.get? "created_at")
      if created.truthy then
        .ok ((marked.set "created_at" (.float created)).set "updated_at" (.float (.fin now)))
      else
        match payload.get? "created_at" with
        | some value => .ok ((marked.set "created_at" value).set "updated_at" (.float (.fin now)))
        | none => .error "'created_at'"

/-- `_keep_existing_coalesced`: the payload to write, or nothing when the file is kept. -/
def coalescedPayload (policy : CommandQueuePolicy) (files : MailboxFiles) (path : String)
    (normalized payload : CommandPayload) (updatedNow : ℚ) : Except String (Option CommandPayload) :=
  if commandKey normalized = "" ∨ !files.contains path then .ok (some payload)
  else
    let existing := readCommand files path
    match policy.mergeCoalesced existing payload with
    | .error reason => .error reason
    | .ok (some merged) => (markCoalescedPayload existing merged updatedNow).map some
    | .ok none =>
      match existing with
      | none => (markCoalescedPayload none payload updatedNow).map some
      | some kept =>
        if !shouldReplaceCommand kept payload then .ok none
        else (markCoalescedPayload (some kept) payload updatedNow).map some

/-- The file a call writes to. -/
def enqueuePath (policy : CommandQueuePolicy) (call : EnqueueCall) : String :=
  commandFilePath (commandFileId (policy.normalize call.command) call.uniqueId)

/-- The payload a call starts from. -/
def enqueuePayload (policy : CommandQueuePolicy) (call : EnqueueCall) : CommandPayload :=
  let normalized := policy.normalize call.command
  newPayload policy (commandFileId normalized call.uniqueId) normalized call

/-- Whether a call writes its file: an existing file may win, and a merge may fail. -/
def enqueueWrites (policy : CommandQueuePolicy) (files : MailboxFiles) (call : EnqueueCall) : Bool :=
  match coalescedPayload policy files (enqueuePath policy call) (policy.normalize call.command)
    (enqueuePayload policy call) call.updatedNow with
  | .ok (some _) => true
  | _ => false

/-- `enqueue`: the target path, unless the policy fails, and the files afterwards. -/
def enqueueCommand (policy : CommandQueuePolicy) (files : MailboxFiles) (call : EnqueueCall) :
    Except String String × MailboxFiles :=
  let normalized := policy.normalize call.command
  let path := enqueuePath policy call
  match coalescedPayload policy files path normalized (enqueuePayload policy call)
    call.updatedNow with
  | .error reason => (.error reason, files)
  | .ok none => (.ok path, files)
  | .ok (some payload) =>
    (.ok path, files.set path (.command (payload.setDefault "lifecycle_state" (.str "queued"))))

end

/-! ## Consumers -/

/-- `_same_mailbox_revision`: by revision, and by content when the expected command has none. -/
def sameMailboxRevision (current expected : CommandPayload) : Bool :=
  match expected.get? mailboxRevisionField with
  | some (.str revision) =>
    if revision ≠ "" then
      match current.get? mailboxRevisionField with
      | some value => value.pyEq (.str revision)
      | none => false
    else current.pyEq expected
  | _ => current.pyEq expected

/-- The keys that identify a generation of a file. -/
def mailboxIdentityKeys : List String :=
  ["schema_version", "id", "created_at", mailboxRevisionField, "queue_class"]

/-- `_preserve_mailbox_identity`. -/
def preserveMailboxIdentity (payload current : CommandPayload) : CommandPayload :=
  mailboxIdentityKeys.foldl (fun payload key =>
    match current.get? key with
    | some value => payload.set key value
    | none => payload) payload

/-- `remove_if_current`. -/
def removeIfCurrent (files : MailboxFiles) (path : String) (expected : CommandPayload) :
    Bool × MailboxFiles :=
  match readCommand files path with
  | none => (false, files)
  | some current =>
    if !sameMailboxRevision current expected then (false, files) else (true, files.erase path)

/-- `replace_if_current`. -/
def replaceIfCurrent (policy : CommandQueuePolicy) (files : MailboxFiles) (path : String)
    (expected replacement : CommandPayload) : Bool × MailboxFiles :=
  match readCommand files path with
  | none => (false, files)
  | some current =>
    if !sameMailboxRevision current expected then (false, files)
    else (true, files.set path
      (.command (preserveMailboxIdentity (policy.normalize replacement) current)))

/-- `load_pending`: the readable files in the order of their paths. Quarantined paths are skipped. -/
def loadPending (policy : CommandQueuePolicy) (files : MailboxFiles) (quarantined : List String) :
    List (String × CommandPayload) :=
  (files.keys.insertionSort (· ≤ ·)).filterMap fun path =>
    if path ∈ quarantined then none
    else (readCommand files path).map fun payload => (path, policy.normalize payload)

/-! ## What the operations read and write -/

theorem readCommand_eq_some {files : MailboxFiles} {path : String} {payload : CommandPayload} :
    readCommand files path = some payload ↔ files.get? path = some (.command payload) := by
  rw [readCommand]
  split
  · next held hheld => simp [hheld]
  · next hnot =>
    refine iff_of_false (by simp) fun hheld => hnot payload hheld

/-- A loaded command is the normalized content of its file. -/
theorem mem_loadPending {policy : CommandQueuePolicy} {files : MailboxFiles}
    {quarantined : List String} {path : String} {command : CommandPayload} :
    (path, command) ∈ loadPending policy files quarantined ↔
      path ∉ quarantined ∧ ∃ payload, files.get? path = some (.command payload) ∧
        policy.normalize payload = command := by
  rw [loadPending, List.mem_filterMap]
  constructor
  · rintro ⟨other, -, hload⟩
    split_ifs at hload with hskip
    obtain ⟨payload, hread, hpair⟩ := Option.map_eq_some_iff.mp hload
    obtain ⟨rfl, rfl⟩ := Prod.mk.inj hpair
    exact ⟨hskip, payload, readCommand_eq_some.mp hread, rfl⟩
  · rintro ⟨hskip, payload, hfile, rfl⟩
    refine ⟨path, ?_, ?_⟩
    · rw [List.mem_insertionSort]
      exact Dict.mem_keys_iff.mpr ⟨_, hfile⟩
    · rw [if_neg hskip, readCommand_eq_some.mpr hfile]
      rfl

/-- No file is loaded twice. -/
theorem nodup_paths_loadPending (policy : CommandQueuePolicy) (files : MailboxFiles) (quarantined : List String) :
    ((loadPending policy files quarantined).map Prod.fst).Nodup := by
  have hsub : ∀ paths : List String, List.Sublist ((paths.filterMap fun path =>
      if path ∈ quarantined then none
      else (readCommand files path).map fun payload => (path, policy.normalize payload)).map Prod.fst) paths := by
    intro paths
    induction paths with
    | nil => exact List.Sublist.refl _
    | cons path paths ih =>
      rw [List.filterMap_cons]
      split
      · exact ih.cons path
      · rename_i entry hentry
        split_ifs at hentry
        obtain ⟨payload, -, rfl⟩ := Option.map_eq_some_iff.mp hentry
        exact ih.cons_cons path
  have hkeys : (files.keys.insertionSort (· ≤ ·)).Nodup :=
    (List.perm_insertionSort (· ≤ ·) files.keys).nodup_iff.mpr files.nodup
  exact (hsub _).nodup hkeys

/-- A consumer holds the revision of a file exactly when it loaded that revision. -/
theorem sameMailboxRevision_of_revision {current expected : CommandPayload} {revision : String}
    (hexpected : expected.get? mailboxRevisionField = some (.str revision)) (hne : revision ≠ "") :
    sameMailboxRevision current expected = true ↔
      current.get? mailboxRevisionField = some (.str revision) := by
  rw [sameMailboxRevision, hexpected]
  simp only [ne_eq, hne, not_false_eq_true, if_true]
  cases hvalue : current.get? mailboxRevisionField with
  | none => simp
  | some value => cases value <;> simp [Value.pyEq, Value.numberEq, Value.number?]

/-- Every entry of a command has an equal entry in an equal command. -/
theorem lookup_of_pyEqEntries {entries others : List (String × Value)}
    (h : Value.pyEqEntries entries others = true) {key : String} {value : Value}
    (hmem : (key, value) ∈ entries) : ∃ other, others.lookup key = some other ∧
      value.pyEq other = true := by
  induction entries with
  | nil => exact absurd hmem List.not_mem_nil
  | cons entry entries ih =>
    obtain ⟨first, held⟩ := entry
    rw [Value.pyEqEntries, Bool.and_eq_true] at h
    rcases List.mem_cons.mp hmem with heq | hrest
    · obtain ⟨rfl, rfl⟩ := Prod.mk.inj heq
      cases hother : others.lookup key with
      | none => simp [hother] at h
      | some other => exact ⟨other, rfl, by simpa [hother] using h.1⟩
    · exact ih h.2 hrest

/-- Nothing but the loaded revision passes for the revision of a file. -/
theorem revision_of_sameMailboxRevision {current expected : CommandPayload} {revision : String}
    (hcurrent : current.get? mailboxRevisionField = some (.str revision))
    (hsame : sameMailboxRevision current expected = true) :
    expected.get? mailboxRevisionField = some (.str revision) := by
  have hcontent : current.pyEq expected = true →
      expected.get? mailboxRevisionField = some (.str revision) := by
    intro heq
    rw [CommandPayload.pyEq, Bool.and_eq_true] at heq
    obtain ⟨other, hother, hvalue⟩ := lookup_of_pyEqEntries heq.2
      (Dict.mem_entries_iff.mpr hcurrent)
    change expected.get? mailboxRevisionField = some other at hother
    rw [hother]
    cases other <;> simp_all [Value.pyEq]
  cases hexpected : expected.get? mailboxRevisionField with
  | none =>
    rw [sameMailboxRevision, hexpected] at hsame
    rw [← hexpected]
    exact hcontent hsame
  | some value =>
    cases value with
    | str loaded =>
      by_cases hempty : loaded = ""
      · rw [sameMailboxRevision, hexpected] at hsame
        simp only [hempty, ne_eq, not_true_eq_false, if_false] at hsame
        rw [← hexpected]
        exact hcontent hsame
      · have hloaded := (sameMailboxRevision_of_revision hexpected hempty).mp hsame
        exact hloaded ▸ hcurrent
    | null | bool b | int i | float x | list values | obj entries =>
      rw [sameMailboxRevision, hexpected] at hsame
      rw [← hexpected]
      exact hcontent hsame

/-- `remove_if_current` leaves the files, or erases a file whose revision was expected. -/
theorem removeIfCurrent_cases (files : MailboxFiles) (path : String) (expected : CommandPayload) :
    removeIfCurrent files path expected = (false, files) ∨
    ∃ current, files.get? path = some (.command current) ∧
      sameMailboxRevision current expected = true ∧
      removeIfCurrent files path expected = (true, files.erase path) := by
  rw [removeIfCurrent]
  cases hread : readCommand files path with
  | none => exact .inl rfl
  | some current =>
    by_cases hsame : sameMailboxRevision current expected = true
    · exact .inr ⟨current, readCommand_eq_some.mp hread, hsame, by simp [hsame]⟩
    · exact .inl (by simp [hsame])

/-- `replace_if_current` leaves the files, or rewrites a file whose revision was expected. -/
theorem replaceIfCurrent_cases (policy : CommandQueuePolicy) (files : MailboxFiles) (path : String)
    (expected replacement : CommandPayload) :
    replaceIfCurrent policy files path expected replacement = (false, files) ∨
    ∃ current, files.get? path = some (.command current) ∧
      sameMailboxRevision current expected = true ∧
      replaceIfCurrent policy files path expected replacement = (true, files.set path
        (.command (preserveMailboxIdentity (policy.normalize replacement) current))) := by
  rw [replaceIfCurrent]
  cases hread : readCommand files path with
  | none => exact .inl rfl
  | some current =>
    by_cases hsame : sameMailboxRevision current expected = true
    · exact .inr ⟨current, readCommand_eq_some.mp hread, hsame, by simp [hsame]⟩
    · exact .inl (by simp [hsame])

/-- A replacement keeps the identity of the file it replaces. -/
theorem get?_preserveMailboxIdentity (payload current : CommandPayload) (key : String) :
    (preserveMailboxIdentity payload current).get? key =
      if key ∈ mailboxIdentityKeys then current.get? key <|> payload.get? key
      else payload.get? key := by
  rw [preserveMailboxIdentity]
  generalize mailboxIdentityKeys = keys
  induction keys generalizing payload with
  | nil => simp
  | cons first keys ih =>
    rw [List.foldl_cons, ih]
    cases hfirst : current.get? first with
    | none =>
      by_cases hkey : key = first
      · subst hkey
        simp [hfirst]
      · simp [hkey]
    | some value =>
      by_cases hkey : key = first
      · subst hkey
        simp [hfirst]
      · simp [hkey, Dict.get?_set]

section

variable [PyLib]

variable {policy : CommandQueuePolicy}

theorem commandKey_normalize (command : CommandPayload) :
    commandKey (policy.normalize command) = commandKey command := by
  rw [commandKey, commandText, policy.get?_normalize _ _ (by decide), commandKey, commandText]

theorem enqueuePath_eq_coalescedPath {call : EnqueueCall}
    {key : String} (hcall : commandKey call.command = key) (hkey : key ≠ "") :
    enqueuePath policy call = coalescedPath key := by
  rw [enqueuePath, commandFileId, commandKey_normalize, hcall]
  simp only [ne_eq, hkey, not_false_eq_true, if_true, coalescedPath]

variable {payload : CommandPayload}

theorem get?_markCoalescedPayload {existing : Option CommandPayload} {marked : CommandPayload}
    {now : ℚ} (h : markCoalescedPayload existing payload now = .ok marked) {key : String}
    (hstate : key ≠ "lifecycle_state") (hcreated : key ≠ "created_at") (hupdated : key ≠ "updated_at") :
    marked.get? key = payload.get? key := by
  cases existing with
  | none =>
    obtain rfl := Except.ok.inj h
    exact Dict.get?_set_ne _ _ hstate
  | some existing =>
    simp only [markCoalescedPayload] at h
    split_ifs at h with hpriority htruthy
    · obtain rfl := Except.ok.inj h
      exact Dict.get?_set_ne _ _ hstate
    · obtain rfl := Except.ok.inj h
      rw [Dict.get?_set_ne _ _ hupdated, Dict.get?_set_ne _ _ hcreated, Dict.get?_set_ne _ _ hstate]
    · cases hvalue : payload.get? "created_at" with
      | none => simp [hvalue] at h
      | some value =>
        rw [hvalue] at h
        obtain rfl := Except.ok.inj h
        rw [Dict.get?_set_ne _ _ hupdated, Dict.get?_set_ne _ _ hcreated,
          Dict.get?_set_ne _ _ hstate]

/-- What a call writes when no file is coalesced. -/
theorem get?_enqueuePayload (policy : CommandQueuePolicy) (call : EnqueueCall) {key : String}
    (hkey : key ∉ mailboxIdentityKeys) :
    (enqueuePayload policy call).get? key = (policy.normalize call.command).get? key := by
  simp only [mailboxIdentityKeys, List.mem_cons, List.not_mem_nil, or_false, not_or] at hkey
  simp only [enqueuePayload, newPayload, Dict.get?_set, hkey, if_false]

theorem revision_enqueuePayload (policy : CommandQueuePolicy) (call : EnqueueCall) :
    (enqueuePayload policy call).get? mailboxRevisionField = some (.str call.revision) := by
  rw [enqueuePayload, newPayload, Dict.get?_set_ne _ _ (by decide), Dict.get?_set_self]

theorem coalescedPayload_eq_some {files : MailboxFiles} {path : String}
    {normalized written : CommandPayload} {updatedNow : ℚ}
    (h : coalescedPayload policy files path normalized payload updatedNow = .ok (some written)) :
    ((commandKey normalized = "" ∨ files.contains path = false) ∧ written = payload) ∨
    (commandKey normalized ≠ "" ∧ ∃ base,
      (policy.mergeCoalesced (readCommand files path) payload = .ok (some base) ∨
        (policy.mergeCoalesced (readCommand files path) payload = .ok none ∧ base = payload ∧
          ∀ kept, readCommand files path = some kept → shouldReplaceCommand kept payload = true)) ∧
      markCoalescedPayload (readCommand files path) base updatedNow = .ok written) := by
  have hmapped : ∀ marked : Except String CommandPayload, marked.map some = .ok (some written) →
      marked = .ok written := by
    rintro (reason | marked) hmarked
    · exact absurd hmarked (by simp [Except.map])
    · rw [Option.some.inj (Except.ok.inj hmarked)]
  rw [coalescedPayload] at h
  split_ifs at h with hfresh
  · exact .inl ⟨by simpa using hfresh, (Option.some.inj (Except.ok.inj h)).symm⟩
  · refine .inr ⟨fun hempty => hfresh (.inl hempty), ?_⟩
    cases hmerge : policy.mergeCoalesced (readCommand files path) payload with
    | error reason => simp [hmerge] at h
    | ok merged =>
      cases merged with
      | some merged =>
        simp only [hmerge] at h
        exact ⟨merged, .inl rfl, hmapped _ h⟩
      | none =>
        cases hexisting : readCommand files path with
        | none =>
          rw [hexisting] at hmerge
          simp only [hmerge, hexisting] at h
          exact ⟨payload, .inr ⟨rfl, rfl, by simp⟩, hmapped _ h⟩
        | some kept =>
          rw [hexisting] at hmerge
          simp only [hmerge, hexisting] at h
          split_ifs at h with hreplace
          · exact absurd h (by simp)
          · refine ⟨payload, .inr ⟨rfl, rfl, fun other hother => ?_⟩, hmapped _ h⟩
            obtain rfl := Option.some.inj hother
            simpa using hreplace

/-- Nothing is written when the file holds a command that the payload neither replaces nor is merged into. -/
theorem coalescedPayload_eq_none {files : MailboxFiles} {path : String}
    {normalized : CommandPayload} {updatedNow : ℚ}
    (h : coalescedPayload policy files path normalized payload updatedNow = .ok none) :
    commandKey normalized ≠ "" ∧ ∃ held, readCommand files path = some held ∧
      policy.mergeCoalesced (some held) payload = .ok none ∧ shouldReplaceCommand held payload = false := by
  have hmapped : ∀ marked : Except String CommandPayload, marked.map some ≠ .ok none := by
    rintro (reason | marked) <;> simp [Except.map]
  rw [coalescedPayload] at h
  split_ifs at h with hfresh
  · cases h
  refine ⟨fun hempty => hfresh (.inl hempty), ?_⟩
  cases hread : readCommand files path with
  | none =>
    rw [hread] at h
    dsimp only at h
    split at h
    · cases h
    · exact absurd h (hmapped _)
    · exact absurd h (hmapped _)
  | some held =>
    rw [hread] at h
    dsimp only at h
    split at h
    · cases h
    · exact absurd h (hmapped _)
    · rename_i hmerge
      split_ifs at h with hkeep
      · exact ⟨held, rfl, hmerge, by simpa using hkeep⟩
      · exact absurd h (hmapped _)

/-- An accepted call has a result for its own path: a payload that is written, or none. -/
theorem coalescedPayload_of_accepted {files : MailboxFiles} {call : EnqueueCall} {path : String}
    (haccepted : (enqueueCommand policy files call).1 = .ok path) :
    path = enqueuePath policy call ∧ ∃ result, coalescedPayload policy files (enqueuePath policy call)
      (policy.normalize call.command) (enqueuePayload policy call) call.updatedNow = .ok result := by
  rw [enqueueCommand] at haccepted
  split at haccepted
  · cases haccepted
  · next hresult => exact ⟨(Except.ok.inj haccepted).symm, _, hresult⟩
  · next hresult => exact ⟨(Except.ok.inj haccepted).symm, _, hresult⟩

/-- `enqueue` leaves the files, or writes one command with the call's revision to its own path. -/
theorem enqueueCommand_cases (policy : CommandQueuePolicy) (files : MailboxFiles)
    (call : EnqueueCall) :
    (enqueueWrites policy files call = false ∧ (enqueueCommand policy files call).2 = files) ∨
    (enqueueWrites policy files call = true ∧
      ∃ payload, payload.get? mailboxRevisionField = some (.str call.revision) ∧
        (enqueueCommand policy files call).1 = .ok (enqueuePath policy call) ∧
        (enqueueCommand policy files call).2 =
          files.set (enqueuePath policy call) (.command payload)) := by
  rw [enqueueWrites, enqueueCommand]
  cases hresult : coalescedPayload policy files (enqueuePath policy call)
      (policy.normalize call.command) (enqueuePayload policy call) call.updatedNow with
  | error reason => exact .inl ⟨rfl, rfl⟩
  | ok result =>
    cases result with
    | none => exact .inl ⟨rfl, rfl⟩
    | some written =>
      refine .inr ⟨rfl, _, ?_, rfl, rfl⟩
      rw [Dict.get?_setDefault, if_neg (by decide)]
      have hnew := revision_enqueuePayload policy call
      rcases coalescedPayload_eq_some hresult with ⟨-, rfl⟩ | ⟨-, base, hbase, hmarked⟩
      · exact hnew
      · rw [get?_markCoalescedPayload hmarked (by decide) (by decide) (by decide)]
        rcases hbase with hmerged | ⟨-, rfl, -⟩
        · exact policy.revision_merge _ _ _ _ hmerged hnew
        · exact hnew

end

end VenusEvcharger
