import VenusEvcharger.Ipc.QueuePolicies
import VenusEvcharger.Library.Run

/-!
# Interleavings of producers and consumers on one mailbox

The operations of any number of processes on one command directory, in any order. A loaded command
remembers the generation of its file: how many calls had written the file when it was loaded. A
consumer changes a file only at the generation it loaded. A call that is accepted leaves its content in the file, or is
kept out by the command that is there (`stored_or_keptOut`).
-/

namespace VenusEvcharger

open Library

/-- A command as a consumer loaded it. -/
structure LoadedCommand where
  path : String
  command : CommandPayload
  generation : Nat
deriving DecidableEq

/-- The files, how often each was written by a producer, and what consumers have loaded. -/
structure MailboxRun where
  files : MailboxFiles
  generation : String → Nat
  loaded : List LoadedCommand

/-- One operation under the mailbox lock. -/
inductive MailboxEvent where
  | enqueue (call : EnqueueCall)
  | loadPending (quarantined : List String)
  | removeIfCurrent (loaded : LoadedCommand)
  | replaceIfCurrent (loaded : LoadedCommand) (replacement : CommandPayload)

namespace MailboxRun

/-- The keys that mark a coalesced command. -/
def coalescingKeys : List String := ["lifecycle_state", "created_at", "updated_at"]

/-- A directory as it is found, with nothing loaded. -/
def start (files : MailboxFiles) : MailboxRun := ⟨files, fun _ => 0, []⟩

section

variable [PyLib] (policy : CommandQueuePolicy)

/-- One operation of a run. Consumers pass the commands they have loaded. -/
def step (s : MailboxRun) : MailboxEvent → MailboxRun
  | .enqueue call => { s with
      files := (enqueueCommand policy s.files call).2
      generation := fun path =>
        if path = enqueuePath policy call ∧ enqueueWrites policy s.files call = true then
          s.generation path + 1
        else s.generation path }
  | .loadPending quarantined => { s with
      loaded := ((VenusEvcharger.loadPending policy s.files quarantined).map fun entry =>
        ⟨entry.1, entry.2, s.generation entry.1⟩) ++ s.loaded }
  | .removeIfCurrent loaded =>
    if loaded ∈ s.loaded then
      { s with files := (VenusEvcharger.removeIfCurrent s.files loaded.path loaded.command).2 }
    else s
  | .replaceIfCurrent loaded replacement =>
    if loaded ∈ s.loaded then
      { s with
        files := (VenusEvcharger.replaceIfCurrent policy s.files loaded.path loaded.command
          replacement).2 }
    else s

/-- The revision of a new command was never loaded before. -/
def FreshRevision (s : MailboxRun) : MailboxEvent → Prop
  | .enqueue call => ∀ loaded ∈ s.loaded,
      loaded.command.get? mailboxRevisionField ≠ some (.str call.revision)
  | _ => True

instance decidableFreshRevision (s : MailboxRun) : ∀ e, Decidable (s.FreshRevision e)
  | .enqueue call => inferInstanceAs (Decidable (∀ loaded ∈ s.loaded,
      loaded.command.get? mailboxRevisionField ≠ some (.str call.revision)))
  | .loadPending _ | .removeIfCurrent _ | .replaceIfCurrent _ _ => isTrue trivial

/-- What a call asks for: its command under the revision that it draws. -/
def Requests (call : EnqueueCall) (request : CommandPayload) : Prop :=
  request.get? mailboxRevisionField = some (.str call.revision) ∧
    ∀ key ∉ mailboxIdentityKeys, request.get? key = (policy.normalize call.command).get? key

/-- What a call may write: what it asks for, in place of a command that it replaces, or a merge of that command with
what it asks for. -/
def Supersedes (files : MailboxFiles) (call : EnqueueCall) (path : String) (content : CommandPayload) : Prop :=
  ∃ request, Requests policy call request ∧
    (policy.mergeCoalesced (readCommand files path) request = .ok (some content) ∨
      content = request ∧ ∀ held, commandKey call.command ≠ "" → readCommand files path = some held →
        policy.mergeCoalesced (some held) request = .ok none ∧ shouldReplaceCommand held request = true)

/-- A call wrote the file with its own revision, and with that content up to the marks of a coalesced command. -/
def Stored (s : MailboxRun) (e : MailboxEvent) (path : String) : Prop :=
  ∃ call content payload, e = .enqueue call ∧ path = enqueuePath policy call ∧
    Supersedes policy s.files call path content ∧
    (s.step policy e).files.get? path = some (.command payload) ∧
    payload.get? mailboxRevisionField = some (.str call.revision) ∧
    ∀ key ∉ coalescingKeys, payload.get? key = content.get? key

/-- A call left the files alone for a command that it does not replace and is not merged into. -/
def KeptOut (s : MailboxRun) (call : EnqueueCall) (path : String) : Prop :=
  path = enqueuePath policy call ∧ (s.step policy (.enqueue call)).files = s.files ∧
    ∃ request held, Requests policy call request ∧ commandKey call.command ≠ "" ∧
      s.files.get? path = some (.command held) ∧ policy.mergeCoalesced (some held) request = .ok none ∧
      shouldReplaceCommand held request = false

/-- A consumer that loaded the present generation of the file retired or replaced it. -/
def Consumed (s : MailboxRun) (e : MailboxEvent) (path : String) : Prop :=
  ∃ loaded ∈ s.loaded, (e = .removeIfCurrent loaded ∨ ∃ replacement,
    e = .replaceIfCurrent loaded replacement) ∧ loaded.path = path ∧
    loaded.generation = s.generation path

/-- A file changes only when it is written anew, or by a consumer that loaded its generation. -/
def KeepsGenerations (s : MailboxRun) (e : MailboxEvent) : Prop :=
  ∀ path, (s.step policy e).files.get? path ≠ s.files.get? path →
    s.Stored policy e path ∨ s.Consumed e path

/-- A written file carries a revision that no consumer of an older generation holds. -/
def Guarded (s : MailboxRun) : Prop :=
  ∀ path payload, 0 < s.generation path → s.files.get? path = some (.command payload) →
    ∃ revision, payload.get? mailboxRevisionField = some (.str revision) ∧
      ∀ loaded ∈ s.loaded, loaded.path = path → loaded.generation ≠ s.generation path →
        loaded.command.get? mailboxRevisionField ≠ some (.str revision)

/-- No consumer holds a generation that is still to come. -/
def LoadedBefore (s : MailboxRun) : Prop :=
  ∀ loaded ∈ s.loaded, loaded.generation ≤ s.generation loaded.path

variable {policy} {s : MailboxRun}

omit [PyLib] in
theorem guarded_start (files : MailboxFiles) : (start files).Guarded :=
  fun _ _ hpos _ => absurd hpos (lt_irrefl 0)

omit [PyLib] in
/-- A consumer of an older generation finds another revision. What it expects may differ from what it
loaded in everything but the revision. -/
theorem generation_eq_of_same (hguarded : s.Guarded) (hbefore : s.LoadedBefore)
    {loaded : LoadedCommand} (hmem : loaded ∈ s.loaded) {current expected : CommandPayload}
    (hexpected : expected.get? mailboxRevisionField = loaded.command.get? mailboxRevisionField)
    (hfile : s.files.get? loaded.path = some (.command current))
    (hsame : sameMailboxRevision current expected = true) :
    loaded.generation = s.generation loaded.path := by
  rcases Nat.eq_zero_or_pos (s.generation loaded.path) with hzero | hpos
  · exact le_antisymm (hbefore loaded hmem) (hzero.le.trans (Nat.zero_le _))
  · obtain ⟨revision, hrevision, hothers⟩ := hguarded loaded.path current hpos hfile
    by_contra hne
    exact hothers loaded hmem rfl hne
      (hexpected.symm.trans (revision_of_sameMailboxRevision hrevision hsame))

omit [PyLib] in
/-- A consumer that retires a file guards the others. -/
theorem guarded_removeIfCurrent (hguarded : s.Guarded) (path : String) (expected : CommandPayload) :
    Guarded { s with files := (VenusEvcharger.removeIfCurrent s.files path expected).2 } := by
  intro other payload hpos hfile
  rcases removeIfCurrent_cases s.files path expected with hkept | ⟨current, -, -, hremoved⟩
  · rw [hkept] at hfile
    exact hguarded other payload hpos hfile
  · rw [hremoved, Dict.get?_erase] at hfile
    split_ifs at hfile
    exact hguarded other payload hpos hfile

omit [PyLib] in
/-- A consumer that replaces a file keeps its revision. -/
theorem guarded_replaceIfCurrent (hguarded : s.Guarded) (path : String)
    (expected replacement : CommandPayload) :
    Guarded { s with
      files := (VenusEvcharger.replaceIfCurrent policy s.files path expected replacement).2 } := by
  intro other payload hpos hfile
  rcases replaceIfCurrent_cases policy s.files path expected replacement with
    hkept | ⟨current, hcurrent, -, hreplaced⟩
  · rw [hkept] at hfile
    exact hguarded other payload hpos hfile
  · rw [hreplaced, Dict.get?_set] at hfile
    split_ifs at hfile with hpath
    · obtain rfl := MailboxFile.command.inj (Option.some.inj hfile)
      obtain ⟨revision, hrevision, hothers⟩ := hguarded other current hpos (hpath ▸ hcurrent)
      refine ⟨revision, ?_, hothers⟩
      rw [get?_preserveMailboxIdentity, if_pos (by decide), hrevision]
      rfl
    · exact hguarded other payload hpos hfile

theorem loaded_step_enqueue (s : MailboxRun) (call : EnqueueCall) :
    (s.step policy (.enqueue call)).loaded = s.loaded := by
  rw [step]

/-- No operation loads a generation that is still to come. -/
theorem loadedBefore_step (hbefore : s.LoadedBefore) (e : MailboxEvent) :
    (s.step policy e).LoadedBefore := by
  cases e with
  | enqueue call =>
    intro loaded hmem
    refine (hbefore loaded hmem).trans ?_
    change _ ≤ if _ then _ else _
    split_ifs
    · exact Nat.le_succ _
    · exact le_rfl
  | loadPending quarantined =>
    intro loaded hmem
    rcases List.mem_append.mp hmem with hnew | hold
    · obtain ⟨entry, -, rfl⟩ := List.mem_map.mp hnew
      exact le_rfl
    · exact hbefore loaded hold
  | removeIfCurrent loaded =>
    rw [step]
    split_ifs
    · exact hbefore
    · exact hbefore
  | replaceIfCurrent loaded replacement =>
    rw [step]
    split_ifs
    · exact hbefore
    · exact hbefore

/-- Fresh revisions keep written files out of the reach of older consumers. -/
theorem guarded_step (hguarded : s.Guarded) (e : MailboxEvent) (hfresh : s.FreshRevision e) :
    (s.step policy e).Guarded := by
  cases e with
  | enqueue call =>
    rcases enqueueCommand_cases policy s.files call with
      ⟨hkept, hsame⟩ | ⟨hwritten, written, hrevision, -, hset⟩
    · intro path payload hpos hfile
      simp only [step, hkept, hsame, Bool.false_eq_true, and_false, if_false] at hpos hfile ⊢
      exact hguarded path payload hpos hfile
    · intro path payload hpos hfile
      simp only [step, hwritten, hset, and_true, Dict.get?_set] at hpos hfile ⊢
      by_cases hpath : path = enqueuePath policy call
      · rw [if_pos hpath] at hfile
        obtain rfl := MailboxFile.command.inj (Option.some.inj hfile)
        exact ⟨call.revision, hrevision, fun loaded hmem _ _ => hfresh loaded hmem⟩
      · rw [if_neg hpath] at hpos hfile
        simp only [if_neg hpath]
        exact hguarded path payload hpos hfile
  | loadPending quarantined =>
    intro path payload hpos hfile
    obtain ⟨revision, hrevision, hothers⟩ := hguarded path payload hpos hfile
    refine ⟨revision, hrevision, fun loaded hmem hpath hne => ?_⟩
    rcases List.mem_append.mp hmem with hnew | hold
    · obtain ⟨entry, -, rfl⟩ := List.mem_map.mp hnew
      exact absurd (congrArg s.generation hpath) hne
    · exact hothers loaded hold hpath hne
  | removeIfCurrent loaded =>
    rw [step]
    split_ifs
    · exact guarded_removeIfCurrent hguarded loaded.path loaded.command
    · exact hguarded
  | replaceIfCurrent loaded replacement =>
    rw [step]
    split_ifs
    · exact guarded_replaceIfCurrent hguarded loaded.path loaded.command replacement
    · exact hguarded

theorem requests_enqueuePayload (policy : CommandQueuePolicy) (call : EnqueueCall) : Requests policy call (enqueuePayload policy call) :=
  ⟨revision_enqueuePayload policy call, fun _ hkey => get?_enqueuePayload policy call hkey⟩

/-- A call that is accepted writes its file, or is kept out by the command that is there. -/
theorem stored_or_keptOut (s : MailboxRun) {call : EnqueueCall} {path : String}
    (haccepted : (enqueueCommand policy s.files call).1 = .ok path) :
    s.Stored policy (.enqueue call) path ∨ s.KeptOut policy call path := by
  obtain ⟨hpath, result, hresult⟩ := coalescedPayload_of_accepted haccepted
  have hrequests := requests_enqueuePayload policy call
  have hkey : commandKey (policy.normalize call.command) = commandKey call.command := commandKey_normalize _
  cases result with
  | none =>
    obtain ⟨hkeyed, held, hread, hmerge, hkeep⟩ := coalescedPayload_eq_none hresult
    refine .inr ⟨hpath, ?_, _, held, hrequests, hkey ▸ hkeyed, hpath ▸ readCommand_eq_some.mp hread, hmerge, hkeep⟩
    rw [step, enqueueCommand, hresult]
  | some written =>
    have hfiles : (s.step policy (.enqueue call)).files.get? path =
        some (.command (written.setDefault "lifecycle_state" (.str "queued"))) := by
      rw [step, enqueueCommand, hresult, hpath]
      exact Dict.get?_set_self _ _ _
    have hstored : ∀ key ∉ coalescingKeys,
        (written.setDefault "lifecycle_state" (.str "queued")).get? key = written.get? key := by
      intro key hkey
      rw [Dict.get?_setDefault, if_neg]
      rintro rfl
      exact hkey List.mem_cons_self
    left
    rcases coalescedPayload_eq_some hresult with ⟨hfree, rfl⟩ | ⟨hkeyed, base, hbase, hmarked⟩
    · refine ⟨call, _, _, rfl, hpath, ⟨_, hrequests, .inr ⟨rfl, fun held hkeyed hread => ?_⟩⟩, hfiles, ?_, hstored⟩
      · have hnone : s.files.contains path = false :=
          hpath ▸ hfree.resolve_left (hkey ▸ hkeyed)
        rw [Dict.contains, readCommand_eq_some.mp hread] at hnone
        cases hnone
      · rw [hstored _ (by decide)]
        exact hrequests.1
    · have hcontent : ∀ key ∉ coalescingKeys, written.get? key = base.get? key := by
        intro key hkey
        simp only [coalescingKeys, List.mem_cons, List.not_mem_nil, or_false, not_or] at hkey
        exact get?_markCoalescedPayload hmarked hkey.1 hkey.2.1 hkey.2.2
      refine ⟨call, base, _, rfl, hpath, ⟨_, hrequests, ?_⟩, hfiles, ?_,
        fun key hkey => (hstored key hkey).trans (hcontent key hkey)⟩
      · rw [hpath]
        rcases hbase with hmerged | ⟨hmerge, hpayload, hreplace⟩
        · exact .inl hmerged
        · exact .inr ⟨hpayload, fun held _ hread => ⟨hread ▸ hmerge, hreplace held hread⟩⟩
      · rw [hstored _ (by decide), hcontent _ (by decide)]
        rcases hbase with hmerged | ⟨-, rfl, -⟩
        · exact policy.revision_merge _ _ _ _ hmerged hrequests.1
        · exact hrequests.1

/-- Under the invariant every operation keeps generations. -/
theorem keepsGenerations_of_guarded (hguarded : s.Guarded) (hbefore : s.LoadedBefore)
    (e : MailboxEvent) : s.KeepsGenerations policy e := by
  intro path hchanged
  cases e with
  | enqueue call =>
    left
    rcases enqueueCommand_cases policy s.files call with ⟨-, hsame⟩ | ⟨-, payload, -, haccepted, hset⟩
    · rw [step, hsame] at hchanged
      exact absurd rfl hchanged
    · by_cases hpath : path = enqueuePath policy call
      · refine (stored_or_keptOut s (hpath ▸ haccepted)).resolve_right ?_
        rintro ⟨-, hkept, -⟩
        rw [hkept] at hchanged
        exact hchanged rfl
      · rw [step, hset] at hchanged
        exact absurd (Dict.get?_set_ne _ _ hpath) hchanged
  | loadPending quarantined => exact absurd rfl hchanged
  | removeIfCurrent loaded =>
    right
    rw [step] at hchanged
    split_ifs at hchanged with hmem
    · rcases removeIfCurrent_cases s.files loaded.path loaded.command with
        hkept | ⟨current, hcurrent, hsame, hremoved⟩
      · rw [hkept] at hchanged
        exact absurd rfl hchanged
      · rw [hremoved, Dict.get?_erase] at hchanged
        split_ifs at hchanged with hpath
        · exact ⟨loaded, hmem, .inl rfl, hpath.symm,
            hpath ▸ generation_eq_of_same hguarded hbefore hmem rfl hcurrent hsame⟩
        · exact absurd rfl hchanged
    · exact absurd rfl hchanged
  | replaceIfCurrent loaded replacement =>
    right
    rw [step] at hchanged
    split_ifs at hchanged with hmem
    · rcases replaceIfCurrent_cases policy s.files loaded.path loaded.command replacement with
        hkept | ⟨current, hcurrent, hsame, hreplaced⟩
      · rw [hkept] at hchanged
        exact absurd rfl hchanged
      · rw [hreplaced, Dict.get?_set] at hchanged
        split_ifs at hchanged with hpath
        · exact ⟨loaded, hmem, .inr ⟨replacement, rfl⟩, hpath.symm,
            hpath ▸ generation_eq_of_same hguarded hbefore hmem rfl hcurrent hsame⟩
        · exact absurd rfl hchanged
    · exact absurd rfl hchanged

/-- In every interleaving whose new revisions were not loaded before, an accepted call leaves in its file what it asks
for, a merge of it, or a command that it does not replace; and a file that differs later on was written in this way by
a call in between, or retired or replaced by a consumer that loaded its generation. -/
theorem no_lost_generation (files : MailboxFiles) (es : List MailboxEvent)
    (hfresh : Along (step policy) FreshRevision (start files) es) (before middle after : List MailboxEvent)
    (hsplit : es = before ++ middle ++ after) (path : String) :
    (∀ call, (enqueueCommand policy (run (step policy) (start files) before).files call).1 = .ok path →
      (run (step policy) (start files) before).Stored policy (.enqueue call) path ∨
        (run (step policy) (start files) before).KeptOut policy call path) ∧
    ((run (step policy) (start files) (before ++ middle)).files.get? path ≠
        (run (step policy) (start files) before).files.get? path →
      ∃ first e rest, middle = first ++ e :: rest ∧
        ((run (step policy) (start files) (before ++ first)).Stored policy e path ∨
          (run (step policy) (start files) (before ++ first)).Consumed e path)) := by
  refine ⟨fun _ haccepted => stored_or_keptOut _ haccepted, fun hchanged => ?_⟩
  have hstart : (start files).Guarded ∧ (start files).LoadedBefore :=
    ⟨guarded_start files, fun _ hmem => absurd hmem List.not_mem_nil⟩
  have hkeeps : Along (step policy) (KeepsGenerations policy) (start files) es :=
    along_of_invariant
      (fun _ e (hinv : Guarded _ ∧ LoadedBefore _) hok =>
        ⟨guarded_step hinv.1 e hok, loadedBefore_step hinv.2 e⟩)
      (fun _ e hinv _ => keepsGenerations_of_guarded hinv.1 hinv.2 e) hstart hfresh
  rw [run_append] at hchanged
  obtain ⟨first, e, rest, rfl, hstep⟩ :=
    exists_changing_event (fun s : MailboxRun => s.files.get? path) hchanged
  refine ⟨first, e, rest, rfl, ?_⟩
  have hall := along_iff_splits.mp hkeeps (before ++ first) e (rest ++ after)
    (by rw [hsplit]; simp)
  rw [← run_append] at hstep
  exact hall path hstep

/-! ## Several owners of one generation -/

/-- A command that is identified by its revision. -/
def CarriesRevision (command : CommandPayload) : Prop :=
  ∃ revision ≠ "", command.get? mailboxRevisionField = some (.str revision)

/-- What is stored under a path has the identity of a command. -/
def HasIdentity (files : MailboxFiles) (path : String) (command : CommandPayload) : Prop :=
  ∀ held, files.get? path = some (.command held) → ∀ key ∈ mailboxIdentityKeys, ∀ value,
    command.get? key = some value → held.get? key = some value

omit [PyLib] in
theorem hasIdentity_replaceIfCurrent {files : MailboxFiles} {path : String} {command : CommandPayload}
    (hidentity : HasIdentity files path command) (other : String)
    (expected replacement : CommandPayload) :
    HasIdentity (replaceIfCurrent policy files other expected replacement).2 path command := by
  rcases replaceIfCurrent_cases policy files other expected replacement with
    hkept | ⟨current, hcurrent, -, hreplaced⟩
  · rw [hkept]
    exact hidentity
  · rw [hreplaced]
    intro held hheld key hkey value hvalue
    rw [Dict.get?_set] at hheld
    split_ifs at hheld with hpath
    · obtain rfl := MailboxFile.command.inj (Option.some.inj hheld)
      rw [get?_preserveMailboxIdentity, if_pos hkey,
        hidentity current (hpath ▸ hcurrent) key hkey value hvalue]
      rfl
    · exact hidentity held hheld key hkey value hvalue

/-- Only a call of `enqueue` gives a file another identity. -/
theorem hasIdentity_step {path : String} {command : CommandPayload}
    (hidentity : HasIdentity s.files path command) (e : MailboxEvent)
    (hother : ∀ call, e = .enqueue call → enqueuePath policy call ≠ path) :
    HasIdentity (s.step policy e).files path command := by
  cases e with
  | enqueue call =>
    rcases enqueueCommand_cases policy s.files call with ⟨-, hsame⟩ | ⟨-, written, -, -, hset⟩
    · rw [step, hsame]
      exact hidentity
    · intro held hheld
      rw [step, hset, Dict.get?_set_ne _ _ (hother call rfl).symm] at hheld
      exact hidentity held hheld
  | loadPending quarantined => exact hidentity
  | removeIfCurrent loaded =>
    rw [step]
    split_ifs
    · intro held hheld
      rcases removeIfCurrent_cases s.files loaded.path loaded.command with
        hkept | ⟨current, -, -, hremoved⟩
      · rw [hkept] at hheld
        exact hidentity held hheld
      · rw [hremoved, Dict.get?_erase] at hheld
        split_ifs at hheld
        exact hidentity held hheld
    · exact hidentity
  | replaceIfCurrent loaded replacement =>
    rw [step]
    split_ifs
    · exact hasIdentity_replaceIfCurrent hidentity loaded.path loaded.command replacement
    · exact hidentity

/-- After any operations but a call that writes the file, an owner of the generation that was loaded
replaces the file exactly when there still is one and the generation carries a revision, or when the
content still is what was loaded. The file keeps the identity of the generation. -/
theorem replacement_accepted_iff (s : MailboxRun) (path : String) (current : CommandPayload)
    (hfile : s.files.get? path = some (.command current)) (es : List MailboxEvent)
    (hother : ∀ e ∈ es, ∀ call, e = .enqueue call → enqueuePath policy call ≠ path)
    (replacement : CommandPayload) :
    ((replaceIfCurrent policy (run (step policy) s es).files path (policy.normalize current)
        replacement).1 = true ↔
      ∃ held, (run (step policy) s es).files.get? path = some (.command held) ∧
        (CarriesRevision current ∨ held.pyEq (policy.normalize current) = true)) ∧
      HasIdentity (replaceIfCurrent policy (run (step policy) s es).files path
        (policy.normalize current) replacement).2 path current := by
  have hstart : HasIdentity s.files path current := by
    intro held hheld key _ value hvalue
    rw [hfile] at hheld
    obtain rfl := MailboxFile.command.inj (Option.some.inj hheld)
    exact hvalue
  -- The other events keep the identity of the file, by induction on the run.
  have hidentity : HasIdentity (run (step policy) s es).files path current := by
    clear hfile
    induction es generalizing s with
    | nil => exact hstart
    | cons e es ih =>
      rw [run_cons]
      exact ih _ (fun f hf => hother f (List.mem_cons_of_mem _ hf))
        (hasIdentity_step hstart e (hother e List.mem_cons_self))
  refine ⟨?_, hasIdentity_replaceIfCurrent hidentity path _ replacement⟩
  have hexpected : (policy.normalize current).get? mailboxRevisionField =
      current.get? mailboxRevisionField := policy.get?_normalize current _ (by decide)
  -- Files are compared by their revision, and as a whole where there is none.
  have hsame : ∀ held, (run (step policy) s es).files.get? path = some (.command held) →
      (sameMailboxRevision held (policy.normalize current) = true ↔
        CarriesRevision current ∨ held.pyEq (policy.normalize current) = true) := by
    intro held hheld
    by_cases hcarries : CarriesRevision current
    · obtain ⟨revision, hne, hrevision⟩ := hcarries
      rw [sameMailboxRevision_of_revision (hexpected.trans hrevision) hne]
      refine iff_of_true ?_ (.inl ⟨revision, hne, hrevision⟩)
      exact hidentity held hheld _ (by decide) _ hrevision
    · rw [or_iff_right hcarries, sameMailboxRevision, hexpected]
      split
      · next revision hrevision =>
        by_cases hempty : revision = ""
        · simp [hempty]
        · exact absurd ⟨revision, hempty, hrevision⟩ hcarries
      · exact Iff.rfl
  rw [replaceIfCurrent]
  cases hread : readCommand (run (step policy) s es).files path with
  | none =>
    refine iff_of_false (by simp) ?_
    rintro ⟨held, hheld, -⟩
    rw [readCommand_eq_some.mpr hheld] at hread
    exact Option.some_ne_none held hread
  | some held =>
    have hheld := readCommand_eq_some.mp hread
    by_cases hcurrent : sameMailboxRevision held (policy.normalize current) = true
    · simp only [hcurrent, Bool.not_true, Bool.false_eq_true, if_false, true_iff]
      exact ⟨held, hheld, (hsame held hheld).mp hcurrent⟩
    · refine iff_of_false (by simp [hcurrent]) ?_
      rintro ⟨other, hother', hcarries⟩
      obtain rfl := MailboxFile.command.inj (Option.some.inj (hheld.symm.trans hother'))
      exact hcurrent ((hsame held hheld).mpr hcarries)

end

section

local instance : PyLib := PyLib.sample

/-- A call with the key of the sample library. -/
def sampleCall (value : Int) (revision : String) (now : ℚ) : EnqueueCall where
  command := Dict.ofList [("kind", .str "user_command"), ("coalesce_key", .str "k"),
    ("priority", .str "user"), ("value", .int value)]
  createdNow := now
  updatedNow := now
  revision := revision
  uniqueId := ""

/-- The file of the sample calls. -/
def samplePath : String := enqueuePath coreCommandQueuePolicy (sampleCall 0 "" 0)

/-- The last command that was loaded. -/
def lastLoaded (es : List MailboxEvent) : LoadedCommand :=
  (run (step coreCommandQueuePolicy) (start Dict.empty) es).loaded.headD ⟨"", Dict.empty, 0⟩

/-- A command is loaded and then written anew. -/
def rewrittenAfterLoad : List MailboxEvent :=
  [.enqueue (sampleCall 1 "r1" 10), .loadPending [], .enqueue (sampleCall 2 "r2" 11)]

/-- The older generation is retired in vain, and then the newer one. -/
def retiredAfterRewrite : List MailboxEvent :=
  [.removeIfCurrent (lastLoaded rewrittenAfterLoad), .loadPending [],
    .removeIfCurrent (lastLoaded (rewrittenAfterLoad ++ [.loadPending []]))]

/-- The second call replaces the command of the first, and the file is gone after the consumer of the newer generation
retired it. -/
theorem no_lost_generation_after_rewrite :
    (run (step coreCommandQueuePolicy) (start Dict.empty) (rewrittenAfterLoad.take 2)).Stored coreCommandQueuePolicy
        (.enqueue (sampleCall 2 "r2" 11)) samplePath ∧
      ∃ first e rest, retiredAfterRewrite = first ++ e :: rest ∧
        ((run (step coreCommandQueuePolicy) (start Dict.empty)
            (rewrittenAfterLoad ++ first)).Stored coreCommandQueuePolicy e samplePath ∨
          (run (step coreCommandQueuePolicy) (start Dict.empty)
            (rewrittenAfterLoad ++ first)).Consumed e samplePath) := by
  refine ⟨?_, ?_⟩
  · refine ((no_lost_generation Dict.empty (rewrittenAfterLoad.take 2 ++ [] ++ []) (by decide +kernel) _ [] [] rfl
      samplePath).1 (sampleCall 2 "r2" 11) (by decide +kernel)).resolve_right ?_
    rintro ⟨-, hkept, -⟩
    exact absurd (congrArg (fun files => (readCommand files samplePath).map (·.get? "value")) hkept) (by decide +kernel)
  · exact (no_lost_generation Dict.empty (rewrittenAfterLoad ++ retiredAfterRewrite ++ []) (by decide +kernel)
      rewrittenAfterLoad retiredAfterRewrite [] rfl samplePath).2 (by decide +kernel)

/-- A replacement of a sample command. -/
def sampleReplacement (value : Int) : CommandPayload :=
  Dict.ofList [("kind", .str "user_command"), ("coalesce_key", .str "k"),
    ("priority", .str "user"), ("value", .int value)]

/-- A command as it is written by the first sample call, and loaded. -/
def sampleLoaded : LoadedCommand :=
  lastLoaded [.enqueue (sampleCall 1 "r1" 10), .loadPending []]

/-- The directory after the first sample call. -/
def sampleFiles : MailboxFiles :=
  (enqueueCommand coreCommandQueuePolicy Dict.empty (sampleCall 1 "r1" 10)).2

/-- The directory after a first owner replaced the command. -/
def replacedFiles : MailboxFiles :=
  (replaceIfCurrent coreCommandQueuePolicy sampleFiles samplePath sampleLoaded.command
    (sampleReplacement 2)).2

/-- Two owners of one generation both replace it, the second without having seen the first. -/
theorem second_replacement_overwrites_first :
    (replaceIfCurrent coreCommandQueuePolicy sampleFiles samplePath sampleLoaded.command
        (sampleReplacement 2)).1 = true ∧
      (replaceIfCurrent coreCommandQueuePolicy replacedFiles samplePath sampleLoaded.command
        (sampleReplacement 3)).1 = true ∧
      ((readCommand replacedFiles samplePath).map fun held => held.pyEq sampleLoaded.command) =
        some false := by
  decide +kernel

/-- A first owner replaced the loaded command. -/
def afterFirstOwner : MailboxRun :=
  run (step coreCommandQueuePolicy)
    (run (step coreCommandQueuePolicy) (start Dict.empty)
      [.enqueue (sampleCall 1 "r1" 10), .loadPending []])
    [.replaceIfCurrent sampleLoaded (sampleReplacement 2)]

/-- A second owner is accepted while the file is there. -/
theorem replacement_accepted_second_owner :
    (replaceIfCurrent coreCommandQueuePolicy afterFirstOwner.files samplePath sampleLoaded.command
      (sampleReplacement 3)).1 = true := by
  obtain ⟨held, hheld⟩ : ∃ held, readCommand afterFirstOwner.files samplePath = some held :=
    Option.isSome_iff_exists.mp (by decide +kernel)
  refine (replacement_accepted_iff _ samplePath sampleLoaded.command (by decide +kernel) _ ?_
    (sampleReplacement 3)).1.mpr ⟨held, readCommand_eq_some.mp hheld, .inl ⟨"r1", by decide, ?_⟩⟩
  · simp
  · decide +kernel

end

end MailboxRun

end VenusEvcharger
