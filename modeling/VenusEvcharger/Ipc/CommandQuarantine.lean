import VenusEvcharger.Ipc.QueuePolicies
import VenusEvcharger.Library.Run

/-!
# The quarantine of the file mailbox

`load_pending` remembers a file that holds no command under its signature, and skips it while the signature is
the same. A file whose reading fails is remembered in the same way, and stays hidden when it can be read again.
`readable_commands_listed` is the main result: while no read of a command fails, every command is listed.

Scope: the directory does not change during a scan, as under the mailbox lock. A scan that does not get the lock
raises before it looks at a file. The texts of the errors are those that the scan is given.
-/

namespace VenusEvcharger

open Library

/-- `(st_ino, st_size, st_mtime_ns)`. -/
structure CommandFileSignature where
  inode : Nat
  size : Nat
  mtimeNs : Nat
deriving DecidableEq

/-- What a file holds: an object, other JSON, text on which `JSONDecodeError` is raised, or text on which the
reading ends with another exception. -/
inductive FileContent where
  | object (payload : CommandPayload)
  | otherJson
  | invalidJson (reason : String)
  | undecodable

/-- A generation of a file. -/
structure StoredFile where
  content : FileContent
  signature : CommandFileSignature

/-- The file holds a command. -/
def StoredFile.IsCommand (file : StoredFile) : Prop := ∃ payload, file.content = .object payload

/-- The `*.json` files of the command directory. -/
abbrev CommandDirectory := Dict String StoredFile

/-- `_QuarantinedCommandFile`. -/
structure QuarantinedCommandFile where
  signature : Option CommandFileSignature
  reason : String
deriving DecidableEq

/-- `_quarantined`. -/
abbrev Quarantine := Dict String QuarantinedCommandFile

/-- `MAX_MAILBOX_QUARANTINE_ENTRIES`. -/
def maxMailboxQuarantineEntries : Nat := 128

/-- `_quarantine`. -/
def Quarantine.remember (quarantined : Quarantine) (path : String) (entry : QuarantinedCommandFile) : Quarantine :=
  if quarantined.get? path = some entry then quarantined
  else ((quarantined.set path entry).moveToEnd path).dropSurplus maxMailboxQuarantineEntries

/-- What `os.stat` says about the command directory. -/
inductive DirectoryState where
  | available
  | missing
  | unavailable
deriving DecidableEq

/-- How the file system answers during a scan. -/
structure ScanIo where
  directory : DirectoryState
  globFails : Bool
  statFails : String → Bool
  /-- The text of the `OSError` of a read. -/
  readFails : String → Option String

/-- The scan lists the files and can read the one at the path. -/
def ScanIo.Reads (io : ScanIo) (path : String) : Prop :=
  io.directory = .available ∧ io.globFails = false ∧ io.readFails path = none

/-- What a scan makes of one file. -/
inductive LoadOutcome where
  | loaded (command : CommandPayload)
  | skipped
  | raised

section Scan

variable (policy : CommandQueuePolicy) (io : ScanIo)

/-- `_command_file_signature`. -/
def ScanIo.signature (path : String) (file : StoredFile) : Option CommandFileSignature :=
  if io.statFails path then none else some file.signature

/-- `_load_command_file`. -/
def loadCommandFile (quarantined : Quarantine) (path : String) (file : StoredFile) : LoadOutcome × Quarantine :=
  let signature := io.signature path file
  if (quarantined.get? path).any (·.signature = signature) then (.skipped, quarantined)
  else
    match io.readFails path with
    | some error => (.skipped, quarantined.remember path ⟨signature, error⟩)
    | none =>
      match file.content with
      | .undecodable => (.raised, quarantined)
      | .invalidJson reason => (.skipped, quarantined.remember path ⟨signature, reason⟩)
      | .otherJson => (.skipped, quarantined.remember path ⟨signature, "payload-is-not-object"⟩)
      | .object payload => (.loaded (policy.normalize payload), quarantined.erase path)

/-- The loop of `_load_pending_unlocked`; an exception of one file ends it. -/
def loadCommandFiles (quarantined : Quarantine) :
    List (String × StoredFile) → Option (List (String × CommandPayload)) × Quarantine
  | [] => (some [], quarantined)
  | (path, file) :: later =>
    match loadCommandFile policy io quarantined path file with
    | (.raised, quarantined) => (none, quarantined)
    | (.skipped, quarantined) => loadCommandFiles quarantined later
    | (.loaded command, quarantined) =>
      let (pending, quarantined) := loadCommandFiles quarantined later
      (pending.map ((path, command) :: ·), quarantined)

/-- The files in the order of their paths. -/
def CommandDirectory.sorted (dir : CommandDirectory) : List (String × StoredFile) :=
  dir.entries.insertionSort fun a b => a.1 ≤ b.1

/-- `load_pending`: the commands, `none` when it raises, and the quarantine afterwards. -/
def loadPendingCommands (dir : CommandDirectory) (quarantined : Quarantine) :
    Option (List (String × CommandPayload)) × Quarantine :=
  match io.directory with
  | .missing => (some [], .empty)
  | .unavailable => (none, quarantined)
  | .available =>
    if io.globFails then (none, quarantined)
    else loadCommandFiles policy io (quarantined.filter fun path _ => dir.contains path) dir.sorted

end Scan

/-! ## Runs -/

/-- What happens to the mailbox: a file is written or removed, or the pending commands are loaded. -/
inductive QuarantineEvent where
  | write (path : String) (file : StoredFile)
  | remove (path : String)
  | load (io : ScanIo)

/-- The directory, and the quarantine of one consumer. -/
structure QuarantineRun where
  dir : CommandDirectory
  quarantined : Quarantine

namespace QuarantineRun

/-- A new consumer. -/
def start (dir : CommandDirectory) : QuarantineRun := ⟨dir, .empty⟩

section Policy

variable (policy : CommandQueuePolicy)

/-- The run after an event. -/
def step (r : QuarantineRun) : QuarantineEvent → QuarantineRun
  | .write path file => { r with dir := r.dir.set path file }
  | .remove path => { r with dir := r.dir.erase path }
  | .load io => { r with quarantined := (loadPendingCommands policy io r.dir r.quarantined).2 }

/-- The call returns every command that it can read. -/
def ListsCommands (r : QuarantineRun) : QuarantineEvent → Prop
  | .load io => ∀ path file payload, r.dir.get? path = some file → file.content = .object payload → io.Reads path →
      ∃ pending, (loadPendingCommands policy io r.dir r.quarantined).1 = some pending ∧
        (path, policy.normalize payload) ∈ pending
  | _ => True

end Policy

/-- No read of a command fails, no other file is without a signature, and none ends the scan with another
exception. -/
def SparesFile (io : ScanIo) (path : String) (file : StoredFile) : Prop :=
  (file.IsCommand → io.readFails path = none) ∧ (¬ file.IsCommand → io.statFails path = false) ∧
    (file.content = .undecodable → io.readFails path ≠ none)

/-- The event does not hide a command: a scan spares every file that it lists, and a command is not written under
the signature of a quarantined generation. -/
def Spares (r : QuarantineRun) : QuarantineEvent → Prop
  | .write path file => file.IsCommand → ∀ entry ∈ r.quarantined.get? path, entry.signature ≠ some file.signature
  | .remove _ => True
  | .load io => io.directory = .available → io.globFails = false →
      ∀ path file, r.dir.get? path = some file → SparesFile io path file

/-- The quarantine of a directory holds signatures only, and none of a command. -/
def Sound (dir : CommandDirectory) (quarantined : Quarantine) : Prop :=
  ∀ path entry, quarantined.get? path = some entry → ∃ signature, entry.signature = some signature ∧
    ∀ file, dir.get? path = some file → file.IsCommand → signature ≠ file.signature

/-! ## One scan -/

section Scan

variable {policy : CommandQueuePolicy} {io : ScanIo} {dir : CommandDirectory} {quarantined : Quarantine}
  {path : String} {file : StoredFile}

/-- What a dictionary without its oldest entries holds was in it. -/
theorem get?_of_dropSurplus {ν : Type} {d : Dict String ν} {bound : Nat} {key : String} {value : ν}
    (h : (d.dropSurplus bound).get? key = some value) : d.get? key = some value :=
  Dict.mem_entries_iff.mp (List.mem_of_mem_drop (Dict.mem_entries_iff.mpr h))

/-- Fewer entries are sound. -/
theorem Sound.mono {other : Quarantine} (h : Sound dir quarantined)
    (hsub : ∀ path entry, other.get? path = some entry → quarantined.get? path = some entry) : Sound dir other :=
  fun path entry hentry => h path entry (hsub path entry hentry)

/-- A file that holds no command may be remembered under its signature. -/
theorem Sound.remember (h : Sound dir quarantined) (hfile : dir.get? path = some file)
    (hno : ¬ file.IsCommand) (reason : String) :
    Sound dir (quarantined.remember path ⟨some file.signature, reason⟩) := by
  unfold Quarantine.remember
  split
  · exact h
  · intro key entry hentry
    have hset := get?_of_dropSurplus hentry
    rw [Dict.get?_moveToEnd, Dict.get?_set] at hset
    split at hset
    · rename_i hkey
      refine ⟨file.signature, ?_, fun other hother hcommand => ?_⟩
      · rw [← Option.some.inj hset]
      · rw [hkey, hfile] at hother
        rw [← Option.some.inj hother] at hcommand
        exact absurd hcommand hno
    · exact h key entry hset

theorem loadCommandFile_command (policy : CommandQueuePolicy) (h : Sound dir quarantined) (hfile : dir.get? path = some file)
    {payload : CommandPayload} (hcontent : file.content = .object payload) (hread : io.readFails path = none) :
    loadCommandFile policy io quarantined path file =
      (.loaded (policy.normalize payload), quarantined.erase path) := by
  have hnot : ¬ (quarantined.get? path).any (·.signature = io.signature path file) = true := by
    intro hany
    obtain ⟨entry, hentry, hsame⟩ := (Option.any_eq_true _ _).mp hany
    obtain ⟨signature, hsome, hne⟩ := h path entry hentry
    rw [decide_eq_true_eq, hsome, ScanIo.signature] at hsame
    split at hsame
    · nomatch hsame
    · exact hne file hfile ⟨payload, hcontent⟩ (Option.some.inj hsame)
  rw [loadCommandFile, if_neg hnot, hread, hcontent]

/-- A file without a command is skipped, and the quarantine stays sound. -/
theorem loadCommandFile_other (policy : CommandQueuePolicy) (h : Sound dir quarantined) (hfile : dir.get? path = some file)
    (hno : ¬ file.IsCommand) (hstat : io.statFails path = false)
    (hundecodable : file.content = .undecodable → io.readFails path ≠ none) :
    (loadCommandFile policy io quarantined path file).1 = .skipped ∧
      Sound dir (loadCommandFile policy io quarantined path file).2 := by
  have hsignature : io.signature path file = some file.signature := by
    rw [ScanIo.signature, hstat]
    rfl
  unfold loadCommandFile
  rw [hsignature]
  dsimp only
  split
  · exact ⟨rfl, h⟩
  · cases hread : io.readFails path with
    | some error => exact ⟨rfl, h.remember hfile hno error⟩
    | none =>
      cases hcontent : file.content with
      | object payload => exact absurd ⟨payload, hcontent⟩ hno
      | otherJson => exact ⟨rfl, h.remember hfile hno _⟩
      | invalidJson reason => exact ⟨rfl, h.remember hfile hno reason⟩
      | undecodable => exact absurd hread (hundecodable hcontent)

/-- The loop ends, keeps the quarantine sound, and loads every command. -/
theorem loadCommandFiles_spec (policy : CommandQueuePolicy) (files : List (String × StoredFile)) {quarantined : Quarantine}
    (h : Sound dir quarantined) (hfiles : ∀ e ∈ files, dir.get? e.1 = some e.2 ∧ SparesFile io e.1 e.2) :
    ∃ pending, (loadCommandFiles policy io quarantined files).1 = some pending ∧
      Sound dir (loadCommandFiles policy io quarantined files).2 ∧
      ∀ e ∈ files, ∀ payload, e.2.content = .object payload → (e.1, policy.normalize payload) ∈ pending := by
  induction files generalizing quarantined with
  | nil => exact ⟨[], rfl, h, fun _ he => nomatch he⟩
  | cons e later ih =>
    obtain ⟨path, file⟩ := e
    obtain ⟨hfile, hcommand, hother, hundecodable⟩ := hfiles _ List.mem_cons_self
    have hlater : ∀ e ∈ later, dir.get? e.1 = some e.2 ∧ SparesFile io e.1 e.2 :=
      fun e he => hfiles e (List.mem_cons_of_mem _ he)
    by_cases hcase : file.IsCommand
    · obtain ⟨payload, hcontent⟩ := hcase
      have hload := loadCommandFile_command policy h hfile hcontent (hcommand ⟨payload, hcontent⟩)
      have hsound : Sound dir (quarantined.erase path) := h.mono fun key entry hentry => by
        rw [Dict.get?_erase] at hentry
        split at hentry
        · nomatch hentry
        · exact hentry
      obtain ⟨pending, hpending, hkeeps, hmem⟩ := ih hsound hlater
      have hloop : loadCommandFiles policy io quarantined ((path, file) :: later) =
          ((loadCommandFiles policy io (quarantined.erase path) later).1.map
            ((path, policy.normalize payload) :: ·),
            (loadCommandFiles policy io (quarantined.erase path) later).2) := by
        rw [loadCommandFiles, hload]
      rw [hloop, hpending]
      refine ⟨_, rfl, hkeeps, fun e he other hother => ?_⟩
      rcases List.mem_cons.mp he with rfl | he
      · obtain rfl : payload = other := FileContent.object.inj (hcontent.symm.trans hother)
        exact List.mem_cons_self
      · exact List.mem_cons_of_mem _ (hmem e he other hother)
    · obtain ⟨hskip, hsound⟩ :=
        loadCommandFile_other policy h hfile hcase (hother hcase) hundecodable
      obtain ⟨pending, hpending, hkeeps, hmem⟩ := ih hsound hlater
      have hloop : loadCommandFiles policy io quarantined ((path, file) :: later) =
          loadCommandFiles policy io (loadCommandFile policy io quarantined path file).2 later := by
        rw [loadCommandFiles]
        split
        · rename_i heq
          rw [heq] at hskip
          nomatch hskip
        · rename_i heq
          rw [heq]
        · rename_i heq
          rw [heq] at hskip
          nomatch hskip
      rw [hloop]
      refine ⟨pending, hpending, hkeeps, fun e he payload hcontent => ?_⟩
      rcases List.mem_cons.mp he with rfl | he
      · exact absurd ⟨payload, hcontent⟩ hcase
      · exact hmem e he payload hcontent

end Scan

/-! ## Whole runs -/

section Runs

variable {policy : CommandQueuePolicy} {r : QuarantineRun}

theorem mem_sorted {dir : CommandDirectory} {e : String × StoredFile} : e ∈ dir.sorted ↔ dir.get? e.1 = some e.2 := by
  rw [CommandDirectory.sorted, List.mem_insertionSort]
  exact Dict.mem_entries_iff

/-- A scan that lists the files returns every command and keeps the quarantine sound. -/
theorem loadPendingCommands_available (policy : CommandQueuePolicy) (h : Sound r.dir r.quarantined) {io : ScanIo} (hio : r.Spares (.load io))
    (hdirectory : io.directory = .available) (hglob : io.globFails = false) :
    ∃ pending, (loadPendingCommands policy io r.dir r.quarantined).1 = some pending ∧
      Sound r.dir (loadPendingCommands policy io r.dir r.quarantined).2 ∧
      ∀ path file payload, r.dir.get? path = some file → file.content = .object payload →
        (path, policy.normalize payload) ∈ pending := by
  have hpresent : Sound r.dir (r.quarantined.filter fun path _ => r.dir.contains path) :=
    h.mono fun path entry hentry => by
      rw [Dict.get?_filter] at hentry
      exact (Option.filter_eq_some_iff.mp hentry).1
  obtain ⟨pending, hpending, hkeeps, hmem⟩ :=
    loadCommandFiles_spec policy r.dir.sorted hpresent fun e he =>
      ⟨mem_sorted.mp he, hio hdirectory hglob e.1 e.2 (mem_sorted.mp he)⟩
  rw [loadPendingCommands, hdirectory]
  dsimp only
  rw [hglob]
  exact ⟨pending, hpending, hkeeps, fun path file payload hfile hcontent =>
    hmem (path, file) (mem_sorted.mpr hfile) payload hcontent⟩

theorem sound_step (h : Sound r.dir r.quarantined) (event : QuarantineEvent) (hspares : r.Spares event) :
    Sound (r.step policy event).dir (r.step policy event).quarantined := by
  cases event with
  | write path file =>
    intro key entry hentry
    obtain ⟨signature, hsome, hne⟩ := h key entry hentry
    refine ⟨signature, hsome, fun other hother hcommand => ?_⟩
    change (r.dir.set path file).get? key = some other at hother
    rw [Dict.get?_set] at hother
    split at hother
    · rename_i hkey
      obtain rfl : file = other := Option.some.inj hother
      rw [hkey] at hentry
      exact fun heq => hspares hcommand entry hentry (hsome.trans (congrArg some heq))
    · exact hne other hother hcommand
  | remove path =>
    intro key entry hentry
    obtain ⟨signature, hsome, hne⟩ := h key entry hentry
    refine ⟨signature, hsome, fun other hother => ?_⟩
    change (r.dir.erase path).get? key = some other at hother
    rw [Dict.get?_erase] at hother
    split at hother
    · nomatch hother
    · exact hne other hother
  | load io =>
    show Sound r.dir (loadPendingCommands policy io r.dir r.quarantined).2
    cases hdirectory : io.directory with
    | missing =>
      rw [loadPendingCommands, hdirectory]
      exact fun _ _ hentry => nomatch hentry
    | unavailable =>
      rw [loadPendingCommands, hdirectory]
      exact h
    | available =>
      cases hglob : io.globFails with
      | true =>
        rw [loadPendingCommands, hdirectory]
        dsimp only
        rw [hglob]
        exact h
      | false => exact (loadPendingCommands_available policy h hspares hdirectory hglob).choose_spec.2.1

theorem listsCommands (h : Sound r.dir r.quarantined) (event : QuarantineEvent) (hspares : r.Spares event) :
    r.ListsCommands policy event := by
  cases event with
  | write path file => trivial
  | remove path => trivial
  | load io =>
    rintro path file payload hfile hcontent ⟨hdirectory, hglob, -⟩
    obtain ⟨pending, hpending, -, hmem⟩ :=
      loadPendingCommands_available policy h hspares hdirectory hglob
    exact ⟨pending, hpending, hmem path file payload hfile hcontent⟩

end Runs

/-- An empty object. -/
def sampleFile : StoredFile := ⟨.object .empty, ⟨11, 3, 5⟩⟩

/-- A directory with one command. -/
def sampleDirectory : CommandDirectory := Dict.empty.set "stop.json" sampleFile

/-- A scan whose reads end with the error. -/
def scanWith (error : Option String) : ScanIo := ⟨.available, false, fun _ => false, fun _ => error⟩

/-- Every file can be decoded. -/
def Decodable (dir : CommandDirectory) : Prop := ∀ path file, dir.get? path = some file → file.content ≠ .undecodable

theorem Decodable.set {dir : CommandDirectory} (h : Decodable dir) {file : StoredFile} (hfile : file.content ≠ .undecodable)
    (path : String) : Decodable (dir.set path file) := by
  intro other found hfound
  rw [Dict.get?_set] at hfound
  split_ifs at hfound
  · exact Option.some.inj hfound ▸ hfile
  · exact h other found hfound

/-- A scan without errors spares every file that can be decoded. -/
theorem spares_scanWith_none {r : QuarantineRun} (h : Decodable r.dir) : r.Spares (.load (scanWith none)) :=
  fun _ _ path file hfile => ⟨fun _ => rfl, fun _ => rfl, fun hcontent => absurd hcontent (h path file hfile)⟩

/-- A directory with a command and a corrupt file. -/
def corruptDirectory : CommandDirectory :=
  sampleDirectory.set "mode.json" ⟨.invalidJson "Expecting value", ⟨12, 1, 6⟩⟩

end QuarantineRun

end VenusEvcharger
