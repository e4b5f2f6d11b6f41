import VenusEvcharger.DbusAdapter.WriteQueueRuns

/-!
# Commands of the core mailbox

The runtime executor loads the pending commands, dispatches each, and retires its file. A dispatch or a removal that
fails leaves a retry record under the path of the file; a record is compared with what the next pass loads.

Scope: passes do not overlap, and other processes write and remove files between any two of their steps. The commands
of a pass may be processed in any order. A command that is dropped as invalid counts as dispatched. Log lines and the
return values that only tell whether there was work are left out.
-/

namespace VenusEvcharger

open Library

/-- The `reason` of a retry record. -/
inductive RetryReason where
  | dispatch
  | retire
deriving DecidableEq

/-- `_CoreCommandRetry`. -/
structure CoreCommandRetry where
  expected : CommandPayload
  failureCount : Nat
  retryAt : ℚ
  retireOnly : Bool
  reason : RetryReason

/-- `_core_command_retries`. -/
abbrev CoreCommandRetries := Dict String CoreCommandRetry

/-- `core_command_retry_delay`. -/
def coreCommandRetryDelay (failureCount : Nat) : ℚ := min 30 (1 / 2 * 2 ^ min (failureCount - 1) 6)

/-- `retry.expected == payload`. The JSON decoder has one object for `NaN`, so that a payload equals itself. -/
def samePayload (expected payload : CommandPayload) : Bool := decide (expected = payload) || expected.pyEq payload

/-- `_matching_retry`, which drops the record of another payload. -/
def matchingRetry (retries : CoreCommandRetries) (path : String) (payload : CommandPayload) :
    Option CoreCommandRetry × CoreCommandRetries :=
  match retries.get? path with
  | none => (none, retries)
  | some retry => if samePayload retry.expected payload then (some retry, retries) else (none, retries.erase path)

/-- The failure count of `_defer_core_command`. -/
def nextFailureCount (previous : Option CoreCommandRetry) (reason : RetryReason) : Nat :=
  match previous with
  | some retry => if retry.reason = reason then retry.failureCount + 1 else 1
  | none => 1

/-- `_defer_core_command`. -/
def deferCoreCommand (retries : CoreCommandRetries) (path : String) (payload : CommandPayload) (reason : RetryReason)
    (retireOnly : Bool) (now : ℚ) : CoreCommandRetries :=
  let (previous, retries) := matchingRetry retries path payload
  let failureCount := nextFailureCount previous reason
  retries.set path ⟨payload, failureCount, now + coreCommandRetryDelay failureCount, retireOnly, reason⟩

/-- `_forget_absent_core_retries`, and `clear` when nothing is pending. -/
def forgetAbsentCoreRetries (retries : CoreCommandRetries) (pending : List LoadedCommand) : CoreCommandRetries :=
  if pending = [] then .empty else retries.filter fun path _ => decide (path ∈ pending.map (·.path))

/-- The branches of `_process_core_command`. -/
inductive CoreCommandAction where
  | wait
  | retire
  | dispatch
deriving DecidableEq

/-- Which branch `_process_core_command` takes. -/
def coreCommandAction (retry : Option CoreCommandRetry) (now : ℚ) : CoreCommandAction :=
  match retry with
  | none => .dispatch
  | some retry => if now < retry.retryAt then .wait else if retry.retireOnly then .retire else .dispatch

/-! ## Runs -/

/-- How `handle_core_command` ends. An exception that is not caught ends the pass. -/
inductive HandleOutcome where
  | returned
  | caught
  | uncaught
deriving DecidableEq

/-- How the file system answers `remove_if_current`: as it should, with a file that cannot be read, or with an
exception. -/
inductive RetireIo where
  | works
  | unreadable
  | raises
deriving DecidableEq

/-- What became of a loaded command. -/
inductive CommandResult where
  | dispatched
  | failed (reason : RetryReason) (time : ℚ)
deriving DecidableEq

/-- The command files, the records, the rest of the pass, and the command whose file is to be retired. `writes`
counts how often each file was written, `stored` lists what was written, and `log` what became of it. -/
structure CoreQueueRun where
  files : MailboxFiles
  writes : String → Nat
  retries : CoreCommandRetries
  todo : List LoadedCommand
  retiring : Option LoadedCommand
  stored : List LoadedCommand
  log : List (LoadedCommand × CommandResult)

/-- One step: of another process, or of a pass. A poll fails, or returns without the `hidden` files. -/
inductive CoreQueueEvent where
  | enqueue (call : EnqueueCall)
  | remove (path : String)
  | pollFailed
  | poll (hidden : List String)
  | process (loaded : LoadedCommand) (now : ℚ) (outcome : HandleOutcome) (failedAt : ℚ)
  | retire (io : RetireIo) (failedAt : ℚ)

namespace CoreQueueRun

/-- An empty mailbox and a new executor. -/
def start : CoreQueueRun := ⟨.empty, fun _ => 0, .empty, [], none, [], []⟩

/-- The commands that `load_pending` returns. -/
def pending (r : CoreQueueRun) (hidden : List String) : List LoadedCommand :=
  (loadPending coreCommandQueuePolicy r.files hidden).map fun e => ⟨e.1, e.2, r.writes e.1⟩

/-- The branch in which a loaded command is processed. -/
def action (r : CoreQueueRun) (loaded : LoadedCommand) (now : ℚ) : CoreCommandAction :=
  coreCommandAction (matchingRetry r.retries loaded.path loaded.command).1 now

/-- The run when the next command of the pass is taken up. -/
def takeUp (r : CoreQueueRun) (loaded : LoadedCommand) : CoreQueueRun :=
  { r with retries := (matchingRetry r.retries loaded.path loaded.command).2, todo := r.todo.erase loaded }

/-- `_defer_core_command`, with a log entry. -/
def defer (r : CoreQueueRun) (loaded : LoadedCommand) (reason : RetryReason) (retireOnly : Bool) (now : ℚ) :
    CoreQueueRun :=
  { r with
    retries := deferCoreCommand r.retries loaded.path loaded.command reason retireOnly now
    log := (loaded, .failed reason now) :: r.log }

/-- The rest of `_process_core_command`, up to the removal of the file. -/
def processCoreCommand (r : CoreQueueRun) (loaded : LoadedCommand) (outcome : HandleOutcome) (failedAt : ℚ) :
    CoreCommandAction → CoreQueueRun
  | .wait => r
  | .retire => { r with retiring := some loaded }
  | .dispatch =>
    match outcome with
    | .returned => { r with retiring := some loaded, log := (loaded, .dispatched) :: r.log }
    | .caught => r.defer loaded .dispatch false failedAt
    | .uncaught => { r with todo := [] }

/-- `_retire_core_command`. -/
def retireCoreCommand (r : CoreQueueRun) (loaded : LoadedCommand) (failedAt : ℚ) : RetireIo → CoreQueueRun
  | .works =>
    { r with
      files := (removeIfCurrent r.files loaded.path loaded.command).2
      retries := r.retries.erase loaded.path
      retiring := none }
  | .unreadable => { r with retries := r.retries.erase loaded.path, retiring := none }
  | .raises => { r.defer loaded .retire true failedAt with retiring := none }

section

variable [PyLib]

/-- The run after `enqueue`. -/
def enqueue (r : CoreQueueRun) (call : EnqueueCall) : CoreQueueRun :=
  let path := enqueuePath coreCommandQueuePolicy call
  let files := (enqueueCommand coreCommandQueuePolicy r.files call).2
  if enqueueWrites coreCommandQueuePolicy r.files call then
    { r with
      files := files
      writes := fun other => if other = path then r.writes path + 1 else r.writes other
      stored := ((readCommand files path).map (⟨path, ·, r.writes path + 1⟩)).toList ++ r.stored }
  else { r with files := files }

/-- One step of a run. -/
def step (r : CoreQueueRun) : CoreQueueEvent → CoreQueueRun
  | .enqueue call => r.enqueue call
  | .remove path => { r with files := r.files.erase path }
  | .pollFailed => r
  | .poll hidden =>
    if r.todo = [] ∧ r.retiring = none then
      { r with
        retries := forgetAbsentCoreRetries r.retries (r.pending hidden)
        todo := coalesce (r.pending hidden) }
    else r
  | .process loaded now outcome failedAt =>
    if loaded ∈ r.todo ∧ r.retiring = none then
      (r.takeUp loaded).processCoreCommand loaded outcome failedAt (r.action loaded now)
    else r
  | .retire io failedAt =>
    match r.retiring with
    | none => r
    | some loaded => r.retireCoreCommand loaded failedAt io

end

/-! ## What a run should do -/

/-- The file holds the command. -/
def Current (r : CoreQueueRun) (loaded : LoadedCommand) : Prop :=
  readCommand r.files loaded.path = some loaded.command

/-- The command was dispatched. -/
def Dispatched (r : CoreQueueRun) (loaded : LoadedCommand) : Prop := (loaded, .dispatched) ∈ r.log

/-- When a command failed for the reason, the last time first. -/
def failures (r : CoreQueueRun) (loaded : LoadedCommand) (reason : RetryReason) : List ℚ :=
  r.log.filterMap fun e =>
    match e.2 with
    | .failed other time => if e.1 = loaded ∧ other = reason then some time else none
    | .dispatched => none

/-- The delay after the last of the failures is not over. -/
def BacksOff (failures : List ℚ) (now : ℚ) : Prop :=
  ∃ last ∈ failures.head?, now < last + coreCommandRetryDelay failures.length

section

variable [PyLib]

/-- A command that was not dispatched is dispatched unless it backs off from its own failures, and a dispatched one
is only retired, where the file of another generation is left alone. A poll takes up what it lists. -/
def ExactlyOnce (r : CoreQueueRun) : CoreQueueEvent → Prop
  | .process loaded now _ _ => loaded ∈ r.todo → r.retiring = none →
      (r.action loaded now = .dispatch ↔ ¬ r.Dispatched loaded ∧ ¬ BacksOff (r.failures loaded .dispatch) now) ∧
        (r.action loaded now = .retire ↔ r.Dispatched loaded ∧ ¬ BacksOff (r.failures loaded .retire) now)
  | .retire io failedAt => ∀ loaded ∈ r.retiring, r.Dispatched loaded ∧
      ∀ path, (r.step (.retire io failedAt)).files.get? path ≠ r.files.get? path →
        path = loaded.path ∧ r.Current loaded ∧ r.writes path = loaded.generation
  | .poll hidden => r.todo = [] → r.retiring = none → ∀ loaded ∈ r.pending hidden,
      (∀ other ∈ r.pending hidden, commandText other.command "coalesce_key" =
        commandText loaded.command "coalesce_key" → other = loaded) → loaded ∈ (r.step (.poll hidden)).todo
  | _ => True

end

/-- The revision of a new command is a text that no other command carries. -/
def FreshRevision (r : CoreQueueRun) : CoreQueueEvent → Prop
  | .enqueue call => call.revision ≠ "" ∧
      ∀ stored ∈ r.stored, stored.command.get? mailboxRevisionField ≠ some (.str call.revision)
  | _ => True

/-- A poll does not hide a command that has a retry record, and a file that `remove_if_current` cannot read does not
hold the command. -/
def SeesFiles (r : CoreQueueRun) : CoreQueueEvent → Prop
  | .poll hidden => r.todo = [] → r.retiring = none → ∀ path ∈ hidden, ∀ retry ∈ r.retries.get? path,
      readCommand r.files path ≠ some retry.expected
  | .retire .unreadable _ => ∀ loaded ∈ r.retiring, ¬ r.Current loaded
  | _ => True

end CoreQueueRun

end VenusEvcharger
