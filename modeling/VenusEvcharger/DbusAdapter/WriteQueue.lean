import VenusEvcharger.Ipc.CommandMailboxRuns
import VenusEvcharger.Ipc.FastPublication

/-!
# The queue of durable gateway commands

`WriteCommandQueue` takes commands from a snapshot of the mailbox, hands them to a dispatcher, and
finalises each with the outcome that the dispatcher or a completion callback reports. An applied or
dropped command is removed from the mailbox, and so are listed files of the same coalesce key.

Scope: the dispatcher is an arbitrary source of outcomes and callbacks. Other processes write to the
mailbox between any two moves, in particular between the removals of one finalisation. Which
listed command is selected next is left open; rate budgets, counters and log lines are left out.
-/

namespace VenusEvcharger

open Library

/-- `CommandOutcome`. -/
inductive CommandOutcome where
  | applied
  | dropped
  | deferred
deriving DecidableEq

def CommandOutcome.text : CommandOutcome → String
  | .applied => "applied"
  | .dropped => "dropped"
  | .deferred => "deferred"

/-- `CommandExecution`: an immediate outcome or an accepted asynchronous operation. -/
structure CommandExecution where
  outcome : CommandOutcome
  inFlight : Bool

/-- `_CompletionPhase`. -/
inductive CompletionPhase where
  | dispatching
  | waiting
  | closed
deriving DecidableEq

/-- `_CompletionAction`. -/
inductive CompletionAction where
  | buffer
  | finalize
  | ignore
deriving DecidableEq

/-- `_completion_action`. -/
def completionAction : CompletionPhase → CompletionAction
  | .dispatching => .buffer
  | .waiting => .finalize
  | .closed => .ignore

/-- One command that `process_loaded_command` took on: the variables of its dispatch, whether the
dispatcher has returned, and the outcomes it was finalised with. -/
structure Dispatch where
  loaded : LoadedCommand
  effective : CommandPayload
  pending : List LoadedCommand
  phase : CompletionPhase
  completedDuringDispatch : List CommandOutcome
  returned : Bool
  finalized : List CommandOutcome

/-- A call of `remove_pending` that is still to be made, for the dispatch it finalises. -/
structure PendingRemoval where
  dispatch : Nat
  loaded : LoadedCommand
  expected : CommandPayload

/-- The queue at work: the mailbox, the fast publications, the snapshot of a tick, the commands that
the running method took from it, all dispatches, and the removals still to be made. -/
structure WriteQueueRun where
  mailbox : MailboxRun
  publications : FastPublicationQueue
  snapshot : Option (List LoadedCommand)
  commands : List LoadedCommand
  dispatches : List Dispatch
  removals : List PendingRemoval

/-- The clock readings of one step. -/
structure WriteQueueClock where
  now : ℚ
  pruneNow : ℚ
  claimNow : ℚ
  stamp : ℚ

section

variable [PyLib]

/-- `is_local_publish_command`. -/
def isLocalPublishCommand (command : CommandPayload) : Bool :=
  isPublishKind (commandText command "kind")

/-- `stale_coalesced_paths`, with the listed commands. -/
def staleCoalesced (commands : List LoadedCommand) (processedPath key : String) :
    List LoadedCommand :=
  commands.filter fun listed =>
    decide (listed.path ≠ processedPath) &&
      match listed.command.get? "coalesce_key" with
      | some value => value.truthy && decide (value.text = key)
      | none => false

/-- `select_coalesced_command`. -/
def selectCoalescedCommand (existing : Option LoadedCommand) (candidate : LoadedCommand) :
    LoadedCommand :=
  match existing with
  | none => candidate
  | some existing =>
    if shouldReplaceCommand existing.command candidate.command then candidate else existing

/-- One pass of `coalesce`. -/
def coalesceOne (selection : List LoadedCommand × Dict String LoadedCommand)
    (candidate : LoadedCommand) : List LoadedCommand × Dict String LoadedCommand :=
  let key := commandText candidate.command "coalesce_key"
  if key = "" then (selection.1 ++ [candidate], selection.2)
  else
    (selection.1, selection.2.set key (selectCoalescedCommand (selection.2.get? key) candidate))

/-- `coalesce`: one command for every coalesce key, before they are sorted. -/
def coalesce (commands : List LoadedCommand) : List LoadedCommand :=
  let selection := commands.foldl coalesceOne ([], Dict.empty)
  selection.1 ++ selection.2.entries.map Prod.snd

namespace WriteQueueRun

/-- A queue on a directory as it is found. -/
def start (files : MailboxFiles) (publications : FastPublicationQueue) : WriteQueueRun where
  mailbox := MailboxRun.start files
  publications := publications
  snapshot := none
  commands := []
  dispatches := []
  removals := []

/-- What `load_pending` lists now. -/
def listed (s : WriteQueueRun) (quarantined : List String) : List LoadedCommand :=
  (loadPending gatewayCommandQueuePolicy s.mailbox.files quarantined).map fun entry =>
    ⟨entry.1, entry.2, s.mailbox.generation entry.1⟩

/-- The mailbox after `load_pending`. -/
def load (s : WriteQueueRun) (quarantined : List String) : WriteQueueRun :=
  { s with
    mailbox := s.mailbox.step gatewayCommandQueuePolicy (.loadPending quarantined) }

/-- `begin_tick`. -/
def beginTick (s : WriteQueueRun) (quarantined : List String) : WriteQueueRun :=
  { s.load quarantined with
    snapshot := some (s.listed quarantined) }

/-- `end_tick`. -/
def endTick (s : WriteQueueRun) : WriteQueueRun := { s with snapshot := none }

/-- A processing method takes its commands from `pending_snapshot`. -/
def takeCommands (s : WriteQueueRun) (quarantined : List String) : WriteQueueRun :=
  match s.snapshot with
  | some commands => { s with commands := commands }
  | none =>
    { s.load quarantined with
      commands := s.listed quarantined }

/-- `DbusGatewayCommandInbox.enqueue` by any process. -/
def enqueue (s : WriteQueueRun) (call : EnqueueCall) : WriteQueueRun :=
  match oversizedPublication call.normalized.command with
  | some _ => s
  | none =>
    { s with
      mailbox := s.mailbox.step gatewayCommandQueuePolicy (.enqueue call.normalized) }

/-! ## Finalisation -/

/-- The removals of `_apply_command_result`: the command itself, and the stale files of its key. -/
def resultRemovals (index : Nat) (dispatch : Dispatch) : List PendingRemoval :=
  let key := commandText dispatch.effective "coalesce_key"
  let stale := if key = "" then [] else staleCoalesced dispatch.pending dispatch.loaded.path key
  ⟨index, dispatch.loaded, dispatch.effective⟩ ::
    stale.map fun listed => ⟨index, listed, listed.command⟩

section

variable (s : WriteQueueRun)

/-- `_finalize_loaded_command`. -/
def finalizeLoadedCommand (index : Nat) (dispatch : Dispatch)
    (outcome : CommandOutcome) (clock : WriteQueueClock) : WriteQueueRun :=
  { s with
    publications :=
      if isLocalPublishCommand dispatch.effective then
        s.publications.recordDurableOutcome dispatch.effective outcome.text clock.now clock.stamp
      else s.publications
    dispatches := s.dispatches.modify index fun dispatch =>
      { dispatch with finalized := dispatch.finalized ++ [outcome] }
    removals :=
      s.removals ++ if outcome = .deferred then [] else resultRemovals index dispatch }

/-- The completion callback of a dispatch. -/
def complete (index : Nat) (outcome : CommandOutcome) (clock : WriteQueueClock) :
    WriteQueueRun :=
  match s.dispatches[index]? with
  | none => s
  | some dispatch =>
    match completionAction dispatch.phase with
    | .ignore => s
    | .buffer =>
      { s with
        dispatches := s.dispatches.modify index fun dispatch =>
          { dispatch with
            phase := .closed
            completedDuringDispatch := dispatch.completedDuringDispatch ++ [outcome] } }
    | .finalize =>
      finalizeLoadedCommand
        { s with
          dispatches := s.dispatches.modify index fun dispatch => { dispatch with phase := .closed } }
        index dispatch outcome clock

/-- `_dispatch_loaded_command`, after the dispatcher returned its execution. -/
def dispatcherReturned (index : Nat) (execution : CommandExecution)
    (clock : WriteQueueClock) : WriteQueueRun :=
  match s.dispatches[index]? with
  | none => s
  | some dispatch =>
    if dispatch.returned then s
    else
      match dispatch.completedDuringDispatch with
      | outcome :: _ =>
        finalizeLoadedCommand
          { s with
            dispatches := s.dispatches.modify index fun dispatch =>
              { dispatch with returned := true } }
          index dispatch outcome clock
      | [] =>
        if execution.inFlight then
          { s with
            dispatches := s.dispatches.modify index fun dispatch =>
              { dispatch with
                returned := true
                phase := .waiting } }
        else
          finalizeLoadedCommand
            { s with
              dispatches := s.dispatches.modify index fun dispatch =>
                { dispatch with
                  returned := true
                  phase := .closed } }
            index dispatch execution.outcome clock

/-! ## Processing -/

/-- A command that is dropped before it reaches the dispatcher: expired, or superseded. -/
def dropLoadedCommand (loaded : LoadedCommand) : WriteQueueRun :=
  let dispatch : Dispatch :=
    { loaded := loaded
      effective := loaded.command
      pending := s.commands
      phase := .closed
      completedDuringDispatch := []
      returned := true
      finalized := [.dropped] }
  { s with
    dispatches := s.dispatches ++ [dispatch]
    removals := s.removals ++ resultRemovals s.dispatches.length dispatch }

/-- `_dispatch_loaded_command`, up to the dispatcher. -/
def dispatchLoadedCommand (loaded : LoadedCommand) (effective : CommandPayload) :
    WriteQueueRun :=
  let dispatch : Dispatch :=
    { loaded := loaded
      effective := effective
      pending := s.commands
      phase := .dispatching
      completedDuringDispatch := []
      returned := false
      finalized := [] }
  { s with
    dispatches := s.dispatches ++ [dispatch] }

/-- `process_loaded_command`, up to the dispatcher. -/
def processLoadedCommand (loaded : LoadedCommand) (clock : WriteQueueClock) :
    WriteQueueRun :=
  if commandDeadlineExpired loaded.command clock.now then s.dropLoadedCommand loaded
  else if !isLocalPublishCommand loaded.command then s.dispatchLoadedCommand loaded loaded.command
  else
    match s.publications.prepareDurable loaded.command clock.pruneNow clock.claimNow with
    | (.error _, publications) => { s with publications := publications }
    | (.ok none, publications) => dropLoadedCommand { s with publications := publications } loaded
    | (.ok (some effective), publications) =>
      dispatchLoadedCommand { s with publications := publications } loaded effective

/-- The next call of `remove_pending`: from the mailbox if it is current, and from the snapshot. -/
def removePending : WriteQueueRun :=
  match s.removals with
  | [] => s
  | removal :: removals =>
    { s with
      mailbox :=
        { s.mailbox with
          files := (removeIfCurrent s.mailbox.files removal.loaded.path removal.expected).2 }
      snapshot := s.snapshot.map fun commands =>
        commands.filter fun listed => listed.path ≠ removal.loaded.path
      removals := removals }

/-- An executor rewrites the command it works on for its next step. -/
def rewrite (index : Nat) (replacement : CommandPayload) : WriteQueueRun :=
  match s.dispatches[index]? with
  | none => s
  | some dispatch =>
    { s with
      mailbox :=
        { s.mailbox with
          files := (replaceIfCurrent gatewayCommandQueuePolicy s.mailbox.files dispatch.loaded.path
            dispatch.effective replacement).2 } }

end

/-- One move of the queue, of an executor, or of another process. -/
inductive Event where
  | enqueue (call : EnqueueCall)
  | beginTick (quarantined : List String)
  | endTick
  | takeCommands (quarantined : List String)
  | process (loaded : LoadedCommand) (clock : WriteQueueClock)
  | complete (index : Nat) (outcome : CommandOutcome) (clock : WriteQueueClock)
  | returned (index : Nat) (execution : CommandExecution) (clock : WriteQueueClock)
  | removePending
  | rewrite (index : Nat) (replacement : CommandPayload)

/-- Commands are processed from the coalesced list that was taken. -/
def step (s : WriteQueueRun) : Event → WriteQueueRun
  | .enqueue call => s.enqueue call
  | .beginTick quarantined => s.beginTick quarantined
  | .endTick => s.endTick
  | .takeCommands quarantined => s.takeCommands quarantined
  | .process loaded clock =>
    if loaded ∈ coalesce s.commands then s.processLoadedCommand loaded clock else s
  | .complete index outcome clock => s.complete index outcome clock
  | .returned index execution clock => s.dispatcherReturned index execution clock
  | .removePending => s.removePending
  | .rewrite index replacement => s.rewrite index replacement

end WriteQueueRun

end

end VenusEvcharger
