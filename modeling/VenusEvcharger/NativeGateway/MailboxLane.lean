import VenusEvcharger.NativeGateway.Executor

/-!
# The mailbox lane of the native gateway

The gateway lists the command files of its mailbox, considers them in the order of their priority, and keeps at
most one semantic command active over many ticks. Other processes replace command files at any moment. Every
content of a file has its own generation here, and a command that was read remembers the one it was read at,
which the code does not.

Scope: removing a file succeeds. Files that hold no command are left out, since a scan skips them. The budgets,
the burst limit of publications, and the answers of the registry, of the reader and of the introspection queue are
inputs of the step that asks for them.
-/

namespace VenusEvcharger.NativeGateway

open Library

/-- A command as it was read from its file. -/
structure LoadedCommand where
  path : String
  generation : Nat
  command : JsonMap

/-- The content of a command file. -/
structure StoredCommand where
  generation : Nat
  command : JsonMap

/-- The command that a scan reads from a file with this content. -/
def StoredCommand.load (stored : StoredCommand) (path : String) : LoadedCommand :=
  ⟨path, stored.generation, stored.command⟩

/-- A call of `Mailbox::remove`: for which command, with which lifecycle state, and the generation that the
file had. -/
structure Removal where
  loaded : LoadedCommand
  state : String
  deleted : Option Nat

/-- The mailbox, the lane, and their history, oldest first. -/
structure MailboxLane where
  files : Dict String StoredCommand
  /-- The commands of the scan that are still to be considered. -/
  listed : List LoadedCommand
  active : Option (LoadedCommand × ActiveCommand)
  /-- The commands that own a queued or active introspection. -/
  introspections : List LoadedCommand
  nextCommandRetry : ℚ
  accepted : List LoadedCommand
  removals : List Removal
  /-- The bus operations that were submitted for commands. -/
  operations : List (LoadedCommand × DbusOperation)

/-- What the gateway is told while it considers a command. -/
structure ConsiderInput where
  capturedAt : ℚ
  epoch : ℚ
  now : ℚ
  pressure : PressureState
  /-- `budget_available`. -/
  budget : Bool
  /-- The burst limit and the time budget of publications are not reached. -/
  publishes : Bool
  /-- `PublicationRegistry::apply`. -/
  publication : Except String PublicationOutcome
  /-- `request_refresh`. -/
  refreshes : Bool
  /-- `schedule_command`. -/
  schedules : Bool

/-- One event of the lane. -/
inductive LaneEvent where
  /-- A process stores a command. -/
  | enqueue (path : String) (command : JsonMap)
  /-- A scan reads a file. -/
  | read (path : String)
  /-- A scan has read everything. -/
  | prioritize (capturedAt : ℚ)
  /-- The next listed command is considered. -/
  | consider (input : ConsiderInput)
  /-- `try_schedule_command`, with whether the rates and the broker allow the operation. -/
  | submit (now : ℚ) (allowed : Bool)
  /-- The answer to the operation of the active command. -/
  | answer (answer : DbusAnswer) (now : ℚ)
  /-- The answer to an introspection, with whether its XML can be read. -/
  | introspected (position : Nat) (readable : Bool)

namespace MailboxLane

/-- An empty mailbox. -/
def start : MailboxLane := ⟨Dict.empty, [], none, [], 0, [], [], []⟩

/-- `COMMAND_RETRY_DELAY`. -/
def commandRetryDelay : ℚ := 2

/-- `finish_command`, and `Mailbox::remove` on its own. -/
def finishCommand (s : MailboxLane) (loaded : LoadedCommand) (state : String) : MailboxLane :=
  { s with
    files := s.files.erase loaded.path
    removals := s.removals ++ [⟨loaded, state, (s.files.get? loaded.path).map (·.generation)⟩] }

/-- A process stores a command in a file. -/
def store (s : MailboxLane) (path : String) (command : JsonMap) : MailboxLane :=
  let stored : StoredCommand := ⟨s.accepted.length, command⟩
  { s with
    files := s.files.set path stored
    accepted := s.accepted ++ [stored.load path] }

/-- A scan reads a file. A directory lists each file once. -/
def readFile (s : MailboxLane) (path : String) : MailboxLane :=
  match s.files.get? path with
  | none => s
  | some stored =>
    if path ∈ s.listed.map (·.path) then s
    else { s with listed := s.listed ++ [stored.load path] }

/-- What `process_mailbox_if_due` does with a command. -/
inductive Verdict where
  | skip
  | finish (state : String)
  | introspect
  | start (active : ActiveCommand)

/-- The decision of `process_mailbox_if_due` about a command. -/
def verdict (s : MailboxLane) (input : ConsiderInput) (loaded : LoadedCommand) : Verdict :=
  let command := loaded.command
  let kind := commandKind command
  if commandDeadlineExpired command input.capturedAt then .finish "expired"
  else if !runtimeWorkAllowed command input.pressure then
    if input.pressure ≠ .ok && isAdvisory command then .finish "dropped" else .skip
  else if !input.budget then .skip
  else if isPublication kind then
    if input.publishes then
      match input.publication with
      | .ok .applied => .finish "applied"
      | .ok .dropped => .finish "dropped"
      | .ok .deferred | .error _ => .skip
    else .skip
  else if kind = "refresh_energy_inputs" then .finish (if input.refreshes then "applied" else "dropped")
  else if kind = "introspect" then
    let service := (command.text? "service").getD ""
    let path := (command.text? "path").getD "/"
    if service = "" || path.toList.head? ≠ some '/' then .finish "dropped"
    else if input.schedules then .introspect else .skip
  else if s.active.isSome || decide (input.now < s.nextCommandRetry) then .skip
  else
    match startCommand loaded.path command input.epoch input.now with
    | .ok (.inl .dropped) | .error _ => .finish "dropped"
    | .ok (.inl .applied) => .finish "applied"
    | .ok (.inl .deferred) => .skip
    | .ok (.inr active) => .start active

/-- One iteration of `process_mailbox_if_due`. An active command ends the scan. -/
def consider (s : MailboxLane) (input : ConsiderInput) : MailboxLane :=
  match s.listed with
  | [] => s
  | loaded :: listed =>
    let s := { s with listed := listed }
    match s.verdict input loaded with
    | .skip => s
    | .finish state => s.finishCommand loaded state
    | .introspect => { s with introspections := s.introspections ++ [loaded] }
    | .start active => { s with active := some (loaded, active), listed := [] }

/-- `try_schedule_command`. -/
def submit (settings : ExecutorSettings) (s : MailboxLane) (now : ℚ) (allowed : Bool) : MailboxLane :=
  match s.active with
  | none => s
  | some (loaded, active) =>
    if active.awaiting || decide (now < active.notBefore) then s
    else
      match operationFor settings active with
      | .error _ => { s with active := none }.finishCommand loaded "dropped"
      | .ok operation =>
        if allowed then
          { s with
            active := some (loaded, { active with awaiting := true })
            operations := s.operations ++ [(loaded, operation)] }
        else s

/-- `complete_semantic_command`. -/
def complete (s : MailboxLane) (answer : DbusAnswer) (now : ℚ) : MailboxLane :=
  match s.active with
  | none => s
  | some (loaded, active) =>
    if active.awaiting then
      match transition active answer now with
      | .ok (.next stage notBefore) =>
        { s with active := some (loaded, { active with stage, notBefore, awaiting := false }) }
      | .ok (.done .applied) => { s with active := none }.finishCommand loaded "applied"
      | .ok (.done .dropped) => { s with active := none }.finishCommand loaded "dropped"
      | .ok (.done .deferred) | .error _ =>
        { s with active := none, nextCommandRetry := now + commandRetryDelay }
    else s

/-- The answer to an introspection of a command, whose file is removed when the XML can be read. -/
def introspected (s : MailboxLane) (position : Nat) (readable : Bool) : MailboxLane :=
  match s.introspections[position]? with
  | none => s
  | some loaded =>
    let s := { s with introspections := s.introspections.eraseIdx position }
    if readable then s.finishCommand loaded "introspected" else s

/-- One event. The gateway does nothing else during a scan. -/
def step (settings : ExecutorSettings) (s : MailboxLane) : LaneEvent → MailboxLane
  | .enqueue path command => s.store path command
  | .read path => s.readFile path
  | .prioritize capturedAt => { s with listed := prioritize (·.command) capturedAt s.listed }
  | .consider input => s.consider input
  | .submit now allowed => if s.listed = [] then s.submit settings now allowed else s
  | .answer answer now => if s.listed = [] then s.complete answer now else s
  | .introspected position readable => if s.listed = [] then s.introspected position readable else s

end MailboxLane

end VenusEvcharger.NativeGateway
