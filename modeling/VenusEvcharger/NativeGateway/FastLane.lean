import VenusEvcharger.NativeGateway.Command
import VenusEvcharger.NativeGateway.PublicationOrders

/-!
# The fast lane of the native gateway

Transient publications arrive over a socket in a bounded queue. A tick takes them from the front until one
is not taken: the budget of its class is used up, or the registry defers it or fails. That one goes back to the
front and ends the tick. Every accepted publication is also listed, and so is the way in which it left.

Scope: no pressure. The attempts of a tick share one instant, and the time budget of a tick allows at least
one. The mailbox lane runs after the fast lane of the tick, with the commands that reach its budget check.
-/

namespace VenusEvcharger.NativeGateway

/-- `QUEUE_CAPACITY`. -/
def queueCapacity : Nat := 64

/-- The least time between two ticks, which `configured_duration` and `tick_for` keep to. -/
def leastTickSeconds : ℚ := 1 / 20

/-- How a publication left the queue: the registry applied or dropped it, or it had expired at a time. -/
inductive FastOutcome where
  | applied
  | dropped
  | expired (capturedAt : ℚ)
deriving DecidableEq

/-- The fast lane with the registry and the recorded attempts. -/
structure FastLane where
  queue : List JsonMap
  registry : PublicationRegistry
  budgetEvents : List BudgetEvent
  /-- The instant of the last tick. -/
  instant : ℚ
  /-- Every publication that was accepted, oldest first. -/
  accepted : List JsonMap
  /-- Every publication that has left the queue, oldest first. -/
  resolved : List (JsonMap × FastOutcome)

/-- What happens in one tick. -/
structure FastTick where
  /-- The commands of the streams that `accept_ready` handles. -/
  arrivals : List JsonMap
  capturedAt : ℚ
  /-- The time since the last tick. -/
  elapsed : ℚ
  /-- The answers of the bus to the attempts that the burst limit and the time budget allow. -/
  attempts : List BusAnswers
  /-- The commands of the mailbox lane that reach its budget check, with the answers of the bus. -/
  mailbox : List (JsonMap × BusAnswers)
  attempts_ne : attempts ≠ []
  elapsed_ge : leastTickSeconds ≤ elapsed

namespace FastLane

/-- A lane with nothing queued. -/
def start (registry : PublicationRegistry) : FastLane := ⟨[], registry, [], 0, [], []⟩

/-- The number of fields that `enqueue` allows. -/
def maxFields : Nat := 512

/-- The checks of `enqueue` on a command. -/
def admissible (command : JsonMap) : Bool :=
  decide (commandKind command ∈ ["publish_evcs_fields", "publish_companion_fields"]) &&
    (command.object? "fields").any fun fields => decide (fields ≠ []) && decide (fields.length ≤ maxFields)

/-- `enqueue`. -/
def enqueue (s : FastLane) (command : JsonMap) : FastLane :=
  if admissible command && decide (s.queue.length < queueCapacity) then
    { s with queue := s.queue ++ [command], accepted := s.accepted ++ [command] }
  else s

/-- `defer`, which drops the command when the queue is full. -/
def defer (s : FastLane) (command : JsonMap) : FastLane :=
  if s.queue.length < queueCapacity then { s with queue := command :: s.queue } else s

/-- The command has left the queue. -/
def resolve (s : FastLane) (command : JsonMap) (outcome : FastOutcome) : FastLane :=
  { s with resolved := s.resolved ++ [(command, outcome)] }

/-- `record_attempt`. -/
def recordAttempt (s : FastLane) (command : JsonMap) : FastLane :=
  { s with budgetEvents := s.budgetEvents ++ [(s.instant, commandQueueClass command)] }

/-- The loop of `process_fast_publications`. -/
def processFast (configured : String → Int) (capturedAt : ℚ) : FastLane → List BusAnswers → FastLane
  | s, [] => s
  | s, answers :: attempts =>
    match s.queue with
    | [] => s
    | command :: queue =>
      let s := { s with queue := queue }
      if commandDeadlineExpired command capturedAt then
        processFast configured capturedAt (s.resolve command (.expired capturedAt)) attempts
      else if budgetAvailable configured s.budgetEvents command then
        let s := s.recordAttempt command
        let x := s.registry.apply answers command
        let s := { s with registry := x.registry }
        match x.result with
        | .ok .applied => processFast configured capturedAt (s.resolve command .applied) attempts
        | .ok .dropped => processFast configured capturedAt (s.resolve command .dropped) attempts
        | .ok .deferred | .error _ => s.defer command
      else s.defer command

/-- A command of the mailbox lane: its attempt is recorded within its budget, and a publication is applied. -/
def mailboxAttempt (configured : String → Int) (s : FastLane) (work : JsonMap × BusAnswers) : FastLane :=
  if budgetAvailable configured s.budgetEvents work.1 then
    let s := s.recordAttempt work.1
    if isPublication (commandKind work.1) then
      { s with registry := (s.registry.apply work.2 work.1).registry }
    else s
  else s

/-- The start of a tick: the streams are handled, and old attempts are forgotten. -/
def opened (s : FastLane) (tick : FastTick) : FastLane :=
  let s := tick.arrivals.foldl enqueue s
  { s with
    instant := s.instant + tick.elapsed
    budgetEvents := pruneBudget s.budgetEvents (s.instant + tick.elapsed) }

/-- One tick. -/
def step (configured : String → Int) (s : FastLane) (tick : FastTick) : FastLane :=
  tick.mailbox.foldl (mailboxAttempt configured)
    (processFast configured tick.capturedAt (s.opened tick) tick.attempts)

/-- The registry applied or dropped the command. -/
def resolves : Except String PublicationOutcome → Bool
  | .ok .applied | .ok .dropped => true
  | .ok .deferred | .error _ => false

/-- The front publication has not expired, and either its class has no budget at all, or it is within its
budget and the registry defers it or fails. -/
def blocked (configured : String → Int) (s : FastLane) (tick : FastTick) : Bool :=
  match (s.opened tick).queue.head?, tick.attempts.head? with
  | some command, some answers =>
    !commandDeadlineExpired command tick.capturedAt &&
      (decide (budgetLimit configured (commandQueueClass command) = 0) ||
        (budgetAvailable configured (s.opened tick).budgetEvents command &&
          !resolves ((s.opened tick).registry.apply answers command).result))
  | _, _ => false

/-- The number of blocked ticks of a run. -/
def blockedTicks (configured : String → Int) : FastLane → List FastTick → Nat
  | _, [] => 0
  | s, tick :: ticks =>
    (if s.blocked configured tick then 1 else 0) + blockedTicks configured (s.step configured tick) ticks

end FastLane

end VenusEvcharger.NativeGateway
