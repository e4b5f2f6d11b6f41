import VenusEvcharger.Python.Value
import VenusEvcharger.Library.Run
import Mathlib.Data.Rat.Floor

/-!
# The asynchronous operation broker

`DbusAsyncOperationBroker` runs one external method call at a time. It calls back into foreign code
at a few places: the starter of an operation, its two continuations, the failure handler, and the
`cancel` method of a pending call. Foreign code may use the broker again before it returns, so a
run is a sequence of single moves of foreign code, and the stack holds the calls it has not
returned from.

Scope: single-threaded, as under the GLib loop. Clock readings are parameters, and what foreign code
raises is an `Exception`. The circuit breaker and the rate limiter neither raise anything else nor
use the broker; log lines and the health snapshot are left out.
-/

namespace VenusEvcharger

open Library

/-- What an error continuation is given. -/
inductive DbusError where
  | asyncTimeout (text : String)
  | raised (text : String)
deriving DecidableEq

/-- `str(error)`. -/
def DbusError.text : DbusError → String
  | .asyncTimeout text => text
  | .raised text => text

/-- The object that a starter returns, with or without a `cancel` method. -/
structure PendingCall where
  cancellable : Bool
deriving DecidableEq

/-- `DbusAsyncOperation`. The continuations are known by the identifier of the operation, and a
failure handler is given or not. -/
structure DbusAsyncOperation where
  rateKind : String
  metricKind : String
  source : String
  timeoutSeconds : ℚ
  hasCallbackFailure : Bool
  optionalFailure : Bool
  timeout_pos : 0 < timeoutSeconds
deriving DecidableEq

/-- `_InFlightOperation`. -/
structure InFlightOperation where
  operationId : Nat
  operation : DbusAsyncOperation
  startedAt : ℚ
  deadline : ℚ
  pendingCall : Option PendingCall
deriving DecidableEq

/-- The fields of `DbusAsyncOperationBroker`. -/
structure DbusAsyncOperationBroker where
  nextOperationId : Nat
  inFlight : Option InFlightOperation
  submitted : Nat
  completed : Nat
  failed : Nat
  timedOut : Nat
  cancelled : Nat
  busyRejections : Nat
  lateReplies : Nat
  callbackErrors : Nat
  lastCompletedAt : ℚ
  lastError : String
deriving DecidableEq

/-- The calls that the broker makes on the circuit breaker. -/
inductive CircuitRecord where
  | success (latencyMs : ℚ) (kind source : String)
  | error (error : DbusError) (kind source : String) (latencyMs : ℚ)
  | optionalSourceFailure (error : DbusError) (source : String) (latencyMs : ℚ)
deriving DecidableEq

/-- The continuations of an operation. -/
inductive BrokerCallback where
  | onSuccess (value : Value)
  | onError (error : DbusError)
  | onCallbackFailure (error : DbusError)
deriving DecidableEq

/-- A call into foreign code, with what the broker needs once it returns. -/
inductive BrokerFrame where
  | starter (operationId : Nat)
  | cancelTimedOut (current : InFlightOperation) (completedAt : ℚ)
  | cancelCurrent (current : InFlightOperation) (reason : String)
  | onSuccess (operationId : Nat) (operation : DbusAsyncOperation)
  | onError
  | onCallbackFailure
deriving DecidableEq

/-- The broker between two moves of foreign code: the open calls, and the history of circuit
records, continuations and cancelled operations. -/
structure BrokerRun where
  broker : DbusAsyncOperationBroker
  stack : List BrokerFrame
  circuit : List CircuitRecord
  callbacks : List (Nat × BrokerCallback)
  cancelledIds : List Nat
deriving DecidableEq

/-- `f"{seconds:.3f}"` for a positive number, rounded half to even. -/
def secondsText (seconds : ℚ) : String :=
  let floor := ⌊seconds * 1000⌋
  let rest := seconds * 1000 - floor
  let scaled := if rest < 1 / 2 ∨ (rest = 1 / 2 ∧ floor % 2 = 0) then floor else floor + 1
  let digits := toString (1000 + scaled % 1000)
  toString (scaled / 1000) ++ "." ++ (digits.drop 1).toString

namespace BrokerRun

/-- `__init__`. -/
def initial : BrokerRun where
  broker :=
    { nextOperationId := 1
      inFlight := none
      submitted := 0
      completed := 0
      failed := 0
      timedOut := 0
      cancelled := 0
      busyRejections := 0
      lateReplies := 0
      callbackErrors := 0
      lastCompletedAt := 0
      lastError := "" }
  stack := []
  circuit := []
  callbacks := []
  cancelledIds := []

/-! ## Completion -/

/-- `_invoke_success`, up to the continuation. -/
def invokeSuccess (s : BrokerRun) (current : InFlightOperation) (value : Value) : BrokerRun :=
  { s with
    stack := .onSuccess current.operationId current.operation :: s.stack
    callbacks := s.callbacks ++ [(current.operationId, .onSuccess value)] }

/-- `_invoke_error`, up to the continuation. -/
def invokeError (s : BrokerRun) (current : InFlightOperation) (error : DbusError) : BrokerRun :=
  { s with
    stack := .onError :: s.stack
    callbacks := s.callbacks ++ [(current.operationId, .onError error)] }

def latencyMs (current : InFlightOperation) (finishedAt : ℚ) : ℚ :=
  max 0 (finishedAt - current.startedAt) * 1000

/-- `_record_error`. -/
def recordError (s : BrokerRun) (current : InFlightOperation) (error : DbusError) (completedAt : ℚ) :
    BrokerRun :=
  let record :=
    if current.operation.optionalFailure then
      CircuitRecord.optionalSourceFailure error current.operation.source
        (latencyMs current completedAt)
    else
      CircuitRecord.error error current.operation.metricKind current.operation.source
        (latencyMs current completedAt)
  invokeError
    { s with
      broker :=
        { s.broker with
          failed := s.broker.failed + 1
          lastCompletedAt := completedAt
          lastError := error.text }
      circuit := s.circuit ++ [record] }
    current error

/-- The error that `_record_timeout` reports. -/
def timeoutError (current : InFlightOperation) : DbusError :=
  .asyncTimeout ("DBus " ++ current.operation.metricKind ++ " operation timed out after " ++
    secondsText current.operation.timeoutSeconds ++ "s")

/-- `callable(getattr(pending_call, "cancel", None))`. -/
def cancellable (current : InFlightOperation) : Bool :=
  match current.pendingCall with
  | some pending => pending.cancellable
  | none => false

section

variable (s : BrokerRun)

/-- `_record_timeout`, up to the `cancel` method of the pending call when it has one. -/
def recordTimeout (current : InFlightOperation) (completedAt : ℚ) : BrokerRun :=
  let counted := { s with
    broker :=
      { s.broker with
        timedOut := s.broker.timedOut + 1 } }
  if cancellable current then
    { counted with
      stack := .cancelTimedOut current completedAt :: counted.stack }
  else recordError counted current (timeoutError current) completedAt

/-- The slot is given up. -/
def releaseSlot : BrokerRun :=
  { s with
    broker :=
      { s.broker with
        inFlight := none } }

/-- A reply without its operation is counted. -/
def lateReply : BrokerRun :=
  { s with
    broker :=
      { s.broker with
        lateReplies := s.broker.lateReplies + 1 } }

/-- `_is_current`. -/
def isCurrent (operationId : Nat) : Bool :=
  match s.broker.inFlight with
  | some current => decide (current.operationId = operationId)
  | none => false

/-- `_take_current`. -/
def takeCurrent (operationId : Nat) : Option InFlightOperation × BrokerRun :=
  match s.broker.inFlight with
  | some current =>
    if current.operationId = operationId then (some current, s.releaseSlot) else (none, s.lateReply)
  | none => (none, s.lateReply)

/-- `_finish_success`. -/
def finishSuccess (operationId : Nat) (value : Value) (finishedAt : ℚ) : BrokerRun :=
  match s.takeCurrent operationId with
  | (none, s) => s
  | (some current, s) =>
    if current.deadline ≤ finishedAt then s.recordTimeout current finishedAt
    else
      invokeSuccess
        { s with
          broker :=
            { s.broker with
              completed := s.broker.completed + 1
              lastCompletedAt := finishedAt
              lastError := "" }
          circuit := s.circuit ++ [.success (latencyMs current finishedAt)
            current.operation.metricKind current.operation.source] }
        current value

/-- `_finish_error`. -/
def finishError (operationId : Nat) (error : DbusError) (completedAt : ℚ) :
    BrokerRun :=
  match s.takeCurrent operationId with
  | (none, s) => s
  | (some current, s) =>
    if current.deadline ≤ completedAt then s.recordTimeout current completedAt
    else s.recordError current error completedAt

/-! ## The public operations -/

/-- `submit`, up to the starter. It raises `DbusOperationDeferred` when the slot is taken or the
rate limiter does not admit the operation. -/
def submit (operation : DbusAsyncOperation) (due : Bool) (startedAt : ℚ) :
    Except String Nat × BrokerRun :=
  match s.broker.inFlight with
  | some _ =>
    (.error "async-broker-busy",
      { s with
        broker :=
          { s.broker with
            busyRejections := s.broker.busyRejections + 1 } })
  | none =>
    if !due then (.error operation.rateKind, s)
    else
      let operationId := s.broker.nextOperationId
      let current : InFlightOperation :=
        { operationId := operationId
          operation := operation
          startedAt := startedAt
          deadline := startedAt + operation.timeoutSeconds
          pendingCall := none }
      (.ok operationId,
        { s with
          broker :=
            { s.broker with
              nextOperationId := operationId + 1
              inFlight := some current
              submitted := s.broker.submitted + 1 }
          stack := .starter operationId :: s.stack })

/-- `expire_due`. -/
def expireDue (now : ℚ) : Bool × BrokerRun :=
  match s.broker.inFlight with
  | none => (false, s)
  | some current =>
    if now < current.deadline then (false, s) else (true, s.releaseSlot.recordTimeout current now)

/-- The end of `cancel_current`, after the pending call was cancelled. -/
def recordCancelled (current : InFlightOperation) (reason : String)
    (completedAt : ℚ) : BrokerRun :=
  { s with
    broker :=
      { s.broker with
        cancelled := s.broker.cancelled + 1
        lastCompletedAt := completedAt
        lastError := reason }
    cancelledIds := s.cancelledIds ++ [current.operationId] }

/-- `cancel_current`, up to the `cancel` method of the pending call when it has one. -/
def cancelCurrent (reason : String) (now : ℚ) : Bool × BrokerRun :=
  match s.broker.inFlight with
  | none => (false, s)
  | some current =>
    if cancellable current then
      (true,
        { s.releaseSlot with
          stack := .cancelCurrent current reason :: s.stack })
    else (true, s.releaseSlot.recordCancelled current reason now)

/-! ## Return from foreign code -/

/-- The starter of an operation returned its pending call. -/
def storePendingCall (operationId : Nat) (pendingCall : Option PendingCall) :
    BrokerRun :=
  if s.isCurrent operationId then
    { s with
      broker :=
        { s.broker with
          inFlight := s.broker.inFlight.map fun current =>
            { current with pendingCall := pendingCall } } }
  else s

/-- A continuation raised. -/
def callbackError : BrokerRun :=
  { s with
    broker :=
      { s.broker with
        callbackErrors := s.broker.callbackErrors + 1 } }

/-- `_invoke_callback_failure`, up to the handler. -/
def invokeCallbackFailure (operationId : Nat) (operation : DbusAsyncOperation)
    (error : DbusError) : BrokerRun :=
  if operation.hasCallbackFailure then
    { s with
      stack := .onCallbackFailure :: s.stack
      callbacks := s.callbacks ++ [(operationId, .onCallbackFailure error)] }
  else s

/-- The innermost call returns, a starter with its pending call. -/
def returned (pendingCall : Option PendingCall) (now : ℚ) : BrokerRun :=
  match s.stack with
  | [] => s
  | frame :: stack =>
    let s := { s with stack := stack }
    match frame with
    | .starter operationId => s.storePendingCall operationId pendingCall
    | .cancelTimedOut current completedAt =>
      s.recordError current (timeoutError current) completedAt
    | .cancelCurrent current reason => s.recordCancelled current reason now
    | .onSuccess _ _ | .onError | .onCallbackFailure => s

/-- The innermost call raises. An error of a `cancel` method is swallowed. -/
def raised (error : DbusError) (now : ℚ) : BrokerRun :=
  match s.stack with
  | [] => s
  | frame :: stack =>
    let s := { s with stack := stack }
    match frame with
    | .starter operationId => s.finishError operationId error now
    | .cancelTimedOut current completedAt =>
      s.recordError current (timeoutError current) completedAt
    | .cancelCurrent current reason => s.recordCancelled current reason now
    | .onSuccess operationId operation =>
      s.callbackError.invokeCallbackFailure operationId operation error
    | .onError | .onCallbackFailure => s.callbackError

end

/-- One move of foreign code: a use of the broker, a reply handler, or the end of a call. -/
inductive Event where
  | submit (operation : DbusAsyncOperation) (due : Bool) (now : ℚ)
  | replySuccess (operationId : Nat) (value : Value) (now : ℚ)
  | replyError (operationId : Nat) (error : DbusError) (now : ℚ)
  | expireDue (now : ℚ)
  | cancelCurrent (reason : String) (now : ℚ)
  | returned (pendingCall : Option PendingCall) (now : ℚ)
  | raised (error : DbusError) (now : ℚ)
deriving DecidableEq

def step (s : BrokerRun) : Event → BrokerRun
  | .submit operation due now => (s.submit operation due now).2
  | .replySuccess operationId value now => s.finishSuccess operationId value now
  | .replyError operationId error now => s.finishError operationId error now
  | .expireDue now => (s.expireDue now).2
  | .cancelCurrent reason now => (s.cancelCurrent reason now).2
  | .returned pendingCall now => s.returned pendingCall now
  | .raised error now => s.raised error now

end BrokerRun

end VenusEvcharger
