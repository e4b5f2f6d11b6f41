import VenusEvcharger.Library.Run

/-!
# The broker thread of the native gateway

`OperationBroker` hands one D-Bus operation at a time to a worker thread and takes its result back, over two channels
with one place each. The owner and the worker interleave at the operations of the channels. `Accounted` says where every
accepted operation is, and `broker_single_flight` and `broker_completes` read off it what the runtime relies on.

Scope: an execution returns, as the calls of the client are bounded; its duration is left out. A step of a thread that is
blocked changes nothing. A worker that cannot connect ends: a request that it has not received stays counted as in
flight.
-/

namespace VenusEvcharger.NativeGateway

open Library

variable {Op Res : Type}

/-- `WorkerMessage`. -/
inductive WorkerMessage (Op : Type) where
  | execute (operation : Op)
  | stop

/-- `DbusResult`. -/
structure DbusResult (Op Res : Type) where
  operation : Op
  result : Res

/-- Where `worker_loop` is: it connects, waits for a message, executes, or sends a response. -/
inductive BrokerWorker (Op Res : Type) where
  | connecting
  | receiving
  | executing (operation : Op)
  | sending (response : DbusResult Op Res)
  | ended

/-- The response that the worker holds. -/
@[simp] def BrokerWorker.held : BrokerWorker Op Res → List (DbusResult Op Res)
  | .sending response => [response]
  | _ => []

/-- The operation that the worker executes. -/
@[simp] def BrokerWorker.current : BrokerWorker Op Res → List Op
  | .executing operation => [operation]
  | _ => []

/-- The operations that wait in the channel. -/
@[simp] def waiting (requests : List (WorkerMessage Op)) : List Op :=
  requests.filterMap fun message =>
    match message with
    | .execute operation => some operation
    | .stop => none

/-- `OperationBroker` with its channels, and with what was accepted, executed and delivered so far. -/
structure OperationBroker (Op Res : Type) where
  requests : List (WorkerMessage Op)
  responses : List (DbusResult Op Res)
  worker : BrokerWorker Op Res
  busy : Bool
  dropped : Bool
  accepted : List Op
  executed : List (DbusResult Op Res)
  delivered : List (DbusResult Op Res)

namespace OperationBroker

/-- `start`. -/
def start : OperationBroker Op Res := ⟨[], [], .connecting, false, false, [], [], []⟩

/-- `submit` with its answer. The receiver of the requests is gone with the worker. -/
def submit (b : OperationBroker Op Res) (operation : Op) : OperationBroker Op Res × Except String Bool :=
  if b.busy then (b, .ok false)
  else
    match b.worker, b.requests with
    | .ended, _ => (b, .error "D-Bus worker stopped")
    | _, _ :: _ => (b, .ok false)
    | _, [] =>
      ({ b with requests := [.execute operation], busy := true, accepted := b.accepted ++ [operation] }, .ok true)

/-- `poll` with its answer. -/
def poll (b : OperationBroker Op Res) : OperationBroker Op Res × Except String (Option (DbusResult Op Res)) :=
  match b.responses, b.worker with
  | response :: rest, _ =>
    ({ b with responses := rest, busy := false, delivered := b.delivered ++ [response] }, .ok (some response))
  | [], .ended => (b, .error "D-Bus worker stopped")
  | [], _ => (b, .ok none)

/-- The message that `drop` sends; it waits for a free place. -/
def sendStop (b : OperationBroker Op Res) : OperationBroker Op Res :=
  match b.worker, b.requests with
  | .ended, _ => { b with dropped := true }
  | _, [] => { b with requests := [.stop], dropped := true }
  | _, _ :: _ => b

/-- A step of one of the two threads. -/
inductive Event (Op Res : Type) where
  | submit (operation : Op)
  | poll
  | drop
  | connect (succeeds : Bool)
  | receive
  | execute (result : Res)
  | send

/-- One step. After `drop` the owner does nothing but wait for the worker. -/
def step (b : OperationBroker Op Res) : Event Op Res → OperationBroker Op Res
  | .submit operation => if b.dropped then b else (b.submit operation).1
  | .poll => if b.dropped then b else b.poll.1
  | .drop => if b.dropped then b else b.sendStop
  | .connect succeeds =>
    match b.worker with
    | .connecting => { b with worker := if succeeds then .receiving else .ended }
    | _ => b
  | .receive =>
    match b.worker, b.requests with
    | .receiving, .execute operation :: rest => { b with requests := rest, worker := .executing operation }
    | .receiving, .stop :: rest => { b with requests := rest, worker := .ended }
    | _, _ => b
  | .execute result =>
    match b.worker with
    | .executing operation =>
      { b with worker := .sending ⟨operation, result⟩, executed := b.executed ++ [⟨operation, result⟩] }
    | _ => b
  | .send =>
    match b.worker, b.responses with
    | .sending response, [] => { b with worker := .receiving, responses := [response] }
    | _, _ => b

/-- The operations that were accepted and whose results were not delivered, in the order of their acceptance. -/
def inFlight (b : OperationBroker Op Res) : List Op :=
  (b.responses ++ b.worker.held).map (·.operation) ++ b.worker.current ++ waiting b.requests

/-- Every accepted operation is delivered or at one place, and every execution is one of an accepted operation. -/
structure Accounted (b : OperationBroker Op Res) : Prop where
  accepted : b.accepted = b.delivered.map (·.operation) ++ b.inFlight
  executed : b.executed = b.delivered ++ b.responses ++ b.worker.held
  busy : b.inFlight.length = if b.busy then 1 else 0
  place : b.requests.length ≤ 1
  stops : .stop ∈ b.requests → b.dropped = true
  ends : b.dropped = true → b.worker = .ended ∨ .stop ∈ b.requests

theorem accounted_start : (start : OperationBroker Op Res).Accounted :=
  ⟨rfl, rfl, rfl, Nat.zero_le _, fun h => absurd h List.not_mem_nil, fun h => absurd h Bool.false_ne_true⟩

theorem Accounted.step {b : OperationBroker Op Res} (h : b.Accounted) (e : Event Op Res) : (b.step e).Accounted := by
  obtain ⟨haccepted, hexecuted, hbusy, hplace, hstops, hends⟩ := h
  have hsame : b.Accounted := ⟨haccepted, hexecuted, hbusy, hplace, hstops, hends⟩
  unfold inFlight at haccepted hbusy
  unfold OperationBroker.step
  cases e with
  | submit operation =>
    dsimp only [OperationBroker.submit]
    split_ifs with hdropped hfull
    · exact hsame
    · exact hsame
    · -- an idle broker has nothing in flight
      rw [if_neg hfull, List.length_eq_zero_iff] at hbusy
      split
      · exact hsame
      · exact hsame
      · constructor <;> simp_all [inFlight]
  | poll =>
    dsimp only [OperationBroker.poll]
    split_ifs with hdropped
    · exact hsame
    · split
      · -- a response is all that is in flight
        split at hbusy <;> constructor <;> simp_all [inFlight]
      · exact hsame
      · exact hsame
  | drop =>
    dsimp only [OperationBroker.sendStop]
    split_ifs with hdropped
    · exact hsame
    · split
      · constructor <;> simp_all [inFlight]
      · constructor <;> simp_all [inFlight]
      · exact hsame
  | connect succeeds =>
    dsimp only
    split
    · cases succeeds <;> constructor <;> simp_all [inFlight]
    · exact hsame
  | receive =>
    dsimp only
    split
    · constructor <;> simp_all [inFlight]
    · constructor <;> simp_all [inFlight]
    · exact hsame
  | execute result =>
    dsimp only
    split
    · constructor <;> simp_all [inFlight]
    · exact hsame
  | send =>
    dsimp only
    split
    · constructor <;> simp_all [inFlight]
    · exact hsame

theorem Accounted.one {b : OperationBroker Op Res} (h : b.Accounted) : b.inFlight.length ≤ 1 := by
  have hbusy := h.busy
  split at hbusy <;> omega

theorem accounted_run (es : List (Event Op Res)) : (run step start es).Accounted :=
  run_invariant (fun _ e h => h.step e) accounted_start es

/-- At most one operation is in flight, and this is when the broker is busy. The results come in the order in which the
operations were accepted, one for each and each from its execution, and no operation is executed twice. The worker never
waits to send a response, and a request of an idle broker always finds a free place. -/
theorem broker_single_flight (es : List (Event Op Res)) :
    let b := run step start es
    (b.accepted = b.delivered.map (·.operation) ++ b.inFlight ∧ b.inFlight.length ≤ 1 ∧
        (b.busy = true ↔ b.inFlight ≠ [])) ∧
      (b.executed.map (·.operation) <+: b.accepted ∧ b.delivered <+: b.executed) ∧
      (∀ response, b.worker = .sending response → b.responses = []) ∧
      (b.busy = false → b.dropped = false → b.requests = []) := by
  intro b
  have h : b.Accounted := accounted_run es
  have hbusy := h.busy
  have hone := h.one
  refine ⟨⟨h.accepted, hone, ?_⟩, ⟨?_, ?_⟩, fun response hworker => ?_, fun hidle hdropped => ?_⟩
  · rw [← List.length_pos_iff]
    split at hbusy <;> simp_all
  · rw [h.executed, h.accepted, inFlight, List.append_assoc, List.map_append, List.append_assoc]
    exact (List.prefix_append_right_inj _).mpr (List.prefix_append _ _)
  · rw [h.executed, List.append_assoc]
    exact List.prefix_append _ _
  · simp only [inFlight, hworker, BrokerWorker.held, List.length_append, List.length_map, List.length_singleton] at hone
    exact List.length_eq_zero_iff.mp (by omega)
  · rw [hidle, if_neg Bool.false_ne_true, List.length_eq_zero_iff] at hbusy
    cases hrequests : b.requests with
    | nil => rfl
    | cons message rest =>
      cases message with
      | execute operation =>
        simp only [inFlight, hrequests, waiting, List.append_eq_nil_iff] at hbusy
        exact absurd hbusy.2 (List.cons_ne_nil _ _)
      | stop =>
        exact absurd (h.stops (hrequests ▸ List.mem_cons_self)) (hdropped ▸ Bool.false_ne_true)

/-- The steps that the worker can take from wherever it is until it waits again. -/
def turn (succeeds : Bool) (result : Res) : List (Event Op Res) :=
  [.connect succeeds, .receive, .execute result, .send]

/-- A worker that connects brings every accepted operation to its end: after its turn the owner polls the result. And
`drop` ends the worker wherever it is, whether it can connect or not. -/
theorem broker_completes (es : List (Event Op Res)) (result : Res) :
    let b := run step start es
    (b.busy = true → b.dropped = false → b.worker ≠ .ended →
        ∃ response, (run step b (turn true result)).poll.2 = .ok (some response) ∧
          b.inFlight = [response.operation]) ∧
      ∀ succeeds, (run step b (turn succeeds result ++ [.drop] ++ turn succeeds result)).worker = .ended := by
  intro b
  have h : b.Accounted := accounted_run es
  have hone := h.one
  revert h hone
  generalize b = b
  rintro ⟨-, -, hbusy, hplace, hstops, hends⟩ hone
  obtain ⟨requests, responses, worker, busy, dropped, accepted, executed, delivered⟩ := b
  simp only [inFlight] at *
  constructor
  · rintro rfl rfl hworker
    cases requests with
    | nil =>
      cases responses <;> cases worker <;> simp_all [turn, OperationBroker.step, OperationBroker.poll]
    | cons message rest =>
      cases message <;> cases responses <;> cases worker <;> simp_all [turn, OperationBroker.step, OperationBroker.poll]
  · intro succeeds
    cases requests with
    | nil =>
      cases dropped <;> cases responses <;> cases worker <;> cases succeeds <;>
        simp_all [turn, OperationBroker.step, OperationBroker.sendStop]
    | cons message rest =>
      cases message <;> cases dropped <;> cases responses <;> cases worker <;> cases succeeds <;>
        simp_all [turn, OperationBroker.step, OperationBroker.sendStop]

end OperationBroker

end VenusEvcharger.NativeGateway
