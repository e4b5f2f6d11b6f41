import VenusEvcharger.Ipc.FastPublicationWork
import VenusEvcharger.Ipc.PublicationOrder
import Mathlib.Data.List.MinMax
import Mathlib.Data.Prod.Lex

/-!
# The queue of transient publications

`FastPublicationQueue` holds at most one publication per coalesce key and merges fields by order.
Fast fields are claimed in the order history when they are queued; durable publications ask the
history before they are applied and are confirmed afterwards.

Scope: every clock reading of an operation is a parameter, and the metrics are left out.
-/

namespace VenusEvcharger

open Library

/-- `FastPublicationEnqueueResult`. -/
structure FastPublicationEnqueueResult where
  accepted : Bool
  commandId : String
  reason : String

/-- The queue: one publication per key, and the order history of its fields. -/
structure FastPublicationQueue where
  capacity : Nat
  commands : Dict String FastPublicationWork
  history : PublicationOrderHistory
  capacity_pos : 1 ≤ capacity

/-- The clock readings of `enqueue`, in the order in which they are taken. -/
structure EnqueueClock where
  payloadEpoch : ℚ
  ttlEpoch : ℚ
  claimNow : ℚ
  claimStamp : ℚ
  workNow : ℚ
  workEpoch : ℚ

/-- Why a durable publication stays queued. -/
inductive PublicationOrderDeferred where
  | pendingFast
  | capacity
deriving DecidableEq

def fastPublicationRetrySeconds : ℚ := 1 / 4

def fastPublicationDeferredAgingSeconds : ℚ := 1

/-- `_durable_waits_for_fast`: a queued value is at least as new as a durable one. -/
def durableWaitsForFast (durableOrders : Dict String Nat) (queuedWork : Option FastPublicationWork) :
    Bool :=
  match queuedWork with
  | none => false
  | some work =>
    let fastOrders := publicationFieldOrders work.command
    durableOrders.entries.any fun entry =>
      match fastOrders.get? entry.1 with
      | some fastOrder => decide (entry.2 ≤ fastOrder)
      | none => false

/-- `_fast_work_priority`: urgency, fairness, then the earliest retry time. -/
def fastWorkPriority [PyLib] (work : FastPublicationWork) (now : ℚ) : ℕ ×ₗ ℕ ×ₗ ℚ :=
  let deferredAge := max 0 (now - work.retryAt)
  let fairnessRank :=
    if work.deferred && decide (fastPublicationDeferredAgingSeconds ≤ deferredAge) then 0
    else if work.deferred then 2
    else 1
  toLex (commandRank work.command, toLex (fairnessRank, work.retryAt))

namespace FastPublicationQueue

/-- The queue at process start. -/
def create [PyLib] (capacity : Int) (orderCapacity : Int) (orderRetentionSeconds : ℚ)
    (orderState : Option StateFiles) (now : ℚ) : FastPublicationQueue where
  capacity := (max 1 capacity).toNat
  commands := Dict.empty
  history := PublicationOrderHistory.create orderCapacity orderRetentionSeconds orderState now
  capacity_pos := capacity_pos_of_max capacity

/-- `_active_fields`. -/
def activeFields (q : FastPublicationQueue) : List PublicationFieldKey :=
  q.commands.entries.flatMap fun entry => entry.2.fieldExpiresAt.keys.map (entry.1, ·)

variable [PyLib]

/-- `_rejection_reason`. -/
def rejectionReason (command : CommandPayload) : String :=
  if !isTransientPublication command then "durable-command-required"
  else if commandKey command = "" then "missing-coalesce-key"
  else fastPublicationPayloadLimitReason command

/-- The metadata that a queued payload is stamped with. -/
def stampPayload (payload : CommandPayload) (key : String) (epoch : ℚ) : CommandPayload :=
  let created := (commandFloat (payload.get? "created_at")).orElse epoch
  ((payload.set "id" (.str (fastCommandId key))).set "created_at" (.float created)).set
    "queue_class" (.str "local-publish")

/-- `_queue_payload`. -/
def queuePayload (existing : Option FastPublicationWork) (command : CommandPayload) (key : String)
    (epoch : ℚ) : CommandPayload :=
  stampPayload (mergePublicationPayload (existing.map (·.command)) command none) key epoch

/-- `_merged_work`. -/
def mergedWork (existing : Option FastPublicationWork) (command : CommandPayload) (key : String)
    (acceptedFields : List String) (ttl now epoch : ℚ) : FastPublicationWork where
  command := stampPayload
    (mergePublicationPayload (existing.map (·.command)) command (some acceptedFields)) key epoch
  fieldExpiresAt :=
    acceptedFields.foldl (fun expiry field => expiry.set field (now + ttl))
      ((existing.map (·.fieldExpiresAt)).getD Dict.empty)
  retryAt := 0
  deferred := false

/-- A refused publication. -/
def rejected (reason : String) : FastPublicationEnqueueResult := ⟨false, "", reason⟩

/-- `_accept_claim`: the merged publication takes the last place. -/
def acceptClaim (q : FastPublicationQueue) (command : CommandPayload) (key : String)
    (claim : PublicationFieldClaim) (ttl : ℚ) (clock : EnqueueClock) :
    FastPublicationEnqueueResult × FastPublicationQueue :=
  let work := mergedWork (q.commands.get? key) command key claim.acceptedFields ttl clock.workNow
    clock.workEpoch
  (⟨true, fastCommandId key, ""⟩,
    { q with commands := (q.commands.set key work).moveToEnd key })

/-- `enqueue`. -/
def enqueue (q : FastPublicationQueue) (command : CommandPayload) (clock : EnqueueClock) :
    FastPublicationEnqueueResult × FastPublicationQueue :=
  let rejection := rejectionReason command
  if rejection ≠ "" then (rejected rejection, q)
  else
    let key := commandKey command
    let existing := q.commands.get? key
    let limitReason := fastPublicationPayloadLimitReason
      (queuePayload existing command key clock.payloadEpoch)
    let ttl := remainingTransientTtl command clock.ttlEpoch
    if limitReason ≠ "" then (rejected limitReason, q)
    else if existing = none ∧ q.capacity ≤ q.commands.length then (rejected "queue-full", q)
    else if ttl ≤ 0 then (rejected "expired", q)
    else
      let claimed := q.history.claimFast key (publicationFieldOrders command) q.activeFields
        clock.claimNow clock.claimStamp
      match claimed.1.state with
      | .superseded => (⟨true, fastCommandId key, "superseded"⟩, { q with history := claimed.2 })
      | .full => (rejected "order-history-full", { q with history := claimed.2 })
      | .accepted =>
        acceptClaim { q with history := claimed.2 } command key claimed.1 ttl clock

/-- `_release_fast_work`. -/
def releaseFastWork (q : FastPublicationQueue) (work : FastPublicationWork) : FastPublicationQueue :=
  { q with
    history := q.history.releaseFast (commandKey work.command)
      (publicationFieldOrders work.command) }

/-- `_prune_fast_work`: expired fields leave the queue and give up their claims. -/
def pruneFastWork (now : ℚ) (q : FastPublicationQueue) (entry : String × FastPublicationWork) :
    FastPublicationQueue :=
  match retainedFastWork entry.2 now with
  | none => releaseFastWork { q with commands := q.commands.erase entry.1 } entry.2
  | some retained =>
    if retained.fieldExpiresAt.length ≠ entry.2.fieldExpiresAt.length then
      let expired := (publicationFieldOrders entry.2.command).filter fun field _ =>
        entry.2.fieldExpiresAt.contains field && !retained.fieldExpiresAt.contains field
      { q with
        history := q.history.releaseFast entry.1 expired
        commands := q.commands.set entry.1 retained }
    else q

section

variable (q : FastPublicationQueue)

/-- `_prune_expired`. -/
def pruneExpired (now : ℚ) : FastPublicationQueue :=
  q.commands.entries.foldl (pruneFastWork now) q

/-- `FastPublicationOrdering.prepare_durable`. -/
def durableClaim (command : CommandPayload) (now : ℚ) :
    Except PublicationOrderDeferred PublicationFieldClaim :=
  let key := commandKey command
  let orders := publicationFieldOrders command
  if durableWaitsForFast orders (q.commands.get? key) then .error .pendingFast
  else
    let claim := q.history.claimDurable key orders q.activeFields now
    if claim.state = .full then .error .capacity else .ok claim

/-- `prepare_durable`: the fields of a durable publication that may be applied now. -/
def prepareDurable (command : CommandPayload) (pruneNow claimNow : ℚ) :
    Except PublicationOrderDeferred (Option CommandPayload) × FastPublicationQueue :=
  let pruned := q.pruneExpired pruneNow
  match pruned.durableClaim command claimNow with
  | .error reason => (.error reason, pruned)
  | .ok claim =>
    if claim.acceptedFields = [] then (.ok none, pruned)
    else (.ok (filterPublicationPayload command claim.acceptedFields), pruned)

/-- `_remove_fast_fields`. -/
def removeFastFields (key : String) (fields : List String) :
    FastPublicationQueue :=
  match q.commands.get? key with
  | none => q
  | some work =>
    match fastFieldSelection work fields with
    | none => q
    | some (_, remaining) =>
      match filterPublicationPayload work.command remaining with
      | none => { q with commands := q.commands.erase key }
      | some payload =>
        let expiry := work.fieldExpiresAt.filter fun field _ => decide (field ∈ remaining)
        let rest := { work with command := payload, fieldExpiresAt := expiry }
        { q with commands := q.commands.set key rest }

/-- `record_durable_outcome`. -/
def recordDurableOutcome (command : CommandPayload) (state : String)
    (now stamp : ℚ) : FastPublicationQueue :=
  if state ≠ "applied" then q
  else
    let key := commandKey command
    let orders := publicationFieldOrders command
    let confirmed := q.history.confirmDurableApplied key orders q.activeFields now stamp
    removeFastFields { q with history := confirmed.2 } key orders.keys

/-- `pop_next`: hand out the most urgent publication whose retry time has come. -/
def popNext (now : ℚ) : Option FastPublicationWork × FastPublicationQueue :=
  let pruned := q.pruneExpired now
  let eligible := pruned.commands.entries.filter fun entry => decide (entry.2.retryAt ≤ now)
  match eligible.argmin fun entry => fastWorkPriority entry.2 now with
  | none => (none, pruned)
  | some entry => (some entry.2, { pruned with commands := pruned.commands.erase entry.1 })

/-- `requeue`: what has not expired returns to the queue. -/
def requeue (work : FastPublicationWork) (deferred : Bool) (now : ℚ) :
    FastPublicationQueue :=
  match fastRequeueCandidate work now with
  | none => q.releaseFastWork work
  | some (key, retained) =>
    let retryAt := if deferred then now + fastPublicationRetrySeconds else now
    let merged := mergeFastWork retained (q.commands.get? key) retryAt deferred
    { q with commands := (q.commands.set key merged).moveToEnd key }

/-- `record_outcome`: an applied publication is confirmed, a dropped one gives up its claims. -/
def recordOutcome (work : FastPublicationWork) (state : String)
    (now : ℚ) : FastPublicationQueue :=
  if state = "applied" then
    let confirmed := q.history.confirmFastApplied (commandKey work.command)
      (publicationFieldOrders work.command) now
    { q with history := confirmed.2 }
  else if state = "dropped" then q.releaseFastWork work
  else q

end

end FastPublicationQueue

end VenusEvcharger
