import VenusEvcharger.Ipc.FastPublicationLimits
import VenusEvcharger.Ipc.FastPublicationRuns
import VenusEvcharger.Ipc.PublicationHighWater

/-!
# What the fast publication queue holds

`Represented` is what a reader of the queue relies on: its depth, its keys, its expiries, the limits of its
payloads, and a mark behind every ordered field. In `QueueRun` the operations come in any order, and a
publication that was handed out may come back any number of times. `enqueue` checks all of `Represented`;
`Permits` says what a step must bring along where the queue checks less.
-/

namespace VenusEvcharger

open Library

/-- The queue and every publication that it ever handed out. -/
structure QueueRun where
  queue : FastPublicationQueue
  handedOut : List FastPublicationWork

namespace FastPublicationQueue

variable [PyLib]

/-- What the queue holds: no more keys than its capacity, each publication under its key, with an expiry for
each of its fields, within the limits, and with a mark for each field of positive order. -/
structure Represented (q : FastPublicationQueue) : Prop where
  depth : q.commands.length ≤ q.capacity
  keyed : ∀ key work, q.commands.get? key = some work → commandKey work.command = key
  expiring : ∀ key work, q.commands.get? key = some work →
    ∀ field, field ∈ work.fieldExpiresAt.keys ↔ field ∈ (publicationFields work.command).keys
  limited : ∀ key work, q.commands.get? key = some work → WithinLimits work.command
  marked : ∀ key work, q.commands.get? key = some work → ∀ field order,
    (publicationFieldOrders work.command).get? field = some order → 0 < order →
      ∃ mark, q.history.marks.get? (key, field) = some mark ∧ order ≤ mark.order

/-- Whether `enqueue` accepts a command and merges it. -/
def Admits (q : FastPublicationQueue) (command : CommandPayload) (clock : EnqueueClock) : Prop :=
  rejectionReason command = "" ∧
    fastPublicationPayloadLimitReason (queuePayload (q.commands.get? (commandKey command)) command
      (commandKey command) clock.payloadEpoch) = "" ∧
    ¬ (q.commands.get? (commandKey command) = none ∧ q.capacity ≤ q.commands.length) ∧
    0 < remainingTransientTtl command clock.ttlEpoch ∧
    (q.enqueueClaim command clock).1.state = .accepted

/-- Giving up the claims of a publication gives up no mark of a queued field. -/
def ReleasesNoQueued (q : FastPublicationQueue) (work : FastPublicationWork) : Prop :=
  ∀ field order, q.queuedOrder (commandKey work.command, field) = some order → 0 < order →
    fastMarkMatches (q.history.marks.get? (commandKey work.command, field))
      ((publishedOrder work.command field).getD 0) = false

/-- What was queued for the key of a command. -/
def queuedCommand (q : FastPublicationQueue) (key : String) : Option CommandPayload :=
  (q.commands.get? key).map (·.command)

/-- The stamp that `enqueue` stores is not longer than the one it checked. -/
def StampFits (q : FastPublicationQueue) (command : CommandPayload) (clock : EnqueueClock) : Prop :=
  let created := commandFloat
    ((((q.queuedCommand (commandKey command)).getD Dict.empty).update command).get? "created_at")
  jsonSize (.float (created.orElse clock.workEpoch)) ≤ jsonSize (.float (created.orElse clock.payloadEpoch))

/-- What lets a publication come back to its key: a free place, or a merge with the queued publication that is
within the limits and ranks no unordered field; and the marks of its ordered fields. -/
def TakesBack (q : FastPublicationQueue) (key : String) (retained : FastPublicationWork) : Prop :=
  (match q.commands.get? key with
    | none => q.commands.length < q.capacity
    | some queued => WithinLimits (mergePublicationPayload (some retained.command) queued.command none) ∧
        KeepsOrders (some retained.command) queued.command none) ∧
    ∀ field order, publishedOrder retained.command field = some order →
      order ≤ q.history.highWater (key, field)

end FastPublicationQueue

namespace QueueRun

variable [PyLib]

/-- A new queue. -/
def start (capacity orderCapacity : Int) (orderRetentionSeconds : ℚ) (orderState : Option StateFiles)
    (now : ℚ) : QueueRun :=
  ⟨.create capacity orderCapacity orderRetentionSeconds orderState now, []⟩

/-- One operation, on any publication that was handed out and any durable command. -/
def step (s : QueueRun) : FastEvent → QueueRun
  | .enqueue command clock => { s with queue := (s.queue.enqueue command clock).2 }
  | .popNext now =>
    let popped := s.queue.popNext now
    ⟨popped.2, popped.1.toList ++ s.handedOut⟩
  | .requeue work deferred now =>
    if work ∈ s.handedOut then { s with queue := s.queue.requeue work deferred now } else s
  | .recordOutcome work state now =>
    if work ∈ s.handedOut then { s with queue := s.queue.recordOutcome work state now } else s
  | .pruneExpired now => { s with queue := s.queue.pruneExpired now }
  | .prepareDurable command pruneNow claimNow =>
    { s with queue := (s.queue.prepareDurable command pruneNow claimNow).2 }
  | .recordDurableOutcome command state now stamp =>
    { s with queue := s.queue.recordDurableOutcome command state now stamp }

/-- What a step must bring along. -/
def Permits (s : QueueRun) : FastEvent → Prop
  | .enqueue command clock => s.queue.Admits command clock →
      let accepted := (s.queue.enqueueClaim command clock).1.acceptedFields
      let existing := s.queue.queuedCommand (commandKey command)
      s.queue.StampFits command clock ∧ HidesNothingLonger existing command accepted ∧
        KeepsOrders existing command (some accepted)
  | .requeue work _ now => work ∈ s.handedOut →
      match fastRequeueCandidate work now with
      | none => s.queue.ReleasesNoQueued work
      | some (key, retained) => s.queue.TakesBack key retained
  | .recordOutcome work state _ => work ∈ s.handedOut → state = "dropped" → s.queue.ReleasesNoQueued work
  | _ => True

end QueueRun

/-! ## What is held -/

section

variable [PyLib]

/-- A publication as the queue stores and hands it out. -/
structure FastPublicationWork.Held (work : FastPublicationWork) (key : String) : Prop where
  wellFormed : work.WellFormed key
  settled : Settled work.command
  limited : WithinLimits work.command

theorem FastPublicationWork.Held.filter {work left : FastPublicationWork} {key : String} (hwork : work.Held key)
    {fields : List String} (hfilter : filterPublicationPayload work.command fields = some left.command)
    (hleft : left.WellFormed key) : left.Held key where
  wellFormed := hleft
  settled := settled_filter hfilter
  limited := withinLimits_filter hwork.settled hwork.limited hfilter

theorem FastPublicationWork.Held.retained {work retained : FastPublicationWork} {key : String} {now : ℚ}
    (hwork : work.Held key) (hretained : retainedFastWork work now = some retained) : retained.Held key := by
  have hleft := wellFormed_retained hwork.wellFormed hretained
  simp only [retainedFastWork, Option.map_eq_some_iff] at hretained
  obtain ⟨payload, hpayload, rfl⟩ := hretained
  exact hwork.filter hpayload hleft

namespace FastPublicationQueue

/-- The queue between two operations. -/
structure Sound (q : FastPublicationQueue) : Prop where
  depth : q.commands.length ≤ q.capacity
  held : ∀ key work, q.commands.get? key = some work → work.Held key
  marked : ∀ fieldKey order, q.queuedOrder fieldKey = some order → order ≤ q.history.highWater fieldKey

variable {q : FastPublicationQueue}

theorem Sound.wellFormed (hq : q.Sound) : q.WellFormed :=
  fun key work hwork => (hq.held key work hwork).wellFormed

/-- A sound queue holds what it should. -/
theorem Sound.represented (hq : q.Sound) : q.Represented where
  depth := hq.depth
  keyed := fun key work hwork => (hq.held key work hwork).wellFormed.key_eq
  expiring := by
    intro key work hwork field
    have hexpiry := (hq.held key work hwork).wellFormed.expiry_iff field
    rw [← Dict.contains_iff, ← Dict.contains_iff, contains_publicationFields, Dict.contains, hexpiry,
      FastPublicationWork.order?]
  limited := fun key work hwork => (hq.held key work hwork).limited
  marked := by
    intro key work hwork field order horder hpos
    rw [get?_publicationFieldOrders] at horder
    have hqueued : q.queuedOrder (key, field) = some order := by
      rw [queuedOrder, hwork]
      exact horder
    have hle := hq.marked (key, field) order hqueued
    unfold PublicationOrderHistory.highWater at hle
    cases hmark : q.history.marks.get? (key, field) with
    | none =>
      rw [hmark, markOrder_none] at hle
      omega
    | some mark =>
      rw [hmark, markOrder_some] at hle
      exact ⟨mark, rfl, hle⟩

/-- Fewer publications, each held, under the same marks. -/
theorem Sound.of_subset (hq : q.Sound) {other : FastPublicationQueue} (hcapacity : other.capacity = q.capacity)
    (hkeys : ∀ key, other.commands.get? key ≠ none → q.commands.get? key ≠ none)
    (hheld : ∀ key work, other.commands.get? key = some work → work.Held key)
    (hmarked : ∀ fieldKey order, other.queuedOrder fieldKey = some order →
      order ≤ other.history.highWater fieldKey) : other.Sound where
  depth := hcapacity ▸ (Dict.length_le_of_get? hkeys).trans hq.depth
  held := hheld
  marked := hmarked

/-- One publication more or in place of another. -/
theorem Sound.set (hq : q.Sound) {key : String} {work : FastPublicationWork} (hwork : work.Held key)
    (hroom : q.commands.get? key = none → q.commands.length < q.capacity) {history : PublicationOrderHistory}
    (hothers : ∀ fieldKey order, fieldKey.1 ≠ key → q.queuedOrder fieldKey = some order →
      order ≤ history.highWater fieldKey)
    (hown : ∀ field order, work.order? field = some order → order ≤ history.highWater (key, field)) :
    Sound { q with history := history, commands := (q.commands.set key work).moveToEnd key } where
  depth := by
    show ((q.commands.set key work).moveToEnd key).length ≤ q.capacity
    rw [Dict.length_moveToEnd]
    cases hqueued : q.commands.get? key with
    | some queued =>
      refine (Dict.length_le_of_get? fun other hsome => ?_).trans hq.depth
      rw [Dict.get?_set] at hsome
      split_ifs at hsome with hother
      · rw [hother, hqueued]
        exact Option.some_ne_none queued
      · exact hsome
    | none =>
      have hlt := hroom hqueued
      have hlength : (q.commands.set key work).length ≤ (key :: q.commands.keys).length := by
        refine Dict.length_le_of_keys fun other hsome => ?_
        rw [Dict.get?_set] at hsome
        split_ifs at hsome with hother
        · exact hother ▸ List.mem_cons_self
        · obtain ⟨queued, hother⟩ := Option.ne_none_iff_exists'.mp hsome
          exact List.mem_cons_of_mem _ (Dict.mem_keys_iff.mpr ⟨queued, hother⟩)
      rw [List.length_cons, ← Dict.length_eq_keys] at hlength
      omega
  held := by
    intro other queued hqueued
    rw [Dict.get?_moveToEnd, Dict.get?_set] at hqueued
    split_ifs at hqueued with hother
    · obtain rfl := Option.some.inj hqueued
      exact hother ▸ hwork
    · exact hq.held other queued hqueued
  marked := by
    intro fieldKey order horder
    have hafter := queuedOrder_set q.commands key work fieldKey
    have hqueued : (if fieldKey.1 = key then work.order? fieldKey.2 else q.queuedOrder fieldKey) = some order :=
      hafter.symm.trans horder
    split_ifs at hqueued with hkey
    · obtain ⟨k, field⟩ := fieldKey
      obtain rfl : k = key := hkey
      exact hown field order hqueued
    · exact hothers fieldKey order hkey hqueued

/-! ## Expiry -/

@[simp] theorem pruneExpired_capacity (q : FastPublicationQueue) (now : ℚ) :
    (q.pruneExpired now).capacity = q.capacity := by
  have hpass : ∀ (s : FastPublicationQueue) entry, (pruneFastWork now s entry).capacity = s.capacity := by
    intro s entry
    rw [pruneFastWork]
    split
    · rfl
    · split_ifs <;> rfl
  rw [pruneExpired]
  generalize q.commands.entries = entries
  induction entries generalizing q with
  | nil => rfl
  | cons entry entries ih => rw [List.foldl_cons, ih, hpass]

theorem Sound.pruneExpired (hq : q.Sound) (now : ℚ) : (q.pruneExpired now).Sound := by
  have hview : ∀ key, (q.pruneExpired now).commands.get? key =
      (q.commands.get? key).bind (prunedWork now) := by
    intro key
    have hkey := congrArg Prod.fst (keyView_pruneExpired hq.wellFormed now key)
    rw [show (q.pruneExpired now).commands.get? key = _ from hkey]
    cases hwork : q.commands.get? key with
    | none => exact hwork
    | some work => rfl
  refine hq.of_subset (pruneExpired_capacity q now) ?_ ?_ ?_
  · intro key hsome hnone
    rw [hview, hnone] at hsome
    exact hsome rfl
  · intro key left hleft
    rw [hview] at hleft
    obtain ⟨work, hwork, hpruned⟩ := Option.bind_eq_some_iff.mp hleft
    have hheld := hq.held key work hwork
    unfold prunedWork at hpruned
    split at hpruned
    · nomatch hpruned
    · rename_i retained hretained
      split_ifs at hpruned
      · obtain rfl := Option.some.inj hpruned
        exact hheld.retained hretained
      · obtain rfl := Option.some.inj hpruned
        exact hheld
  · intro fieldKey order horder
    rw [queuedOrder_pruneExpired hq.wellFormed] at horder
    split_ifs at horder with hexpired
    rw [highWater_pruneExpired hq.wellFormed, if_neg fun h => hexpired h.1]
    exact hq.marked fieldKey order horder

theorem Sound.popNext (hq : q.Sound) (now : ℚ) : (q.popNext now).2.Sound ∧
    ∀ work, (q.popNext now).1 = some work → work.Held (commandKey work.command) := by
  have hpruned := hq.pruneExpired now
  rcases popNext_cases q now with hnone | ⟨key, work, hwork, hsome⟩
  · rw [hnone]
    refine ⟨hpruned, fun _ hwork => ?_⟩
    cases hwork
  · rw [hsome]
    have herased : ∀ other, ((q.pruneExpired now).commands.erase key).get? other =
        if other = key then none else (q.pruneExpired now).commands.get? other :=
      Dict.get?_erase _ key
    refine ⟨hpruned.of_subset rfl ?_ ?_ ?_, fun lease hlease => ?_⟩
    · intro other hother
      rw [herased] at hother
      split_ifs at hother
      · exact absurd rfl hother
      · exact hother
    · intro other left hleft
      rw [herased] at hleft
      split_ifs at hleft
      exact hpruned.held other left hleft
    · intro fieldKey order horder
      rw [queuedOrder, herased] at horder
      split_ifs at horder
      · cases horder
      · exact hpruned.marked fieldKey order horder
    · obtain rfl := Option.some.inj hlease
      have hheld := hpruned.held key work hwork
      rwa [hheld.wellFormed.key_eq]

/-! ## Marks -/

theorem mem_activeFields (hwf : q.WellFormed) {fieldKey : PublicationFieldKey} {order : Nat}
    (horder : q.queuedOrder fieldKey = some order) : fieldKey ∈ q.activeFields := by
  obtain ⟨key, field⟩ := fieldKey
  obtain ⟨work, hwork, hfield⟩ := Option.bind_eq_some_iff.mp horder
  have hexpiry := (hwf key work hwork).expiry_iff field
  rw [hfield, Option.isSome_some] at hexpiry
  refine List.mem_flatMap.mpr ⟨(key, work), Dict.mem_entries_iff.mpr hwork, List.mem_map.mpr ⟨field, ?_, rfl⟩⟩
  exact Dict.contains_iff.mp hexpiry

end FastPublicationQueue

namespace PublicationOrderHistory

variable (h : PublicationOrderHistory) (key : String) (fieldOrders : Dict String Nat)
  {activeFields : List PublicationFieldKey} {fieldKey : PublicationFieldKey}

omit [PyLib] in
theorem markOrder_pruned_of_active (now : ℚ) (hactive : fieldKey ∈ activeFields) :
    markOrder ((h.pruned now activeFields).get? fieldKey) = h.highWater fieldKey := by
  rw [pruned, get?_prunedMarks, highWater]
  cases h.marks.get? fieldKey with
  | none => rfl
  | some mark => simp [hactive, Option.filter]

omit [PyLib] in
/-- `claim_fast` lowers no high-water order of an active field. -/
theorem highWater_claimFast_of_active (now stamp : ℚ) (hactive : fieldKey ∈ activeFields) :
    h.highWater fieldKey ≤ (h.claimFast key fieldOrders activeFields now stamp).2.highWater fieldKey := by
  rw [← h.markOrder_pruned_of_active now hactive, claimFast]
  split_ifs
  · exact markOrder_le_withClaimedMarks le_of_not_fastOrderClaimBlocked key fieldOrders .fast _ stamp fieldKey
  · exact (h.markOrder_pruned_of_active now hactive).le

omit [PyLib] in
/-- `claim_fast` marks the order of every accepted field. -/
theorem le_highWater_claimFast (now stamp : ℚ) {field : String}
    (hmem : field ∈ (h.claimFast key fieldOrders activeFields now stamp).1.acceptedFields) :
    fieldOrders.getD field 0 ≤
      (h.claimFast key fieldOrders activeFields now stamp).2.highWater (key, field) := by
  rw [claimFast] at hmem ⊢
  split_ifs at hmem ⊢ with hfits
  · exact le_markOrder_withClaimedMarks key fieldOrders .fast _ stamp hmem
  · exact absurd hmem List.not_mem_nil

/-- `confirm_durable_applied` lowers no high-water order of an active field. -/
theorem highWater_confirmDurable_of_active (now stamp : ℚ) (hactive : fieldKey ∈ activeFields) :
    h.highWater fieldKey ≤
      (h.confirmDurableApplied key fieldOrders activeFields now stamp).2.highWater fieldKey := by
  rw [confirmDurableApplied]
  split_ifs
  · rw [← h.markOrder_pruned_of_active now hactive]
    exact markOrder_le_withClaimedMarks le_of_not_durableOrderClaimBlocked key fieldOrders .durable _ stamp
      fieldKey
  · exact Nat.le_refl _

end PublicationOrderHistory

namespace FastPublicationQueue

variable {q : FastPublicationQueue}

/-! ## Queueing -/

/-- `enqueue` merges the command, or leaves the publications as they are. -/
theorem enqueue_admits (q : FastPublicationQueue) (command : CommandPayload) (clock : EnqueueClock) :
    (q.Admits command clock ∧ ∃ ttl, (q.enqueue command clock).2 =
        (acceptClaim { q with history := (q.enqueueClaim command clock).2 } command
          (commandKey command) (q.enqueueClaim command clock).1 ttl clock).2) ∨
    (q.enqueue command clock).2 = q ∨
      (q.enqueue command clock).2 = { q with history := (q.enqueueClaim command clock).2 } := by
  rw [enqueue]
  simp only
  split_ifs with hrejection hlimit hfull httl
  · exact .inr (.inl rfl)
  · exact .inr (.inl rfl)
  · exact .inr (.inl rfl)
  · exact .inr (.inl rfl)
  · have hclaim : q.history.claimFast (commandKey command) (publicationFieldOrders command) q.activeFields
        clock.claimNow clock.claimStamp = q.enqueueClaim command clock := rfl
    rw [hclaim]
    cases hstate : (q.enqueueClaim command clock).1.state with
    | superseded => exact .inr (.inr rfl)
    | full => exact .inr (.inr rfl)
    | accepted => exact .inl ⟨⟨not_not.mp hrejection, not_not.mp hlimit, hfull, not_le.mp httl, hstate⟩, _, rfl⟩

theorem commandKey_ne_of_accepted {command : CommandPayload} (hrejection : rejectionReason command = "") :
    commandKey command ≠ "" := by
  intro hempty
  unfold rejectionReason at hrejection
  split_ifs at hrejection
  · exact absurd hrejection (by decide)
  · exact absurd hrejection (by decide)

omit [PyLib] in
theorem publishedOrder_queuedCommand (q : FastPublicationQueue) (key field : String) :
    publishedOrder ((q.queuedCommand key).getD Dict.empty) field = q.queuedOrder (key, field) := by
  unfold queuedCommand queuedOrder
  cases q.commands.get? key with
  | none => rfl
  | some work => rfl

theorem Sound.marked_claim (hq : q.Sound) (command : CommandPayload) (clock : EnqueueClock)
    {fieldKey : PublicationFieldKey} {order : Nat} (horder : q.queuedOrder fieldKey = some order) :
    order ≤ (q.enqueueClaim command clock).2.highWater fieldKey :=
  (hq.marked fieldKey order horder).trans (PublicationOrderHistory.highWater_claimFast_of_active _ _ _ _ _
    (mem_activeFields hq.wellFormed horder))

theorem Sound.enqueue (hq : q.Sound) (command : CommandPayload) (clock : EnqueueClock)
    (hpermits : q.Admits command clock →
      q.StampFits command clock ∧
        HidesNothingLonger (q.queuedCommand (commandKey command)) command
          (q.enqueueClaim command clock).1.acceptedFields ∧
        KeepsOrders (q.queuedCommand (commandKey command)) command
          (some (q.enqueueClaim command clock).1.acceptedFields)) :
    (q.enqueue command clock).2.Sound := by
  rcases enqueue_admits q command clock with ⟨hadmits, ttl, haccepted⟩ | hsame | hclaimed
  · obtain ⟨hstamp, hhides, hkeeps⟩ := hpermits hadmits
    obtain ⟨hrejection, hlimit, hroom, -, -⟩ := hadmits
    have hkey := commandKey_ne_of_accepted hrejection
    rw [haccepted]
    set accepted := (q.enqueueClaim command clock).1.acceptedFields with hacceptedFields
    have hfields : ∀ field ∈ accepted, (publishedOrder command field).isSome := by
      intro field hmem
      rw [hacceptedFields] at hmem
      exact isSome_of_mem_acceptedFields hmem
    have hwellFormed := wellFormed_mergedWork hkey (hq.wellFormed (commandKey command)) hfields ttl
      clock.workNow clock.workEpoch
    refine hq.set ⟨hwellFormed, ?_, ?_⟩ ?_ ?_ ?_
    · exact (settled_merge hkeeps).congr
        (get?_stampPayload_of_ne _ _ _ (by decide) (by decide) (by decide))
        (get?_stampPayload_of_ne _ _ _ (by decide) (by decide) (by decide))
        (get?_stampPayload_of_ne _ _ _ (by decide) (by decide) (by decide))
    · exact withinLimits_stored hhides hstamp (withinLimits_of_limitReason hlimit)
    · intro hnone
      by_contra hfull
      exact hroom ⟨hnone, Nat.le_of_not_lt hfull⟩
    · intro fieldKey order _ horder
      exact hq.marked_claim command clock horder
    · intro field order horder
      have hpublished := (publishedOrder_stampPayload (mergePublicationPayload
        (q.queuedCommand (commandKey command)) command (some accepted)) (commandKey command) clock.workEpoch
        field).trans (publishedOrder_merge_of_keeps hkeeps field)
      have hmerge := hpublished.symm.trans horder
      rw [publishedOrder_queuedCommand] at hmerge
      refine merge_max_le hmerge (fun queued hqueued => hq.marked_claim command clock hqueued) ?_
      intro stated hstated
      split_ifs at hstated with hmem
      have hle := q.history.le_highWater_claimFast (commandKey command) (publicationFieldOrders command)
        clock.claimNow clock.claimStamp (hmem accepted rfl)
      rwa [getD_publicationFieldOrders, hstated] at hle
  · rw [hsame]
    exact hq
  · rw [hclaimed]
    exact ⟨hq.depth, hq.held, fun fieldKey order horder => hq.marked_claim command clock horder⟩

/-! ## Taking back -/

/-- Giving up a publication that is queued at no marked order of its own. -/
theorem Sound.releaseFastWork (hq : q.Sound) {work : FastPublicationWork} (hreleases : q.ReleasesNoQueued work) :
    (q.releaseFastWork work).Sound := by
  refine ⟨hq.depth, hq.held, fun fieldKey order horder => ?_⟩
  have hqueued : q.queuedOrder fieldKey = some order := horder
  show order ≤ (q.history.releaseFast (commandKey work.command)
    (publicationFieldOrders work.command)).highWater fieldKey
  rw [PublicationOrderHistory.highWater_releaseFast]
  split_ifs with hreleased
  · obtain ⟨k, field⟩ := fieldKey
    obtain ⟨hkey, hmatch⟩ := hreleased
    obtain rfl : k = commandKey work.command := hkey
    rw [getD_publicationFieldOrders] at hmatch
    by_contra hpos
    rw [hreleases field order hqueued (by omega)] at hmatch
    exact absurd hmatch Bool.false_ne_true
  · exact hq.marked fieldKey order hqueued

theorem Sound.requeue (hq : q.Sound) {work : FastPublicationWork} (hwork : work.Held (commandKey work.command))
    (deferred : Bool) (now : ℚ)
    (hpermits : match fastRequeueCandidate work now with
      | none => q.ReleasesNoQueued work
      | some (key, retained) => q.TakesBack key retained) : (q.requeue work deferred now).Sound := by
  unfold FastPublicationQueue.requeue
  unfold fastRequeueCandidate at hpermits ⊢
  cases hretained : retainedFastWork work now with
  | none =>
    rw [hretained] at hpermits
    exact hq.releaseFastWork hpermits
  | some retained =>
    have hheld := hwork.retained hretained
    have hkey := hheld.wellFormed.key_eq
    simp only [hretained, hkey, if_neg hheld.wellFormed.key_ne] at hpermits ⊢
    obtain ⟨hplace, hmarks⟩ := hpermits
    cases hqueued : q.commands.get? (commandKey work.command) with
    | none =>
      rw [hqueued] at hplace
      have hback : (mergeFastWork retained none (if deferred = true then now + fastPublicationRetrySeconds
          else now) deferred).Held (commandKey work.command) :=
        ⟨⟨hkey, hheld.wellFormed.key_ne, hheld.wellFormed.expiry_iff⟩, hheld.settled, hheld.limited⟩
      exact hq.set hback (fun _ => hplace) (fun fieldKey order _ horder => hq.marked fieldKey order horder) hmarks
    | some queued =>
      rw [hqueued] at hplace
      obtain ⟨hlimits, hkeeps⟩ := hplace
      have hqueuedHeld := hq.held _ queued hqueued
      refine hq.set ⟨wellFormed_mergeFastWork hheld.wellFormed hqueuedHeld.wellFormed _ _,
        settled_merge hkeeps, hlimits⟩ (fun hnone => absurd (hqueued.symm.trans hnone) (Option.some_ne_none _))
        (fun fieldKey order _ horder => hq.marked fieldKey order horder) fun field order horder => ?_
      have hmerge : publishedOrder (mergePublicationPayload (some retained.command) queued.command none) field =
          some order := horder
      rw [publishedOrder_merge_of_keeps hkeeps, if_pos (by simp), Option.getD_some] at hmerge
      refine merge_max_le hmerge (hmarks field) fun other hother => hq.marked _ other ?_
      rw [queuedOrder, hqueued]
      exact hother

/-! ## Outcomes -/

theorem Sound.recordOutcome (hq : q.Sound) (work : FastPublicationWork) (state : String) (now : ℚ)
    (hpermits : state = "dropped" → q.ReleasesNoQueued work) : (q.recordOutcome work state now).Sound := by
  unfold FastPublicationQueue.recordOutcome
  split_ifs with happlied hdropped
  · refine ⟨hq.depth, hq.held, fun fieldKey order horder => ?_⟩
    show order ≤ (q.history.confirmFastApplied (commandKey work.command)
      (publicationFieldOrders work.command) now).2.highWater fieldKey
    rw [PublicationOrderHistory.highWater_confirmFastApplied]
    exact hq.marked fieldKey order horder
  · exact hq.releaseFastWork (hpermits hdropped)
  · exact hq

omit [PyLib] in
/-- What is left after fields were removed is what was queued, or a filtered part of it. -/
theorem get?_removeFastFields (q : FastPublicationQueue) (key : String) (fields : List String) {other : String}
    {left : FastPublicationWork} (hleft : (q.removeFastFields key fields).commands.get? other = some left) :
    ∃ work, q.commands.get? other = some work ∧
      (left = work ∨ ∃ kept, filterPublicationPayload work.command kept = some left.command) := by
  unfold removeFastFields at hleft
  cases hwork : q.commands.get? key with
  | none =>
    rw [hwork] at hleft
    exact ⟨left, hleft, .inl rfl⟩
  | some work =>
    rw [hwork] at hleft
    simp only [] at hleft
    split at hleft
    · exact ⟨left, hleft, .inl rfl⟩
    · rename_i removed remaining hselection
      split at hleft
      · rw [Dict.get?_erase] at hleft
        split_ifs at hleft
        exact ⟨left, hleft, .inl rfl⟩
      · rename_i payload hpayload
        rw [Dict.get?_set] at hleft
        split_ifs at hleft with hother
        · obtain rfl := Option.some.inj hleft
          exact ⟨work, hother ▸ hwork, .inr ⟨remaining, hpayload⟩⟩
        · exact ⟨left, hleft, .inl rfl⟩

omit [PyLib] in
theorem capacity_removeFastFields (q : FastPublicationQueue) (key : String) (fields : List String) :
    (q.removeFastFields key fields).capacity = q.capacity := by
  unfold removeFastFields
  split
  · rfl
  · split
    · rfl
    · split <;> rfl

theorem Sound.removeFastFields (hq : q.Sound) (key : String) (fields : List String) :
    (q.removeFastFields key fields).Sound := by
  have hwellFormed := wellFormed_removeFastFields hq.wellFormed key fields
  refine hq.of_subset (capacity_removeFastFields q key fields) ?_ ?_ ?_
  · intro other hsome
    obtain ⟨left, hleft⟩ := Option.ne_none_iff_exists'.mp hsome
    obtain ⟨work, hwork, -⟩ := get?_removeFastFields q key fields hleft
    rw [hwork]
    exact Option.some_ne_none work
  · intro other left hleft
    obtain ⟨work, hwork, rfl | ⟨kept, hfilter⟩⟩ := get?_removeFastFields q key fields hleft
    · exact hq.held other left hwork
    · exact (hq.held other work hwork).filter hfilter (hwellFormed other left hleft)
  · intro fieldKey order horder
    rw [queuedOrder_removeFastFields hq.wellFormed] at horder
    split_ifs at horder
    rw [PublicationOrderHistory.highWater, history_removeFastFields]
    exact hq.marked fieldKey order horder

theorem Sound.recordDurableOutcome (hq : q.Sound) (command : CommandPayload) (state : String) (now stamp : ℚ) :
    (q.recordDurableOutcome command state now stamp).Sound := by
  by_cases hstate : state = "applied"
  · subst hstate
    rw [recordDurableOutcome_applied]
    have hconfirmed : Sound { q with history := q.confirmedHistory command now stamp } := by
      refine ⟨hq.depth, hq.held, fun fieldKey order horder => ?_⟩
      exact (hq.marked fieldKey order horder).trans
        (q.history.highWater_confirmDurable_of_active (commandKey command) (publicationFieldOrders command) now
          stamp (mem_activeFields hq.wellFormed horder))
    exact hconfirmed.removeFastFields _ _
  · rw [FastPublicationQueue.recordDurableOutcome, if_pos hstate]
    exact hq

end FastPublicationQueue

/-! ## Runs -/

namespace QueueRun

/-- The queue is sound, and so is everything that it handed out. -/
structure Sound (s : QueueRun) : Prop where
  queue : s.queue.Sound
  handedOut : ∀ work ∈ s.handedOut, work.Held (commandKey work.command)

theorem sound_start (capacity orderCapacity : Int) (orderRetentionSeconds : ℚ)
    (orderState : Option StateFiles) (now : ℚ) :
    (start capacity orderCapacity orderRetentionSeconds orderState now).Sound := by
  refine ⟨⟨Nat.zero_le _, ?_, ?_⟩, ?_⟩
  · intro key work hwork
    nomatch hwork
  · intro fieldKey order horder
    nomatch horder
  · intro work hwork
    exact absurd hwork List.not_mem_nil

theorem sound_step (s : QueueRun) (e : FastEvent) (hs : s.Sound) (hpermits : s.Permits e) : (s.step e).Sound := by
  cases e with
  | enqueue command clock => exact ⟨hs.queue.enqueue command clock hpermits, hs.handedOut⟩
  | popNext now =>
    obtain ⟨hqueue, hpopped⟩ := hs.queue.popNext now
    refine ⟨hqueue, fun work hwork => ?_⟩
    rcases List.mem_append.mp hwork with hnew | hold
    · exact hpopped work (Option.mem_toList.mp hnew)
    · exact hs.handedOut work hold
  | requeue work deferred now =>
    rw [step]
    split_ifs with hmem
    · exact ⟨hs.queue.requeue (hs.handedOut work hmem) deferred now (hpermits hmem), hs.handedOut⟩
    · exact hs
  | recordOutcome work state now =>
    rw [step]
    split_ifs with hmem
    · exact ⟨hs.queue.recordOutcome work state now (hpermits hmem), hs.handedOut⟩
    · exact hs
  | pruneExpired now => exact ⟨hs.queue.pruneExpired now, hs.handedOut⟩
  | prepareDurable command pruneNow claimNow =>
    refine ⟨?_, hs.handedOut⟩
    show (s.queue.prepareDurable command pruneNow claimNow).2.Sound
    rw [FastPublicationQueue.prepareDurable_snd]
    exact hs.queue.pruneExpired pruneNow
  | recordDurableOutcome command state now stamp =>
    exact ⟨hs.queue.recordDurableOutcome command state now stamp, hs.handedOut⟩

/-- In a run whose steps are all permitted, the queue is represented in every state. -/
theorem represented_of_permits (capacity orderCapacity : Int) (orderRetentionSeconds : ℚ)
    (orderState : Option StateFiles) (now : ℚ) (es : List FastEvent)
    (hpermits : Along step Permits (start capacity orderCapacity orderRetentionSeconds orderState now) es) :
    ∀ before after, es = before ++ after →
      (run step (start capacity orderCapacity orderRetentionSeconds orderState now) before).queue.Represented := by
  intro before after hsplit
  subst hsplit
  have hbefore := (along_append.mp hpermits).1
  exact (run_invariant_of_along sound_step
    (sound_start capacity orderCapacity orderRetentionSeconds orderState now) hbefore).queue.represented

end QueueRun

end

namespace QueueRun

local instance boundsSampleLib : PyLib := PyLib.sample

/-- A publication of one key, and one of another. -/
def keptPublication : CommandPayload := FastRun.samplePublication "live" 10

def otherPublication : CommandPayload := keptPublication.set "coalesce_key" (.str "m")

/-- What lets `Permits` be evaluated: all fields of a publication are accepted, nothing is ranked by a transport order,
and a publication comes back to its marks or is given up when nothing is queued for its key. -/
def Checked (s : QueueRun) : FastEvent → Prop
  | .enqueue command clock =>
    s.queue.StampFits command clock ∧
      (∀ field ∈ (publicationFields command).keys, field ∈ (s.queue.enqueueClaim command clock).1.acceptedFields) ∧
      publicationOrder (((s.queue.queuedCommand (commandKey command)).getD Dict.empty).update command) = 0
  | .requeue work _ now =>
    (fastRequeueCandidate work now = none → s.queue.commands.get? (commandKey work.command) = none) ∧
      ∀ candidate ∈ fastRequeueCandidate work now,
        (s.queue.commands.get? candidate.1 = none → s.queue.commands.length < s.queue.capacity) ∧
        (∀ queued ∈ s.queue.commands.get? candidate.1,
          WithinLimits (mergePublicationPayload (some candidate.2.command) queued.command none) ∧
            publicationOrder (candidate.2.command.update queued.command) = 0) ∧
        ∀ entry ∈ (publicationFieldOrders candidate.2.command).entries,
          entry.2 ≤ s.queue.history.highWater (candidate.1, entry.1)
  | .recordOutcome work _ _ => s.queue.commands.get? (commandKey work.command) = none
  | _ => True

instance (q : FastPublicationQueue) (command : CommandPayload) (clock : EnqueueClock) :
    Decidable (q.StampFits command clock) := Nat.decLe _ _

instance decidableChecked (s : QueueRun) : ∀ e, Decidable (s.Checked e)
  | .enqueue _ _ => inferInstanceAs (Decidable (_ ∧ _ ∧ _))
  | .requeue _ _ _ => inferInstanceAs (Decidable (_ ∧ _))
  | .recordOutcome work _ _ => inferInstanceAs (Decidable (s.queue.commands.get? (commandKey work.command) = none))
  | .popNext _ | .pruneExpired _ | .prepareDurable _ _ _ | .recordDurableOutcome _ _ _ _ => isTrue trivial

theorem releasesNoQueued_of_none {q : FastPublicationQueue} {work : FastPublicationWork}
    (hnone : q.commands.get? (commandKey work.command) = none) : q.ReleasesNoQueued work := by
  intro field order horder
  rw [FastPublicationQueue.queuedOrder, hnone] at horder
  cases horder

theorem permits_of_checked (s : QueueRun) (e : FastEvent) (h : s.Checked e) : s.Permits e := by
  cases e with
  | enqueue command clock =>
    obtain ⟨hstamp, haccepted, horder⟩ := h
    refine fun _ => ⟨hstamp, fun field stated _ hstated hnot => ?_, .inl horder⟩
    obtain ⟨value, hvalue, -⟩ := Option.map_eq_some_iff.mp hstated
    exact absurd (haccepted field (Dict.mem_keys_iff.mpr ⟨value, hvalue⟩)) hnot
  | requeue work deferred now =>
    intro _
    obtain ⟨hnone, hsome⟩ := h
    cases hcandidate : fastRequeueCandidate work now with
    | none => exact releasesNoQueued_of_none (hnone hcandidate)
    | some candidate =>
      obtain ⟨hfree, hqueued, hmarks⟩ := hsome candidate hcandidate
      refine ⟨?_, fun field order horder => hmarks (field, order) (Dict.mem_entries_iff.mpr ?_)⟩
      · cases hheld : s.queue.commands.get? candidate.1 with
        | none => exact hfree hheld
        | some queued => exact ⟨(hqueued queued hheld).1, .inl (hqueued queued hheld).2⟩
      · rw [get?_publicationFieldOrders]
        exact horder
  | recordOutcome work state now => exact fun _ _ => releasesNoQueued_of_none h
  | popNext | pruneExpired | prepareDurable | recordDurableOutcome => trivial

/-- A publication of one field, with its order. -/
def orderedPublication (field : String) (order : Int) : CommandPayload :=
  Dict.ofList [("kind", .str publishEvcsFieldsKind), ("coalesce_key", .str "k"), ("fields", .obj [(field, .int order)]),
    ("publication_priority", .str "live"), ("transport_field_orders", .obj [(field, .int order)])]

/-- What was handed out last. -/
def lease (es : List FastEvent) : FastPublicationWork :=
  ((run step (start 1 4 60 none 0) es).handedOut.head?).getD ⟨Dict.empty, Dict.empty, 0, false⟩

/-- Two fields are merged and handed out while a newer value of one is queued. -/
def mergedPublication : List FastEvent :=
  [.enqueue (orderedPublication "f" 10) (FastRun.sampleClock 1), .enqueue (orderedPublication "g" 11) (FastRun.sampleClock 2),
    .popNext 3, .enqueue (orderedPublication "f" 12) (FastRun.sampleClock 4)]

/-- They return, merge with the newer value, are handed out again and dropped; one more publication expires. -/
def lostPublication : List FastEvent :=
  let returned := mergedPublication ++ [.requeue (lease mergedPublication) true 5, .popNext 6]
  let dropped := returned ++
    [.recordOutcome (lease returned) "dropped" 7, .enqueue (orderedPublication "g" 13) (FastRun.sampleClock 8), .popNext 9]
  dropped ++ [.requeue (lease dropped) true 100]

/-- Once the two fields have returned, and at the end. -/
theorem represented_lostPublication : (run step (start 1 4 60 none 0) (lostPublication.take 5)).queue.Represented ∧
    (run step (start 1 4 60 none 0) lostPublication).queue.Represented := by
  have hchecked : Along step Checked (start 1 4 60 none 0) lostPublication := by decide +kernel
  have hrun := represented_of_permits 1 4 60 none 0 lostPublication (hchecked.mono permits_of_checked)
  exact ⟨hrun _ _ (List.take_append_drop 5 _).symm, hrun _ [] (List.append_nil _).symm⟩

/-- What the queue hands out first. -/
def firstLease : FastPublicationWork :=
  ((run step (start 1 4 60 none 0) [.enqueue keptPublication (FastRun.sampleClock 1), .popNext 2]).handedOut.head?).getD
    ⟨Dict.empty, Dict.empty, 0, false⟩

/-- The only place is taken while the publication that had it is being applied, and then that one returns. -/
def returnedLease : List FastEvent :=
  [.enqueue keptPublication (FastRun.sampleClock 1), .popNext 2,
    .enqueue otherPublication (FastRun.sampleClock 3), .requeue firstLease true 4]

/-- The queue then holds two keys at capacity 1. -/
theorem returned_lease_exceeds_capacity :
    (run step (start 1 4 60 none 0) returnedLease).queue.commands.length = 2 ∧
      ¬ (run step (start 1 4 60 none 0) returnedLease).queue.Represented := by
  have hlength : (run step (start 1 4 60 none 0) returnedLease).queue.commands.length = 2 ∧
      (run step (start 1 4 60 none 0) returnedLease).queue.capacity = 1 := by decide +kernel
  refine ⟨hlength.1, fun hrepresented => ?_⟩
  have hdepth := hrepresented.depth
  rw [hlength.1, hlength.2] at hdepth
  exact absurd hdepth (by decide)

end QueueRun

end VenusEvcharger
