import VenusEvcharger.Ipc.FastPublicationEffects
import VenusEvcharger.Library.Run

/-!
# Runs of the fast publication queue

A run interleaves the operations of the queue in any order. Publications that were handed out and
not yet settled are its leases; durable payloads that were handed out may be reported any number of
times. The first result is about queued fields: one is lost to an older value exactly when a
confirmed durable payload, or a lease that returns, carries the wrong order for it.
-/

namespace VenusEvcharger

open Library

/-- The queue, the publications it handed out, and the durable payloads it admitted. -/
structure FastRun where
  queue : FastPublicationQueue
  leases : List FastPublicationWork
  prepared : List CommandPayload

/-- One operation, with its clock readings. -/
inductive FastEvent where
  | enqueue (command : CommandPayload) (clock : EnqueueClock)
  | popNext (now : ℚ)
  | requeue (work : FastPublicationWork) (deferred : Bool) (now : ℚ)
  | recordOutcome (work : FastPublicationWork) (state : String) (now : ℚ)
  | pruneExpired (now : ℚ)
  | prepareDurable (command : CommandPayload) (pruneNow claimNow : ℚ)
  | recordDurableOutcome (payload : CommandPayload) (state : String) (now stamp : ℚ)

namespace FastRun

section

variable [PyLib]

/-- A new queue on the given order files. -/
def start (capacity orderCapacity : Int) (orderRetentionSeconds : ℚ)
    (orderState : Option StateFiles) (now : ℚ) : FastRun :=
  ⟨FastPublicationQueue.create capacity orderCapacity orderRetentionSeconds orderState now, [], []⟩

/-- One operation of a run. Only leases are returned or settled, and only admitted payloads are
reported. -/
def step (s : FastRun) : FastEvent → FastRun
  | .enqueue command clock => { s with queue := (s.queue.enqueue command clock).2 }
  | .popNext now =>
    let popped := s.queue.popNext now
    { s with queue := popped.2, leases := popped.1.toList ++ s.leases }
  | .requeue work deferred now =>
    if work ∈ s.leases then
      { s with queue := s.queue.requeue work deferred now, leases := s.leases.erase work }
    else s
  | .recordOutcome work state now =>
    if work ∈ s.leases then
      { s with
        queue := s.queue.recordOutcome work state now
        leases := if state = "applied" ∨ state = "dropped" then s.leases.erase work else s.leases }
    else s
  | .pruneExpired now => { s with queue := s.queue.pruneExpired now }
  | .prepareDurable command pruneNow claimNow =>
    let result := s.queue.prepareDurable command pruneNow claimNow
    { s with
      queue := result.2
      prepared :=
        match result.1 with
        | .ok (some payload) => payload :: s.prepared
        | _ => s.prepared }
  | .recordDurableOutcome payload state now stamp =>
    if payload ∈ s.prepared then
      { s with queue := s.queue.recordDurableOutcome payload state now stamp }
    else s

/-- What queue and leases hold is well formed. -/
structure WellFormed (s : FastRun) : Prop where
  queue : s.queue.WellFormed
  leases : ∀ work ∈ s.leases, work.WellFormed (commandKey work.command)

theorem wellFormed_start (capacity orderCapacity : Int) (orderRetentionSeconds : ℚ)
    (orderState : Option StateFiles) (now : ℚ) :
    (start capacity orderCapacity orderRetentionSeconds orderState now).WellFormed where
  queue := by
    intro key work hwork
    simp [start, FastPublicationQueue.create] at hwork
  leases := by simp [start]

/-- Every operation keeps queue and leases well formed. -/
theorem wellFormed_step {s : FastRun} (hwf : s.WellFormed) (e : FastEvent) :
    (s.step e).WellFormed := by
  cases e with
  | enqueue command clock =>
    refine ⟨?_, hwf.leases⟩
    rcases FastPublicationQueue.enqueue_cases s.queue command clock with
      hsame | ⟨-, hclaimed⟩ | ⟨hkey, -, ttl, -, haccepted⟩
    · rw [step, hsame]
      exact hwf.queue
    · rw [step, hclaimed]
      exact hwf.queue
    · rw [step, haccepted]
      intro other queued hqueued
      refine FastPublicationQueue.wellFormed_set hwf.queue ?_ hqueued
      exact FastPublicationQueue.wellFormed_mergedWork hkey (hwf.queue (commandKey command))
        (fun field hmem => FastPublicationQueue.isSome_of_mem_acceptedFields hmem) ttl _ _
  -- A lease is as well formed as the work that it was taken from.
  | popNext now =>
    have hpruned := FastPublicationQueue.wellFormed_pruneExpired hwf.queue now
    rcases FastPublicationQueue.popNext_cases s.queue now with hnone | ⟨key, work, hwork, hsome⟩
    · rw [step, hnone]
      exact ⟨hpruned, hwf.leases⟩
    · rw [step, hsome]
      refine ⟨fun other queued hqueued => ?_, fun lease hlease => ?_⟩
      · rw [Dict.get?_erase] at hqueued
        split_ifs at hqueued
        exact hpruned other queued hqueued
      · rcases List.mem_append.mp hlease with hnew | hold
        · obtain rfl : lease = work := by simpa using hnew
          exact (hpruned key lease hwork).key_eq ▸ hpruned key lease hwork
        · exact hwf.leases lease hold
  | requeue work deferred now =>
    rw [step]
    split_ifs with hlease
    · refine ⟨?_, fun other hother => hwf.leases other (List.mem_of_mem_erase hother)⟩
      rcases FastPublicationQueue.requeue_cases hwf.queue (hwf.leases work hlease) deferred now with
        ⟨hreleased, -⟩ | ⟨-, merged, -, hmerged, hset, -⟩
      · rw [hreleased]
        exact hwf.queue
      · rw [hset]
        intro other queued hqueued
        exact FastPublicationQueue.wellFormed_set hwf.queue hmerged hqueued
    · exact hwf
  | recordOutcome work state now =>
    rw [step]
    split_ifs with hlease
    · refine ⟨fun other queued hqueued => hwf.queue other queued ?_, fun other hother => ?_⟩
      · rwa [FastPublicationQueue.commands_recordOutcome] at hqueued
      · exact hwf.leases other (List.mem_of_mem_erase hother)
    · refine ⟨fun other queued hqueued => hwf.queue other queued ?_, hwf.leases⟩
      rwa [FastPublicationQueue.commands_recordOutcome] at hqueued
    · exact hwf
  | pruneExpired now =>
    exact ⟨FastPublicationQueue.wellFormed_pruneExpired hwf.queue now, hwf.leases⟩
  | prepareDurable command pruneNow claimNow =>
    refine ⟨?_, hwf.leases⟩
    rw [step, FastPublicationQueue.prepareDurable_snd]
    exact FastPublicationQueue.wellFormed_pruneExpired hwf.queue pruneNow
  | recordDurableOutcome payload state now stamp =>
    rw [step]
    split_ifs with hprepared
    · exact ⟨FastPublicationQueue.wellFormed_recordDurableOutcome hwf.queue payload state now stamp,
        hwf.leases⟩
    · exact hwf

/-! ## Queued fields -/

/-- Why a field queued at `order` may leave the queue in a step: its lifetime ended, it was handed
out, a strictly newer publication of its key took its place, or a durable value at least as new was
applied. -/
def LeavesForReason (s : FastRun) (e : FastEvent) (fieldKey : PublicationFieldKey) (order : Nat) :
    Prop :=
  match e with
  | .enqueue command _ => commandKey command = fieldKey.1 ∧
      ∃ newer, publishedOrder command fieldKey.2 = some newer ∧ order < newer ∧
        (s.step e).queue.queuedOrder fieldKey = some newer
  | .popNext now => s.queue.QueuedExpired now fieldKey ∨
      ∃ work, (s.queue.popNext now).1 = some work ∧ commandKey work.command = fieldKey.1 ∧
        work.order? fieldKey.2 = some order
  | .pruneExpired now => s.queue.QueuedExpired now fieldKey
  | .prepareDurable _ pruneNow _ => s.queue.QueuedExpired pruneNow fieldKey
  | .recordDurableOutcome payload state _ _ => payload ∈ s.prepared ∧ state = "applied" ∧
      commandKey payload = fieldKey.1 ∧
      ∃ applied, publishedOrder payload fieldKey.2 = some applied ∧ order ≤ applied
  | .requeue .. | .recordOutcome .. => False

/-- Every ordered field of the queue keeps its order in a step or leaves for a reason. -/
def NoLostUpdate (s : FastRun) (e : FastEvent) : Prop :=
  ∀ fieldKey order, 0 < order → s.queue.queuedOrder fieldKey = some order →
    (s.step e).queue.queuedOrder fieldKey = some order ∨ LeavesForReason s e fieldKey order

/-- An applied durable payload is reported while nothing newer is queued for its fields, and a lease
returns while nothing older is queued for the fields it still holds. -/
def RemovesNoNewer (s : FastRun) : FastEvent → Prop
  | .recordDurableOutcome payload state _ _ => payload ∈ s.prepared → state = "applied" →
      ∀ field applied order, publishedOrder payload field = some applied → 0 < order →
        s.queue.queuedOrder (commandKey payload, field) = some order → order ≤ applied
  | .requeue work _ now => work ∈ s.leases →
      ∀ field leased order, work.order? field = some leased → ¬ work.Expired now field →
        0 < order → s.queue.queuedOrder (commandKey work.command, field) = some order →
        leased ≤ order
  | _ => True

variable {s : FastRun}

theorem queuedOrder_pruneExpired_or (hwf : s.WellFormed) (now : ℚ) {fieldKey : PublicationFieldKey}
    {order : Nat} (hqueued : s.queue.queuedOrder fieldKey = some order) :
    (s.queue.pruneExpired now).queuedOrder fieldKey = some order ∨
      s.queue.QueuedExpired now fieldKey := by
  rw [FastPublicationQueue.queuedOrder_pruneExpired hwf.queue]
  split_ifs with hexpired
  · exact .inr hexpired
  · exact .inl hqueued

theorem noLostUpdate_enqueue (command : CommandPayload) (clock : EnqueueClock) :
    NoLostUpdate s (.enqueue command clock) := by
  intro fieldKey order hpos hqueued
  rcases FastPublicationQueue.enqueue_cases s.queue command clock with
    hsame | ⟨-, hclaimed⟩ | ⟨-, -, ttl, -, haccepted⟩
  · exact .inl (by rw [step, hsame]; exact hqueued)
  · exact .inl (by rw [step, hclaimed]; exact hqueued)
  · obtain ⟨key, field⟩ := fieldKey
    have hafter : (s.step (.enqueue command clock)).queue.queuedOrder (key, field) =
        if key = commandKey command then
          (FastPublicationQueue.mergedWork (s.queue.commands.get? (commandKey command)) command
            (commandKey command) (s.queue.enqueueClaim command clock).1.acceptedFields ttl
            clock.workNow clock.workEpoch).order? field
        else s.queue.queuedOrder (key, field) := by
      rw [step, haccepted]
      exact FastPublicationQueue.queuedOrder_set _ _ _ _
    by_cases hkey : key = commandKey command
    · subst hkey
      rw [if_pos rfl] at hafter
      rw [FastPublicationQueue.queuedOrder] at hqueued
      cases hclaimed : if field ∈ (s.queue.enqueueClaim command clock).1.acceptedFields then
          publishedOrder command field else none with
      | none =>
        refine .inl (hafter.trans (FastPublicationQueue.order?_mergedWork ?_ hpos))
        rw [hqueued, hclaimed, Option.merge_none_right]
      | some claimed =>
        have hmerged : (s.step (.enqueue command clock)).queue.queuedOrder
            (commandKey command, field) = some (max order claimed) :=
          hafter.trans (FastPublicationQueue.order?_mergedWork (by rw [hqueued, hclaimed]; rfl)
            (lt_max_of_lt_left hpos))
        by_cases hle : claimed ≤ order
        · exact .inl (by rw [hmerged, max_eq_left hle])
        · have hlt := not_le.mp hle
          refine .inr ⟨rfl, claimed, ?_, hlt, by rw [hmerged, max_eq_right hlt.le]⟩
          split_ifs at hclaimed
          exact hclaimed
    · exact .inl (by rw [hafter, if_neg hkey]; exact hqueued)

theorem noLostUpdate_popNext (hwf : s.WellFormed) (now : ℚ) : NoLostUpdate s (.popNext now) := by
  intro fieldKey order hpos hqueued
  rcases queuedOrder_pruneExpired_or hwf now hqueued with hpruned | hexpired
  · rcases FastPublicationQueue.popNext_cases s.queue now with hnone | ⟨key, work, hwork, hsome⟩
    · exact .inl (by rw [step, hnone]; exact hpruned)
    · by_cases hkey : fieldKey.1 = key
      · subst hkey
        refine .inr (.inr ⟨work, by rw [hsome], ?_, ?_⟩)
        · exact (FastPublicationQueue.wellFormed_pruneExpired hwf.queue now _ work hwork).key_eq
        · rwa [FastPublicationQueue.queuedOrder, hwork] at hpruned
      · left
        rw [step, hsome, FastPublicationQueue.queuedOrder, Dict.get?_erase, if_neg hkey]
        exact hpruned
  · exact .inr (.inl hexpired)

/-- A returning lease keeps the queued orders exactly when nothing older is queued. -/
theorem noLostUpdate_requeue_iff (hwf : s.WellFormed) (work : FastPublicationWork) (deferred : Bool)
    (now : ℚ) : NoLostUpdate s (.requeue work deferred now) ↔
      RemovesNoNewer s (.requeue work deferred now) := by
  by_cases hlease : work ∈ s.leases
  · have hstep : (s.step (.requeue work deferred now)).queue = s.queue.requeue work deferred now := by
      rw [step, if_pos hlease]
    rcases FastPublicationQueue.requeue_cases hwf.queue (hwf.leases work hlease) deferred now with
      ⟨hreleased, hall⟩ | ⟨retained, merged, hretained, -, hset, -, hmerged⟩
    · rw [hreleased] at hstep
      refine iff_of_true (fun fieldKey order _ hqueued => .inl (by rw [hstep]; exact hqueued)) ?_
      intro _ field leased order hleased hexpired _ _
      exact absurd (hall field (by rw [hleased]; rfl)) hexpired
    · rw [hset] at hstep
      have hafter : ∀ fieldKey, (s.step (.requeue work deferred now)).queue.queuedOrder fieldKey =
          if fieldKey.1 = commandKey work.command then merged.order? fieldKey.2
          else s.queue.queuedOrder fieldKey := by
        intro fieldKey
        rw [hstep]
        exact FastPublicationQueue.queuedOrder_set _ _ _ _
      constructor
      · intro hkept _ field leased order hleased hexpired hpos hqueued
        have hsame := (hkept _ order hpos hqueued).resolve_right id
        have hmax := hmerged field (max leased order)
          (by rw [hretained, if_neg hexpired, hleased, hqueued]; rfl) (lt_max_of_lt_right hpos)
        rw [hafter, if_pos rfl, hmax] at hsame
        exact max_eq_right_iff.mp (Option.some.inj hsame)
      · intro hnewer fieldKey order hpos hqueued
        left
        rw [hafter]
        split_ifs with hkey
        · obtain ⟨key, field⟩ := fieldKey
          obtain rfl : key = commandKey work.command := hkey
          refine hmerged field order ?_ hpos
          rw [hqueued]
          cases hleft : retained.order? field with
          | none => rfl
          | some leased =>
            rw [hretained] at hleft
            split_ifs at hleft with hexpired
            rw [Option.merge_some_some,
              max_eq_right (hnewer hlease field leased order hleft hexpired hpos hqueued)]
        · exact hqueued
  · refine iff_of_true (fun fieldKey order _ hqueued => .inl ?_) fun hmem => absurd hmem hlease
    rw [step, if_neg hlease]
    exact hqueued

/-- A reported durable payload keeps newer queued orders exactly when there are none. -/
theorem noLostUpdate_recordDurableOutcome_iff (hwf : s.WellFormed) (payload : CommandPayload)
    (state : String) (now stamp : ℚ) :
    NoLostUpdate s (.recordDurableOutcome payload state now stamp) ↔
      RemovesNoNewer s (.recordDurableOutcome payload state now stamp) := by
  by_cases hprepared : payload ∈ s.prepared
  · have hafter : ∀ fieldKey,
        (s.step (.recordDurableOutcome payload state now stamp)).queue.queuedOrder fieldKey =
          if state = "applied" ∧ fieldKey.1 = commandKey payload ∧
            (publishedOrder payload fieldKey.2).isSome = true then none
          else s.queue.queuedOrder fieldKey := by
      intro fieldKey
      rw [step, if_pos hprepared]
      exact FastPublicationQueue.queuedOrder_recordDurableOutcome hwf.queue payload state now stamp
        fieldKey
    constructor
    · intro hkept _ hstate field applied order happlied hpos hqueued
      rcases hkept _ order hpos hqueued with hsame | ⟨-, -, -, applied', happlied', hle⟩
      · rw [hafter, if_pos ⟨hstate, rfl, by rw [happlied]; rfl⟩] at hsame
        exact absurd hsame (by simp)
      · exact Option.some.inj (happlied.symm.trans happlied') ▸ hle
    · intro hnewer fieldKey order hpos hqueued
      by_cases hremoved : state = "applied" ∧ fieldKey.1 = commandKey payload ∧
          (publishedOrder payload fieldKey.2).isSome = true
      · obtain ⟨hstate, hkey, hsome⟩ := hremoved
        obtain ⟨applied, happlied⟩ := Option.isSome_iff_exists.mp hsome
        refine .inr ⟨hprepared, hstate, hkey.symm, applied, happlied, ?_⟩
        exact hnewer hprepared hstate fieldKey.2 applied order happlied hpos (hkey ▸ hqueued)
      · exact .inl (by rw [hafter, if_neg hremoved]; exact hqueued)
  · refine iff_of_true (fun fieldKey order _ hqueued => .inl ?_) fun hmem => absurd hmem hprepared
    rw [step, if_neg hprepared]
    exact hqueued

/-- A step loses no update exactly when it removes nothing newer. -/
theorem noLostUpdate_iff (hwf : s.WellFormed) (e : FastEvent) :
    NoLostUpdate s e ↔ RemovesNoNewer s e := by
  cases e with
  | enqueue command clock => exact iff_of_true (noLostUpdate_enqueue command clock) trivial
  | popNext now => exact iff_of_true (noLostUpdate_popNext hwf now) trivial
  | requeue work deferred now => exact noLostUpdate_requeue_iff hwf work deferred now
  | recordOutcome work state now =>
    refine iff_of_true (fun fieldKey order _ hqueued => .inl ?_) trivial
    rw [step]
    split_ifs
    · rw [FastPublicationQueue.queuedOrder, FastPublicationQueue.commands_recordOutcome]
      exact hqueued
    · rw [FastPublicationQueue.queuedOrder, FastPublicationQueue.commands_recordOutcome]
      exact hqueued
    · exact hqueued
  | pruneExpired now =>
    exact iff_of_true (fun _ _ _ hqueued => queuedOrder_pruneExpired_or hwf now hqueued) trivial
  | prepareDurable command pruneNow claimNow =>
    refine iff_of_true (fun fieldKey order _ hqueued => ?_) trivial
    rw [step, FastPublicationQueue.prepareDurable_snd]
    exact queuedOrder_pruneExpired_or hwf pruneNow hqueued
  | recordDurableOutcome payload state now stamp =>
    exact noLostUpdate_recordDurableOutcome_iff hwf payload state now stamp

/-- Along every run of a new queue, no queued update is lost exactly when no step removes a newer
one. -/
theorem no_lost_update_iff (capacity orderCapacity : Int) (orderRetentionSeconds : ℚ)
    (orderState : Option StateFiles) (now : ℚ) (es : List FastEvent) :
    Along step NoLostUpdate (start capacity orderCapacity orderRetentionSeconds orderState now) es ↔
      Along step RemovesNoNewer (start capacity orderCapacity orderRetentionSeconds orderState now)
        es :=
  along_iff_of_invariant (fun _ e hwf _ => wellFormed_step hwf e)
    (fun _ e hwf => noLostUpdate_iff hwf e)
    (wellFormed_start capacity orderCapacity orderRetentionSeconds orderState now)

end

section

local instance : PyLib := PyLib.sample

/-- A publication of one field. -/
def samplePublication (priority : String) (order : Int) : CommandPayload :=
  Dict.ofList [("kind", .str publishEvcsFieldsKind), ("coalesce_key", .str "k"),
    ("fields", .obj [("f", .int order)]), ("publication_priority", .str priority),
    ("transport_order", .int order)]

/-- The same publication with the order stated for its field. -/
def preparedPublication (priority : String) (order : Nat) : CommandPayload :=
  setFieldOrders (samplePublication priority order) (Dict.ofList [("f", order)])

/-- All clock readings of `enqueue` at one time. -/
def sampleClock (now : ℚ) : EnqueueClock := ⟨now, now, now, now, now, now⟩

/-- A new queue without order files. -/
def sampleStart : FastRun := start 4 4 60 none 0

/-- A newer value is queued while an admitted durable value is being applied. -/
def lateConfirmation : List FastEvent :=
  [.prepareDurable (samplePublication "critical" 11) 1 1,
    .enqueue (samplePublication "live" 12) (sampleClock 2),
    .recordDurableOutcome (preparedPublication "critical" 11) "applied" 3 3]

/-- The late confirmation of an older durable value removes the newer queued one. -/
theorem late_confirmation_removes_newer : ¬ Along step NoLostUpdate sampleStart lateConfirmation := by
  rintro ⟨-, -, hkept, -⟩
  rcases hkept ("k", "f") 12 (by decide) (by decide +kernel) with
    hsame | ⟨-, -, -, applied, happlied, hle⟩
  · exact absurd hsame (by decide +kernel)
  · have horder : publishedOrder (preparedPublication "critical" 11) "f" = some 11 := by
      decide +kernel
    obtain rfl := Option.some.inj (horder.symm.trans happlied)
    exact absurd hle (by decide)

end

end FastRun

end VenusEvcharger
