import VenusEvcharger.DbusAdapter.AsyncBroker

/-!
# Every operation completes once

Along every run each submitted operation is at exactly one place: in the slot, in the hands of a
`cancel` call the broker waits for, completed by one continuation, or cancelled. The counters count
these places.
-/

namespace VenusEvcharger

open Library

/-- `on_success` and `on_error` complete an operation; the failure handler does not. -/
def BrokerCallback.completes : BrokerCallback → Bool
  | .onSuccess _ | .onError _ => true
  | .onCallbackFailure _ => false

/-- The operation that a frame still has to settle. -/
def BrokerFrame.heldId? : BrokerFrame → Option Nat
  | .cancelTimedOut current _ => some current.operationId
  | .cancelCurrent current _ => some current.operationId
  | .starter _ | .onSuccess _ _ | .onError | .onCallbackFailure => none

namespace BrokerRun

/-- One entry for each completing continuation that was invoked. -/
def settledIds (s : BrokerRun) : List Nat :=
  (s.callbacks.filter fun call => call.2.completes).map Prod.fst

/-- The operation in the slot. -/
def inFlightIds (s : BrokerRun) : List Nat :=
  s.broker.inFlight.toList.map InFlightOperation.operationId

/-- The operations taken from the slot whose pending call is being cancelled. -/
def heldIds (s : BrokerRun) : List Nat := s.stack.filterMap BrokerFrame.heldId?

/-- The operations that are neither completed nor cancelled. -/
def outstandingIds (s : BrokerRun) : List Nat := s.inFlightIds ++ s.heldIds

/-- The places of all operations, `inHand` for those that an unfinished method is moving. -/
def places (s : BrokerRun) (inHand : List Nat) : List Nat :=
  s.settledIds ++ s.cancelledIds ++ s.outstandingIds ++ inHand

/-- Every submitted operation is at one place, and the counters agree. -/
structure Accounted (inHand : List Nat) (s : BrokerRun) : Prop where
  once : (s.places inHand).Perm (List.range' 1 s.broker.submitted)
  next : s.broker.nextOperationId = s.broker.submitted + 1
  settled : s.broker.completed + s.broker.failed = s.settledIds.length
  cancelled : s.broker.cancelled = s.cancelledIds.length

theorem accounted_initial : Accounted [] initial := ⟨List.Perm.nil, rfl, rfl, rfl⟩

/-! ## One operation in hand -/

/-- The counters that the account reads. -/
def counters (s : BrokerRun) : Nat × Nat × Nat × Nat × Nat :=
  (s.broker.nextOperationId, s.broker.submitted, s.broker.completed, s.broker.failed,
    s.broker.cancelled)

variable {s : BrokerRun}

/-- Only the places and the counters matter. -/
theorem Accounted.congr {inHand others : List Nat} {t : BrokerRun} (h : Accounted inHand s)
    (hsettled : t.settledIds = s.settledIds) (hcancelled : t.cancelledIds = s.cancelledIds)
    (hmoved : (t.outstandingIds ++ others).Perm (s.outstandingIds ++ inHand))
    (hcounters : t.counters = s.counters) : Accounted others t := by
  simp only [counters, Prod.mk.injEq] at hcounters
  obtain ⟨hnext, hsubmitted, hcompleted, hfailed, hcount⟩ := hcounters
  constructor
  · rw [places, hsettled, hcancelled, hsubmitted, List.append_assoc]
    refine (hmoved.append_left _).trans ?_
    rw [← List.append_assoc]
    exact h.once
  · rw [hnext, hsubmitted, h.next]
  · rw [hcompleted, hfailed, hsettled, h.settled]
  · rw [hcount, hcancelled, h.cancelled]

variable {current : InFlightOperation}

theorem Accounted.releaseSlot (h : Accounted [] s) (hcurrent : s.broker.inFlight = some current) :
    Accounted [current.operationId] s.releaseSlot := by
  refine h.congr rfl rfl ?_ rfl
  have houtstanding : s.outstandingIds = current.operationId :: s.releaseSlot.outstandingIds := by
    simp [outstandingIds, inFlightIds, hcurrent, BrokerRun.releaseSlot, heldIds]
  rw [houtstanding, List.append_nil]
  exact List.perm_append_singleton _ _

/-- The innermost call ends, and what it held is in the broker's hands. -/
theorem Accounted.pop {frame : BrokerFrame} {stack : List BrokerFrame} (h : Accounted [] s)
    (hstack : s.stack = frame :: stack) :
    Accounted frame.heldId?.toList { s with stack := stack } := by
  refine h.congr rfl rfl ?_ rfl
  have houtstanding : s.outstandingIds =
      s.inFlightIds ++ (frame.heldId?.toList ++ stack.filterMap BrokerFrame.heldId?) := by
    rw [outstandingIds, heldIds, hstack]
    cases hheld : frame.heldId? <;> simp [hheld]
  rw [houtstanding, List.append_nil]
  change ((s.inFlightIds ++ stack.filterMap BrokerFrame.heldId?) ++ _).Perm _
  rw [List.append_assoc]
  exact List.perm_append_comm.append_left _

theorem Accounted.complete {operationId : Nat} {t : BrokerRun} (h : Accounted [operationId] s)
    (hsettled : t.settledIds = s.settledIds ++ [operationId])
    (hcancelled : t.cancelledIds = s.cancelledIds)
    (houtstanding : t.outstandingIds = s.outstandingIds)
    (hnext : t.broker.nextOperationId = s.broker.nextOperationId)
    (hsubmitted : t.broker.submitted = s.broker.submitted)
    (hcount : t.broker.cancelled = s.broker.cancelled)
    (hone : t.broker.completed + t.broker.failed = s.broker.completed + s.broker.failed + 1) :
    Accounted [] t := by
  constructor
  · have hmove : (t.places []).Perm (s.places [operationId]) := by
      simp only [places, hsettled, hcancelled, houtstanding, List.append_assoc, List.append_nil,
        List.singleton_append]
      refine List.Perm.append_left _ ?_
      rw [← List.append_assoc]
      exact (List.perm_append_singleton _ _).symm
    rw [hsubmitted]
    exact hmove.trans h.once
  · rw [hnext, hsubmitted, h.next]
  · rw [hone, hsettled, List.length_append, List.length_singleton, h.settled]
  · rw [hcount, hcancelled, h.cancelled]

section

variable (h : Accounted [current.operationId] s)
include h

theorem Accounted.recordError (error : DbusError) (completedAt : ℚ) :
    Accounted [] (s.recordError current error completedAt) := by
  refine h.complete ?_ rfl rfl rfl rfl rfl ?_
  · simp [settledIds, BrokerRun.recordError, invokeError, BrokerCallback.completes]
  · simp only [BrokerRun.recordError, invokeError]
    omega

theorem Accounted.recordCancelled (reason : String) (completedAt : ℚ) :
    Accounted [] (s.recordCancelled current reason completedAt) := by
  constructor
  · have hmove : ((s.recordCancelled current reason completedAt).places []).Perm
        (s.places [current.operationId]) := by
      change (s.settledIds ++ (s.cancelledIds ++ [current.operationId]) ++ s.outstandingIds ++
        []).Perm (s.settledIds ++ s.cancelledIds ++ s.outstandingIds ++ [current.operationId])
      simp only [List.append_assoc, List.append_nil, List.singleton_append]
      refine (List.Perm.append_left _ ?_).append_left _
      exact (List.perm_append_singleton _ _).symm
    exact hmove.trans h.once
  · exact h.next
  · exact h.settled
  · change s.broker.cancelled + 1 = (s.cancelledIds ++ [current.operationId]).length
    rw [List.length_append, List.length_singleton, h.cancelled]

/-- A timed-out operation is held while its pending call is cancelled, and failed otherwise. -/
theorem Accounted.recordTimeout (completedAt : ℚ) :
    Accounted [] (s.recordTimeout current completedAt) := by
  rw [BrokerRun.recordTimeout]
  have hcounted : Accounted [current.operationId]
      { s with
        broker :=
          { s.broker with
            timedOut := s.broker.timedOut + 1 } } :=
    h.congr rfl rfl (List.Perm.refl _) rfl
  split_ifs
  · refine hcounted.congr rfl rfl ?_ rfl
    change ((s.inFlightIds ++ current.operationId :: s.heldIds) ++ []).Perm
      (s.inFlightIds ++ s.heldIds ++ [current.operationId])
    rw [List.append_nil]
    exact List.perm_middle.trans (List.perm_append_singleton _ _).symm
  · exact hcounted.recordError _ completedAt

end

/-! ## One step -/

/-- `_take_current` empties the slot of its own operation, and counts a late reply otherwise. -/
theorem takeCurrent_cases (s : BrokerRun) (operationId : Nat) :
    (operationId ∉ s.inFlightIds ∧ s.takeCurrent operationId = (none, s.lateReply)) ∨
    ∃ current, s.broker.inFlight = some current ∧ current.operationId = operationId ∧
      s.takeCurrent operationId = (some current, s.releaseSlot) := by
  rw [takeCurrent, inFlightIds]
  cases hslot : s.broker.inFlight with
  | none => exact .inl ⟨by simp, rfl⟩
  | some current =>
    by_cases hid : current.operationId = operationId
    · exact .inr ⟨current, rfl, hid, if_pos hid⟩
    · exact .inl ⟨by simpa using Ne.symm hid, if_neg hid⟩

theorem Accounted.finishSuccess (h : Accounted [] s) (operationId : Nat) (value : Value)
    (finishedAt : ℚ) : Accounted [] (s.finishSuccess operationId value finishedAt) := by
  rw [BrokerRun.finishSuccess]
  rcases s.takeCurrent_cases operationId with ⟨-, hlate⟩ | ⟨current, hslot, -, htake⟩
  · rw [hlate]
    exact h.congr rfl rfl (List.Perm.refl _) rfl
  · rw [htake]
    have hheld := h.releaseSlot hslot
    simp only
    split_ifs
    · exact hheld.recordTimeout finishedAt
    · refine hheld.complete ?_ rfl rfl rfl rfl rfl ?_
      · simp [settledIds, invokeSuccess, BrokerCallback.completes]
      · simp only [invokeSuccess]
        omega

theorem Accounted.finishError (h : Accounted [] s) (operationId : Nat) (error : DbusError)
    (completedAt : ℚ) :
    Accounted [] (s.finishError operationId error completedAt) := by
  rw [BrokerRun.finishError]
  rcases s.takeCurrent_cases operationId with ⟨-, hlate⟩ | ⟨current, hslot, -, htake⟩
  · rw [hlate]
    exact h.congr rfl rfl (List.Perm.refl _) rfl
  · rw [htake]
    have hheld := h.releaseSlot hslot
    simp only
    split_ifs
    · exact hheld.recordTimeout completedAt
    · exact hheld.recordError error completedAt

theorem Accounted.submit (h : Accounted [] s) (operation : DbusAsyncOperation) (due : Bool)
    (startedAt : ℚ) : Accounted [] (s.submit operation due startedAt).2 := by
  rw [BrokerRun.submit]
  cases hslot : s.broker.inFlight with
  | some current => exact h.congr rfl rfl (List.Perm.refl _) rfl
  | none =>
    cases due with
    | false => exact h
    | true =>
      constructor
      · change (s.settledIds ++ s.cancelledIds ++ (s.broker.nextOperationId :: s.heldIds) ++
          []).Perm (List.range' 1 (s.broker.submitted + 1))
        rw [List.range'_1_concat, List.append_nil, h.next, Nat.add_comm 1]
        refine List.perm_middle.trans (List.Perm.trans ?_ (List.perm_append_singleton _ _).symm)
        refine List.Perm.cons _ ?_
        have hplaces : s.places [] = s.settledIds ++ s.cancelledIds ++ s.heldIds := by
          simp [places, outstandingIds, inFlightIds, hslot]
        rw [← hplaces]
        exact h.once
      · exact congrArg (· + 1) h.next
      · exact h.settled
      · exact h.cancelled

theorem Accounted.storePendingCall (h : Accounted [] s) (operationId : Nat)
    (pendingCall : Option PendingCall) :
    Accounted [] (s.storePendingCall operationId pendingCall) := by
  rw [BrokerRun.storePendingCall]
  split_ifs
  · refine h.congr rfl rfl ?_ rfl
    have hsame : inFlightIds { s with
        broker :=
          { s.broker with
            inFlight := s.broker.inFlight.map fun current =>
              { current with pendingCall := pendingCall } } } = s.inFlightIds := by
      rw [inFlightIds, inFlightIds]
      cases s.broker.inFlight <;> rfl
    rw [outstandingIds, hsame]
    exact List.Perm.refl _
  · exact h

/-- One move of foreign code keeps every operation at one place. -/
theorem accounted_step (s : BrokerRun) (e : Event) (h : Accounted [] s) : Accounted [] (s.step e) := by
  cases e with
  | submit operation due now => exact h.submit operation due now
  | replySuccess operationId value now => exact h.finishSuccess operationId value now
  | replyError operationId error now => exact h.finishError operationId error now
  | expireDue now =>
    rw [step, expireDue]
    cases hslot : s.broker.inFlight with
    | none => exact h
    | some current =>
      simp only
      split_ifs
      · exact h
      · exact (h.releaseSlot hslot).recordTimeout now
  | cancelCurrent reason now =>
    rw [step, cancelCurrent]
    cases hslot : s.broker.inFlight with
    | none => exact h
    | some current =>
      simp only
      split_ifs
      · refine (h.releaseSlot hslot).congr rfl rfl ?_ rfl
        change (current.operationId :: s.heldIds ++ []).Perm (s.heldIds ++ [current.operationId])
        rw [List.append_nil]
        exact (List.perm_append_singleton _ _).symm
      · exact (h.releaseSlot hslot).recordCancelled reason now
  -- The frame on top of the stack says what a return or an exception is about.
  | returned pendingCall now =>
    rw [step, returned]
    split
    · exact h
    · next frame stack hstack =>
      have hpop := h.pop hstack
      cases frame with
      | starter operationId => exact Accounted.storePendingCall hpop operationId pendingCall
      | cancelTimedOut current completedAt => exact Accounted.recordError hpop _ completedAt
      | cancelCurrent current reason => exact Accounted.recordCancelled hpop reason now
      | onSuccess operationId operation => exact hpop
      | onError => exact hpop
      | onCallbackFailure => exact hpop
  | raised error now =>
    rw [step, raised]
    split
    · exact h
    · next frame stack hstack =>
      have hpop := h.pop hstack
      cases frame with
      | starter operationId => exact Accounted.finishError hpop operationId error now
      | cancelTimedOut current completedAt => exact Accounted.recordError hpop _ completedAt
      | cancelCurrent current reason => exact Accounted.recordCancelled hpop reason now
      | onSuccess operationId operation =>
        have hcounted : Accounted [] (callbackError { s with stack := stack }) :=
          Accounted.congr hpop rfl rfl (List.Perm.refl _) rfl
        simp only [invokeCallbackFailure]
        split_ifs
        · refine hcounted.congr ?_ rfl (List.Perm.refl _) rfl
          simp [settledIds, BrokerCallback.completes]
        · exact hcounted
      | onError => exact Accounted.congr hpop rfl rfl (List.Perm.refl _) rfl
      | onCallbackFailure => exact Accounted.congr hpop rfl rfl (List.Perm.refl _) rfl

theorem accounted_run (events : List Event) : Accounted [] (run step initial events) :=
  run_invariant accounted_step accounted_initial events

/-! ## What every reachable state shows -/

/-- `submit` has handed out the identifier. -/
def Submitted (s : BrokerRun) (operationId : Nat) : Prop :=
  1 ≤ operationId ∧ operationId < s.broker.nextOperationId

/-- How often `on_success` or `on_error` of an operation was invoked. -/
def completions (s : BrokerRun) (operationId : Nat) : Nat := s.settledIds.count operationId

/-- Operations complete once, are accounted for, and are not touched by late replies. -/
structure CompletesOnce (s : BrokerRun) : Prop where
  /-- Of all submitted operations at most one is neither done nor being cancelled. -/
  one_in_flight : ∀ first second, s.Submitted first → s.Submitted second →
    (∀ operationId ∈ [first, second], s.completions operationId = 0 ∧
      operationId ∉ s.cancelledIds ∧ operationId ∉ s.heldIds) → first = second
  completed_once : ∀ operationId, s.Submitted operationId →
    s.completions operationId =
      if operationId ∈ s.cancelledIds ∨ operationId ∈ s.outstandingIds then 0 else 1
  overdue : ∀ current now, s.broker.inFlight = some current → current.deadline ≤ now →
    current.operationId ∉ (s.step (.expireDue now)).inFlightIds
  accounting : s.broker.submitted =
    s.broker.completed + s.broker.failed + s.broker.cancelled + s.outstandingIds.length
  late_reply : ∀ operationId, operationId ∉ s.inFlightIds →
    (∀ value now, s.step (.replySuccess operationId value now) = s.lateReply) ∧
    ∀ error now, s.step (.replyError operationId error now) = s.lateReply

/-- A submitted operation is at one of the places, and once over all of them. -/
theorem Accounted.count (h : Accounted [] s) {operationId : Nat}
    (hsubmitted : s.Submitted operationId) :
    s.completions operationId + s.cancelledIds.count operationId +
      s.outstandingIds.count operationId = 1 := by
  have hmem : operationId ∈ List.range' 1 s.broker.submitted := by
    rw [List.mem_range'_1]
    have hnext := h.next
    have hbounds := hsubmitted
    rw [Submitted, hnext] at hbounds
    omega
  have hcount := h.once.count_eq operationId
  rw [List.count_eq_one_of_mem List.nodup_range' hmem] at hcount
  simpa only [completions, places, List.append_nil, List.count_append] using hcount

/-- Whatever foreign code does, in every reachable state operations complete once. -/
theorem completes_once (events : List Event) : CompletesOnce (run step initial events) := by
  have h := accounted_run events
  generalize run step initial events = s at h
  constructor
  · -- what is nowhere else is in the slot, which holds one operation
    intro first second hfirst hsecond hopen
    have hslot : ∀ operationId ∈ [first, second], s.Submitted operationId →
        operationId ∈ s.inFlightIds := by
      intro operationId hmem hsubmitted
      obtain ⟨hnone, hcancelled, hheld⟩ := hopen operationId hmem
      have hcount := h.count hsubmitted
      rw [hnone, List.count_eq_zero.mpr hcancelled, outstandingIds, List.count_append,
        List.count_eq_zero.mpr hheld] at hcount
      exact List.count_pos_iff.mp (by omega)
    have hone := hslot first (by simp) hfirst
    have htwo := hslot second (by simp) hsecond
    rw [inFlightIds] at hone htwo
    cases hcurrent : s.broker.inFlight with
    | none => simp [hcurrent] at hone
    | some current =>
      simp only [hcurrent, Option.toList_some, List.map_cons, List.map_nil,
        List.mem_singleton] at hone htwo
      exact hone.trans htwo.symm
  · intro operationId hsubmitted
    have hcount := h.count hsubmitted
    split_ifs with helsewhere
    · rcases helsewhere with hcancelled | houtstanding
      · have := List.count_pos_iff.mpr hcancelled
        omega
      · have := List.count_pos_iff.mpr houtstanding
        omega
    · rw [not_or] at helsewhere
      rw [List.count_eq_zero.mpr helsewhere.1, List.count_eq_zero.mpr helsewhere.2] at hcount
      exact hcount
  · intro current now hslot hdue
    have hempty : (s.step (.expireDue now)).broker.inFlight = none := by
      rw [step, expireDue, hslot]
      simp only [if_neg (not_lt.mpr hdue), recordTimeout]
      split_ifs <;> rfl
    simp [inFlightIds, hempty]
  · have hlength := h.once.length_eq
    simp only [places, List.append_nil, List.length_append, List.length_range'] at hlength
    rw [h.settled, h.cancelled]
    exact hlength.symm
  · intro operationId hlate
    rcases s.takeCurrent_cases operationId with ⟨-, htake⟩ | ⟨current, hslot, hid, -⟩
    · exact ⟨fun value now => by rw [step, finishSuccess, htake],
        fun error now => by rw [step, finishError, htake]⟩
    · exact absurd (by simp [inFlightIds, hslot, hid]) hlate

theorem oneSecond_pos : (0 : ℚ) < 1 := by norm_num

/-- A read with a timeout of one second. -/
def readOperation : DbusAsyncOperation where
  rateKind := "read"
  metricKind := "read"
  source := ""
  timeoutSeconds := 1
  hasCallbackFailure := false
  optionalFailure := false
  timeout_pos := oneSecond_pos

/-- An operation that was answered in time. -/
def answered : BrokerRun :=
  run step initial [.submit readOperation true 10, .returned none 10, .replySuccess 1 .null (21 / 2),
    .returned none (21 / 2)]

/-- A duplicate reply changes a counter: it is counted as late. -/
theorem duplicate_reply_counted : 1 ∉ answered.inFlightIds ∧
    (answered.step (.replySuccess 1 .null 11)).broker.lateReplies ≠ answered.broker.lateReplies := by
  decide +kernel

end BrokerRun

end VenusEvcharger
