import VenusEvcharger.Ipc.FastPublicationRuns
import VenusEvcharger.Ipc.PublicationHighWater

/-!
# Applied orders do not regress across lanes

A run is traced with the greatest order reported applied for each field, and with that order at the
time each transient field was admitted. Nothing older than an applied value is handed out as long
as the mark of a field is not lost: the queue gives up the volatile mark of a lost publication even
when it stands for an older value that was applied or is still to be reported, and it forgets an
applied durable order that does not fit into the history.
-/

namespace VenusEvcharger

open Library

/-- A transient field taken into the queue at an order, while `level` was applied for it. -/
structure FastAdmission where
  fieldKey : PublicationFieldKey
  order : Nat
  level : Nat

/-- A run with the orders that were reported applied, and the admitted transient fields. -/
structure AppliedRun where
  run : FastRun
  applied : PublicationFieldKey → Nat
  admitted : List FastAdmission

/-- Whether a publication has a field. -/
def FastPublicationWork.Publishes [PyLib] (work : FastPublicationWork)
    (fieldKey : PublicationFieldKey) : Prop :=
  commandKey work.command = fieldKey.1 ∧ (work.order? fieldKey.2).isSome

namespace AppliedRun

section

variable [PyLib]

/-- Nothing is applied or admitted yet. -/
def start (capacity orderCapacity : Int) (orderRetentionSeconds : ℚ)
    (orderState : Option StateFiles) (now : ℚ) : AppliedRun :=
  ⟨FastRun.start capacity orderCapacity orderRetentionSeconds orderState now, fun _ => 0, []⟩

/-- The publication that an operation reports as applied. -/
def reported (s : AppliedRun) : FastEvent → Option CommandPayload
  | .recordOutcome work state _ =>
    if work ∈ s.run.leases ∧ state = "applied" then some work.command else none
  | .recordDurableOutcome payload state _ _ =>
    if payload ∈ s.run.prepared ∧ state = "applied" then some payload else none
  | _ => none

/-- The order that a publication has for a field of a key. -/
def publicationLevel (command : CommandPayload) (fieldKey : PublicationFieldKey) : Nat :=
  if commandKey command = fieldKey.1 then (publishedOrder command fieldKey.2).getD 0 else 0

/-- The transient fields that an operation takes into the queue. -/
def admissions (s : AppliedRun) : FastEvent → List FastAdmission
  | .enqueue command clock =>
    if (s.run.queue.enqueue command clock).1.accepted then
      (s.run.queue.enqueueClaim command clock).1.acceptedFields.map fun field =>
        ⟨(commandKey command, field), (publishedOrder command field).getD 0,
          s.applied (commandKey command, field)⟩
    else []
  | _ => []

/-- One operation of a traced run. -/
def step (s : AppliedRun) (e : FastEvent) : AppliedRun where
  run := s.run.step e
  applied := fun fieldKey =>
    match s.reported e with
    | some command => max (s.applied fieldKey) (publicationLevel command fieldKey)
    | none => s.applied fieldKey
  admitted := s.admissions e ++ s.admitted

/-! ## What a run may do -/

/-- The marks are read inside the retention window. -/
def InsideRetention (s : AppliedRun) : FastEvent → Prop
  | .enqueue _ clock => s.run.queue.history.RetainsAll clock.claimNow
  | .prepareDurable _ _ claimNow => s.run.queue.history.RetainsAll claimNow
  | .recordDurableOutcome _ _ now _ => s.run.queue.history.RetainsAll now
  | _ => True

instance decidableInsideRetention (s : AppliedRun) : ∀ e, Decidable (s.InsideRetention e)
  | .enqueue _ clock =>
    inferInstanceAs (Decidable (s.run.queue.history.RetainsAll clock.claimNow))
  | .prepareDurable _ _ claimNow =>
    inferInstanceAs (Decidable (s.run.queue.history.RetainsAll claimNow))
  | .recordDurableOutcome _ _ now _ =>
    inferInstanceAs (Decidable (s.run.queue.history.RetainsAll now))
  | .popNext _ | .requeue .. | .recordOutcome .. | .pruneExpired _ => isTrue trivial

/-- Every field of a new publication is ordered. -/
def OrdersPositive (_ : AppliedRun) : FastEvent → Prop
  | .enqueue command _ | .prepareDurable command _ _ =>
    ∀ entry ∈ (publicationFieldOrders command).entries, 0 < entry.2
  | _ => True

instance decidableOrdersPositive (s : AppliedRun) : ∀ e, Decidable (s.OrdersPositive e)
  | .enqueue command _ | .prepareDurable command _ _ =>
    inferInstanceAs (Decidable (∀ entry ∈ (publicationFieldOrders command).entries, 0 < entry.2))
  | .popNext _ | .requeue .. | .recordOutcome .. | .pruneExpired _ | .recordDurableOutcome .. =>
    isTrue trivial

/-- The fields whose volatile mark an operation gives up together with their publication. -/
def GivesUp (s : FastRun) (e : FastEvent) (fieldKey : PublicationFieldKey) : Prop :=
  match e with
  | .popNext now | .pruneExpired now | .prepareDurable _ now _ =>
    s.queue.QueuedExpired now fieldKey ∧
      fastMarkMatches (s.queue.history.marks.get? fieldKey)
        ((s.queue.queuedOrder fieldKey).getD 0) = true
  | .requeue work _ now => work ∈ s.leases ∧ commandKey work.command = fieldKey.1 ∧
      (∀ field, (work.order? field).isSome → work.Expired now field) ∧
      fastMarkMatches (s.queue.history.marks.get? fieldKey) ((work.order? fieldKey.2).getD 0) = true
  | .recordOutcome work state _ => work ∈ s.leases ∧ commandKey work.command = fieldKey.1 ∧
      state = "dropped" ∧
      fastMarkMatches (s.queue.history.marks.get? fieldKey) ((work.order? fieldKey.2).getD 0) = true
  | .enqueue .. | .recordDurableOutcome .. => False

/-- The fields of the publications that are queued or leased besides the lost one. -/
def HeldBeside (s : FastRun) (e : FastEvent) (fieldKey : PublicationFieldKey) : Prop :=
  match e with
  | .requeue work _ _ | .recordOutcome work _ _ =>
    (s.queue.queuedOrder fieldKey).isSome ∨ ∃ other ∈ s.leases.erase work, other.Publishes fieldKey
  | _ => ∃ other ∈ s.leases, other.Publishes fieldKey

/-- Marks are given up only for fields with nothing applied and nothing else to report, and an
applied durable publication finds room in the history. -/
structure MarksKept (s : AppliedRun) (e : FastEvent) : Prop where
  given_up : ∀ fieldKey, GivesUp s.run e fieldKey →
    s.applied fieldKey = 0 ∧ ¬ HeldBeside s.run e fieldKey
  stored : ∀ payload state now stamp, e = .recordDurableOutcome payload state now stamp →
    payload ∈ s.run.prepared → state = "applied" →
    (s.run.queue.history.claimDurable (commandKey payload) (publicationFieldOrders payload)
      s.run.queue.activeFields now).state ≠ .full

/-- Nothing older than an applied value is handed out: by `pop_next` for a field that was admitted
afterwards, or by `prepare_durable`. -/
def NoRegression (s : AppliedRun) : FastEvent → Prop
  | .popNext now => ∀ work, (s.run.queue.popNext now).1 = some work →
      ∀ field order, work.order? field = some order → ∀ admission ∈ s.admitted,
        admission.fieldKey = (commandKey work.command, field) → admission.order = order →
        admission.level ≤ order
  | .prepareDurable command pruneNow claimNow => ∀ payload,
      (s.run.queue.prepareDurable command pruneNow claimNow).1 = .ok (some payload) →
      ∀ field order, publishedOrder payload field = some order →
        s.applied (commandKey payload, field) ≤ order
  | _ => True

/-! ## High-water orders cover what was applied and what is outstanding -/

/-- A field is queued or leased at an order. -/
def Outstanding (s : FastRun) (fieldKey : PublicationFieldKey) (order : Nat) : Prop :=
  s.queue.queuedOrder fieldKey = some order ∨
    ∃ work ∈ s.leases, commandKey work.command = fieldKey.1 ∧ work.order? fieldKey.2 = some order

/-- The invariant: the high-water order of a field is at least every order that was applied or is
outstanding, and no field was admitted below an applied order. -/
structure Covered (s : AppliedRun) : Prop where
  wellFormed : s.run.WellFormed
  applied : ∀ fieldKey, s.applied fieldKey ≤ s.run.queue.history.highWater fieldKey
  outstanding : ∀ fieldKey order, Outstanding s.run fieldKey order →
    0 < order ∧ order ≤ s.run.queue.history.highWater fieldKey
  admitted : ∀ admission ∈ s.admitted, admission.level ≤ admission.order

theorem covered_start (capacity orderCapacity : Int) (orderRetentionSeconds : ℚ)
    (orderState : Option StateFiles) (now : ℚ) :
    (start capacity orderCapacity orderRetentionSeconds orderState now).Covered where
  wellFormed := FastRun.wellFormed_start capacity orderCapacity orderRetentionSeconds orderState now
  applied := fun _ => Nat.zero_le _
  outstanding := by
    rintro fieldKey order (hqueued | ⟨work, hwork, -⟩)
    · simp [start, FastRun.start, FastPublicationQueue.create, FastPublicationQueue.queuedOrder]
        at hqueued
    · exact absurd hwork List.not_mem_nil
  admitted := by simp [start]

variable {s : AppliedRun}

/-- An operation without effect keeps the invariant. -/
theorem Covered.of_run_eq (hcov : s.Covered) {t : AppliedRun} (hrun : t.run = s.run)
    (happlied : t.applied = s.applied) (hadmitted : t.admitted = s.admitted) : t.Covered where
  wellFormed := hrun ▸ hcov.wellFormed
  applied := by
    rw [happlied, hrun]
    exact hcov.applied
  outstanding := by
    rw [hrun]
    exact hcov.outstanding
  admitted := by
    rw [hadmitted]
    exact hcov.admitted

/-- What an operation adds to nothing reported. -/
theorem applied_step_of_not_reported {e : FastEvent} (h : s.reported e = none) :
    (s.step e).applied = s.applied := by
  funext fieldKey
  simp only [step, h]

variable {command : CommandPayload}

theorem applied_step_of_reported {e : FastEvent}
    (h : s.reported e = some command) (fieldKey : PublicationFieldKey) :
    (s.step e).applied fieldKey = max (s.applied fieldKey) (publicationLevel command fieldKey) := by
  simp only [step, h]

theorem publicationLevel_le {fieldKey : PublicationFieldKey} {bound : Nat}
    (h : ∀ order, commandKey command = fieldKey.1 → publishedOrder command fieldKey.2 = some order →
      order ≤ bound) : publicationLevel command fieldKey ≤ bound := by
  rw [publicationLevel]
  split_ifs with hkey
  · cases horder : publishedOrder command fieldKey.2 with
    | none => exact Nat.zero_le bound
    | some order => exact h order hkey horder
  · exact Nat.zero_le bound

/-- Pruning keeps the high-water orders that are still needed. -/
theorem covered_prune (hcov : s.Covered) (now : ℚ)
    (hkept : ∀ fieldKey, s.run.queue.QueuedExpired now fieldKey ∧
      fastMarkMatches (s.run.queue.history.marks.get? fieldKey)
        ((s.run.queue.queuedOrder fieldKey).getD 0) = true →
      s.applied fieldKey = 0 ∧ ¬ ∃ other ∈ s.run.leases, other.Publishes fieldKey) :
    Covered { s with run := { s.run with queue := s.run.queue.pruneExpired now } } where
  wellFormed := ⟨FastPublicationQueue.wellFormed_pruneExpired hcov.wellFormed.queue now,
    hcov.wellFormed.leases⟩
  applied := by
    intro fieldKey
    change s.applied fieldKey ≤ _
    rw [FastPublicationQueue.highWater_pruneExpired hcov.wellFormed.queue]
    split_ifs with hgiven
    · exact (hkept fieldKey hgiven).1.le
    · exact hcov.applied fieldKey
  outstanding := by
    rintro fieldKey order (hqueued | ⟨work, hwork, hkey, horder⟩)
    · change (s.run.queue.pruneExpired now).queuedOrder fieldKey = some order at hqueued
      rw [FastPublicationQueue.highWater_pruneExpired hcov.wellFormed.queue]
      rw [FastPublicationQueue.queuedOrder_pruneExpired hcov.wellFormed.queue] at hqueued
      split_ifs at hqueued with hexpired
      rw [if_neg fun h => hexpired h.1]
      exact hcov.outstanding fieldKey order (.inl hqueued)
    · rw [FastPublicationQueue.highWater_pruneExpired hcov.wellFormed.queue]
      split_ifs with hgiven
      · exact absurd ⟨work, hwork, hkey, by rw [horder]; rfl⟩ (hkept fieldKey hgiven).2
      · exact hcov.outstanding fieldKey order (.inr ⟨work, hwork, hkey, horder⟩)
  admitted := hcov.admitted

/-- Giving up a lease keeps the high-water orders that are still needed. -/
theorem covered_giveUp (hcov : s.Covered) {work : FastPublicationWork}
    (hkept : ∀ fieldKey, commandKey work.command = fieldKey.1 →
      fastMarkMatches (s.run.queue.history.marks.get? fieldKey)
        ((work.order? fieldKey.2).getD 0) = true →
      s.applied fieldKey = 0 ∧ ¬ ((s.run.queue.queuedOrder fieldKey).isSome ∨
        ∃ other ∈ s.run.leases.erase work, other.Publishes fieldKey)) :
    Covered { s with
      run := { s.run with
        queue := s.run.queue.releaseFastWork work
        leases := s.run.leases.erase work } } := by
  have hmark : ∀ fieldKey, (s.run.queue.releaseFastWork work).history.highWater fieldKey =
      if fieldKey.1 = commandKey work.command ∧
        fastMarkMatches (s.run.queue.history.marks.get? fieldKey)
          ((work.order? fieldKey.2).getD 0) = true then 0
      else s.run.queue.history.highWater fieldKey := by
    intro fieldKey
    rw [FastPublicationQueue.releaseFastWork, PublicationOrderHistory.highWater_releaseFast,
      getD_publicationFieldOrders]
    rfl
  refine ⟨⟨hcov.wellFormed.queue, fun other hother =>
    hcov.wellFormed.leases other (List.mem_of_mem_erase hother)⟩, fun fieldKey => ?_, ?_, hcov.admitted⟩
  · change s.applied fieldKey ≤ (s.run.queue.releaseFastWork work).history.highWater fieldKey
    rw [hmark]
    split_ifs with hgiven
    · exact (hkept fieldKey hgiven.1.symm hgiven.2).1.le
    · exact hcov.applied fieldKey
  · intro fieldKey order houtstanding
    change 0 < order ∧ order ≤ (s.run.queue.releaseFastWork work).history.highWater fieldKey
    rw [hmark]
    split_ifs with hgiven
    · refine absurd ?_ (hkept fieldKey hgiven.1.symm hgiven.2).2
      rcases houtstanding with hqueued | ⟨other, hother, hkey, horder⟩
      · exact .inl (Option.isSome_iff_exists.mpr ⟨order, hqueued⟩)
      · exact .inr ⟨other, hother, hkey, by rw [horder]; rfl⟩
    · refine hcov.outstanding fieldKey order ?_
      rcases houtstanding with hqueued | ⟨other, hother, hkey, horder⟩
      · exact .inl hqueued
      · exact .inr ⟨other, List.mem_of_mem_erase hother, hkey, horder⟩

omit [PyLib] in
theorem order_pos
    (hpositive : ∀ entry ∈ (publicationFieldOrders command).entries, 0 < entry.2) {field : String}
    {order : Nat} (horder : publishedOrder command field = some order) : 0 < order :=
  hpositive (field, order) (Dict.mem_entries_iff.mpr (by rwa [get?_publicationFieldOrders]))

section

variable (hcov : s.Covered)
include hcov

theorem covered_enqueue (command : CommandPayload) (clock : EnqueueClock)
    (hinside : s.InsideRetention (.enqueue command clock))
    (hpositive : s.OrdersPositive (.enqueue command clock)) :
    (s.step (.enqueue command clock)).Covered := by
  have hwf := FastRun.wellFormed_step hcov.wellFormed (.enqueue command clock)
  have hgrown : ∀ fieldKey, s.run.queue.history.highWater fieldKey ≤
      (s.run.queue.enqueueClaim command clock).2.highWater fieldKey := fun fieldKey =>
    PublicationOrderHistory.highWater_le_claimFast _ _ _ hinside _ fieldKey
  have hadmitted : ∀ admission ∈ (s.step (.enqueue command clock)).admitted,
      admission.level ≤ admission.order := by
    intro admission hmem
    rcases List.mem_append.mp hmem with hnew | hold
    · rw [admissions] at hnew
      split_ifs at hnew
      · obtain ⟨field, hfield, rfl⟩ := List.mem_map.mp hnew
        have hle := (PublicationOrderHistory.highWater_accepted_claimFast _ _ _ hinside _ hfield).1
        rw [getD_publicationFieldOrders] at hle
        exact (hcov.applied _).trans hle
      · exact absurd hnew List.not_mem_nil
    · exact hcov.admitted admission hold
  have happlied := applied_step_of_not_reported
    (show s.reported (.enqueue command clock) = none from rfl)
  -- The call is refused, leaves only its claim, or its work is queued.
  rcases FastPublicationQueue.enqueue_cases s.run.queue command clock with
    hsame | ⟨-, hclaimed⟩ | ⟨hkey, -, ttl, -, haccepted⟩
  · have hrun : (s.step (.enqueue command clock)).run = s.run := by
      rw [step, FastRun.step, hsame]
    refine ⟨hwf, fun fieldKey => ?_, ?_, hadmitted⟩
    · rw [happlied, hrun]
      exact hcov.applied fieldKey
    · rw [hrun]
      exact hcov.outstanding
  · have hrun : (s.step (.enqueue command clock)).run = { s.run with
        queue := { s.run.queue with
          history := (s.run.queue.enqueueClaim command clock).2 } } := by
      rw [step, FastRun.step, hclaimed]
    refine ⟨hwf, fun fieldKey => ?_, fun fieldKey order houtstanding => ?_, hadmitted⟩
    · rw [happlied, hrun]
      exact (hcov.applied fieldKey).trans (hgrown fieldKey)
    · rw [hrun] at houtstanding ⊢
      obtain ⟨hpos, hle⟩ := hcov.outstanding fieldKey order houtstanding
      exact ⟨hpos, hle.trans (hgrown fieldKey)⟩
  · have hhistory : (s.step (.enqueue command clock)).run.queue.history =
        (s.run.queue.enqueueClaim command clock).2 := by
      rw [step, FastRun.step, haccepted]
      rfl
    have hqueue : ∀ fieldKey, (s.step (.enqueue command clock)).run.queue.queuedOrder fieldKey =
        if fieldKey.1 = commandKey command then
          (FastPublicationQueue.mergedWork (s.run.queue.commands.get? (commandKey command)) command
            (commandKey command) (s.run.queue.enqueueClaim command clock).1.acceptedFields ttl
            clock.workNow clock.workEpoch).order? fieldKey.2
        else s.run.queue.queuedOrder fieldKey := by
      intro fieldKey
      rw [step, FastRun.step, haccepted]
      exact FastPublicationQueue.queuedOrder_set _ _ _ _
    refine ⟨hwf, fun fieldKey => ?_, ?_, hadmitted⟩
    · rw [happlied, hhistory]
      exact (hcov.applied fieldKey).trans (hgrown fieldKey)
    · have hold : ∀ fieldKey order, Outstanding s.run fieldKey order →
          0 < order ∧ order ≤ (s.run.queue.enqueueClaim command clock).2.highWater fieldKey :=
        fun fieldKey order houtstanding => by
          obtain ⟨hpos, hle⟩ := hcov.outstanding fieldKey order houtstanding
          exact ⟨hpos, hle.trans (hgrown fieldKey)⟩
      rintro ⟨key, field⟩ order (hqueued | hleased)
      · rw [hhistory]
        rw [hqueue] at hqueued
        split_ifs at hqueued with hsame
        · obtain rfl : key = commandKey command := hsame
          -- Merged work holds the larger of the order that was queued and the one that the claim accepted.
          set accepted := (s.run.queue.enqueueClaim command clock).1.acceptedFields with haccepted
          have hsome : ((s.run.queue.commands.get? (commandKey command)).bind
              (·.order? field)).isSome = true ∨
              (if field ∈ accepted then publishedOrder command field else none).isSome = true := by
            have hmerged := FastPublicationQueue.isSome_order?_mergedWork
              (s.run.queue.commands.get? (commandKey command)) command (commandKey command) accepted
              ttl clock.workNow clock.workEpoch field
            rw [show FastPublicationWork.order? _ field = some order from hqueued] at hmerged
            rcases Bool.or_eq_true_iff.mp hmerged.symm with hexisting | hnew
            · exact .inl hexisting
            · obtain ⟨hmem, hsome⟩ := Bool.and_eq_true_iff.mp hnew
              exact .inr (by rwa [if_pos (of_decide_eq_true hmem)])
          obtain ⟨largest, hmerge, hone⟩ := exists_merge_max hsome
          have hbound : 0 < largest ∧ largest ≤
              (s.run.queue.enqueueClaim command clock).2.highWater (commandKey command, field) := by
            rcases hone with hexisting | hnew
            · exact hold (commandKey command, field) largest (.inl hexisting)
            · split_ifs at hnew with hmem
              have hle := (PublicationOrderHistory.highWater_accepted_claimFast _ _ _ hinside _
                (haccepted ▸ hmem)).2
              rw [getD_publicationFieldOrders, hnew] at hle
              exact ⟨order_pos hpositive hnew, hle⟩
          obtain rfl := Option.some.inj
            (hqueued.symm.trans (FastPublicationQueue.order?_mergedWork hmerge hbound.1))
          exact hbound
        · exact hold (key, field) order (.inl hqueued)
      · rw [hhistory]
        exact hold (key, field) order (.inr hleased)

theorem covered_popNext (now : ℚ) (hkept : s.MarksKept (.popNext now)) :
    (s.step (.popNext now)).Covered := by
  have hpruned := covered_prune hcov now hkept.given_up
  have hwf := FastRun.wellFormed_step hcov.wellFormed (.popNext now)
  rcases FastPublicationQueue.popNext_cases s.run.queue now with hnone | ⟨key, work, hwork, hsome⟩
  · have hrun : (s.step (.popNext now)).run = { s.run with queue := s.run.queue.pruneExpired now } := by
      rw [step, FastRun.step, hnone]
      rfl
    refine ⟨hwf, fun fieldKey => ?_, fun fieldKey order houtstanding => ?_, hcov.admitted⟩
    · rw [hrun]
      exact hpruned.applied fieldKey
    · rw [hrun] at houtstanding ⊢
      exact hpruned.outstanding fieldKey order houtstanding
  · have hkey := (hpruned.wellFormed.queue key work hwork).key_eq
    have hrun : (s.step (.popNext now)).run = { s.run with
        queue := { s.run.queue.pruneExpired now with
          commands := (s.run.queue.pruneExpired now).commands.erase key }
        leases := work :: s.run.leases } := by
      rw [step, FastRun.step, hsome]
      rfl
    refine ⟨hwf, fun fieldKey => ?_, fun fieldKey order houtstanding => ?_, hcov.admitted⟩
    · rw [hrun]
      exact hpruned.applied fieldKey
    · rw [hrun] at houtstanding ⊢
      -- what left the queue is leased, so the same orders are outstanding
      refine hpruned.outstanding fieldKey order ?_
      rcases houtstanding with hqueued | ⟨lease, hlease, hleaseKey, horder⟩
      · left
        change (((s.run.queue.pruneExpired now).commands.erase key).get? fieldKey.1).bind
          (·.order? fieldKey.2) = some order at hqueued
        rw [Dict.get?_erase] at hqueued
        split_ifs at hqueued
        · exact absurd hqueued (Option.some_ne_none order).symm
        · exact hqueued
      · rcases List.mem_cons.mp hlease with rfl | hold
        · left
          obtain rfl : key = fieldKey.1 := hkey.symm.trans hleaseKey
          change ((s.run.queue.pruneExpired now).commands.get? fieldKey.1).bind
            (·.order? fieldKey.2) = some order
          rw [hwork]
          exact horder
        · exact .inr ⟨lease, hold, hleaseKey, horder⟩

theorem covered_requeue (work : FastPublicationWork) (deferred : Bool) (now : ℚ)
    (hkept : s.MarksKept (.requeue work deferred now)) :
    (s.step (.requeue work deferred now)).Covered := by
  have hwf := FastRun.wellFormed_step hcov.wellFormed (.requeue work deferred now)
  by_cases hlease : work ∈ s.run.leases
  · rcases FastPublicationQueue.requeue_cases hcov.wellFormed.queue
      (hcov.wellFormed.leases work hlease) deferred now with
      ⟨hreleased, hall⟩ | ⟨retained, merged, hretained, -, hset, hsome, hmerged⟩
    · have hrun : (s.step (.requeue work deferred now)).run = { s.run with
          queue := s.run.queue.releaseFastWork work
          leases := s.run.leases.erase work } := by
        rw [step, FastRun.step, if_pos hlease, hreleased]
      have hgiven := covered_giveUp hcov fun fieldKey hkey hmatch =>
        hkept.given_up fieldKey ⟨hlease, hkey, hall, hmatch⟩
      refine ⟨hwf, fun fieldKey => ?_, fun fieldKey order houtstanding => ?_, hcov.admitted⟩
      · rw [hrun]
        exact hgiven.applied fieldKey
      · rw [hrun] at houtstanding ⊢
        exact hgiven.outstanding fieldKey order houtstanding
    · have hrun : (s.step (.requeue work deferred now)).run = { s.run with
          queue := { s.run.queue with
            commands := ((s.run.queue.commands.set (commandKey work.command) merged).moveToEnd
              (commandKey work.command)) }
          leases := s.run.leases.erase work } := by
        rw [step, FastRun.step, if_pos hlease, hset]
      refine ⟨hwf, fun fieldKey => ?_, fun fieldKey order houtstanding => ?_, hcov.admitted⟩
      · rw [hrun]
        exact hcov.applied fieldKey
      · rw [hrun] at houtstanding ⊢
        change 0 < order ∧ order ≤ s.run.queue.history.highWater fieldKey
        rcases houtstanding with hqueued | ⟨other, hother, hkey, horder⟩
        · rw [FastPublicationQueue.queuedOrder, FastPublicationQueue.queuedOrder_set] at hqueued
          split_ifs at hqueued with hsame
          · obtain ⟨key, field⟩ := fieldKey
            obtain rfl : key = commandKey work.command := hsame
            have hparts := hsome field
            rw [hqueued, Option.isSome_some] at hparts
            obtain ⟨largest, hmerge, hone⟩ := exists_merge_max (Bool.or_eq_true_iff.mp hparts.symm)
            have hbound : 0 < largest ∧
                largest ≤ s.run.queue.history.highWater (commandKey work.command, field) := by
              rcases hone with hleft | hqueuedBefore
              · rw [hretained] at hleft
                split_ifs at hleft
                exact hcov.outstanding _ _ (.inr ⟨work, hlease, rfl, hleft⟩)
              · exact hcov.outstanding _ _ (.inl hqueuedBefore)
            obtain rfl := Option.some.inj (hqueued.symm.trans (hmerged field largest hmerge hbound.1))
            exact hbound
          · exact hcov.outstanding fieldKey order (.inl hqueued)
        · exact hcov.outstanding fieldKey order
            (.inr ⟨other, List.mem_of_mem_erase hother, hkey, horder⟩)
  · have hrun : (s.step (.requeue work deferred now)).run = s.run := by
      rw [step, FastRun.step, if_neg hlease]
    exact hcov.of_run_eq hrun rfl rfl

theorem covered_recordOutcome (work : FastPublicationWork) (state : String)
    (now : ℚ) (hkept : s.MarksKept (.recordOutcome work state now)) :
    (s.step (.recordOutcome work state now)).Covered := by
  have hwf := FastRun.wellFormed_step hcov.wellFormed (.recordOutcome work state now)
  by_cases hlease : work ∈ s.run.leases
  · by_cases happlied : state = "applied"
    · have hrun : (s.step (.recordOutcome work state now)).run = { s.run with
          queue := { s.run.queue with
            history := (s.run.queue.history.confirmFastApplied (commandKey work.command)
              (publicationFieldOrders work.command) now).2 }
          leases := s.run.leases.erase work } := by
        rw [step, FastRun.step, if_pos hlease, if_pos (.inl happlied),
          FastPublicationQueue.recordOutcome, if_pos happlied]
      have hreported : s.reported (.recordOutcome work state now) = some work.command :=
        if_pos ⟨hlease, happlied⟩
      refine ⟨hwf, fun fieldKey => ?_, fun fieldKey order houtstanding => ?_, hcov.admitted⟩
      · rw [applied_step_of_reported hreported, hrun,
          PublicationOrderHistory.highWater_confirmFastApplied]
        refine max_le (hcov.applied fieldKey) (publicationLevel_le fun order hkey horder => ?_)
        exact (hcov.outstanding fieldKey order (.inr ⟨work, hlease, hkey, horder⟩)).2
      · rw [hrun] at houtstanding ⊢
        rw [PublicationOrderHistory.highWater_confirmFastApplied]
        refine hcov.outstanding fieldKey order ?_
        rcases houtstanding with hqueued | ⟨other, hother, hkey, horder⟩
        · exact .inl hqueued
        · exact .inr ⟨other, List.mem_of_mem_erase hother, hkey, horder⟩
    · have hreported : s.reported (.recordOutcome work state now) = none :=
        if_neg fun h => happlied h.2
      by_cases hdropped : state = "dropped"
      · have hrun : (s.step (.recordOutcome work state now)).run = { s.run with
            queue := s.run.queue.releaseFastWork work
            leases := s.run.leases.erase work } := by
          rw [step, FastRun.step, if_pos hlease, if_pos (.inr hdropped),
            FastPublicationQueue.recordOutcome, if_neg happlied, if_pos hdropped]
        have hgiven := covered_giveUp hcov fun fieldKey hkey hmatch =>
          hkept.given_up fieldKey ⟨hlease, hkey, hdropped, hmatch⟩
        refine ⟨hwf, fun fieldKey => ?_, fun fieldKey order houtstanding => ?_, hcov.admitted⟩
        · rw [applied_step_of_not_reported hreported, hrun]
          exact hgiven.applied fieldKey
        · rw [hrun] at houtstanding ⊢
          exact hgiven.outstanding fieldKey order houtstanding
      · have hrun : (s.step (.recordOutcome work state now)).run = s.run := by
          rw [step, FastRun.step, if_pos hlease, if_neg (not_or.mpr ⟨happlied, hdropped⟩),
            FastPublicationQueue.recordOutcome, if_neg happlied, if_neg hdropped]
        exact hcov.of_run_eq hrun (applied_step_of_not_reported hreported) rfl
  · have hrun : (s.step (.recordOutcome work state now)).run = s.run := by
      rw [step, FastRun.step, if_neg hlease]
    have hreported : s.reported (.recordOutcome work state now) = none :=
      if_neg fun h => hlease h.1
    exact hcov.of_run_eq hrun (applied_step_of_not_reported hreported) rfl

theorem covered_recordDurableOutcome (payload : CommandPayload) (state : String)
    (now stamp : ℚ) (hinside : s.InsideRetention (.recordDurableOutcome payload state now stamp))
    (hkept : s.MarksKept (.recordDurableOutcome payload state now stamp)) :
    (s.step (.recordDurableOutcome payload state now stamp)).Covered := by
  have hwf := FastRun.wellFormed_step hcov.wellFormed (.recordDurableOutcome payload state now stamp)
  by_cases hreport : payload ∈ s.run.prepared ∧ state = "applied"
  · obtain ⟨hprepared, rfl⟩ := hreport
    have hreported : s.reported (.recordDurableOutcome payload "applied" now stamp) = some payload :=
      if_pos ⟨hprepared, rfl⟩
    have hrun : (s.step (.recordDurableOutcome payload "applied" now stamp)).run = { s.run with
        queue := s.run.queue.recordDurableOutcome payload "applied" now stamp } := by
      rw [step, FastRun.step, if_pos hprepared]
    have hhistory : (s.run.queue.recordDurableOutcome payload "applied" now stamp).history =
        s.run.queue.confirmedHistory payload now stamp := by
      rw [FastPublicationQueue.recordDurableOutcome_applied,
        FastPublicationQueue.history_removeFastFields]
    have hgrown : ∀ fieldKey, s.run.queue.history.highWater fieldKey ≤
        (s.run.queue.confirmedHistory payload now stamp).highWater fieldKey := fun fieldKey =>
      PublicationOrderHistory.highWater_le_confirmDurableApplied _ _ _ hinside stamp fieldKey
    refine ⟨hwf, fun fieldKey => ?_, fun fieldKey order houtstanding => ?_, hcov.admitted⟩
    · rw [applied_step_of_reported hreported, hrun, hhistory]
      refine max_le ((hcov.applied fieldKey).trans (hgrown fieldKey))
        (publicationLevel_le fun order hkey horder => ?_)
      obtain ⟨key, field⟩ := fieldKey
      obtain rfl : commandKey payload = key := hkey
      exact PublicationOrderHistory.le_highWater_confirmDurableApplied _ _ _ hinside stamp
        (hkept.stored payload "applied" now stamp rfl hprepared rfl)
        ((get?_publicationFieldOrders payload field).trans horder)
    · rw [hrun] at houtstanding ⊢
      change 0 < order ∧ order ≤
        (s.run.queue.recordDurableOutcome payload "applied" now stamp).history.highWater fieldKey
      rw [hhistory]
      have hbefore : Outstanding s.run fieldKey order := by
        rcases houtstanding with hqueued | hleased
        · left
          change (s.run.queue.recordDurableOutcome payload "applied" now stamp).queuedOrder fieldKey =
            some order at hqueued
          rw [FastPublicationQueue.queuedOrder_recordDurableOutcome hcov.wellFormed.queue] at hqueued
          split_ifs at hqueued
          exact hqueued
        · exact .inr hleased
      obtain ⟨hpos, hle⟩ := hcov.outstanding fieldKey order hbefore
      exact ⟨hpos, hle.trans (hgrown fieldKey)⟩
  · have hrun : (s.step (.recordDurableOutcome payload state now stamp)).run = s.run := by
      rw [step, FastRun.step]
      split_ifs with hprepared
      · rw [FastPublicationQueue.recordDurableOutcome, if_pos fun hstate => hreport ⟨hprepared, hstate⟩]
      · rfl
    exact hcov.of_run_eq hrun (applied_step_of_not_reported (if_neg hreport)) rfl

/-- Every operation that keeps its marks keeps what was applied covered. -/
theorem covered_step (e : FastEvent) (hinside : s.InsideRetention e)
    (hpositive : s.OrdersPositive e) (hkept : s.MarksKept e) : (s.step e).Covered := by
  cases e with
  | enqueue command clock => exact covered_enqueue hcov command clock hinside hpositive
  | popNext now => exact covered_popNext hcov now hkept
  | requeue work deferred now => exact covered_requeue hcov work deferred now hkept
  | recordOutcome work state now => exact covered_recordOutcome hcov work state now hkept
  | pruneExpired now => exact covered_prune hcov now hkept.given_up
  | prepareDurable command pruneNow claimNow =>
    have hwf := FastRun.wellFormed_step hcov.wellFormed (.prepareDurable command pruneNow claimNow)
    have hpruned := covered_prune hcov pruneNow hkept.given_up
    have hqueue : (s.step (.prepareDurable command pruneNow claimNow)).run.queue =
        s.run.queue.pruneExpired pruneNow :=
      FastPublicationQueue.prepareDurable_snd s.run.queue command pruneNow claimNow
    refine ⟨hwf, fun fieldKey => ?_, fun fieldKey order houtstanding => ?_, hcov.admitted⟩
    · rw [hqueue]
      exact hpruned.applied fieldKey
    · rw [Outstanding, hqueue] at houtstanding
      rw [hqueue]
      exact hpruned.outstanding fieldKey order houtstanding
  | recordDurableOutcome payload state now stamp =>
    exact covered_recordDurableOutcome hcov payload state now stamp hinside hkept

theorem noRegression_of_covered (e : FastEvent) (hinside : s.InsideRetention e)
    (hkept : s.MarksKept e) : s.NoRegression e := by
  cases e with
  | popNext now =>
    rintro work - field order - admission hmem - rfl
    exact hcov.admitted admission hmem
  | prepareDurable command pruneNow claimNow =>
    intro payload hpayload field order horder
    have hpruned := covered_prune hcov pruneNow hkept.given_up
    have hfilter := FastPublicationQueue.prepareDurable_fst hpayload
    have hretains : (s.run.queue.pruneExpired pruneNow).history.RetainsAll claimNow := by
      intro entry hentry
      have hmark := Dict.mem_entries_iff.mp hentry
      rw [FastPublicationQueue.marks_pruneExpired hcov.wellFormed.queue] at hmark
      split_ifs at hmark
      rw [FastPublicationQueue.pruneExpired_retentionSeconds]
      exact hinside entry (Dict.mem_entries_iff.mpr hmark)
    rw [publishedOrder_filter hfilter] at horder
    split_ifs at horder with hmem
    have hle := PublicationOrderHistory.highWater_accepted_claimDurable _ _ _ hretains hmem
    rw [getD_publicationFieldOrders, horder] at hle
    rw [commandKey_filter hfilter]
    exact (hpruned.applied (commandKey command, field)).trans hle
  | enqueue | requeue | recordOutcome | pruneExpired | recordDurableOutcome => exact trivial

end

/-- Along a run inside the retention window whose orders are positive and whose steps keep their
marks, nothing older than an applied value is handed out. -/
theorem no_regression_of_marks_kept (capacity orderCapacity : Int) (orderRetentionSeconds : ℚ)
    (orderState : Option StateFiles) (now : ℚ) (es : List FastEvent)
    (hinside : Along step InsideRetention
      (start capacity orderCapacity orderRetentionSeconds orderState now) es)
    (hpositive : Along step OrdersPositive
      (start capacity orderCapacity orderRetentionSeconds orderState now) es)
    (hkept : Along step MarksKept
      (start capacity orderCapacity orderRetentionSeconds orderState now) es) :
    Along step NoRegression (start capacity orderCapacity orderRetentionSeconds orderState now) es :=
  along_of_invariant
    (fun _ e hcov hok => covered_step hcov e hok.1 hok.2.1 hok.2.2)
    (fun _ e hcov hok => noRegression_of_covered hcov e hok.1 hok.2.2)
    (covered_start capacity orderCapacity orderRetentionSeconds orderState now)
    (hinside.and (hpositive.and hkept))

end

section

local instance : PyLib := PyLib.sample

/-- A new queue without order files. -/
def sampleStart : AppliedRun := start 4 4 60 none 0

/-- A durable value is applied, and an older one is asked for. -/
def appliedThenOlder : List FastEvent :=
  [.prepareDurable (FastRun.samplePublication "critical" 5) 1 1,
    .recordDurableOutcome (FastRun.preparedPublication "critical" 5) "applied" 1 1,
    .prepareDurable (FastRun.samplePublication "critical" 3) 2 2]

theorem marksKept_of_no_commands {s : AppliedRun} (hempty : s.run.queue.commands = Dict.empty)
    (command : CommandPayload) (pruneNow claimNow : ℚ) :
    s.MarksKept (.prepareDurable command pruneNow claimNow) where
  given_up := by
    rintro fieldKey ⟨⟨work, hwork, -⟩, -⟩
    rw [hempty] at hwork
    exact absurd hwork (by simp)
  stored := by simp

/-- The older value is not handed out. -/
theorem no_regression_applied_then_older : Along step NoRegression sampleStart appliedThenOlder := by
  refine no_regression_of_marks_kept 4 4 60 none 0 appliedThenOlder ?_ ?_ ?_
  · decide +kernel
  · decide +kernel
  · refine ⟨marksKept_of_no_commands (by decide +kernel) _ _ _, ⟨fun _ h => h.elim, ?_⟩,
      marksKept_of_no_commands (by decide +kernel) _ _ _, trivial⟩
    rintro payload state now stamp ⟨⟩ - -
    decide +kernel

/-- A durable value is applied, a newer transient one expires in the queue, and an older durable
value is asked for. -/
def lostNewerClaim : List FastEvent :=
  [.prepareDurable (FastRun.samplePublication "critical" 5) 1 1,
    .recordDurableOutcome (FastRun.preparedPublication "critical" 5) "applied" 1 1,
    .enqueue (FastRun.samplePublication "live" 10) (FastRun.sampleClock 2),
    .pruneExpired 40,
    .prepareDurable (FastRun.samplePublication "critical" 3) 41 41]

/-- The older value is handed out, although a newer one was applied. -/
theorem lost_newer_claim_regresses :
    Along step InsideRetention sampleStart lostNewerClaim ∧
      Along step OrdersPositive sampleStart lostNewerClaim ∧
      ¬ Along step NoRegression sampleStart lostNewerClaim := by
  refine ⟨by decide +kernel, by decide +kernel, ?_⟩
  rintro ⟨-, -, -, -, hkept, -⟩
  have hle := hkept (FastRun.preparedPublication "critical" 3) (by decide +kernel) "f" 3
    (by decide +kernel)
  exact absurd hle (by decide +kernel)

end

end AppliedRun

end VenusEvcharger
