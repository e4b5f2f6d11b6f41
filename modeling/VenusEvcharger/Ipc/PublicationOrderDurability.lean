import VenusEvcharger.Ipc.PublicationOrder
import VenusEvcharger.Library.Run
import Mathlib.Tactic.Linarith

/-!
# Restart after a run of the order history

A run is a sequence of operations on a history with a state path. The run keeps a log of what was
confirmed: a field, its order, and the reading at which its mark was stored. `Restores` says that a
restart at any later reading finds every logged field whose retention has not ended, at its order
or above. It holds in every state of a run exactly when every confirmation of the run satisfies
`ConfirmationKept`.
-/

namespace VenusEvcharger

open Library

/-- One operation on the history, with the clock readings it takes. -/
inductive HistoryOp where
  | claimFast (key : String) (fieldOrders : Dict String Nat)
      (activeFields : List PublicationFieldKey) (now stamp : ℚ)
  | claimDurable (key : String) (fieldOrders : Dict String Nat)
      (activeFields : List PublicationFieldKey) (now : ℚ)
  | confirmFastApplied (key : String) (fieldOrders : Dict String Nat) (now : ℚ)
  | confirmDurableApplied (key : String) (fieldOrders : Dict String Nat)
      (activeFields : List PublicationFieldKey) (now stamp : ℚ)
  | releaseFast (key : String) (fieldOrders : Dict String Nat)

namespace HistoryOp

/-- The first reading of an operation, or `clock` when it takes none. -/
def firstReading (clock : ℚ) : HistoryOp → ℚ
  | claimFast _ _ _ now _ | claimDurable _ _ _ now | confirmFastApplied _ _ now
  | confirmDurableApplied _ _ _ now _ => now
  | releaseFast _ _ => clock

/-- The last reading of an operation, or `clock` when it takes none. -/
def lastReading (clock : ℚ) : HistoryOp → ℚ
  | claimFast _ _ _ _ stamp | confirmDurableApplied _ _ _ _ stamp => stamp
  | claimDurable _ _ _ now | confirmFastApplied _ _ now => now
  | releaseFast _ _ => clock

/-- The marks a confirmation stores, and the memory it leaves. -/
def confirmation (h : PublicationOrderHistory) :
    HistoryOp → Option (PublicationOrderMarks × PublicationOrderMarks)
  | confirmFastApplied key fieldOrders now =>
    let confirmed := h.confirmFastMarks key fieldOrders now
    some (confirmed.2, confirmed.1)
  | confirmDurableApplied key fieldOrders activeFields now stamp =>
    let candidate := h.pruned now activeFields
    let claim := fieldClaim key fieldOrders candidate durableOrderClaimBlocked
    if claimFitsCapacity key fieldOrders claim candidate h.capacity then
      let updated := withClaimedMarks key fieldOrders .durable claim candidate stamp
      some (PublicationOrderHistory.claimedMarks key fieldOrders claim updated, updated)
    else none
  | _ => none

variable [PyLib]

/-- The effect of an operation, and whether it reported a stored confirmation. -/
def apply (h : PublicationOrderHistory) : HistoryOp → Bool × PublicationOrderHistory
  | claimFast key fieldOrders activeFields now stamp =>
    (false, (h.claimFast key fieldOrders activeFields now stamp).2)
  | claimDurable _ _ _ _ => (false, h)
  | confirmFastApplied key fieldOrders now => h.confirmFastApplied key fieldOrders now
  | confirmDurableApplied key fieldOrders activeFields now stamp =>
    h.confirmDurableApplied key fieldOrders activeFields now stamp
  | releaseFast key fieldOrders => (false, h.releaseFast key fieldOrders)

/-- A confirmation is stored by `_persist`. -/
theorem apply_of_confirmation {h : PublicationOrderHistory} {op : HistoryOp}
    {changed current : PublicationOrderMarks} (hop : op.confirmation h = some (changed, current)) :
    op.apply h = h.persist changed current := by
  cases op with
  | confirmFastApplied key fieldOrders now =>
    simp only [confirmation, Option.some.injEq, Prod.mk.injEq] at hop
    obtain ⟨rfl, rfl⟩ := hop
    rfl
  | confirmDurableApplied key fieldOrders activeFields now stamp =>
    simp only [confirmation] at hop
    split_ifs at hop with hfits
    simp only [Option.some.injEq, Prod.mk.injEq] at hop
    obtain ⟨rfl, rfl⟩ := hop
    simp only [apply, PublicationOrderHistory.confirmDurableApplied, if_pos hfits]
  | claimFast | claimDurable | releaseFast => simp [confirmation] at hop

/-- Every other operation stores nothing. -/
theorem apply_of_no_confirmation {h : PublicationOrderHistory} {op : HistoryOp}
    (hop : op.confirmation h = none) :
    (op.apply h).1 = false ∧ (op.apply h).2.state = h.state := by
  cases op with
  | confirmFastApplied => simp [confirmation] at hop
  | confirmDurableApplied key fieldOrders activeFields now stamp =>
    simp only [confirmation] at hop
    split_ifs at hop with hfits
    simp [apply, PublicationOrderHistory.confirmDurableApplied, hfits]
  | claimFast key fieldOrders activeFields now stamp =>
    refine ⟨rfl, ?_⟩
    simp only [apply, PublicationOrderHistory.claimFast]
    split_ifs <;> rfl
  | claimDurable | releaseFast => exact ⟨rfl, rfl⟩

variable {h : PublicationOrderHistory} {op : HistoryOp} {changed current : PublicationOrderMarks}
  {fieldKey : PublicationFieldKey} {mark : PublicationOrderMark}

omit [PyLib] in
/-- What a confirmation does to the mark of one field: it is stored and kept in memory, or it is
not stored and the memory holds what pruning left of it. -/
theorem confirmation_cases (hop : op.confirmation h = some (changed, current)) (clock : ℚ)
    (fieldKey : PublicationFieldKey) :
    (∃ mark : PublicationOrderMark, mark.lane = .durable ∧ mark.seenAt = op.lastReading clock ∧
      changed.get? fieldKey = some mark ∧ current.get? fieldKey = some mark) ∨
    (changed.get? fieldKey = none ∧
      (∀ mark, current.get? fieldKey = some mark → h.marks.get? fieldKey = some mark) ∧
      ∀ mark, h.marks.get? fieldKey = some mark →
        op.firstReading clock - h.retentionSeconds < mark.seenAt →
        current.get? fieldKey = some mark) := by
  cases op with
  | confirmFastApplied key fieldOrders now =>
    simp only [confirmation, Option.some.injEq, Prod.mk.injEq] at hop
    obtain ⟨rfl, rfl⟩ := hop
    rcases h.confirmFastMarks_cases key fieldOrders now fieldKey with
      ⟨mark, -, -, -, -, hcurrent, hchanged⟩ | ⟨-, hcurrent, hchanged⟩
    · exact .inl ⟨_, rfl, rfl, hchanged, hcurrent⟩
    · rw [hcurrent, hchanged]
      exact .inr ⟨rfl, fun _ hmark => hmark, fun _ hmark _ => hmark⟩
  | confirmDurableApplied key fieldOrders activeFields now stamp =>
    simp only [confirmation] at hop
    split_ifs at hop with hfits
    simp only [Option.some.injEq, Prod.mk.injEq] at hop
    obtain ⟨rfl, rfl⟩ := hop
    rcases withClaimedMarks_cases key fieldOrders
        (nodup_acceptedFields key fieldOrders (h.pruned now activeFields) durableOrderClaimBlocked)
        .durable (h.pruned now activeFields) stamp fieldKey with
      ⟨hpos, -, -, hcurrent, hchanged⟩ | ⟨-, hcurrent, hchanged⟩
    · exact .inl ⟨_, rfl, rfl, hchanged, hcurrent⟩
    · rw [hcurrent, hchanged, PublicationOrderHistory.pruned, get?_prunedMarks]
      refine .inr ⟨rfl, fun mark hmark => Option.filter_eq_some_iff.mp hmark |>.1, ?_⟩
      intro mark hmark hseen
      refine Option.filter_eq_some_iff.mpr ⟨hmark, ?_⟩
      simp only [Bool.or_eq_true, decide_eq_true_eq]
      exact .inr hseen
  | claimFast | claimDurable | releaseFast => simp [confirmation] at hop

theorem apply_mark (clock : ℚ) (hmark : (op.apply h).2.marks.get? fieldKey = some mark) :
    h.marks.get? fieldKey = some mark ∨ mark.seenAt = op.lastReading clock := by
  cases hop : op.confirmation h with
  | some delta =>
    obtain ⟨changed, current⟩ := delta
    rw [apply_of_confirmation hop] at hmark
    rcases confirmation_cases hop clock fieldKey with
      ⟨stored, -, hseen, -, hcurrent⟩ | ⟨-, hold, -⟩
    · obtain rfl := Option.some.inj (hcurrent.symm.trans hmark)
      exact .inr hseen
    · exact .inl (hold mark hmark)
  | none =>
    cases op with
    | claimFast key fieldOrders activeFields now stamp =>
      simp only [apply, PublicationOrderHistory.claimFast] at hmark
      split_ifs at hmark with hfits
      · rcases withClaimedMarks_cases key fieldOrders
            (nodup_acceptedFields key fieldOrders (h.pruned now activeFields)
              fastOrderClaimBlocked)
            .fast (h.pruned now activeFields) stamp fieldKey with
          ⟨hpos, -, -, hnew, -⟩ | ⟨-, hold, -⟩
        · obtain rfl := Option.some.inj (hnew.symm.trans hmark)
          exact .inr rfl
        · rw [hold, PublicationOrderHistory.pruned, get?_prunedMarks] at hmark
          exact .inl (Option.filter_eq_some_iff.mp hmark).1
      · exact .inl hmark
    | releaseFast key fieldOrders =>
      simp only [apply, PublicationOrderHistory.get?_releaseFast] at hmark
      split_ifs at hmark with hkey hmatch
      · exact .inl hmark
      · exact .inl hmark
    | claimDurable => exact .inl hmark
    | confirmFastApplied => simp [confirmation] at hop
    | confirmDurableApplied key fieldOrders activeFields now stamp =>
      simp only [confirmation] at hop
      split_ifs at hop with hfits
      simp only [apply, PublicationOrderHistory.confirmDurableApplied, if_neg hfits] at hmark
      exact .inl hmark

@[simp] theorem apply_retentionSeconds (h : PublicationOrderHistory) (op : HistoryOp) :
    (op.apply h).2.retentionSeconds = h.retentionSeconds := by
  cases op with
  | claimFast key fieldOrders activeFields now stamp =>
    simp only [apply, PublicationOrderHistory.claimFast]
    split_ifs <;> rfl
  | confirmDurableApplied key fieldOrders activeFields now stamp =>
    simp only [apply, PublicationOrderHistory.confirmDurableApplied]
    split_ifs <;> rfl
  | claimDurable | confirmFastApplied | releaseFast => rfl

end HistoryOp

/-- What a confirmation promised: a field, its order and when its mark was stored. -/
structure ConfirmedOrder where
  fieldKey : PublicationFieldKey
  order : Nat
  storedAt : ℚ
deriving DecidableEq

/-- A history, the log of its stored confirmations, and the last clock reading. -/
structure HistoryRun where
  history : PublicationOrderHistory
  log : List ConfirmedOrder
  clock : ℚ

/-- The log entries of stored marks. -/
def confirmedOrders (changed : PublicationOrderMarks) : List ConfirmedOrder :=
  changed.entries.map fun entry => ⟨entry.1, entry.2.order, entry.2.seenAt⟩

namespace HistoryRun

/-- The start of a run. -/
def start (h : PublicationOrderHistory) (clock : ℚ) : HistoryRun := ⟨h, [], clock⟩

/-- One operation of a run. -/
def step [PyLib] (s : HistoryRun) (op : HistoryOp) : HistoryRun where
  history := (op.apply s.history).2
  log :=
    match op.confirmation s.history with
    | some (changed, _) => if (op.apply s.history).1 then s.log ++ confirmedOrders changed else s.log
    | none => s.log
  clock := op.lastReading s.clock

/-- The monotonic clock does not run backwards. -/
def ClockAdvances (s : HistoryRun) (op : HistoryOp) : Prop :=
  s.clock ≤ op.firstReading s.clock ∧ op.firstReading s.clock ≤ op.lastReading s.clock

instance (s : HistoryRun) (op : HistoryOp) : Decidable (s.ClockAdvances op) :=
  inferInstanceAs (Decidable (_ ∧ _))

/-- A restart at `now` finds every logged field whose retention has not ended, with a durable mark
of at least its order. -/
def RestoresAt [PyLib] (s : HistoryRun) (now : ℚ) : Prop :=
  ∀ entry ∈ s.log, now - s.history.retentionSeconds < entry.storedAt →
    ∃ mark, (loadPublicationOrderMarks s.history.state now s.history.retentionSeconds).get?
      entry.fieldKey = some mark ∧ mark.lane = .durable ∧ entry.order ≤ mark.order

/-- A restart at any time from now on finds what was confirmed. -/
def Restores [PyLib] (s : HistoryRun) : Prop := ∀ now, s.clock ≤ now → s.RestoresAt now

/-- The entries whose retention has not ended at `now`. -/
def Retained (s : HistoryRun) (now : ℚ) (entry : ConfirmedOrder) : Prop :=
  entry ∈ s.log ∧ now - s.history.retentionSeconds < entry.storedAt

/-- What keeps the promises when `changed` is confirmed. The fields have names that survive a
restart and orders at or above the retained ones. If the journal is rewritten from memory, every
retained field is confirmed again or has a durable mark there, neither hidden by a volatile one nor
released. -/
structure ConfirmationSafe [PyLib] (s : HistoryRun) (now : ℚ) (changed : PublicationOrderMarks) :
    Prop where
  named : DeltaFits changed → ∀ fieldKey mark, changed.get? fieldKey = some mark →
    fieldKey.1 ≠ "" ∧ fieldKey.2 ≠ ""
  above : DeltaFits changed → ∀ entry mark, s.Retained now entry →
    changed.get? entry.fieldKey = some mark → entry.order ≤ mark.order
  inMemory : changed.entries ≠ [] →
    (∀ files, s.history.state = some files → CheckpointCompacts files changed) →
    ∀ entry, s.Retained now entry →
      ∃ mark, (changed.get? entry.fieldKey <|> s.history.marks.get? entry.fieldKey) = some mark ∧
        mark.lane = .durable ∧ entry.order ≤ mark.order

/-- A confirmation of a step keeps the promises. -/
def ConfirmationKept [PyLib] (s : HistoryRun) (op : HistoryOp) : Prop :=
  ∀ changed current, op.confirmation s.history = some (changed, current) →
    s.ConfirmationSafe (op.lastReading s.clock) changed

/-! ## What is logged and what is stored -/

section

variable [PyLib] {s : HistoryRun} {op : HistoryOp} {files : StateFiles}
  {changed current : PublicationOrderMarks} {fieldKey : PublicationFieldKey}

/-- Whether a confirmation rewrites the base file. -/
def Compacting (files : StateFiles) (changed : PublicationOrderMarks) : Prop :=
  changed.entries ≠ [] ∧ CheckpointCompacts files changed

theorem persist_fst_iff {h : PublicationOrderHistory} (hstate : h.state = some files) :
    (h.persist changed current).1 = true ↔ changed.entries = [] ∨ DeltaFits changed := by
  simp only [PublicationOrderHistory.persist, checkpointPublicationOrderMarks, hstate]
  split_ifs with hempty
  · simp [hempty]
  · simp [hempty, writeCheckpoint_fst_iff]

section

variable (hstate : s.history.state = some files)
include hstate

theorem mem_step_log (hop : op.confirmation s.history = some (changed, current)) {entry : ConfirmedOrder} :
    entry ∈ (s.step op).log ↔ entry ∈ s.log ∨ DeltaFits changed ∧
      ∃ mark, changed.get? entry.fieldKey = some mark ∧ entry.order = mark.order ∧
        entry.storedAt = mark.seenAt := by
  have hlogged : entry ∈ confirmedOrders changed ↔
      ∃ mark, changed.get? entry.fieldKey = some mark ∧ entry.order = mark.order ∧
        entry.storedAt = mark.seenAt := by
    obtain ⟨fieldKey, order, storedAt⟩ := entry
    simp only [confirmedOrders, List.mem_map, ConfirmedOrder.mk.injEq]
    constructor
    · rintro ⟨⟨_, mark⟩, hmem, rfl, rfl, rfl⟩
      exact ⟨mark, Dict.mem_entries_iff.mp hmem, rfl, rfl⟩
    · rintro ⟨mark, hmark, rfl, rfl⟩
      exact ⟨(fieldKey, mark), Dict.mem_entries_iff.mpr hmark, rfl, rfl, rfl⟩
  have hstored : (op.apply s.history).1 = true ↔ changed.entries = [] ∨ DeltaFits changed := by
    rw [HistoryOp.apply_of_confirmation hop, persist_fst_iff hstate]
  simp only [step, hop]
  split_ifs with h
  · rw [List.mem_append, hlogged]
    rcases hstored.mp h with hempty | hfits
    · simp [Dict.entries_eq_nil_iff.mp hempty]
    · simp [hfits]
  · have hfits : ¬ DeltaFits changed := fun hfits => h (hstored.mpr (.inr hfits))
    simp [hfits]

/-- What a restart reads after a confirmation that rewrites the base file. -/
theorem get?_load_step_compacting (hop : op.confirmation s.history = some (changed, current))
    (hcompacting : Compacting files changed) (now retentionSeconds : ℚ) :
    (loadPublicationOrderMarks (s.step op).history.state now retentionSeconds).get? fieldKey =
      (current.get? fieldKey).filter (Restorable now retentionSeconds fieldKey ·) := by
  have hsub : ∀ fieldKey mark, changed.get? fieldKey = some mark →
      current.get? fieldKey = some mark := by
    intro fieldKey mark hmark
    rcases HistoryOp.confirmation_cases hop s.clock fieldKey with
      ⟨stored, -, -, hchanged, hcurrent⟩ | ⟨hnone, -⟩
    · rw [← hmark, hchanged, hcurrent]
    · simp [hnone] at hmark
  have hwritten : (s.step op).history.state = some (writeCheckpoint files changed current).2 := by
    simp only [step, HistoryOp.apply_of_confirmation hop, PublicationOrderHistory.persist,
      checkpointPublicationOrderMarks, hstate, if_neg hcompacting.1]
  rw [hwritten, get?_load_checkpoint_compacts hsub hcompacting.2]

/-- What a restart reads after any other confirmation. -/
theorem get?_load_step_keeping (hop : op.confirmation s.history = some (changed, current))
    (hkeeping : ¬ Compacting files changed) (now retentionSeconds : ℚ) :
    (loadPublicationOrderMarks (s.step op).history.state now retentionSeconds).get? fieldKey =
      if DeltaFits changed then
        ((changed.get? fieldKey).filter (Restorable now retentionSeconds fieldKey ·) <|>
          (loadPublicationOrderMarks s.history.state now retentionSeconds).get? fieldKey)
      else (loadPublicationOrderMarks s.history.state now retentionSeconds).get? fieldKey := by
  have happly := HistoryOp.apply_of_confirmation hop
  by_cases hempty : changed.entries = []
  · have hnone : changed.get? fieldKey = none := Dict.entries_eq_nil_iff.mp hempty fieldKey
    have hkept : (s.step op).history.state = s.history.state := by
      simp only [step, happly, PublicationOrderHistory.persist, checkpointPublicationOrderMarks,
        hstate, if_pos hempty]
    rw [hkept, hnone]
    split_ifs <;> rfl
  · have hwritten : (s.step op).history.state = some (writeCheckpoint files changed current).2 := by
      simp only [step, happly, PublicationOrderHistory.persist, checkpointPublicationOrderMarks,
        hstate, if_neg hempty]
    rw [hwritten, get?_load_checkpoint_keeps current (fun h => hkeeping ⟨hempty, h⟩), hstate]

end

/-! ## The invariant of runs -/

/-- What holds in every state of a run with a state path. -/
structure RunInv (s : HistoryRun) : Prop where
  /-- There is a state path. -/
  stored : ∃ files, s.history.state = some files
  /-- The log speaks about the past. -/
  logged : ∀ entry ∈ s.log, entry.storedAt ≤ s.clock
  /-- The mark of a logged field is not older than its confirmation. -/
  newer : ∀ entry ∈ s.log, ∀ mark, s.history.marks.get? entry.fieldKey = some mark →
    entry.storedAt ≤ mark.seenAt ∧ mark.seenAt ≤ s.clock

omit [PyLib] in
theorem runInv_start {h : PublicationOrderHistory} (hstate : h.state = some files) (clock : ℚ) :
    RunInv (start h clock) where
  stored := ⟨files, hstate⟩
  logged := by simp [start]
  newer := by simp [start]

variable {mark : PublicationOrderMark}

omit [PyLib] in
/-- A new log entry carries the last reading of the step. -/
theorem storedAt_of_new (hop : op.confirmation s.history = some (changed, current))
    (entry : ConfirmedOrder)
    (hmark : changed.get? entry.fieldKey = some mark) (hstored : entry.storedAt = mark.seenAt) :
    entry.storedAt = op.lastReading s.clock := by
  rcases HistoryOp.confirmation_cases hop s.clock entry.fieldKey with
    ⟨stored, -, hseen, hchanged, -⟩ | ⟨hnone, -⟩
  · obtain rfl := Option.some.inj (hmark.symm.trans hchanged)
    exact hstored.trans hseen
  · simp [hnone] at hmark

theorem runInv_step (hinv : RunInv s) (hclock : s.ClockAdvances op) : RunInv (s.step op) := by
  obtain ⟨files, hstate⟩ := hinv.stored
  have hlast : s.clock ≤ op.lastReading s.clock := hclock.1.trans hclock.2
  have holdNewer : ∀ entry ∈ s.log, ∀ mark,
      (op.apply s.history).2.marks.get? entry.fieldKey = some mark →
      entry.storedAt ≤ mark.seenAt ∧ mark.seenAt ≤ op.lastReading s.clock := by
    intro entry hentry mark hmark
    rcases HistoryOp.apply_mark s.clock hmark with hold | hnew
    · exact ⟨(hinv.newer entry hentry mark hold).1, (hinv.newer entry hentry mark hold).2.trans hlast⟩
    · rw [hnew]
      exact ⟨(hinv.logged entry hentry).trans hlast, le_rfl⟩
  cases hop : op.confirmation s.history with
  | none =>
    have hlog : (s.step op).log = s.log := by simp [step, hop]
    refine ⟨⟨files, (HistoryOp.apply_of_no_confirmation hop).2.trans hstate⟩, ?_, ?_⟩
    · intro entry hentry
      exact (hinv.logged entry (hlog ▸ hentry)).trans hlast
    · intro entry hentry
      exact holdNewer entry (hlog ▸ hentry)
  | some delta =>
    obtain ⟨changed, current⟩ := delta
    have happly := HistoryOp.apply_of_confirmation hop
    refine ⟨?_, ?_, ?_⟩
    · simp only [step, happly, PublicationOrderHistory.persist, checkpointPublicationOrderMarks,
        hstate]
      split_ifs
      · exact ⟨files, rfl⟩
      · exact ⟨_, rfl⟩
    · intro entry hentry
      rcases (mem_step_log hstate hop).mp hentry with hold | ⟨-, mark, hmark, -, hseen⟩
      · exact (hinv.logged entry hold).trans hlast
      · exact (storedAt_of_new hop entry hmark hseen).le
    · intro entry hentry mark hmark
      rcases (mem_step_log hstate hop).mp hentry with hold | ⟨-, stored, hstored, -, hseen⟩
      · exact holdNewer entry hold mark hmark
      · have hcurrent : current.get? entry.fieldKey = some mark := by
          simpa only [step, happly, PublicationOrderHistory.persist] using hmark
        rcases HistoryOp.confirmation_cases hop s.clock entry.fieldKey with
          ⟨_, -, hlastSeen, hchanged, hkept⟩ | ⟨hnone, -⟩
        · obtain rfl := Option.some.inj (hchanged.symm.trans hstored)
          obtain rfl := Option.some.inj (hkept.symm.trans hcurrent)
          exact ⟨hseen.le, hlastSeen.le⟩
        · simp [hnone] at hstored

/-! ## Restart after one more step -/

/-- A step without confirmation keeps what a restart finds. -/
theorem restores_step_of_none (hgood : s.Restores) (hclock : s.ClockAdvances op)
    (hop : op.confirmation s.history = none) : (s.step op).Restores := by
  intro now hnow entry hentry hretained
  have hlog : (s.step op).log = s.log := by simp [step, hop]
  have hstate : (s.step op).history.state = s.history.state :=
    (HistoryOp.apply_of_no_confirmation hop).2
  have hretention : (s.step op).history.retentionSeconds = s.history.retentionSeconds :=
    HistoryOp.apply_retentionSeconds s.history op
  rw [hretention] at hretained
  rw [hstate, hretention]
  exact hgood now ((hclock.1.trans hclock.2).trans hnow) entry (hlog ▸ hentry) hretained

omit [PyLib] in
/-- A named mark that a step stores is restorable while its retention lasts. -/
theorem restorable_of_changed (hop : op.confirmation s.history = some (changed, current))
    (hmark : changed.get? fieldKey = some mark)
    (hnamed : fieldKey.1 ≠ "" ∧ fieldKey.2 ≠ "") {now retentionSeconds : ℚ}
    (hnow : op.lastReading s.clock ≤ now)
    (hretained : now - retentionSeconds < op.lastReading s.clock) :
    Restorable now retentionSeconds fieldKey mark := by
  rcases HistoryOp.confirmation_cases hop s.clock fieldKey with
    ⟨stored, hlane, hseen, hchanged, -⟩ | ⟨hnone, -⟩
  · obtain rfl := Option.some.inj (hmark.symm.trans hchanged)
    exact ⟨hnamed.1, hnamed.2, hlane, hseen ▸ hretained, hseen ▸ hnow⟩
  · simp [hnone] at hmark

omit [PyLib] in
/-- A stored mark is in memory. -/
theorem current_of_changed (hop : op.confirmation s.history = some (changed, current))
    (hmark : changed.get? fieldKey = some mark) :
    current.get? fieldKey = some mark ∧ mark.lane = .durable := by
  rcases HistoryOp.confirmation_cases hop s.clock fieldKey with
    ⟨stored, hlane, -, hchanged, hcurrent⟩ | ⟨hnone, -⟩
  · obtain rfl := Option.some.inj (hmark.symm.trans hchanged)
    exact ⟨hcurrent, hlane⟩
  · simp [hnone] at hmark

/-- A mark that is stored at a step is read back from what the step leaves. -/
theorem get?_load_of_changed (hstate : s.history.state = some files)
    (hop : op.confirmation s.history = some (changed, current)) (hfits : DeltaFits changed)
    (hmark : changed.get? fieldKey = some mark)
    {now retentionSeconds : ℚ} (hrestorable : Restorable now retentionSeconds fieldKey mark) :
    (loadPublicationOrderMarks (s.step op).history.state now retentionSeconds).get? fieldKey =
      some mark := by
  by_cases hcompacting : Compacting files changed
  · rw [get?_load_step_compacting hstate hop hcompacting, (current_of_changed hop hmark).1]
    simp [hrestorable]
  · rw [get?_load_step_keeping hstate hop hcompacting, if_pos hfits, hmark]
    simp [hrestorable]

/-- A mark in memory that a compacting step keeps is read back. -/
theorem restored_of_inMemory (hinv : RunInv s) (hgood : s.Restores) (hclock : s.ClockAdvances op)
    (hstate : s.history.state = some files)
    (hop : op.confirmation s.history = some (changed, current))
    (hcompacting : Compacting files changed) {entry : ConfirmedOrder} (hentry : entry ∈ s.log)
    {now : ℚ} (hnow : op.lastReading s.clock ≤ now)
    (hretained : now - s.history.retentionSeconds < entry.storedAt)
    (hmark : (changed.get? entry.fieldKey <|> s.history.marks.get? entry.fieldKey) = some mark)
    (hlane : mark.lane = .durable) :
    (loadPublicationOrderMarks (s.step op).history.state now s.history.retentionSeconds).get?
      entry.fieldKey = some mark := by
  have hlast : s.clock ≤ op.lastReading s.clock := hclock.1.trans hclock.2
  obtain ⟨earlier, hearlier, -, -⟩ := hgood now (hlast.trans hnow) entry hentry hretained
  have hnamed := restorable_of_load hearlier
  have hcurrent : current.get? entry.fieldKey = some mark ∧ entry.storedAt ≤ mark.seenAt ∧
      mark.seenAt ≤ now := by
    rcases HistoryOp.confirmation_cases hop s.clock entry.fieldKey with
      ⟨stored, -, hseen, hchanged, hcurrent⟩ | ⟨hnone, -, hkept⟩
    · rw [hchanged] at hmark
      obtain rfl := Option.some.inj hmark
      exact ⟨hcurrent, hseen ▸ (hinv.logged entry hentry).trans hlast, hseen ▸ hnow⟩
    · rw [hnone] at hmark
      obtain ⟨hnewer, hpast⟩ := hinv.newer entry hentry mark hmark
      have hfirst := hclock.2
      exact ⟨hkept mark hmark (by linarith), hnewer, hpast.trans (hlast.trans hnow)⟩
  have hrestorable : Restorable now s.history.retentionSeconds entry.fieldKey mark :=
    ⟨hnamed.1, hnamed.2.1, hlane, hretained.trans_le hcurrent.2.1, hcurrent.2.2⟩
  rw [get?_load_step_compacting hstate hop hcompacting, hcurrent.1]
  simp [hrestorable]

/-- A confirmation that keeps the promises leaves them readable. -/
theorem restores_step_of_safe (hinv : RunInv s) (hgood : s.Restores) (hclock : s.ClockAdvances op)
    (hop : op.confirmation s.history = some (changed, current))
    (hsafe : s.ConfirmationSafe (op.lastReading s.clock) changed) : (s.step op).Restores := by
  obtain ⟨files, hstate⟩ := hinv.stored
  have hlast : s.clock ≤ op.lastReading s.clock := hclock.1.trans hclock.2
  intro now (hnow : op.lastReading s.clock ≤ now) entry hentry hretained
  have hretention : (s.step op).history.retentionSeconds = s.history.retentionSeconds :=
    HistoryOp.apply_retentionSeconds s.history op
  rw [hretention] at hretained ⊢
  rcases (mem_step_log hstate hop).mp hentry with hold | ⟨hfits, mark, hmark, horder, hseen⟩
  · have hretainedLast : s.Retained (op.lastReading s.clock) entry := ⟨hold, by linarith⟩
    by_cases hcompacting : Compacting files changed
    · obtain ⟨mark, hmark, hlane, horder⟩ := hsafe.inMemory hcompacting.1
        (fun _ hfiles => Option.some.inj (hstate.symm.trans hfiles) ▸ hcompacting.2) entry
        hretainedLast
      exact ⟨mark, restored_of_inMemory hinv hgood hclock hstate hop hcompacting hold hnow hretained
        hmark hlane, hlane, horder⟩
    · by_cases hfresh : DeltaFits changed ∧ changed.get? entry.fieldKey ≠ none
      · obtain ⟨hfits, hsome⟩ := hfresh
        obtain ⟨mark, hmark⟩ := Option.ne_none_iff_exists'.mp hsome
        have hlastRetained := hretained.trans_le ((hinv.logged entry hold).trans hlast)
        have hrestorable := restorable_of_changed hop hmark (hsafe.named hfits _ mark hmark) hnow
          hlastRetained
        exact ⟨mark, get?_load_of_changed hstate hop hfits hmark hrestorable,
          (current_of_changed hop hmark).2, hsafe.above hfits entry mark hretainedLast hmark⟩
      · have hkept : (loadPublicationOrderMarks (s.step op).history.state now
            s.history.retentionSeconds).get? entry.fieldKey =
            (loadPublicationOrderMarks s.history.state now s.history.retentionSeconds).get?
              entry.fieldKey := by
          rw [get?_load_step_keeping hstate hop hcompacting]
          split_ifs with hfits
          · have hnone : changed.get? entry.fieldKey = none :=
              not_not.mp fun hsome => hfresh ⟨hfits, hsome⟩
            rw [hnone]
            rfl
          · rfl
        rw [hkept]
        exact hgood now (hlast.trans hnow) entry hold hretained
  · have hlastStored := storedAt_of_new hop entry hmark hseen
    have hrestorable := restorable_of_changed hop hmark (hsafe.named hfits _ mark hmark) hnow
      (hlastStored ▸ hretained)
    exact ⟨mark, get?_load_of_changed hstate hop hfits hmark hrestorable,
      (current_of_changed hop hmark).2, horder.le⟩

/-- A confirmation whose promises are readable at once keeps them. -/
theorem safe_of_restores_step (hinv : RunInv s)
    (hop : op.confirmation s.history = some (changed, current)) (hgood : (s.step op).Restores) :
    s.ConfirmationSafe (op.lastReading s.clock) changed := by
  obtain ⟨files, hstate⟩ := hinv.stored
  have hretention : (s.step op).history.retentionSeconds = s.history.retentionSeconds :=
    HistoryOp.apply_retentionSeconds s.history op
  have hpositive : op.lastReading s.clock - s.history.retentionSeconds < op.lastReading s.clock := by
    have := s.history.one_le_retention
    linarith
  have hread := hgood (op.lastReading s.clock) le_rfl
  rw [RestoresAt, hretention] at hread
  have hnamed : DeltaFits changed → ∀ fieldKey mark, changed.get? fieldKey = some mark →
      fieldKey.1 ≠ "" ∧ fieldKey.2 ≠ "" := by
    intro hfits fieldKey mark hmark
    have hlogged : (⟨fieldKey, mark.order, mark.seenAt⟩ : ConfirmedOrder) ∈ (s.step op).log :=
      (mem_step_log hstate hop).mpr (.inr ⟨hfits, mark, hmark, rfl, rfl⟩)
    have hlast : mark.seenAt = op.lastReading s.clock :=
      storedAt_of_new hop ⟨fieldKey, mark.order, mark.seenAt⟩ hmark rfl
    obtain ⟨_, hload, -⟩ := hread _ hlogged (by rw [hlast]; exact hpositive)
    exact ⟨(restorable_of_load hload).1, (restorable_of_load hload).2.1⟩
  refine ⟨hnamed, ?_, ?_⟩
  · intro hfits entry mark hretained hmark
    obtain ⟨found, hload, -, horder⟩ := hread entry
      ((mem_step_log hstate hop).mpr (.inl hretained.1)) hretained.2
    have hrestorable := restorable_of_changed hop hmark (hnamed hfits _ mark hmark) le_rfl hpositive
    rw [get?_load_of_changed hstate hop hfits hmark hrestorable] at hload
    obtain rfl := Option.some.inj hload
    exact horder
  · intro hchanged hcompacts entry hretained
    obtain ⟨found, hload, hlane, horder⟩ := hread entry
      ((mem_step_log hstate hop).mpr (.inl hretained.1)) hretained.2
    rw [get?_load_step_compacting hstate hop ⟨hchanged, hcompacts files hstate⟩] at hload
    have hcurrent := (Option.filter_eq_some_iff.mp hload).1
    refine ⟨found, ?_, hlane, horder⟩
    rcases HistoryOp.confirmation_cases hop s.clock entry.fieldKey with
      ⟨stored, -, -, hstored, hkept⟩ | ⟨hnone, hold, -⟩
    · rw [hstored, ← hcurrent, hkept]
      rfl
    · rw [hnone, hold found hcurrent]
      rfl

/-- A step keeps what a restart finds exactly when its confirmation keeps the promises. -/
theorem restores_step_iff (hinv : RunInv s) (hclock : s.ClockAdvances op) (hgood : s.Restores) :
    (s.step op).Restores ↔ s.ConfirmationKept op := by
  cases hop : op.confirmation s.history with
  | none => exact iff_of_true (restores_step_of_none hgood hclock hop) (by simp [ConfirmationKept, hop])
  | some delta =>
    constructor
    · intro hafter changed current hop'
      exact safe_of_restores_step hinv hop' hafter
    · intro hkept
      exact restores_step_of_safe hinv hgood hclock hop (hkept delta.1 delta.2 hop)

end

/-- Along a run of a history with a state path, a restart after any step finds every retained
confirmation exactly when every confirmation of the run keeps the promises. -/
theorem restart_restores_iff [PyLib] (h : PublicationOrderHistory) (files : StateFiles)
    (hstate : h.state = some files) (clock : ℚ) (ops : List HistoryOp)
    (hclock : Along step ClockAdvances (start h clock) ops) :
    (∀ before after, ops = before ++ after → (run step (start h clock) before).Restores) ↔
      Along step ConfirmationKept (start h clock) ops :=
  all_states_iff_along (fun _ _ hinv hadvances => runInv_step hinv hadvances)
    (fun _ _ hinv hadvances hgood => restores_step_iff hinv hadvances hgood)
    (runInv_start hstate clock) (by intro _ _ entry hentry; simp [start] at hentry) hclock

section

local instance : PyLib := PyLib.sample

/-- A new history on the given files. -/
def sampleHistory (files : StateFiles) : PublicationOrderHistory :=
  PublicationOrderHistory.create 64 60 (some files) 0

/-- A confirmation keeps the promises when each confirmed field has a durable mark in it or in memory. -/
theorem confirmationKept_of_marks {s : HistoryRun} {op : HistoryOp}
    (h : ∀ delta ∈ op.confirmation s.history, (∀ changed ∈ delta.1.entries, changed.1.1 ≠ "" ∧ changed.1.2 ≠ "") ∧
      ∀ entry ∈ s.log, ∃ mark ∈ delta.1.get? entry.fieldKey <|> s.history.marks.get? entry.fieldKey,
        mark.lane = .durable ∧ entry.order ≤ mark.order) : s.ConfirmationKept op := by
  intro changed current hop
  obtain ⟨hnamed, hmarks⟩ := h _ hop
  refine ⟨fun _ fieldKey mark hmark => hnamed _ (Dict.mem_entries_iff.mpr hmark), ?_, fun _ _ entry hretained =>
    hmarks entry hretained.1⟩
  intro _ entry mark hretained hmark
  obtain ⟨held, hheld, -, horder⟩ := hmarks entry hretained.1
  rw [hmark] at hheld
  exact Option.some.inj hheld ▸ horder

/-- A durable value is confirmed, a volatile claim over it is confirmed too, and another field's confirmation compacts. -/
def confirmedOverlay : List HistoryOp :=
  [.confirmDurableApplied "k" (Dict.ofList [("f", 5)]) [] 1 1,
    .claimFast "k" (Dict.ofList [("f", 10)]) [] 2 2,
    .confirmFastApplied "k" (Dict.ofList [("f", 10)]) 3,
    .confirmDurableApplied "k" (Dict.ofList [("g", 1)]) [] 4 4]

/-- On a journal that is nearly full, the orders are found again after a restart. -/
theorem restart_restores_confirmed_overlay :
    (run step (start (sampleHistory ⟨none, some [⟨none, 65340⟩]⟩) 0) confirmedOverlay).Restores := by
  have hmarks : Along step (fun s op => ∀ delta ∈ op.confirmation s.history,
      (∀ changed ∈ delta.1.entries, changed.1.1 ≠ "" ∧ changed.1.2 ≠ "") ∧
        ∀ entry ∈ s.log, ∃ mark ∈ delta.1.get? entry.fieldKey <|> s.history.marks.get? entry.fieldKey,
          mark.lane = .durable ∧ entry.order ≤ mark.order)
      (start (sampleHistory ⟨none, some [⟨none, 65340⟩]⟩) 0) confirmedOverlay := by decide +kernel
  exact (restart_restores_iff (sampleHistory ⟨none, some [⟨none, 65340⟩]⟩) _ rfl 0 confirmedOverlay
    (by decide +kernel)).mpr (hmarks.mono fun _ _ => confirmationKept_of_marks) _ [] (List.append_nil _).symm

/-- A durable value is confirmed, a newer volatile claim is lost, and an older durable value is
confirmed. -/
def releasedOverlay : List HistoryOp :=
  [.confirmDurableApplied "k" (Dict.ofList [("f", 5)]) [] 1 1,
    .claimFast "k" (Dict.ofList [("f", 10)]) [] 2 2,
    .releaseFast "k" (Dict.ofList [("f", 10)]),
    .confirmDurableApplied "k" (Dict.ofList [("f", 3)]) [] 3 3]

/-- A durable value is confirmed and overlaid, and another field's confirmation compacts. -/
def compactedOverlay : List HistoryOp :=
  [.confirmDurableApplied "k" (Dict.ofList [("f", 5)]) [] 1 1,
    .claimFast "k" (Dict.ofList [("f", 10)]) [] 2 2,
    .confirmDurableApplied "k" (Dict.ofList [("g", 1)]) [] 3 3]

/-- The state after `releasedOverlay`. -/
def afterRelease : HistoryRun := run step (start (sampleHistory ⟨none, none⟩) 0) releasedOverlay

/-- The state after `compactedOverlay`, on a journal that is nearly full. -/
def afterCompaction : HistoryRun :=
  run step (start (sampleHistory ⟨none, some [⟨none, 65400⟩]⟩) 0) compactedOverlay

/-- A lost overlay lets a restart find an order below a confirmed one, or no order at all. -/
theorem restart_loses_confirmed_order :
    Along step ClockAdvances (start (sampleHistory ⟨none, none⟩) 0) releasedOverlay ∧
      ¬ afterRelease.Restores ∧
      Along step ClockAdvances (start (sampleHistory ⟨none, some [⟨none, 65400⟩]⟩) 0)
        compactedOverlay ∧
      ¬ afterCompaction.Restores := by
  refine ⟨by decide +kernel, ?_, by decide +kernel, ?_⟩
  · intro hgood
    have hread : (loadPublicationOrderMarks afterRelease.history.state 3
        afterRelease.history.retentionSeconds).get? ("k", "f") =
        some ⟨3, .durable, 3, by decide⟩ := by decide +kernel
    obtain ⟨mark, hmark, -, horder⟩ := hgood 3 (by decide +kernel) ⟨("k", "f"), 5, 1⟩
      (by decide +kernel) (by decide +kernel)
    obtain rfl := Option.some.inj (hread.symm.trans hmark)
    exact absurd horder (by decide)
  · intro hgood
    have hread : (loadPublicationOrderMarks afterCompaction.history.state 3
        afterCompaction.history.retentionSeconds).get? ("k", "f") = none := by decide +kernel
    obtain ⟨mark, hmark, -⟩ := hgood 3 (by decide +kernel) ⟨("k", "f"), 5, 1⟩
      (by decide +kernel) (by decide +kernel)
    exact absurd (hread.symm.trans hmark) (by simp)

end

end HistoryRun

end VenusEvcharger
