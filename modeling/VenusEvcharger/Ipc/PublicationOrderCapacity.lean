import VenusEvcharger.Ipc.PublicationOrderDurability

/-!
# The capacity of the order history

A claim checks the capacity against the marks in memory. A restart takes the marks from the files instead,
and these may hold a field that the memory gave up. `HistoryLife` is a history with its restarts; the
invariant `Bounded` relates memory and files, and every step keeps it but a release of a volatile mark
over a stored one.

Scope: a restart uses the same capacity, retention and files, which are empty at the start.
-/

namespace VenusEvcharger

open Library

/-- A history and the last clock reading. -/
structure HistoryLife where
  history : PublicationOrderHistory
  clock : ℚ

/-- An operation, or a restart of the process at a clock reading. -/
inductive LifeEvent where
  | op (op : HistoryOp)
  | restart (now : ℚ)

namespace PublicationOrderHistory

variable [PyLib]

/-- The mark of a field that a restart at `now` would find. -/
def storedMark (h : PublicationOrderHistory) (now : ℚ) (fieldKey : PublicationFieldKey) :
    Option PublicationOrderMark :=
  (loadPublicationOrderMarks h.state now h.retentionSeconds).get? fieldKey

/-- The history of a new process on the files of `h`. -/
def restarted (h : PublicationOrderHistory) (now : ℚ) : PublicationOrderHistory :=
  create h.capacity h.retentionSeconds h.state now

end PublicationOrderHistory

namespace HistoryLife

variable [PyLib]

/-- A history on empty files, or without files. -/
def start (capacity : Int) (retentionSeconds : ℚ) (persistent : Bool) (now : ℚ) : HistoryLife :=
  ⟨.create capacity retentionSeconds (if persistent then some ⟨none, none⟩ else none) now, now⟩

def step (s : HistoryLife) : LifeEvent → HistoryLife
  | .op op => ⟨(op.apply s.history).2, op.lastReading s.clock⟩
  | .restart now => ⟨s.history.restarted now, now⟩

/-- The monotonic clock does not run backwards. -/
def ClockAdvances (s : HistoryLife) : LifeEvent → Prop
  | .op op => s.clock ≤ op.firstReading s.clock ∧ op.firstReading s.clock ≤ op.lastReading s.clock
  | .restart now => s.clock ≤ now

/-- A release gives up no field that is still stored. -/
def ReleasesForgotten (s : HistoryLife) : LifeEvent → Prop
  | .op (.releaseFast key fieldOrders) =>
    ∀ entry ∈ fieldOrders.entries,
      fastMarkMatches (s.history.marks.get? (key, entry.1)) entry.2 = true →
      s.history.storedMark s.clock (key, entry.1) = none
  | _ => True

instance (s : HistoryLife) (event : LifeEvent) : Decidable (s.ClockAdvances event) := by
  unfold ClockAdvances
  cases event <;> infer_instance

instance (s : HistoryLife) (event : LifeEvent) : Decidable (s.ReleasesForgotten event) := by
  unfold ReleasesForgotten
  split <;> infer_instance

end HistoryLife

/-! ## How many marks there are -/

/-- A claim that fits leaves the table within the capacity. -/
theorem length_withClaimedMarks_le {key : String} {fieldOrders : Dict String Nat}
    {claim : PublicationFieldClaim} (hnodup : claim.acceptedFields.Nodup) {marks : PublicationOrderMarks}
    {capacity : Nat} (hfits : claimFitsCapacity key fieldOrders claim marks capacity = true)
    (lane : PublicationLane) (now : ℚ) :
    (withClaimedMarks key fieldOrders lane claim marks now).length ≤ capacity := by
  have hcapacity := of_decide_eq_true hfits
  rw [marks.length_eq_keys, ← List.length_append] at hcapacity
  refine (Dict.length_le_of_keys fun fieldKey hsome => ?_).trans hcapacity
  rw [List.mem_append, List.mem_filter]
  by_cases hold : fieldKey ∈ marks.keys
  · exact .inl hold
  · -- a field without a mark before was claimed
    have hnone := Dict.get?_eq_none_iff.mpr hold
    refine .inr ⟨?_, by simp [Dict.contains, hnone]⟩
    rcases withClaimedMarks_cases key fieldOrders hnodup lane marks now fieldKey with
      ⟨hpos, hkey, hfield, -⟩ | ⟨-, hkept, -⟩
    · exact mem_claimedFieldKeys.mpr ⟨hkey, hfield, hpos⟩
    · exact absurd (hkept.trans hnone) hsome

namespace HistoryOp

variable [PyLib]

@[simp] theorem apply_capacity (h : PublicationOrderHistory) (op : HistoryOp) :
    (op.apply h).2.capacity = h.capacity := by
  cases op with
  | claimFast key fieldOrders activeFields now stamp =>
    simp only [apply, PublicationOrderHistory.claimFast]
    split_ifs <;> rfl
  | confirmDurableApplied key fieldOrders activeFields now stamp =>
    simp only [apply, PublicationOrderHistory.confirmDurableApplied]
    split_ifs <;> rfl
  | claimDurable | confirmFastApplied | releaseFast => rfl

/-- Every operation leaves the memory within the capacity. -/
theorem length_apply_le {h : PublicationOrderHistory} (hlength : h.marks.length ≤ h.capacity)
    (op : HistoryOp) : (op.apply h).2.marks.length ≤ h.capacity := by
  cases op with
  | claimFast key fieldOrders activeFields now stamp =>
    simp only [apply, PublicationOrderHistory.claimFast]
    split_ifs with hfits
    · exact length_withClaimedMarks_le (nodup_acceptedFields _ _ _ _) hfits _ _
    · exact hlength
  | claimDurable => exact hlength
  | confirmFastApplied key fieldOrders now =>
    refine (Dict.length_le_of_get? fun fieldKey hsome => ?_).trans hlength
    have hcurrent : (h.confirmFastMarks key fieldOrders now).1.get? fieldKey ≠ none := hsome
    rcases h.confirmFastMarks_cases key fieldOrders now fieldKey with ⟨mark, hmark, -⟩ | ⟨-, hkept, -⟩
    · rw [hmark]
      exact Option.some_ne_none mark
    · exact hkept ▸ hcurrent
  | confirmDurableApplied key fieldOrders activeFields now stamp =>
    simp only [apply, PublicationOrderHistory.confirmDurableApplied]
    split_ifs with hfits
    · exact length_withClaimedMarks_le (nodup_acceptedFields _ _ _ _) hfits _ _
    · exact hlength
  | releaseFast key fieldOrders =>
    refine (Dict.length_le_of_get? fun fieldKey hsome => ?_).trans hlength
    have hkept : (h.releaseFast key fieldOrders).marks.get? fieldKey ≠ none := hsome
    rw [PublicationOrderHistory.get?_releaseFast] at hkept
    split_ifs at hkept with hkey hmatch
    · exact absurd rfl hkept
    · exact hkept
    · exact hkept

/-- An operation that is no release keeps a mark inside the retention window, or replaces it by a later
one. -/
theorem apply_keeps {h : PublicationOrderHistory} {op : HistoryOp} {clock : ℚ}
    (hfirst : clock ≤ op.firstReading clock) (hlast : op.firstReading clock ≤ op.lastReading clock)
    {fieldKey : PublicationFieldKey} {mark : PublicationOrderMark}
    (hmark : h.marks.get? fieldKey = some mark) (hpast : mark.seenAt ≤ clock)
    (hretained : op.firstReading clock - h.retentionSeconds < mark.seenAt)
    (hrelease : ∀ key fieldOrders, op = .releaseFast key fieldOrders →
      (h.releaseFast key fieldOrders).marks.get? fieldKey = some mark) :
    ∃ current, (op.apply h).2.marks.get? fieldKey = some current ∧ mark.seenAt ≤ current.seenAt := by
  cases hop : op.confirmation h with
  | some delta =>
    obtain ⟨changed, current⟩ := delta
    rw [apply_of_confirmation hop]
    show ∃ kept, current.get? fieldKey = some kept ∧ mark.seenAt ≤ kept.seenAt
    rcases confirmation_cases hop clock fieldKey with ⟨stored, -, hseen, -, hcurrent⟩ | ⟨-, -, hkept⟩
    · exact ⟨stored, hcurrent, by linarith⟩
    · exact ⟨mark, hkept mark hmark hretained, le_rfl⟩
  | none =>
    cases op with
    | claimFast key fieldOrders activeFields now stamp =>
      simp only [apply, PublicationOrderHistory.claimFast]
      split_ifs with hfits
      · show ∃ kept, (withClaimedMarks key fieldOrders .fast _ _ stamp).get? fieldKey = some kept ∧
          mark.seenAt ≤ kept.seenAt
        rcases withClaimedMarks_cases key fieldOrders
            (nodup_acceptedFields key fieldOrders (h.pruned now activeFields) fastOrderClaimBlocked)
            .fast (h.pruned now activeFields) stamp fieldKey with
          ⟨hpos, -, -, hnew, -⟩ | ⟨-, hold, -⟩
        · exact ⟨_, hnew, hpast.trans (hfirst.trans hlast)⟩
        · refine ⟨mark, ?_, le_rfl⟩
          have hwindow : now - h.retentionSeconds < mark.seenAt := hretained
          rw [hold, PublicationOrderHistory.pruned, get?_prunedMarks, hmark]
          simp [hwindow]
      · exact ⟨mark, hmark, le_rfl⟩
    | claimDurable => exact ⟨mark, hmark, le_rfl⟩
    | confirmFastApplied => simp [confirmation] at hop
    | confirmDurableApplied key fieldOrders activeFields now stamp =>
      simp only [confirmation] at hop
      split_ifs at hop with hfits
      simp only [apply, PublicationOrderHistory.confirmDurableApplied, if_neg hfits]
      exact ⟨mark, hmark, le_rfl⟩
    | releaseFast key fieldOrders => exact ⟨mark, hrelease key fieldOrders rfl, le_rfl⟩

/-- What the files hold for a field after an operation: what the memory keeps, the mark that was just
confirmed before the earlier content, or the earlier content. -/
theorem storedMark_apply (h : PublicationOrderHistory) (op : HistoryOp) (fieldKey : PublicationFieldKey) :
    (∃ changed current, op.confirmation h = some (changed, current) ∧
      ((∀ now, (op.apply h).2.storedMark now fieldKey =
          (current.get? fieldKey).filter (Restorable now h.retentionSeconds fieldKey ·)) ∨
        ∀ now, (op.apply h).2.storedMark now fieldKey =
          ((changed.get? fieldKey).filter (Restorable now h.retentionSeconds fieldKey ·) <|>
            h.storedMark now fieldKey))) ∨
    ∀ now, (op.apply h).2.storedMark now fieldKey = h.storedMark now fieldKey := by
  cases hop : op.confirmation h with
  | none =>
    refine .inr fun now => ?_
    rw [PublicationOrderHistory.storedMark, (apply_of_no_confirmation hop).2, apply_retentionSeconds,
      PublicationOrderHistory.storedMark]
  | some delta =>
    obtain ⟨changed, current⟩ := delta
    cases hstate : h.state with
    | none =>
      refine .inr fun now => ?_
      have hnone : (op.apply h).2.state = none := by
        rw [apply_of_confirmation hop, PublicationOrderHistory.persist, hstate]
        rfl
      rw [PublicationOrderHistory.storedMark, PublicationOrderHistory.storedMark, hnone, hstate]
      rfl
    | some files =>
      let s := HistoryRun.start h 0
      have hretention : (op.apply h).2.retentionSeconds = h.retentionSeconds := apply_retentionSeconds h op
      by_cases hcompacting : HistoryRun.Compacting files changed
      · refine .inl ⟨changed, current, rfl, .inl fun now => ?_⟩
        rw [PublicationOrderHistory.storedMark, hretention]
        exact @HistoryRun.get?_load_step_compacting _ s op files changed current fieldKey hstate hop
          hcompacting now h.retentionSeconds
      · have hread := fun now => @HistoryRun.get?_load_step_keeping _ s op files changed current fieldKey
          hstate hop hcompacting now h.retentionSeconds
        by_cases hfits : DeltaFits changed
        · refine .inl ⟨changed, current, rfl, .inr fun now => ?_⟩
          rw [PublicationOrderHistory.storedMark, hretention]
          exact (hread now).trans (if_pos hfits)
        · refine .inr fun now => ?_
          rw [PublicationOrderHistory.storedMark, hretention]
          exact (hread now).trans (if_neg hfits)

end HistoryOp

/-! ## Memory and files -/

namespace HistoryLife

variable [PyLib]

/-- What holds of memory and files: the memory is within the capacity and knows a mark at least as late for
every stored field, and what a later restart finds an earlier one finds as well. -/
structure Bounded (s : HistoryLife) : Prop where
  capacity : s.history.marks.length ≤ s.history.capacity
  past : ∀ fieldKey mark, s.history.marks.get? fieldKey = some mark → mark.seenAt ≤ s.clock
  remembered : ∀ fieldKey mark, s.history.storedMark s.clock fieldKey = some mark →
    ∃ current, s.history.marks.get? fieldKey = some current ∧ mark.seenAt ≤ current.seenAt
  fading : ∀ earlier later fieldKey mark, s.clock ≤ earlier → earlier ≤ later →
    s.history.storedMark later fieldKey = some mark →
    ∃ known, s.history.storedMark earlier fieldKey = some known ∧ mark.seenAt ≤ known.seenAt

theorem bounded_start (capacity : Int) (retentionSeconds : ℚ) (persistent : Bool) (now : ℚ) :
    Bounded (start capacity retentionSeconds persistent now) := by
  have hempty : ∀ reading fieldKey,
      (start capacity retentionSeconds persistent now).history.storedMark reading fieldKey = none := by
    intro reading fieldKey
    cases persistent <;> rfl
  have hmarks : (start capacity retentionSeconds persistent now).history.marks = Dict.empty := by
    cases persistent <;> rfl
  refine ⟨?_, ?_, ?_, ?_⟩
  · rw [hmarks]
    exact Nat.zero_le _
  · intro fieldKey mark hmark
    rw [hmarks] at hmark
    nomatch hmark
  · intro fieldKey mark hmark
    rw [hempty] at hmark
    nomatch hmark
  · intro earlier later fieldKey mark _ _ hmark
    rw [hempty] at hmark
    nomatch hmark

variable {fieldKey : PublicationFieldKey}

variable {mark : PublicationOrderMark}

theorem window_of_storedMark {h : PublicationOrderHistory} {now : ℚ}
    (hmark : h.storedMark now fieldKey = some mark) :
    now - h.retentionSeconds < mark.seenAt ∧ mark.seenAt ≤ now :=
  (restorable_of_load hmark).2.2.2

variable {s : HistoryLife}

theorem Bounded.seen (hs : s.Bounded) {now : ℚ} (hnow : s.clock ≤ now)
    (hmark : s.history.storedMark now fieldKey = some mark) : mark.seenAt ≤ s.clock := by
  obtain ⟨known, hknown, hle⟩ := hs.fading s.clock now fieldKey mark le_rfl hnow hmark
  exact hle.trans (window_of_storedMark hknown).2

/-- The memory knows every mark that is stored at some later time. -/
theorem Bounded.known (hs : s.Bounded) {now : ℚ} (hnow : s.clock ≤ now)
    (hmark : s.history.storedMark now fieldKey = some mark) :
    ∃ current, s.history.marks.get? fieldKey = some current ∧ mark.seenAt ≤ current.seenAt := by
  obtain ⟨known, hknown, hle⟩ := hs.fading s.clock now fieldKey mark le_rfl hnow hmark
  obtain ⟨current, hcurrent, hseen⟩ := hs.remembered fieldKey known hknown
  exact ⟨current, hcurrent, hle.trans hseen⟩

/-- A restart finds no more than the memory had. -/
theorem Bounded.restart (hs : s.Bounded) {now : ℚ} (hnow : s.clock ≤ now) :
    Bounded (s.step (.restart now)) := by
  have hretention : (s.history.restarted now).retentionSeconds = s.history.retentionSeconds :=
    max_eq_right s.history.one_le_retention
  have hcapacity : (s.history.restarted now).capacity = s.history.capacity := by
    have := s.history.capacity_pos
    show (max 1 (s.history.capacity : Int)).toNat = s.history.capacity
    omega
  have hstored : ∀ reading fieldKey, (s.history.restarted now).storedMark reading fieldKey =
      s.history.storedMark reading fieldKey := by
    intro reading fieldKey
    rw [PublicationOrderHistory.storedMark, hretention]
    rfl
  have hmarks : ∀ fieldKey, (s.history.restarted now).marks.get? fieldKey =
      s.history.storedMark now fieldKey := by
    intro fieldKey
    show (loadPublicationOrderMarks s.history.state now (max 1 s.history.retentionSeconds)).get? fieldKey = _
    rw [max_eq_right s.history.one_le_retention]
    rfl
  refine ⟨?_, ?_, ?_, ?_⟩
  · show (s.history.restarted now).marks.length ≤ (s.history.restarted now).capacity
    rw [hcapacity]
    refine (Dict.length_le_of_get? fun fieldKey hsome => ?_).trans hs.capacity
    obtain ⟨mark, hmark⟩ := Option.ne_none_iff_exists'.mp hsome
    obtain ⟨current, hcurrent, -⟩ := hs.known hnow ((hmarks fieldKey).symm.trans hmark)
    rw [hcurrent]
    exact Option.some_ne_none current
  · intro fieldKey mark hmark
    exact (window_of_storedMark ((hmarks fieldKey).symm.trans hmark)).2
  · intro fieldKey mark hmark
    exact ⟨mark, (hmarks fieldKey).trans ((hstored now fieldKey).symm.trans hmark), le_rfl⟩
  · intro earlier later fieldKey mark hearlier hle hmark
    have hold : s.history.storedMark later fieldKey = some mark := (hstored later fieldKey).symm.trans hmark
    obtain ⟨known, hknown, hseen⟩ := hs.fading earlier later fieldKey mark (hnow.trans hearlier) hle hold
    exact ⟨known, (hstored earlier fieldKey).trans hknown, hseen⟩

theorem releaseFast_keeps {key : String} {fieldOrders : Dict String Nat}
    (hforgotten : s.ReleasesForgotten (.op (.releaseFast key fieldOrders)))
    {stored current : PublicationOrderMark}
    (hstored : s.history.storedMark s.clock fieldKey = some stored)
    (hcurrent : s.history.marks.get? fieldKey = some current) :
    (s.history.releaseFast key fieldOrders).marks.get? fieldKey = some current := by
  rw [PublicationOrderHistory.get?_releaseFast]
  split_ifs with hkey hmatch
  · obtain ⟨k, field⟩ := fieldKey
    obtain rfl : k = key := hkey
    cases horder : fieldOrders.get? field with
    | none =>
      rw [Dict.getD, horder, Option.getD_none, fastMarkMatches_zero] at hmatch
      exact absurd hmatch Bool.false_ne_true
    | some order =>
      rw [Dict.getD, horder, Option.getD_some] at hmatch
      rw [hforgotten (field, order) (Dict.mem_entries_iff.mpr horder) hmatch] at hstored
      cases hstored
  · exact hcurrent
  · exact hcurrent

variable {s : HistoryLife} {op : HistoryOp}

/-- The memory knows what the files hold after an operation. -/
theorem Bounded.remembered_op (hs : s.Bounded) (hfirst : s.clock ≤ op.firstReading s.clock)
    (hlast : op.firstReading s.clock ≤ op.lastReading s.clock)
    (hforgotten : s.ReleasesForgotten (.op op))
    (hmark : (op.apply s.history).2.storedMark (op.lastReading s.clock) fieldKey = some mark) :
    ∃ current, (op.apply s.history).2.marks.get? fieldKey = some current ∧ mark.seenAt ≤ current.seenAt := by
  have hnow : s.clock ≤ op.lastReading s.clock := hfirst.trans hlast
  -- a mark that was stored before is still known
  have hold : s.history.storedMark (op.lastReading s.clock) fieldKey = some mark →
      ∃ current, (op.apply s.history).2.marks.get? fieldKey = some current ∧ mark.seenAt ≤ current.seenAt := by
    intro hstored
    obtain ⟨known, hknown, hle⟩ := hs.known hnow hstored
    have hwindow := (window_of_storedMark hstored).1
    obtain ⟨current, hcurrent, hseen⟩ := HistoryOp.apply_keeps hfirst hlast hknown (hs.past _ _ hknown)
      (by linarith) fun key fieldOrders hop => by
        subst hop
        exact releaseFast_keeps hforgotten hstored hknown
    exact ⟨current, hcurrent, hle.trans hseen⟩
  rcases HistoryOp.storedMark_apply s.history op fieldKey with
    ⟨changed, current, hop, hread | hread⟩ | hread
  · rw [hread] at hmark
    rw [HistoryOp.apply_of_confirmation hop]
    exact ⟨mark, (Option.filter_eq_some_iff.mp hmark).1, le_rfl⟩
  · rw [hread] at hmark
    cases hfresh : (changed.get? fieldKey).filter
        (Restorable (op.lastReading s.clock) s.history.retentionSeconds fieldKey ·) with
    | none =>
      rw [hfresh] at hmark
      exact hold hmark
    | some fresh =>
      rw [hfresh] at hmark
      obtain rfl := Option.some.inj hmark
      rw [HistoryOp.apply_of_confirmation hop]
      exact ⟨fresh, (HistoryRun.current_of_changed (s := .start s.history s.clock) hop
        (Option.filter_eq_some_iff.mp hfresh).1).1, le_rfl⟩
  · rw [hread] at hmark
    exact hold hmark

/-- What a later restart finds after an operation, an earlier one finds as well. -/
theorem Bounded.fading_op (hs : s.Bounded) (hnow : s.clock ≤ op.lastReading s.clock)
    {earlier later : ℚ} (hearlier : op.lastReading s.clock ≤ earlier) (hle : earlier ≤ later)
    (hmark : (op.apply s.history).2.storedMark later fieldKey = some mark) :
    ∃ known, (op.apply s.history).2.storedMark earlier fieldKey = some known ∧ mark.seenAt ≤ known.seenAt := by
  have hcutoff : earlier - s.history.retentionSeconds ≤ later - s.history.retentionSeconds := by linarith
  -- a mark of the past stays restorable at every earlier time
  have hrestorable : ∀ known : PublicationOrderMark, known.seenAt ≤ op.lastReading s.clock →
      Restorable later s.history.retentionSeconds fieldKey known →
      Restorable earlier s.history.retentionSeconds fieldKey known := by
    intro known hknown ⟨hkey, hfield, hlane, hwindow, _⟩
    exact ⟨hkey, hfield, hlane, hcutoff.trans_lt hwindow, hknown.trans hearlier⟩
  have hold := hs.fading earlier later fieldKey
  rcases HistoryOp.storedMark_apply s.history op fieldKey with
    ⟨changed, current, hop, hread | hread⟩ | hread
  · rw [hread] at hmark
    obtain ⟨hcurrent, hfound⟩ := Option.filter_eq_some_iff.mp hmark
    have happlied : (op.apply s.history).2.marks.get? fieldKey = some mark := by
      rw [HistoryOp.apply_of_confirmation hop]
      exact hcurrent
    have hseen : mark.seenAt ≤ op.lastReading s.clock := by
      rcases HistoryOp.apply_mark s.clock happlied with hbefore | hnew
      · exact (hs.past _ _ hbefore).trans hnow
      · exact hnew.le
    refine ⟨mark, ?_, le_rfl⟩
    rw [hread]
    exact Option.filter_eq_some_iff.mpr ⟨hcurrent, decide_eq_true (hrestorable mark hseen (of_decide_eq_true hfound))⟩
  · rw [hread] at hmark ⊢
    rcases HistoryOp.confirmation_cases hop s.clock fieldKey with
      ⟨fresh, -, hseen, hchanged, -⟩ | ⟨hnone, -⟩
    · rw [hchanged] at hmark ⊢
      by_cases hnew : Restorable earlier s.history.retentionSeconds fieldKey fresh
      · refine ⟨fresh, by simp [hnew], ?_⟩
        by_cases hlater : Restorable later s.history.retentionSeconds fieldKey fresh
        · simp only [Option.filter, hlater, decide_true, if_true] at hmark
          obtain rfl := Option.some.inj hmark
          exact le_rfl
        · simp only [Option.filter, hlater, decide_false] at hmark
          have hbefore := hs.seen (hnow.trans (hearlier.trans hle)) hmark
          linarith
      · have hlater : ¬ Restorable later s.history.retentionSeconds fieldKey fresh :=
          fun h => hnew (hrestorable fresh hseen.le h)
        simp only [Option.filter, hlater, decide_false] at hmark
        simp only [Option.filter, hnew, decide_false]
        exact hold mark (hnow.trans hearlier) hle hmark
    · rw [hnone] at hmark ⊢
      exact hold mark (hnow.trans hearlier) hle hmark
  · rw [hread] at hmark ⊢
    exact hold mark (hnow.trans hearlier) hle hmark

theorem bounded_step (s : HistoryLife) (event : LifeEvent) (hs : s.Bounded)
    (hevent : s.ClockAdvances event ∧ s.ReleasesForgotten event) : Bounded (s.step event) := by
  obtain ⟨hclock, hforgotten⟩ := hevent
  cases event with
  | restart now => exact hs.restart hclock
  | op op =>
    obtain ⟨hfirst, hlast⟩ := hclock
    refine ⟨?_, ?_, ?_, ?_⟩
    · show (op.apply s.history).2.marks.length ≤ (op.apply s.history).2.capacity
      rw [HistoryOp.apply_capacity]
      exact HistoryOp.length_apply_le hs.capacity op
    · intro fieldKey mark hmark
      rcases HistoryOp.apply_mark s.clock hmark with hbefore | hnew
      · exact (hs.past _ _ hbefore).trans (hfirst.trans hlast)
      · exact hnew.le
    · intro fieldKey mark hmark
      exact hs.remembered_op hfirst hlast hforgotten hmark
    · intro earlier later fieldKey mark hearlier hle hmark
      exact hs.fading_op (hfirst.trans hlast) hearlier hle hmark

theorem capacity_step (s : HistoryLife) (event : LifeEvent) :
    (s.step event).history.capacity = s.history.capacity := by
  cases event with
  | op op => exact HistoryOp.apply_capacity s.history op
  | restart now =>
    have := s.history.capacity_pos
    show (max 1 (s.history.capacity : Int)).toNat = s.history.capacity
    omega

/-- In a run whose releases leave the stored fields alone, there are never more marks than the capacity. -/
theorem retained_marks_bounded (capacity : Int) (retentionSeconds : ℚ) (persistent : Bool) (now : ℚ)
    (events : List LifeEvent)
    (hclock : Along step ClockAdvances (start capacity retentionSeconds persistent now) events)
    (hforgotten : Along step ReleasesForgotten (start capacity retentionSeconds persistent now) events) :
    ∀ before after, events = before ++ after →
      ((run step (start capacity retentionSeconds persistent now) before).history.marks.length : Int) ≤
        max 1 capacity := by
  intro before after hsplit
  subst hsplit
  have hboth := (along_append.mp (hclock.and hforgotten)).1
  have hle := (run_invariant_of_along bounded_step (bounded_start capacity retentionSeconds persistent now)
    hboth).capacity
  have hstep : ∀ (s : HistoryLife) (event : LifeEvent), s.history.capacity = (max 1 capacity).toNat →
      (s.step event).history.capacity = (max 1 capacity).toNat :=
    fun s event h => (capacity_step s event).trans h
  rw [run_invariant hstep rfl before] at hle
  omega

end HistoryLife

namespace HistoryLife

local instance lifeSampleLib : PyLib := PyLib.sample

/-- A field is confirmed, and the claim of another one for which there is room is released. -/
def releasedBeside : List LifeEvent :=
  [.op (.claimFast "k" (Dict.ofList [("x", 5)]) [] 1 1),
    .op (.confirmFastApplied "k" (Dict.ofList [("x", 5)]) 2),
    .op (.claimFast "k" (Dict.ofList [("y", 7)]) [] 3 3),
    .op (.releaseFast "k" (Dict.ofList [("y", 7)])), .restart 6]

theorem releasedBeside_bounded :
    ((run step (start 2 60 true 0) releasedBeside).history.marks.length : Int) ≤ 2 :=
  retained_marks_bounded 2 60 true 0 releasedBeside (by decide +kernel) (by decide +kernel) _ []
    (List.append_nil _).symm

/-- A field is confirmed, a newer claim for it is released, another field takes the place in memory, and the
process restarts. -/
def releasedOver : List LifeEvent :=
  [.op (.claimFast "k" (Dict.ofList [("x", 5)]) [] 1 1),
    .op (.confirmFastApplied "k" (Dict.ofList [("x", 5)]) 2),
    .op (.claimFast "k" (Dict.ofList [("x", 6)]) [] 3 3),
    .op (.releaseFast "k" (Dict.ofList [("x", 6)])),
    .op (.claimFast "k" (Dict.ofList [("y", 7)]) [] 4 4),
    .op (.confirmFastApplied "k" (Dict.ofList [("y", 7)]) 5), .restart 6]

/-- The restart finds both fields, twice the capacity. -/
theorem restart_exceeds_capacity :
    Along step ClockAdvances (start 1 60 true 0) releasedOver ∧
      (run step (start 1 60 true 0) releasedOver).history.marks.length = 2 := by
  decide +kernel

end HistoryLife

end VenusEvcharger
