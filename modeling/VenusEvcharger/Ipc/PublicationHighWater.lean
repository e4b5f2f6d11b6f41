import VenusEvcharger.Ipc.FastPublicationEffects

/-!
# High-water orders

The high-water order of a field is the order of its mark, or zero. Inside the retention window a
claim or a confirmation never lowers one; only `release_fast` does, which resets the fields whose
volatile mark it gives up.
-/

namespace VenusEvcharger

open Library

/-- The order of a mark, zero without one. -/
def markOrder (mark : Option PublicationOrderMark) : Nat := (mark.map (·.order)).getD 0

@[simp] theorem markOrder_none : markOrder none = 0 := rfl

@[simp] theorem markOrder_some (mark : PublicationOrderMark) : markOrder (some mark) = mark.order :=
  rfl

theorem markOrder_le_of_not_blocked {orderBlocked : Nat → PublicationOrderMark → Bool}
    (hblocked : ∀ order mark, orderBlocked order mark = false → mark.order ≤ order)
    {current : Option PublicationOrderMark} {order : Nat}
    (h : orderBlockedBy orderBlocked current order = false) : markOrder current ≤ order := by
  cases current with
  | none => exact Nat.zero_le order
  | some mark => exact hblocked order mark h

theorem le_of_not_fastOrderClaimBlocked (order : Nat) (mark : PublicationOrderMark)
    (h : fastOrderClaimBlocked order mark = false) : mark.order ≤ order :=
  (not_le.mp (of_decide_eq_false h)).le

theorem le_of_not_durableOrderClaimBlocked (order : Nat) (mark : PublicationOrderMark)
    (h : durableOrderClaimBlocked order mark = false) : mark.order ≤ order := by
  rw [durableOrderClaimBlocked] at h
  split_ifs at h with hlt
  · exact not_lt.mp hlt
  · exact not_lt.mp hlt

theorem le_of_durableOrderClaimBlocked (order : Nat) (mark : PublicationOrderMark)
    (h : durableOrderClaimBlocked order mark = true) : order ≤ mark.order := by
  rw [durableOrderClaimBlocked] at h
  split_ifs at h with hlt hgt
  · exact hlt.le
  · exact not_lt.mp hgt

theorem markOrder_withClaimedMarks (key : String) (fieldOrders : Dict String Nat)
    (lane : PublicationLane) (claim : PublicationFieldClaim) (marks : PublicationOrderMarks)
    (now : ℚ) (fieldKey : PublicationFieldKey) :
    markOrder ((withClaimedMarks key fieldOrders lane claim marks now).get? fieldKey) =
      if (fieldKey.1 = key ∧ fieldKey.2 ∈ claim.acceptedFields) ∧
        0 < fieldOrders.getD fieldKey.2 0 then fieldOrders.getD fieldKey.2 0
      else markOrder (marks.get? fieldKey) := by
  rw [get?_withClaimedMarks]
  by_cases haccepted : fieldKey.1 = key ∧ fieldKey.2 ∈ claim.acceptedFields
  · rw [if_pos haccepted]
    by_cases hpos : 0 < fieldOrders.getD fieldKey.2 0
    · rw [if_pos ⟨haccepted, hpos⟩, claimedOrderMark_of_pos hpos]
      rfl
    · rw [if_neg fun h => hpos h.2, Nat.eq_zero_of_not_pos hpos, claimedOrderMark_zero]
      rfl
  · rw [if_neg haccepted, if_neg fun h => haccepted h.1]

section

variable {orderBlocked : Nat → PublicationOrderMark → Bool}
  (hblocked : ∀ order mark, orderBlocked order mark = false → mark.order ≤ order)

include hblocked

theorem markOrder_le_of_accepted {key field : String} {fieldOrders : Dict String Nat}
    {marks : PublicationOrderMarks}
    (hmem : field ∈ (fieldClaim key fieldOrders marks orderBlocked).acceptedFields) :
    markOrder (marks.get? (key, field)) ≤ fieldOrders.getD field 0 := by
  obtain ⟨order, horder, hfree⟩ := mem_acceptedFields_fieldClaim.mp hmem
  rw [Dict.getD, horder]
  exact markOrder_le_of_not_blocked hblocked hfree

/-- Marking the accepted fields lowers no mark. -/
theorem markOrder_le_withClaimedMarks (key : String) (fieldOrders : Dict String Nat)
    (lane : PublicationLane) (marks : PublicationOrderMarks) (now : ℚ)
    (fieldKey : PublicationFieldKey) :
    markOrder (marks.get? fieldKey) ≤ markOrder ((withClaimedMarks key fieldOrders lane
      (fieldClaim key fieldOrders marks orderBlocked) marks now).get? fieldKey) := by
  rw [markOrder_withClaimedMarks]
  split_ifs with haccepted
  · obtain ⟨k, field⟩ := fieldKey
    obtain ⟨⟨rfl, hmem⟩, -⟩ := haccepted
    exact markOrder_le_of_accepted hblocked hmem
  · exact le_rfl

end

theorem le_markOrder_withClaimedMarks (key : String) (fieldOrders : Dict String Nat)
    (lane : PublicationLane) {claim : PublicationFieldClaim} (marks : PublicationOrderMarks) (now : ℚ)
    {field : String} (hmem : field ∈ claim.acceptedFields) :
    fieldOrders.getD field 0 ≤
      markOrder ((withClaimedMarks key fieldOrders lane claim marks now).get? (key, field)) := by
  rw [markOrder_withClaimedMarks]
  split_ifs with hwritten
  · exact le_rfl
  · exact (Nat.eq_zero_of_not_pos fun hpos => hwritten ⟨⟨rfl, hmem⟩, hpos⟩).le.trans (Nat.zero_le _)

namespace PublicationOrderHistory

/-- The high-water order of a field. -/
def highWater (h : PublicationOrderHistory) (fieldKey : PublicationFieldKey) : Nat :=
  markOrder (h.marks.get? fieldKey)

/-- Every mark was seen inside the retention window that ends at `now`. -/
def RetainsAll (h : PublicationOrderHistory) (now : ℚ) : Prop :=
  ∀ entry ∈ h.marks.entries, now - h.retentionSeconds < entry.2.seenAt

instance (h : PublicationOrderHistory) (now : ℚ) : Decidable (h.RetainsAll now) :=
  inferInstanceAs (Decidable (∀ entry ∈ h.marks.entries, now - h.retentionSeconds < entry.2.seenAt))

variable {h : PublicationOrderHistory} {now : ℚ}

theorem pruned_of_retainsAll (hall : h.RetainsAll now) (activeFields : List PublicationFieldKey) :
    h.pruned now activeFields = h.marks := by
  have hentries : (h.pruned now activeFields).entries = h.marks.entries := by
    refine List.filter_eq_self.mpr fun entry hentry => ?_
    rw [Bool.or_eq_true, decide_eq_true_eq, decide_eq_true_eq]
    exact .inr (hall entry hentry)
  cases hmarks : h.marks with
  | mk entries nodup =>
    rw [hmarks] at hentries
    cases hpruned : h.pruned now activeFields with
    | mk others nodup' =>
      rw [hpruned] at hentries
      obtain rfl : others = entries := hentries
      rfl

variable (key : String) (fieldOrders : Dict String Nat) (activeFields : List PublicationFieldKey)

/-- `claim_fast` lowers no high-water order. -/
theorem highWater_le_claimFast (hall : h.RetainsAll now) (stamp : ℚ)
    (fieldKey : PublicationFieldKey) :
    h.highWater fieldKey ≤ (h.claimFast key fieldOrders activeFields now stamp).2.highWater fieldKey := by
  rw [claimFast, pruned_of_retainsAll hall]
  split_ifs
  · exact markOrder_le_withClaimedMarks le_of_not_fastOrderClaimBlocked key fieldOrders .fast h.marks
      stamp fieldKey
  · exact le_rfl

/-- `claim_fast` accepts an order that is at least the high-water order, and raises it to that. -/
theorem highWater_accepted_claimFast (hall : h.RetainsAll now) (stamp : ℚ) {field : String}
    (hmem : field ∈ (h.claimFast key fieldOrders activeFields now stamp).1.acceptedFields) :
    h.highWater (key, field) ≤ fieldOrders.getD field 0 ∧ fieldOrders.getD field 0 ≤
      (h.claimFast key fieldOrders activeFields now stamp).2.highWater (key, field) := by
  rw [claimFast, pruned_of_retainsAll hall] at hmem ⊢
  split_ifs at hmem ⊢ with hfits
  · exact ⟨markOrder_le_of_accepted le_of_not_fastOrderClaimBlocked hmem,
      le_markOrder_withClaimedMarks key fieldOrders .fast h.marks stamp hmem⟩
  · exact absurd hmem List.not_mem_nil

/-- `claim_durable` accepts an order that is at least the high-water order. -/
theorem highWater_accepted_claimDurable (hall : h.RetainsAll now) {field : String}
    (hmem : field ∈ (h.claimDurable key fieldOrders activeFields now).acceptedFields) :
    h.highWater (key, field) ≤ fieldOrders.getD field 0 := by
  rw [claimDurable, pruned_of_retainsAll hall] at hmem
  split_ifs at hmem with hfits
  · exact markOrder_le_of_accepted le_of_not_durableOrderClaimBlocked hmem
  · exact absurd hmem List.not_mem_nil

/-- `release_fast` resets the fields whose volatile mark it gives up. -/
theorem highWater_releaseFast (fieldKey : PublicationFieldKey) :
    (h.releaseFast key fieldOrders).highWater fieldKey =
      if fieldKey.1 = key ∧
        fastMarkMatches (h.marks.get? fieldKey) (fieldOrders.getD fieldKey.2 0) = true then 0
      else h.highWater fieldKey := by
  rw [highWater, get?_releaseFast]
  by_cases hkey : fieldKey.1 = key
  · by_cases hmatch : fastMarkMatches (h.marks.get? fieldKey) (fieldOrders.getD fieldKey.2 0) = true
    · simp [hkey, hmatch]
    · simp [hkey, hmatch, highWater]
  · simp [hkey, highWater]

variable [PyLib]

/-- `confirm_fast_applied` keeps every high-water order. -/
theorem highWater_confirmFastApplied (fieldKey : PublicationFieldKey) :
    (h.confirmFastApplied key fieldOrders now).2.highWater fieldKey = h.highWater fieldKey := by
  change markOrder ((h.confirmFastMarks key fieldOrders now).1.get? fieldKey) = _
  rcases h.confirmFastMarks_cases key fieldOrders now fieldKey with
    ⟨mark, hmark, -, -, -, hconfirmed, -⟩ | ⟨-, hkept, -⟩
  · rw [hconfirmed, highWater, hmark]
    rfl
  · rw [hkept, highWater]

/-- `confirm_durable_applied` lowers no high-water order. -/
theorem highWater_le_confirmDurableApplied (hall : h.RetainsAll now) (stamp : ℚ)
    (fieldKey : PublicationFieldKey) :
    h.highWater fieldKey ≤
      (h.confirmDurableApplied key fieldOrders activeFields now stamp).2.highWater fieldKey := by
  rw [confirmDurableApplied, pruned_of_retainsAll hall]
  split_ifs
  · exact markOrder_le_withClaimedMarks le_of_not_durableOrderClaimBlocked key fieldOrders .durable
      h.marks stamp fieldKey
  · exact le_rfl

/-- `confirm_durable_applied` raises the high-water orders to the confirmed ones, unless the history
is full. -/
theorem le_highWater_confirmDurableApplied (hall : h.RetainsAll now) (stamp : ℚ)
    (hfull : (h.claimDurable key fieldOrders activeFields now).state ≠ .full) {field : String}
    {order : Nat} (horder : fieldOrders.get? field = some order) :
    order ≤
      (h.confirmDurableApplied key fieldOrders activeFields now stamp).2.highWater (key, field) := by
  have hgrown := h.highWater_le_confirmDurableApplied key fieldOrders activeFields hall stamp
    (key, field)
  rw [claimDurable] at hfull
  rw [confirmDurableApplied] at hgrown ⊢
  split_ifs at hfull hgrown ⊢ with hfits
  · by_cases hblocked : orderBlockedBy durableOrderClaimBlocked
        ((h.pruned now activeFields).get? (key, field)) order = true
    · refine le_trans ?_ hgrown
      rw [pruned_of_retainsAll hall] at hblocked
      rw [highWater]
      cases hmark : h.marks.get? (key, field) with
      | none => simp [hmark, orderBlockedBy] at hblocked
      | some mark =>
        rw [hmark] at hblocked
        exact le_of_durableOrderClaimBlocked order mark hblocked
    · have hmem := mem_acceptedFields_fieldClaim.mpr ⟨order, horder, Bool.not_eq_true _ ▸ hblocked⟩
      have hmarked := le_markOrder_withClaimedMarks key fieldOrders .durable
        (h.pruned now activeFields) stamp hmem
      rwa [Dict.getD, horder, Option.getD_some] at hmarked
  · exact absurd rfl hfull

end PublicationOrderHistory

/-- Pruning a queue resets the fields whose expired claim it gives up. -/
theorem FastPublicationQueue.highWater_pruneExpired [PyLib] {q : FastPublicationQueue}
    (hwf : q.WellFormed) (now : ℚ) (fieldKey : PublicationFieldKey) :
    (q.pruneExpired now).history.highWater fieldKey =
      if q.QueuedExpired now fieldKey ∧
        fastMarkMatches (q.history.marks.get? fieldKey) ((q.queuedOrder fieldKey).getD 0) = true
      then 0 else q.history.highWater fieldKey := by
  rw [PublicationOrderHistory.highWater, marks_pruneExpired hwf]
  split_ifs <;> rfl

end VenusEvcharger
