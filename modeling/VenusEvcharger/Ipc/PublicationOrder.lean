import VenusEvcharger.Ipc.PublicationOrderState

/-!
# Field-wise ordering of publications

`PublicationOrderHistory` keeps one mark per field. A fast publication claims its fields when it
is queued, and its claim is confirmed when it was applied or released when it was lost. A durable
publication asks before it is applied and is recorded only afterwards. Each operation comes with
the lemma that says what it leaves of the mark of a field.

Scope: the two clock readings of an operation are parameters, and counters are left out. Orders
are natural numbers, since `publication_field_orders` returns no negative one.
-/

namespace VenusEvcharger

open Library

/-- The verdict on a claim. -/
inductive PublicationOrderClaim where
  | accepted
  | superseded
  | full
deriving DecidableEq

/-- Fields accepted by one atomic ordering decision. -/
structure PublicationFieldClaim where
  state : PublicationOrderClaim
  acceptedFields : List String
  supersededFields : List String

/-- Bounded field high-water marks, and the files they are stored in when there is a state path. -/
structure PublicationOrderHistory where
  capacity : Nat
  retentionSeconds : ℚ
  state : Option StateFiles
  marks : PublicationOrderMarks
  capacity_pos : 1 ≤ capacity
  one_le_retention : 1 ≤ retentionSeconds

/-- A bound below one is raised to one. -/
theorem capacity_pos_of_max (capacity : Int) : 1 ≤ (max 1 capacity).toNat := by omega

/-- The marks a claim is decided on: active ones and those seen inside the retention window. -/
def prunedMarks (marks : PublicationOrderMarks) (retentionSeconds now : ℚ)
    (activeFields : List PublicationFieldKey) : PublicationOrderMarks :=
  marks.filter fun fieldKey mark =>
    decide (fieldKey ∈ activeFields) || decide (now - retentionSeconds < mark.seenAt)

/-- `_fast_order_claim_blocked`. -/
def fastOrderClaimBlocked (order : Nat) (current : PublicationOrderMark) : Bool :=
  decide (order ≤ current.order)

/-- `_durable_order_claim_blocked`: an equal order is blocked by a fast mark only. -/
def durableOrderClaimBlocked (order : Nat) (current : PublicationOrderMark) : Bool :=
  if order < current.order then true
  else if current.order < order then false
  else decide (current.lane ≠ .durable)

/-- `_fast_mark_matches`. -/
def fastMarkMatches (current : Option PublicationOrderMark) (order : Nat) : Bool :=
  match current with
  | some mark => decide (mark.lane = .fast ∧ mark.order = order)
  | none => false

/-- Whether the mark of a field blocks an order for it. -/
def orderBlockedBy (orderBlocked : Nat → PublicationOrderMark → Bool)
    (current : Option PublicationOrderMark) (order : Nat) : Bool :=
  match current with
  | some mark => orderBlocked order mark
  | none => false

/-- `_field_claim`. -/
def fieldClaim (key : String) (fieldOrders : Dict String Nat) (marks : PublicationOrderMarks)
    (orderBlocked : Nat → PublicationOrderMark → Bool) : PublicationFieldClaim :=
  let blocked := fun entry : String × Nat =>
    orderBlockedBy orderBlocked (marks.get? (key, entry.1)) entry.2
  let accepted := (fieldOrders.entries.filter fun entry => !blocked entry).map Prod.fst
  let superseded := (fieldOrders.entries.filter blocked).map Prod.fst
  ⟨if accepted = [] then .superseded else .accepted, accepted, superseded⟩

/-- `_claimed_order_mark`. -/
def claimedOrderMark (order : Nat) (lane : PublicationLane) (now : ℚ) :
    Option PublicationOrderMark :=
  if hpos : 0 < order then some ⟨order, lane, now, hpos⟩ else none

/-- `_with_claimed_marks`: accepted fields with a positive order are marked and move to the end. -/
def withClaimedMarks (key : String) (fieldOrders : Dict String Nat) (lane : PublicationLane)
    (claim : PublicationFieldClaim) (marks : PublicationOrderMarks) (now : ℚ) :
    PublicationOrderMarks :=
  claim.acceptedFields.foldl (fun updated field =>
    match claimedOrderMark (fieldOrders.getD field 0) lane now with
    | none => updated
    | some mark => (updated.set (key, field) mark).moveToEnd (key, field)) marks

/-- `_claimed_field_keys`. -/
def claimedFieldKeys (key : String) (fieldOrders : Dict String Nat)
    (claim : PublicationFieldClaim) : List PublicationFieldKey :=
  (claim.acceptedFields.filter fun field => decide (0 < fieldOrders.getD field 0)).map (key, ·)

/-- `_claim_fits_capacity`. -/
def claimFitsCapacity (key : String) (fieldOrders : Dict String Nat)
    (claim : PublicationFieldClaim) (marks : PublicationOrderMarks) (capacity : Nat) : Bool :=
  let newFields := (claimedFieldKeys key fieldOrders claim).filter fun fieldKey =>
    !marks.contains fieldKey
  decide (marks.length + newFields.length ≤ capacity)

namespace PublicationOrderHistory

/-- The history at process start, with the marks its files still hold at `now`. -/
def create [PyLib] (capacity : Int) (retentionSeconds : ℚ) (state : Option StateFiles) (now : ℚ) :
    PublicationOrderHistory where
  capacity := (max 1 capacity).toNat
  retentionSeconds := max 1 retentionSeconds
  state := state
  marks := loadPublicationOrderMarks state now (max 1 retentionSeconds)
  capacity_pos := capacity_pos_of_max capacity
  one_le_retention := le_max_left 1 retentionSeconds

/-- `_pruned_marks`. -/
def pruned (h : PublicationOrderHistory) (now : ℚ) (activeFields : List PublicationFieldKey) :
    PublicationOrderMarks :=
  prunedMarks h.marks h.retentionSeconds now activeFields

/-- `claim_fast`: reserve the accepted fields in memory. -/
def claimFast (h : PublicationOrderHistory) (key : String) (fieldOrders : Dict String Nat)
    (activeFields : List PublicationFieldKey) (now stamp : ℚ) :
    PublicationFieldClaim × PublicationOrderHistory :=
  let candidate := h.pruned now activeFields
  let claim := fieldClaim key fieldOrders candidate fastOrderClaimBlocked
  if claimFitsCapacity key fieldOrders claim candidate h.capacity then
    (claim, { h with marks := withClaimedMarks key fieldOrders .fast claim candidate stamp })
  else (⟨.full, [], []⟩, h)

/-- `claim_durable`: a question only, no mark changes. -/
def claimDurable (h : PublicationOrderHistory) (key : String) (fieldOrders : Dict String Nat)
    (activeFields : List PublicationFieldKey) (now : ℚ) : PublicationFieldClaim :=
  let candidate := h.pruned now activeFields
  let claim := fieldClaim key fieldOrders candidate durableOrderClaimBlocked
  if claimFitsCapacity key fieldOrders claim candidate h.capacity then claim else ⟨.full, [], []⟩

/-- `_persist`. -/
def persist [PyLib] (h : PublicationOrderHistory) (changed current : PublicationOrderMarks) :
    Bool × PublicationOrderHistory :=
  let stored := checkpointPublicationOrderMarks h.state changed current
  (stored.1, { h with state := stored.2, marks := current })

/-- One pass of the loop of `confirm_fast_applied` over the updated and the changed marks. -/
def confirmFastField (key : String) (now : ℚ)
    (acc : PublicationOrderMarks × PublicationOrderMarks) (entry : String × Nat) :
    PublicationOrderMarks × PublicationOrderMarks :=
  let fieldKey := (key, entry.1)
  match acc.1.get? fieldKey with
  | some current =>
    if fastMarkMatches (some current) entry.2 then
      let mark : PublicationOrderMark := ⟨current.order, .durable, now, current.positive⟩
      ((acc.1.set fieldKey mark).moveToEnd fieldKey, acc.2.set fieldKey mark)
    else acc
  | none => acc

/-- The updated and the changed marks of `confirm_fast_applied`. -/
def confirmFastMarks (h : PublicationOrderHistory) (key : String) (fieldOrders : Dict String Nat)
    (now : ℚ) : PublicationOrderMarks × PublicationOrderMarks :=
  fieldOrders.entries.foldl (confirmFastField key now) (h.marks, Dict.empty)

/-- `confirm_fast_applied`. -/
def confirmFastApplied [PyLib] (h : PublicationOrderHistory) (key : String)
    (fieldOrders : Dict String Nat) (now : ℚ) : Bool × PublicationOrderHistory :=
  let confirmed := h.confirmFastMarks key fieldOrders now
  h.persist confirmed.2 confirmed.1

/-- The marks that `confirm_durable_applied` stores of its updated marks. -/
def claimedMarks (key : String) (fieldOrders : Dict String Nat) (claim : PublicationFieldClaim)
    (updated : PublicationOrderMarks) : PublicationOrderMarks :=
  Dict.ofList ((claimedFieldKeys key fieldOrders claim).filterMap fun fieldKey =>
    (updated.get? fieldKey).map (fieldKey, ·))

/-- `confirm_durable_applied`. -/
def confirmDurableApplied [PyLib] (h : PublicationOrderHistory) (key : String)
    (fieldOrders : Dict String Nat) (activeFields : List PublicationFieldKey) (now stamp : ℚ) :
    Bool × PublicationOrderHistory :=
  let candidate := h.pruned now activeFields
  let claim := fieldClaim key fieldOrders candidate durableOrderClaimBlocked
  if claimFitsCapacity key fieldOrders claim candidate h.capacity then
    let updated := withClaimedMarks key fieldOrders .durable claim candidate stamp
    h.persist (claimedMarks key fieldOrders claim updated) updated
  else (false, h)

/-- One pass of the loop of `release_fast`. -/
def releaseFastField (key : String) (marks : PublicationOrderMarks) (entry : String × Nat) :
    PublicationOrderMarks :=
  if fastMarkMatches (marks.get? (key, entry.1)) entry.2 then marks.erase (key, entry.1) else marks

/-- `release_fast`: give up matching volatile marks. -/
def releaseFast (h : PublicationOrderHistory) (key : String) (fieldOrders : Dict String Nat) :
    PublicationOrderHistory :=
  { h with marks := fieldOrders.entries.foldl (releaseFastField key) h.marks }

end PublicationOrderHistory

/-! ## The mark of a field after each operation -/

theorem claimedOrderMark_of_pos {order : Nat} (hpos : 0 < order) (lane : PublicationLane)
    (now : ℚ) : claimedOrderMark order lane now = some ⟨order, lane, now, hpos⟩ :=
  dif_pos hpos

@[simp] theorem claimedOrderMark_zero (lane : PublicationLane) (now : ℚ) :
    claimedOrderMark 0 lane now = none := rfl

theorem fastMarkMatches_iff {current : Option PublicationOrderMark} {order : Nat} :
    fastMarkMatches current order = true ↔
      ∃ mark, current = some mark ∧ mark.lane = .fast ∧ mark.order = order := by
  cases current with
  | none => simp [fastMarkMatches]
  | some mark => simp [fastMarkMatches]

@[simp] theorem fastMarkMatches_zero (current : Option PublicationOrderMark) :
    fastMarkMatches current 0 = false := by
  cases current with
  | none => rfl
  | some mark => simp [fastMarkMatches, mark.positive.ne']

@[simp] theorem get?_prunedMarks (marks : PublicationOrderMarks) (retentionSeconds now : ℚ)
    (activeFields : List PublicationFieldKey) (fieldKey : PublicationFieldKey) :
    (prunedMarks marks retentionSeconds now activeFields).get? fieldKey =
      (marks.get? fieldKey).filter fun mark =>
        decide (fieldKey ∈ activeFields) || decide (now - retentionSeconds < mark.seenAt) := by
  rw [prunedMarks, Dict.get?_filter]

variable {fieldOrders : Dict String Nat}

variable {key : String}

theorem mem_acceptedFields_fieldClaim {field : String} {marks : PublicationOrderMarks}
    {orderBlocked : Nat → PublicationOrderMark → Bool} :
    field ∈ (fieldClaim key fieldOrders marks orderBlocked).acceptedFields ↔
      ∃ order, fieldOrders.get? field = some order ∧
        orderBlockedBy orderBlocked (marks.get? (key, field)) order = false := by
  simp [fieldClaim, Dict.mem_entries_iff]

theorem get?_withClaimedMarks (key : String) (fieldOrders : Dict String Nat)
    (lane : PublicationLane) (claim : PublicationFieldClaim) (marks : PublicationOrderMarks)
    (now : ℚ) (fieldKey : PublicationFieldKey) :
    (withClaimedMarks key fieldOrders lane claim marks now).get? fieldKey =
      if fieldKey.1 = key ∧ fieldKey.2 ∈ claim.acceptedFields then
        (claimedOrderMark (fieldOrders.getD fieldKey.2 0) lane now <|> marks.get? fieldKey)
      else marks.get? fieldKey := by
  rw [withClaimedMarks]
  generalize claim.acceptedFields = fields
  induction fields generalizing marks with
  | nil => simp
  | cons field fields ih =>
    rw [List.foldl_cons, ih]
    have hone : (match claimedOrderMark (fieldOrders.getD field 0) lane now with
        | none => marks
        | some mark => (marks.set (key, field) mark).moveToEnd (key, field)).get? fieldKey =
        if fieldKey = (key, field) then
          (claimedOrderMark (fieldOrders.getD field 0) lane now <|> marks.get? fieldKey)
        else marks.get? fieldKey := by
      cases claimedOrderMark (fieldOrders.getD field 0) lane now with
      | none => simp
      | some mark => simp [Dict.get?_set]
    rw [hone]
    obtain ⟨k, f⟩ := fieldKey
    by_cases hk : k = key
    · subst hk
      by_cases hf : f = field
      · subst hf
        cases claimedOrderMark (fieldOrders.getD f 0) lane now <;> simp
      · simp [hf]
    · simp [hk]

variable {claim : PublicationFieldClaim}

theorem mem_claimedFieldKeys {fieldKey : PublicationFieldKey} :
    fieldKey ∈ claimedFieldKeys key fieldOrders claim ↔
      fieldKey.1 = key ∧ fieldKey.2 ∈ claim.acceptedFields ∧ 0 < fieldOrders.getD fieldKey.2 0 := by
  obtain ⟨k, f⟩ := fieldKey
  simp only [claimedFieldKeys, List.mem_map, List.mem_filter, decide_eq_true_eq, Prod.mk.injEq]
  constructor
  · rintro ⟨field, ⟨hmem, hpos⟩, rfl, rfl⟩
    exact ⟨rfl, hmem, hpos⟩
  · rintro ⟨rfl, hmem, hpos⟩
    exact ⟨f, ⟨hmem, hpos⟩, rfl, rfl⟩

theorem nodup_acceptedFields (key : String) (fieldOrders : Dict String Nat)
    (marks : PublicationOrderMarks) (orderBlocked : Nat → PublicationOrderMark → Bool) :
    (fieldClaim key fieldOrders marks orderBlocked).acceptedFields.Nodup :=
  fieldOrders.nodup.sublist (List.filter_sublist.map Prod.fst)

theorem get?_claimedMarks (hnodup : claim.acceptedFields.Nodup)
    (updated : PublicationOrderMarks) (fieldKey : PublicationFieldKey) :
    (PublicationOrderHistory.claimedMarks key fieldOrders claim updated).get? fieldKey =
      if fieldKey ∈ claimedFieldKeys key fieldOrders claim then updated.get? fieldKey else none := by
  have hkeys : (claimedFieldKeys key fieldOrders claim).Nodup :=
    (hnodup.filter _).map fun _ _ heq => (Prod.mk.inj heq).2
  have hpairs : (((claimedFieldKeys key fieldOrders claim).filterMap fun fieldKey =>
      (updated.get? fieldKey).map (fieldKey, ·)).map Prod.fst).Nodup := by
    refine hkeys.sublist ?_
    generalize claimedFieldKeys key fieldOrders claim = fieldKeys
    induction fieldKeys with
    | nil => simp
    | cons fieldKey fieldKeys ih =>
      cases hmark : updated.get? fieldKey with
      | none => simpa [hmark] using ih.cons fieldKey
      | some mark => simpa [hmark] using ih.cons_cons fieldKey
  rw [PublicationOrderHistory.claimedMarks, Dict.get?_ofList hpairs]
  apply Dict.get?_eq_of_iff
  intro mark
  simp only [List.mem_filterMap, Option.map_eq_some_iff, Prod.mk.injEq]
  split_ifs with hmem
  · constructor
    · rintro ⟨_, _, _, hmark, rfl, rfl⟩
      exact hmark
    · intro hmark
      exact ⟨fieldKey, hmem, mark, hmark, rfl, rfl⟩
  · refine iff_of_false ?_ not_false
    rintro ⟨_, hmem', _, _, rfl, _⟩
    exact hmem hmem'

/-- A loop over the orders of a publication whose passes each rewrite the place of their own field
rewrites the places of the ordered fields, when an absent order rewrites nothing. -/
theorem view_foldl_fieldOrders {σ : Type*} {ω : Type*} (view : σ → PublicationFieldKey → ω)
    {body : σ → String × Nat → σ} (write : Nat → ω → ω)
    (hbody : ∀ s entry fieldKey, view (body s entry) fieldKey =
      if fieldKey = (key, entry.1) then write entry.2 (view s fieldKey) else view s fieldKey)
    (hzero : ∀ x, write 0 x = x) (fieldOrders : Dict String Nat) (s : σ)
    (fieldKey : PublicationFieldKey) :
    view (fieldOrders.entries.foldl body s) fieldKey =
      if fieldKey.1 = key then write (fieldOrders.getD fieldKey.2 0) (view s fieldKey)
      else view s fieldKey := by
  obtain ⟨k, field⟩ := fieldKey
  have hinjective : Function.Injective fun field : String => (key, field) :=
    fun _ _ h => (Prod.mk.inj h).2
  split_ifs with hk
  · change k = key at hk
    subst hk
    rw [Dict.view_foldl_entries view (fun field => (k, field)) (fun _ => write) fieldOrders
      (fun s entry _ => hbody s entry) hinjective s field, Dict.getD]
    cases fieldOrders.get? field with
    | none => rw [Option.getD_none, hzero]
    | some order => rfl
  · exact Dict.view_foldl_of_ne view (fun field => (key, field)) (fun _ => write)
      fieldOrders.entries (fun s entry _ => hbody s entry) s fun _ _ heq => hk (Prod.mk.inj heq).1

namespace PublicationOrderHistory

theorem get?_releaseFastField (key : String) (marks : PublicationOrderMarks)
    (entry : String × Nat) (fieldKey : PublicationFieldKey) :
    (releaseFastField key marks entry).get? fieldKey =
      if fieldKey = (key, entry.1) then
        if fastMarkMatches (marks.get? fieldKey) entry.2 then none else marks.get? fieldKey
      else marks.get? fieldKey := by
  rw [releaseFastField]
  by_cases hkey : fieldKey = (key, entry.1)
  · subst hkey
    by_cases hm : fastMarkMatches (marks.get? (key, entry.1)) entry.2 = true
    · simp [hm, Dict.get?_erase]
    · simp [hm]
  · by_cases hm : fastMarkMatches (marks.get? (key, entry.1)) entry.2 = true
    · simp [hm, hkey, Dict.get?_erase]
    · simp [hm, hkey]

variable (h : PublicationOrderHistory) (key : String) (fieldOrders : Dict String Nat)

/-- `release_fast` deletes the matching marks and no other. -/
theorem get?_releaseFast (fieldKey : PublicationFieldKey) :
    (h.releaseFast key fieldOrders).marks.get? fieldKey =
      if fieldKey.1 = key then
        if fastMarkMatches (h.marks.get? fieldKey) (fieldOrders.getD fieldKey.2 0) then none
        else h.marks.get? fieldKey
      else h.marks.get? fieldKey :=
  view_foldl_fieldOrders (fun marks fieldKey => Dict.get? marks fieldKey)
    (fun order current => if fastMarkMatches current order then none else current)
    (get?_releaseFastField key) (by simp) fieldOrders h.marks fieldKey

/-- The durable mark that confirms a volatile one. -/
def confirmedMark (now : ℚ) (mark : PublicationOrderMark) : PublicationOrderMark :=
  ⟨mark.order, .durable, now, mark.positive⟩

theorem get?_confirmFastField (now : ℚ) (acc : PublicationOrderMarks × PublicationOrderMarks)
    (entry : String × Nat) (fieldKey : PublicationFieldKey) :
    ((confirmFastField key now acc entry).1.get? fieldKey,
      (confirmFastField key now acc entry).2.get? fieldKey) =
      if fieldKey = (key, entry.1) then
        if fastMarkMatches (acc.1.get? fieldKey) entry.2 then
          ((acc.1.get? fieldKey).map (confirmedMark now),
            (acc.1.get? fieldKey).map (confirmedMark now))
        else (acc.1.get? fieldKey, acc.2.get? fieldKey)
      else (acc.1.get? fieldKey, acc.2.get? fieldKey) := by
  rw [confirmFastField]
  by_cases hkey : fieldKey = (key, entry.1)
  · subst hkey
    cases hcurrent : acc.1.get? (key, entry.1) with
    | none => simp [hcurrent, fastMarkMatches]
    | some mark =>
      by_cases hm : fastMarkMatches (some mark) entry.2 = true
      · simp [hm, confirmedMark]
      · simp [hm, hcurrent]
  · cases acc.1.get? (key, entry.1) with
    | none => simp [hkey]
    | some mark =>
      by_cases hm : fastMarkMatches (some mark) entry.2 = true
      · simp [hm, hkey, Dict.get?_set]
      · simp [hm, hkey]

/-- `confirm_fast_applied` turns the matching marks into durable ones, and stores exactly these. -/
theorem get?_confirmFastMarks (now : ℚ) (fieldKey : PublicationFieldKey) :
    ((h.confirmFastMarks key fieldOrders now).1.get? fieldKey,
      (h.confirmFastMarks key fieldOrders now).2.get? fieldKey) =
      if fieldKey.1 = key then
        if fastMarkMatches (h.marks.get? fieldKey) (fieldOrders.getD fieldKey.2 0) then
          ((h.marks.get? fieldKey).map (confirmedMark now),
            (h.marks.get? fieldKey).map (confirmedMark now))
        else (h.marks.get? fieldKey, none)
      else (h.marks.get? fieldKey, none) :=
  view_foldl_fieldOrders
    (fun acc fieldKey => (Dict.get? acc.1 fieldKey, Dict.get? acc.2 fieldKey))
    (fun order current =>
      if fastMarkMatches current.1 order then
        (current.1.map (confirmedMark now), current.1.map (confirmedMark now))
      else current)
    (get?_confirmFastField key now) (by simp) fieldOrders (h.marks, Dict.empty) fieldKey

/-- What `confirm_fast_applied` does to the mark of one field. -/
theorem confirmFastMarks_cases (now : ℚ) (fieldKey : PublicationFieldKey) :
    (∃ mark, h.marks.get? fieldKey = some mark ∧ mark.lane = .fast ∧ fieldKey.1 = key ∧
      mark.order = fieldOrders.getD fieldKey.2 0 ∧
      (h.confirmFastMarks key fieldOrders now).1.get? fieldKey = some (confirmedMark now mark) ∧
      (h.confirmFastMarks key fieldOrders now).2.get? fieldKey = some (confirmedMark now mark)) ∨
    (¬ (fieldKey.1 = key ∧
        fastMarkMatches (h.marks.get? fieldKey) (fieldOrders.getD fieldKey.2 0) = true) ∧
      (h.confirmFastMarks key fieldOrders now).1.get? fieldKey = h.marks.get? fieldKey ∧
      (h.confirmFastMarks key fieldOrders now).2.get? fieldKey = none) := by
  have hpair := h.get?_confirmFastMarks key fieldOrders now fieldKey
  by_cases hm : fieldKey.1 = key ∧
      fastMarkMatches (h.marks.get? fieldKey) (fieldOrders.getD fieldKey.2 0) = true
  · rw [if_pos hm.1, if_pos hm.2] at hpair
    obtain ⟨mark, hmark, hlane, horder⟩ := fastMarkMatches_iff.mp hm.2
    rw [hmark, Option.map_some, Prod.mk.injEq] at hpair
    exact .inl ⟨mark, hmark, hlane, hm.1, horder, hpair⟩
  · have hkeep : ((h.confirmFastMarks key fieldOrders now).1.get? fieldKey,
        (h.confirmFastMarks key fieldOrders now).2.get? fieldKey) =
        (h.marks.get? fieldKey, none) := by
      rw [hpair]
      by_cases hk : fieldKey.1 = key
      · rw [if_pos hk, if_neg fun h' => hm ⟨hk, h'⟩]
      · rw [if_neg hk]
    exact .inr ⟨hm, (Prod.mk.inj hkeep).1, (Prod.mk.inj hkeep).2⟩

end PublicationOrderHistory

theorem withClaimedMarks_cases (key : String) (fieldOrders : Dict String Nat)
    (hnodup : claim.acceptedFields.Nodup) (lane : PublicationLane) (marks : PublicationOrderMarks)
    (now : ℚ) (fieldKey : PublicationFieldKey) :
    (∃ hpos : 0 < fieldOrders.getD fieldKey.2 0, fieldKey.1 = key ∧
      fieldKey.2 ∈ claim.acceptedFields ∧
      (withClaimedMarks key fieldOrders lane claim marks now).get? fieldKey =
        some ⟨fieldOrders.getD fieldKey.2 0, lane, now, hpos⟩ ∧
      (PublicationOrderHistory.claimedMarks key fieldOrders claim
          (withClaimedMarks key fieldOrders lane claim marks now)).get? fieldKey =
        some ⟨fieldOrders.getD fieldKey.2 0, lane, now, hpos⟩) ∨
    (fieldKey ∉ claimedFieldKeys key fieldOrders claim ∧
      (withClaimedMarks key fieldOrders lane claim marks now).get? fieldKey = marks.get? fieldKey ∧
      (PublicationOrderHistory.claimedMarks key fieldOrders claim
          (withClaimedMarks key fieldOrders lane claim marks now)).get? fieldKey = none) := by
  rw [get?_claimedMarks hnodup, get?_withClaimedMarks]
  by_cases hmem : fieldKey ∈ claimedFieldKeys key fieldOrders claim
  · left
    obtain ⟨hkey, hfield, hpos⟩ := mem_claimedFieldKeys.mp hmem
    rw [if_pos hmem, if_pos ⟨hkey, hfield⟩, claimedOrderMark_of_pos hpos]
    exact ⟨hpos, hkey, hfield, rfl, rfl⟩
  · right
    rw [if_neg hmem]
    refine ⟨hmem, ?_, rfl⟩
    split_ifs with hclaimed
    · have hzero : fieldOrders.getD fieldKey.2 0 = 0 := Nat.eq_zero_of_not_pos fun hpos =>
        hmem (mem_claimedFieldKeys.mpr ⟨hclaimed.1, hclaimed.2, hpos⟩)
      rw [hzero, claimedOrderMark_zero]
      rfl
    · rfl

end VenusEvcharger
