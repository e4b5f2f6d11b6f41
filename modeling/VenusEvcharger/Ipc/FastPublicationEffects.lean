import VenusEvcharger.Ipc.FastPublication

/-!
# What the queue operations do to a field

A queued field is seen through its order, and through the mark of the field in the history. For
every operation of the queue a lemma here says what it leaves of both; invariants of runs are
derived from these lemmas only.
-/

namespace VenusEvcharger

open Library

namespace FastPublicationQueue

/-- The order at which a field is queued. -/
def queuedOrder (q : FastPublicationQueue) (fieldKey : PublicationFieldKey) : Option Nat :=
  (q.commands.get? fieldKey.1).bind (·.order? fieldKey.2)

/-- Whether a queued field has reached the end of its lifetime. -/
def QueuedExpired (q : FastPublicationQueue) (now : ℚ) (fieldKey : PublicationFieldKey) : Prop :=
  ∃ work, q.commands.get? fieldKey.1 = some work ∧ work.Expired now fieldKey.2

instance (q : FastPublicationQueue) (now : ℚ) (fieldKey : PublicationFieldKey) :
    Decidable (q.QueuedExpired now fieldKey) :=
  match h : q.commands.get? fieldKey.1 with
  | some work => decidable_of_iff (work.Expired now fieldKey.2) (by simp [QueuedExpired, h])
  | none => isFalse (by simp [QueuedExpired, h])

variable [PyLib]

/-- Every queued publication is well formed under its key. -/
def WellFormed (q : FastPublicationQueue) : Prop :=
  ∀ key work, q.commands.get? key = some work → work.WellFormed key

variable {q : FastPublicationQueue} {now : ℚ}

/-! ## Expiry -/

/-- What is left of a publication after pruning. -/
def prunedWork (now : ℚ) (work : FastPublicationWork) : Option FastPublicationWork :=
  match retainedFastWork work now with
  | none => none
  | some retained =>
    if retained.fieldExpiresAt.length ≠ work.fieldExpiresAt.length then some retained else some work

/-- The mark of a field of a publication after pruning: an expired matching claim is released. -/
def prunedMark (now : ℚ) (work : FastPublicationWork) (field : String)
    (current : Option PublicationOrderMark) : Option PublicationOrderMark :=
  if work.Expired now field ∧ fastMarkMatches current ((work.order? field).getD 0) = true then none
  else current

variable {work : FastPublicationWork}

omit [PyLib] in
theorem not_expired_of_length_eq {retained : FastPublicationWork}
    (hretained : retainedFastWork work now = some retained)
    (hlength : retained.fieldExpiresAt.length = work.fieldExpiresAt.length) (field : String) :
    ¬ work.Expired now field := by
  rintro ⟨expiresAt, hat, hle⟩
  simp only [retainedFastWork, Option.map_eq_some_iff] at hretained
  obtain ⟨payload, -, rfl⟩ := hretained
  have hall := List.length_filter_eq_length_iff.mp hlength (field, expiresAt)
    (Dict.mem_entries_iff.mpr hat)
  exact absurd hle (not_le.mpr (of_decide_eq_true hall))

variable {key : String}

theorem prunedWork_fields (hwf : work.WellFormed key) :
    (∀ left, prunedWork now work = some left → left.WellFormed key) ∧
      ∀ field, (prunedWork now work).bind (·.order? field) =
        if work.Expired now field then none else work.order? field := by
  rw [prunedWork]
  cases hretained : retainedFastWork work now with
  | none =>
    refine ⟨by simp, fun field => ?_⟩
    have hall := (retainedFastWork_eq_none hwf).mp hretained field
    by_cases hexpired : work.Expired now field
    · simp [hexpired]
    · have hnone : work.order? field = none :=
        Option.not_isSome_iff_eq_none.mp fun hsome => hexpired (hall hsome)
      simp [hnone]
  | some retained =>
    by_cases hlength : retained.fieldExpiresAt.length = work.fieldExpiresAt.length
    · simp only [hlength, ne_eq, not_true_eq_false, if_false]
      refine ⟨fun left hleft => Option.some.inj hleft ▸ hwf, fun field => ?_⟩
      rw [if_neg (not_expired_of_length_eq hretained hlength field), Option.bind_some]
    · simp only [ne_eq, hlength, not_false_eq_true, if_true]
      refine ⟨fun left hleft => Option.some.inj hleft ▸ wellFormed_retained hwf hretained, ?_⟩
      exact order?_retained hwf hretained

/-- The publication of a key, and the marks of its fields. -/
def keyView (q : FastPublicationQueue) (key : String) :
    Option FastPublicationWork × (String → Option PublicationOrderMark) :=
  (q.commands.get? key, fun field => q.history.marks.get? (key, field))

omit [PyLib] in
/-- The expired claims that a pruning pass gives up. -/
theorem getD_expiredOrders {retained : FastPublicationWork}
    (hretained : retainedFastWork work now = some retained) (field : String) :
    ((publicationFieldOrders work.command).filter fun field _ =>
      work.fieldExpiresAt.contains field && !retained.fieldExpiresAt.contains field).getD field 0 =
      if work.Expired now field then (work.order? field).getD 0 else 0 := by
  have hgone : (work.fieldExpiresAt.contains field && !retained.fieldExpiresAt.contains field) =
      decide (work.Expired now field) := by
    rw [Dict.contains, Dict.contains, get?_fieldExpiresAt_retained hretained]
    cases hat : work.fieldExpiresAt.get? field with
    | none => simp [FastPublicationWork.Expired, hat]
    | some expiresAt =>
      by_cases hlt : now < expiresAt
      · simp [FastPublicationWork.Expired, hat, hlt, not_le.mpr hlt]
      · simp [FastPublicationWork.Expired, hat, hlt, not_lt.mp hlt]
  rw [Dict.getD, Dict.get?_filter_key, hgone, get?_publicationFieldOrders]
  by_cases hexpired : work.Expired now field
  · simp [hexpired, FastPublicationWork.order?]
  · simp [hexpired]

/-- A pruning pass rewrites the publication and the marks of its own key. -/
theorem keyView_pruneFastWork (q : FastPublicationQueue) (hwf : work.WellFormed key)
    (other : String) :
    keyView (pruneFastWork now q (key, work)) other =
      if other = key then
        ((match retainedFastWork work now with
          | none => none
          | some retained =>
            if retained.fieldExpiresAt.length ≠ work.fieldExpiresAt.length then some retained
            else q.commands.get? other),
          fun field => prunedMark now work field (q.history.marks.get? (other, field)))
      else keyView q other := by
  have hrelease : ∀ (h : PublicationOrderHistory) (orders : Dict String Nat) field,
      (h.releaseFast key orders).marks.get? (other, field) =
        if other = key ∧ fastMarkMatches (h.marks.get? (other, field)) (orders.getD field 0) = true
        then none else h.marks.get? (other, field) := by
    intro h orders field
    rw [PublicationOrderHistory.get?_releaseFast]
    by_cases hother : other = key
    · simp [hother]
    · simp [hother]
  cases hretained : retainedFastWork work now with
  | none =>
    have hall := (retainedFastWork_eq_none hwf).mp hretained
    simp only [keyView, pruneFastWork, hretained, releaseFastWork, hwf.key_eq, hrelease,
      Dict.get?_erase, getD_publicationFieldOrders]
    by_cases hother : other = key
    · simp only [hother, true_and, if_true, Prod.mk.injEq]
      funext field
      have hexpired : fastMarkMatches (q.history.marks.get? (key, field))
          ((work.order? field).getD 0) = true → work.Expired now field := by
        intro hmatch
        refine hall field (Option.isSome_iff_ne_none.mpr fun hnone => ?_)
        simp [hnone] at hmatch
      change (if fastMarkMatches (q.history.marks.get? (key, field))
        ((work.order? field).getD 0) = true then none else q.history.marks.get? (key, field)) = _
      rw [prunedMark]
      by_cases hmatch : fastMarkMatches (q.history.marks.get? (key, field))
          ((work.order? field).getD 0) = true
      · rw [if_pos hmatch, if_pos ⟨hexpired hmatch, hmatch⟩]
      · rw [if_neg hmatch, if_neg fun h => hmatch h.2]
    · simp [hother]
  | some retained =>
    by_cases hlength : retained.fieldExpiresAt.length = work.fieldExpiresAt.length
    · simp only [keyView, pruneFastWork, hretained, hlength, ne_eq, not_true_eq_false, if_false,
        prunedMark, not_expired_of_length_eq hretained hlength, false_and, ite_self]
    · simp only [keyView, pruneFastWork, hretained, ne_eq, hlength, not_false_eq_true, if_true,
        hrelease, Dict.get?_set, getD_expiredOrders hretained]
      by_cases hother : other = key
      · simp only [hother, true_and, if_true, Prod.mk.injEq]
        funext field
        rw [prunedMark]
        by_cases hexpired : work.Expired now field
        · simp [hexpired]
        · simp [hexpired]
      · simp [hother]

theorem keyView_pruneExpired (hwf : q.WellFormed) (now : ℚ) (key : String) :
    keyView (q.pruneExpired now) key =
      match q.commands.get? key with
      | some work => (prunedWork now work,
          fun field => prunedMark now work field (q.history.marks.get? (key, field)))
      | none => keyView q key := by
  have hloop := Dict.view_foldl_entries keyView id
    (fun _ work current =>
      ((match retainedFastWork work now with
        | none => none
        | some retained =>
          if retained.fieldExpiresAt.length ≠ work.fieldExpiresAt.length then some retained
          else current.1),
        fun field => prunedMark now work field (current.2 field)))
    q.commands
    (fun s entry hentry other =>
      keyView_pruneFastWork s (hwf entry.1 entry.2 (Dict.mem_entries_iff.mp hentry)) other)
    Function.injective_id q key
  refine hloop.trans ?_
  cases hwork : q.commands.get? key with
  | none => rfl
  | some work => simp only [id, keyView, hwork, prunedWork]

/-- Pruning drops the expired fields. -/
theorem queuedOrder_pruneExpired (hwf : q.WellFormed) (fieldKey : PublicationFieldKey) :
    (q.pruneExpired now).queuedOrder fieldKey =
      if q.QueuedExpired now fieldKey then none else q.queuedOrder fieldKey := by
  have hview := congrArg Prod.fst (keyView_pruneExpired hwf now fieldKey.1)
  rw [queuedOrder, show (q.pruneExpired now).commands.get? fieldKey.1 = _ from hview, queuedOrder]
  cases hwork : q.commands.get? fieldKey.1 with
  | none => simp [QueuedExpired, keyView, hwork]
  | some work =>
    simp only [QueuedExpired, hwork, Option.some.injEq, exists_eq_left', Option.bind_some]
    exact (prunedWork_fields (hwf fieldKey.1 work hwork)).2 fieldKey.2

/-- Pruning releases the volatile marks of the expired fields. -/
theorem marks_pruneExpired (hwf : q.WellFormed) (fieldKey : PublicationFieldKey) :
    (q.pruneExpired now).history.marks.get? fieldKey =
      if q.QueuedExpired now fieldKey ∧
        fastMarkMatches (q.history.marks.get? fieldKey) ((q.queuedOrder fieldKey).getD 0) = true
      then none else q.history.marks.get? fieldKey := by
  obtain ⟨key, field⟩ := fieldKey
  have hview := congrFun (congrArg Prod.snd (keyView_pruneExpired hwf now key)) field
  rw [show (q.pruneExpired now).history.marks.get? (key, field) = _ from hview]
  cases hwork : q.commands.get? key with
  | none => simp [QueuedExpired, keyView, hwork]
  | some work => simp [QueuedExpired, queuedOrder, prunedMark, hwork]

theorem wellFormed_pruneExpired (hwf : q.WellFormed) (now : ℚ) :
    (q.pruneExpired now).WellFormed := by
  intro key left hleft
  have hview := congrArg Prod.fst (keyView_pruneExpired hwf now key)
  rw [show (q.pruneExpired now).commands.get? key = _ from hview] at hleft
  cases hwork : q.commands.get? key with
  | none => simp [keyView, hwork] at hleft
  | some work =>
    rw [hwork] at hleft
    exact (prunedWork_fields (hwf key work hwork)).1 left hleft

@[simp] theorem pruneExpired_retentionSeconds (q : FastPublicationQueue) (now : ℚ) :
    (q.pruneExpired now).history.retentionSeconds = q.history.retentionSeconds := by
  have hpass : ∀ (s : FastPublicationQueue) entry,
      (pruneFastWork now s entry).history.retentionSeconds = s.history.retentionSeconds := by
    intro s entry
    rw [pruneFastWork]
    split
    · rfl
    · split_ifs <;> rfl
  rw [pruneExpired]
  generalize q.commands.entries = entries
  induction entries generalizing q with
  | nil => rfl
  | cons entry entries ih => rw [List.foldl_cons, ih, hpass]

/-! ## Queueing -/

theorem get?_stampPayload_of_ne (payload : CommandPayload) (key : String) (epoch : ℚ) {name : String}
    (hid : name ≠ "id") (hcreated : name ≠ "created_at") (hclass : name ≠ "queue_class") :
    (stampPayload payload key epoch).get? name = payload.get? name := by
  simp only [stampPayload, Dict.get?_set, hid, hcreated, hclass, if_false]

theorem publishedOrder_stampPayload (payload : CommandPayload) (key : String) (epoch : ℚ)
    (field : String) :
    publishedOrder (stampPayload payload key epoch) field = publishedOrder payload field := by
  rw [publishedOrder, publishedOrder, publishedField_congr
    (get?_stampPayload_of_ne payload key epoch (by decide) (by decide) (by decide))
    (get?_stampPayload_of_ne payload key epoch (by decide) (by decide) (by decide))
    (get?_stampPayload_of_ne payload key epoch (by decide) (by decide) (by decide))]

theorem commandKey_stampPayload (payload : CommandPayload) (key : String) (epoch : ℚ) :
    commandKey (stampPayload payload key epoch) = commandKey payload := by
  rw [commandKey, commandText,
    get?_stampPayload_of_ne payload key epoch (by decide) (by decide) (by decide), commandKey,
    commandText]

/-- The claim that `enqueue` makes for a command. -/
def enqueueClaim (q : FastPublicationQueue) (command : CommandPayload) (clock : EnqueueClock) :
    PublicationFieldClaim × PublicationOrderHistory :=
  q.history.claimFast (commandKey command) (publicationFieldOrders command) q.activeFields
    clock.claimNow clock.claimStamp

/-- `enqueue` refuses a command, keeps its claim only, or accepts the claimed fields. -/
theorem enqueue_cases (q : FastPublicationQueue) (command : CommandPayload) (clock : EnqueueClock) :
    (q.enqueue command clock).2 = q ∨
    ((q.enqueueClaim command clock).1.state ≠ .accepted ∧
      (q.enqueue command clock).2 = { q with history := (q.enqueueClaim command clock).2 }) ∨
    (commandKey command ≠ "" ∧ (q.enqueueClaim command clock).1.state = .accepted ∧
      ∃ ttl, 0 < ttl ∧ (q.enqueue command clock).2 =
        (acceptClaim { q with history := (q.enqueueClaim command clock).2 } command
          (commandKey command) (q.enqueueClaim command clock).1 ttl clock).2) := by
  rw [enqueue]
  simp only
  split_ifs with hrejection hlimit hfull httl
  · exact .inl rfl
  · exact .inl rfl
  · exact .inl rfl
  · exact .inl rfl
  · have hkey : commandKey command ≠ "" := by
      intro hempty
      refine hrejection ?_
      by_cases htransient : isTransientPublication command = true
      · simp [rejectionReason, htransient, hempty]
      · simp [rejectionReason, htransient]
    right
    cases hstate : (q.enqueueClaim command clock).1.state with
    | superseded =>
      refine .inl ⟨by simp, ?_⟩
      rw [enqueueClaim] at hstate
      rw [hstate]
      rfl
    | full =>
      refine .inl ⟨by simp, ?_⟩
      rw [enqueueClaim] at hstate
      rw [hstate]
      rfl
    | accepted =>
      refine .inr ⟨hkey, rfl, _, not_le.mp httl, ?_⟩
      rw [enqueueClaim] at hstate
      rw [hstate]
      rfl

omit [PyLib] in
theorem queuedOrder_set (commands : Dict String FastPublicationWork) (key : String)
    (work : FastPublicationWork) (fieldKey : PublicationFieldKey) :
    (((commands.set key work).moveToEnd key).get? fieldKey.1).bind (·.order? fieldKey.2) =
      if fieldKey.1 = key then work.order? fieldKey.2
      else (commands.get? fieldKey.1).bind (·.order? fieldKey.2) := by
  rw [Dict.get?_moveToEnd, Dict.get?_set]
  split_ifs <;> rfl

theorem wellFormed_set {commands : Dict String FastPublicationWork}
    (hcommands : ∀ other queued, commands.get? other = some queued → queued.WellFormed other)
    (hwork : work.WellFormed key) {other : String} {queued : FastPublicationWork}
    (hqueued : ((commands.set key work).moveToEnd key).get? other = some queued) :
    queued.WellFormed other := by
  rw [Dict.get?_moveToEnd, Dict.get?_set] at hqueued
  split_ifs at hqueued with hother
  · obtain rfl := Option.some.inj hqueued
    exact hother ▸ hwork
  · exact hcommands other queued hqueued

variable {command : CommandPayload}

theorem order?_mergedWork {existing : Option FastPublicationWork}
    {acceptedFields : List String} {ttl now epoch : ℚ} {field : String} {order : Nat}
    (hmerge : Option.merge max (existing.bind (·.order? field))
      (if field ∈ acceptedFields then publishedOrder command field else none) = some order)
    (hpos : 0 < order) :
    (mergedWork existing command key acceptedFields ttl now epoch).order? field = some order := by
  rw [FastPublicationWork.order?, mergedWork, publishedOrder_stampPayload]
  refine publishedOrder_merge_of_pos ?_ hpos
  rw [← hmerge]
  congr 1
  · cases existing with
    | none => rfl
    | some work => rfl
  · simp

theorem isSome_order?_mergedWork (existing : Option FastPublicationWork) (command : CommandPayload)
    (key : String) (acceptedFields : List String) (ttl now epoch : ℚ) (field : String) :
    ((mergedWork existing command key acceptedFields ttl now epoch).order? field).isSome =
      ((existing.bind (·.order? field)).isSome ||
        (decide (field ∈ acceptedFields) && (publishedOrder command field).isSome)) := by
  rw [FastPublicationWork.order?, mergedWork, publishedOrder_stampPayload, publishedOrder_merge,
    Option.isSome_map]
  simp only [Option.mem_def, Option.some.injEq, forall_eq', Option.isSome_merge]
  congr 1
  · cases existing <;> rfl
  · split_ifs with hmem
    · simp [hmem]
    · simp [hmem]

omit [PyLib] in
theorem isSome_foldl_expiry (fields : List String) (expiry : Dict String ℚ) (expiresAt : ℚ)
    (field : String) :
    ((fields.foldl (fun expiry field => expiry.set field expiresAt) expiry).get? field).isSome =
      (decide (field ∈ fields) || (expiry.get? field).isSome) := by
  induction fields generalizing expiry with
  | nil => simp
  | cons first fields ih =>
    rw [List.foldl_cons, ih, Dict.get?_set]
    by_cases hfirst : field = first
    · simp [hfirst]
    · simp [hfirst]

theorem wellFormed_mergedWork {existing : Option FastPublicationWork} {acceptedFields : List String}
    (hkey : commandKey command ≠ "")
    (hexisting : ∀ work, existing = some work → work.WellFormed (commandKey command))
    (haccepted : ∀ field ∈ acceptedFields, (publishedOrder command field).isSome)
    (ttl now epoch : ℚ) :
    (mergedWork existing command (commandKey command) acceptedFields ttl now epoch).WellFormed
      (commandKey command) where
  key_eq := (commandKey_stampPayload _ _ _).trans (commandKey_merge _ _ hkey)
  key_ne := hkey
  expiry_iff := by
    intro field
    rw [isSome_order?_mergedWork, mergedWork, isSome_foldl_expiry]
    have hold : (((existing.map (·.fieldExpiresAt)).getD Dict.empty).get? field).isSome =
        (existing.bind (·.order? field)).isSome := by
      cases hwork : existing with
      | none => rfl
      | some work => exact (hexisting work hwork).expiry_iff field
    rw [hold]
    by_cases hmem : field ∈ acceptedFields
    · simp [hmem, haccepted field hmem]
    · simp [hmem]

theorem isSome_of_mem_acceptedFields {q : FastPublicationQueue} {clock : EnqueueClock}
    {field : String} (hmem : field ∈ (q.enqueueClaim command clock).1.acceptedFields) :
    (publishedOrder command field).isSome := by
  rw [enqueueClaim, PublicationOrderHistory.claimFast] at hmem
  split_ifs at hmem
  · obtain ⟨order, horder, -⟩ := mem_acceptedFields_fieldClaim.mp hmem
    rw [get?_publicationFieldOrders] at horder
    simp [horder]
  · simp at hmem

/-! ## Handing out and taking back -/

/-- `pop_next` prunes, and hands out one publication of the rest or nothing. -/
theorem popNext_cases (q : FastPublicationQueue) (now : ℚ) :
    q.popNext now = (none, q.pruneExpired now) ∨
    ∃ key work, (q.pruneExpired now).commands.get? key = some work ∧
      q.popNext now = (some work, { q.pruneExpired now with
        commands := (q.pruneExpired now).commands.erase key }) := by
  rw [popNext]
  cases hbest : ((q.pruneExpired now).commands.entries.filter fun entry =>
      decide (entry.2.retryAt ≤ now)).argmin fun entry => fastWorkPriority entry.2 now with
  | none => exact .inl rfl
  | some entry =>
    have hmem : entry ∈ (q.pruneExpired now).commands.entries :=
      (List.mem_filter.mp (List.argmin_mem hbest)).1
    exact .inr ⟨entry.1, entry.2, Dict.mem_entries_iff.mp hmem, rfl⟩

/-- `prepare_durable` changes the queue by pruning only. -/
theorem prepareDurable_snd (q : FastPublicationQueue) (command : CommandPayload)
    (pruneNow claimNow : ℚ) :
    (q.prepareDurable command pruneNow claimNow).2 = q.pruneExpired pruneNow := by
  rw [prepareDurable]
  split
  · rfl
  · split_ifs <;> rfl

/-- What `prepare_durable` hands out are the accepted fields of its command. -/
theorem prepareDurable_fst {q : FastPublicationQueue} {payload : CommandPayload}
    {pruneNow claimNow : ℚ}
    (h : (q.prepareDurable command pruneNow claimNow).1 = .ok (some payload)) :
    filterPublicationPayload command ((q.pruneExpired pruneNow).history.claimDurable
      (commandKey command) (publicationFieldOrders command) (q.pruneExpired pruneNow).activeFields
      claimNow).acceptedFields = some payload := by
  rw [FastPublicationQueue.prepareDurable] at h
  simp only [FastPublicationQueue.durableClaim] at h
  split_ifs at h with hwaits hfull
  by_cases hempty : ((q.pruneExpired pruneNow).history.claimDurable (commandKey command)
      (publicationFieldOrders command) (q.pruneExpired pruneNow).activeFields
      claimNow).acceptedFields = []
  · simp [hempty] at h
  · simpa [hempty] using h

/-- `_remove_fast_fields` leaves the queue, drops the publication of the key, or keeps the fields
of it that are not among the given ones. -/
theorem removeFastFields_cases (hwf : q.WellFormed) (key : String) (fields : List String) :
    (q.removeFastFields key fields = q ∧
      ∀ field ∈ fields, (q.commands.get? key).bind (·.order? field) = none) ∨
    (q.removeFastFields key fields = { q with commands := q.commands.erase key } ∧
      ∀ field, ((q.commands.get? key).bind (·.order? field)).isSome → field ∈ fields) ∨
    ∃ work rest, q.commands.get? key = some work ∧ rest.WellFormed key ∧
      q.removeFastFields key fields = { q with commands := q.commands.set key rest } ∧
      ∀ field, rest.order? field = if field ∈ fields then none else work.order? field := by
  rw [removeFastFields]
  -- Nothing is selected, all of the work goes, or the rest of it stays.
  cases hwork : q.commands.get? key with
  | none => exact .inl ⟨rfl, by simp⟩
  | some work =>
    cases hselection : fastFieldSelection work fields with
    | none =>
      exact .inl ⟨by simp only [hselection], fun field hmem => order?_of_selection_none hselection hmem⟩
    | some selection =>
      obtain ⟨removed, remaining⟩ := selection
      have hremaining : ∀ field, field ∈ remaining ↔ (work.order? field).isSome ∧ field ∉ fields :=
        fun field => mem_remaining hselection
      right
      cases hfilter : filterPublicationPayload work.command remaining with
      | none =>
        refine .inl ⟨by simp only [hselection, hfilter], fun field hsome => ?_⟩
        by_contra hmem
        have hnone := filterPublicationPayload_eq_none.mp hfilter field
          ((hremaining field).mpr ⟨hsome, hmem⟩)
        simp [FastPublicationWork.order?, publishedOrder, hnone] at hsome
      | some payload =>
        have horder : ∀ field, publishedOrder payload field =
            if field ∈ fields then none else work.order? field := by
          intro field
          rw [publishedOrder_filter hfilter]
          by_cases hmem : field ∈ remaining
          · rw [if_pos hmem, if_neg ((hremaining field).mp hmem).2, FastPublicationWork.order?]
          · rw [if_neg hmem]
            split_ifs with hfield
            · rfl
            · by_contra hsome
              exact hmem ((hremaining field).mpr
                ⟨Option.isSome_iff_ne_none.mpr fun hnone => hsome hnone.symm, hfield⟩)
        let rest : FastPublicationWork := { work with
          command := payload
          fieldExpiresAt := work.fieldExpiresAt.filter fun field _ =>
            decide (field ∈ remaining) }
        refine .inr ⟨work, rest, rfl, ⟨?_, (hwf key work hwork).key_ne, fun field => ?_⟩,
          by simp only [hselection, hfilter, rest], horder⟩
        · exact (commandKey_filter hfilter).trans (hwf key work hwork).key_eq
        · rw [FastPublicationWork.order?, horder, Dict.get?_filter_key]
          by_cases hmem : field ∈ remaining
          · simpa [hmem, ((hremaining field).mp hmem).2] using
              (hwf key work hwork).expiry_iff field
          · have hgone : (if field ∈ fields then none else work.order? field) = none := by
              split_ifs with hfield
              · rfl
              · refine Option.not_isSome_iff_eq_none.mp fun hsome => ?_
                exact hmem ((hremaining field).mpr ⟨hsome, hfield⟩)
            simp [hmem, hgone]

/-- `_remove_fast_fields` removes the given fields of the key. -/
theorem queuedOrder_removeFastFields (hwf : q.WellFormed) (key : String) (fields : List String)
    (fieldKey : PublicationFieldKey) :
    (q.removeFastFields key fields).queuedOrder fieldKey =
      if fieldKey.1 = key ∧ fieldKey.2 ∈ fields then none else q.queuedOrder fieldKey := by
  obtain ⟨other, field⟩ := fieldKey
  rcases removeFastFields_cases hwf key fields with
    ⟨hkept, hnone⟩ | ⟨herased, hall⟩ | ⟨work, rest, hwork, -, hset, horder⟩
  · rw [hkept]
    split_ifs with hremoved
    · obtain ⟨rfl, hmem⟩ := hremoved
      exact hnone field hmem
    · rfl
  · rw [herased, queuedOrder, Dict.get?_erase]
    by_cases hother : other = key
    · subst hother
      rw [if_pos rfl]
      split_ifs with hremoved
      · rfl
      · refine (Option.not_isSome_iff_eq_none.mp fun hsome => hremoved ⟨rfl, hall field hsome⟩).symm
    · simp [hother, queuedOrder]
  · rw [hset, queuedOrder, Dict.get?_set]
    by_cases hother : other = key
    · subst hother
      simp [horder, queuedOrder, hwork]
    · simp [hother, queuedOrder]

theorem wellFormed_removeFastFields (hwf : q.WellFormed) (key : String) (fields : List String) :
    (q.removeFastFields key fields).WellFormed := by
  intro other queued hqueued
  rcases removeFastFields_cases hwf key fields with
    ⟨hkept, -⟩ | ⟨herased, -⟩ | ⟨work, rest, -, hrest, hset, -⟩
  · exact hwf other queued (hkept ▸ hqueued)
  · rw [herased, Dict.get?_erase] at hqueued
    split_ifs at hqueued
    exact hwf other queued hqueued
  · rw [hset, Dict.get?_set] at hqueued
    split_ifs at hqueued with hother
    · obtain rfl := Option.some.inj hqueued
      exact hother ▸ hrest
    · exact hwf other queued hqueued

omit [PyLib] in
@[simp] theorem history_removeFastFields (q : FastPublicationQueue) (key : String)
    (fields : List String) : (q.removeFastFields key fields).history = q.history := by
  rw [removeFastFields]
  split
  · rfl
  · split
    · rfl
    · split <;> rfl

/-- The history after an applied durable publication was reported. -/
def confirmedHistory (q : FastPublicationQueue) (command : CommandPayload) (now stamp : ℚ) :
    PublicationOrderHistory :=
  (q.history.confirmDurableApplied (commandKey command) (publicationFieldOrders command)
    q.activeFields now stamp).2

theorem recordDurableOutcome_applied (q : FastPublicationQueue) (command : CommandPayload)
    (now stamp : ℚ) :
    q.recordDurableOutcome command "applied" now stamp =
      removeFastFields { q with history := q.confirmedHistory command now stamp }
        (commandKey command) (publicationFieldOrders command).keys := by
  rw [recordDurableOutcome, if_neg (by simp)]
  rfl

/-- Reporting a durable publication as applied removes its fields from the queue by name. -/
theorem queuedOrder_recordDurableOutcome (hwf : q.WellFormed) (command : CommandPayload)
    (state : String) (now stamp : ℚ) (fieldKey : PublicationFieldKey) :
    (q.recordDurableOutcome command state now stamp).queuedOrder fieldKey =
      if state = "applied" ∧ fieldKey.1 = commandKey command ∧
        (publishedOrder command fieldKey.2).isSome = true then none
      else q.queuedOrder fieldKey := by
  by_cases hstate : state = "applied"
  · subst hstate
    have hconfirmed : WellFormed { q with history := q.confirmedHistory command now stamp } := hwf
    rw [recordDurableOutcome_applied, queuedOrder_removeFastFields hconfirmed]
    by_cases hremoved : fieldKey.1 = commandKey command ∧
        (publishedOrder command fieldKey.2).isSome = true
    · rw [if_pos ⟨hremoved.1, mem_keys_publicationFieldOrders.mpr hremoved.2⟩, if_pos ⟨rfl, hremoved⟩]
    · rw [if_neg fun h => hremoved ⟨h.1, mem_keys_publicationFieldOrders.mp h.2⟩,
        if_neg fun h => hremoved h.2]
      rfl
  · rw [recordDurableOutcome, if_pos hstate, if_neg fun h => hstate h.1]

theorem wellFormed_recordDurableOutcome (hwf : q.WellFormed) (command : CommandPayload)
    (state : String) (now stamp : ℚ) :
    (q.recordDurableOutcome command state now stamp).WellFormed := by
  by_cases hstate : state = "applied"
  · subst hstate
    have hconfirmed : WellFormed { q with history := q.confirmedHistory command now stamp } := hwf
    rw [recordDurableOutcome_applied]
    exact wellFormed_removeFastFields hconfirmed _ _
  · rw [recordDurableOutcome, if_pos hstate]
    exact hwf

/-- Reporting a transient publication leaves the queued publications alone. -/
theorem commands_recordOutcome (q : FastPublicationQueue) (work : FastPublicationWork)
    (state : String) (now : ℚ) : (q.recordOutcome work state now).commands = q.commands := by
  rw [recordOutcome]
  split_ifs <;> rfl

/-- `requeue` gives up an expired lease, or merges what is left of it into its key. -/
theorem requeue_cases (hwf : q.WellFormed) (hwork : work.WellFormed key)
    (deferred : Bool) (now : ℚ) :
    (q.requeue work deferred now = q.releaseFastWork work ∧
      ∀ field, (work.order? field).isSome → work.Expired now field) ∨
    ∃ retained merged : FastPublicationWork, (∀ field, retained.order? field =
        if work.Expired now field then none else work.order? field) ∧
      merged.WellFormed key ∧
      q.requeue work deferred now =
        { q with commands := (q.commands.set key merged).moveToEnd key } ∧
      (∀ field, (merged.order? field).isSome =
        ((retained.order? field).isSome || (q.queuedOrder (key, field)).isSome)) ∧
      ∀ field order, Option.merge max (retained.order? field) (q.queuedOrder (key, field)) =
        some order → 0 < order → merged.order? field = some order := by
  rw [requeue]
  rcases fastRequeueCandidate_cases hwork now with
    ⟨hnone, hall⟩ | ⟨retained, hsome, hretained, horder⟩
  · rw [hnone]
    exact .inl ⟨rfl, hall⟩
  · rw [hsome]
    refine .inr ⟨retained, _, horder, ?_, rfl, ?_, ?_⟩
    · cases hqueued : q.commands.get? key with
      | none => exact ⟨hretained.key_eq, hretained.key_ne, hretained.expiry_iff⟩
      | some queued => exact wellFormed_mergeFastWork hretained (hwf key queued hqueued) _ _
    · intro field
      rw [queuedOrder]
      cases hqueued : q.commands.get? key with
      | none => simp [mergeFastWork, FastPublicationWork.order?]
      | some queued =>
        simp [mergeFastWork, FastPublicationWork.order?, publishedOrder_merge]
    · intro field order hmerge hpos
      rw [queuedOrder] at hmerge
      cases hqueued : q.commands.get? key with
      | none =>
        rw [hqueued, Option.bind_none, Option.merge_none_right] at hmerge
        exact hmerge
      | some queued =>
        rw [hqueued] at hmerge
        exact order?_mergeFastWork hmerge hpos

end FastPublicationQueue

end VenusEvcharger
