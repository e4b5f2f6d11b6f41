import VenusEvcharger.Ipc.QueuePolicies
import Mathlib.Tactic.Linarith

/-!
# Deadlines of re-issued gateway commands

The creation time of a command is also the start of its deadline. A call that coalesces with a file
of its own priority takes over that file's creation time, so its deadline is measured from the
earlier request, and a call that merges into a stronger publication gets the deadline of that one, and so does one that a
more urgent command keeps out.
-/

namespace VenusEvcharger

open Library

section

variable [PyLib]

/-- The command that a call finds under its coalesce key. -/
def coalescedExisting (files : MailboxFiles) (call : EnqueueCall) : Option CommandPayload :=
  if commandKey call.command = "" then none
  else readCommand files (enqueuePath gatewayCommandQueuePolicy call)

/-- The call's own payload is written, as the deadline checks see it. -/
structure RequestedAt (call : EnqueueCall) (d : ℚ) : Prop where
  no_created : call.command.get? "created_at" = none
  clock_pos : 0 < call.createdNow
  deadline : commandFloat (call.command.get? "deadline_s") = .fin d
  deadline_pos : 0 < d

/-- The stored command is not expired before `d` seconds have passed since the call. -/
def KeepsDeadline (files : MailboxFiles) (call : EnqueueCall) (d : ℚ) : Prop :=
  ∀ stored, (enqueueCommand gatewayCommandQueuePolicy files call).2.get?
      (enqueuePath gatewayCommandQueuePolicy call) = some (.command stored) →
    ∀ now, call.createdNow ≤ now → now < call.createdNow + d →
      commandDeadlineExpired stored now = false

/-- A transient publication asks for no more than the gateway admits. -/
def AdmitsDeadline (command : CommandPayload) (d : ℚ) : Prop :=
  isTransientPublishCommand command = true → d ≤ transientPublicationDeadlineSeconds

/-- Nothing that was stored before moves the deadline: a replaced command of equal priority has no
creation time or that of the call, and a command that keeps its metadata, or keeps the call out, expires late enough. -/
def StoredDeadlineFits (files : MailboxFiles) (call : EnqueueCall) (d : ℚ) : Prop :=
  match coalescedExisting files call with
  | none => AdmitsDeadline call.command d
  | some existing =>
    if shouldReplaceCommand existing (enqueuePayload gatewayCommandQueuePolicy call) then
      AdmitsDeadline call.command d ∧
        (sameCommandPriority existing (enqueuePayload gatewayCommandQueuePolicy call) = true →
          commandFloat (existing.get? "created_at") = .fin 0 ∨
            commandFloat (existing.get? "created_at") = .fin call.createdNow)
    else ∀ now, call.createdNow ≤ now → now < call.createdNow + d →
      commandDeadlineExpired existing now = false

/-! ## The deadline check -/

variable {command : CommandPayload}

/-- The check reads the deadline and the creation time. -/
theorem commandDeadlineExpired_congr {other : CommandPayload}
    (hdeadline : command.get? "deadline_s" = other.get? "deadline_s")
    (hcreated : commandFloat (command.get? "created_at") = commandFloat (other.get? "created_at"))
    (now : ℚ) : commandDeadlineExpired command now = commandDeadlineExpired other now := by
  rw [commandDeadlineExpired, commandDeadlineExpired, Dict.contains, Dict.contains, hdeadline, hcreated]

theorem contains_deadline {deadline : ℚ} (hpos : 0 < deadline)
    (hdeadline : commandFloat (command.get? "deadline_s") = .fin deadline) :
    command.contains "deadline_s" = true := by
  rw [Dict.contains]
  cases hvalue : command.get? "deadline_s" with
  | none =>
    rw [hvalue] at hdeadline
    exact absurd (PyFloat.fin.inj hdeadline) hpos.ne
  | some value => rfl

/-- A positive deadline without a finite creation time has passed. -/
theorem commandDeadlineExpired_of_unanchored {deadline now : ℚ}
    (hpos : 0 < deadline) (hdeadline : commandFloat (command.get? "deadline_s") = .fin deadline)
    (hcreated : (commandFloat (command.get? "created_at")).isFinite = false) :
    commandDeadlineExpired command now = true := by
  rw [commandDeadlineExpired, contains_deadline hpos hdeadline, hdeadline]
  simp only [Bool.not_true, Bool.false_eq_true, if_false, if_neg (not_le.mpr hpos)]
  cases hvalue : commandFloat (command.get? "created_at") with
  | fin created => simp [hvalue, PyFloat.isFinite] at hcreated
  | nan | negInf | posInf => rfl

/-- Over the whole interval after a call a positive deadline has not passed exactly when it is
anchored in time and long enough. -/
theorem not_expired_interval_iff {t d deadline created : ℚ}
    (hdeadline : commandFloat (command.get? "deadline_s") = .fin deadline) (hpos : 0 < deadline)
    (hcreated : commandFloat (command.get? "created_at") = .fin created) (hd : 0 < d) :
    (∀ now, t ≤ now → now < t + d → commandDeadlineExpired command now = false) ↔
      0 < created ∧ created ≤ t + commandDeadlineFutureSkewSeconds ∧ t + d ≤ created + deadline := by
  have hcheck : ∀ now, commandDeadlineExpired command now = false ↔
      (0 < created ∧ created ≤ now + commandDeadlineFutureSkewSeconds) ∧ now ≤ created + deadline := by
    intro now
    rw [commandDeadlineExpired, contains_deadline hpos hdeadline, hdeadline, hcreated]
    simp only [Bool.not_true, Bool.false_eq_true, if_false, if_neg (not_le.mpr hpos),
      validDeadlineAnchor]
    by_cases hanchor : 0 < created ∧ created ≤ now + commandDeadlineFutureSkewSeconds
    · simp [hanchor]
    · simp [hanchor]
  simp only [hcheck]
  constructor
  · intro h
    obtain ⟨⟨hcreatedPos, hskew⟩, -⟩ := h t le_rfl (by linarith)
    refine ⟨hcreatedPos, hskew, ?_⟩
    by_contra hshort
    -- an instant between the end of the deadline and the end of the interval
    have hmiddle := h (max t ((created + deadline + (t + d)) / 2)) (le_max_left _ _)
      (max_lt (by linarith) (by linarith))
    have hlate := (le_max_right t ((created + deadline + (t + d)) / 2)).trans hmiddle.2
    linarith
  · rintro ⟨hcreatedPos, hskew, hlong⟩ now hle hlt
    exact ⟨⟨hcreatedPos, by linarith⟩, by linarith⟩

/-! ## What is stored -/

/-- A merged publication takes everything but its fields and its revision from the winner. -/
theorem get?_mergedPublishCommand (existing candidate : CommandPayload)
    (acceptedFields : Option (List String)) {key : String} (hfields : key ≠ "fields")
    (horders : key ≠ "transport_field_orders") (hrevision : key ≠ mailboxRevisionField) :
    (mergedPublishCommand existing candidate acceptedFields).get? key =
      (if shouldReplaceCommand existing candidate then candidate else existing).get? key := by
  rw [mergedPublishCommand, get?_setCandidateRevision_of_ne _ _ hrevision,
    get?_setMergedFieldOrders_of_ne _ _ horders, Dict.get?_set_ne _ _ hfields]

theorem created_markCoalescedPayload {existing payload marked : CommandPayload} {now : ℚ}
    (h : markCoalescedPayload (some existing) payload now = .ok marked) :
    commandFloat (marked.get? "created_at") =
      if sameCommandPriority existing payload = true ∧
        (commandFloat (existing.get? "created_at")).truthy = true
      then commandFloat (existing.get? "created_at") else commandFloat (payload.get? "created_at") := by
  simp only [markCoalescedPayload] at h
  by_cases hsame : sameCommandPriority existing payload = true
  · simp only [hsame, Bool.not_true, Bool.false_eq_true, if_false] at h
    by_cases htruthy : (commandFloat (existing.get? "created_at")).truthy = true
    · rw [if_pos htruthy] at h
      obtain rfl := Except.ok.inj h
      rw [if_pos ⟨hsame, htruthy⟩, Dict.get?_set_ne _ _ (by decide), Dict.get?_set_self]
      rfl
    · rw [if_neg htruthy] at h
      rw [if_neg fun hboth => htruthy hboth.2]
      cases hvalue : payload.get? "created_at" with
      | none => simp [hvalue] at h
      | some value =>
        rw [hvalue] at h
        obtain rfl := Except.ok.inj h
        rw [Dict.get?_set_ne _ _ (by decide), Dict.get?_set_self]
  · simp only [hsame, Bool.not_false, if_true] at h
    obtain rfl := Except.ok.inj h
    rw [if_neg fun hboth => hsame hboth.1, Dict.get?_set_ne _ _ (by decide)]

/-- The command whose metadata a coalesced file ends with. -/
def coalescedWinner (existing candidate : CommandPayload) : CommandPayload :=
  if shouldReplaceCommand existing candidate then candidate else existing

variable {call : EnqueueCall}

/-- A call without a creation time stores its own clock reading. -/
theorem created_of_requestedAt {d : ℚ} (hrequest : RequestedAt call d) :
    commandFloat ((enqueuePayload gatewayCommandQueuePolicy call).get? "created_at") =
      .fin call.createdNow := by
  rw [enqueuePayload, newPayload, Dict.get?_set_ne _ _ (by decide), Dict.get?_set_ne _ _ (by decide),
    Dict.get?_set_self, gatewayCommandQueuePolicy.get?_normalize _ _ (by decide), hrequest.no_created]
  rfl

/-- The admitted deadline is at most the requested one, and equal to it unless the gateway bounds it. -/
theorem deadline_of_requestedAt {d : ℚ} (hrequest : RequestedAt call d) :
    ∃ admitted, commandFloat ((enqueuePayload gatewayCommandQueuePolicy call).get? "deadline_s") =
        .fin admitted ∧ 0 < admitted ∧ admitted ≤ d ∧ (d ≤ admitted ↔ AdmitsDeadline call.command d) := by
  rw [get?_enqueuePayload _ _ (by decide)]
  change ∃ admitted, commandFloat ((normalizeGatewayCommand call.command).get? "deadline_s") = _ ∧ _
  rw [normalizeGatewayCommand]
  split_ifs with htransient
  · rw [Dict.get?_set_self]
    have hbounds := normalizedTransientDeadline_bounds (call.command.get? "deadline_s")
    have hmin : normalizedTransientDeadline (call.command.get? "deadline_s") =
        min d transientPublicationDeadlineSeconds := by
      rw [normalizedTransientDeadline, hrequest.deadline]
      exact if_neg (not_le.mpr hrequest.deadline_pos)
    refine ⟨_, rfl, hbounds.1, hmin ▸ min_le_left _ _, ?_⟩
    rw [hmin, le_min_iff, AdmitsDeadline]
    simp [htransient]
  · exact ⟨d, hrequest.deadline, hrequest.deadline_pos, le_rfl,
      iff_of_true le_rfl fun h => absurd h htransient⟩

theorem keepsDeadline_keptOut {files : MailboxFiles} {d : ℚ}
    (hkept : coalescedPayload gatewayCommandQueuePolicy files (enqueuePath gatewayCommandQueuePolicy call)
      (gatewayCommandQueuePolicy.normalize call.command) (enqueuePayload gatewayCommandQueuePolicy call)
      call.updatedNow = .ok none) :
    KeepsDeadline files call d ↔ StoredDeadlineFits files call d := by
  obtain ⟨hkeyed, held, hread, -, hkeep⟩ := coalescedPayload_eq_none hkept
  have hkey : commandKey (gatewayCommandQueuePolicy.normalize call.command) = commandKey call.command :=
    commandKey_normalize _
  have hexisting : coalescedExisting files call = some held := by
    rw [coalescedExisting, if_neg (hkey ▸ hkeyed), hread]
  rw [StoredDeadlineFits, hexisting, KeepsDeadline, enqueueCommand, hkept]
  dsimp only
  rw [if_neg (Bool.eq_false_iff.mp hkeep), readCommand_eq_some.mp hread]
  constructor
  · intro h now hle hlt
    exact h held rfl now hle hlt
  · rintro h stored hstored now hle hlt
    obtain rfl := MailboxFile.command.inj (Option.some.inj hstored)
    exact h now hle hlt

section

variable {files : MailboxFiles} {written : CommandPayload}
  (hwritten : coalescedPayload gatewayCommandQueuePolicy files (enqueuePath gatewayCommandQueuePolicy call)
    (gatewayCommandQueuePolicy.normalize call.command) (enqueuePayload gatewayCommandQueuePolicy call)
    call.updatedNow = .ok (some written))
include hwritten

/-- What the deadline check reads from an accepted command: the deadline and the creation time of the
winner, or the creation time of the file at equal priority. -/
theorem written_reads :
    (coalescedExisting files call = none ∧
      written.get? "deadline_s" =
        (enqueuePayload gatewayCommandQueuePolicy call).get? "deadline_s" ∧
      written.get? "created_at" =
        (enqueuePayload gatewayCommandQueuePolicy call).get? "created_at") ∨
    ∃ existing winner, coalescedExisting files call = some existing ∧
      winner = coalescedWinner existing (enqueuePayload gatewayCommandQueuePolicy call) ∧
      written.get? "deadline_s" = winner.get? "deadline_s" ∧
      commandFloat (written.get? "created_at") =
        if sameCommandPriority existing winner = true ∧
          (commandFloat (existing.get? "created_at")).truthy = true
        then commandFloat (existing.get? "created_at") else commandFloat (winner.get? "created_at") := by
  have hkey : commandKey (gatewayCommandQueuePolicy.normalize call.command) = commandKey call.command :=
    commandKey_normalize _
  -- Either nothing is coalesced, or the file had a command, readable or not.
  rcases coalescedPayload_eq_some hwritten with ⟨hfree, rfl⟩ | ⟨hkeyed, base, hbase, hmarked⟩
  · refine .inl ⟨?_, rfl, rfl⟩
    rw [coalescedExisting]
    split_ifs with hempty
    · rfl
    · rw [hkey] at hfree
      have hnone := hfree.resolve_left hempty
      rw [Dict.contains, Option.isSome_eq_false_iff, Option.isNone_iff_eq_none] at hnone
      rw [readCommand, hnone]
  · have hexisting : coalescedExisting files call =
        readCommand files (enqueuePath gatewayCommandQueuePolicy call) := by
      rw [coalescedExisting, if_neg (hkey ▸ hkeyed)]
    have hdeadline : written.get? "deadline_s" = base.get? "deadline_s" :=
      get?_markCoalescedPayload hmarked (by decide) (by decide) (by decide)
    cases hread : readCommand files (enqueuePath gatewayCommandQueuePolicy call) with
    | none =>
      rw [hread] at hbase hmarked
      have hpayload : base = enqueuePayload gatewayCommandQueuePolicy call := by
        rcases hbase with hmerged | ⟨-, hpayload, -⟩
        · change mergePublishFields none (enqueuePayload gatewayCommandQueuePolicy call) = _ at hmerged
          obtain ⟨kept, hkept, -⟩ := mergePublishFields_eq_some hmerged
          exact absurd hkept (by simp)
        · exact hpayload
      obtain rfl := Except.ok.inj hmarked
      refine .inl ⟨hexisting.trans hread, ?_, ?_⟩
      · rw [hdeadline, hpayload]
      · rw [Dict.get?_set_ne _ _ (by decide), hpayload]
    | some existing =>
      rw [hread] at hbase hmarked
      refine .inr ⟨existing, _, hexisting.trans hread, rfl, ?_⟩
      -- A merged publication differs from the winner in its fields, its orders and its revision.
      have hreads : ∀ key, key ≠ "fields" → key ≠ "transport_field_orders" →
          key ≠ mailboxRevisionField → base.get? key =
            (coalescedWinner existing (enqueuePayload gatewayCommandQueuePolicy call)).get? key := by
        intro key hfields horders hrevision
        rcases hbase with hmerged | ⟨-, rfl, hreplace⟩
        · change mergePublishFields (some existing) (enqueuePayload gatewayCommandQueuePolicy call) =
            _ at hmerged
          obtain ⟨kept, hkept, -, rfl, -⟩ := mergePublishFields_eq_some hmerged
          obtain rfl := Option.some.inj hkept
          exact get?_mergedPublishCommand _ _ _ hfields horders hrevision
        · rw [coalescedWinner, if_pos (hreplace existing rfl)]
      have hpriority : sameCommandPriority existing base = sameCommandPriority existing
          (coalescedWinner existing (enqueuePayload gatewayCommandQueuePolicy call)) := by
        rw [sameCommandPriority, sameCommandPriority, commandRank, commandRank, commandRank,
          hreads "priority" (by decide) (by decide) (by decide)]
      refine ⟨?_, ?_⟩
      · rw [hdeadline, hreads _ (by decide) (by decide) (by decide)]
      · rw [created_markCoalescedPayload hmarked, hpriority,
          hreads "created_at" (by decide) (by decide) (by decide)]

/-- The default lifecycle state of what is written is not read by the deadline check. -/
theorem keepsDeadline_written {d : ℚ} :
    KeepsDeadline files call d ↔ ∀ now, call.createdNow ≤ now → now < call.createdNow + d →
      commandDeadlineExpired written now = false := by
  have hcheck : ∀ now, commandDeadlineExpired (written.setDefault "lifecycle_state" (.str "queued")) now =
      commandDeadlineExpired written now := by
    refine commandDeadlineExpired_congr ?_ ?_
    · rw [Dict.get?_setDefault, if_neg (by decide)]
    · rw [Dict.get?_setDefault, if_neg (by decide)]
  rw [KeepsDeadline, enqueueCommand]
  simp only [hwritten, Dict.get?_set_self, Option.some.injEq, MailboxFile.command.injEq]
  constructor
  · intro h now hle hlt
    rw [← hcheck]
    exact h _ rfl now hle hlt
  · rintro h stored rfl now hle hlt
    rw [hcheck]
    exact h now hle hlt

/-- What is written does not expire in time exactly when nothing stored before moves the deadline. -/
theorem notExpired_written_iff {d : ℚ} (hrequest : RequestedAt call d) :
    (∀ now, call.createdNow ≤ now → now < call.createdNow + d → commandDeadlineExpired written now = false) ↔
      StoredDeadlineFits files call d := by
  have hd := hrequest.deadline_pos
  have hcreated := created_of_requestedAt hrequest
  obtain ⟨admitted, hadmitted, hadmittedPos, hle, hadmits⟩ := deadline_of_requestedAt hrequest
  have hown : ∀ command : CommandPayload, command.get? "deadline_s" =
      (enqueuePayload gatewayCommandQueuePolicy call).get? "deadline_s" →
      commandFloat (command.get? "created_at") = .fin call.createdNow →
      ((∀ now, call.createdNow ≤ now → now < call.createdNow + d →
        commandDeadlineExpired command now = false) ↔ AdmitsDeadline call.command d) := by
    intro command hdeadline hat
    rw [not_expired_interval_iff (by rw [hdeadline, hadmitted]) hadmittedPos hat hd, ← hadmits]
    have hskew : call.createdNow ≤ call.createdNow + commandDeadlineFutureSkewSeconds := by
      norm_num [commandDeadlineFutureSkewSeconds]
    exact ⟨fun h => by linarith [h.2.2], fun h => ⟨hrequest.clock_pos, hskew, by linarith⟩⟩
  rcases written_reads hwritten with ⟨hnone, hdeadline, hat⟩ | ⟨existing, winner, hsome, rfl, hdeadline, hat⟩
  · rw [StoredDeadlineFits, hnone]
    exact hown written hdeadline (by rw [hat, hcreated])
  · rw [StoredDeadlineFits, hsome]
    simp only
    rw [coalescedWinner] at hdeadline hat
    split_ifs at hdeadline hat ⊢ with hreplace hinherits hkeeps
    · -- the call wins at equal priority and takes over a creation time that is not later
      have hrank : commandRank existing =
          commandRank (enqueuePayload gatewayCommandQueuePolicy call) := of_decide_eq_true hinherits.1
      rw [shouldReplaceCommand, hcreated, hrank] at hreplace
      simp only [lt_irrefl, decide_false, Bool.false_or, decide_true, Bool.true_and] at hreplace
      have hsame := hinherits.1
      cases hexisting : commandFloat (existing.get? "created_at") with
      | nan => simp [hexisting, PyFloat.le] at hreplace
      | posInf => simp [hexisting, PyFloat.le] at hreplace
      | negInf =>
        refine iff_of_false (fun h => ?_) (by simp [hsame])
        have hexpired := h call.createdNow le_rfl (by linarith)
        rw [hexisting] at hat
        rw [commandDeadlineExpired_of_unanchored hadmittedPos (hdeadline ▸ hadmitted)
          (by rw [hat]; rfl)] at hexpired
        exact absurd hexpired (by simp)
      | fin created =>
        rw [hexisting, PyFloat.le_fin, decide_eq_true_eq] at hreplace
        rw [hexisting] at hat
        have hne : created ≠ 0 := by
          rintro rfl
          simp [hexisting, PyFloat.truthy] at hinherits
        rw [not_expired_interval_iff (hdeadline ▸ hadmitted) hadmittedPos hat hd, ← hadmits]
        have hskew : (0 : ℚ) < commandDeadlineFutureSkewSeconds := by
          norm_num [commandDeadlineFutureSkewSeconds]
        simp only [hsame, forall_const, PyFloat.fin.injEq, hne, false_or]
        constructor
        · rintro ⟨-, -, hlong⟩
          exact ⟨by linarith, by linarith⟩
        · rintro ⟨hfits, rfl⟩
          exact ⟨hrequest.clock_pos, by linarith, by linarith⟩
    · rw [hown written hdeadline (by rw [hat, hcreated])]
      refine (and_iff_left fun hsame => .inl ?_).symm
      by_contra hcreatedAt
      exact hinherits ⟨hsame, decide_eq_true hcreatedAt⟩
    · refine forall_congr' fun now => ?_
      rw [commandDeadlineExpired_congr hdeadline hat]
    · refine forall_congr' fun now => ?_
      rw [commandDeadlineExpired_congr hdeadline hat]

end

/-- What an accepted call leaves under the key keeps the requested deadline exactly when nothing stored before moves
it. -/
theorem keepsDeadline_iff {files : MailboxFiles} {call : EnqueueCall} {d : ℚ}
    (hrequest : RequestedAt call d)
    (haccepted : (enqueueCommand gatewayCommandQueuePolicy files call).1 =
      .ok (enqueuePath gatewayCommandQueuePolicy call)) :
    KeepsDeadline files call d ↔ StoredDeadlineFits files call d := by
  obtain ⟨-, result, hresult⟩ := coalescedPayload_of_accepted haccepted
  cases result with
  | none => exact keepsDeadline_keptOut hresult
  | some written => exact (keepsDeadline_written hresult).trans (notExpired_written_iff hresult hrequest)

end

section

local instance deadlineSampleLib : PyLib := PyLib.sample

/-- A relay command with a deadline of ten seconds. -/
def relayCall (now : ℚ) (revision : String) : EnqueueCall where
  command := Dict.ofList [("kind", .str "gx_relay_set_enabled"), ("coalesce_key", .str "k"),
    ("priority", .str "user"), ("deadline_s", .int 10)]
  createdNow := now
  updatedNow := now
  revision := revision
  uniqueId := ""

theorem requestedAt_relayCall (now : ℚ) (revision : String) (hnow : 0 < now) :
    RequestedAt (relayCall now revision) 10 :=
  ⟨rfl, hnow, rfl, by norm_num⟩

/-- The directory with a command of another priority. -/
def otherFiles (priority : String) (deadline : Int) (now : ℚ) : MailboxFiles :=
  (enqueueCommand gatewayCommandQueuePolicy Dict.empty { relayCall now "r1" with
    command := Dict.ofList [("kind", .str "gx_relay_set_enabled"), ("coalesce_key", .str "k"),
      ("priority", .str priority), ("deadline_s", .int deadline)] }).2

/-- The command that a request finds, with what the deadline checks read of it. -/
def found (files : MailboxFiles) (call : EnqueueCall) : Option (Bool × Bool × PyFloat × PyFloat) :=
  (coalescedExisting files call).map fun existing =>
    (shouldReplaceCommand existing (enqueuePayload gatewayCommandQueuePolicy call),
      sameCommandPriority existing (enqueuePayload gatewayCommandQueuePolicy call),
      commandFloat (existing.get? "deadline_s"), commandFloat (existing.get? "created_at"))

theorem of_found {files : MailboxFiles} {call : EnqueueCall} {replace same : Bool} {deadline created : PyFloat}
    (h : found files call = some (replace, same, deadline, created)) :
    ∃ existing, coalescedExisting files call = some existing ∧
      shouldReplaceCommand existing (enqueuePayload gatewayCommandQueuePolicy call) = replace ∧
      sameCommandPriority existing (enqueuePayload gatewayCommandQueuePolicy call) = same ∧
      commandFloat (existing.get? "deadline_s") = deadline ∧ commandFloat (existing.get? "created_at") = created := by
  obtain ⟨existing, hexisting, hreads⟩ := Option.map_eq_some_iff.mp h
  obtain ⟨hreplace, hrest⟩ := Prod.mk.inj hreads
  obtain ⟨hsame, hrest⟩ := Prod.mk.inj hrest
  exact ⟨existing, hexisting, hreplace, hsame, Prod.mk.inj hrest⟩

/-- A request that replaces an expired command of less urgency keeps its deadline, and so does one that a safety command
keeps out which is in force for as long; one that an expired safety command keeps out does not. -/
theorem keepsDeadline_after_others :
    KeepsDeadline (otherFiles "background" 10 10) (relayCall 100 "r2") 10 ∧
      KeepsDeadline (otherFiles "safety" 30 90) (relayCall 100 "r2") 10 ∧
      ¬ KeepsDeadline (otherFiles "safety" 10 10) (relayCall 100 "r2") 10 := by
  have hrequest := requestedAt_relayCall 100 "r2" (by norm_num)
  refine ⟨(keepsDeadline_iff hrequest (by decide +kernel)).mpr ?_, (keepsDeadline_iff hrequest (by decide +kernel)).mpr ?_,
    (keepsDeadline_iff hrequest (by decide +kernel)).not.mpr ?_⟩
  · obtain ⟨existing, hexisting, hreplace, hsame, -⟩ := of_found
      (show found (otherFiles "background" 10 10) (relayCall 100 "r2") = some (true, false, .fin 10, .fin 10) by
        decide +kernel)
    rw [StoredDeadlineFits, hexisting]
    dsimp only
    rw [if_pos hreplace, hsame]
    exact ⟨fun htransient => absurd htransient (by decide +kernel), fun heq => nomatch heq⟩
  · obtain ⟨existing, hexisting, hreplace, -, hdeadline, hcreated⟩ := of_found
      (show found (otherFiles "safety" 30 90) (relayCall 100 "r2") = some (false, false, .fin 30, .fin 90) by
        decide +kernel)
    rw [StoredDeadlineFits, hexisting]
    dsimp only
    rw [hreplace, if_neg Bool.false_ne_true, not_expired_interval_iff hdeadline (by norm_num) hcreated (by norm_num)]
    norm_num [relayCall, commandDeadlineFutureSkewSeconds]
  · obtain ⟨existing, hexisting, hreplace, -, hdeadline, hcreated⟩ := of_found
      (show found (otherFiles "safety" 10 10) (relayCall 100 "r2") = some (false, false, .fin 10, .fin 10) by
        decide +kernel)
    rw [StoredDeadlineFits, hexisting]
    dsimp only
    rw [hreplace, if_neg Bool.false_ne_true, not_expired_interval_iff hdeadline (by norm_num) hcreated (by norm_num)]
    norm_num [relayCall, commandDeadlineFutureSkewSeconds]

/-- The directory with a request that has long expired. -/
def expiredFiles : MailboxFiles :=
  (enqueueCommand gatewayCommandQueuePolicy Dict.empty (relayCall 10 "r1")).2

/-- A request that replaces an expired one has expired at once. -/
theorem repeated_request_expired :
    RequestedAt (relayCall 100 "r2") 10 ∧
      enqueueWrites gatewayCommandQueuePolicy expiredFiles (relayCall 100 "r2") = true ∧
      ¬ KeepsDeadline expiredFiles (relayCall 100 "r2") 10 := by
  refine ⟨requestedAt_relayCall 100 "r2" (by norm_num), by decide +kernel, fun hkeeps => ?_⟩
  have hstored : ((readCommand (enqueueCommand gatewayCommandQueuePolicy expiredFiles
      (relayCall 100 "r2")).2 (enqueuePath gatewayCommandQueuePolicy (relayCall 100 "r2"))).map
      fun stored => commandDeadlineExpired stored 101) = some true := by decide +kernel
  obtain ⟨stored, hread, hexpired⟩ := Option.map_eq_some_iff.mp hstored
  have hlive := hkeeps stored (readCommand_eq_some.mp hread) 101
    (by norm_num [relayCall]) (by norm_num [relayCall])
  exact absurd (hexpired.symm.trans hlive) (by decide)

end

end VenusEvcharger
