import VenusEvcharger.DbusAdapter.RelaySet

/-!
# Progress of a GX relay command

The attempts on the file of one relay command. While the command needs manual mode an attempt moves
it along the candidates for the manual-function setting, and only forwards: `manual_attempt_step`
reads one attempt as a step on the parsed operation. A candidate that starts to answer is reached
exactly when the persisted index has not passed it, which is `reaches_output_iff`.

Scope: an attempt that the queue finishes removes the file. Nobody else writes the file meanwhile.
-/

namespace VenusEvcharger

open Library

/-! ## Parsed commands -/

variable {command : CommandPayload} {operation : GxRelaySetOperation}

/-- What `parseGxRelaySet` reads, entry by entry. -/
theorem parseGxRelaySet_eq_some :
    parseGxRelaySet command = some operation ↔
      command.get? "kind" = some (.str gxRelaySetKind) ∧
      parsedRelayIndex (command.get? "relay_index") = some operation.relayIndex ∧
      parsedContactMode (command.get? "contact_mode") = some operation.contactMode ∧
      parsedRelayPhase (command.get? "phase") = some operation.phase ∧
      parsedBool (command.get? "enabled") = some operation.enabled ∧
      parsedBool (command.get? "ensure_manual") = some operation.ensureManual ∧
      parsedNonNegativeFloat (command.get? "verify_settle_seconds") =
        some operation.verifySettleSeconds ∧
      parsedNonNegativeFloat (command.get? "verify_retry_seconds") =
        some operation.verifyRetrySeconds ∧
      parsedNonNegativeFloat (command.get? "not_before") = some operation.notBefore ∧
      parsedManualTarget (command.get? "manual_target") = some operation.manualTarget ∧
      parsedRetries (command.get? "retries") = some operation.retries := by
  simp only [parseGxRelaySet, Option.bind_eq_bind, Option.bind_eq_some_iff, Option.guard_eq_some',
    Option.pure_def, Option.some.injEq, exists_const]
  constructor
  · rintro ⟨hkind, i, hi, m, hm, p, hp, e, he, n, hn, s, hs, r, hr, b, hb, t, ht, k, hk, rfl⟩
    exact ⟨hkind, hi, hm, hp, he, hn, hs, hr, hb, ht, hk⟩
  · rintro ⟨hkind, hi, hm, hp, he, hn, hs, hr, hb, ht, hk⟩
    exact ⟨hkind, _, hi, _, hm, _, hp, _, he, _, hn, _, hs, _, hr, _, hb, _, ht, _, hk, rfl⟩

/-- The entries of a relay command. -/
def relaySetKeys : List String :=
  ["kind", "relay_index", "contact_mode", "phase", "enabled", "ensure_manual",
    "verify_settle_seconds", "verify_retry_seconds", "not_before", "manual_target", "retries"]

/-- Commands with the same relay entries are the same operation. -/
theorem parseGxRelaySet_congr {first second : CommandPayload}
    (hsame : ∀ key ∈ relaySetKeys, first.get? key = second.get? key) :
    parseGxRelaySet first = parseGxRelaySet second := by
  unfold parseGxRelaySet
  rw [hsame "kind" (by decide), hsame "relay_index" (by decide), hsame "contact_mode" (by decide),
    hsame "phase" (by decide), hsame "enabled" (by decide), hsame "ensure_manual" (by decide),
    hsame "verify_settle_seconds" (by decide), hsame "verify_retry_seconds" (by decide),
    hsame "not_before" (by decide), hsame "manual_target" (by decide), hsame "retries" (by decide)]

@[simp] theorem parsedRelayPhase_text (phase : RelayPhase) :
    parsedRelayPhase (some (.str phase.text)) = some phase := by
  cases phase <;> rfl

@[simp] theorem parsedContactMode_text (mode : GxRelayContactMode) :
    parsedContactMode (some (.str mode.text)) = some mode := by
  cases mode <;> rfl

theorem parsedRelayIndex_val (index : Fin 2) :
    parsedRelayIndex (some (.int index.val)) = some index := by
  match index with
  | 0 => rfl
  | 1 => rfl

theorem parsedNonNegativeFloat_coe (x : ℚ≥0) :
    parsedNonNegativeFloat (some (.float (.fin x))) = some x := by
  simp [parsedNonNegativeFloat]

theorem parsedRetries_natCast (n : Nat) : parsedRetries (some (.int n)) = some n := by
  simp [parsedRetries]

section

variable (hparse : parseGxRelaySet command = some operation)
include hparse

theorem parse_set_phase (phase : RelayPhase) :
    parseGxRelaySet (command.set "phase" (.str phase.text)) =
      some { operation with phase := phase } := by
  rw [parseGxRelaySet_eq_some] at hparse ⊢
  simp [Dict.get?_set, hparse]

theorem parse_set_manualTarget (target : Fin 2) :
    parseGxRelaySet (command.set "manual_target" (.int target.val)) =
      some { operation with manualTarget := target } := by
  rw [parseGxRelaySet_eq_some] at hparse ⊢
  simp [Dict.get?_set, hparse, parsedManualTarget, parsedRelayIndex_val]

theorem parse_set_notBefore (time : ℚ≥0) :
    parseGxRelaySet (command.set "not_before" (.float (.fin time))) =
      some { operation with notBefore := time } := by
  rw [parseGxRelaySet_eq_some] at hparse ⊢
  simp [Dict.get?_set, hparse, parsedNonNegativeFloat_coe]

theorem parse_set_retries (retries : Nat) :
    parseGxRelaySet (command.set "retries" (.int retries)) =
      some { operation with retries := retries } := by
  rw [parseGxRelaySet_eq_some] at hparse ⊢
  simp [Dict.get?_set, hparse, parsedRetries_natCast]

end

section

variable (relayIndex : Fin 2) (contactMode : GxRelayContactMode) (enabled ensureManual : Bool)
  (settle retry : ℚ≥0)

/-- The deadline apart, a new command holds the entries it starts from. -/
theorem get?_gxRelaySetCommand {key : String} (hkey : key ≠ "deadline_s") :
    (gxRelaySetCommand relayIndex contactMode enabled ensureManual settle retry).get? key =
      (gxRelaySetEntries relayIndex contactMode enabled ensureManual settle retry).lookup key := by
  have hnodup : ((gxRelaySetEntries relayIndex contactMode enabled ensureManual settle retry).map
      Prod.fst).Nodup := by
    simp [gxRelaySetEntries]
  unfold gxRelaySetCommand
  split
  · rw [Dict.get?_set_ne _ _ hkey, Dict.get?_ofList hnodup]
    rfl
  · rw [Dict.get?_ofList hnodup]
    rfl

/-- The operation a new command stands for. -/
def newGxRelaySetOperation : GxRelaySetOperation where
  relayIndex := relayIndex
  contactMode := contactMode
  enabled := enabled
  ensureManual := ensureManual
  verifySettleSeconds := settle
  verifyRetrySeconds := retry
  phase := if ensureManual then .manualRead else .output
  manualTarget := 0
  retries := 0
  notBefore := 0

/-- A new command asks for what its arguments say and has made no progress. -/
theorem parse_gxRelaySetCommand :
    parseGxRelaySet
        (gxRelaySetCommand relayIndex contactMode enabled ensureManual settle retry) =
      some (newGxRelaySetOperation relayIndex contactMode enabled ensureManual settle retry) := by
  have hzero : parsedNonNegativeFloat (some (.float (.fin 0))) = some 0 :=
    parsedNonNegativeFloat_coe 0
  rw [parseGxRelaySet_eq_some]
  simp [get?_gxRelaySetCommand, gxRelaySetEntries, List.lookup_cons, newGxRelaySetOperation,
    parsedRelayIndex_val, parsedNonNegativeFloat_coe, parsedManualTarget, hzero, parsedBool,
    parsedRetries]

end

theorem length_manualFunctionPaths (index : Fin 2) : (manualFunctionPaths index).length ≤ 2 := by
  unfold manualFunctionPaths
  split <;> simp

/-! ## Attempts on the command file -/

/-- What one attempt meets: the bus, and the clock when it answers. -/
structure RelayAnswer where
  bus : GxBus
  now : ℚ≥0

section

variable [PyLib]

/-- The operation that a file holds. -/
def heldOperation (files : MailboxFiles) (path : String) : Option GxRelaySetOperation :=
  (readCommand files path).bind parseGxRelaySet

/-- One attempt on a file, with what the queue does about its outcome. An attempt that raises leaves
the file. -/
def attemptRelaySet (path : String) (files : MailboxFiles) (answer : RelayAnswer) : MailboxFiles :=
  match readCommand files path with
  | none => files
  | some payload =>
    let command := gatewayCommandQueuePolicy.normalize payload
    match setGxRelay files path command answer.bus answer.now with
    | .error _ => files
    | .ok attempt =>
      if attempt.outcome = .deferred then attempt.files
      else (removeIfCurrent attempt.files path command).2

/-- A file with a mailbox revision that holds an operation. -/
def HoldsOperation (path : String) (operation : GxRelaySetOperation) (files : MailboxFiles) : Prop :=
  ∃ payload revision, readCommand files path = some payload ∧
    payload.get? mailboxRevisionField = some (.str revision) ∧ revision ≠ "" ∧
    parseGxRelaySet payload = some operation

omit [PyLib] in
theorem HoldsOperation.held {path : String} {operation : GxRelaySetOperation} {files : MailboxFiles}
    (h : HoldsOperation path operation files) : heldOperation files path = some operation := by
  obtain ⟨payload, revision, hread, -, -, hparse⟩ := h
  rw [heldOperation, hread]
  exact hparse

theorem parseGxRelaySet_normalize (payload : CommandPayload) :
    parseGxRelaySet (gatewayCommandQueuePolicy.normalize payload) = parseGxRelaySet payload := by
  apply parseGxRelaySet_congr
  intro key hkey
  have hdeadline : ∀ key ∈ relaySetKeys, key ≠ "deadline_s" := by decide
  exact gatewayCommandQueuePolicy.get?_normalize payload key (hdeadline key hkey)

/-- The command that is loaded from a file names the revision of the file. -/
theorem sameMailboxRevision_normalize {payload : CommandPayload} {revision : String}
    (hrevision : payload.get? mailboxRevisionField = some (.str revision)) (hne : revision ≠ "") :
    sameMailboxRevision payload (gatewayCommandQueuePolicy.normalize payload) = true := by
  have hloaded : (gatewayCommandQueuePolicy.normalize payload).get? mailboxRevisionField =
      some (.str revision) := by
    rw [gatewayCommandQueuePolicy.get?_normalize _ _ (by decide), hrevision]
  exact (sameMailboxRevision_of_revision hloaded hne).mpr hrevision

/-- The file that was dispatched is rewritten, and holds what the changed command asks for. -/
theorem holds_rewrite {files : MailboxFiles} {path revision : String} {payload : CommandPayload}
    (hread : readCommand files path = some payload)
    (hrevision : payload.get? mailboxRevisionField = some (.str revision)) (hne : revision ≠ "")
    {changes : List (String × Value)} {operation : GxRelaySetOperation}
    (hparse : parseGxRelaySet (changes.foldl (fun command change => command.set change.1 change.2)
      (gatewayCommandQueuePolicy.normalize payload)) = some operation) :
    (rewriteRelayCommand files path (gatewayCommandQueuePolicy.normalize payload) changes).outcome =
        .deferred ∧
      HoldsOperation path operation
        (rewriteRelayCommand files path (gatewayCommandQueuePolicy.normalize payload) changes).files
      := by
  have hsame := sameMailboxRevision_normalize hrevision hne
  unfold rewriteRelayCommand replaceIfCurrent
  simp only [hread, hsame, Bool.not_true, Bool.false_eq_true, if_false, if_true]
  refine ⟨trivial, _, revision, readCommand_eq_some.mpr (Dict.get?_set_self _ _ _), ?_, hne, ?_⟩
  · rw [get?_preserveMailboxIdentity, if_pos (by decide), hrevision]
    rfl
  · rw [← hparse]
    apply parseGxRelaySet_congr
    intro key hkey
    have hidentity : ∀ key ∈ relaySetKeys, key ∉ mailboxIdentityKeys ∧ key ≠ "deadline_s" := by
      decide
    rw [get?_preserveMailboxIdentity, if_neg (hidentity key hkey).1,
      gatewayCommandQueuePolicy.get?_normalize _ _ (hidentity key hkey).2]

/-! ## An attempt as a step of the operation -/

/-- The phases before the output is written. -/
def RelayPhase.manual : RelayPhase → Bool
  | .manualRead | .manualWrite => true
  | _ => false

/-- `_manual_fallback` on the operation. -/
def GxRelaySetOperation.fallback (operation : GxRelaySetOperation) (now : ℚ≥0) :
    GxRelaySetOperation :=
  if (manualFunctionPaths operation.relayIndex).length ≤ operation.manualTarget.val + 1 then
    { operation with notBefore := now + max 1 operation.verifyRetrySeconds }
  else
    { operation with
      phase := .manualRead
      manualTarget := operation.manualTarget + 1 }

/-- An attempt of a manual phase on the operation. -/
def GxRelaySetOperation.manualStep (operation : GxRelaySetOperation) (target : String)
    (answer : RelayAnswer) : GxRelaySetOperation :=
  if operation.phase = .manualRead then
    match answer.bus.read settingsService target with
    | .ok value =>
      { operation with
        phase := if manualFunctionSelected value then .output else .manualWrite }
    | .error _ => operation.fallback answer.now
  else
    match answer.bus.write settingsService target manualFunctionValue with
    | .ok () => { operation with phase := .output }
    | .error _ => operation.fallback answer.now

section

variable {files : MailboxFiles} {path : String} {operation : GxRelaySetOperation}
  {answer : RelayAnswer}

variable {payload : CommandPayload}

/-- An attempt whose handler rewrites the command leaves the rewritten operation. -/
theorem holds_attempt_of_rewrite {revision : String} (hread : readCommand files path = some payload)
    (hrevision : payload.get? mailboxRevisionField = some (.str revision)) (hne : revision ≠ "")
    {changes : List (String × Value)} {next : GxRelaySetOperation}
    (hset : setGxRelay files path (gatewayCommandQueuePolicy.normalize payload) answer.bus answer.now =
      .ok (rewriteRelayCommand files path (gatewayCommandQueuePolicy.normalize payload) changes))
    (hparse : parseGxRelaySet (changes.foldl (fun command change => command.set change.1 change.2)
      (gatewayCommandQueuePolicy.normalize payload)) = some next) :
    HoldsOperation path next (attemptRelaySet path files answer) := by
  obtain ⟨houtcome, hholds⟩ := holds_rewrite hread hrevision hne hparse
  unfold attemptRelaySet
  simp only [hread, hset, houtcome, if_true]
  exact hholds

theorem holds_attempt_of_fallback {revision : String}
    (hread : readCommand files path = some payload)
    (hrevision : payload.get? mailboxRevisionField = some (.str revision)) (hne : revision ≠ "")
    (hparse : parseGxRelaySet (gatewayCommandQueuePolicy.normalize payload) = some operation)
    (hset : setGxRelay files path (gatewayCommandQueuePolicy.normalize payload) answer.bus answer.now =
      .ok (manualFallback files path (gatewayCommandQueuePolicy.normalize payload) operation
        answer.now)) :
    HoldsOperation path (operation.fallback answer.now) (attemptRelaySet path files answer) := by
  unfold manualFallback at hset
  unfold GxRelaySetOperation.fallback
  by_cases hlast : (manualFunctionPaths operation.relayIndex).length ≤ operation.manualTarget.val + 1
  · rw [if_pos hlast] at hset ⊢
    refine holds_attempt_of_rewrite hread hrevision hne hset ?_
    have hnotBefore := parse_set_notBefore hparse (answer.now + max 1 operation.verifyRetrySeconds)
    simpa using hnotBefore
  · rw [if_neg hlast] at hset ⊢
    refine holds_attempt_of_rewrite hread hrevision hne hset ?_
    have htarget := parse_set_manualTarget (parse_set_phase hparse .manualRead)
      (operation.manualTarget + 1)
    have hval : (operation.manualTarget + 1).val = operation.manualTarget.val + 1 := by
      have hlength := length_manualFunctionPaths operation.relayIndex
      omega
    rw [hval] at htarget
    exact htarget

omit [PyLib] in
/-- A candidate within the list is a path. -/
theorem exists_manualTarget (hbound : operation.manualTarget.val < (manualFunctionPaths operation.relayIndex).length) :
    ∃ target, (manualFunctionPaths operation.relayIndex)[operation.manualTarget.val]? = some target :=
  ⟨_, List.getElem?_eq_getElem hbound⟩

/-- While a command is in a manual phase, an attempt on its file is a step of the operation on the
candidate it has come to. -/
theorem manual_attempt_step (answer : RelayAnswer) (hpath : path ≠ "") (hheld : HoldsOperation path operation files)
    (hmanual : operation.phase.manual = true) {target : String}
    (htarget : (manualFunctionPaths operation.relayIndex)[operation.manualTarget.val]? = some target) :
    HoldsOperation path (operation.manualStep target answer) (attemptRelaySet path files answer) := by
  obtain ⟨payload, revision, hread, hrevision, hne, hparse⟩ := hheld
  rw [← parseGxRelaySet_normalize] at hparse
  have hset : setGxRelay files path (gatewayCommandQueuePolicy.normalize payload) answer.bus
      answer.now = match operation.phase with
        | .manualRead => readManualFunction files path (gatewayCommandQueuePolicy.normalize payload)
            operation answer.bus answer.now
        | _ => writeManualFunction files path (gatewayCommandQueuePolicy.normalize payload)
            operation answer.bus answer.now := by
    unfold setGxRelay
    rw [hparse]
    simp only [hpath, if_false]
    cases hphase : operation.phase with
    | manualRead | manualWrite => rfl
    | output | verify | retry => simp [hphase, RelayPhase.manual] at hmanual
  unfold GxRelaySetOperation.manualStep
  cases hphase : operation.phase with
  | manualRead =>
    rw [if_pos rfl]
    simp only [hphase, readManualFunction, htarget] at hset
    cases hbus : answer.bus.read settingsService target with
    | error reason =>
      rw [hbus] at hset
      exact holds_attempt_of_fallback hread hrevision hne hparse hset
    | ok value =>
      rw [hbus] at hset
      exact holds_attempt_of_rewrite hread hrevision hne hset (parse_set_phase hparse _)
  | manualWrite =>
    rw [if_neg (by decide)]
    simp only [hphase, writeManualFunction, htarget] at hset
    cases hbus : answer.bus.write settingsService target manualFunctionValue with
    | error reason =>
      rw [hbus] at hset
      exact holds_attempt_of_fallback hread hrevision hne hparse hset
    | ok done =>
      rw [hbus] at hset
      exact holds_attempt_of_rewrite hread hrevision hne hset (parse_set_phase hparse _)
  | output | verify | retry => simp [hphase, RelayPhase.manual] at hmanual

/-- An attempt that is finished without a rewrite retires the file. -/
theorem readCommand_attempt_of_finished {revision : String}
    (hread : readCommand files path = some payload)
    (hrevision : payload.get? mailboxRevisionField = some (.str revision)) (hne : revision ≠ "")
    {attempt : RelayAttempt}
    (hset : setGxRelay files path (gatewayCommandQueuePolicy.normalize payload) answer.bus answer.now =
      .ok attempt)
    (houtcome : attempt.outcome ≠ .deferred) (hfiles : attempt.files = files) :
    readCommand (attemptRelaySet path files answer) path = none := by
  have hsame := sameMailboxRevision_normalize hrevision hne
  unfold attemptRelaySet
  simp only [hread, hset, houtcome, if_false, hfiles]
  unfold removeIfCurrent
  simp only [hread, hsame, Bool.not_true, Bool.false_eq_true, if_false]
  unfold readCommand
  rw [Dict.get?_erase, if_pos rfl]

/-- An attempt that is put off leaves the file. -/
theorem attempt_of_deferred (hread : readCommand files path = some payload)
    (hset : setGxRelay files path (gatewayCommandQueuePolicy.normalize payload) answer.bus answer.now =
      .ok ⟨.deferred, files, none⟩) : attemptRelaySet path files answer = files := by
  unfold attemptRelaySet
  simp only [hread, hset, if_true]

/-- An attempt of a later phase on the operation, and nothing when it finishes the command. -/
def GxRelaySetOperation.laterStep (operation : GxRelaySetOperation) (answer : RelayAnswer) :
    Option GxRelaySetOperation :=
  if operation.phase = .verify then
    match answer.bus.read systemService (relayStatePath operation.relayIndex) with
    | .error _ => none
    | .ok value =>
      if relayStateMatches (binaryRelayState value) operation.targetState = false ∧ operation.retries = 0 then
        some { operation with
          phase := .retry
          notBefore := answer.now + operation.verifyRetrySeconds }
      else none
  else
    match answer.bus.write systemService (relayStatePath operation.relayIndex) operation.targetState with
    | .error _ => some operation
    | .ok () =>
      some { operation with
        phase := .verify
        retries := if operation.phase = .retry then operation.retries + 1 else operation.retries
        notBefore := answer.now + operation.verifySettleSeconds }

/-- What the file of a relay command holds after an attempt of a later phase. -/
def HoldsLater (path : String) (files : MailboxFiles) : Option GxRelaySetOperation → Prop
  | none => readCommand files path = none
  | some next => HoldsOperation path next files

theorem later_attempt_step (answer : RelayAnswer) (hpath : path ≠ "") (hheld : HoldsOperation path operation files)
    (hmanual : operation.phase.manual = false) :
    HoldsLater path (attemptRelaySet path files answer) (operation.laterStep answer) := by
  have hstay := hheld
  obtain ⟨payload, revision, hread, hrevision, hne, hparse⟩ := hheld
  rw [← parseGxRelaySet_normalize] at hparse
  have hset : setGxRelay files path (gatewayCommandQueuePolicy.normalize payload) answer.bus
      answer.now = .ok (match operation.phase with
        | .verify => verifyRelayOutput files path (gatewayCommandQueuePolicy.normalize payload)
            operation answer.bus answer.now
        | .retry => retryRelayOutput files path (gatewayCommandQueuePolicy.normalize payload)
            operation answer.bus answer.now
        | _ => writeRelayOutput files path (gatewayCommandQueuePolicy.normalize payload)
            operation answer.bus answer.now) := by
    unfold setGxRelay
    rw [hparse]
    simp only [hpath, if_false]
    cases hphase : operation.phase with
    | manualRead | manualWrite => simp [hphase, RelayPhase.manual] at hmanual
    | output | verify | retry => rfl
  -- The file is rewritten for the next phase, left as it is, or retired.
  unfold GxRelaySetOperation.laterStep
  cases hphase : operation.phase with
  | manualRead | manualWrite => simp [hphase, RelayPhase.manual] at hmanual
  | output =>
    rw [if_neg (by decide)]
    simp only [hphase, writeRelayOutput, writeRelayState] at hset
    cases hbus : answer.bus.write systemService (relayStatePath operation.relayIndex) operation.targetState with
    | ok done =>
      rw [hbus] at hset
      exact holds_attempt_of_rewrite hread hrevision hne hset
        (parse_set_notBefore (parse_set_phase hparse .verify)
          (answer.now + operation.verifySettleSeconds))
    | error reason =>
      rw [hbus] at hset
      show HoldsOperation path operation (attemptRelaySet path files answer)
      rwa [attempt_of_deferred hread hset]
  | retry =>
    rw [if_neg (by decide)]
    simp only [hphase, retryRelayOutput, writeRelayState] at hset
    cases hbus : answer.bus.write systemService (relayStatePath operation.relayIndex) operation.targetState with
    | ok done =>
      rw [hbus] at hset
      exact holds_attempt_of_rewrite hread hrevision hne hset
        (parse_set_notBefore
          (parse_set_retries (parse_set_phase hparse .verify) (operation.retries + 1))
          (answer.now + operation.verifySettleSeconds))
    | error reason =>
      rw [hbus] at hset
      show HoldsOperation path operation (attemptRelaySet path files answer)
      rwa [attempt_of_deferred hread hset]
  | verify =>
    rw [if_pos rfl]
    simp only [hphase, verifyRelayOutput] at hset
    cases hbus : answer.bus.read systemService (relayStatePath operation.relayIndex) with
    | error reason =>
      rw [hbus] at hset
      exact readCommand_attempt_of_finished hread hrevision hne hset (by simp) rfl
    | ok value =>
      rw [hbus] at hset
      dsimp only at hset ⊢
      cases hmatches : relayStateMatches (binaryRelayState value) operation.targetState with
      | true =>
        rw [hmatches] at hset
        exact readCommand_attempt_of_finished hread hrevision hne hset (by simp) rfl
      | false =>
        rw [hmatches] at hset
        simp only [Bool.false_eq_true, if_false, relayMismatchOutcome, true_and] at hset ⊢
        by_cases hretries : operation.retries = 0
        · rw [if_pos hretries] at hset ⊢
          exact holds_attempt_of_rewrite hread hrevision hne hset
            (parse_set_notBefore (parse_set_phase hparse .retry)
              (answer.now + operation.verifyRetrySeconds))
        · rw [if_neg hretries] at hset ⊢
          exact readCommand_attempt_of_finished hread hrevision hne hset (by simp) rfl

/-- A step of a later phase stays at the candidate and does not come back to the manual function. -/
theorem laterStep_later {next : GxRelaySetOperation} (hmanual : operation.phase.manual = false)
    (h : operation.laterStep answer = some next) :
    next.phase.manual = false ∧ next.relayIndex = operation.relayIndex ∧
      next.manualTarget = operation.manualTarget := by
  unfold GxRelaySetOperation.laterStep at h
  split at h
  · split at h
    · nomatch h
    · split at h
      · obtain rfl := Option.some.inj h
        exact ⟨rfl, rfl, rfl⟩
      · nomatch h
  · split at h
    · obtain rfl := Option.some.inj h
      exact ⟨hmanual, rfl, rfl⟩
    · obtain rfl := Option.some.inj h
      exact ⟨rfl, rfl, rfl⟩

/-- What the file of a relay command holds after an attempt of a later phase: nothing, or the
operation in a later phase at the same candidate. -/
def LaterPhase (path : String) (operation : GxRelaySetOperation) (files : MailboxFiles) : Prop :=
  readCommand files path = none ∨ ∃ next, HoldsOperation path next files ∧
    next.phase.manual = false ∧ next.relayIndex = operation.relayIndex ∧
    next.manualTarget = operation.manualTarget

/-- The later phases do not come back to the manual function. -/
theorem later_attempt (answer : RelayAnswer) (hpath : path ≠ "") (hheld : HoldsOperation path operation files)
    (hmanual : operation.phase.manual = false) :
    LaterPhase path operation (attemptRelaySet path files answer) := by
  have hstep := later_attempt_step answer hpath hheld hmanual
  cases hnext : operation.laterStep answer with
  | none =>
    rw [hnext] at hstep
    exact .inl hstep
  | some next =>
    rw [hnext] at hstep
    exact .inr ⟨next, hstep, laterStep_later hmanual hnext⟩

end

/-! ## Runs of attempts -/

section

variable {files : MailboxFiles} {path : String} {relayIndex : Fin 2} {candidate : Nat}

/-- The file of a command for one relay: nothing, or an operation at one of the candidates. -/
def RelayFile (path : String) (relayIndex : Fin 2) (files : MailboxFiles) : Prop :=
  readCommand files path = none ∨ ∃ operation, HoldsOperation path operation files ∧
    operation.relayIndex = relayIndex ∧
    operation.manualTarget.val < (manualFunctionPaths relayIndex).length

variable {operation : GxRelaySetOperation}

omit [PyLib] in
/-- The fallback stays with the relay and its candidates. -/
theorem fallback_target (now : ℚ≥0)
    (hbound : operation.manualTarget.val < (manualFunctionPaths operation.relayIndex).length) :
    (operation.fallback now).relayIndex = operation.relayIndex ∧
      (operation.fallback now).manualTarget.val <
        (manualFunctionPaths operation.relayIndex).length := by
  unfold GxRelaySetOperation.fallback
  split
  · exact ⟨rfl, hbound⟩
  · refine ⟨rfl, ?_⟩
    show (operation.manualTarget + 1).val < _
    omega

/-- A step in a manual phase stays with the relay and its candidates. -/
theorem manualStep_target (target : String) (answer : RelayAnswer)
    (hbound : operation.manualTarget.val < (manualFunctionPaths operation.relayIndex).length) :
    (operation.manualStep target answer).relayIndex = operation.relayIndex ∧
      (operation.manualStep target answer).manualTarget.val <
        (manualFunctionPaths operation.relayIndex).length := by
  unfold GxRelaySetOperation.manualStep
  split
  · split
    · exact ⟨rfl, hbound⟩
    · exact fallback_target _ hbound
  · split
    · exact ⟨rfl, hbound⟩
    · exact fallback_target _ hbound

/-- Every attempt on the file of a relay command leaves such a file. -/
theorem relayFile_attempt (hpath : path ≠ "") (answer : RelayAnswer)
    (hfile : RelayFile path relayIndex files) :
    RelayFile path relayIndex (attemptRelaySet path files answer) := by
  rcases hfile with hnone | ⟨operation, hheld, rfl, hbound⟩
  · left
    unfold attemptRelaySet
    rw [hnone]
    exact hnone
  · cases hmanual : operation.phase.manual with
    | true =>
      have hnext := manual_attempt_step answer hpath hheld hmanual
        (List.getElem?_eq_getElem hbound)
      exact .inr ⟨_, hnext, manualStep_target _ answer hbound⟩
    | false =>
      rcases later_attempt answer hpath hheld hmanual with
        hnone | ⟨next, hnext, -, hindex, htarget⟩
      · exact .inl hnone
      · exact .inr ⟨next, hnext, hindex, by rw [htarget]; exact hbound⟩

/-- One candidate answers reads and accepts writes, and no other lets the command pass. -/
structure OnlyAnswers (relayIndex : Fin 2) (candidate : Nat) (bus : GxBus) : Prop where
  reads : ∀ target, (manualFunctionPaths relayIndex)[candidate]? = some target →
    ∃ value, bus.read settingsService target = .ok value
  writes : ∀ target, (manualFunctionPaths relayIndex)[candidate]? = some target →
    bus.write settingsService target manualFunctionValue = .ok ()
  fails : ∀ other target, other ≠ candidate →
    (manualFunctionPaths relayIndex)[other]? = some target →
    (∀ value, bus.read settingsService target = .ok value → manualFunctionSelected value = false) ∧
      ∃ reason, bus.write settingsService target manualFunctionValue = .error reason

/-- The file holds a command in its output phase. -/
def AtOutput (path : String) (files : MailboxFiles) : Prop :=
  ∃ operation, heldOperation files path = some operation ∧ operation.phase = .output

section

variable (path : String) (relayIndex : Fin 2) (candidate : Nat) (files : MailboxFiles)

/-- From this file on, whenever only this candidate answers, a bounded number of attempts brings the
command to its output phase. -/
def ReachesOutput :
    Prop :=
  ∃ bound : Nat, ∀ answers : List RelayAnswer, bound ≤ answers.length →
    (∀ answer ∈ answers, OnlyAnswers relayIndex candidate answer.bus) →
    ∃ before after, answers = before ++ after ∧ before.length ≤ bound ∧
      AtOutput path (run (attemptRelaySet path) files before)

/-- The file of a command that still tries candidates up to this one. -/
def TriesUpTo : Prop :=
  ∃ operation, HoldsOperation path operation files ∧ operation.relayIndex = relayIndex ∧
    operation.phase.manual = true ∧ operation.manualTarget.val ≤ candidate

/-- The file of a command that tries candidates behind this one only. -/
def TriesBehind :
    Prop :=
  ∃ operation, HoldsOperation path operation files ∧ operation.relayIndex = relayIndex ∧
    operation.phase.manual = true ∧ candidate < operation.manualTarget.val ∧
    operation.manualTarget.val < (manualFunctionPaths relayIndex).length

end

/-- The attempts that are left before the candidate has been read and written. -/
def attemptsLeft (path : String) (candidate : Nat) (files : MailboxFiles) : Nat :=
  match heldOperation files path with
  | some operation =>
    2 * (candidate - operation.manualTarget.val) + if operation.phase = .manualRead then 2 else 1
  | none => 0

omit [PyLib] in
theorem attemptsLeft_of_holds (candidate : Nat) (hheld : HoldsOperation path operation files) :
    attemptsLeft path candidate files = 2 * (candidate - operation.manualTarget.val) +
      if operation.phase = .manualRead then 2 else 1 := by
  unfold attemptsLeft
  rw [hheld.held]

omit [PyLib] in
/-- Before the last candidate, the fallback turns to the next one. -/
theorem fallback_next (now : ℚ≥0)
    (hnext : operation.manualTarget.val + 1 < (manualFunctionPaths operation.relayIndex).length) :
    (operation.fallback now).phase = .manualRead ∧
      (operation.fallback now).manualTarget.val = operation.manualTarget.val + 1 := by
  have hlength := length_manualFunctionPaths operation.relayIndex
  unfold GxRelaySetOperation.fallback
  rw [if_neg (by omega)]
  refine ⟨rfl, ?_⟩
  show (operation.manualTarget + 1).val = _
  omega

omit [PyLib] in
/-- The fallback never turns back. -/
theorem fallback_forward (now : ℚ≥0) (hmanual : operation.phase.manual = true) :
    (operation.fallback now).phase.manual = true ∧
      operation.manualTarget.val ≤ (operation.fallback now).manualTarget.val := by
  by_cases hlast : (manualFunctionPaths operation.relayIndex).length ≤ operation.manualTarget.val + 1
  · unfold GxRelaySetOperation.fallback
    rw [if_pos hlast]
    exact ⟨hmanual, le_rfl⟩
  · obtain ⟨hphase, hval⟩ := fallback_next now (not_le.mp hlast)
    exact ⟨by rw [hphase]; rfl, by omega⟩

/-- While only one candidate answers, an attempt at or before it comes to the output phase or closer
to the candidate. -/
theorem triesUpTo_attempt (hpath : path ≠ "")
    (hcandidate : candidate < (manualFunctionPaths relayIndex).length) {answer : RelayAnswer}
    (hfile : TriesUpTo path relayIndex candidate files)
    (honly : OnlyAnswers relayIndex candidate answer.bus) :
    AtOutput path (attemptRelaySet path files answer) ∨
    TriesUpTo path relayIndex candidate (attemptRelaySet path files answer) ∧
      attemptsLeft path candidate (attemptRelaySet path files answer) <
        attemptsLeft path candidate files := by
  obtain ⟨operation, hheld, rfl, hmanual, hle⟩ := hfile
  have hbound : operation.manualTarget.val < (manualFunctionPaths operation.relayIndex).length := by
    omega
  obtain ⟨target, htarget⟩ := exists_manualTarget hbound
  have hnext := manual_attempt_step answer hpath hheld hmanual htarget
  have hleft := attemptsLeft_of_holds candidate hheld
  -- A failed candidate lies before the one that answers, so that the next one exists.
  have hfallback : operation.manualTarget.val ≠ candidate →
      operation.manualStep target answer = operation.fallback answer.now →
      TriesUpTo path operation.relayIndex candidate (attemptRelaySet path files answer) ∧
        attemptsLeft path candidate (attemptRelaySet path files answer) <
          attemptsLeft path candidate files := by
    intro hne hstep
    rw [hstep] at hnext
    have hindex := (fallback_target answer.now hbound).1
    have hlast : operation.manualTarget.val + 1 <
        (manualFunctionPaths operation.relayIndex).length := by
      omega
    obtain ⟨hphase, hval⟩ := fallback_next answer.now hlast
    refine ⟨⟨_, hnext, hindex, by rw [hphase]; rfl, by omega⟩, ?_⟩
    rw [attemptsLeft_of_holds candidate hnext, hleft, hphase, hval, if_pos rfl]
    split <;> omega
  unfold GxRelaySetOperation.manualStep at hfallback hnext
  by_cases hphase : operation.phase = .manualRead
  · simp only [hphase, if_true] at hfallback hnext
    cases hread : answer.bus.read settingsService target with
    | error reason =>
      rw [hread] at hfallback
      refine .inr (hfallback ?_ rfl)
      intro heq
      obtain ⟨value, hvalue⟩ := honly.reads target (heq ▸ htarget)
      simp [hread] at hvalue
    | ok value =>
      simp only [hread] at hnext
      by_cases hselected : manualFunctionSelected value = true
      · rw [if_pos hselected] at hnext
        exact .inl ⟨_, hnext.held, rfl⟩
      · rw [if_neg hselected] at hnext
        refine .inr ⟨⟨_, hnext, rfl, rfl, hle⟩, ?_⟩
        rw [attemptsLeft_of_holds candidate hnext, hleft, if_pos hphase]
        show 2 * (candidate - operation.manualTarget.val) + 1 < _
        omega
  · simp only [hphase, if_false] at hfallback hnext
    cases hwrite : answer.bus.write settingsService target manualFunctionValue with
    | error reason =>
      rw [hwrite] at hfallback
      refine .inr (hfallback ?_ rfl)
      intro heq
      have hdone := honly.writes target (heq ▸ htarget)
      simp [hwrite] at hdone
    | ok done =>
      rw [hwrite] at hnext
      exact .inl ⟨_, hnext.held, rfl⟩

theorem triesBehind_attempt (hpath : path ≠ "") {answer : RelayAnswer}
    (hfile : TriesBehind path relayIndex candidate files)
    (honly : OnlyAnswers relayIndex candidate answer.bus) :
    TriesBehind path relayIndex candidate (attemptRelaySet path files answer) := by
  obtain ⟨operation, hheld, rfl, hmanual, hlt, hbound⟩ := hfile
  obtain ⟨target, htarget⟩ := exists_manualTarget hbound
  have hnext := manual_attempt_step answer hpath hheld hmanual htarget
  obtain ⟨hunselected, reason, hwrite⟩ := honly.fails _ target (by omega) htarget
  have hfallback : HoldsOperation path (operation.fallback answer.now)
      (attemptRelaySet path files answer) →
      TriesBehind path operation.relayIndex candidate (attemptRelaySet path files answer) := by
    intro hheld
    obtain ⟨hindex, hlast⟩ := fallback_target answer.now hbound
    obtain ⟨hphase, hforward⟩ := fallback_forward answer.now hmanual
    exact ⟨_, hheld, hindex, hphase, by omega, hlast⟩
  unfold GxRelaySetOperation.manualStep at hnext
  by_cases hphase : operation.phase = .manualRead
  · simp only [hphase, if_true] at hnext
    cases hread : answer.bus.read settingsService target with
    | error reason =>
      rw [hread] at hnext
      exact hfallback hnext
    | ok value =>
      simp only [hread, hunselected value hread] at hnext
      exact ⟨_, hnext, rfl, rfl, hlt, hbound⟩
  · simp only [hphase, if_false, hwrite] at hnext
    exact hfallback hnext

/-- A bus on which only one candidate answers. -/
def candidateBus (relayIndex : Fin 2) (candidate : Nat) : GxBus where
  read := fun _ target =>
    if (manualFunctionPaths relayIndex)[candidate]? = some target then .ok (.int manualFunctionValue)
    else .error "unreachable"
  write := fun _ target _ =>
    if (manualFunctionPaths relayIndex)[candidate]? = some target then .ok ()
    else .error "unreachable"

omit [PyLib] in
theorem nodup_manualFunctionPaths (index : Fin 2) : (manualFunctionPaths index).Nodup := by
  unfold manualFunctionPaths
  match index with
  | 0 => decide
  | 1 => decide

theorem onlyAnswers_candidateBus (relayIndex : Fin 2) (candidate : Nat) :
    OnlyAnswers relayIndex candidate (candidateBus relayIndex candidate) := by
  have hother : ∀ other target, other ≠ candidate →
      (manualFunctionPaths relayIndex)[other]? = some target →
      (manualFunctionPaths relayIndex)[candidate]? ≠ some target := by
    intro other target hne htarget hsame
    exact hne ((List.getElem?_inj (List.getElem?_eq_some_iff.mp htarget).1
      (nodup_manualFunctionPaths relayIndex)).mp (htarget.trans hsame.symm))
  constructor
  · intro target htarget
    exact ⟨_, if_pos htarget⟩
  · intro target htarget
    exact if_pos htarget
  · intro other target hne htarget
    refine ⟨fun value hread => ?_, _, if_neg (hother other target hne htarget)⟩
    simp [candidateBus, hother other target hne htarget] at hread

/-- A command that tries candidates behind this one never comes to its output phase while no other
candidate answers. -/
theorem not_output_of_triesBehind (hpath : path ≠ "")
    (hfile : TriesBehind path relayIndex candidate files) {answers : List RelayAnswer}
    (honly : ∀ answer ∈ answers, OnlyAnswers relayIndex candidate answer.bus) :
    ¬ AtOutput path (run (attemptRelaySet path) files answers) := by
  rintro ⟨operation, hheld, houtput⟩
  obtain ⟨held, hholds, -, hmanual, -, -⟩ := run_invariant_of_along
    (fun _ _ hbehind honly => triesBehind_attempt hpath hbehind honly) hfile
    (along_of_forall_mem (attemptRelaySet path) honly)
  rw [hholds.held] at hheld
  obtain rfl := Option.some.inj hheld
  simp [houtput, RelayPhase.manual] at hmanual

/-- A candidate that starts to answer brings a command to its output phase exactly when the command
has not passed it. -/
theorem reachesOutput_iff_of_holds (hpath : path ≠ "") (hheld : HoldsOperation path operation files)
    (hmanual : operation.phase.manual = true)
    (hbound : operation.manualTarget.val < (manualFunctionPaths operation.relayIndex).length)
    (hcandidate : candidate < (manualFunctionPaths operation.relayIndex).length) :
    ReachesOutput path operation.relayIndex candidate files ↔
      operation.manualTarget.val ≤ candidate := by
  constructor
  · rintro ⟨bound, hreach⟩
    by_contra hbehind
    have honly : ∀ answer ∈ List.replicate bound
        (⟨candidateBus operation.relayIndex candidate, 0⟩ : RelayAnswer),
        OnlyAnswers operation.relayIndex candidate answer.bus := by
      intro answer hanswer
      rw [List.eq_of_mem_replicate hanswer]
      exact onlyAnswers_candidateBus _ _
    obtain ⟨before, after, hsplit, -, houtput⟩ := hreach _ List.length_replicate.ge honly
    refine not_output_of_triesBehind hpath
      ⟨operation, hheld, rfl, hmanual, not_le.mp hbehind, hbound⟩ ?_ houtput
    intro answer hanswer
    exact honly answer (hsplit ▸ List.mem_append_left _ hanswer)
  · intro hle
    refine ⟨attemptsLeft path candidate files, fun answers hlen honly => ?_⟩
    have hpos : ∀ files, TriesUpTo path operation.relayIndex candidate files →
        0 < attemptsLeft path candidate files := by
      rintro files ⟨held, hholds, -⟩
      rw [attemptsLeft_of_holds candidate hholds]
      split <;> omega
    have hstep := fun (files : MailboxFiles) (answer : RelayAnswer)
        (hfile : TriesUpTo path operation.relayIndex candidate files)
        (honly : OnlyAnswers operation.relayIndex candidate answer.bus) =>
      triesUpTo_attempt hpath hcandidate hfile honly
    exact run_reaches (attemptsLeft path candidate) hpos hstep
      ⟨operation, hheld, rfl, hmanual, hle⟩ honly hlen

/-! ## From the mailbox to the output phase -/

variable {call : EnqueueCall}

/-- A relay command that is written to the mailbox is held by its file. -/
theorem holds_enqueue (hparse : parseGxRelaySet call.command = some operation)
    (hrevision : call.revision ≠ "")
    (hwrites : enqueueWrites gatewayCommandQueuePolicy files call = true) :
    HoldsOperation (enqueuePath gatewayCommandQueuePolicy call) operation
      (enqueueCommand gatewayCommandQueuePolicy files call).2 := by
  have hkeys : ∀ key ∈ relaySetKeys, key ∉ mailboxIdentityKeys ∧ key ≠ "deadline_s" ∧
      key ≠ "lifecycle_state" ∧ key ≠ "created_at" ∧ key ≠ "updated_at" := by
    decide
  have hpayload : ∀ key ∈ relaySetKeys,
      (enqueuePayload gatewayCommandQueuePolicy call).get? key = call.command.get? key := by
    intro key hkey
    rw [get?_enqueuePayload _ _ (hkeys key hkey).1,
      gatewayCommandQueuePolicy.get?_normalize _ _ (hkeys key hkey).2.1]
  have hkind := (hpayload "kind" (by decide)).trans (parseGxRelaySet_eq_some.mp hparse).1
  -- Only publications are merged.
  have hunmerged : ∀ existing base, gatewayCommandQueuePolicy.mergeCoalesced existing
      (enqueuePayload gatewayCommandQueuePolicy call) ≠ .ok (some base) := by
    intro existing base hmerge
    obtain ⟨kept, -, hsame, -, -⟩ := mergePublishFields_eq_some hmerge
    simp [samePublishFieldsPayload, commandText, hkind, orText, Value.truthy, Value.text,
      gxRelaySetKind, isPublishKind, publishEvcsFieldsKind, publishCompanionFieldsKind] at hsame
  unfold enqueueWrites at hwrites
  unfold enqueueCommand
  cases hresult : coalescedPayload gatewayCommandQueuePolicy files
      (enqueuePath gatewayCommandQueuePolicy call) (gatewayCommandQueuePolicy.normalize call.command)
      (enqueuePayload gatewayCommandQueuePolicy call) call.updatedNow with
  | error reason => simp [hresult] at hwrites
  | ok result =>
    cases result with
    | none => simp [hresult] at hwrites
    | some written =>
      have hsame : ∀ key, key ≠ "lifecycle_state" → key ≠ "created_at" → key ≠ "updated_at" →
          written.get? key = (enqueuePayload gatewayCommandQueuePolicy call).get? key := by
        intro key hstate hcreated hupdated
        rcases coalescedPayload_eq_some hresult with ⟨-, rfl⟩ | ⟨-, base, hbase, hmarked⟩
        · rfl
        · rw [get?_markCoalescedPayload hmarked hstate hcreated hupdated]
          rcases hbase with hmerged | ⟨-, rfl, -⟩
          · exact absurd hmerged (hunmerged _ _)
          · rfl
      simp only [hresult]
      refine ⟨written.setDefault "lifecycle_state" (.str "queued"), call.revision, ?_, ?_,
        hrevision, ?_⟩
      · rw [readCommand_eq_some, Dict.get?_set_self]
      · rw [Dict.get?_setDefault, if_neg (by decide),
          hsame mailboxRevisionField (by decide) (by decide) (by decide),
          revision_enqueuePayload]
      · rw [← hparse]
        apply parseGxRelaySet_congr
        intro key hkey
        obtain ⟨-, -, hstate, hcreated, hupdated⟩ := hkeys key hkey
        rw [Dict.get?_setDefault, if_neg (by simp [hstate]), hsame key hstate hcreated hupdated,
          hpayload key hkey]

/-- The file of a queued command. -/
def queuedPath (call : EnqueueCall) : String :=
  enqueuePath gatewayCommandQueuePolicy call.normalized

/-- The mailbox after a command was queued and attempted. -/
def attemptedFiles (files : MailboxFiles) (call : EnqueueCall) (answers : List RelayAnswer) :
    MailboxFiles :=
  run (attemptRelaySet (queuedPath call)) (enqueueGatewayCommand files call).2 answers

theorem queuedPath_ne_empty (call : EnqueueCall) : queuedPath call ≠ "" := by
  unfold queuedPath enqueuePath commandFilePath
  intro hempty
  have hlength := congrArg String.length hempty
  simp at hlength

theorem holds_enqueueGatewayCommand (files : MailboxFiles)
    (hparse : parseGxRelaySet call.command = some operation) (hrevision : call.revision ≠ "")
    (hwrites : enqueueWrites gatewayCommandQueuePolicy files call.normalized = true) :
    HoldsOperation (queuedPath call) operation (enqueueGatewayCommand files call).2 := by
  have hnormalized : parseGxRelaySet call.normalized.command = some operation :=
    (parseGxRelaySet_normalize call.command).trans hparse
  have hsize : oversizedPublication call.normalized.command = none := by
    have hkind := (parseGxRelaySet_eq_some.mp hnormalized).1
    simp [oversizedPublication, commandText, hkind, orText, Value.truthy, Value.text,
      gxRelaySetKind, isPublishKind, publishEvcsFieldsKind, publishCompanionFieldsKind]
  unfold enqueueGatewayCommand
  rw [hsize]
  exact holds_enqueue hnormalized hrevision hwrites

/-- Every attempt on a queued relay command finds it at one of the candidates, or finished. -/
theorem relayFile_attemptedFiles (files : MailboxFiles)
    (hparse : parseGxRelaySet call.command = some operation)
    (hbound : operation.manualTarget.val < (manualFunctionPaths operation.relayIndex).length)
    (hrevision : call.revision ≠ "")
    (hwrites : enqueueWrites gatewayCommandQueuePolicy files call.normalized = true)
    (answers : List RelayAnswer) :
    RelayFile (queuedPath call) operation.relayIndex (attemptedFiles files call answers) :=
  run_invariant (fun _ answer => relayFile_attempt (queuedPath_ne_empty call) answer)
    (.inr ⟨operation, holds_enqueueGatewayCommand files hparse hrevision hwrites, rfl, hbound⟩) answers

omit [PyLib] in
/-- What the file of a relay command holds, it holds with a revision and at a candidate. -/
theorem RelayFile.holds (hfile : RelayFile path relayIndex files)
    (hheld : heldOperation files path = some operation) :
    HoldsOperation path operation files ∧ operation.relayIndex = relayIndex ∧
      operation.manualTarget.val < (manualFunctionPaths relayIndex).length := by
  rcases hfile with hnone | ⟨held, hholds, hindex, hbound⟩
  · rw [heldOperation, hnone] at hheld
    exact absurd hheld (by simp)
  · rw [hholds.held] at hheld
    obtain rfl := Option.some.inj hheld
    exact ⟨hholds, hindex, hbound⟩

/-- After any attempts on a queued command that requires manual mode: a candidate that starts to
answer brings the command to its output phase exactly when the command has not passed it. -/
theorem relay_set_reaches_output_iff (files : MailboxFiles) (call : EnqueueCall)
    {contactMode : GxRelayContactMode} {enabled : Bool} {settle retry : ℚ≥0}
    (hcall : call.command = gxRelaySetCommand relayIndex contactMode enabled true settle retry)
    (hrevision : call.revision ≠ "")
    (hwrites : enqueueWrites gatewayCommandQueuePolicy files call.normalized = true)
    (answers : List RelayAnswer) {operation : GxRelaySetOperation}
    (hheld : heldOperation (attemptedFiles files call answers) (queuedPath call) = some operation)
    (hmanual : operation.phase.manual = true)
    (hcandidate : candidate < (manualFunctionPaths relayIndex).length) :
    ReachesOutput (queuedPath call) relayIndex candidate (attemptedFiles files call answers) ↔
      operation.manualTarget.val ≤ candidate := by
  have hparse := parse_gxRelaySetCommand relayIndex contactMode enabled true settle retry
  rw [← hcall] at hparse
  have hbound : 0 < (manualFunctionPaths relayIndex).length := by omega
  obtain ⟨hholds, rfl, htarget⟩ :=
    (relayFile_attemptedFiles files hparse hbound hrevision hwrites answers).holds hheld
  exact reachesOutput_iff_of_holds (queuedPath_ne_empty call) hholds hmanual htarget hcandidate

end

end

section

/-- A library with the digest of the relay command's key. -/
local instance relaySampleLib : PyLib :=
  { PyLib.sample with
    sha256Hex := fun _ => "7086ec946bb561e28e2e6a7935be09ebbf22ae73be10467c113ec999caabb6ed" }

/-- A command that opens relay 0, as it is queued. -/
def sampleRelayCall : EnqueueCall where
  command := gxRelaySetCommand 0 .normallyOpen false true 0 0
  createdNow := 100
  updatedNow := 100
  revision := "r1"
  uniqueId := "u1"

/-- No setting can be reached. -/
def unreachableBus : GxBus where
  read := fun _ _ => .error "offline"
  write := fun _ _ _ => .error "offline"

/-- The command after one read of the first setting has failed. -/
theorem held_after_failure :
    heldOperation (attemptedFiles Dict.empty sampleRelayCall [⟨unreachableBus, 100⟩])
      (queuedPath sampleRelayCall) =
        some { newGxRelaySetOperation 0 .normallyOpen false true 0 0 with manualTarget := 1 } := by
  decide +kernel

/-- After the first setting has failed, the second one is reached. -/
theorem relay_set_reaches_output_second :
    ReachesOutput (queuedPath sampleRelayCall) 0 1
      (attemptedFiles Dict.empty sampleRelayCall [⟨unreachableBus, 100⟩]) := by
  have hcall : sampleRelayCall.command = gxRelaySetCommand 0 .normallyOpen false true 0 0 := rfl
  exact (relay_set_reaches_output_iff Dict.empty sampleRelayCall hcall (by decide) (by decide +kernel) _
    held_after_failure rfl (by decide)).mpr le_rfl

/-- One failed read of the first setting is enough: when that setting answers again, the command
keeps trying the second one. -/
theorem relay_set_stuck_after_one_failure :
    ¬ ReachesOutput (queuedPath sampleRelayCall) 0 0
      (attemptedFiles Dict.empty sampleRelayCall [⟨unreachableBus, 100⟩]) := by
  have hparse : parseGxRelaySet sampleRelayCall.command =
      some (newGxRelaySetOperation 0 .normallyOpen false true 0 0) :=
    parse_gxRelaySetCommand 0 .normallyOpen false true 0 0
  obtain ⟨hholds, -, hbound⟩ := (relayFile_attemptedFiles Dict.empty hparse (by decide) (by decide)
    (by decide +kernel) [⟨unreachableBus, 100⟩]).holds held_after_failure
  have hiff : ReachesOutput (queuedPath sampleRelayCall) 0 0
      (attemptedFiles Dict.empty sampleRelayCall [⟨unreachableBus, 100⟩]) ↔ (1 : Fin 2).val ≤ 0 :=
    reachesOutput_iff_of_holds (queuedPath_ne_empty _) hholds rfl hbound (by decide)
  rw [hiff]
  decide

end

end VenusEvcharger
