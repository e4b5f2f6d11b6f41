import VenusEvcharger.DbusAdapter.RelaySetProgress

/-!
# Write discipline of a GX relay command

A `RelayHistory` follows the attempts on one queued command and counts what they did on the bus. `Ordered` relates
the history to the phase of the command: the manual function was dealt with before the output is written, and the
output is written at most once before each verification. `relay_writes_disciplined` reads the contract of every
attempt off it.

Scope: the attempts on the file of one command, as in its progress.
-/

namespace VenusEvcharger

open Library

section

variable [PyLib]

namespace GxRelaySetOperation

/-- The attempt reads the manual function and finds it selected. -/
def readsManual (operation : GxRelaySetOperation) (answer : RelayAnswer) : Bool :=
  match (manualFunctionPaths operation.relayIndex)[operation.manualTarget.val]? with
  | none => false
  | some target =>
    match answer.bus.read settingsService target with
    | .ok value => operation.phase = .manualRead && manualFunctionSelected value
    | .error _ => false

omit [PyLib] in
/-- The attempt sets the manual function, and the write is acknowledged. -/
def writesManual (operation : GxRelaySetOperation) (answer : RelayAnswer) : Bool :=
  match (manualFunctionPaths operation.relayIndex)[operation.manualTarget.val]? with
  | none => false
  | some target =>
    match answer.bus.write settingsService target manualFunctionValue with
    | .ok () => operation.phase = .manualWrite
    | .error _ => false

/-- The attempt writes the relay output. -/
def atOutput (operation : GxRelaySetOperation) : Bool :=
  operation.phase = .output || operation.phase = .retry

/-- The attempt writes the relay output, and the write is acknowledged. -/
def writesOutput (operation : GxRelaySetOperation) (answer : RelayAnswer) : Bool :=
  match answer.bus.write systemService (relayStatePath operation.relayIndex) operation.targetState with
  | .ok () => operation.atOutput
  | .error _ => false

end GxRelaySetOperation

/-- The file of a command with what the attempts on it did. -/
structure RelayHistory where
  files : MailboxFiles
  manualRead : Bool
  manualWritten : Bool
  outputWrites : Nat

namespace RelayHistory

variable (path : String)

/-- What an attempt reports, when there is a command and the attempt does not raise. -/
def attempt (h : RelayHistory) (answer : RelayAnswer) : Option RelayAttempt :=
  match readCommand h.files path with
  | none => none
  | some payload =>
    (setGxRelay h.files path (gatewayCommandQueuePolicy.normalize payload) answer.bus answer.now).toOption

/-- One attempt. -/
def step (h : RelayHistory) (answer : RelayAnswer) : RelayHistory where
  files := attemptRelaySet path h.files answer
  manualRead := h.manualRead || (heldOperation h.files path).any (·.readsManual answer)
  manualWritten := h.manualWritten || (heldOperation h.files path).any (·.writesManual answer)
  outputWrites :=
    h.outputWrites + if (heldOperation h.files path).any (·.writesOutput answer) then 1 else 0

/-- The contract of one attempt. -/
structure Disciplined (h : RelayHistory) (answer : RelayAnswer) : Prop where
  /-- Where manual mode is required, the output is written only after the manual function was read as selected or
  was set. -/
  manualFirst : ∀ operation, heldOperation h.files path = some operation → operation.ensureManual = true →
    operation.atOutput = true → (h.manualRead || h.manualWritten) = true
  /-- The cached state is the requested one, and the relay was just read in it. -/
  cached : ∀ attempt relayIndex source state, h.attempt path answer = some attempt →
    attempt.cache = some (.state relayIndex source state) →
      ∃ operation value, heldOperation h.files path = some operation ∧ relayIndex = operation.relayIndex ∧
        state = operation.targetState ∧
        answer.bus.read systemService (relayStatePath relayIndex) = .ok value ∧ binaryRelayState value = some state
  /-- The command is applied when the relay was just read in the requested state, or when the read failed and the
  error was noted. -/
  applied : ∀ attempt, h.attempt path answer = some attempt → attempt.outcome = .applied →
    ∃ operation, heldOperation h.files path = some operation ∧
      ((∃ value, answer.bus.read systemService (relayStatePath operation.relayIndex) = .ok value ∧
          binaryRelayState value = some operation.targetState) ∨
        ∃ error, answer.bus.read systemService (relayStatePath operation.relayIndex) = .error error ∧
          attempt.cache = some (.error operation.relayIndex
            (systemService ++ relayStatePath operation.relayIndex) error))
  /-- The output of a command is written twice at most. -/
  bounded : (h.step path answer).outputWrites ≤ 2

/-- How often the output was written in a phase. -/
def WritesOf (operation : GxRelaySetOperation) (writes : Nat) : Prop :=
  match operation.phase with
  | .manualRead | .manualWrite | .output => writes = 0 ∧ operation.retries = 0
  | .verify => writes = operation.retries + 1 ∧ operation.retries ≤ 1
  | .retry => writes = 1 ∧ operation.retries = 0

/-- The history of a command in order: it is finished, or its phase agrees with what was done. -/
structure Ordered (h : RelayHistory) : Prop where
  bounded : h.outputWrites ≤ 2
  phase : readCommand h.files path = none ∨ ∃ operation, HoldsOperation path operation h.files ∧
    operation.manualTarget.val < (manualFunctionPaths operation.relayIndex).length ∧
    WritesOf operation h.outputWrites ∧
    (operation.phase.manual = false → operation.ensureManual = true → (h.manualRead || h.manualWritten) = true)

end RelayHistory

/-! ## What an attempt reports -/

variable {files : MailboxFiles} {path : String} {operation : GxRelaySetOperation} {answer : RelayAnswer}

/-- A rewritten command is not applied, and nothing is cached. -/
theorem rewriteRelayCommand_reports (files : MailboxFiles) (path : String) (command : CommandPayload)
    (changes : List (String × Value)) :
    (rewriteRelayCommand files path command changes).outcome ≠ .applied ∧
      (rewriteRelayCommand files path command changes).cache = none := by
  unfold rewriteRelayCommand
  refine ⟨?_, rfl⟩
  dsimp only
  split_ifs <;> exact nofun

/-- Only a verification reports an applied command or caches a state. -/
theorem setGxRelay_reports {command : CommandPayload} {attempt : RelayAttempt}
    (hparse : parseGxRelaySet command = some operation)
    (hset : setGxRelay files path command answer.bus answer.now = .ok attempt) :
    (attempt.outcome ≠ .applied ∧ attempt.cache = none) ∨
      attempt = verifyRelayOutput files path command operation answer.bus answer.now := by
  unfold setGxRelay at hset
  rw [hparse] at hset
  dsimp only at hset
  split at hset
  · obtain rfl := Except.ok.inj hset
    exact .inl ⟨CommandOutcome.noConfusion, rfl⟩
  · cases hphase : operation.phase with
    | manualRead =>
      simp only [hphase, readManualFunction] at hset
      left
      split at hset
      · cases hset
      · split at hset
        · obtain rfl := Except.ok.inj hset
          exact rewriteRelayCommand_reports ..
        · obtain rfl := Except.ok.inj hset
          unfold manualFallback
          dsimp only
          split_ifs <;> exact rewriteRelayCommand_reports ..
    | manualWrite =>
      simp only [hphase, writeManualFunction] at hset
      left
      split at hset
      · cases hset
      · split at hset
        · obtain rfl := Except.ok.inj hset
          exact rewriteRelayCommand_reports ..
        · obtain rfl := Except.ok.inj hset
          unfold manualFallback
          dsimp only
          split_ifs <;> exact rewriteRelayCommand_reports ..
    | output =>
      simp only [hphase, writeRelayOutput, writeRelayState] at hset
      left
      obtain rfl := Except.ok.inj hset
      split
      · exact rewriteRelayCommand_reports ..
      · exact ⟨CommandOutcome.noConfusion, rfl⟩
    | retry =>
      simp only [hphase, retryRelayOutput, writeRelayState] at hset
      left
      obtain rfl := Except.ok.inj hset
      split
      · exact rewriteRelayCommand_reports ..
      · exact ⟨CommandOutcome.noConfusion, rfl⟩
    | verify =>
      simp only [hphase] at hset
      exact .inr (Except.ok.inj hset).symm

theorem verifyRelayOutput_reports {command : CommandPayload} {now : ℚ≥0} {bus : GxBus} :
    (∀ relayIndex source state, (verifyRelayOutput files path command operation bus now).cache =
        some (.state relayIndex source state) →
      relayIndex = operation.relayIndex ∧ state = operation.targetState ∧
        ∃ value, bus.read systemService (relayStatePath operation.relayIndex) = .ok value ∧
          binaryRelayState value = some operation.targetState) ∧
    ((verifyRelayOutput files path command operation bus now).outcome = .applied →
      (∃ value, bus.read systemService (relayStatePath operation.relayIndex) = .ok value ∧
          binaryRelayState value = some operation.targetState) ∨
        ∃ error, bus.read systemService (relayStatePath operation.relayIndex) = .error error ∧
          (verifyRelayOutput files path command operation bus now).cache = some (.error operation.relayIndex
            (systemService ++ relayStatePath operation.relayIndex) error)) := by
  unfold verifyRelayOutput
  dsimp only
  cases hread : bus.read systemService (relayStatePath operation.relayIndex) with
  | error error => exact ⟨nofun, fun _ => .inr ⟨error, rfl, rfl⟩⟩
  | ok value =>
    dsimp only
    cases hmatches : relayStateMatches (binaryRelayState value) operation.targetState with
    | true =>
      have hstate : binaryRelayState value = some operation.targetState := by
        simpa [relayStateMatches] using hmatches
      refine ⟨fun relayIndex source state hcache => ?_, fun _ => .inl ⟨value, rfl, hstate⟩⟩
      obtain ⟨rfl, -, rfl⟩ := RelayCacheUpdate.state.inj (Option.some.inj hcache)
      exact ⟨rfl, rfl, value, rfl, hstate⟩
    | false =>
      rw [if_neg Bool.false_ne_true]
      unfold relayMismatchOutcome
      split_ifs
      · have hreports := rewriteRelayCommand_reports files path command
          [("phase", .str RelayPhase.retry.text),
            ("not_before", .float (.fin (now + operation.verifyRetrySeconds)))]
        refine ⟨fun relayIndex source state hcache => ?_, fun happlied => absurd happlied hreports.1⟩
        nomatch hreports.2.symm.trans hcache
      · exact ⟨nofun, nofun⟩

namespace RelayHistory

variable {h : RelayHistory}

theorem attempt_reports {attempt : RelayAttempt} (hheld : HoldsOperation path operation h.files)
    (hattempt : h.attempt path answer = some attempt) :
    (attempt.outcome ≠ .applied ∧ attempt.cache = none) ∨ ∃ command,
      attempt = verifyRelayOutput h.files path command operation answer.bus answer.now := by
  obtain ⟨payload, -, hread, -, -, hparse⟩ := hheld
  rw [← parseGxRelaySet_normalize] at hparse
  unfold RelayHistory.attempt at hattempt
  rw [hread] at hattempt
  dsimp only at hattempt
  cases hset : setGxRelay h.files path (gatewayCommandQueuePolicy.normalize payload) answer.bus answer.now with
  | error reason =>
    rw [hset] at hattempt
    nomatch hattempt
  | ok result =>
    rw [hset] at hattempt
    obtain rfl := Option.some.inj hattempt
    rcases setGxRelay_reports hparse hset with hreports | hverify
    · exact .inl hreports
    · exact .inr ⟨_, hverify⟩

omit [PyLib] in
/-- The fallback stays before the output. -/
theorem fallback_phase (now : ℚ≥0) (hmanual : operation.phase.manual = true) :
    (operation.fallback now).retries = operation.retries ∧ (operation.fallback now).phase.manual = true ∧
      (operation.fallback now).ensureManual = operation.ensureManual := by
  unfold GxRelaySetOperation.fallback
  split_ifs
  · exact ⟨rfl, hmanual, rfl⟩
  · exact ⟨rfl, rfl, rfl⟩

variable (answer) in
theorem manualStep_phase {target : String} (hmanual : operation.phase.manual = true)
    (htarget : (manualFunctionPaths operation.relayIndex)[operation.manualTarget.val]? = some target) :
    (operation.manualStep target answer).retries = operation.retries ∧
      (operation.manualStep target answer).ensureManual = operation.ensureManual ∧
      ((operation.manualStep target answer).phase.manual = true ∨
        (operation.manualStep target answer).phase = .output ∧
          (operation.readsManual answer || operation.writesManual answer) = true) := by
  have hfallback := fallback_phase answer.now hmanual
  unfold GxRelaySetOperation.manualStep GxRelaySetOperation.readsManual GxRelaySetOperation.writesManual
  rw [htarget]
  dsimp only
  by_cases hphase : operation.phase = .manualRead
  · rw [if_pos hphase]
    cases hread : answer.bus.read settingsService target with
    | error reason => exact ⟨hfallback.1, hfallback.2.2, .inl hfallback.2.1⟩
    | ok value =>
      refine ⟨rfl, rfl, ?_⟩
      by_cases hselected : manualFunctionSelected value = true
      · exact .inr ⟨if_pos hselected, by simp [hphase, hselected]⟩
      · left
        show (if manualFunctionSelected value then RelayPhase.output else .manualWrite).manual = true
        rw [if_neg hselected]
        rfl
  · have hwritePhase : operation.phase = .manualWrite := by
      cases hcases : operation.phase <;> simp_all [RelayPhase.manual]
    rw [if_neg hphase]
    cases hwrite : answer.bus.write settingsService target manualFunctionValue with
    | error reason => exact ⟨hfallback.1, hfallback.2.2, .inl hfallback.2.1⟩
    | ok done => exact ⟨rfl, rfl, .inr ⟨rfl, by simp [hwritePhase]⟩⟩

omit [PyLib] in
theorem writesOf_of_manual {writes : Nat} (hmanual : operation.phase.manual = true ∨ operation.phase = .output) :
    WritesOf operation writes ↔ writes = 0 ∧ operation.retries = 0 := by
  unfold WritesOf
  cases hphase : operation.phase with
  | manualRead | manualWrite | output => rfl
  | verify | retry => simp [hphase, RelayPhase.manual] at hmanual

omit [PyLib] in
theorem writesOutput_of_manual (hmanual : operation.phase.manual = true) : operation.writesOutput answer = false := by
  unfold GxRelaySetOperation.writesOutput GxRelaySetOperation.atOutput
  split
  · cases hphase : operation.phase <;> simp_all [RelayPhase.manual]
  · rfl

theorem laterStep_writes {writes : Nat} {next : GxRelaySetOperation} (hmanual : operation.phase.manual = false)
    (hwrites : WritesOf operation writes) (hnext : operation.laterStep answer = some next) :
    WritesOf next (writes + if operation.writesOutput answer = true then 1 else 0) ∧
      next.ensureManual = operation.ensureManual := by
  unfold GxRelaySetOperation.laterStep at hnext
  unfold GxRelaySetOperation.writesOutput GxRelaySetOperation.atOutput
  cases hphase : operation.phase with
  | manualRead | manualWrite => simp [hphase, RelayPhase.manual] at hmanual
  | verify =>
    rw [if_pos hphase] at hnext
    split at hnext
    · cases hnext
    · split at hnext
      · rename_i value hread hretry
        obtain rfl := Option.some.inj hnext
        simp only [WritesOf, hphase] at hwrites ⊢
        refine ⟨⟨?_, hretry.2⟩, trivial⟩
        split <;> simp <;> omega
      · cases hnext
  | output | retry =>
    rw [if_neg (by simp [hphase])] at hnext
    cases hbus : answer.bus.write systemService (relayStatePath operation.relayIndex) operation.targetState with
    | error reason =>
      rw [hbus] at hnext
      obtain rfl := Option.some.inj hnext
      exact ⟨by simpa using hwrites, rfl⟩
    | ok done =>
      rw [hbus] at hnext
      obtain rfl := Option.some.inj hnext
      simp only [WritesOf, hphase] at hwrites ⊢
      refine ⟨⟨?_, ?_⟩, trivial⟩
      · simp [hwrites]
      · simp [hwrites]

omit [PyLib] in
/-- No phase has seen more than two writes, and a phase that writes at most one. -/
theorem writesOf_le {writes : Nat} (hwrites : WritesOf operation writes) :
    writes + (if operation.writesOutput answer = true then 1 else 0) ≤ 2 := by
  unfold GxRelaySetOperation.writesOutput GxRelaySetOperation.atOutput
  unfold WritesOf at hwrites
  cases hphase : operation.phase <;> rw [hphase] at hwrites <;> split <;> simp_all

omit [PyLib] in
theorem heldOperation_of_none (hnone : readCommand h.files path = none) : heldOperation h.files path = none := by
  rw [heldOperation, hnone]
  rfl

/-- Every attempt keeps the history in order. -/
theorem ordered_step (hpath : path ≠ "") (answer : RelayAnswer) (hordered : Ordered path h) :
    Ordered path (h.step path answer) := by
  obtain ⟨hbounded, hnone | ⟨operation, hheld, htarget, hwrites, hmanualFirst⟩⟩ := hordered
  · have hidle := heldOperation_of_none hnone
    refine ⟨?_, .inl ?_⟩
    · show h.outputWrites + (if (heldOperation h.files path).any (·.writesOutput answer) then 1 else 0) ≤ 2
      rw [hidle]
      exact hbounded
    · show readCommand (attemptRelaySet path h.files answer) path = none
      unfold attemptRelaySet
      rw [hnone]
      exact hnone
  · have hcount : (h.step path answer).outputWrites =
        h.outputWrites + if operation.writesOutput answer = true then 1 else 0 := by
      show h.outputWrites + (if (heldOperation h.files path).any (·.writesOutput answer) then 1 else 0) = _
      rw [hheld.held]
      rfl
    have hread : (h.step path answer).manualRead = (h.manualRead || operation.readsManual answer) := by
      show (h.manualRead || (heldOperation h.files path).any (·.readsManual answer)) = _
      rw [hheld.held]
      rfl
    have hwritten : (h.step path answer).manualWritten = (h.manualWritten || operation.writesManual answer) := by
      show (h.manualWritten || (heldOperation h.files path).any (·.writesManual answer)) = _
      rw [hheld.held]
      rfl
    refine ⟨hcount ▸ writesOf_le hwrites, ?_⟩
    -- In a manual phase the output has not been written; a later phase knows how often it was.
    cases hmanual : operation.phase.manual with
    | true =>
      obtain ⟨target, htargetPath⟩ := exists_manualTarget htarget
      obtain ⟨hindex, hbound⟩ := manualStep_target target answer htarget
      obtain ⟨hretries, hensure, hphase⟩ := manualStep_phase answer hmanual htargetPath
      have hzero := (writesOf_of_manual (.inl hmanual)).mp hwrites
      refine .inr ⟨_, manual_attempt_step answer hpath hheld hmanual htargetPath, hindex.symm ▸ hbound, ?_, ?_⟩
      · rw [hcount, writesOutput_of_manual hmanual,
          writesOf_of_manual (hphase.imp_right fun houtput => houtput.1), hretries]
        exact hzero
      · intro hlater _
        rcases hphase with hstill | ⟨-, hdone⟩
        · exact absurd (hstill.symm.trans hlater) Bool.true_eq_false.mp
        · rw [hread, hwritten]
          revert hdone
          cases operation.readsManual answer <;> cases operation.writesManual answer <;> simp
    | false =>
      have hstep := later_attempt_step answer hpath hheld hmanual
      cases hnext : operation.laterStep answer with
      | none =>
        rw [hnext] at hstep
        exact .inl hstep
      | some next =>
        rw [hnext] at hstep
        obtain ⟨hstill, hindex, hcandidate⟩ := laterStep_later hmanual hnext
        obtain ⟨hphase, hensure⟩ := laterStep_writes hmanual hwrites hnext
        refine .inr ⟨next, hstep, by rw [hindex, hcandidate]; exact htarget, hcount.symm ▸ hphase, fun _ he => ?_⟩
        have hfirst := hmanualFirst hmanual (hensure ▸ he)
        rw [hread, hwritten]
        revert hfirst
        cases h.manualRead <;> cases h.manualWritten <;> simp

/-- In order, every attempt keeps the contract. -/
theorem disciplined_step (hpath : path ≠ "") (answer : RelayAnswer) (hordered : Ordered path h) :
    Disciplined path h answer := by
  have hbounded := (ordered_step hpath answer hordered).bounded
  obtain ⟨-, hnone | ⟨held, hheld, -, -, hmanualFirst⟩⟩ := hordered
  · have hidle := heldOperation_of_none hnone
    have hattempt : h.attempt path answer = none := by
      unfold RelayHistory.attempt
      rw [hnone]
    refine ⟨?_, ?_, ?_, hbounded⟩
    · intro operation hoperation
      rw [hidle] at hoperation
      cases hoperation
    · intro attempt relayIndex source state hmade
      cases hattempt.symm.trans hmade
    · intro attempt hmade
      cases hattempt.symm.trans hmade
  · refine ⟨?_, ?_, ?_, hbounded⟩
    · intro operation hoperation hensure houtput
      obtain rfl := Option.some.inj (hheld.held.symm.trans hoperation)
      refine hmanualFirst ?_ hensure
      unfold GxRelaySetOperation.atOutput at houtput
      cases hphase : held.phase <;> simp_all [RelayPhase.manual]
    · intro attempt relayIndex source state hattempt hcache
      rcases attempt_reports hheld hattempt with ⟨-, hempty⟩ | ⟨command, rfl⟩
      · cases hempty.symm.trans hcache
      · obtain ⟨rfl, rfl, value, hvalue, hstate⟩ := verifyRelayOutput_reports.1 relayIndex source state hcache
        exact ⟨held, value, hheld.held, rfl, rfl, hvalue, hstate⟩
    · intro attempt hattempt happlied
      rcases attempt_reports hheld hattempt with ⟨hnot, -⟩ | ⟨command, rfl⟩
      · exact absurd happlied hnot
      · exact ⟨held, hheld.held, verifyRelayOutput_reports.2 happlied⟩

/-- A relay command that was just queued. -/
def start (files : MailboxFiles) (call : EnqueueCall) : RelayHistory :=
  ⟨(enqueueGatewayCommand files call).2, false, false, 0⟩

/-- All attempts on a queued relay command keep the contract. -/
theorem relay_writes_disciplined (files : MailboxFiles) (call : EnqueueCall) {relayIndex : Fin 2}
    {contactMode : GxRelayContactMode} {enabled ensureManual : Bool} {settle retry : ℚ≥0}
    (hcall : call.command = gxRelaySetCommand relayIndex contactMode enabled ensureManual settle retry)
    (hrevision : call.revision ≠ "")
    (hwrites : enqueueWrites gatewayCommandQueuePolicy files call.normalized = true) (answers : List RelayAnswer) :
    Along (step (queuedPath call)) (Disciplined (queuedPath call)) (start files call) answers := by
  have hparse := parse_gxRelaySetCommand relayIndex contactMode enabled ensureManual settle retry
  rw [← hcall] at hparse
  have hheld := holds_enqueueGatewayCommand files hparse hrevision hwrites
  have hordered : Ordered (queuedPath call) (start files call) := by
    refine ⟨Nat.zero_le _, .inr ⟨_, hheld, ?_, ?_, ?_⟩⟩
    · show 0 < (manualFunctionPaths relayIndex).length
      unfold manualFunctionPaths
      dsimp only
      split_ifs <;> exact Nat.succ_pos _
    · refine (writesOf_of_manual ?_).mpr ⟨rfl, rfl⟩
      cases ensureManual with
      | true => exact .inl rfl
      | false => exact .inr rfl
    · intro hphase hensure
      obtain rfl : ensureManual = true := hensure
      nomatch hphase
  have hpath := queuedPath_ne_empty call
  refine along_of_invariant (fun h answer hh _ => ordered_step hpath answer hh)
    (fun h answer hh _ => disciplined_step hpath answer hh) hordered
    (along_of_forall_mem _ fun answer hanswer => hanswer)

end RelayHistory

end

section

local instance disciplineSampleLib : PyLib :=
  { PyLib.sample with
    sha256Hex := fun _ => "7086ec946bb561e28e2e6a7935be09ebbf22ae73be10467c113ec999caabb6ed" }

namespace RelayHistory

/-- The manual function is not selected, and every write is acknowledged. -/
def unselectedBus : GxBus where
  read := fun _ _ => .ok (.int 0)
  write := fun _ _ _ => .ok ()

theorem relay_writes_disciplined_unselected :
    Along (step (queuedPath sampleRelayCall)) (Disciplined (queuedPath sampleRelayCall))
      (start Dict.empty sampleRelayCall) (List.replicate 4 ⟨unselectedBus, 100⟩) :=
  have hcall : sampleRelayCall.command = gxRelaySetCommand 0 .normallyOpen false true 0 0 := rfl
  relay_writes_disciplined Dict.empty sampleRelayCall hcall (by decide) (by decide +kernel) _

/-- The output is written although no read has found the manual function selected, and a verification that cannot be
read applies the command. -/
theorem output_without_manual_read :
    (run (step (queuedPath sampleRelayCall)) (start Dict.empty sampleRelayCall)
        (List.replicate 3 ⟨unselectedBus, 100⟩)).manualRead = false ∧
      (run (step (queuedPath sampleRelayCall)) (start Dict.empty sampleRelayCall)
        (List.replicate 3 ⟨unselectedBus, 100⟩)).outputWrites = 1 ∧
      ((run (step (queuedPath sampleRelayCall)) (start Dict.empty sampleRelayCall)
        (List.replicate 3 ⟨unselectedBus, 100⟩)).attempt (queuedPath sampleRelayCall) ⟨unreachableBus, 100⟩).map
          (·.outcome) = some .applied := by
  decide +kernel

end RelayHistory

end

end VenusEvcharger
