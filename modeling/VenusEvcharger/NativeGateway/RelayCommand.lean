import VenusEvcharger.Library.Run
import VenusEvcharger.NativeGateway.Executor

/-!
# One relay command on the bus

A `gx_relay_set_enabled` command is taken on by `start`; then the gateway polls the executor for operations, hands
them to the broker, and feeds the results back until the executor reports an outcome. The broker has one operation in
flight, so a result answers the operation that was handed over last.

`history` keeps the finished exchanges of one command. `Reached` says for each stage what the exchanges before it
were, and everything that an outcome implies is read off it (`relay_command_sound`).

Scope: the readings compare bits, so a negative zero is an answer without a number here.
-/

namespace VenusEvcharger.NativeGateway

open Library

/-! ## The executor -/

/-- `CommandExecutor` without its settings. -/
structure CommandExecutor where
  active : Option ActiveCommand
  relayStates : Fin 2 → Option Int
  relayObservedAt : Fin 2 → Option ℚ

namespace CommandExecutor

/-- `start`. -/
def start (executor : CommandExecutor) (path : String) (payload : JsonMap) (epoch now : ℚ) :
    Except String (Option CommandOutcome × CommandExecutor) :=
  if executor.active.isSome then .ok (none, executor)
  else
    match startCommand path payload epoch now with
    | .error error => .error error
    | .ok (.inl outcome) => .ok (some outcome, executor)
    | .ok (.inr active) => .ok (none, { executor with active := some active })

/-- `next_operation`, which marks the operation as awaited. -/
def nextOperation (executor : CommandExecutor) (settings : ExecutorSettings) (now : ℚ) :
    Except String (Option DbusOperation × CommandExecutor) :=
  match executor.active with
  | none => .ok (none, executor)
  | some active =>
    if active.awaiting = true ∨ now < active.notBefore then .ok (none, executor)
    else
      match operationFor settings active with
      | .error error => .error error
      | .ok operation => .ok (some operation, { executor with active := some { active with awaiting := true } })

/-- `stage_observed_relay`. -/
def stageObservedRelay : Stage → Option (Fin 2)
  | .relayRefresh relay | .relayVerify relay _ => some relay
  | _ => none

/-- What `transition` writes to `relay_states`. A verification reads the target before it stores the value. -/
def observedRelayStates (active : ActiveCommand) (answer : DbusAnswer) (states : Fin 2 → Option Int) :
    Fin 2 → Option Int :=
  match active.stage, binaryValue answer, relayTarget active.payload with
  | .relayRefresh relay, .ok observed, _ => Function.update states relay observed
  | .relayVerify relay _, .ok observed, .ok _ => Function.update states relay observed
  | _, _, _ => states

/-- `handle_result` at the time `now`. -/
def handleResult (executor : CommandExecutor) (answer : DbusAnswer) (now : ℚ) :
    CommandExecutor × Except String (Option CommandOutcome) :=
  match executor.active with
  | none => (executor, .error "command result arrived without an active command")
  | some active =>
    let relayStates := observedRelayStates active answer executor.relayStates
    match transition active answer now with
    | .error error => ({ executor with active := none, relayStates := relayStates }, .error error)
    | .ok result =>
      let relayObservedAt :=
        match answer, stageObservedRelay active.stage with
        | .error _, _ => executor.relayObservedAt
        | _, some relay =>
          if (relayStates relay).isSome then Function.update executor.relayObservedAt relay (some now)
          else executor.relayObservedAt
        | _, none => executor.relayObservedAt
      match result with
      | .next stage notBefore =>
        ({ active := some { active with stage := stage, notBefore := notBefore, awaiting := false }
           relayStates := relayStates
           relayObservedAt := relayObservedAt }, .ok none)
      | .done outcome =>
        ({ active := none, relayStates := relayStates, relayObservedAt := relayObservedAt }, .ok (some outcome))

end CommandExecutor

/-! ## One command and its exchanges -/

/-- An operation and its answer. -/
structure Exchange where
  operation : DbusOperation
  answer : DbusAnswer

/-- How a command ends: with an outcome, or with an error that drops it. -/
abbrev CommandEnd := Except String CommandOutcome

/-- The executor during a command, the operation that the broker works on, the exchanges so far, and the end. -/
structure CommandState where
  executor : CommandExecutor
  inFlight : Option DbusOperation
  history : List Exchange
  reported : Option CommandEnd

/-- What the gateway does. A poll may find that the operation cannot be handed over
(`operation_submission_failed`). -/
inductive ExecutorEvent where
  | poll (now : ℚ) (submitted : Bool)
  | result (answer : DbusAnswer) (now : ℚ)

namespace CommandState

/-- One event. A contract error in `next_operation` abandons the command. -/
def step (settings : ExecutorSettings) (s : CommandState) : ExecutorEvent → CommandState
  | .poll now submitted =>
    match s.executor.nextOperation settings now with
    | .error error =>
      { s with executor := { s.executor with active := none }, reported := some (.error error) }
    | .ok (none, _) => s
    | .ok (some operation, executor) =>
      if submitted then { s with executor := executor, inFlight := some operation } else s
  | .result answer now =>
    match s.inFlight with
    | none => s
    | some operation =>
      let handled := s.executor.handleResult answer now
      { executor := handled.1
        inFlight := none
        history := s.history ++ [⟨operation, answer⟩]
        reported :=
          match handled.2 with
          | .ok none => s.reported
          | .ok (some outcome) => some (.ok outcome)
          | .error error => some (.error error) }

/-- The operations handed to the broker so far. -/
def submitted (s : CommandState) : List DbusOperation := s.history.map (·.operation) ++ s.inFlight.toList

end CommandState

/-! ## What the exchanges mean -/

/-- A write to the output of the relay. -/
def DbusOperation.isOutput (relay : Fin 2) : DbusOperation → Bool
  | .write service path _ => service == "com.victronenergy.system" && path == relayStatePath relay
  | _ => false

/-- The write was answered with a write code. The executor looks at no code, so every code counts. -/
def Acknowledged (answer : DbusAnswer) : Prop := ∃ code, answer = .writeCode code

section Exchanges

variable (relay : Fin 2) (payload : JsonMap)

/-- The manual function was read as manual, or a manual write was acknowledged. -/
def MadeManual (history : List Exchange) : Prop :=
  ∃ x ∈ history, ∃ path ∈ manualPaths relay,
    (x.operation = .read "com.victronenergy.settings" path ∧ numericValue x.answer = .ok (some 2)) ∨
    (x.operation = .write "com.victronenergy.settings" path (.i32 2) ∧ Acknowledged x.answer)

/-- An acknowledged write of the target to the output. -/
def WroteOutput (x : Exchange) : Prop :=
  (∃ target, relayTarget payload = .ok target ∧
    x.operation = .write "com.victronenergy.system" (relayStatePath relay) (.i32 target)) ∧ Acknowledged x.answer

/-- A read of the relay state. -/
def IsVerification (x : Exchange) : Prop := x.operation = .read "com.victronenergy.system" (relayStatePath relay)

/-- A verification that equals the target. -/
def Confirmed (x : Exchange) : Prop :=
  IsVerification relay x ∧ ∃ target, relayTarget payload = .ok target ∧ binaryValue x.answer = .ok (some target)

/-- A verification that differs from the target. -/
def Differed (x : Exchange) : Prop :=
  IsVerification relay x ∧ ∃ target observed, relayTarget payload = .ok target ∧ binaryValue x.answer = .ok observed ∧
    observed ≠ some target

/-- A verification that failed on the bus. -/
def VerificationFailed (x : Exchange) : Prop := IsVerification relay x ∧ ∃ error, x.answer = .error error

/-- The exchanges before the first output write. -/
def Cleared (front : List Exchange) : Prop :=
  (∀ x ∈ front, x.operation.isOutput relay = false) ∧
    (strictBool payload "ensure_manual" = .ok true → MadeManual relay front)

/-- What happened before a stage. -/
inductive Reached : Stage → List Exchange → Prop where
  | manualRead {candidate front} (hcandidate : candidate < (manualPaths relay).length)
      (hquiet : ∀ x ∈ front, x.operation.isOutput relay = false) : Reached (.relayManualRead relay candidate) front
  | manualWrite {candidate front} (hcandidate : candidate < (manualPaths relay).length)
      (hquiet : ∀ x ∈ front, x.operation.isOutput relay = false) : Reached (.relayManualWrite relay candidate) front
  | output {front} (hcleared : Cleared relay payload front) : Reached (.relayOutput relay 0) front
  | verify {front x} (hcleared : Cleared relay payload front) (hwrote : WroteOutput relay payload x) :
      Reached (.relayVerify relay 0) (front ++ [x])
  | outputAgain {front x y} (hcleared : Cleared relay payload front) (hwrote : WroteOutput relay payload x)
      (hdiffered : Differed relay payload y) : Reached (.relayOutput relay 1) (front ++ [x, y])
  | verifyAgain {front x y z} (hcleared : Cleared relay payload front) (hwrote : WroteOutput relay payload x)
      (hdiffered : Differed relay payload y) (hagain : WroteOutput relay payload z) :
      Reached (.relayVerify relay 1) (front ++ [x, y, z])

/-- What happened before an outcome. -/
def Reported (history : List Exchange) : CommandOutcome → Prop
  | .applied => ∃ front x y, history = front ++ [x, y] ∧ WroteOutput relay payload x ∧
      (Confirmed relay payload y ∨ VerificationFailed relay y)
  | .dropped => ∃ front x y z w, history = front ++ [x, y, z, w] ∧ WroteOutput relay payload x ∧
      Differed relay payload y ∧ WroteOutput relay payload z ∧ Differed relay payload w
  | .deferred => True

/-- A transition whose stage or outcome is accounted for. -/
def Accounted (history : List Exchange) : Transition → Prop
  | .next stage _ => Reached relay payload stage history
  | .done outcome => Reported relay payload history outcome

end Exchanges

/-! ## Operations of the stages -/

section Operations

variable {settings : ExecutorSettings} {active : ActiveCommand} {operation : DbusOperation} {relay : Fin 2}
  {candidate retry : Nat}

theorem manualPath_eq (hcandidate : candidate < (manualPaths relay).length) :
    ((manualPaths relay)[candidate]?).getD "" = (manualPaths relay)[candidate] := by
  rw [List.getElem?_eq_getElem hcandidate, Option.getD_some]

theorem operation_manualRead (hstage : active.stage = .relayManualRead relay candidate)
    (hcandidate : candidate < (manualPaths relay).length) (h : operationFor settings active = .ok operation) :
    ∃ path ∈ manualPaths relay, operation = .read "com.victronenergy.settings" path := by
  rw [operationFor, hstage] at h
  refine ⟨(manualPaths relay)[candidate], List.getElem_mem _, ?_⟩
  rw [← Except.ok.inj h]
  exact congrArg (DbusOperation.read _) (manualPath_eq hcandidate)

theorem operation_manualWrite (hstage : active.stage = .relayManualWrite relay candidate)
    (hcandidate : candidate < (manualPaths relay).length) (h : operationFor settings active = .ok operation) :
    ∃ path ∈ manualPaths relay, operation = .write "com.victronenergy.settings" path (.i32 2) := by
  rw [operationFor, hstage] at h
  refine ⟨(manualPaths relay)[candidate], List.getElem_mem _, ?_⟩
  rw [← Except.ok.inj h]
  exact congrArg (fun path => DbusOperation.write _ path (.i32 2)) (manualPath_eq hcandidate)

theorem operation_output (hstage : active.stage = .relayOutput relay retry)
    (h : operationFor settings active = .ok operation) :
    ∃ target, relayTarget active.payload = .ok target ∧
      operation = .write "com.victronenergy.system" (relayStatePath relay) (.i32 target) := by
  rw [operationFor, hstage] at h
  obtain ⟨target, htarget, h⟩ := bind_eq_ok.mp h
  exact ⟨target, htarget, (Except.ok.inj h).symm⟩

theorem operation_verify (hstage : active.stage = .relayVerify relay retry)
    (h : operationFor settings active = .ok operation) :
    operation = .read "com.victronenergy.system" (relayStatePath relay) := by
  rw [operationFor, hstage] at h
  exact (Except.ok.inj h).symm

end Operations

/-! ## One answer -/

section Answers

variable {settings : ExecutorSettings} {active : ActiveCommand} {operation : DbusOperation}
  {answer : DbusAnswer}
  {relay : Fin 2} {payload : JsonMap} {history : List Exchange} {now : ℚ}

/-- The stages of a relay. -/
def Stage.isRelay : Stage → Bool
  | .relayRefresh _ | .relayManualRead _ _ | .relayManualWrite _ _ | .relayOutput _ _ | .relayVerify _ _ => true
  | _ => false

theorem transition_error (error : String) : transition active (.error error) now = .ok (transitionError active) := rfl

theorem transition_relay (hanswer : ∀ error, answer ≠ .error error) (hstage : active.stage.isRelay = true) :
    transition active answer now = transitionRelay active answer now := by
  cases answer with
  | error error => exact absurd rfl (hanswer error)
  | names | value | writeCode | xml =>
    unfold NativeGateway.transition
    dsimp only
    cases hkind : active.stage with
    | relayRefresh | relayManualRead | relayManualWrite | relayOutput | relayVerify => rfl
    | essWrite | shellyDiscover | shellyIdentify | shellyEnabled | shellyDisable =>
      rw [hkind] at hstage
      nomatch hstage

theorem writeCode_eq_ok {code : Int} (h : writeCode answer = .ok code) : Acknowledged answer := by
  unfold writeCode at h
  split at h
  · exact ⟨_, rfl⟩
  · nomatch h
  · nomatch h

theorem quiet_append {front : List Exchange} {x : Exchange} (hfront : ∀ x ∈ front, x.operation.isOutput relay = false)
    (hx : x.operation.isOutput relay = false) : ∀ y ∈ front ++ [x], y.operation.isOutput relay = false := by
  intro y hy
  rcases List.mem_append.mp hy with hy | hy
  · exact hfront y hy
  · rw [List.mem_singleton.mp hy]
    exact hx

theorem isOutput_settings_read (path : String) :
    (DbusOperation.read "com.victronenergy.settings" path).isOutput relay = false := rfl

theorem isOutput_settings_write (path : String) (value : BusValue) :
    (DbusOperation.write "com.victronenergy.settings" path value).isOutput relay = false := by
  have hservice : ("com.victronenergy.settings" == "com.victronenergy.system") = false := by decide
  rw [DbusOperation.isOutput, hservice, Bool.false_and]

/-- A failed attempt at one path of the manual function leads to the next path or defers the command. -/
theorem accounted_nextCandidate {candidate : Nat} (hquiet : ∀ x ∈ history, x.operation.isOutput relay = false) :
    Accounted relay payload history (if candidate + 1 < (manualPaths relay).length then
      .next (.relayManualRead relay (candidate + 1)) active.notBefore else .done .deferred) := by
  split
  · rename_i hnext
    exact Reached.manualRead hnext hquiet
  · trivial

/-- An error of the bus keeps the account of the exchanges. -/
theorem Reached.transitionError (h : Reached relay payload active.stage history)
    (hoperation : operationFor settings active = .ok operation) (error : String) :
    Accounted relay payload (history ++ [⟨operation, .error error⟩]) (NativeGateway.transitionError active) := by
  unfold NativeGateway.transitionError
  generalize hstage : active.stage = stage at h
  cases h with
  | manualRead hcandidate hquiet =>
    obtain ⟨path, -, rfl⟩ := operation_manualRead hstage hcandidate hoperation
    exact accounted_nextCandidate (quiet_append hquiet (isOutput_settings_read path))
  | manualWrite hcandidate hquiet =>
    obtain ⟨path, -, rfl⟩ := operation_manualWrite hstage hcandidate hoperation
    exact accounted_nextCandidate (quiet_append hquiet (isOutput_settings_write path _))
  | output hcleared => trivial
  | outputAgain hcleared hwrote hdiffered => trivial
  | @verify front x hcleared hwrote =>
    refine ⟨front, x, ⟨operation, .error error⟩, by rw [List.append_assoc]; rfl, hwrote, .inr ⟨?_, error, rfl⟩⟩
    exact operation_verify hstage hoperation
  | @verifyAgain front x y z hcleared hwrote hdiffered hagain =>
    refine ⟨front ++ [x, y], z, ⟨operation, .error error⟩, by simp, hagain, .inr ⟨?_, error, rfl⟩⟩
    exact operation_verify hstage hoperation

theorem wroteOutput_of_result {retry : Nat} (hstage : active.stage = .relayOutput relay retry)
    (hpayload : active.payload = payload) (hoperation : operationFor settings active = .ok operation) {code : Int}
    (hcode : writeCode answer = .ok code) : WroteOutput relay payload ⟨operation, answer⟩ := by
  obtain ⟨target, htarget, hop⟩ := operation_output hstage hoperation
  exact ⟨⟨target, hpayload ▸ htarget, hop⟩, writeCode_eq_ok hcode⟩

theorem Reached.transitionRelay (h : Reached relay payload active.stage history) (hpayload : active.payload = payload)
    (hoperation : operationFor settings active = .ok operation) {result : Transition}
    (hresult : NativeGateway.transitionRelay active answer now = .ok result) :
    Accounted relay payload (history ++ [⟨operation, answer⟩]) result := by
  unfold NativeGateway.transitionRelay at hresult
  generalize hstage : active.stage = stage at h hresult
  -- Each stage was reached by the exchanges before it, and the answer adds one to them.
  cases h with
  | manualRead hcandidate hquiet =>
    obtain ⟨value, hvalue, hresult⟩ := bind_eq_ok.mp hresult
    obtain ⟨path, hpath, rfl⟩ := operation_manualRead hstage hcandidate hoperation
    have hquiet := quiet_append hquiet (x := ⟨_, answer⟩) (isOutput_settings_read path)
    rw [← Except.ok.inj hresult]
    by_cases hmanual : value = some 2
    · rw [if_pos hmanual]
      refine Reached.output ⟨hquiet, fun _ => ?_⟩
      exact ⟨_, List.mem_append_right _ (List.mem_singleton_self _), path, hpath, .inl ⟨rfl, hmanual ▸ hvalue⟩⟩
    · rw [if_neg hmanual]
      exact Reached.manualWrite hcandidate hquiet
  | manualWrite hcandidate hquiet =>
    obtain ⟨code, hcode, hresult⟩ := bind_eq_ok.mp hresult
    obtain ⟨path, hpath, rfl⟩ := operation_manualWrite hstage hcandidate hoperation
    rw [← Except.ok.inj hresult]
    refine Reached.output ⟨quiet_append hquiet (isOutput_settings_write path _), fun _ => ?_⟩
    exact ⟨_, List.mem_append_right _ (List.mem_singleton_self _), path, hpath, .inr ⟨rfl, writeCode_eq_ok hcode⟩⟩
  | output hcleared =>
    obtain ⟨code, hcode, hresult⟩ := bind_eq_ok.mp hresult
    obtain ⟨settle, -, hresult⟩ := bind_eq_ok.mp hresult
    rw [← Except.ok.inj hresult]
    exact Reached.verify hcleared (wroteOutput_of_result hstage hpayload hoperation hcode)
  | @outputAgain front x y hcleared hwrote hdiffered =>
    obtain ⟨code, hcode, hresult⟩ := bind_eq_ok.mp hresult
    obtain ⟨settle, -, hresult⟩ := bind_eq_ok.mp hresult
    rw [← Except.ok.inj hresult]
    have hagain := wroteOutput_of_result hstage hpayload hoperation hcode
    have hhistory : front ++ [x, y] ++ [⟨operation, answer⟩] = front ++ [x, y, ⟨operation, answer⟩] := by simp
    rw [hhistory]
    exact Reached.verifyAgain hcleared hwrote hdiffered hagain
  | @verify front x hcleared hwrote =>
    obtain ⟨observed, hobserved, hresult⟩ := bind_eq_ok.mp hresult
    obtain ⟨target, htarget, hresult⟩ := bind_eq_ok.mp hresult
    rw [hpayload] at htarget
    have hread := operation_verify hstage hoperation
    have hhistory : front ++ [x] ++ [⟨operation, answer⟩] = front ++ [x, ⟨operation, answer⟩] := by simp
    rw [hhistory]
    by_cases hsame : observed = some target
    · rw [if_pos hsame] at hresult
      rw [← Except.ok.inj hresult]
      exact ⟨front, x, _, rfl, hwrote, .inl ⟨hread, target, htarget, hsame ▸ hobserved⟩⟩
    · rw [if_neg hsame, if_pos rfl] at hresult
      obtain ⟨delay, -, hresult⟩ := bind_eq_ok.mp hresult
      rw [← Except.ok.inj hresult]
      exact Reached.outputAgain hcleared hwrote ⟨hread, target, observed, htarget, hobserved, hsame⟩
  | @verifyAgain front x y z hcleared hwrote hdiffered hagain =>
    obtain ⟨observed, hobserved, hresult⟩ := bind_eq_ok.mp hresult
    obtain ⟨target, htarget, hresult⟩ := bind_eq_ok.mp hresult
    rw [hpayload] at htarget
    have hread := operation_verify hstage hoperation
    by_cases hsame : observed = some target
    · rw [if_pos hsame] at hresult
      rw [← Except.ok.inj hresult]
      exact ⟨front ++ [x, y], z, ⟨operation, answer⟩, by simp, hagain, .inl ⟨hread, target, htarget, hsame ▸ hobserved⟩⟩
    · rw [if_neg hsame, if_neg (Nat.one_ne_zero)] at hresult
      rw [← Except.ok.inj hresult]
      exact ⟨front, x, y, z, ⟨operation, answer⟩, by simp, hwrote, hdiffered, hagain, hread, target, observed, htarget,
        hobserved, hsame⟩

theorem Reached.isRelay {stage : Stage} (h : Reached relay payload stage history) : stage.isRelay = true := by
  cases h <;> rfl

theorem Reached.transition (h : Reached relay payload active.stage history) (hpayload : active.payload = payload)
    (hoperation : operationFor settings active = .ok operation) {result : Transition}
    (hresult : NativeGateway.transition active answer now = .ok result) :
    Accounted relay payload (history ++ [⟨operation, answer⟩]) result := by
  by_cases hanswer : ∃ error, answer = .error error
  · obtain ⟨error, rfl⟩ := hanswer
    rw [transition_error] at hresult
    rw [← Except.ok.inj hresult]
    exact h.transitionError hoperation error
  · rw [transition_relay (fun error heq => hanswer ⟨error, heq⟩) h.isRelay] at hresult
    exact h.transitionRelay hpayload hoperation hresult

end Answers

/-! ## Output writes -/

section Discipline

variable {relay : Fin 2} {payload : JsonMap} {history front tail : List Exchange}

/-- At most two output writes, each after the relay was made manual where the command asks for it. -/
structure Disciplined (relay : Fin 2) (payload : JsonMap) (history : List Exchange) : Prop where
  manual_first : ∀ before x after, history = before ++ x :: after → x.operation.isOutput relay = true →
    strictBool payload "ensure_manual" = .ok true → MadeManual relay before
  writes : history.countP (·.operation.isOutput relay) ≤ 2

theorem MadeManual.append (h : MadeManual relay front) (tail : List Exchange) : MadeManual relay (front ++ tail) := by
  obtain ⟨x, hx, hmanual⟩ := h
  exact ⟨x, List.mem_append_left _ hx, hmanual⟩

theorem countP_quiet (h : ∀ x ∈ front, x.operation.isOutput relay = false) :
    front.countP (·.operation.isOutput relay) = 0 := by
  rw [List.countP_eq_zero]
  intro x hx
  rw [h x hx]
  exact Bool.false_ne_true

theorem disciplined_of_quiet (h : ∀ x ∈ front, x.operation.isOutput relay = false) : Disciplined relay payload front where
  manual_first := by
    intro before x after heq houtput
    have hx : x ∈ front := by
      rw [heq]
      exact List.mem_append_right _ (List.mem_cons_self ..)
    rw [h x hx] at houtput
    nomatch houtput
  writes := by
    rw [countP_quiet h]
    omega

theorem Cleared.writesDisciplined (h : Cleared relay payload front) (htail : tail.countP (·.operation.isOutput relay) ≤ 2) :
    Disciplined relay payload (front ++ tail) where
  manual_first := by
    intro before x after heq houtput hensure
    rcases List.append_eq_append_iff.mp heq with ⟨more, rfl, -⟩ | ⟨more, hfront, hmore⟩
    · exact (h.2 hensure).append more
    · -- an output write in front of the first one
      cases more with
      | nil =>
        rw [List.append_nil] at hfront
        exact hfront ▸ h.2 hensure
      | cons y more =>
        obtain ⟨rfl, -⟩ := List.cons.inj hmore
        rw [h.1 x (by rw [hfront]; exact List.mem_append_right _ (List.mem_cons_self ..))] at houtput
        nomatch houtput
  writes := by
    rw [List.countP_append, countP_quiet h.1]
    omega

variable {settings : ExecutorSettings} {active : ActiveCommand} {operation : DbusOperation}

theorem isOutput_verification {x : Exchange} (h : IsVerification relay x) : x.operation.isOutput relay = false := by
  rw [show x.operation = _ from h]
  rfl

/-- The operation of a stage keeps the discipline, whatever its answer is. -/
theorem Reached.writesDisciplined (h : Reached relay payload active.stage history)
    (hoperation : operationFor settings active = .ok operation) (answer : DbusAnswer) :
    Disciplined relay payload (history ++ [⟨operation, answer⟩]) := by
  generalize hstage : active.stage = stage at h
  have hverification {relay : Fin 2} {retry : Nat} (hstage : active.stage = .relayVerify relay retry) :
      operation.isOutput relay = false := by
    rw [operation_verify hstage hoperation]
    rfl
  cases h with
  | manualRead hcandidate hquiet =>
    obtain ⟨path, -, rfl⟩ := operation_manualRead hstage hcandidate hoperation
    exact disciplined_of_quiet (quiet_append hquiet (isOutput_settings_read path))
  | manualWrite hcandidate hquiet =>
    obtain ⟨path, -, rfl⟩ := operation_manualWrite hstage hcandidate hoperation
    exact disciplined_of_quiet (quiet_append hquiet (isOutput_settings_write path _))
  | output hcleared =>
    exact hcleared.writesDisciplined (List.countP_le_length.trans (by simp))
  | @verify front x hcleared hwrote =>
    rw [List.append_assoc]
    exact hcleared.writesDisciplined (List.countP_le_length.trans (by simp))
  | @outputAgain front x y hcleared hwrote hdiffered =>
    rw [List.append_assoc]
    refine hcleared.writesDisciplined ?_
    have hy := isOutput_verification hdiffered.1
    have hcount : ([x, y] ++ [(⟨operation, answer⟩ : Exchange)]).countP (·.operation.isOutput relay) =
        [x, ⟨operation, answer⟩].countP (·.operation.isOutput relay) := by
      simp [List.countP_cons, hy]
    rw [hcount]
    exact List.countP_le_length
  | @verifyAgain front x y z hcleared hwrote hdiffered hagain =>
    rw [List.append_assoc]
    refine hcleared.writesDisciplined ?_
    have hy := isOutput_verification hdiffered.1
    have hlast := hverification hstage
    have hcount : ([x, y, z] ++ [(⟨operation, answer⟩ : Exchange)]).countP (·.operation.isOutput relay) =
        [x, z].countP (·.operation.isOutput relay) := by
      simp [List.countP_cons, hy, hlast]
    rw [hcount]
    exact List.countP_le_length

end Discipline

/-! ## Errors -/

/-- The errors that can end a relay command. -/
def relayErrors : List String :=
  ["D-Bus operation did not return a value", "D-Bus operation did not return a write code", "enabled must be boolean",
    "GX relay contact mode must be NO or NC", "verify_settle_seconds must be finite",
    "verify_settle_seconds must be non-negative", "verify_retry_seconds must be finite",
    "verify_retry_seconds must be non-negative"]

section Errors

variable {relay : Fin 2} {payload : JsonMap} {history : List Exchange} {settings : ExecutorSettings}
  {active : ActiveCommand} {answer : DbusAnswer} {now : ℚ} {error : String}

theorem relayTarget_error (h : relayTarget payload = .error error) : error ∈ relayErrors := by
  rcases bind_eq_error.mp h with henabled | ⟨enabled, -, hmode⟩
  · unfold strictBool at henabled
    split at henabled
    · nomatch henabled
    · rw [← Except.error.inj henabled]
      decide
  · split at hmode
    · nomatch hmode
    · nomatch hmode
    · rw [← Except.error.inj hmode]
      decide

section

variable (hanswer : ∀ error, answer ≠ .error error)
include hanswer

theorem numericValue_error (h : numericValue answer = .error error) : error ∈ relayErrors := by
  unfold numericValue at h
  split at h
  · nomatch h
  · exact absurd rfl (hanswer _)
  · rw [← Except.error.inj h]
    decide

theorem binaryValue_error (h : binaryValue answer = .error error) : error ∈ relayErrors := by
  rcases bind_eq_error.mp h with hnumber | ⟨value, -, hvalue⟩
  · exact numericValue_error hanswer hnumber
  · nomatch hvalue

theorem writeCode_error (h : writeCode answer = .error error) : error ∈ relayErrors := by
  unfold writeCode at h
  split at h
  · nomatch h
  · exact absurd rfl (hanswer _)
  · rw [← Except.error.inj h]
    decide

end

theorem nonnegativeNumber_error {field : String} (h : nonnegativeNumber payload field = .error error) :
    error = field ++ " must be finite" ∨ error = field ++ " must be non-negative" := by
  rcases bind_eq_error.mp h with hfinite | ⟨value, -, hsign⟩
  · unfold finiteNumber at hfinite
    split at hfinite
    · nomatch hfinite
    · exact .inl (Except.error.inj hfinite).symm
  · split at hsign
    · nomatch hsign
    · exact .inr (Except.error.inj hsign).symm

theorem settle_error (h : nonnegativeNumber payload "verify_settle_seconds" = .error error) : error ∈ relayErrors := by
  rcases nonnegativeNumber_error h with rfl | rfl <;> decide

theorem retry_error (h : nonnegativeNumber payload "verify_retry_seconds" = .error error) : error ∈ relayErrors := by
  rcases nonnegativeNumber_error h with rfl | rfl <;> decide

/-- An error of a transition comes from a check of the answer or of the command. -/
theorem Reached.transition_error (h : Reached relay payload active.stage history)
    (herror : NativeGateway.transition active answer now = .error error) : error ∈ relayErrors := by
  have hanswer : ∀ other, answer ≠ .error other := by
    rintro other rfl
    nomatch herror
  rw [transition_relay hanswer h.isRelay] at herror
  unfold NativeGateway.transitionRelay at herror
  generalize active.stage = stage at h herror
  cases h with
  | manualRead hcandidate hquiet =>
    rcases bind_eq_error.mp herror with hvalue | ⟨value, -, hnext⟩
    · exact numericValue_error hanswer hvalue
    · nomatch hnext
  | manualWrite hcandidate hquiet =>
    rcases bind_eq_error.mp herror with hcode | ⟨code, -, hnext⟩
    · exact writeCode_error hanswer hcode
    · nomatch hnext
  | output | outputAgain =>
    rcases bind_eq_error.mp herror with hcode | ⟨code, -, herror⟩
    · exact writeCode_error hanswer hcode
    rcases bind_eq_error.mp herror with hsettle | ⟨settle, -, hnext⟩
    · exact settle_error hsettle
    · nomatch hnext
  | verify hcleared hwrote =>
    rcases bind_eq_error.mp herror with hobserved | ⟨observed, -, herror⟩
    · exact binaryValue_error hanswer hobserved
    rcases bind_eq_error.mp herror with htarget | ⟨target, -, herror⟩
    · exact relayTarget_error htarget
    by_cases hsame : observed = some target
    · rw [if_pos hsame] at herror
      nomatch herror
    · rw [if_neg hsame, if_pos rfl] at herror
      rcases bind_eq_error.mp herror with hdelay | ⟨delay, -, hnext⟩
      · exact retry_error hdelay
      · nomatch hnext
  | verifyAgain hcleared hwrote hdiffered hagain =>
    rcases bind_eq_error.mp herror with hobserved | ⟨observed, -, herror⟩
    · exact binaryValue_error hanswer hobserved
    rcases bind_eq_error.mp herror with htarget | ⟨target, -, herror⟩
    · exact relayTarget_error htarget
    by_cases hsame : observed = some target
    · rw [if_pos hsame] at herror
      nomatch herror
    · rw [if_neg hsame, if_neg Nat.one_ne_zero] at herror
      nomatch herror

/-- An operation that cannot be built misses its target. -/
theorem Reached.operation_error (h : Reached relay payload active.stage history)
    (herror : operationFor settings active = .error error) : error ∈ relayErrors := by
  unfold operationFor at herror
  generalize active.stage = stage at h herror
  cases h with
  | manualRead hcandidate hquiet => nomatch herror
  | manualWrite hcandidate hquiet => nomatch herror
  | output hcleared =>
    rcases bind_eq_error.mp herror with htarget | ⟨target, -, hnext⟩
    · exact relayTarget_error htarget
    · nomatch hnext
  | outputAgain hcleared hwrote hdiffered =>
    rcases bind_eq_error.mp herror with htarget | ⟨target, -, hnext⟩
    · exact relayTarget_error htarget
    · nomatch hnext
  | verify hcleared hwrote => nomatch herror
  | verifyAgain hcleared hwrote hdiffered hagain => nomatch herror

end Errors

/-! ## Runs -/

/-- The relay whose command is taken on in this stage. -/
def Stage.InRange (relay : Fin 2) : Stage → Prop
  | .relayManualRead r candidate | .relayManualWrite r candidate => r = relay ∧ candidate < (manualPaths r).length
  | .relayOutput r retry | .relayVerify r retry => r = relay ∧ retry ≤ 1
  | _ => False

theorem Reached.inRange {relay : Fin 2} {payload : JsonMap} {stage : Stage} {history : List Exchange}
    (h : Reached relay payload stage history) : stage.InRange relay := by
  cases h with
  | manualRead hcandidate hquiet => exact ⟨rfl, hcandidate⟩
  | manualWrite hcandidate hquiet => exact ⟨rfl, hcandidate⟩
  | output | verify => exact ⟨rfl, Nat.zero_le 1⟩
  | outputAgain | verifyAgain => exact ⟨rfl, le_rfl⟩

/-- A value that was read from the state of a relay. -/
def WasRead (history : List Exchange) (relay : Fin 2) (value : Int) : Prop :=
  ∃ x ∈ history, IsVerification relay x ∧ binaryValue x.answer = .ok (some value)

theorem WasRead.append {history : List Exchange} {relay : Fin 2} {value : Int} (h : WasRead history relay value)
    (x : Exchange) : WasRead (history ++ [x]) relay value := by
  obtain ⟨y, hy, hread⟩ := h
  exact ⟨y, List.mem_append_left _ hy, hread⟩

section Runs

variable (settings : ExecutorSettings) (relay : Fin 2) (payload : JsonMap) (cached : Fin 2 → Option Int)

/-- The account of a command in progress or at its end. -/
structure CommandState.Sound (s : CommandState) : Prop where
  active : ∀ active, s.executor.active = some active →
    active.payload = payload ∧ Reached relay payload active.stage s.history
  inFlight : ∀ operation, s.inFlight = some operation →
    ∃ active, s.executor.active = some active ∧ active.awaiting = true ∧ operationFor settings active = .ok operation
  disciplined : Disciplined relay payload s.history
  ended : s.reported ≠ none → s.executor.active = none
  reported : ∀ outcome, s.reported = some (.ok outcome) → Reported relay payload s.history outcome
  errors : ∀ error, s.reported = some (.error error) → error ∈ relayErrors
  states : ∀ r value, s.executor.relayStates r = some value → cached r = some value ∨ WasRead s.history r value

variable {settings relay payload cached} {s : CommandState}

variable {active : ActiveCommand}

theorem CommandState.Sound.not_ended (h : s.Sound settings relay payload cached)
    (hactive : s.executor.active = some active) : s.reported = none := by
  by_contra hreported
  rw [h.ended hreported] at hactive
  nomatch hactive

/-- Everything that a poll can find. -/
theorem CommandExecutor.nextOperation_cases (executor : CommandExecutor) (settings : ExecutorSettings) (now : ℚ) :
    executor.nextOperation settings now = .ok (none, executor) ∨
    ∃ active, executor.active = some active ∧ active.awaiting = false ∧
      ((∃ error, operationFor settings active = .error error ∧ executor.nextOperation settings now = .error error) ∨
        ∃ operation, operationFor settings active = .ok operation ∧
          executor.nextOperation settings now =
            .ok (some operation, { executor with active := some { active with awaiting := true } })) := by
  unfold CommandExecutor.nextOperation
  cases hactive : executor.active with
  | none => exact .inl rfl
  | some active =>
    dsimp only
    by_cases hwait : active.awaiting = true ∨ now < active.notBefore
    · exact .inl (if_pos hwait)
    · right
      rw [if_neg hwait]
      have hidle : active.awaiting = false := Bool.eq_false_of_not_eq_true fun hawaiting => hwait (.inl hawaiting)
      refine ⟨active, rfl, hidle, ?_⟩
      cases hoperation : operationFor settings active with
      | error error => exact .inl ⟨error, rfl, rfl⟩
      | ok operation => exact .inr ⟨operation, rfl, rfl⟩

theorem CommandState.Sound.not_inFlight (h : s.Sound settings relay payload cached)
    (hactive : s.executor.active = some active) (hidle : active.awaiting = false) : s.inFlight = none := by
  cases hflight : s.inFlight with
  | none => rfl
  | some operation =>
    obtain ⟨other, hother, hawaiting, -⟩ := h.inFlight operation hflight
    rw [hactive] at hother
    rw [Option.some.inj hother, hawaiting] at hidle
    nomatch hidle

theorem CommandState.Sound.poll (h : s.Sound settings relay payload cached) (now : ℚ) (submitted : Bool) :
    (s.step settings (.poll now submitted)).Sound settings relay payload cached := by
  unfold CommandState.step
  dsimp only
  rcases s.executor.nextOperation_cases settings now with
    hnone | ⟨active, hactive, hidle, ⟨error, hoperation, hnext⟩ | ⟨operation, hoperation, hnext⟩⟩
  · rw [hnone]
    exact h
  · rw [hnext]
    have hflight := h.not_inFlight hactive hidle
    exact
      { active := fun _ hnone => (nomatch hnone)
        inFlight := by
          intro operation hsome
          rw [show s.inFlight = some operation from hsome] at hflight
          nomatch hflight
        disciplined := h.disciplined
        ended := fun _ => rfl
        reported := fun outcome hreported => (nomatch hreported)
        errors := by
          intro other hreported
          rw [← Except.error.inj (Option.some.inj hreported)]
          exact (h.active active hactive).2.operation_error hoperation
        states := h.states }
  · rw [hnext]
    cases submitted with
    | false => exact h
    | true =>
      exact
        { active := by
            intro other hother
            rw [← Option.some.inj hother]
            exact h.active active hactive
          inFlight := by
            intro other hother
            rw [← Option.some.inj hother]
            exact ⟨_, rfl, rfl, hoperation⟩
          disciplined := h.disciplined
          ended := fun hreported => absurd (h.not_ended hactive) hreported
          reported := h.reported
          errors := h.errors
          states := h.states }

theorem observedRelayStates_cases {operation : DbusOperation} {answer : DbusAnswer}
    {states : Fin 2 → Option Int} {history : List Exchange} (hreached : Reached relay payload active.stage history)
    (hoperation : operationFor settings active = .ok operation) {r : Fin 2} {value : Int}
    (h : CommandExecutor.observedRelayStates active answer states r = some value) :
    states r = some value ∨ WasRead (history ++ [⟨operation, answer⟩]) r value := by
  unfold CommandExecutor.observedRelayStates at h
  generalize hstage : active.stage = stage at h hreached
  -- only a verification stores a value
  have hverify {retry : Nat} (hstage : active.stage = .relayVerify relay retry) {observed : Option Int}
      (hobserved : binaryValue answer = .ok observed) (h : Function.update states relay observed r = some value) :
      states r = some value ∨ WasRead (history ++ [⟨operation, answer⟩]) r value := by
    by_cases hr : r = relay
    · subst hr
      rw [Function.update_self] at h
      refine .inr ⟨_, List.mem_append_right _ (List.mem_singleton_self _), operation_verify hstage hoperation, ?_⟩
      rw [← h]
      exact hobserved
    · rw [Function.update_of_ne hr] at h
      exact .inl h
  cases hobserved : binaryValue answer with
  | error error =>
    rw [hobserved] at h
    cases hreached <;> exact .inl h
  | ok observed =>
    rw [hobserved] at h
    cases htarget : relayTarget active.payload with
    | error error =>
      rw [htarget] at h
      cases hreached <;> exact .inl h
    | ok target =>
      rw [htarget] at h
      cases hreached with
      | verify | verifyAgain => exact hverify hstage hobserved h
      | manualRead | manualWrite | output | outputAgain => exact .inl h

section

variable (h : s.Sound settings relay payload cached)
include h

theorem CommandState.Sound.result (answer : DbusAnswer) (now : ℚ) :
    (s.step settings (.result answer now)).Sound settings relay payload cached := by
  unfold CommandState.step
  dsimp only
  cases hflight : s.inFlight with
  | none => exact h
  | some operation =>
    obtain ⟨active, hactive, -, hoperation⟩ := h.inFlight operation hflight
    obtain ⟨hpayload, hreached⟩ := h.active active hactive
    have hdisciplined := hreached.writesDisciplined hoperation answer
    have hstates (r : Fin 2) (value : Int)
        (hvalue : CommandExecutor.observedRelayStates active answer s.executor.relayStates r = some value) :
        cached r = some value ∨ WasRead (s.history ++ [⟨operation, answer⟩]) r value := by
      rcases observedRelayStates_cases hreached hoperation hvalue with hold | hread
      · exact (h.states r value hold).imp_right fun hread => hread.append _
      · exact .inr hread
    dsimp only
    unfold CommandExecutor.handleResult
    rw [hactive]
    dsimp only
    cases hresult : transition active answer now with
    | error error =>
      exact
        { active := fun _ hnone => (nomatch hnone)
          inFlight := fun _ hnone => (nomatch hnone)
          disciplined := hdisciplined
          ended := fun _ => rfl
          reported := fun outcome hreported => (nomatch hreported)
          errors := by
            intro other hreported
            rw [← Except.error.inj (Option.some.inj hreported)]
            exact hreached.transition_error hresult
          states := hstates }
    | ok result =>
      have haccounted := hreached.transition hpayload hoperation hresult
      cases result with
      | next stage notBefore =>
        exact
          { active := by
              intro other hother
              rw [← Option.some.inj hother]
              exact ⟨hpayload, haccounted⟩
            inFlight := fun _ hnone => (nomatch hnone)
            disciplined := hdisciplined
            ended := fun hreported => absurd (h.not_ended hactive) hreported
            reported := fun outcome hreported => by
              have hnone := h.not_ended hactive
              rw [show s.reported = some (.ok outcome) from hreported] at hnone
              nomatch hnone
            errors := fun error hreported => h.errors error hreported
            states := hstates }
      | done outcome =>
        exact
          { active := fun _ hnone => (nomatch hnone)
            inFlight := fun _ hnone => (nomatch hnone)
            disciplined := hdisciplined
            ended := fun _ => rfl
            reported := by
              intro other hreported
              rw [← Except.ok.inj (Option.some.inj hreported)]
              exact haccounted
            errors := fun error hreported => (nomatch hreported)
            states := hstates }

theorem CommandState.Sound.step (e : ExecutorEvent) :
    (s.step settings e).Sound settings relay payload cached := by
  cases e with
  | poll now submitted => exact h.poll now submitted
  | result answer now => exact h.result answer now

/-- The operations handed over, the one in flight included, keep the discipline. -/
theorem CommandState.Sound.submitted :
    (∀ before operation after, s.submitted = before ++ operation :: after → operation.isOutput relay = true →
      strictBool payload "ensure_manual" = .ok true → MadeManual relay (s.history.take before.length)) ∧
    s.submitted.countP (·.isOutput relay) ≤ 2 := by
  -- the answer of an operation in flight does not matter
  let flying : List Exchange := s.inFlight.toList.map fun operation => ⟨operation, .writeCode 0⟩
  have hdisciplined : Disciplined relay payload (s.history ++ flying) := by
    cases hflight : s.inFlight with
    | none =>
      have hnone : flying = [] := by simp [flying, hflight]
      rw [hnone, List.append_nil]
      exact h.disciplined
    | some operation =>
      obtain ⟨active, hactive, -, hoperation⟩ := h.inFlight operation hflight
      have hone : flying = [⟨operation, .writeCode 0⟩] := by simp [flying, hflight]
      rw [hone]
      exact (h.active active hactive).2.writesDisciplined hoperation _
  have hlength : flying.length ≤ 1 := by
    cases hflight : s.inFlight <;> simp [flying, hflight]
  have hsubmitted : s.submitted = (s.history ++ flying).map (·.operation) := by
    simp [CommandState.submitted, flying, Function.comp_def]
  rw [hsubmitted]
  constructor
  · intro before operation after hsplit houtput hensure
    obtain ⟨front, rest, hfront, rfl, hrest⟩ := List.map_eq_append_iff.mp hsplit
    obtain ⟨x, rest, rfl, rfl, -⟩ := List.map_eq_cons_iff.mp hrest
    have hmanual := hdisciplined.manual_first front x rest hfront houtput hensure
    have hle : front.length ≤ s.history.length := by
      have := congrArg List.length hfront
      simp only [List.length_append, List.length_cons] at this
      omega
    have htake : s.history.take front.length = front := by
      have happend : (s.history ++ flying).take front.length = s.history.take front.length :=
        List.take_append_of_le_length hle
      rw [← happend, hfront, List.take_left]
    rw [List.length_map, htake]
    exact hmanual
  · rw [List.countP_map]
    exact hdisciplined.writes

end

end Runs

/-- The state in which a command is taken on. -/
def CommandState.begin (executor : CommandExecutor) : CommandState := ⟨executor, none, [], none⟩

/-- `start` takes a relay command on in its first stage. -/
theorem sound_begin {settings : ExecutorSettings} {relay : Fin 2} {payload : JsonMap}
    {executor taken : CommandExecutor} {path : String} {epoch now : ℚ} (hidle : executor.active = none)
    (hkind : commandKind payload = "gx_relay_set_enabled") (hrelay : relayIndex payload = .ok relay)
    (hstart : executor.start path payload epoch now = .ok (none, taken)) :
    (CommandState.begin taken).Sound settings relay payload executor.relayStates := by
  have hquiet : ∀ x ∈ ([] : List Exchange), x.operation.isOutput relay = false := fun x hx => (nomatch hx)
  have hstage : startStage payload = (do
      let ensureManual ← strictBool payload "ensure_manual"
      return some (if ensureManual then .relayManualRead relay 0 else .relayOutput relay 0)) := by
    unfold startStage
    rw [hkind, hrelay]
    rfl
  unfold CommandExecutor.start startCommand at hstart
  rw [hidle, hstage] at hstart
  cases hensure : strictBool payload "ensure_manual" with
  | error error =>
    rw [hensure] at hstart
    nomatch hstart
  | ok ensureManual =>
    rw [hensure, ok_bind] at hstart
    cases hdelay : commandDelay payload epoch now with
    | error error => simp [hdelay, pure, Except.pure] at hstart
    | ok notBefore =>
      simp only [hdelay, Option.isSome_none, Bool.false_eq_true, if_false, pure, Except.pure, Except.ok.injEq,
        Prod.mk.injEq, true_and] at hstart
      rw [← hstart]
      exact
        { active := by
            intro active hactive
            rw [← Option.some.inj hactive]
            refine ⟨rfl, ?_⟩
            cases ensureManual with
            | false => exact Reached.output ⟨hquiet, fun htrue => by rw [hensure] at htrue; nomatch htrue⟩
            | true =>
              refine Reached.manualRead ?_ hquiet
              rw [manualPaths]
              split <;> simp
          inFlight := fun _ hnone => (nomatch hnone)
          disciplined := disciplined_of_quiet hquiet
          ended := fun hreported => absurd rfl hreported
          reported := fun outcome hreported => (nomatch hreported)
          errors := fun error hreported => (nomatch hreported)
          states := fun r value hvalue => .inl hvalue }

/-- A relay command, for every sequence of polls and answers between its start and its end. -/
theorem relay_command_sound (settings : ExecutorSettings) {relay : Fin 2} {payload : JsonMap}
    {executor taken : CommandExecutor} {path : String} {epoch now : ℚ} (hidle : executor.active = none)
    (hkind : commandKind payload = "gx_relay_set_enabled") (hrelay : relayIndex payload = .ok relay)
    (hstart : executor.start path payload epoch now = .ok (none, taken)) (events : List ExecutorEvent) :
    let s := run (CommandState.step settings) (CommandState.begin taken) events
    (∀ active, s.executor.active = some active → active.stage.InRange relay ∧
      ∀ operation, s.inFlight = some operation → operationFor settings active = .ok operation) ∧
    (∀ error, s.reported = some (.error error) → error ≠ "non-relay stage reached relay transition" ∧
      error ≠ "non-Shelly stage reached Shelly transition") ∧
    (∀ before operation after, s.submitted = before ++ operation :: after → operation.isOutput relay = true →
      strictBool payload "ensure_manual" = .ok true → MadeManual relay (s.history.take before.length)) ∧
    s.submitted.countP (·.isOutput relay) ≤ 2 ∧
    (s.reported = some (.ok .applied) → ∃ front x y, s.history = front ++ [x, y] ∧ WroteOutput relay payload x ∧
      (Confirmed relay payload y ∨ VerificationFailed relay y)) ∧
    (s.reported = some (.ok .dropped) → ∃ front x y z w, s.history = front ++ [x, y, z, w] ∧
      WroteOutput relay payload x ∧ Differed relay payload y ∧ WroteOutput relay payload z ∧
      Differed relay payload w) ∧
    (∀ r value, s.executor.relayStates r = some value →
      executor.relayStates r = some value ∨ WasRead s.history r value) := by
  have hsound := run_invariant (fun s e (h : s.Sound settings relay payload executor.relayStates) => h.step e)
    (sound_begin hidle hkind hrelay hstart) events
  refine ⟨?_, ?_, hsound.submitted.1, hsound.submitted.2, hsound.reported .applied, hsound.reported .dropped,
    hsound.states⟩
  · intro active hactive
    refine ⟨(hsound.active active hactive).2.inRange, ?_⟩
    intro operation hflight
    obtain ⟨other, hother, -, hoperation⟩ := hsound.inFlight operation hflight
    rw [hactive] at hother
    rw [Option.some.inj hother]
    exact hoperation
  · intro error hreported
    have hnot : "non-relay stage reached relay transition" ∉ relayErrors ∧
        "non-Shelly stage reached Shelly transition" ∉ relayErrors := by decide
    have hmem := hsound.errors error hreported
    exact ⟨fun heq => hnot.1 (heq ▸ hmem), fun heq => hnot.2 (heq ▸ hmem)⟩

/-- Switch the first relay on, with its function made manual. -/
def switchOn : JsonMap :=
  [("kind", .string "gx_relay_set_enabled"), ("relay_index", .int 0), ("ensure_manual", .bool true),
    ("enabled", .bool true), ("contact_mode", .string "NO"), ("verify_settle_seconds", .int 0),
    ("verify_retry_seconds", .int 0)]

/-- An executor that has read nothing yet. -/
def idleExecutor : CommandExecutor := ⟨none, fun _ => none, fun _ => none⟩

def exampleSettings : ExecutorSettings := ⟨"com.victronenergy.shelly", "com.victronenergy.settings", "/Settings/Bias"⟩

/-- `switchOn` as `start` takes it on. -/
def switchingOn : CommandExecutor :=
  { idleExecutor with active := some ⟨"command.json", switchOn, .relayManualRead 0 0, 0, false⟩ }

theorem start_switchOn : idleExecutor.start "command.json" switchOn 0 0 = .ok (none, switchingOn) := by
  have hstage : startStage switchOn = .ok (some (.relayManualRead 0 0)) := rfl
  have hdelay : commandDelay switchOn 0 0 = .ok 0 := by decide +kernel
  unfold CommandExecutor.start startCommand
  rw [hstage, hdelay]
  rfl

/-- The gateway polls, gets an answer, and so on. -/
def exchanges (answers : List DbusAnswer) : List ExecutorEvent :=
  answers.flatMap fun answer => [.poll 0 true, .result answer 0]

/-- The relay is manual, the output is written, and the verification reads the target. -/
theorem relay_command_sound_verified :
    ∃ front x y, (run (CommandState.step exampleSettings) (CommandState.begin switchingOn)
      (exchanges [.value (some 2) none, .writeCode 0, .value (some 1) none])).history = front ++ [x, y] ∧
      WroteOutput 0 switchOn x ∧ (Confirmed 0 switchOn y ∨ VerificationFailed 0 y) :=
  (relay_command_sound exampleSettings rfl rfl rfl start_switchOn _).2.2.2.2.1 (by decide +kernel)

/-- A manual write that the settings service refuses with the code -1 lets the output be written. -/
theorem refused_manual_write :
    ¬ ∀ (settings : ExecutorSettings) (relay : Fin 2) (payload : JsonMap) (executor taken : CommandExecutor)
      (path : String) (epoch now : ℚ), executor.active = none → commandKind payload = "gx_relay_set_enabled" →
      relayIndex payload = .ok relay → executor.start path payload epoch now = .ok (none, taken) →
      ∀ events before operation after,
        (run (CommandState.step settings) (CommandState.begin taken) events).submitted = before ++ operation :: after →
        operation.isOutput relay = true → strictBool payload "ensure_manual" = .ok true →
        ∃ x ∈ (run (CommandState.step settings) (CommandState.begin taken) events).history,
          (∃ path, x.operation = .read "com.victronenergy.settings" path ∧ numericValue x.answer = .ok (some 2)) ∨
          ∃ path, x.operation = .write "com.victronenergy.settings" path (.i32 2) ∧ x.answer = .writeCode 0 := by
  intro h
  obtain ⟨x, hx, hmanual⟩ := h exampleSettings 0 switchOn idleExecutor switchingOn "command.json" 0 0 rfl rfl rfl
    start_switchOn (exchanges [.value (some 0) none, .writeCode (-1)] ++ [.poll 0 true])
    [.read "com.victronenergy.settings" "/Settings/Relay/0/Function",
      .write "com.victronenergy.settings" "/Settings/Relay/0/Function" (.i32 2)]
    (.write "com.victronenergy.system" "/Relay/0/State" (.i32 1)) [] (by decide +kernel) (by decide +kernel)
    (by decide +kernel)
  have hneither : ∀ x ∈ (run (CommandState.step exampleSettings) (CommandState.begin switchingOn)
      (exchanges [.value (some 0) none, .writeCode (-1)] ++ [.poll 0 true])).history,
      numericValue x.answer ≠ .ok (some 2) ∧ writeCode x.answer ≠ .ok 0 := by decide +kernel
  rcases hmanual with ⟨path, -, hread⟩ | ⟨path, -, hwrite⟩
  · exact (hneither x hx).1 hread
  · exact (hneither x hx).2 (by rw [hwrite]; rfl)

end VenusEvcharger.NativeGateway
