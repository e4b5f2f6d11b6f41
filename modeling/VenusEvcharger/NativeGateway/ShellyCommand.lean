import VenusEvcharger.DbusAdapter.ShellyExchanges
import VenusEvcharger.NativeGateway.CommandFairness

/-!
# A command that disables a generic Shelly, on the native gateway

The executor takes the command from its file, and starts over with the discovery after every error. The exchanges of
every run are safe (`shelly_safe`), and while the devices keep to their replies the command is applied exactly when
the first device with a matching name can be disabled, or, without one, the first device that is not another one
matches and can be disabled (`namedOrFirstMatches_of_applied`, `applied_of_namedOrFirstMatches`).

Scope: an attempt is an operation that is due and handed to the broker.
-/

namespace VenusEvcharger.NativeGateway

open Library

/-! ## Attempts -/

/-- What the command looks for. Without a valid selector no device equals it. -/
def executorTarget (settings : ExecutorSettings) (payload : JsonMap) : ShellyTarget where
  service := settings.genericShellyService
  identityField :=
    match selector payload with
    | .ok sel => if sel.1 = "ip" then "Ip" else "Mac"
    | .error _ => ""
  named device :=
    match selector payload with
    | .ok sel => sel.1 = "mac" && decide (normalizeMac device = some sel.2)
    | .error _ => false
  identified candidate :=
    match selector payload with
    | .ok sel => if sel.1 = "ip" then decide (trim candidate = sel.2) else decide (normalizeMac candidate = some sel.2)
    | .error _ => false
  channel :=
    match channel payload with
    | .ok channel => toString channel
    | .error _ => ""

/-- An operation with what its answer gives. -/
def shellyExchange : DbusOperation → DbusAnswer → ShellyExchange
  | .introspect service path, answer => .introspect service path (deviceNodes answer).toOption
  | .read service path, .value number text => .read service path (some ⟨text.getD "", number⟩)
  | .read service path, _ => .read service path none
  | .write service path (.i32 value), answer => .write service path value (writeCode answer).toBool
  | .write _ _ _, _ | .listNames, _ => .other

/-- The command in its file: what the executor has taken on, how it ended, and its exchanges. -/
structure ShellyRun where
  active : Option ActiveCommand
  ended : Option CommandOutcome
  log : List ShellyExchange

/-- What an attempt meets: the answers of the bus, and the clocks. -/
structure ShellyEvent where
  bus : DbusOperation → DbusAnswer
  epoch : ℚ
  now : ℚ

section

variable (settings : ExecutorSettings) (path : String) (payload : JsonMap)

/-- The command that is active, or that `start` takes on. -/
def takenOn (s : ShellyRun) (event : ShellyEvent) : Except String (CommandOutcome ⊕ ActiveCommand) :=
  match s.active with
  | some active => .ok (.inr active)
  | none => startCommand path payload event.epoch event.now

/-- `complete_semantic_command`: an outcome other than `deferred` ends the command. -/
def completeShelly (s : ShellyRun) (active : ActiveCommand) : Except String Transition → ShellyRun
  | .ok (.next stage notBefore) => { s with active := some { active with stage := stage, notBefore := notBefore } }
  | .ok (.done .deferred) | .error _ => { s with active := none }
  | .ok (.done outcome) => { s with active := none, ended := some outcome }

/-- One attempt on the command. -/
def attemptShelly (s : ShellyRun) (event : ShellyEvent) : ShellyRun :=
  match s.ended with
  | some _ => s
  | none =>
    match takenOn path payload s event with
    | .error _ => { s with active := none, ended := some .dropped }
    | .ok (.inl outcome) => { s with active := none, ended := some outcome }
    | .ok (.inr active) =>
      match operationFor settings active with
      | .error _ => { s with active := none, ended := some .dropped }
      | .ok operation =>
        completeShelly { s with log := s.log ++ [shellyExchange operation (event.bus operation)] } active
          (transition active (event.bus operation) event.now)

end

/-- A command that is in its file and was not taken on. -/
def ShellyRun.begin : ShellyRun := ⟨none, none, []⟩

/-! ## An attempt as a step of the phase -/

/-- The stage is at the phase. -/
inductive Stage.AtPhase : Stage → ShellyPhase → Prop where
  | discover : AtPhase .shellyDiscover .discover
  | identify (devices cursor) : AtPhase (.shellyIdentify devices cursor) (.identify devices cursor)
  | enabled (device) : AtPhase (.shellyEnabled device) (.enabled device)
  | disable (device) : AtPhase (.shellyDisable device) (.disable device)

/-- What the executor does with the result of a transition. -/
inductive ResultAt : Except String Transition → PhaseResult → Prop where
  | next {stage phase} (hstage : stage.AtPhase phase) (notBefore) : ResultAt (.ok (.next stage notBefore)) (.inl phase)
  | error (error) : ResultAt (.error error) (.inl .discover)
  | deferred : ResultAt (.ok (.done .deferred)) (.inl .discover)
  | applied : ResultAt (.ok (.done .applied)) (.inr .applied)
  | dropped : ResultAt (.ok (.done .dropped)) (.inr .dropped)

section

variable (t : ShellyTarget)

/-- The phase after the discovery of some devices: a device with a matching name needs no identification. -/
def discoveredPhase (devices : List String) : ShellyPhase :=
  match devices.find? t.named with
  | some device => .enabled device
  | none => .identify devices 0

/-- The operation of a phase. -/
inductive PhaseOperation : ShellyPhase → DbusOperation → Prop where
  | discover : PhaseOperation .discover (.introspect t.service "/Devices")
  | identify {devices cursor device} (hdevice : devices[cursor]? = some device) :
    PhaseOperation (.identify devices cursor) (.read t.service (t.identityPath device))
  | enabled (device) : PhaseOperation (.enabled device) (.read t.service (t.enabledPath device))
  | disable (device) : PhaseOperation (.disable device) (.write t.service (t.enabledPath device) (.i32 0))

/-- What comes of an answer in a phase; the selector may be invalid. -/
def phaseResult (valid : Bool) (answer : DbusAnswer) : ShellyPhase → PhaseResult
  | .discover =>
    match deviceNodes answer with
    | .error _ => .inl .discover
    | .ok devices =>
      if devices = [] then .inr .applied else .inl (if valid then discoveredPhase t devices else .discover)
  | .identify devices cursor =>
    match stringValue answer with
    | .error _ => .inl .discover
    | .ok candidate =>
      if !valid then .inl .discover
      else if t.identified candidate then .inl (.enabled ((devices[cursor]?).getD ""))
      else if cursor + 1 < devices.length then .inl (.identify devices (cursor + 1))
      else .inr .applied
  | .enabled device =>
    match binaryValue answer with
    | .error _ => .inl .discover
    | .ok value =>
      if value = some 0 then .inr .applied else if value = some 1 then .inl (.disable device) else .inr .dropped
  | .disable _ =>
    match writeCode answer with
    | .error _ => .inl .discover
    | .ok _ => .inr .applied

end

section

variable {settings : ExecutorSettings} {payload : JsonMap} {active : ActiveCommand} {phase : ShellyPhase}
  {operation : DbusOperation} {sel : String × String}

theorem identityPath_executorTarget (hselector : selector payload = .ok sel) (device : String) :
    (executorTarget settings payload).identityPath device =
      "/Devices/" ++ device ++ "/" ++ if sel.1 = "ip" then "Ip" else "Mac" := by
  unfold ShellyTarget.identityPath executorTarget
  rw [hselector]

theorem enabledPath_executorTarget {number : Int} (hchannel : channel payload = .ok number) (device : String) :
    (executorTarget settings payload).enabledPath device = shellyEnabledPath device number := by
  unfold ShellyTarget.enabledPath executorTarget
  rw [hchannel]
  rfl

theorem operationFor_phase (hphase : active.stage.AtPhase phase) (hpayload : active.payload = payload)
    (h : operationFor settings active = .ok operation) :
    PhaseOperation (executorTarget settings payload) phase operation := by
  rw [operationFor, hpayload] at h
  generalize active.stage = stage at hphase h
  cases hphase with
  | discover =>
    rw [← Except.ok.inj h]
    exact .discover
  | identify devices cursor =>
    dsimp only at h
    cases hdevice : devices[cursor]? with
    | none =>
      rw [hdevice] at h
      cases h
    | some device =>
      rw [hdevice] at h
      obtain ⟨sel, hselector, h⟩ := bind_eq_ok.mp h
      rw [← Except.ok.inj h, ← identityPath_executorTarget hselector]
      exact .identify hdevice
  | enabled device =>
    obtain ⟨number, hchannel, h⟩ := bind_eq_ok.mp h
    rw [← Except.ok.inj h, ← enabledPath_executorTarget hchannel]
    exact .enabled device
  | disable device =>
    obtain ⟨number, hchannel, h⟩ := bind_eq_ok.mp h
    rw [← Except.ok.inj h, ← enabledPath_executorTarget hchannel]
    exact .disable device

/-- The device that the discovery finds by its name. -/
theorem find?_named (settings : ExecutorSettings) (hselector : selector payload = .ok sel) (devices : List String) :
    (if sel.1 = "mac" then devices.find? fun device => decide (normalizeMac device = some sel.2) else none) =
      devices.find? (executorTarget settings payload).named := by
  have hnamed : (executorTarget settings payload).named =
      fun device => sel.1 = "mac" && decide (normalizeMac device = some sel.2) := by
    unfold executorTarget
    rw [hselector]
  rw [hnamed]
  split
  · rename_i hmac
    simp [hmac]
  · rename_i hmac
    exact (List.find?_eq_none.mpr fun device _ => by simp [hmac]).symm

theorem identified_executorTarget (hselector : selector payload = .ok sel) (candidate : String) :
    (executorTarget settings payload).identified candidate =
      if sel.1 = "ip" then decide (trim candidate = sel.2) else decide (normalizeMac candidate = some sel.2) := by
  unfold executorTarget
  rw [hselector]

/-- The selector of the command is valid. -/
def validSelector (payload : JsonMap) : Bool := (selector payload).toBool

theorem discover_result (hstage : active.stage = .shellyDiscover) (hpayload : active.payload = payload)
    (answer : DbusAnswer) : ResultAt (transitionShelly active answer)
      (phaseResult (executorTarget settings payload) (validSelector payload) answer .discover) := by
  unfold transitionShelly phaseResult
  rw [hstage, hpayload]
  dsimp only
  cases deviceNodes answer with
  | error error => exact .error error
  | ok devices =>
    show ResultAt (if devices = [] then pure (.done .applied) else _) _
    dsimp only
    by_cases hempty : devices = []
    · rw [if_pos hempty, if_pos hempty]
      exact .applied
    · rw [if_neg hempty, if_neg hempty]
      cases hselector : selector payload with
      | error error =>
        simp only [validSelector, hselector, Except.toBool, Bool.false_eq_true, if_false]
        exact .error error
      | ok sel =>
        simp only [validSelector, hselector, Except.toBool, if_true]
        show ResultAt (match (if sel.1 = "mac" then _ else none : Option String) with
          | some device => pure (.next (.shellyEnabled device) active.notBefore)
          | none => pure (.next (.shellyIdentify devices 0) active.notBefore)) _
        rw [find?_named settings hselector]
        unfold discoveredPhase
        cases devices.find? (executorTarget settings payload).named with
        | none => exact .next (.identify devices 0) _
        | some device => exact .next (.enabled device) _

theorem identify_result {devices : List String} {cursor : Nat} (hstage : active.stage = .shellyIdentify devices cursor)
    (hpayload : active.payload = payload) (answer : DbusAnswer) : ResultAt (transitionShelly active answer)
      (phaseResult (executorTarget settings payload) (validSelector payload) answer (.identify devices cursor)) := by
  unfold transitionShelly phaseResult
  rw [hstage, hpayload]
  dsimp only
  cases stringValue answer with
  | error error => exact .error error
  | ok candidate =>
    cases hselector : selector payload with
    | error error =>
      simp only [validSelector, hselector, Except.toBool, Bool.not_false, if_true]
      exact .error error
    | ok sel =>
      simp only [validSelector, hselector, Except.toBool, Bool.not_true, Bool.false_eq_true, if_false]
      rw [identified_executorTarget hselector]
      show ResultAt (if _ = true then _ else _) _
      by_cases hfound : (if sel.1 = "ip" then decide (trim candidate = sel.2)
          else decide (normalizeMac candidate = some sel.2)) = true
      · rw [if_pos hfound, if_pos hfound]
        exact .next (.enabled _) _
      · rw [if_neg hfound, if_neg hfound]
        by_cases hmore : cursor + 1 < devices.length
        · rw [if_pos hmore, if_pos hmore]
          exact .next (.identify devices (cursor + 1)) _
        · rw [if_neg hmore, if_neg hmore]
          exact .applied

theorem enabled_result {device : String} (hstage : active.stage = .shellyEnabled device) (t : ShellyTarget) (valid : Bool)
    (answer : DbusAnswer) : ResultAt (transitionShelly active answer) (phaseResult t valid answer (.enabled device)) := by
  unfold transitionShelly phaseResult
  rw [hstage]
  dsimp only
  cases binaryValue answer with
  | error error => exact .error error
  | ok value =>
    dsimp only
    by_cases hzero : value = some 0
    · rw [if_pos hzero, hzero]
      exact .applied
    · rw [if_neg hzero]
      by_cases hone : value = some 1
      · rw [if_pos hone, hone]
        exact .next (.disable device) _
      · rw [if_neg hone]
        dsimp only [bind, Except.bind]
        split
        · exact absurd rfl hzero
        · exact absurd rfl hone
        · exact .dropped

/-- What an answer leads to is what comes of it in the phase. -/
theorem transition_phase (hphase : active.stage.AtPhase phase) (hpayload : active.payload = payload)
    (answer : DbusAnswer) (now : ℚ) : ResultAt (transition active answer now)
      (phaseResult (executorTarget settings payload) (validSelector payload) answer phase) := by
  cases answer with
  | error error =>
    show ResultAt (.ok (transitionError active)) _
    unfold transitionError
    cases hstage : active.stage with
    | shellyDiscover | shellyIdentify | shellyEnabled | shellyDisable =>
      rw [hstage] at hphase
      cases hphase
      exact .deferred
    | relayRefresh | relayManualRead | relayManualWrite | relayOutput | relayVerify | essWrite =>
      rw [hstage] at hphase
      nomatch hphase
  | names | value | writeCode | xml =>
    unfold NativeGateway.transition
    dsimp only
    cases hstage : active.stage with
    | shellyDiscover =>
      rw [hstage] at hphase
      cases hphase
      exact discover_result hstage hpayload _
    | shellyIdentify devices cursor =>
      rw [hstage] at hphase
      cases hphase
      exact identify_result hstage hpayload _
    | shellyEnabled device =>
      rw [hstage] at hphase
      cases hphase
      exact enabled_result hstage _ _ _
    | shellyDisable device =>
      rw [hstage] at hphase
      cases hphase
      first | exact .applied | exact .error _
    | relayRefresh | relayManualRead | relayManualWrite | relayOutput | relayVerify | essWrite =>
      rw [hstage] at hphase
      nomatch hphase

/-! ## The attempts of a command -/

/-- The outcome with which a command ends. -/
def endOutcome : ShellyEnd → CommandOutcome
  | .applied => .applied
  | .dropped => .dropped

/-- The command is at a phase, before an attempt at the discovery, or it has ended. -/
def ShellyRun.At (payload : JsonMap) (s : ShellyRun) : PhaseResult → Prop
  | .inl phase => s.ended = none ∧ (s.active = none ∧ phase = .discover ∨
      ∃ active, s.active = some active ∧ active.payload = payload ∧ active.stage.AtPhase phase)
  | .inr last => s.ended = some (endOutcome last)

theorem ShellyRun.At.applied_iff {s : ShellyRun} {result : PhaseResult} (h : s.At payload result) :
    s.ended = some .applied ↔ result = .inr .applied := by
  cases result with
  | inl phase =>
    rw [h.1]
    simp
  | inr last =>
    rw [show s.ended = some (endOutcome last) from h]
    cases last with
    | applied => simp [endOutcome]
    | dropped => simp [endOutcome]

theorem completeShelly_at {s : ShellyRun} {result : Except String Transition} {next : PhaseResult}
    (h : ResultAt result next) (hended : s.ended = none) (hpayload : active.payload = payload) :
    (completeShelly s active result).At payload next := by
  cases h with
  | next hstage notBefore => exact ⟨hended, .inr ⟨_, rfl, hpayload, hstage⟩⟩
  | error | deferred => exact ⟨hended, .inl ⟨rfl, rfl⟩⟩
  | applied | dropped => rfl

theorem completeShelly_log (s : ShellyRun) (active : ActiveCommand) (result : Except String Transition) :
    (completeShelly s active result).log = s.log := by
  unfold completeShelly
  split <;> rfl

variable {path : String} {s : ShellyRun}

section

variable (hkind : commandKind payload = "disable_matching_generic_shelly_once")
include hkind

/-- `start` takes the command on with the discovery. -/
theorem startCommand_shelly {epoch now : ℚ}
    {result : CommandOutcome ⊕ ActiveCommand} (h : startCommand path payload epoch now = .ok result) :
    ∃ active, result = .inr active ∧ active.payload = payload ∧ active.stage = .shellyDiscover := by
  unfold startCommand startStage at h
  rw [hkind] at h
  dsimp only [pure, Except.pure] at h
  cases hdelay : commandDelay payload epoch now with
  | error error =>
    rw [hdelay] at h
    nomatch h
  | ok notBefore =>
    rw [hdelay] at h
    exact ⟨_, (Except.ok.inj h).symm, rfl, rfl⟩

/-- What the executor takes on is at the phase of the command. -/
theorem takenOn_atPhase
    (hs : s.At payload (.inl phase)) {event : ShellyEvent} {result : CommandOutcome ⊕ ActiveCommand}
    (h : takenOn path payload s event = .ok result) :
    ∃ active, result = .inr active ∧ active.payload = payload ∧ active.stage.AtPhase phase := by
  unfold takenOn at h
  rcases hs.2 with ⟨hnone, rfl⟩ | ⟨active, hactive, hpayload, hphase⟩
  · rw [hnone] at h
    obtain ⟨active, hresult, hpayload, hstage⟩ := startCommand_shelly hkind h
    exact ⟨active, hresult, hpayload, hstage ▸ .discover⟩
  · rw [hactive] at h
    exact ⟨active, (Except.ok.inj h).symm, hpayload, hphase⟩

/-- An attempt drops the command without an exchange, or exchanges the operation of the phase and goes where its answer
leads. -/
theorem attemptShelly_cases (hs : s.At payload (.inl phase)) (event : ShellyEvent) :
    ((attemptShelly settings path payload s event).log = s.log ∧
      (attemptShelly settings path payload s event).At payload (.inr .dropped)) ∨
    ∃ operation, PhaseOperation (executorTarget settings payload) phase operation ∧
      (attemptShelly settings path payload s event).log =
        s.log ++ [shellyExchange operation (event.bus operation)] ∧
      (attemptShelly settings path payload s event).At payload
        (phaseResult (executorTarget settings payload) (validSelector payload) (event.bus operation) phase) := by
  unfold attemptShelly
  rw [hs.1]
  dsimp only
  cases htaken : takenOn path payload s event with
  | error error => exact .inl ⟨rfl, rfl⟩
  | ok result =>
    obtain ⟨active, rfl, hpayload, hphase⟩ := takenOn_atPhase hkind hs htaken
    dsimp only
    cases hoperation : operationFor settings active with
    | error error => exact .inl ⟨rfl, rfl⟩
    | ok operation =>
      refine .inr ⟨operation, operationFor_phase hphase hpayload hoperation, completeShelly_log _ _ _, ?_⟩
      exact completeShelly_at (transition_phase hphase hpayload _ _) rfl hpayload

end

/-! ## Safety -/

variable {t : ShellyTarget} {log : List ShellyExchange} {answer : DbusAnswer}

theorem stringValue_eq_ok {text : String} (h : stringValue answer = .ok text) :
    ∃ number, answer = .value number (some text) := by
  unfold stringValue at h
  split at h
  · rw [← Except.ok.inj h]
    exact ⟨_, rfl⟩
  · nomatch h
  · nomatch h

theorem binaryValue_eq_one (h : binaryValue answer = .ok (some 1)) : ∃ text, answer = .value (some 1) text := by
  obtain ⟨value, hvalue, h⟩ := bind_eq_ok.mp h
  unfold numericValue at hvalue
  split at hvalue
  · obtain rfl := Except.ok.inj hvalue
    have h := Except.ok.inj h
    split at h
    · simp at h
    · split at h
      · rename_i hone
        rw [hone]
        exact ⟨_, rfl⟩
      · nomatch h
  · nomatch hvalue
  · nomatch hvalue

theorem discoveredPhase_tracked (t : ShellyTarget) (log : List ShellyExchange) (devices : List String) :
    Tracked t (log ++ [.introspect t.service "/Devices" (some devices)]) (discoveredPhase t devices) := by
  have hdiscovered := tracked_discovered t log devices
  unfold discoveredPhase
  cases hfind : devices.find? t.named with
  | none => exact hdiscovered
  | some device => exact ⟨hdiscovered device (List.mem_of_find?_eq_some hfind), .inl (List.find?_some hfind)⟩

theorem phaseOperation_allowed (htracked : Tracked t log phase) (h : PhaseOperation t phase operation)
    (answer : DbusAnswer) : Allowed t log (shellyExchange operation answer) := by
  cases h with
  | discover => exact .discovery _
  | identify hdevice =>
    have hdiscovered := htracked _ (List.mem_of_getElem? hdevice)
    cases answer with
    | value | names | writeCode | xml | error => exact .identity hdiscovered _
  | enabled device =>
    cases answer with
    | value | names | writeCode | xml | error => exact .enabled htracked.1 htracked.2 _
  | disable device => exact .disable htracked.1 htracked.2.1 htracked.2.2 _

theorem phaseResult_tracked (htracked : Tracked t log phase) (h : PhaseOperation t phase operation) {valid : Bool}
    {next : ShellyPhase} (hnext : phaseResult t valid answer phase = .inl next) :
    Tracked t (log ++ [shellyExchange operation answer]) next := by
  unfold phaseResult at hnext
  -- An error sends every phase back to the discovery, where nothing is tracked.
  cases h with
  | discover =>
    dsimp only at hnext
    cases hnodes : deviceNodes answer with
    | error error =>
      rw [hnodes] at hnext
      rw [← Sum.inl.inj hnext]
      trivial
    | ok devices =>
      rw [hnodes] at hnext
      dsimp only at hnext
      split at hnext
      · nomatch hnext
      · rw [← Sum.inl.inj hnext]
        cases valid with
        | false => trivial
        | true =>
          show Tracked t (log ++ [.introspect t.service "/Devices" (deviceNodes answer).toOption]) _
          rw [hnodes]
          exact discoveredPhase_tracked t log devices
  | @identify devices cursor device hdevice =>
    dsimp only at hnext
    cases htext : stringValue answer with
    | error error =>
      rw [htext] at hnext
      rw [← Sum.inl.inj hnext]
      trivial
    | ok text =>
      obtain ⟨number, rfl⟩ := stringValue_eq_ok htext
      rw [htext] at hnext
      dsimp only at hnext
      split at hnext
      · rw [← Sum.inl.inj hnext]
        trivial
      · split at hnext
        · rename_i hidentified
          rw [← Sum.inl.inj hnext, hdevice]
          exact tracked_identified htracked (List.mem_of_getElem? hdevice) hidentified
        · split at hnext
          · rw [← Sum.inl.inj hnext]
            exact htracked.append _
          · nomatch hnext
  | enabled device =>
    dsimp only at hnext
    cases hvalue : binaryValue answer with
    | error error =>
      rw [hvalue] at hnext
      rw [← Sum.inl.inj hnext]
      trivial
    | ok value =>
      rw [hvalue] at hnext
      dsimp only at hnext
      split at hnext
      · nomatch hnext
      · split at hnext
        · rename_i hone
          obtain ⟨text, rfl⟩ := binaryValue_eq_one (hone ▸ hvalue)
          rw [← Sum.inl.inj hnext]
          exact tracked_enabled htracked rfl
        · nomatch hnext
  | disable device =>
    dsimp only at hnext
    cases hcode : writeCode answer with
    | error error =>
      rw [hcode] at hnext
      rw [← Sum.inl.inj hnext]
      trivial
    | ok code =>
      rw [hcode] at hnext
      nomatch hnext

/-- The exchanges are safe, and those of the phase are tracked. -/
def ShellyRun.Sound (settings : ExecutorSettings) (payload : JsonMap) (s : ShellyRun) : Prop :=
  Safe (executorTarget settings payload) s.log ∧ ∃ result, s.At payload result ∧
    ∀ phase, result = .inl phase → Tracked (executorTarget settings payload) s.log phase

theorem ShellyRun.Sound.attempt (h : s.Sound settings payload)
    (hkind : commandKind payload = "disable_matching_generic_shelly_once") (event : ShellyEvent) :
    (attemptShelly settings path payload s event).Sound settings payload := by
  obtain ⟨hsafe, result, hat, htracked⟩ := h
  cases result with
  | inr last =>
    have hkept : attemptShelly settings path payload s event = s := by
      unfold attemptShelly
      rw [show s.ended = some (endOutcome last) from hat]
    rw [hkept]
    exact ⟨hsafe, .inr last, hat, nofun⟩
  | inl phase =>
    rcases attemptShelly_cases hkind hat event with ⟨hlog, hdropped⟩ | ⟨operation, hoperation, hlog, hresult⟩
    · rw [ShellyRun.Sound, hlog]
      exact ⟨hsafe, _, hdropped, nofun⟩
    · rw [ShellyRun.Sound, hlog]
      exact ⟨hsafe.snoc (phaseOperation_allowed (htracked phase rfl) hoperation _), _, hresult,
        fun next hnext => phaseResult_tracked (htracked phase rfl) hoperation hnext⟩

theorem shelly_safe (settings : ExecutorSettings) (path : String)
    (hkind : commandKind payload = "disable_matching_generic_shelly_once") (events : List ShellyEvent) :
    Safe (executorTarget settings payload) (run (attemptShelly settings path payload) .begin events).log := by
  have hbegin : ShellyRun.begin.Sound settings payload := by
    refine ⟨safe_nil _, .inl .discover, ⟨rfl, .inl ⟨rfl, rfl⟩⟩, ?_⟩
    intro phase hphase
    rw [← Sum.inl.inj hphase]
    trivial
  exact (run_invariant (fun _ event hs => hs.attempt hkind event) hbegin events).1

end

/-! ## While the devices keep to their replies -/

section

variable (t : ShellyTarget)

/-- What the devices reply on a bus. -/
def busReplies (bus : DbusOperation → DbusAnswer) : DeviceReplies where
  identity device := (stringValue (bus (.read t.service (t.identityPath device)))).toOption
  enabled device := (numericValue (bus (.read t.service (t.enabledPath device)))).toOption
  accepts device := (writeCode (bus (.write t.service (t.enabledPath device) (.i32 0)))).toBool

/-- Answers that list the devices, which keep to their replies. -/
structure ShellyEvent.Keeps (devices : List String) (replies : DeviceReplies) (event : ShellyEvent) : Prop where
  listed : event.bus (.introspect t.service "/Devices") = .xml (.ok devices)
  replies : busReplies t event.bus = replies

/-- The first device with a matching name can be disabled; without one, the first device that is not another one matches
and can be disabled. -/
def NamedOrFirstMatches (replies : DeviceReplies) (devices : List String) : Prop :=
  match devices.find? t.named with
  | some device => CanDisable replies device
  | none => FirstMatches t replies devices

/-- The cursor of a phase is at a device, and no device of its list has a matching name. -/
def ReadyPhase : ShellyPhase → Prop
  | .identify listed cursor => cursor < listed.length ∧ ∀ device ∈ listed, t.named device = false
  | .discover | .enabled _ | .disable _ => True

end

section

variable {t : ShellyTarget} {devices : List String} {replies : DeviceReplies} {event : ShellyEvent}
  {phase : ShellyPhase} {operation : DbusOperation}

theorem succeeds_discoveredPhase :
    Succeeds t replies (discoveredPhase t devices) ↔ NamedOrFirstMatches t replies devices := by
  unfold discoveredPhase NamedOrFirstMatches
  cases devices.find? t.named with
  | none => simp [Succeeds]
  | some device => simp [Succeeds]

theorem stuck_discoveredPhase (hmatch : ∃ device ∈ devices, Matching t replies device)
    (h : ¬ Succeeds t replies (discoveredPhase t devices)) : Stuck t replies (discoveredPhase t devices) := by
  unfold discoveredPhase at h ⊢
  cases hfind : devices.find? t.named with
  | none =>
    rw [hfind] at h
    exact ⟨hmatch, h⟩
  | some device =>
    rw [hfind] at h
    exact h

theorem ready_discoveredPhase (hdevices : devices ≠ []) : ReadyPhase t (discoveredPhase t devices) := by
  unfold discoveredPhase
  cases hfind : devices.find? t.named with
  | none => exact ⟨List.length_pos_of_ne_nil hdevices, by simpa using hfind⟩
  | some device => trivial

variable {answer : DbusAnswer}

/-- The number of a reading is compared with the values of a channel. -/
theorem binaryValue_of_number {number : Option ℚ} (h : numericValue answer = .ok number) :
    binaryValue answer = .ok (if number = some 0 then some 0 else if number = some 1 then some 1 else none) := by
  unfold binaryValue
  rw [h]
  rfl

theorem binaryValue_of_error {error : String} (h : numericValue answer = .error error) :
    binaryValue answer = .error error := by
  unfold binaryValue
  rw [h]
  rfl

/-- An attempt with such answers keeps to the replies. -/
theorem phaseResult_kept (hkeeps : event.Keeps t devices replies) (hdevices : devices ≠ [])
    (hready : ReadyPhase t phase) (h : PhaseOperation t phase operation) :
    KeptStep t replies true (discoveredPhase t devices) phase (phaseResult t true (event.bus operation) phase) := by
  unfold phaseResult
  -- In each phase the answer is the reply that the device is known to give.
  cases h with
  | discover =>
    dsimp only
    rw [hkeeps.listed]
    show KeptStep _ _ _ _ _ (if devices = [] then _ else _)
    rw [if_neg hdevices]
    exact .discover
  | @identify listed cursor device hdevice =>
    have hname := hready.2 device (List.mem_of_getElem? hdevice)
    have hreplies : replies.identity device =
        (stringValue (event.bus (.read t.service (t.identityPath device)))).toOption := by
      rw [← hkeeps.replies]
      rfl
    dsimp only
    cases htext : stringValue (event.bus (.read t.service (t.identityPath device))) with
    | error error =>
      have hsilent : replies.identity device = none := by rw [hreplies, htext]; rfl
      refine .silent hdevice ?_ ?_
      · rintro (hnamed | ⟨text, htext, -⟩)
        · rw [hname] at hnamed
          nomatch hnamed
        · rw [hsilent] at htext
          nomatch htext
      · intro ⟨_, text, htext, _⟩
        rw [hsilent] at htext
        nomatch htext
    | ok text =>
      have hidentity : replies.identity device = some text := by rw [hreplies, htext]; rfl
      dsimp only
      rw [if_neg (by decide)]
      by_cases hidentified : t.identified text = true
      · rw [if_pos hidentified, hdevice]
        exact .found hdevice (.inr ⟨text, hidentity, hidentified⟩)
      · have hother : Other t replies device := ⟨hname, text, hidentity, Bool.eq_false_iff.mpr hidentified⟩
        rw [if_neg hidentified]
        by_cases hmore : cursor + 1 < listed.length
        · rw [if_pos hmore]
          exact .other hdevice hother
        · rw [if_neg hmore]
          exact .last hdevice hother (Nat.le_of_not_lt hmore)
  | enabled device =>
    have hreplies : replies.enabled device =
        (numericValue (event.bus (.read t.service (t.enabledPath device)))).toOption := by
      rw [← hkeeps.replies]
      rfl
    dsimp only
    cases hnumber : numericValue (event.bus (.read t.service (t.enabledPath device))) with
    | error error =>
      rw [binaryValue_of_error hnumber]
      exact .unread (by rw [hreplies, hnumber]; rfl)
    | ok number =>
      have henabled : replies.enabled device = some number := by rw [hreplies, hnumber]; rfl
      rw [binaryValue_of_number hnumber]
      dsimp only
      by_cases hzero : number = some 0
      · rw [if_pos hzero, if_pos rfl]
        exact .disabled (henabled.trans (congrArg some hzero))
      · by_cases hone : number = some 1
        · rw [if_neg hzero, if_pos hone, if_neg (by decide), if_pos rfl]
          exact .enabled (henabled.trans (congrArg some hone))
        · rw [if_neg hzero, if_neg hone, if_neg (by decide), if_neg (by decide)]
          exact .unsupported henabled hzero hone
  | disable device =>
    have hreplies : replies.accepts device =
        (writeCode (event.bus (.write t.service (t.enabledPath device) (.i32 0)))).toBool := by
      rw [← hkeeps.replies]
      rfl
    dsimp only
    cases hcode : writeCode (event.bus (.write t.service (t.enabledPath device) (.i32 0))) with
    | error error => exact .refused (by rw [hreplies, hcode]; rfl)
    | ok code => exact .accepted (by rw [hreplies, hcode]; rfl)

theorem phaseResult_ready (hready : ReadyPhase t phase) {valid : Bool} {next : ShellyPhase}
    (hnext : phaseResult t valid answer phase = .inl next) : ReadyPhase t next := by
  cases phase with
  | discover =>
    unfold phaseResult at hnext
    dsimp only at hnext
    split at hnext
    · rw [← Sum.inl.inj hnext]
      trivial
    · split at hnext
      · nomatch hnext
      · rename_i hdevices
        rw [← Sum.inl.inj hnext]
        cases valid with
        | true => exact ready_discoveredPhase hdevices
        | false => trivial
  | identify listed cursor =>
    unfold phaseResult at hnext
    dsimp only at hnext
    split at hnext
    · rw [← Sum.inl.inj hnext]
      trivial
    · split at hnext
      · rw [← Sum.inl.inj hnext]
        trivial
      · split at hnext
        · rw [← Sum.inl.inj hnext]
          trivial
        · split at hnext
          · rename_i hmore
            rw [← Sum.inl.inj hnext]
            exact ⟨hmore, hready.2⟩
          · nomatch hnext
  | enabled device =>
    unfold phaseResult at hnext
    dsimp only at hnext
    split at hnext
    · rw [← Sum.inl.inj hnext]
      trivial
    · split at hnext
      · nomatch hnext
      · split at hnext
        · rw [← Sum.inl.inj hnext]
          trivial
        · nomatch hnext
  | disable device =>
    unfold phaseResult at hnext
    dsimp only at hnext
    split at hnext
    · rw [← Sum.inl.inj hnext]
      trivial
    · nomatch hnext

variable {settings : ExecutorSettings} {payload : JsonMap} {active : ActiveCommand} {path : String}
  {sel : String × String} {number : Int}

theorem operationFor_ok (settings : ExecutorSettings) (hselector : selector payload = .ok sel) (hchannel : channel payload = .ok number)
    (hphase : active.stage.AtPhase phase) (hpayload : active.payload = payload) (hready : ReadyPhase t phase) :
    ∃ operation, operationFor settings active = .ok operation := by
  rw [operationFor, hpayload]
  generalize active.stage = stage at hphase
  cases hphase with
  | discover => exact ⟨_, rfl⟩
  | identify devices cursor =>
    dsimp only
    rw [List.getElem?_eq_getElem hready.1]
    dsimp only
    rw [hselector]
    exact ⟨_, rfl⟩
  | enabled device | disable device =>
    dsimp only
    rw [hchannel]
    exact ⟨_, rfl⟩

theorem attemptShelly_exchanges {s : ShellyRun} (hkind : commandKind payload = "disable_matching_generic_shelly_once")
    (htaken : isSemantic payload = true) (hselector : selector payload = .ok sel)
    (hchannel : channel payload = .ok number) (hs : s.At payload (.inl phase)) (hready : ReadyPhase t phase)
    (event : ShellyEvent) :
    ∃ operation, PhaseOperation (executorTarget settings payload) phase operation ∧
      (attemptShelly settings path payload s event).At payload
        (phaseResult (executorTarget settings payload) true (event.bus operation) phase) := by
  have hstart : ∃ result, takenOn path payload s event = .ok result := by
    unfold takenOn
    cases s.active with
    | some active => exact ⟨_, rfl⟩
    | none =>
      obtain ⟨active, hactive⟩ := (MailboxLane.startCommand_isSemantic path payload event.epoch event.now).mpr htaken
      exact ⟨_, hactive⟩
  obtain ⟨result, hresult⟩ := hstart
  obtain ⟨active, rfl, hpayload, hphase⟩ := takenOn_atPhase hkind hs hresult
  obtain ⟨operation, hoperation⟩ := operationFor_ok settings hselector hchannel hphase hpayload hready
  have hvalid : validSelector payload = true := by
    unfold validSelector
    rw [hselector]
    rfl
  refine ⟨operation, operationFor_phase hphase hpayload hoperation, ?_⟩
  unfold attemptShelly
  rw [hs.1, hresult]
  dsimp only
  rw [hoperation, ← hvalid]
  exact completeShelly_at (transition_phase hphase hpayload _ _) rfl hpayload

theorem ready_begin : ShellyRun.begin.At payload (.inl .discover) ∧
    ∀ phase, (Sum.inl ShellyPhase.discover : PhaseResult) = .inl phase → ReadyPhase t phase := by
  refine ⟨⟨rfl, .inl ⟨rfl, rfl⟩⟩, fun phase hphase => ?_⟩
  rw [← Sum.inl.inj hphase]
  trivial

section

variable (hkind : commandKind payload = "disable_matching_generic_shelly_once")
include hkind

theorem attemptShelly_keeps (htaken : isSemantic payload = true) (hselector : selector payload = .ok sel)
    (hchannel : channel payload = .ok number) (hdevices : devices ≠ []) :
    VenusEvcharger.Keeps (executorTarget settings payload) replies true
      (discoveredPhase (executorTarget settings payload) devices) (attemptShelly settings path payload)
      (fun s result => s.At payload result ∧
        ∀ phase, result = .inl phase → ReadyPhase (executorTarget settings payload) phase)
      (ShellyEvent.Keeps (executorTarget settings payload) devices replies) where
  attempt := by
    intro s phase event ⟨hs, hready⟩ hkeeps
    obtain ⟨operation, hoperation, hresult⟩ :=
      attemptShelly_exchanges hkind htaken hselector hchannel hs (hready phase rfl) event
    exact ⟨_, phaseResult_kept hkeeps hdevices (hready phase rfl) hoperation, hresult,
      fun next hnext => phaseResult_ready (hready phase rfl) hnext⟩
  ended := by
    intro s last event h
    obtain ⟨hs, -⟩ := h
    have hkept : attemptShelly settings path payload s event = s := by
      unfold attemptShelly
      rw [show s.ended = some (endOutcome last) from hs]
    rw [hkept]
    exact ⟨hs, nofun⟩

/-- While the devices keep to their replies, an applied command found a device by its name that can be disabled, or
without one the first device that is not another one matches and can be disabled. -/
theorem namedOrFirstMatches_of_applied
    (htaken : isSemantic payload = true) (hselector : selector payload = .ok sel)
    (hchannel : channel payload = .ok number)
    (hmatch : ∃ device ∈ devices, Matching (executorTarget settings payload) replies device)
    {events : List ShellyEvent}
    (hkeeps : ∀ event ∈ events, event.Keeps (executorTarget settings payload) devices replies)
    (happlied : (run (attemptShelly settings path payload) .begin events).ended = some .applied) :
    NamedOrFirstMatches (executorTarget settings payload) replies devices := by
  have hdevices : devices ≠ [] := by
    obtain ⟨device, hmem, -⟩ := hmatch
    exact List.ne_nil_of_mem hmem
  rw [← succeeds_discoveredPhase]
  exact (attemptShelly_keeps hkind htaken hselector hchannel hdevices).succeeds_of_applied ready_begin
    (stuck_discoveredPhase hmatch) hkeeps fun _ h => h.1.applied_iff.mp happlied

theorem applied_of_namedOrFirstMatches
    (htaken : isSemantic payload = true) (hselector : selector payload = .ok sel)
    (hchannel : channel payload = .ok number) (hdevices : devices ≠ [])
    (hfirst : NamedOrFirstMatches (executorTarget settings payload) replies devices)
    {events : List ShellyEvent}
    (hkeeps : ∀ event ∈ events, event.Keeps (executorTarget settings payload) devices replies)
    (hlength : devices.length + 3 ≤ events.length) :
    (run (attemptShelly settings path payload) .begin events).ended = some .applied := by
  have hbound : (discoveredPhase (executorTarget settings payload) devices).measure 0 < events.length := by
    unfold discoveredPhase
    cases devices.find? (executorTarget settings payload).named with
    | none => exact hlength
    | some device =>
      show 2 < events.length
      omega
  rw [← succeeds_discoveredPhase] at hfirst
  exact ((attemptShelly_keeps hkind htaken hselector hchannel hdevices).applied_of_succeeds ready_begin hfirst hkeeps
    hbound).1

end

end

end VenusEvcharger.NativeGateway
