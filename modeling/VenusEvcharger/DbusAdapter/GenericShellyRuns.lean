import VenusEvcharger.DbusAdapter.GenericShelly
import VenusEvcharger.Python.Texts

/-!
# Attempts on a command that disables a generic Shelly

An attempt on the persisted command is a step of its phase (`schedule_step`), and it keeps a command sound: its exchanges
are safe, and they account for the phase it is in (`ShellyCommandRun.Sound.attempt`).
-/

namespace VenusEvcharger

open Library

/-! ## An attempt as a step of the phase -/

/-- The outcome with which a command ends. -/
def ShellyEnd.outcome : ShellyEnd → CommandOutcome
  | .applied => .applied
  | .dropped => .dropped

theorem ShellyEnd.outcome_ne_deferred (last : ShellyEnd) : last.outcome ≠ .deferred := by
  cases last <;> nofun

/-- The phase of the progress that is persisted. -/
def ShellyProgress.view (progress : ShellyProgress) : ShellyPhase :=
  match progress.phase with
  | .discover => .discover
  | .identify => .identify progress.devices progress.cursor
  | .enabled => .enabled progress.matchedDevice
  | .disable => .disable progress.matchedDevice

/-- A command in its file, how it ended, and its exchanges. -/
structure ShellyCommandRun where
  held : Option CommandPayload
  ended : Option CommandOutcome
  log : List ShellyExchange

/-- What an attempt meets: the bus, and whether the file still holds the command when it is rewritten. -/
structure ShellyAnswer where
  bus : ShellyBus
  replaced : Bool

section

variable [PyLib] (t : ShellyTarget)

/-- The step that goes on to a phase while the command is current. -/
def advance (replaced : Bool) (next : ShellyPhase) : PhaseResult := if replaced then .inl next else .inr .dropped

/-- The discovery. -/
def discoverPhase (answer : ShellyAnswer) : Option ShellyExchange × PhaseResult :=
  match answer.bus.introspect t.service "/Devices" with
  | .error _ => (some (.introspect t.service "/Devices" none), .inl .discover)
  | .ok nodes =>
    (some (.introspect t.service "/Devices" (some (devicesFromXml nodes))),
      if devicesFromXml nodes = [] then .inr .applied
      else advance answer.replaced (.identify (devicesFromXml nodes) 0))

/-- The identification of the device that the cursor is at. -/
def identifyPhase (devices : List String) (cursor : Nat) (answer : ShellyAnswer) : Option ShellyExchange × PhaseResult :=
  match devices[cursor]? with
  | none => (none, .inr .applied)
  | some device =>
    if t.named device then (none, advance answer.replaced (.enabled device))
    else
      match answer.bus.getValue t.service (t.identityPath device) with
      | .error _ => (some (.read t.service (t.identityPath device) none), .inl (.identify devices cursor))
      | .ok value =>
        (some (.read t.service (t.identityPath device) (some (shellyReading value))),
          advance answer.replaced
            (if t.identified value.text then .enabled device else .identify devices (cursor + 1)))

/-- The reading of the channel of the device that matched. -/
def enabledPhase (device : String) (answer : ShellyAnswer) : Option ShellyExchange × PhaseResult :=
  if device = "" then (none, .inr .dropped)
  else
    match answer.bus.getValue t.service (t.enabledPath device) with
    | .error _ => (some (.read t.service (t.enabledPath device) none), .inl (.enabled device))
    | .ok value =>
      (some (.read t.service (t.enabledPath device) (some (shellyReading value))),
        if (shellyReading value).number = some 0 then .inr .applied
        else if (shellyReading value).number = some 1 then advance answer.replaced (.disable device)
        else .inr .dropped)

/-- The write that disables the channel. -/
def disablePhase (device : String) (answer : ShellyAnswer) : Option ShellyExchange × PhaseResult :=
  if device = "" then (none, .inr .dropped)
  else
    match answer.bus.setValue t.service (t.enabledPath device) 0 with
    | .error _ => (some (.write t.service (t.enabledPath device) 0 false), .inl (.disable device))
    | .ok () => (some (.write t.service (t.enabledPath device) 0 true), .inr .applied)

/-- An attempt in a phase: the exchange and what comes of it. -/
def phaseAttempt (phase : ShellyPhase) (answer : ShellyAnswer) : Option ShellyExchange × PhaseResult :=
  match phase with
  | .discover => discoverPhase t answer
  | .identify devices cursor => identifyPhase t devices cursor answer
  | .enabled device => enabledPhase t device answer
  | .disable device => disablePhase t device answer

section

variable (ipAddress : String → Option String) (configuredService commandFile : String)

/-- One attempt on the command, with what the queue does about its outcome. -/
def attemptShelly (s : ShellyCommandRun) (answer : ShellyAnswer) : ShellyCommandRun :=
  match s.held with
  | none => s
  | some command =>
    let attempt := scheduleGenericShelly command answer.bus answer.replaced ipAddress configuredService commandFile
    { held := if attempt.outcome = .deferred then some attempt.command else none
      ended := if attempt.outcome = .deferred then s.ended else some attempt.outcome
      log := s.log ++ attempt.exchange.toList }

end

/-- A command that is in its file and has made no attempt. -/
def ShellyCommandRun.begin (command : CommandPayload) : ShellyCommandRun := ⟨some command, none, []⟩

end

/-! ## Rewriting the progress -/

theorem shellyEnvelope_set {key : String} (hkey : key ∈ shellyProgressFields) (command : CommandPayload) (value : Value) :
    shellyEnvelope (command.set key value) = shellyEnvelope command :=
  Dict.filter_key_set (p := fun key => decide (key ∉ shellyProgressFields)) (by simpa using hkey) command value

theorem strip_strippedText (value : Value) : strip (strippedText value) = strippedText value := by
  cases value with
  | str s => exact strip_strip s
  | null | bool | int | float | list | obj => rfl

/-- The devices of a progress are stripped names. -/
theorem normalizedDevices_mem {value : Option Value} {devices : List String} (h : normalizedDevices value = some devices)
    {device : String} (hdevice : device ∈ devices) : strip device = device ∧ device ≠ "" := by
  unfold normalizedDevices at h
  split at h
  · rw [← Option.some.inj h] at hdevice
    exact absurd hdevice List.not_mem_nil
  · split at h
    · rename_i items hall
      rw [← Option.some.inj h] at hdevice
      obtain ⟨item, hitem, rfl⟩ := List.mem_map.mp hdevice
      exact ⟨strip_strippedText item, of_decide_eq_true (List.all_eq_true.mp hall item hitem)⟩
    · nomatch h
  · nomatch h

/-- Stripped names are persisted as they are. -/
theorem normalizedDevices_list {devices : List String} (h : ∀ device ∈ devices, strip device = device ∧ device ≠ "") :
    normalizedDevices (some (.list (devices.map .str))) = some devices := by
  have htext : (devices.map Value.str).map strippedText = devices := by
    rw [List.map_map]
    calc devices.map (strippedText ∘ Value.str) = devices.map id :=
          List.map_congr_left fun device hdevice => (h device hdevice).1
      _ = devices := List.map_id _
  have hall : (devices.map Value.str).all (strippedText · ≠ "") = true := by
    rw [List.all_eq_true]
    intro item hitem
    obtain ⟨device, hdevice, rfl⟩ := List.mem_map.mp hitem
    rw [decide_eq_true_eq]
    show strip device ≠ ""
    rw [(h device hdevice).1]
    exact (h device hdevice).2
  show (if (devices.map Value.str).all (strippedText · ≠ "") then some ((devices.map Value.str).map strippedText)
    else none) = _
  rw [if_pos hall, htext]

theorem devicesFromXml_mem {nodes : Option (List (Option String))} {device : String}
    (h : device ∈ devicesFromXml nodes) : strip device = device ∧ device ≠ "" := by
  obtain ⟨name, -, hname⟩ := List.mem_filterMap.mp h
  split at hname
  · nomatch hname
  · rename_i hne
    rw [← Option.some.inj hname]
    exact ⟨strip_strip _, hne⟩

theorem shellyProgress_eq_some {command : CommandPayload} {progress : ShellyProgress} :
    shellyProgress command = some progress ↔
      parsedShellyPhase (command.get? "phase") = some progress.phase ∧
      normalizedDevices (command.get? "devices") = some progress.devices ∧
      parsedCursor (command.get? "cursor") = some progress.cursor ∧
      parsedMatchedDevice (command.get? "matched_device") = some progress.matchedDevice := by
  simp only [shellyProgress, Option.bind_eq_bind, Option.bind_eq_some_iff, Option.pure_def, Option.some.injEq]
  constructor
  · intro ⟨phase, hphase, devices, hdevices, cursor, hcursor, matchedDevice, hmatched, heq⟩
    rw [← heq]
    exact ⟨hphase, hdevices, hcursor, hmatched⟩
  · intro ⟨hphase, hdevices, hcursor, hmatched⟩
    exact ⟨_, hphase, _, hdevices, _, hcursor, _, hmatched, rfl⟩

@[simp] theorem parsedShellyPhase_text (phase : GenericShellyPhase) :
    parsedShellyPhase (some (.str phase.text)) = some phase := by
  cases phase <;> rfl

/-- A command that holds a request and a progress. -/
structure HoldsProgress (ipAddress : String → Option String) (request : DisableMatchingGenericShellyOnceRequest)
    (progress : ShellyProgress) (command : CommandPayload) : Prop where
  request_eq : parseDisableMatchingGenericShellyOnce ipAddress (shellyEnvelope command) = some request
  progress_eq : shellyProgress command = some progress

variable {ipAddress : String → Option String} {request : DisableMatchingGenericShellyOnceRequest}
  {progress : ShellyProgress} {command : CommandPayload}

section

variable (h : HoldsProgress ipAddress request progress command)
include h

theorem HoldsProgress.device {device : String}
    (hdevice : device ∈ progress.devices) : strip device = device ∧ device ≠ "" :=
  normalizedDevices_mem (shellyProgress_eq_some.mp h.progress_eq).2.1 hdevice

theorem HoldsProgress.setPhase (phase : GenericShellyPhase) :
    HoldsProgress ipAddress request { progress with phase := phase } (command.set "phase" (.str phase.text)) where
  request_eq := by rw [shellyEnvelope_set (by decide), h.request_eq]
  progress_eq := by
    have hprogress := shellyProgress_eq_some.mp h.progress_eq
    rw [shellyProgress_eq_some]
    simpa [Dict.get?_set] using hprogress.2

theorem HoldsProgress.setDevices {devices : List String}
    (hdevices : ∀ device ∈ devices, strip device = device ∧ device ≠ "") :
    HoldsProgress ipAddress request { progress with devices := devices }
      (command.set "devices" (.list (devices.map .str))) where
  request_eq := by rw [shellyEnvelope_set (by decide), h.request_eq]
  progress_eq := by
    have hprogress := shellyProgress_eq_some.mp h.progress_eq
    rw [shellyProgress_eq_some]
    simp [Dict.get?_set, normalizedDevices_list hdevices, hprogress]

theorem HoldsProgress.setCursor (cursor : Nat) :
    HoldsProgress ipAddress request { progress with cursor := cursor } (command.set "cursor" (.int cursor)) where
  request_eq := by rw [shellyEnvelope_set (by decide), h.request_eq]
  progress_eq := by
    have hprogress := shellyProgress_eq_some.mp h.progress_eq
    rw [shellyProgress_eq_some]
    simp [Dict.get?_set, parsedCursor, hprogress]

theorem HoldsProgress.setMatched {device : String} (hdevice : strip device = device) :
    HoldsProgress ipAddress request { progress with matchedDevice := device }
      (command.set "matched_device" (.str device)) where
  request_eq := by rw [shellyEnvelope_set (by decide), h.request_eq]
  progress_eq := by
    have hprogress := shellyProgress_eq_some.mp h.progress_eq
    rw [shellyProgress_eq_some]
    simp [Dict.get?_set, parsedMatchedDevice, hprogress, hdevice]

end

/-! ## The handlers -/

/-- An attempt on the command does what a step of its phase does. -/
structure Simulates (ipAddress : String → Option String) (request : DisableMatchingGenericShellyOnceRequest)
    (attempt : ShellyAttempt) (step : Option ShellyExchange × PhaseResult) : Prop where
  exchange : attempt.exchange = step.1
  next : ∀ phase, step.2 = .inl phase → attempt.outcome = .deferred ∧
    ∃ progress, HoldsProgress ipAddress request progress attempt.command ∧ progress.view = phase
  outcome : ∀ last, step.2 = .inr last → attempt.outcome = last.outcome

theorem simulates_outcome (exchange : Option ShellyExchange) (last : ShellyEnd) :
    Simulates ipAddress request ⟨exchange, last.outcome, command⟩ (exchange, .inr last) where
  exchange := rfl
  next := nofun
  outcome := by
    intro other heq
    rw [← Sum.inr.inj heq]

theorem simulates_same (exchange : Option ShellyExchange) (h : HoldsProgress ipAddress request progress command)
    {phase : ShellyPhase} (hview : progress.view = phase) :
    Simulates ipAddress request ⟨exchange, .deferred, command⟩ (exchange, .inl phase) where
  exchange := rfl
  next := by
    intro other heq
    rw [← Sum.inl.inj heq]
    exact ⟨rfl, progress, h, hview⟩
  outcome := nofun

theorem simulates_rewrite {next : ShellyProgress} {changes : List (String × Value)} (replaced : Bool)
    (exchange : Option ShellyExchange) (h : HoldsProgress ipAddress request next
      (changes.foldl (fun command change => command.set change.1 change.2) command)) {phase : ShellyPhase}
    (hview : next.view = phase) :
    Simulates ipAddress request (rewriteShellyCommand command replaced exchange changes)
      (exchange, advance replaced phase) := by
  cases replaced with
  | true => exact simulates_same exchange h hview
  | false => exact simulates_outcome exchange .dropped

section

variable [PyLib] {t : ShellyTarget} {answer : ShellyAnswer}

omit [PyLib] in
theorem shellyDiscover_step (h : HoldsProgress ipAddress request progress command) (hphase : progress.phase = .discover) :
    Simulates ipAddress request (shellyDiscover t command answer.bus answer.replaced) (discoverPhase t answer) := by
  unfold shellyDiscover discoverPhase
  cases answer.bus.introspect t.service "/Devices" with
  | error error => exact simulates_same _ h (by rw [ShellyProgress.view, hphase])
  | ok nodes =>
    dsimp only
    cases hdevices : devicesFromXml nodes with
    | nil => exact simulates_outcome _ .applied
    | cons first rest =>
      rw [← hdevices, if_neg (by simp [hdevices]), if_neg (by simp [hdevices])]
      have hnames : ∀ device ∈ devicesFromXml nodes, strip device = device ∧ device ≠ "" :=
        fun _ hdevice => devicesFromXml_mem hdevice
      have hnext := ((h.setPhase .identify).setDevices hnames).setCursor 0
      exact simulates_rewrite _ _ hnext rfl

theorem shellyIdentify_step (h : HoldsProgress ipAddress request progress command) (hphase : progress.phase = .identify) :
    Simulates ipAddress request (shellyIdentify t command progress answer.bus answer.replaced)
      (identifyPhase t progress.devices progress.cursor answer) := by
  unfold shellyIdentify identifyPhase
  cases hdevice : progress.devices[progress.cursor]? with
  | none => exact simulates_outcome _ .applied
  | some device =>
    have hfound := (h.setPhase .enabled).setMatched (h.device (List.mem_of_getElem? hdevice)).1
    dsimp only
    by_cases hnamed : t.named device = true
    · rw [if_pos hnamed, if_pos hnamed]
      exact simulates_rewrite _ _ hfound rfl
    · rw [if_neg hnamed, if_neg hnamed]
      cases answer.bus.getValue t.service (t.identityPath device) with
      | error error => exact simulates_same _ h (by rw [ShellyProgress.view, hphase])
      | ok value =>
        dsimp only
        by_cases hidentified : t.identified value.text = true
        · rw [if_pos hidentified, if_pos hidentified]
          exact simulates_rewrite _ _ hfound rfl
        · rw [if_neg hidentified, if_neg hidentified]
          exact simulates_rewrite _ _ (h.setCursor (progress.cursor + 1)) (by rw [ShellyProgress.view, hphase])

theorem number_shellyReading (value : Value) (q : ℚ) :
    ((coerceDbusNumeric value).getD .nan).eq (.fin q) = decide ((shellyReading value).number = some q) := by
  unfold shellyReading
  cases coerceDbusNumeric value with
  | none => rfl
  | some x =>
    cases x with
    | nan | negInf | posInf => rfl
    | fin x =>
      show (decide (x ≤ q) && decide (q ≤ x)) = decide (some x = some q)
      rw [Bool.eq_iff_iff, Bool.and_eq_true, decide_eq_true_eq, decide_eq_true_eq, decide_eq_true_eq,
        Option.some.injEq]
      exact ⟨fun ⟨hle, hge⟩ => le_antisymm hle hge, fun heq => ⟨heq.le, heq.ge⟩⟩

theorem shellyReadEnabled_step (h : HoldsProgress ipAddress request progress command) (hphase : progress.phase = .enabled) :
    Simulates ipAddress request (shellyReadEnabled t command progress answer.bus answer.replaced)
      (enabledPhase t progress.matchedDevice answer) := by
  unfold shellyReadEnabled enabledPhase
  by_cases hempty : progress.matchedDevice = ""
  · rw [if_pos hempty, if_pos hempty]
    exact simulates_outcome _ .dropped
  · rw [if_neg hempty, if_neg hempty]
    dsimp only
    cases answer.bus.getValue t.service (t.enabledPath progress.matchedDevice) with
    | error error => exact simulates_same _ h (by rw [ShellyProgress.view, hphase])
    | ok value =>
      dsimp only
      rw [number_shellyReading, number_shellyReading]
      by_cases hzero : (shellyReading value).number = some 0
      · rw [if_pos hzero, if_pos (decide_eq_true hzero)]
        exact simulates_outcome _ .applied
      · rw [if_neg hzero, if_neg (by simpa using hzero)]
        by_cases hone : (shellyReading value).number = some 1
        · rw [if_pos hone, if_neg (by simpa using hone)]
          exact simulates_rewrite _ _ (h.setPhase .disable) rfl
        · rw [if_neg hone, if_pos (by simpa using hone)]
          exact simulates_outcome _ .dropped

omit [PyLib] in
theorem shellyDisable_step (h : HoldsProgress ipAddress request progress command) (hphase : progress.phase = .disable) :
    Simulates ipAddress request (shellyDisable t command progress answer.bus)
      (disablePhase t progress.matchedDevice answer) := by
  unfold shellyDisable disablePhase
  by_cases hempty : progress.matchedDevice = ""
  · rw [if_pos hempty, if_pos hempty]
    exact simulates_outcome _ .dropped
  · rw [if_neg hempty, if_neg hempty]
    dsimp only
    cases answer.bus.setValue t.service (t.enabledPath progress.matchedDevice) 0 with
    | error error => exact simulates_same _ h (by rw [ShellyProgress.view, hphase])
    | ok result => exact simulates_outcome _ .applied

variable {configuredService commandFile : String}

theorem schedule_step (h : HoldsProgress ipAddress request progress command) (hservice : strip configuredService ≠ "")
    (hfile : commandFile ≠ "") (answer : ShellyAnswer) :
    Simulates ipAddress request
      (scheduleGenericShelly command answer.bus answer.replaced ipAddress configuredService commandFile)
      (phaseAttempt (shellyTarget (strip configuredService) request) progress.view answer) := by
  unfold scheduleGenericShelly
  rw [h.request_eq, h.progress_eq]
  dsimp only
  rw [if_neg hfile, if_neg hservice]
  unfold ShellyProgress.view
  cases hphase : progress.phase with
  | discover => exact shellyDiscover_step h hphase
  | identify => exact shellyIdentify_step h hphase
  | enabled => exact shellyReadEnabled_step h hphase
  | disable => exact shellyDisable_step h hphase

/-! ## Safety -/

/-- What holds of a command in its file and of the exchanges so far. -/
structure ShellyCommandRun.Sound (ipAddress : String → Option String) (request : DisableMatchingGenericShellyOnceRequest)
    (t : ShellyTarget) (s : ShellyCommandRun) : Prop where
  safe : Safe t s.log
  held : ∀ command, s.held = some command →
    ∃ progress, HoldsProgress ipAddress request progress command ∧ Tracked t s.log progress.view

/-- A step whose exchange is allowed and whose next phase is tracked. -/
structure SafeStep (t : ShellyTarget) (log : List ShellyExchange) (step : Option ShellyExchange × PhaseResult) : Prop where
  safe : Safe t (log ++ step.1.toList)
  tracked : ∀ next, step.2 = .inl next → Tracked t (log ++ step.1.toList) next

omit [PyLib] in
theorem eq_of_advance {replaced : Bool} {phase next : ShellyPhase} (h : advance replaced phase = .inl next) :
    phase = next := by
  cases replaced with
  | true => exact Sum.inl.inj h
  | false => nomatch h

variable {log : List ShellyExchange}

section

variable (hsafe : Safe t log)
include hsafe

omit [PyLib] in
theorem safeStep_exchange {x : ShellyExchange} (hx : Allowed t log x) {result : PhaseResult}
    (htracked : ∀ next, result = .inl next → Tracked t (log ++ [x]) next) : SafeStep t log (some x, result) :=
  ⟨hsafe.snoc hx, htracked⟩

omit [PyLib] in
theorem safeStep_silent {result : PhaseResult}
    (htracked : ∀ next, result = .inl next → Tracked t log next) : SafeStep t log (none, result) where
  safe := by
    show Safe t (log ++ [])
    rwa [List.append_nil]
  tracked := by
    intro next hnext
    show Tracked t (log ++ []) next
    rw [List.append_nil]
    exact htracked next hnext

omit [PyLib] in
theorem discoverPhase_safe (answer : ShellyAnswer) : SafeStep t log (discoverPhase t answer) := by
  unfold discoverPhase
  cases answer.bus.introspect t.service "/Devices" with
  | error error =>
    apply safeStep_exchange hsafe (.discovery none)
    intro next hnext
    rw [← Sum.inl.inj hnext]
    trivial
  | ok nodes =>
    apply safeStep_exchange hsafe (.discovery _)
    intro next hnext
    split at hnext
    · nomatch hnext
    · rw [← eq_of_advance hnext]
      exact tracked_discovered t log _

theorem identifyPhase_safe {devices : List String} {cursor : Nat}
    (htracked : Tracked t log (.identify devices cursor)) (answer : ShellyAnswer) :
    SafeStep t log (identifyPhase t devices cursor answer) := by
  unfold identifyPhase
  cases hdevice : devices[cursor]? with
  | none => exact safeStep_silent hsafe nofun
  | some device =>
    have hmem := List.mem_of_getElem? hdevice
    dsimp only
    split
    · rename_i hnamed
      apply safeStep_silent hsafe
      intro next hnext
      rw [← eq_of_advance hnext]
      exact ⟨htracked device hmem, .inl hnamed⟩
    · cases answer.bus.getValue t.service (t.identityPath device) with
      | error error =>
        apply safeStep_exchange hsafe (.identity (htracked device hmem) none)
        intro next hnext
        rw [← Sum.inl.inj hnext]
        exact htracked.append _
      | ok value =>
        apply safeStep_exchange hsafe (.identity (htracked device hmem) _)
        intro next hnext
        rw [← eq_of_advance hnext]
        split
        · rename_i hidentified
          exact tracked_identified htracked hmem hidentified
        · exact htracked.append _

theorem enabledPhase_safe {device : String} (htracked : Tracked t log (.enabled device))
    (answer : ShellyAnswer) : SafeStep t log (enabledPhase t device answer) := by
  unfold enabledPhase
  split
  · exact safeStep_silent hsafe nofun
  · cases answer.bus.getValue t.service (t.enabledPath device) with
    | error error =>
      apply safeStep_exchange hsafe (.enabled htracked.1 htracked.2 none)
      intro next hnext
      rw [← Sum.inl.inj hnext]
      exact htracked.append _
    | ok value =>
      apply safeStep_exchange hsafe (.enabled htracked.1 htracked.2 _)
      intro next hnext
      split at hnext
      · nomatch hnext
      · split at hnext
        · rename_i hone
          rw [← eq_of_advance hnext]
          exact tracked_enabled htracked hone
        · nomatch hnext

omit [PyLib] in
theorem disablePhase_safe {device : String} (htracked : Tracked t log (.disable device))
    (answer : ShellyAnswer) : SafeStep t log (disablePhase t device answer) := by
  unfold disablePhase
  split
  · exact safeStep_silent hsafe nofun
  · cases answer.bus.setValue t.service (t.enabledPath device) 0 with
    | error error =>
      apply safeStep_exchange hsafe (.disable htracked.1 htracked.2.1 htracked.2.2 false)
      intro next hnext
      rw [← Sum.inl.inj hnext]
      exact htracked.append _
    | ok result => exact safeStep_exchange hsafe (.disable htracked.1 htracked.2.1 htracked.2.2 true) nofun

theorem phaseAttempt_safe {phase : ShellyPhase} (htracked : Tracked t log phase)
    (answer : ShellyAnswer) : SafeStep t log (phaseAttempt t phase answer) := by
  cases phase with
  | discover => exact discoverPhase_safe hsafe answer
  | identify devices cursor => exact identifyPhase_safe hsafe htracked answer
  | enabled device => exact enabledPhase_safe hsafe htracked answer
  | disable device => exact disablePhase_safe hsafe htracked answer

end

theorem ShellyCommandRun.Sound.attempt {s : ShellyCommandRun}
    (h : s.Sound ipAddress request (shellyTarget (strip configuredService) request))
    (hservice : strip configuredService ≠ "") (hfile : commandFile ≠ "") (answer : ShellyAnswer) :
    (attemptShelly ipAddress configuredService commandFile s answer).Sound ipAddress request
      (shellyTarget (strip configuredService) request) := by
  unfold attemptShelly
  cases hheld : s.held with
  | none => exact h
  | some command =>
    obtain ⟨progress, hprogress, htracked⟩ := h.held command hheld
    have hsim := schedule_step hprogress hservice hfile answer
    have hstep := phaseAttempt_safe h.safe htracked answer
    dsimp only
    refine ⟨?_, ?_⟩
    · rw [hsim.exchange]
      exact hstep.safe
    · intro rewritten hrewritten
      rw [hsim.exchange]
      cases hresult : (phaseAttempt (shellyTarget (strip configuredService) request) progress.view answer).2 with
      | inl next =>
        obtain ⟨hdeferred, progress', hholds, hview⟩ := hsim.next next hresult
        rw [if_pos hdeferred] at hrewritten
        rw [← Option.some.inj hrewritten]
        exact ⟨progress', hholds, hview ▸ hstep.tracked next hresult⟩
      | inr last =>
        rw [hsim.outcome last hresult, if_neg last.outcome_ne_deferred] at hrewritten
        nomatch hrewritten

end

end VenusEvcharger
