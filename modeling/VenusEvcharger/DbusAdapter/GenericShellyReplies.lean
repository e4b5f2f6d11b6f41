import VenusEvcharger.DbusAdapter.GenericShellyRuns

/-!
# A generic Shelly whose devices keep to their replies

While every device keeps to its replies, a command whose envelope is accepted is applied exactly when the first device
that is not another one matches and can be disabled (`firstMatches_of_applied`, `applied_of_firstMatches`). A command
that the mailbox has stored has a `mailbox_revision`, with which no envelope is accepted.
-/

namespace VenusEvcharger

open Library

section

variable [PyLib] (t : ShellyTarget)

/-- What the devices reply on a bus. -/
def ShellyBus.replies (bus : ShellyBus) : DeviceReplies where
  identity device :=
    match bus.getValue t.service (t.identityPath device) with
    | .error _ => none
    | .ok value => some value.text
  enabled device :=
    match bus.getValue t.service (t.enabledPath device) with
    | .error _ => none
    | .ok value => some (shellyReading value).number
  accepts device :=
    match bus.setValue t.service (t.enabledPath device) 0 with
    | .error _ => false
    | .ok () => true

/-- An answer that lists the devices, which keep to their replies; the file still holds the command. -/
structure ShellyAnswer.Keeps (devices : List String) (replies : DeviceReplies) (answer : ShellyAnswer) : Prop where
  replaced : answer.replaced = true
  listed : ∃ nodes, answer.bus.introspect t.service "/Devices" = .ok nodes ∧ devicesFromXml nodes = devices
  replies : answer.bus.replies t = replies

end

/-- The device of a phase has a name. -/
def ShellyPhase.Named : ShellyPhase → Prop
  | .discover | .identify _ _ => True
  | .enabled device | .disable device => device ≠ ""

section

variable (ipAddress : String → Option String) (request : DisableMatchingGenericShellyOnceRequest)

/-- The command is in its file at a phase, or it has ended. -/
def ShellyCommandRun.At (s : ShellyCommandRun) : PhaseResult → Prop
  | .inl phase => s.ended = none ∧ phase.Named ∧ ∃ command progress, s.held = some command ∧
      HoldsProgress ipAddress request progress command ∧ progress.view = phase
  | .inr last => s.held = none ∧ s.ended = some last.outcome

end

theorem ShellyCommandRun.At.applied_iff {ipAddress : String → Option String}
    {request : DisableMatchingGenericShellyOnceRequest} {s : ShellyCommandRun} {result : PhaseResult}
    (h : s.At ipAddress request result) : s.ended = some .applied ↔ result = .inr .applied := by
  cases result with
  | inl phase =>
    rw [h.1]
    simp
  | inr last =>
    rw [h.2]
    cases last with
    | applied => simp [ShellyEnd.outcome]
    | dropped => simp [ShellyEnd.outcome]

/-! ## Attempts -/

section

variable [PyLib] {t : ShellyTarget} {devices : List String} {replies : DeviceReplies} {answer : ShellyAnswer}
  {phase : ShellyPhase}

section

variable (hkeeps : answer.Keeps t devices replies)
include hkeeps

theorem discoverPhase_kept (hdevices : devices ≠ []) :
    KeptStep t replies false (.identify devices 0) .discover (discoverPhase t answer).2 := by
  obtain ⟨nodes, hnodes, hlisted⟩ := hkeeps.listed
  unfold discoverPhase
  rw [hnodes]
  dsimp only
  rw [hlisted, if_neg hdevices, hkeeps.replaced]
  exact .discover

theorem identifyPhase_kept (listed : List String) (cursor : Nat) :
    KeptStep t replies false (.identify devices 0) (.identify listed cursor) (identifyPhase t listed cursor answer).2 := by
  unfold identifyPhase
  rw [hkeeps.replaced]
  cases hdevice : listed[cursor]? with
  | none => exact .past (List.getElem?_eq_none_iff.mp hdevice)
  | some device =>
    dsimp only
    by_cases hnamed : t.named device = true
    · rw [if_pos hnamed]
      exact .found hdevice (.inl hnamed)
    · rw [if_neg hnamed]
      have hreplies : replies.identity device = (answer.bus.replies t).identity device := by rw [hkeeps.replies]
      rw [Bool.not_eq_true] at hnamed
      cases hvalue : answer.bus.getValue t.service (t.identityPath device) with
      | error error =>
        have hsilent : replies.identity device = none := by rw [hreplies]; simp [ShellyBus.replies, hvalue]
        refine .silent hdevice ?_ ?_
        · rintro (hmatch | ⟨text, htext, -⟩)
          · rw [hnamed] at hmatch
            nomatch hmatch
          · rw [hsilent] at htext
            nomatch htext
        · intro ⟨_, text, htext, _⟩
          rw [hsilent] at htext
          nomatch htext
      | ok value =>
        have hidentity : replies.identity device = some value.text := by
          rw [hreplies]
          simp [ShellyBus.replies, hvalue]
        dsimp only
        cases hidentified : t.identified value.text with
        | true => exact .found hdevice (.inr ⟨value.text, hidentity, hidentified⟩)
        | false => exact .other hdevice ⟨hnamed, value.text, hidentity, hidentified⟩

theorem enabledPhase_kept {device : String} (hnamed : device ≠ "") :
    KeptStep t replies false (.identify devices 0) (.enabled device) (enabledPhase t device answer).2 := by
  unfold enabledPhase
  rw [if_neg hnamed, hkeeps.replaced]
  have hreplies : replies.enabled device = (answer.bus.replies t).enabled device := by rw [hkeeps.replies]
  cases hvalue : answer.bus.getValue t.service (t.enabledPath device) with
  | error error => exact .unread (by rw [hreplies]; simp [ShellyBus.replies, hvalue])
  | ok value =>
    have henabled : replies.enabled device = some (shellyReading value).number := by
      rw [hreplies]
      simp [ShellyBus.replies, hvalue]
    dsimp only
    by_cases hzero : (shellyReading value).number = some 0
    · rw [if_pos hzero]
      exact .disabled (henabled.trans (congrArg some hzero))
    · rw [if_neg hzero]
      by_cases hone : (shellyReading value).number = some 1
      · rw [if_pos hone]
        exact .enabled (henabled.trans (congrArg some hone))
      · rw [if_neg hone]
        exact .unsupported henabled hzero hone

theorem disablePhase_kept {device : String} (hnamed : device ≠ "") :
    KeptStep t replies false (.identify devices 0) (.disable device) (disablePhase t device answer).2 := by
  unfold disablePhase
  rw [if_neg hnamed]
  have hreplies : replies.accepts device = (answer.bus.replies t).accepts device := by rw [hkeeps.replies]
  cases hvalue : answer.bus.setValue t.service (t.enabledPath device) 0 with
  | error error => exact .refused (by rw [hreplies]; simp [ShellyBus.replies, hvalue])
  | ok result => exact .accepted (by rw [hreplies]; simp [ShellyBus.replies, hvalue])

theorem phaseAttempt_kept (hdevices : devices ≠ []) (hnamed : phase.Named) :
    KeptStep t replies false (.identify devices 0) phase (phaseAttempt t phase answer).2 := by
  cases phase with
  | discover => exact discoverPhase_kept hkeeps hdevices
  | identify listed cursor => exact identifyPhase_kept hkeeps listed cursor
  | enabled device => exact enabledPhase_kept hkeeps hnamed
  | disable device => exact disablePhase_kept hkeeps hnamed

end

omit [PyLib] in
theorem KeptStep.named {next : ShellyPhase} (h : KeptStep t replies false (.identify devices 0) phase (.inl next))
    (hphase : phase.Named) (hlisted : ∀ listed cursor, phase = .identify listed cursor → "" ∉ listed) : next.Named := by
  cases h with
  | discover | other | silent => trivial
  | found hdevice hmatch => exact fun hempty => hlisted _ _ rfl (hempty ▸ List.mem_of_getElem? hdevice)
  | enabled | unread | refused => exact hphase

variable {ipAddress : String → Option String} {request : DisableMatchingGenericShellyOnceRequest}
  {configuredService commandFile : String}

variable {command : CommandPayload}

omit [PyLib] in
theorem HoldsProgress.listed {progress : ShellyProgress}
    (h : HoldsProgress ipAddress request progress command) {listed : List String} {cursor : Nat}
    (hview : progress.view = .identify listed cursor) : "" ∉ listed := by
  unfold ShellyProgress.view at hview
  split at hview
  · nomatch hview
  · obtain ⟨rfl, -⟩ := ShellyPhase.identify.inj hview
    exact fun hmem => (h.device hmem).2 rfl
  · nomatch hview
  · nomatch hview

theorem attemptShelly_keeps (hservice : strip configuredService ≠ "") (hfile : commandFile ≠ "")
    (hdevices : devices ≠ []) :
    Keeps (shellyTarget (strip configuredService) request) replies false (.identify devices 0)
      (attemptShelly ipAddress configuredService commandFile) (ShellyCommandRun.At ipAddress request)
      (ShellyAnswer.Keeps (shellyTarget (strip configuredService) request) devices replies) where
  attempt := by
    intro s phase answer ⟨hended, hnamed, command, progress, hheld, hprogress, hview⟩ hkeeps
    have hstep := phaseAttempt_kept hkeeps hdevices hnamed
    have hsim := schedule_step hprogress hservice hfile answer
    rw [hview] at hsim
    refine ⟨_, hstep, ?_⟩
    unfold attemptShelly
    rw [hheld]
    dsimp only
    cases hresult : (phaseAttempt (shellyTarget (strip configuredService) request) phase answer).2 with
    | inl next =>
      obtain ⟨hdeferred, progress', hholds, hview'⟩ := hsim.next next hresult
      rw [hresult] at hstep
      rw [if_pos hdeferred, if_pos hdeferred]
      have hlisted : ∀ listed cursor, phase = .identify listed cursor → "" ∉ listed :=
        fun listed cursor heq => hprogress.listed (hview.trans heq)
      exact ⟨hended, hstep.named hnamed hlisted, _, progress', rfl, hholds, hview'⟩
    | inr last =>
      rw [hsim.outcome last hresult, if_neg last.outcome_ne_deferred, if_neg last.outcome_ne_deferred]
      exact ⟨rfl, rfl⟩
  ended := by
    intro s last answer ⟨hheld, hended⟩
    unfold attemptShelly
    rw [hheld]
    exact ⟨hheld, hended⟩

/-! ## Commands of the wire contract -/

/-- What a command asks for, without the envelope of its transport. -/
def semanticCommand (command : CommandPayload) : CommandPayload :=
  command.filter fun key _ => decide (key ∈ shellyBaseFields)

omit [PyLib] in
theorem get?_semanticCommand {key : String} (hkey : key ∈ shellyBaseFields) (command : CommandPayload) :
    (semanticCommand command).get? key = command.get? key := by
  unfold semanticCommand
  rw [Dict.get?_filter_key (fun key => decide (key ∈ shellyBaseFields)), if_pos (decide_eq_true hkey)]

omit [PyLib] in
theorem parseShelly_iff :
    parseDisableMatchingGenericShellyOnce ipAddress command = some request ↔
      validShellyFieldSet command = true ∧ parsedRequest ipAddress command = some request ∧
        validSemanticEnvelope command request = true ∧ validTransportEnvelope command = true := by
  unfold parseDisableMatchingGenericShellyOnce
  by_cases hfields : validShellyFieldSet command = true
  · rw [if_pos hfields]
    cases hrequest : parsedRequest ipAddress command with
    | none => simp
    | some parsed =>
      dsimp only
      by_cases henvelope : (validSemanticEnvelope command parsed && validTransportEnvelope command) = true
      · rw [if_pos henvelope, Option.some.injEq]
        rw [Bool.and_eq_true] at henvelope
        exact ⟨fun heq => ⟨hfields, heq, heq ▸ henvelope⟩, fun h => h.2.1⟩
      · rw [if_neg henvelope]
        refine iff_of_false nofun ?_
        intro ⟨_, heq, hsemantic, htransport⟩
        rw [Option.some.inj heq, hsemantic, htransport] at henvelope
        exact henvelope rfl
  · rw [if_neg hfields]
    exact iff_of_false nofun fun h => hfields h.1

omit [PyLib] in
theorem validShellyFieldSet_base (h : validShellyFieldSet command = true) :
    (∀ key ∈ shellyBaseFields, command.contains key = true) ∧ ∀ key, command.contains key = true →
      key ∈ shellyBaseFields ++ (shellyTransportRequiredFields ++ shellyTransportOptionalFields) := by
  unfold validShellyFieldSet at h
  dsimp only at h
  split at h
  · rename_i hempty
    refine ⟨List.all_eq_true.mp h, fun key hkey => List.mem_append_left _ ?_⟩
    by_contra hnot
    have hmem : key ∈ command.keys.filter (· ∉ shellyBaseFields) :=
      List.mem_filter.mpr ⟨Dict.contains_iff.mp hkey, decide_eq_true hnot⟩
    rw [List.isEmpty_iff.mp hempty] at hmem
    exact absurd hmem List.not_mem_nil
  · rw [Bool.and_eq_true, List.all_eq_true, List.all_eq_true] at h
    refine ⟨fun key hkey => h.1 key (List.mem_append_left _ hkey), fun key hkey => ?_⟩
    by_cases hbase : key ∈ shellyBaseFields
    · exact List.mem_append_left _ hbase
    · exact List.mem_append_right _ (of_decide_eq_true
        (h.2 key (List.mem_filter.mpr ⟨Dict.contains_iff.mp hkey, decide_eq_true hbase⟩)))

omit [PyLib] in
/-- A command is parsed when what it asks for is, and its envelope is accepted. -/
theorem parseShelly_semantic :
    parseDisableMatchingGenericShellyOnce ipAddress command = some request ↔
      parseDisableMatchingGenericShellyOnce ipAddress (semanticCommand command) = some request ∧
        validShellyFieldSet command = true ∧ validTransportEnvelope command = true := by
  have hget : ∀ key ∈ shellyBaseFields, (semanticCommand command).get? key = command.get? key :=
    fun key hkey => get?_semanticCommand hkey command
  have hrequest : parsedRequest ipAddress (semanticCommand command) = parsedRequest ipAddress command := by
    unfold parsedRequest
    rw [hget "selector" (by decide), hget "channel" (by decide)]
  have hsemantic : validSemanticEnvelope (semanticCommand command) request = validSemanticEnvelope command request := by
    unfold validSemanticEnvelope
    rw [hget "kind" (by decide), hget "source" (by decide), hget "execution" (by decide),
      hget "persistence" (by decide), hget "priority" (by decide), hget "coalesce_key" (by decide)]
  have hversion : (semanticCommand command).get? "schema_version" = none := by
    unfold semanticCommand
    rw [Dict.get?_filter_key (fun key => decide (key ∈ shellyBaseFields)), if_neg (by decide)]
  have htransport : validTransportEnvelope (semanticCommand command) = true := by
    unfold validTransportEnvelope Dict.contains
    rw [hversion]
    rfl
  have hfields (h : validShellyFieldSet command = true) : validShellyFieldSet (semanticCommand command) = true := by
    have hkeys : (semanticCommand command).keys.filter (· ∉ shellyBaseFields) = [] := by
      rw [List.filter_eq_nil_iff]
      intro key hkey hnot
      obtain ⟨value, hvalue⟩ := Dict.mem_keys_iff.mp hkey
      unfold semanticCommand at hvalue
      rw [Dict.get?_filter_key (fun key => decide (key ∈ shellyBaseFields)), if_neg (by simpa using hnot)] at hvalue
      cases hvalue
    unfold validShellyFieldSet
    rw [hkeys]
    refine List.all_eq_true.mpr fun key hkey => ?_
    rw [Dict.contains, hget key hkey]
    exact (validShellyFieldSet_base h).1 key hkey
  rw [parseShelly_iff, parseShelly_iff, hrequest, hsemantic]
  constructor
  · rintro ⟨hvalid, hparsed, hmeaning, henvelope⟩
    exact ⟨⟨hfields hvalid, hparsed, hmeaning, htransport⟩, hvalid, henvelope⟩
  · rintro ⟨⟨_, hparsed, hmeaning, _⟩, hvalid, henvelope⟩
    exact ⟨hvalid, hparsed, hmeaning, henvelope⟩

omit [PyLib] in
/-- The mailbox adds a field that the parser rejects. -/
theorem validShellyFieldSet_revision (h : command.contains mailboxRevisionField = true) :
    validShellyFieldSet command = false := by
  rw [Bool.eq_false_iff]
  exact fun hvalid => absurd ((validShellyFieldSet_base hvalid).2 _ h) (by decide)

omit [PyLib] in
theorem shellyEnvelope_eq_self (h : ∀ key ∈ shellyProgressFields, command.contains key = false) :
    shellyEnvelope command = command := by
  refine Dict.filter_eq_self fun e he => decide_eq_true fun hkey => ?_
  have hnone := h e.1 hkey
  rw [Dict.contains, Dict.mem_entries_iff.mp he] at hnone
  cases hnone

omit [PyLib] in
/-- A command of the wire contract starts with the discovery. -/
theorem parseShelly_holdsProgress
    (h : parseDisableMatchingGenericShellyOnce ipAddress command = some request) :
    HoldsProgress ipAddress request ⟨.discover, [], 0, ""⟩ command := by
  have hdisjoint : ∀ key ∈ shellyProgressFields,
      key ∉ shellyBaseFields ++ (shellyTransportRequiredFields ++ shellyTransportOptionalFields) := by decide
  have habsent : ∀ key ∈ shellyProgressFields, command.contains key = false := fun key hkey =>
    Bool.eq_false_iff.mpr fun hcontains =>
      hdisjoint key hkey ((validShellyFieldSet_base (parseShelly_iff.mp h).1).2 key hcontains)
  have hnone : ∀ key ∈ shellyProgressFields, command.get? key = none := fun key hkey =>
    Option.isNone_iff_eq_none.mp (by simpa [Dict.contains] using habsent key hkey)
  constructor
  · rw [shellyEnvelope_eq_self habsent]
    exact h
  · rw [shellyProgress_eq_some, hnone "phase" (by decide), hnone "devices" (by decide), hnone "cursor" (by decide),
      hnone "matched_device" (by decide)]
    exact ⟨rfl, rfl, rfl, rfl⟩

/-- The command made no attempt, or it was dropped without an exchange. -/
structure ShellyCommandRun.Quiet (command : CommandPayload) (s : ShellyCommandRun) : Prop where
  held : ∀ stored, s.held = some stored → stored = command
  log : s.log = []
  ended : s.ended ≠ some .applied

/-- A command that is not scheduled is dropped without an exchange. -/
theorem unscheduled_run
    (h : ∀ answer : ShellyAnswer, scheduleGenericShelly command answer.bus answer.replaced ipAddress configuredService
      commandFile = ⟨none, .dropped, command⟩) (answers : List ShellyAnswer) :
    (run (attemptShelly ipAddress configuredService commandFile) (ShellyCommandRun.begin command) answers).Quiet
      command := by
  have hbegin : (ShellyCommandRun.begin command).Quiet command := ⟨fun _ heq => (Option.some.inj heq).symm, rfl, nofun⟩
  refine run_invariant ?_ hbegin answers
  intro s answer hs
  unfold attemptShelly
  cases hheld : s.held with
  | none => exact hs
  | some stored =>
    dsimp only
    rw [hs.held stored hheld, h answer]
    exact ⟨nofun, by rw [hs.log]; rfl, nofun⟩

theorem scheduleGenericShelly_rejected
    (hstart : ∀ key ∈ shellyProgressFields, command.contains key = false)
    (h : parseDisableMatchingGenericShellyOnce ipAddress command = none) (answer : ShellyAnswer) :
    scheduleGenericShelly command answer.bus answer.replaced ipAddress configuredService commandFile =
      ⟨none, .dropped, command⟩ := by
  unfold scheduleGenericShelly
  rw [shellyEnvelope_eq_self hstart, h]

theorem scheduleGenericShelly_disabled (command : CommandPayload)
    (h : strip configuredService = "" ∨ commandFile = "") (answer : ShellyAnswer) :
    scheduleGenericShelly command answer.bus answer.replaced ipAddress configuredService commandFile =
      ⟨none, .dropped, command⟩ := by
  unfold scheduleGenericShelly
  cases parseDisableMatchingGenericShellyOnce ipAddress (shellyEnvelope command) with
  | none => rfl
  | some request =>
    cases shellyProgress command with
    | none => rfl
    | some progress =>
      rcases h with hservice | hfile
      · simp [hservice]
      · simp [hfile]

omit [PyLib] in
theorem begin_at (hcommand : parseDisableMatchingGenericShellyOnce ipAddress command = some request) :
    (ShellyCommandRun.begin command).At ipAddress request (.inl .discover) :=
  ⟨rfl, trivial, command, _, rfl, parseShelly_holdsProgress hcommand, rfl⟩

theorem firstMatches_of_applied
    (hstart : ∀ key ∈ shellyProgressFields, command.contains key = false)
    (hcommand : parseDisableMatchingGenericShellyOnce ipAddress (semanticCommand command) = some request)
    (hservice : strip configuredService ≠ "") (hfile : commandFile ≠ "")
    (hmatch : ∃ device ∈ devices, Matching (shellyTarget (strip configuredService) request) replies device)
    {answers : List ShellyAnswer}
    (hkeeps : ∀ answer ∈ answers, answer.Keeps (shellyTarget (strip configuredService) request) devices replies)
    (happlied : (run (attemptShelly ipAddress configuredService commandFile) (ShellyCommandRun.begin command)
      answers).ended = some .applied) :
    (validShellyFieldSet command = true ∧ validTransportEnvelope command = true) ∧
      FirstMatches (shellyTarget (strip configuredService) request) replies devices := by
  cases hparse : parseDisableMatchingGenericShellyOnce ipAddress command with
  | none => exact absurd happlied (unscheduled_run (scheduleGenericShelly_rejected hstart hparse) _).ended
  | some parsed =>
    obtain ⟨hsame, haccepted⟩ := parseShelly_semantic.mp hparse
    obtain rfl : request = parsed := Option.some.inj (hcommand.symm.trans hsame)
    have hdevices : devices ≠ [] := by
      obtain ⟨device, hmem, -⟩ := hmatch
      exact List.ne_nil_of_mem hmem
    exact ⟨haccepted, (attemptShelly_keeps hservice hfile hdevices).succeeds_of_applied (begin_at hparse)
      (fun hfails => ⟨hmatch, hfails⟩) hkeeps fun _ hlast => hlast.applied_iff.mp happlied⟩

theorem applied_of_firstMatches
    (hcommand : parseDisableMatchingGenericShellyOnce ipAddress command = some request)
    (hservice : strip configuredService ≠ "") (hfile : commandFile ≠ "")
    (hfirst : FirstMatches (shellyTarget (strip configuredService) request) replies devices)
    {answers : List ShellyAnswer}
    (hkeeps : ∀ answer ∈ answers, answer.Keeps (shellyTarget (strip configuredService) request) devices replies)
    (hlength : devices.length + 3 ≤ answers.length) :
    (run (attemptShelly ipAddress configuredService commandFile) (ShellyCommandRun.begin command) answers).ended =
      some .applied := by
  have hdevices : devices ≠ [] := by
    obtain ⟨before, device, after, hsplit, -⟩ := hfirst
    simp [hsplit]
  have hlast := (attemptShelly_keeps hservice hfile hdevices).applied_of_succeeds (begin_at hcommand) hfirst hkeeps
    hlength
  exact hlast.2

/-- The exchanges of a command that starts without progress are safe. -/
theorem shelly_safe (hstart : ∀ key ∈ shellyProgressFields, command.contains key = false)
    (hcommand : parseDisableMatchingGenericShellyOnce ipAddress (semanticCommand command) = some request)
    (answers : List ShellyAnswer) :
    Safe (shellyTarget (strip configuredService) request)
      (run (attemptShelly ipAddress configuredService commandFile) (ShellyCommandRun.begin command) answers).log := by
  by_cases hset : strip configuredService = "" ∨ commandFile = ""
  · rw [(unscheduled_run (scheduleGenericShelly_disabled command hset) answers).log]
    exact safe_nil _
  · rw [not_or] at hset
    cases hparse : parseDisableMatchingGenericShellyOnce ipAddress command with
    | none =>
      rw [(unscheduled_run (scheduleGenericShelly_rejected hstart hparse) answers).log]
      exact safe_nil _
    | some parsed =>
      obtain rfl : request = parsed := Option.some.inj (hcommand.symm.trans (parseShelly_semantic.mp hparse).1)
      have hbegin : (ShellyCommandRun.begin command).Sound ipAddress request
          (shellyTarget (strip configuredService) request) :=
        { safe := safe_nil _
          held := by
            intro held heq
            rw [← Option.some.inj heq]
            exact ⟨_, parseShelly_holdsProgress hparse, trivial⟩ }
      exact (run_invariant (fun _ answer hs => hs.attempt hset.1 hset.2 answer) hbegin answers).safe

end

end VenusEvcharger
