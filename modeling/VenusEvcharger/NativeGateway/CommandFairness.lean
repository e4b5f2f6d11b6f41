import VenusEvcharger.NativeGateway.MailboxGenerations

/-!
# Fairness of the mailbox scan

A scan starts the first command in the order of priority that it can. A command that is answered with an error
stays in its file and keeps its place in that order, so it is first again when the retry delay is over.
`attempts_fair_iff` says when the others are attempted before it is attempted once more.

Scope: runs without pressure. A command that is stored during a scan counts as stored after it.
-/

namespace VenusEvcharger.NativeGateway

open Library

/-- What the gateway is told during a scan: its clocks, and for each command what `ConsiderInput` names. -/
structure ScanInput where
  capturedAt : ℚ
  epoch : ℚ
  now : ℚ
  budget : LoadedCommand → Bool
  publishes : LoadedCommand → Bool
  publication : LoadedCommand → Except String PublicationOutcome
  refreshes : LoadedCommand → Bool
  schedules : LoadedCommand → Bool

/-- The input for one command of the scan, without pressure. -/
def ScanInput.consider (input : ScanInput) (loaded : LoadedCommand) : ConsiderInput where
  capturedAt := input.capturedAt
  epoch := input.epoch
  now := input.now
  pressure := .ok
  budget := input.budget loaded
  publishes := input.publishes loaded
  publication := input.publication loaded
  refreshes := input.refreshes loaded
  schedules := input.schedules loaded

/-- A command that the executor takes on: of a semantic kind, with a valid contract. -/
def isSemantic (command : JsonMap) : Bool :=
  match startCommand "" command 0 0 with
  | .ok (.inr _) => true
  | .ok (.inl _) | .error _ => false

namespace MailboxLane

/-- `Mailbox::pending`, by path. -/
def pending (s : MailboxLane) : List LoadedCommand :=
  (s.files.entries.insertionSort fun left right => left.1 ≤ right.1).map fun file => file.2.load file.1

/-- The pending commands in the order in which a scan considers them. -/
def scanOrder (s : MailboxLane) (capturedAt : ℚ) : List LoadedCommand :=
  prioritize (·.command) capturedAt s.pending

/-- The loop of `process_mailbox_if_due`. -/
def considerAll (input : ScanInput) (listed : List LoadedCommand) (s : MailboxLane) : MailboxLane :=
  listed.foldl (fun s loaded => s.consider (input.consider loaded)) s

/-- `process_mailbox_if_due`. -/
def scan (s : MailboxLane) (input : ScanInput) : MailboxLane :=
  considerAll input (s.scanOrder input.capturedAt) { s with listed := s.scanOrder input.capturedAt }

/-- A command is unexpired, valid and within the budget of its class. -/
def startable (input : ScanInput) (loaded : LoadedCommand) : Bool :=
  !commandDeadlineExpired loaded.command input.capturedAt && input.budget loaded && isSemantic loaded.command

/-- The slot of the active command is free and the retry delay is over. -/
def CanStart (s : MailboxLane) (now : ℚ) : Prop := s.active = none ∧ s.nextCommandRetry ≤ now

instance (s : MailboxLane) (now : ℚ) : Decidable (s.CanStart now) :=
  decidable_of_iff (s.active.isNone = true ∧ s.nextCommandRetry ≤ now) (by simp [CanStart])

/-! ## What a scan starts -/

/-- The contract of a command does not depend on its path or on the time. -/
theorem startCommand_isSemantic (path : String) (command : JsonMap) (epoch now : ℚ) :
    (∃ active, startCommand path command epoch now = .ok (.inr active)) ↔ isSemantic command = true := by
  unfold isSemantic startCommand
  cases startStage command with
  | error error => simp
  | ok stage =>
    cases stage with
    | none => simp
    | some stage =>
      unfold commandDelay
      dsimp only
      by_cases h : (command.number? "not_before").getD 0 < 0
      · simp [h]
      · simp [h]

theorem kind_of_isSemantic {command : JsonMap} (h : isSemantic command = true) :
    isPublication (commandKind command) = false ∧ commandKind command ≠ "refresh_energy_inputs" ∧
      commandKind command ≠ "introspect" := by
  have hkinds : ∀ kind ∈ ["gx_relay_refresh", "gx_relay_set_enabled", "ess_grid_setpoint",
      "disable_matching_generic_shelly_once"],
      isPublication kind = false ∧ kind ≠ "refresh_energy_inputs" ∧ kind ≠ "introspect" := by decide
  refine hkinds _ ?_
  unfold isSemantic startCommand startStage at h
  generalize commandKind command = kind at h ⊢
  by_contra hother
  simp only [List.mem_cons, List.not_mem_nil, or_false, not_or] at hother
  simp [hother, pure, Except.pure] at h

variable {s : MailboxLane} {input : ScanInput}

/-- Without pressure, a free slot goes to a command exactly when it is startable. -/
theorem verdict_start_iff (hs : s.CanStart input.now) (loaded : LoadedCommand) :
    (∃ active, s.verdict (input.consider loaded) loaded = .start active) ↔ startable input loaded = true := by
  have hallowed : runtimeWorkAllowed loaded.command .ok = true := by
    unfold runtimeWorkAllowed commandAllowed
    simp
  constructor
  · rintro ⟨active, h⟩
    obtain ⟨hexpired, hbudget, -, hstart⟩ := verdict_start h
    have hvalid : isSemantic loaded.command = true := (startCommand_isSemantic _ _ _ _).mp ⟨active, hstart⟩
    simp only [startable, hvalid, Bool.and_true, Bool.and_eq_true, Bool.not_eq_true']
    exact ⟨hexpired, hbudget⟩
  · intro h
    simp only [startable, Bool.and_eq_true, Bool.not_eq_true'] at h
    obtain ⟨⟨hexpired, hbudget⟩, hvalid⟩ := h
    obtain ⟨active, hactive⟩ :=
      (startCommand_isSemantic loaded.path loaded.command input.epoch input.now).mpr hvalid
    obtain ⟨hpublication, hrefresh, hintrospect⟩ := kind_of_isSemantic hvalid
    refine ⟨active, ?_⟩
    simp [verdict, ScanInput.consider, hexpired, hallowed, hbudget, hpublication, hrefresh, hintrospect, hs.1,
      not_lt.mpr hs.2, hactive]

variable {listed : List LoadedCommand}

/-- Considering a command changes neither the retry delay nor a slot that cannot be taken. -/
theorem consider_cases (s : MailboxLane) (input : ConsiderInput) {loaded : LoadedCommand}
    (hlisted : s.listed = loaded :: listed) :
    (∃ active, s.verdict input loaded = .start active ∧ (s.consider input).active = some (loaded, active) ∧
      (s.consider input).listed = []) ∨
    ((∀ active, s.verdict input loaded ≠ .start active) ∧ (s.consider input).active = s.active ∧
      (s.consider input).nextCommandRetry = s.nextCommandRetry ∧ (s.consider input).listed = listed) := by
  have hverdict : { s with listed := listed }.verdict input loaded = s.verdict input loaded := rfl
  unfold consider
  rw [hlisted]
  dsimp only
  rw [hverdict]
  cases s.verdict input loaded with
  | start active => exact .inl ⟨active, rfl, rfl, rfl⟩
  | skip | finish | introspect => exact .inr ⟨nofun, rfl, rfl, rfl⟩

/-- When nothing is listed any more, the rest of the scan does nothing. -/
theorem considerAll_of_listed_nil (h : s.listed = []) : considerAll input listed s = s := by
  induction listed with
  | nil => rfl
  | cons loaded listed ih =>
    have hconsider : s.consider (input.consider loaded) = s := by
      unfold consider
      rw [h]
    rw [considerAll, List.foldl_cons, hconsider]
    exact ih

/-- A scan leaves the slot alone when it cannot start a command. -/
theorem considerAll_active_of_not (hlisted : s.listed = listed) (hs : ¬s.CanStart input.now) :
    (considerAll input listed s).active = s.active := by
  induction listed generalizing s with
  | nil => rfl
  | cons loaded listed ih =>
    rw [considerAll, List.foldl_cons]
    rcases consider_cases s (input.consider loaded) hlisted with ⟨active, hstart, -, -⟩ |
      ⟨-, hactive, hretry, hrest⟩
    · exact absurd (verdict_start hstart).2.2.1 hs
    · rw [← hactive]
      refine ih hrest ?_
      rwa [CanStart, hactive, hretry]

/-- A free slot goes to the first startable command. -/
theorem considerAll_started (hlisted : s.listed = listed) (hs : s.CanStart input.now) :
    (considerAll input listed s).active.map (·.1) = listed.find? (startable input) := by
  induction listed generalizing s with
  | nil => simp [considerAll, hs.1]
  | cons loaded listed ih =>
    have hstart := verdict_start_iff hs loaded
    rw [considerAll, List.foldl_cons, List.find?_cons]
    rcases consider_cases s (input.consider loaded) hlisted with ⟨active, hverdict, hactive, hrest⟩ |
      ⟨hverdict, hactive, hretry, hrest⟩
    · rw [hstart.mp ⟨active, hverdict⟩]
      exact (congrArg _ (congrArg _ (considerAll_of_listed_nil hrest))).trans (by rw [hactive]; rfl)
    · have hnot : startable input loaded = false := by
        by_contra h
        obtain ⟨active, h⟩ := hstart.mpr (by simpa using h)
        exact hverdict active h
      rw [hnot]
      exact ih hrest (by rwa [CanStart, hactive, hretry])

/-- The command that a scan starts. -/
def started (s : MailboxLane) (input : ScanInput) : Option LoadedCommand :=
  if s.active.isNone then (s.scan input).active.map (·.1) else none

/-- A scan starts the first startable command in its order, and only in a free slot. -/
theorem started_eq (s : MailboxLane) (input : ScanInput) :
    s.started input =
      if s.CanStart input.now then (s.scanOrder input.capturedAt).find? (startable input) else none := by
  unfold started scan
  split
  · rename_i hfree
    split
    · rename_i hcan
      exact considerAll_started rfl hcan
    · rename_i hcan
      have hactive : (considerAll input _ { s with listed := s.scanOrder input.capturedAt }).active = s.active :=
        considerAll_active_of_not rfl hcan
      rw [hactive]
      simpa using hfree
  · rename_i hbusy
    rw [if_neg]
    exact fun hcan => hbusy (by rw [hcan.1]; rfl)

end MailboxLane

/-! ## Attempts -/

/-- The lane with the generations of the commands that were started, oldest first. -/
structure AttemptedLane where
  lane : MailboxLane
  attempts : List Nat

/-- One event of the gateway. -/
inductive GatewayEvent where
  /-- A process stores a command. -/
  | enqueue (path : String) (command : JsonMap)
  | scan (input : ScanInput)
  | submit (now : ℚ) (allowed : Bool)
  | answer (answer : DbusAnswer) (now : ℚ)
  | introspected (position : Nat) (readable : Bool)

namespace AttemptedLane

variable (settings : ExecutorSettings)

/-- An empty mailbox. -/
def start : AttemptedLane := ⟨.start, []⟩

/-- One event. -/
def step (s : AttemptedLane) : GatewayEvent → AttemptedLane
  | .enqueue path command => { s with lane := s.lane.store path command }
  | .scan input =>
    { lane := s.lane.scan input
      attempts := s.attempts ++ (s.lane.started input).toList.map (·.generation) }
  | .submit now allowed => { s with lane := s.lane.submit settings now allowed }
  | .answer answer now => { s with lane := s.lane.complete answer now }
  | .introspected position readable => { s with lane := s.lane.introspected position readable }

/-- The pending, unexpired semantic commands that were not attempted since they were stored. -/
def waiting (s : AttemptedLane) (input : ScanInput) : List LoadedCommand :=
  s.lane.pending.filter fun loaded => isSemantic loaded.command &&
    !commandDeadlineExpired loaded.command input.capturedAt && decide (loaded.generation ∉ s.attempts)

/-- When a command is attempted once more, no other one is still waiting. -/
def AttemptsFair (s : AttemptedLane) : GatewayEvent → Prop
  | .scan input => ∀ loaded ∈ s.lane.started input, loaded.generation ∈ s.attempts → s.waiting input = []
  | .enqueue _ _ | .submit _ _ | .answer _ _ | .introspected _ _ => True

instance (s : AttemptedLane) : ∀ e, Decidable (s.AttemptsFair e)
  | .scan input => inferInstanceAs (Decidable
      (∀ loaded ∈ s.lane.started input, loaded.generation ∈ s.attempts → s.waiting input = []))
  | .enqueue _ _ | .submit _ _ | .answer _ _ | .introspected _ _ => isTrue trivial

/-- When a scan could start a command while others wait, the first startable one in its order was not attempted
before. -/
def WaitingFirst (s : AttemptedLane) : GatewayEvent → Prop
  | .scan input => s.lane.CanStart input.now → s.waiting input ≠ [] →
    ∀ loaded ∈ (s.lane.scanOrder input.capturedAt).find? (MailboxLane.startable input),
      loaded.generation ∉ s.attempts
  | .enqueue _ _ | .submit _ _ | .answer _ _ | .introspected _ _ => True

theorem attemptsFair_iff (s : AttemptedLane) (e : GatewayEvent) : s.AttemptsFair e ↔ s.WaitingFirst e := by
  cases e with
  | scan input =>
    simp only [AttemptsFair, WaitingFirst, MailboxLane.started_eq]
    constructor
    · intro h hcan hwaiting loaded hloaded hattempted
      rw [if_pos hcan] at h
      exact hwaiting (h loaded hloaded hattempted)
    · intro h loaded hloaded hattempted
      split at hloaded
      · rename_i hcan
        by_contra hwaiting
        exact h hcan hwaiting loaded hloaded hattempted
      · nomatch hloaded
  | enqueue | submit | answer | introspected => exact Iff.rfl

/-- A run attempts no command twice while another one waits exactly when every scan of it that could start a
command while one waits finds a command in front that was not attempted. -/
theorem attempts_fair_iff (es : List GatewayEvent) :
    Along (step settings) AttemptsFair start es ↔ Along (step settings) WaitingFirst start es :=
  ⟨fun h => h.mono fun s e => (s.attemptsFair_iff e).mp, fun h => h.mono fun s e => (s.attemptsFair_iff e).mpr⟩

/-! ## A target that never answers -/

/-- The older setpoint, whose service is not reachable. -/
def setpointCommand : JsonMap :=
  [("kind", .string "ess_grid_setpoint"), ("watts", .int 50), ("priority", .string "user"),
    ("created_at", .int 10)]

/-- The newer command to switch the relay off. -/
def relayOffCommand : JsonMap := MailboxLane.relayCommand false ++ [("created_at", .int 20)]

/-- A scan with a budget for every command. -/
def scanAt (now : ℚ) : GatewayEvent :=
  .scan ⟨1000, 1000, now, fun _ => true, fun _ => true, fun _ => .ok .deferred, fun _ => false, fun _ => false⟩

/-- The setpoint is attempted every two seconds and answered with an error. -/
def unreachable : List GatewayEvent :=
  [.enqueue "setpoint.json" setpointCommand, .enqueue "relay.json" relayOffCommand, scanAt 0, .submit 0 true,
    .answer (.error "unreachable") 0, scanAt 2, .submit 2 true, .answer (.error "unreachable") 2, scanAt 4]

/-- The setpoint is attempted again and again while the relay is never switched off. -/
theorem relay_off_starved :
    let settings : ExecutorSettings := ⟨"", "com.victronenergy.settings", "/Settings/CGwacs/AcPowerSetPoint"⟩
    let last := run (step settings) start unreachable
    last.attempts = [0, 0, 0] ∧ (last.lane.pending.map (·.path)) = ["relay.json", "setpoint.json"] ∧
      ¬Along (step settings) AttemptsFair start unreachable := by
  exact ⟨by decide +kernel, by decide +kernel, by decide +kernel⟩

end AttemptedLane

end VenusEvcharger.NativeGateway
