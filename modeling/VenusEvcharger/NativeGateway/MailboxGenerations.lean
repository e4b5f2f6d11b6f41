import VenusEvcharger.Library.Run
import VenusEvcharger.NativeGateway.MailboxLane

/-!
# Generations in the native mailbox

The gateway removes a command file by its path. `removes` is the command for which an event does so, and the
generation that was read is the one that goes exactly when the file was not replaced in between. In runs
without such a removal, `Sound` says where every accepted generation is and which value was written last.
-/

namespace VenusEvcharger.NativeGateway

open Library

namespace MailboxLane

variable (settings : ExecutorSettings)

/-! ## Removals -/

/-- The command for which an event removes a file. -/
def removes (s : MailboxLane) : LaneEvent → Option LoadedCommand
  | .consider input =>
    match s.listed with
    | [] => none
    | loaded :: listed =>
      match { s with listed := listed }.verdict input loaded with
      | .finish _ => some loaded
      | .skip | .introspect | .start _ => none
  | .submit now _ =>
    match s.listed, s.active with
    | [], some (loaded, active) =>
      if active.awaiting || decide (now < active.notBefore) then none
      else
        match operationFor settings active with
        | .error _ => some loaded
        | .ok _ => none
    | _, _ => none
  | .answer answer now =>
    match s.listed, s.active with
    | [], some (loaded, active) =>
      if active.awaiting then
        match transition active answer now with
        | .ok (.done .applied) | .ok (.done .dropped) => some loaded
        | _ => none
      else none
    | _, _ => none
  | .introspected position readable =>
    match s.listed, s.introspections[position]? with
    | [], some loaded => if readable then some loaded else none
    | _, _ => none
  | .enqueue _ _ | .read _ | .prioritize _ => none

/-- The file of the command holds another generation than the one that was read. -/
def Replaced (s : MailboxLane) (loaded : LoadedCommand) : Prop :=
  ∃ stored ∈ s.files.get? loaded.path, stored.generation ≠ loaded.generation

instance (s : MailboxLane) (loaded : LoadedCommand) : Decidable (s.Replaced loaded) := by
  unfold Replaced
  infer_instance

/-- The event removes no file that was replaced since the command was read. -/
def RemovesOwn (s : MailboxLane) (e : LaneEvent) : Prop :=
  ∀ loaded ∈ s.removes settings e, ¬s.Replaced loaded

instance (s : MailboxLane) (e : LaneEvent) : Decidable (s.RemovesOwn settings e) := by
  unfold RemovesOwn
  infer_instance

/-! ## What a sound lane says -/

/-- The write that a relay or setpoint command asks for. -/
def commandedWrite (command : JsonMap) : Option DbusOperation :=
  match commandKind command with
  | "gx_relay_set_enabled" => do
    let relay ← (relayIndex command).toOption
    let target ← (relayTarget command).toOption
    return .write "com.victronenergy.system" (relayStatePath relay) (.i32 target)
  | "ess_grid_setpoint" => do
    let watts ← (finiteNumber command "watts").toOption
    return .write settings.essService settings.essPath (.f64 watts)
  | _ => none

/-- The last write that was submitted for a command of the file. -/
def lastWrite (s : MailboxLane) (path : String) : Option (LoadedCommand × DbusOperation) :=
  (s.operations.filter fun operation => operation.2.isWrite && decide (operation.1.path = path)).getLast?

/-- The newest command that was accepted for its file. -/
def Newest (s : MailboxLane) (loaded : LoadedCommand) : Prop :=
  loaded ∈ s.accepted ∧ ∀ other ∈ s.accepted, other.path = loaded.path → other.generation ≤ loaded.generation

/-- Only executed generations are removed, the newest one stays until then, and the last write is its own. -/
structure Sound (s : MailboxLane) : Prop where
  /-- A removal deletes the generation that was applied, dropped or found expired. -/
  deletes : ∀ removal ∈ s.removals, ∀ generation ∈ removal.deleted, generation = removal.loaded.generation
  /-- The newest generation of a file stands in it until it has been removed itself. -/
  keeps : ∀ loaded, s.Newest loaded →
    s.files.get? loaded.path = some ⟨loaded.generation, loaded.command⟩ ∨
      ∃ removal ∈ s.removals, removal.loaded = loaded
  /-- When the newest generation of a file has been applied, the last write for the file is the one it asks
  for. -/
  writes : ∀ removal ∈ s.removals, removal.state = "applied" → s.Newest removal.loaded →
    ∀ operation ∈ commandedWrite settings removal.loaded.command,
      s.lastWrite removal.loaded.path = some (removal.loaded, operation)

/-! ## The invariant -/

/-- The last write for the file of a command, up to its own generation. -/
def lastWriteUpTo (s : MailboxLane) (loaded : LoadedCommand) : Option (LoadedCommand × DbusOperation) :=
  (s.operations.filter fun operation => operation.2.isWrite && decide (operation.1.path = loaded.path) &&
    decide (operation.1.generation ≤ loaded.generation)).getLast?

/-- The write that the command asks for is the last one up to its generation. -/
def Wrote (s : MailboxLane) (loaded : LoadedCommand) : Prop :=
  ∀ operation ∈ commandedWrite settings loaded.command, s.lastWriteUpTo loaded = some (loaded, operation)

/-- No older generation of the file has the command of `loaded` behind it. -/
def Follows (s : MailboxLane) (loaded : LoadedCommand) : Prop :=
  ∀ operation ∈ s.operations, operation.1.path = loaded.path → operation.1.generation ≤ loaded.generation

/-- What is listed, active or stored for the file of the command is newer. -/
structure Outdated (s : MailboxLane) (loaded : LoadedCommand) : Prop where
  listed : ∀ other ∈ s.listed, other.path = loaded.path → loaded.generation < other.generation
  active : ∀ x ∈ s.active, x.1.path = loaded.path → loaded.generation < x.1.generation
  stored : ∀ stored ∈ s.files.get? loaded.path, loaded.generation < stored.generation

/-- The stage of an active command fits its kind, and a stage behind a write has seen it. -/
def StageFits (s : MailboxLane) (loaded : LoadedCommand) (active : ActiveCommand) : Prop :=
  match active.stage with
  | .relayRefresh _ => commandKind loaded.command = "gx_relay_refresh"
  | .relayManualRead relay _ | .relayManualWrite relay _ =>
    commandKind loaded.command = "gx_relay_set_enabled" ∧ relayIndex loaded.command = .ok relay
  | .relayOutput relay _ =>
    commandKind loaded.command = "gx_relay_set_enabled" ∧ relayIndex loaded.command = .ok relay ∧
      (active.awaiting = true → s.Wrote settings loaded)
  | .relayVerify relay _ =>
    commandKind loaded.command = "gx_relay_set_enabled" ∧ relayIndex loaded.command = .ok relay ∧
      s.Wrote settings loaded
  | .essWrite =>
    commandKind loaded.command = "ess_grid_setpoint" ∧ (active.awaiting = true → s.Wrote settings loaded)
  | .shellyDiscover | .shellyIdentify _ _ | .shellyEnabled _ | .shellyDisable _ =>
    commandKind loaded.command = "disable_matching_generic_shelly_once"

/-- What every run keeps. -/
structure Known (s : MailboxLane) : Prop where
  indexed : ∀ (i : Nat) (loaded : LoadedCommand), s.accepted[i]? = some loaded → loaded.generation = i
  stored : ∀ path, ∀ stored ∈ s.files.get? path, s.Newest (stored.load path)
  listed : ∀ loaded ∈ s.listed, loaded ∈ s.accepted ∧ s.Follows loaded
  active : ∀ x ∈ s.active, x.1 ∈ s.accepted ∧ s.Follows x.1 ∧ x.2.payload = x.1.command ∧
    s.StageFits settings x.1 x.2 ∧
    ∀ other ∈ s.listed, other.path = x.1.path → x.1.generation ≤ other.generation
  introspections : ∀ loaded ∈ s.introspections, loaded ∈ s.accepted
  removed : ∀ removal ∈ s.removals, removal.loaded ∈ s.accepted
  operations : ∀ operation ∈ s.operations, operation.1 ∈ s.accepted
  applied : ∀ removal ∈ s.removals, removal.state = "applied" → s.Wrote settings removal.loaded ∧
    ((commandedWrite settings removal.loaded.command).isSome → s.Outdated removal.loaded)

theorem known_start : Known settings start := by
  constructor <;> simp [start, Dict.get?, Dict.empty]

variable {settings}

variable {s : MailboxLane} {loaded : LoadedCommand}

theorem Known.generation_lt (hs : Known settings s) (h : loaded ∈ s.accepted) :
    loaded.generation < s.accepted.length := by
  obtain ⟨i, hi⟩ := List.mem_iff_getElem?.mp h
  rw [hs.indexed i loaded hi]
  exact (List.getElem?_eq_some_iff.mp hi).1

theorem Known.eq_of_generation (hs : Known settings s) {first second : LoadedCommand}
    (hfirst : first ∈ s.accepted) (hsecond : second ∈ s.accepted)
    (h : first.generation = second.generation) : first = second := by
  obtain ⟨i, hi⟩ := List.mem_iff_getElem?.mp hfirst
  obtain ⟨j, hj⟩ := List.mem_iff_getElem?.mp hsecond
  rw [hs.indexed i first hi, hs.indexed j second hj] at h
  subst h
  exact Option.some.inj (hi.symm.trans hj)

/-! ## Single moves -/

theorem known_store (hs : Known settings s) (path : String) (command : JsonMap) :
    Known settings (s.store path command) := by
  have hgrow : ∀ {loaded}, loaded ∈ s.accepted → loaded ∈ (s.store path command).accepted :=
    fun h => List.mem_append_left _ h
  refine ⟨fun i loaded hi => ?_, fun p stored hstored => ?_, fun l hl => ?_, fun x hx => ?_, fun l hl => ?_,
    fun r hr => ?_, fun o ho => ?_, fun r hr happlied => ?_⟩
  · rcases Nat.lt_or_ge i s.accepted.length with hlt | hge
    · exact hs.indexed i loaded (by rwa [store, List.getElem?_append_left hlt] at hi)
    · rw [store, List.getElem?_append_right hge] at hi
      obtain ⟨hlt, rfl⟩ := List.getElem?_eq_some_iff.mp hi
      have : i = s.accepted.length := by simp at hlt; omega
      simp [StoredCommand.load, this]
  · simp only [store, Dict.get?_set] at hstored
    split at hstored
    · rename_i hp
      obtain rfl : _ = stored := Option.some.inj hstored
      subst hp
      refine ⟨List.mem_append_right _ List.mem_cons_self, fun other hother _ => ?_⟩
      rcases List.mem_append.mp hother with hother | hother
      · exact (hs.generation_lt hother).le
      · rw [List.mem_singleton.mp hother]
    · rename_i hp
      obtain ⟨hmem, hnewest⟩ := hs.stored p stored hstored
      refine ⟨hgrow hmem, fun other hother hpath => ?_⟩
      rcases List.mem_append.mp hother with hother | hother
      · exact hnewest other hother hpath
      · rw [List.mem_singleton.mp hother] at hpath
        exact absurd hpath.symm hp
  · exact ⟨hgrow (hs.listed l hl).1, (hs.listed l hl).2⟩
  · obtain ⟨hmem, hrest⟩ := hs.active x hx
    exact ⟨hgrow hmem, hrest⟩
  · exact hgrow (hs.introspections l hl)
  · exact hgrow (hs.removed r hr)
  · exact hgrow (hs.operations o ho)
  · obtain ⟨hwrote, houtdated⟩ := hs.applied r hr happlied
    refine ⟨hwrote, fun hsome => ⟨(houtdated hsome).listed, (houtdated hsome).active, fun stored hstored => ?_⟩⟩
    simp only [store, Dict.get?_set] at hstored
    split at hstored
    · obtain rfl : _ = stored := Option.some.inj hstored
      exact hs.generation_lt (hs.removed r hr)
    · exact (houtdated hsome).stored stored hstored

theorem known_readFile (hs : Known settings s) (path : String) :
    Known settings (s.readFile path) := by
  unfold readFile
  split
  · exact hs
  · rename_i stored hstored
    split
    · exact hs
    · obtain ⟨hmem, hnewest⟩ := hs.stored path stored hstored
      refine ⟨hs.indexed, hs.stored, fun l hl => ?_, fun x hx => ?_, hs.introspections, hs.removed,
        hs.operations, fun r hr happlied => ?_⟩
      · rcases List.mem_append.mp hl with hl | hl
        · exact hs.listed l hl
        · rw [List.mem_singleton.mp hl]
          exact ⟨hmem, fun o ho hpath => hnewest o.1 (hs.operations o ho) hpath⟩
      · obtain ⟨hactive, hfollows, hpayload, hstage, hlisted⟩ := hs.active x hx
        refine ⟨hactive, hfollows, hpayload, hstage, fun other hother hpath => ?_⟩
        rcases List.mem_append.mp hother with hother | hother
        · exact hlisted other hother hpath
        · rw [List.mem_singleton.mp hother] at hpath ⊢
          exact hnewest x.1 hactive hpath.symm
      · obtain ⟨hwrote, houtdated⟩ := hs.applied r hr happlied
        refine ⟨hwrote, fun hsome => ⟨fun other hother hpath => ?_, (houtdated hsome).active,
          (houtdated hsome).stored⟩⟩
        rcases List.mem_append.mp hother with hother | hother
        · exact (houtdated hsome).listed other hother hpath
        · rw [List.mem_singleton.mp hother] at hpath ⊢
          have hpath : path = r.loaded.path := hpath
          exact (houtdated hsome).stored stored (hpath ▸ hstored)

theorem known_listed (hs : Known settings s) {listed : List LoadedCommand}
    (hsub : ∀ loaded ∈ listed, loaded ∈ s.listed) : Known settings { s with listed := listed } :=
  ⟨hs.indexed, hs.stored, fun l hl => hs.listed l (hsub l hl),
    fun x hx => ⟨(hs.active x hx).1, (hs.active x hx).2.1, (hs.active x hx).2.2.1, (hs.active x hx).2.2.2.1,
      fun other hother => (hs.active x hx).2.2.2.2 other (hsub other hother)⟩,
    hs.introspections, hs.removed, hs.operations,
    fun r hr happlied => ⟨(hs.applied r hr happlied).1, fun hsome =>
      ⟨fun other hother => ((hs.applied r hr happlied).2 hsome).listed other (hsub other hother),
        ((hs.applied r hr happlied).2 hsome).active, ((hs.applied r hr happlied).2 hsome).stored⟩⟩⟩

/-- Letting the active command go keeps what is known. -/
theorem known_idle (hs : Known settings s) (retry : ℚ) :
    Known settings { s with active := none, nextCommandRetry := retry } :=
  ⟨hs.indexed, hs.stored, hs.listed, nofun, hs.introspections, hs.removed, hs.operations,
    fun r hr happlied => ⟨(hs.applied r hr happlied).1, fun hsome =>
      ⟨((hs.applied r hr happlied).2 hsome).listed, nofun, ((hs.applied r hr happlied).2 hsome).stored⟩⟩⟩

/-- Removing a file keeps what is known, when an applied command has written and nothing of it is left. -/
theorem known_finish (hs : Known settings s) (hloaded : loaded ∈ s.accepted) {state : String}
    (happlied : state = "applied" → s.Wrote settings loaded ∧
      ((commandedWrite settings loaded.command).isSome → s.listed = [] ∧ s.active = none)) :
    Known settings (s.finishCommand loaded state) := by
  have herase : ∀ path, ∀ stored ∈ (s.files.erase loaded.path).get? path,
      path ≠ loaded.path ∧ s.files.get? path = some stored := by
    intro path stored hstored
    rw [Dict.get?_erase] at hstored
    split at hstored
    · nomatch hstored
    · exact ⟨‹_›, hstored⟩
  refine ⟨hs.indexed, fun path stored hstored => hs.stored path stored (herase path stored hstored).2, hs.listed,
    hs.active, hs.introspections, fun r hr => ?_, hs.operations, fun r hr hstate => ?_⟩
  · rcases List.mem_append.mp hr with hr | hr
    · exact hs.removed r hr
    · rw [List.mem_singleton.mp hr]
      exact hloaded
  · rcases List.mem_append.mp hr with hr | hr
    · obtain ⟨hwrote, houtdated⟩ := hs.applied r hr hstate
      exact ⟨hwrote, fun hsome => ⟨(houtdated hsome).listed, (houtdated hsome).active,
        fun stored hstored => (houtdated hsome).stored stored (herase _ stored hstored).2⟩⟩
    · obtain rfl := List.mem_singleton.mp hr
      obtain ⟨hwrote, hidle⟩ := happlied hstate
      refine ⟨hwrote, fun hsome => ⟨?_, ?_, ?_⟩⟩
      · simp [finishCommand, (hidle hsome).1]
      · simp [finishCommand, (hidle hsome).2]
      · exact fun stored hstored => absurd rfl (herase _ stored hstored).1

variable {active : ActiveCommand}

theorem stageFits_start {epoch now : ℚ}
    (h : startCommand loaded.path loaded.command epoch now = .ok (.inr active)) :
    active.payload = loaded.command ∧ s.StageFits settings loaded active := by
  unfold startCommand at h
  split at h
  · nomatch h
  · nomatch h
  · rename_i stage hstage
    split at h
    · nomatch h
    · obtain rfl := Sum.inr.inj (Except.ok.inj h)
      refine ⟨rfl, ?_⟩
      unfold startStage at hstage
      split at hstage
      · rename_i hkind
        cases hrelay : relayIndex loaded.command with
        | error error => simp [hrelay, bind, Except.bind] at hstage
        | ok relay =>
          simp only [hrelay, bind, Except.bind, pure, Except.pure, Except.ok.injEq, Option.some.injEq] at hstage
          subst hstage
          exact hkind
      · rename_i hkind
        cases hrelay : relayIndex loaded.command with
        | error error => simp [hrelay, bind, Except.bind] at hstage
        | ok relay =>
          cases hmanual : strictBool loaded.command "ensure_manual" with
          | error error => simp [hrelay, hmanual, bind, Except.bind] at hstage
          | ok ensureManual =>
            simp only [hrelay, hmanual, bind, Except.bind, pure, Except.pure, Except.ok.injEq,
              Option.some.injEq] at hstage
            subst hstage
            cases ensureManual with
            | true => exact ⟨hkind, hrelay⟩
            | false => exact ⟨hkind, hrelay, nofun⟩
      · rename_i hkind
        obtain rfl : Stage.essWrite = stage := by simpa [pure, Except.pure] using hstage
        exact ⟨hkind, nofun⟩
      · rename_i hkind
        obtain rfl : Stage.shellyDiscover = stage := by simpa [pure, Except.pure] using hstage
        exact hkind
      · simp [pure, Except.pure] at hstage

theorem known_started (hs : Known settings s) (hloaded : loaded ∈ s.listed)
    (hpayload : active.payload = loaded.command) (hstage : s.StageFits settings loaded active) :
    Known settings { s with active := some (loaded, active), listed := [] } := by
  refine ⟨hs.indexed, hs.stored, fun _ hl => absurd hl List.not_mem_nil, fun x hx => ?_, hs.introspections,
    hs.removed, hs.operations, fun r hr happlied => ?_⟩
  · obtain rfl := Option.some.inj hx
    exact ⟨(hs.listed loaded hloaded).1, (hs.listed loaded hloaded).2, hpayload, hstage,
      fun _ hother => absurd hother List.not_mem_nil⟩
  · obtain ⟨hwrote, houtdated⟩ := hs.applied r hr happlied
    refine ⟨hwrote, fun hsome => ⟨fun _ hother => absurd hother List.not_mem_nil, fun x hx => ?_,
      (houtdated hsome).stored⟩⟩
    obtain rfl := Option.some.inj hx
    exact (houtdated hsome).listed loaded hloaded

/-- Moving the active command to another stage keeps what is known. -/
theorem known_active (hs : Known settings s) {next : ActiveCommand}
    (hactive : s.active = some (loaded, active)) (hpayload : next.payload = active.payload)
    (hstage : s.StageFits settings loaded next) :
    Known settings { s with active := some (loaded, next) } := by
  obtain ⟨hmem, hfollows, hpayloads, -, hlisted⟩ := hs.active _ hactive
  refine ⟨hs.indexed, hs.stored, hs.listed, fun x hx => ?_, hs.introspections, hs.removed, hs.operations,
    fun r hr happlied => ?_⟩
  · obtain rfl := Option.some.inj hx
    exact ⟨hmem, hfollows, hpayload.trans hpayloads, hstage, hlisted⟩
  · obtain ⟨hwrote, houtdated⟩ := hs.applied r hr happlied
    refine ⟨hwrote, fun hsome => ⟨(houtdated hsome).listed, fun x hx => ?_, (houtdated hsome).stored⟩⟩
    obtain rfl := Option.some.inj hx
    exact (houtdated hsome).active (loaded, active) hactive

/-! ## Operations -/

variable {operation : DbusOperation}

/-- A write beyond the bound does not change the last one below it. -/
theorem lastWriteUpTo_append {other : LoadedCommand}
    (h : operation.isWrite = false ∨ other.path ≠ loaded.path ∨ loaded.generation < other.generation) :
    { s with operations := s.operations ++ [(other, operation)] }.lastWriteUpTo loaded =
      s.lastWriteUpTo loaded := by
  unfold lastWriteUpTo
  rw [List.filter_append]
  have hnone : (List.filter (fun operation : LoadedCommand × DbusOperation => operation.2.isWrite &&
      decide (operation.1.path = loaded.path) && decide (operation.1.generation ≤ loaded.generation))
      [(other, operation)]) = [] := by
    rw [List.filter_singleton]
    rcases h with h | h | h
    · simp [h]
    · simp [h]
    · simp [Nat.not_le.mpr h]
  rw [hnone, List.append_nil]

/-- A write of the command itself becomes the last one. -/
theorem lastWriteUpTo_self (h : operation.isWrite = true) :
    { s with operations := s.operations ++ [(loaded, operation)] }.lastWriteUpTo loaded =
      some (loaded, operation) := by
  unfold lastWriteUpTo
  rw [List.filter_append, List.filter_singleton]
  simp [h]

theorem commandedWrite_isWrite {command : JsonMap}
    (h : commandedWrite settings command = some operation) : operation.isWrite = true := by
  unfold commandedWrite at h
  split at h
  · simp only [Option.bind_eq_bind, Option.bind_eq_some_iff, Option.pure_def, Option.some.injEq] at h
    obtain ⟨_, -, _, -, rfl⟩ := h
    rfl
  · simp only [Option.bind_eq_bind, Option.bind_eq_some_iff, Option.pure_def, Option.some.injEq] at h
    obtain ⟨_, -, rfl⟩ := h
    rfl
  · nomatch h

theorem commandedWrite_of_operation
    (hpayload : active.payload = loaded.command) (hstage : s.StageFits settings loaded active)
    (h : operationFor settings active = .ok operation) :
    (∀ relay retry, active.stage = .relayOutput relay retry →
        commandedWrite settings loaded.command = some operation) ∧
      (active.stage = .essWrite → commandedWrite settings loaded.command = some operation) := by
  constructor
  · intro relay retry houtput
    simp only [StageFits, houtput] at hstage
    simp only [operationFor, houtput, hpayload] at h
    cases htarget : relayTarget loaded.command with
    | error error => simp [htarget, bind, Except.bind] at h
    | ok target =>
      simp only [htarget, bind, Except.bind, pure, Except.pure, Except.ok.injEq] at h
      simp [commandedWrite, hstage.1, hstage.2.1, htarget, Except.toOption, ← h]
  · intro hess
    simp only [StageFits, hess] at hstage
    simp only [operationFor, hess, hpayload] at h
    cases hwatts : finiteNumber loaded.command "watts" with
    | error error => simp [hwatts, bind, Except.bind] at h
    | ok watts =>
      simp only [hwatts, bind, Except.bind, pure, Except.pure, Except.ok.injEq] at h
      simp [commandedWrite, hstage.1, hwatts, Except.toOption, ← h]

/-- Sending the operation of the active command keeps what is known. -/
theorem known_operation (hs : Known settings s)
    (hactive : s.active = some (loaded, active)) (h : operationFor settings active = .ok operation) :
    Known settings { s with
      active := some (loaded, { active with awaiting := true })
      operations := s.operations ++ [(loaded, operation)] } := by
  obtain ⟨hmem, hfollows, hpayload, hstage, hlisted⟩ := hs.active _ hactive
  obtain ⟨hrelay, hess⟩ := commandedWrite_of_operation hpayload hstage h
  have hwrites : commandedWrite settings loaded.command = some operation →
      { s with operations := s.operations ++ [(loaded, operation)] }.Wrote settings loaded := by
    intro hcommanded other hother
    obtain rfl : other = operation := Option.some.inj ((Option.mem_def.mp hother).symm.trans hcommanded)
    exact lastWriteUpTo_self (commandedWrite_isWrite hcommanded)
  refine ⟨hs.indexed, hs.stored, fun l hl => ⟨(hs.listed l hl).1, fun o ho hpath => ?_⟩, fun x hx => ?_,
    hs.introspections, hs.removed, fun o ho => ?_, fun r hr happlied => ?_⟩
  · rcases List.mem_append.mp ho with ho | ho
    · exact (hs.listed l hl).2 o ho hpath
    · rw [List.mem_singleton.mp ho] at hpath ⊢
      exact hlisted l hl hpath.symm
  · obtain rfl := Option.some.inj hx
    refine ⟨hmem, fun o ho hpath => ?_, hpayload, ?_, hlisted⟩
    · rcases List.mem_append.mp ho with ho | ho
      · exact hfollows o ho hpath
      · rw [List.mem_singleton.mp ho]
    · unfold StageFits at hstage ⊢
      cases hcase : active.stage with
      | relayOutput relay retry =>
        simp only [hcase] at hstage ⊢
        exact ⟨hstage.1, hstage.2.1, fun _ => hwrites (hrelay relay retry hcase)⟩
      | relayVerify relay retry =>
        simp only [hcase] at hstage ⊢
        refine ⟨hstage.1, hstage.2.1, fun other hother => ?_⟩
        -- the verification reads, so the last write stays
        have hread : operation.isWrite = false := by
          simp only [operationFor, hcase, Except.ok.injEq] at h
          rw [← h]
          rfl
        exact (lastWriteUpTo_append (Or.inl hread)).trans (hstage.2.2 other hother)
      | essWrite =>
        simp only [hcase] at hstage ⊢
        exact ⟨hstage.1, fun _ => hwrites (hess hcase)⟩
      | _ => simpa only [hcase] using hstage
  · rcases List.mem_append.mp ho with ho | ho
    · exact hs.operations o ho
    · rw [List.mem_singleton.mp ho]
      exact hmem
  · obtain ⟨hwrote, houtdated⟩ := hs.applied r hr happlied
    refine ⟨fun other hother => ?_, fun hsome => ⟨(houtdated hsome).listed, fun x hx => ?_,
      (houtdated hsome).stored⟩⟩
    · have hsome : (commandedWrite settings r.loaded.command).isSome := by
        rw [Option.mem_def.mp hother]
        rfl
      have hnewer : loaded.path ≠ r.loaded.path ∨ r.loaded.generation < loaded.generation :=
        (Decidable.em (loaded.path = r.loaded.path)).elim
          (fun hpath => Or.inr ((houtdated hsome).active (loaded, active) hactive hpath)) Or.inl
      exact (lastWriteUpTo_append (Or.inr hnewer)).trans (hwrote other hother)
    · obtain rfl := Option.some.inj hx
      exact (houtdated hsome).active (loaded, active) hactive

theorem stageFits_next (hstage : s.StageFits settings loaded active)
    (hawaiting : active.awaiting = true) {stage : Stage} (h : active.stage.Successor stage)
    (notBefore : ℚ) :
    s.StageFits settings loaded { active with stage, notBefore, awaiting := false } := by
  unfold StageFits at hstage ⊢
  generalize active.stage = current at h hstage
  cases h with
  | nextCandidate | notManual | writeFailed => exact hstage
  | manual | madeManual => exact ⟨hstage.1, hstage.2, nofun⟩
  | written => exact ⟨hstage.1, hstage.2.1, hstage.2.2 hawaiting⟩
  | again => exact ⟨hstage.1, hstage.2.1, nofun⟩
  | discovered | candidates | identified | nextDevice | enabled => exact hstage

/-- A stage in which the command can count as applied has seen its write. -/
theorem wrote_of_canApply (hstage : s.StageFits settings loaded active)
    (hawaiting : active.awaiting = true) (h : active.stage.CanApply) : s.Wrote settings loaded := by
  unfold StageFits at hstage
  generalize active.stage = current at h hstage
  cases current with
  | relayRefresh | shellyDiscover | shellyIdentify | shellyEnabled | shellyDisable =>
    intro operation hoperation
    simp [commandedWrite, show commandKind loaded.command = _ from hstage] at hoperation
  | relayVerify => exact hstage.2.2
  | essWrite => exact hstage.2 hawaiting
  | relayManualRead | relayManualWrite | relayOutput => exact h.elim

/-- No scan counts a relay or setpoint command as applied. -/
theorem commandedWrite_of_verdict {input : ConsiderInput}
    (h : s.verdict input loaded = .finish "applied") :
    commandedWrite settings loaded.command = none := by
  by_contra hsome
  have hkind : commandKind loaded.command = "gx_relay_set_enabled" ∨
      commandKind loaded.command = "ess_grid_setpoint" := by
    unfold commandedWrite at hsome
    split at hsome
    · exact .inl ‹_›
    · exact .inr ‹_›
    · exact absurd rfl hsome
  have hstart : ∀ outcome, startCommand loaded.path loaded.command input.epoch input.now = .ok (.inl outcome) →
      outcome = .dropped := by
    intro outcome houtcome
    unfold startCommand at houtcome
    split at houtcome
    · nomatch houtcome
    · exact (Sum.inl.inj (Except.ok.inj houtcome)).symm
    · split at houtcome
      · nomatch houtcome
      · nomatch Except.ok.inj houtcome
  unfold verdict at h
  dsimp only at h
  split at h
  · simp at h
  · split at h
    · split at h
      · simp at h
      · simp at h
    · split at h
      · simp at h
      · rw [if_neg, if_neg, if_neg] at h
        · split at h
          · simp at h
          · split at h
            · simp at h
            · simp at h
            · rename_i happlied
              exact absurd (hstart .applied happlied) (by decide)
            · simp at h
            · simp at h
        all_goals rcases hkind with hkind | hkind <;> rw [hkind] <;> decide

/-- A scan starts an unexpired command within its budget, in a free slot, as the executor does. -/
theorem verdict_start {input : ConsiderInput} (h : s.verdict input loaded = .start active) :
    commandDeadlineExpired loaded.command input.capturedAt = false ∧ input.budget = true ∧
      (s.active = none ∧ s.nextCommandRetry ≤ input.now) ∧
      startCommand loaded.path loaded.command input.epoch input.now = .ok (.inr active) := by
  unfold verdict at h
  dsimp only at h
  split at h
  · simp at h
  · rename_i hexpired
    split at h
    · split at h <;> simp at h
    · split at h
      · simp at h
      · rename_i hbudget
        split at h
        · repeat' split at h
          all_goals simp at h
        · split at h
          · simp at h
          · split at h
            · repeat' split at h
              all_goals simp at h
            · split at h
              · simp at h
              · rename_i hfree
                refine ⟨by simpa using hexpired, by simpa using hbudget, by simpa using hfree, ?_⟩
                repeat' split at h
                all_goals first
                  | (obtain rfl := Verdict.start.inj h; assumption)
                  | simp at h

theorem known_introspections (hs : Known settings s) {introspections : List LoadedCommand}
    (h : ∀ loaded ∈ introspections, loaded ∈ s.accepted) :
    Known settings { s with introspections := introspections } :=
  ⟨hs.indexed, hs.stored, hs.listed, hs.active, h, hs.removed, hs.operations,
    fun r hr happlied => ⟨(hs.applied r hr happlied).1, fun hsome =>
      ⟨((hs.applied r hr happlied).2 hsome).listed, ((hs.applied r hr happlied).2 hsome).active,
        ((hs.applied r hr happlied).2 hsome).stored⟩⟩⟩

theorem known_consider (hs : Known settings s) (input : ConsiderInput) :
    Known settings (s.consider input) := by
  unfold consider
  split
  · exact hs
  · rename_i loaded listed hlisted
    have hmem : loaded ∈ s.listed := by simp [hlisted]
    have hrest : Known settings { s with listed := listed } :=
      known_listed hs fun l hl => by simp [hlisted, hl]
    dsimp only
    split
    · exact hrest
    · rename_i state hstate
      refine known_finish hrest (hs.listed loaded hmem).1 fun happlied => ?_
      subst happlied
      have hnone : commandedWrite settings loaded.command = none := commandedWrite_of_verdict hstate
      simp [Wrote, hnone]
    · refine known_introspections hrest fun l hl => ?_
      rcases List.mem_append.mp hl with hl | hl
      · exact hs.introspections l hl
      · rw [List.mem_singleton.mp hl]
        exact (hs.listed loaded hmem).1
    · rename_i active hstart
      obtain ⟨hpayload, hstage⟩ := stageFits_start (verdict_start hstart).2.2.2
      exact known_started hs hmem hpayload hstage

/-- Trying to send an operation keeps what is known. -/
theorem known_submit (hs : Known settings s) (now : ℚ) (allowed : Bool) :
    Known settings (s.submit settings now allowed) := by
  unfold submit
  split
  · exact hs
  · rename_i loaded active hactive
    split
    · exact hs
    · split
      · exact known_finish (known_idle hs s.nextCommandRetry) (hs.active _ hactive).1 nofun
      · split
        · exact known_operation hs hactive ‹_›
        · exact hs

theorem known_complete (hs : Known settings s) (hlisted : s.listed = []) (answer : DbusAnswer)
    (now : ℚ) : Known settings (s.complete answer now) := by
  unfold complete
  split
  · exact hs
  · rename_i loaded active hactive
    obtain ⟨hmem, -, -, hstage, -⟩ := hs.active _ hactive
    split
    · rename_i hawaiting
      split
      · rename_i stage notBefore h
        cases transition_legal h with
        | next hnext =>
          exact known_active hs hactive rfl (stageFits_next hstage hawaiting hnext notBefore)
      · rename_i h
        refine known_finish (known_idle hs s.nextCommandRetry) hmem fun _ => ⟨?_, fun _ => ⟨hlisted, rfl⟩⟩
        cases transition_legal h with
        | applied hcan => exact wrote_of_canApply hstage hawaiting hcan
      · exact known_finish (known_idle hs s.nextCommandRetry) hmem nofun
      · exact known_idle hs _
      · exact known_idle hs _
    · exact hs

/-- The answer to an introspection keeps what is known. -/
theorem known_introspected (hs : Known settings s) (position : Nat) (readable : Bool) :
    Known settings (s.introspected position readable) := by
  unfold introspected
  split
  · exact hs
  · rename_i loaded hloaded
    have hrest : Known settings { s with introspections := s.introspections.eraseIdx position } :=
      known_introspections hs fun l hl => hs.introspections l (List.mem_of_mem_eraseIdx hl)
    dsimp only
    split
    · exact known_finish hrest (hs.introspections loaded (List.mem_of_getElem? hloaded)) nofun
    · exact hrest

theorem known_step {e : LaneEvent} (hs : Known settings s) :
    Known settings (step settings s e) := by
  cases e with
  | enqueue path command => exact known_store hs path command
  | read path => exact known_readFile hs path
  | prioritize capturedAt =>
    exact known_listed hs fun l hl => (List.perm_insertionSort _ s.listed).mem_iff.mp hl
  | consider input => exact known_consider hs input
  | submit now allowed =>
    dsimp only [step]
    split
    · exact known_submit hs now allowed
    · exact hs
  | answer answer now =>
    dsimp only [step]
    split
    · exact known_complete hs ‹_› answer now
    · exact hs
  | introspected position readable =>
    dsimp only [step]
    split
    · exact known_introspected hs position readable
    · exact hs

/-! ## What an event does to the files -/

/-- An event stores a command, removes the file of one command, or leaves the files alone. -/
theorem step_cases (s : MailboxLane) (e : LaneEvent) :
    (∃ path command, e = .enqueue path command) ∨
    (∃ loaded state, s.removes settings e = some loaded ∧
      (step settings s e).files = s.files.erase loaded.path ∧
      (step settings s e).accepted = s.accepted ∧
      (step settings s e).removals =
        s.removals ++ [⟨loaded, state, (s.files.get? loaded.path).map (·.generation)⟩]) ∨
    (s.removes settings e = none ∧ (step settings s e).files = s.files ∧
      (step settings s e).accepted = s.accepted ∧ (step settings s e).removals = s.removals) := by
  cases e with
  | enqueue path command => exact .inl ⟨path, command, rfl⟩
  | read path =>
    refine .inr (.inr ⟨rfl, ?_⟩)
    dsimp only [step, readFile]
    split
    · exact ⟨rfl, rfl, rfl⟩
    · split <;> exact ⟨rfl, rfl, rfl⟩
  | prioritize capturedAt => exact .inr (.inr ⟨rfl, rfl, rfl, rfl⟩)
  | consider input =>
    dsimp only [step, consider, removes]
    cases s.listed with
    | nil => exact .inr (.inr ⟨rfl, rfl, rfl, rfl⟩)
    | cons loaded listed =>
      dsimp only
      generalize verdict _ input loaded = decision
      cases decision with
      | finish state => exact .inr (.inl ⟨loaded, state, rfl, rfl, rfl, rfl⟩)
      | skip | introspect | start => exact .inr (.inr ⟨rfl, rfl, rfl, rfl⟩)
  -- The next three events wait until every listed command was considered.
  | submit now allowed =>
    dsimp only [step, removes]
    by_cases hlisted : s.listed = []
    · rw [if_pos hlisted, hlisted]
      unfold submit
      cases hactive : s.active with
      | none => exact .inr (.inr ⟨rfl, rfl, rfl, rfl⟩)
      | some x =>
        obtain ⟨loaded, active⟩ := x
        dsimp only
        split
        · exact .inr (.inr ⟨rfl, rfl, rfl, rfl⟩)
        · cases operationFor settings active with
          | error error => exact .inr (.inl ⟨loaded, "dropped", rfl, rfl, rfl, rfl⟩)
          | ok operation =>
            refine .inr (.inr ⟨rfl, ?_⟩)
            dsimp only
            split <;> exact ⟨rfl, rfl, rfl⟩
    · rw [if_neg hlisted]
      refine .inr (.inr ⟨?_, rfl, rfl, rfl⟩)
      split
      · exact absurd ‹_› hlisted
      · rfl
  | answer answer now =>
    dsimp only [step, removes]
    by_cases hlisted : s.listed = []
    · rw [if_pos hlisted, hlisted]
      unfold complete
      cases hactive : s.active with
      | none => exact .inr (.inr ⟨rfl, rfl, rfl, rfl⟩)
      | some x =>
        obtain ⟨loaded, active⟩ := x
        dsimp only
        split
        · generalize transition active answer now = result
          match result with
          | .ok (.done .applied) => exact .inr (.inl ⟨loaded, "applied", rfl, rfl, rfl, rfl⟩)
          | .ok (.done .dropped) => exact .inr (.inl ⟨loaded, "dropped", rfl, rfl, rfl, rfl⟩)
          | .ok (.done .deferred) | .error _ | .ok (.next _ _) => exact .inr (.inr ⟨rfl, rfl, rfl, rfl⟩)
        · exact .inr (.inr ⟨rfl, rfl, rfl, rfl⟩)
    · rw [if_neg hlisted]
      refine .inr (.inr ⟨?_, rfl, rfl, rfl⟩)
      split
      · exact absurd ‹_› hlisted
      · rfl
  | introspected position readable =>
    dsimp only [step, removes]
    by_cases hlisted : s.listed = []
    · rw [if_pos hlisted, hlisted]
      unfold introspected
      cases hloaded : s.introspections[position]? with
      | none => exact .inr (.inr ⟨rfl, rfl, rfl, rfl⟩)
      | some loaded =>
        cases readable with
        | true => exact .inr (.inl ⟨loaded, "introspected", rfl, rfl, rfl, rfl⟩)
        | false => exact .inr (.inr ⟨rfl, rfl, rfl, rfl⟩)
    · rw [if_neg hlisted]
      refine .inr (.inr ⟨?_, rfl, rfl, rfl⟩)
      split
      · exact absurd ‹_› hlisted
      · rfl

theorem Known.writes (hs : Known settings s) {removal : Removal} (hmem : removal ∈ s.removals)
    (happlied : removal.state = "applied") (hnewest : s.Newest removal.loaded) :
    ∀ operation ∈ commandedWrite settings removal.loaded.command,
      s.lastWrite removal.loaded.path = some (removal.loaded, operation) := by
  intro operation hoperation
  rw [← (hs.applied removal hmem happlied).1 operation hoperation]
  unfold lastWrite lastWriteUpTo
  congr 1
  refine List.filter_congr fun written hwritten => ?_
  -- no write of the file is from a newer generation
  by_cases hpath : written.1.path = removal.loaded.path
  · have hle := hnewest.2 written.1 (hs.operations written hwritten) hpath
    simp [hpath, hle]
  · simp [hpath]

/-- An event keeps the lane sound exactly when it removes no file that was replaced. -/
theorem sound_step_iff (hs : Known settings s) (hsound : Sound settings s) (e : LaneEvent) :
    Sound settings (step settings s e) ↔ s.RemovesOwn settings e := by
  have hnext : Known settings (step settings s e) := known_step hs
  rcases @step_cases settings s e with ⟨path, command, rfl⟩ |
    ⟨loaded, state, hremoves, hfiles, haccepted, hremovals⟩ | ⟨hremoves, hfiles, haccepted, hremovals⟩
  · refine ⟨fun _ => nofun, fun _ => ⟨hsound.deletes, fun newest hnewest => ?_, fun r hr => hnext.writes hr⟩⟩
    change (s.files.set path _).get? newest.path = _ ∨ _
    rw [Dict.get?_set]
    obtain ⟨hmem, hall⟩ := hnewest
    rcases List.mem_append.mp hmem with hold | hnew
    · -- an older generation of the stored file is not the newest any more
      have hpath : newest.path ≠ path := by
        rintro rfl
        have := hall _ (List.mem_append_right _ List.mem_cons_self) rfl
        exact absurd (hs.generation_lt hold) (Nat.not_lt.mpr this)
      rw [if_neg hpath]
      exact hsound.keeps newest ⟨hold, fun other hother => hall other (List.mem_append_left _ hother)⟩
    · obtain rfl := List.mem_singleton.mp hnew
      exact .inl (if_pos rfl)
  · have hremoval : ⟨loaded, state, (s.files.get? loaded.path).map (·.generation)⟩ ∈
        (step settings s e).removals := by simp [hremovals]
    have hloaded : loaded ∈ s.accepted := haccepted ▸ hnext.removed _ hremoval
    constructor
    · rintro h other hother ⟨stored, hstored, hne⟩
      obtain rfl := Option.some.inj (hremoves.symm.trans hother)
      exact hne (h.deletes _ hremoval stored.generation (Option.map_eq_some_iff.mpr ⟨stored, hstored, rfl⟩))
    · intro hown
      have hsame : ∀ stored ∈ s.files.get? loaded.path, stored.generation = loaded.generation := by
        intro stored hstored
        by_contra hne
        exact hown loaded hremoves ⟨stored, hstored, hne⟩
      refine ⟨fun r hr => ?_, fun newest hnewest => ?_, fun r hr => hnext.writes hr⟩
      · rw [hremovals] at hr
        rcases List.mem_append.mp hr with hr | hr
        · exact hsound.deletes r hr
        · obtain rfl := List.mem_singleton.mp hr
          intro generation hgeneration
          obtain ⟨stored, hstored, rfl⟩ := Option.map_eq_some_iff.mp hgeneration
          exact hsame stored hstored
      · unfold Newest at hnewest
        rw [haccepted] at hnewest
        rw [hfiles, hremovals, Dict.get?_erase]
        rcases hsound.keeps newest hnewest with hstored | ⟨r, hr, heq⟩
        · split
          · rename_i hpath
            -- the removed file held the newest generation, so that is the removed command
            have hgeneration : newest.generation = loaded.generation :=
              hsame ⟨newest.generation, newest.command⟩ (hpath ▸ hstored)
            exact .inr ⟨_, List.mem_append_right _ List.mem_cons_self,
              (hs.eq_of_generation hnewest.1 hloaded hgeneration).symm⟩
          · exact .inl hstored
        · exact .inr ⟨r, List.mem_append_left _ hr, heq⟩
  · refine ⟨fun _ other hother => (nomatch hremoves.symm.trans hother), fun _ =>
      ⟨fun r hr => hsound.deletes r (hremovals ▸ hr), fun newest hnewest => ?_, fun r hr => hnext.writes hr⟩⟩
    unfold Newest at hnewest
    rw [haccepted] at hnewest
    rw [hfiles, hremovals]
    exact hsound.keeps newest hnewest

theorem sound_start : Sound settings start := by
  constructor <;> simp [start, Newest]

variable (settings) in
/-- Every state of a run is sound exactly when no event of it removes a file that was replaced since it was
read. -/
theorem removes_executed_iff (es : List LaneEvent) :
    (∀ before after, es = before ++ after → Sound settings (run (step settings) start before)) ↔
      Along (step settings) (RemovesOwn settings) start es := by
  have hok : Along (step settings) (fun _ _ => True) start es :=
    along_of_forall_mem (step settings) fun _ _ => trivial
  exact all_states_iff_along (fun _ _ hs _ => known_step hs) (fun _ e hs _ hsound => sound_step_iff hs hsound e)
    (known_start settings) sound_start hok

/-! ## A newer command that goes with the older one -/

/-- A command for the first relay, with its contact normally open. -/
def relayCommand (enabled : Bool) : JsonMap :=
  [("kind", .string "gx_relay_set_enabled"), ("relay_index", .int 0), ("enabled", .bool enabled),
    ("ensure_manual", .bool false), ("contact_mode", .string "NO"), ("verify_settle_seconds", .int 0),
    ("verify_retry_seconds", .int 0), ("priority", .string "user")]

/-- A scan without pressure and with budget. -/
def quietScan : ConsiderInput := ⟨1000, 1000, 0, .ok, true, true, .ok .deferred, false, false⟩

/-- The relay is switched on, and the command to switch it off is stored between the write and the answer of
the verification. -/
def overtaken : List LaneEvent :=
  [.enqueue "relay.json" (relayCommand true), .read "relay.json", .prioritize 1000, .consider quietScan,
    .submit 0 true, .answer (.writeCode 0) 0, .enqueue "relay.json" (relayCommand false), .submit 0 true,
    .answer (.value (some 1) none) 0]

/-- The end of the older command deletes the newer one, which is never executed. -/
theorem newer_command_deleted :
    let settings : ExecutorSettings := ⟨"", "", ""⟩
    let last := run (step settings) start overtaken
    (last.removals.map fun removal => (removal.loaded.generation, removal.state, removal.deleted)) =
        [(0, "applied", some 1)] ∧
      (last.files.get? "relay.json").isNone = true ∧
      last.operations.map (·.2) = [.write "com.victronenergy.system" "/Relay/0/State" (.i32 1),
        .read "com.victronenergy.system" "/Relay/0/State"] ∧
      ¬∀ before after, overtaken = before ++ after → Sound settings (run (step settings) start before) := by
  refine ⟨by decide +kernel, by decide +kernel, by decide +kernel, fun h => ?_⟩
  have hdeletes := (h overtaken [] (List.append_nil _).symm).deletes
  revert hdeletes
  decide +kernel

end MailboxLane

end VenusEvcharger.NativeGateway
