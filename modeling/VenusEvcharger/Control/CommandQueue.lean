import VenusEvcharger.Library.Run
import VenusEvcharger.Python.Value

/-!
# The queue of control commands

`ControlCommandQueue` holds one command for each target, in the order of their last enqueue. An enqueue
replaces the command of its target, and then drops the oldest targets beyond `_control_command_max_paths`,
although their commands were accepted. `drain_once` takes all commands under the lock and hands them to the
handler outside it. `accepted_accounted` says what becomes of an accepted command, and `drained_in_order` that
a drain hands over what it took.

Scope: any number of `drain_once` calls may run at the same time, and every other call happens between two of
their steps. The time a command was queued, the measured durations and the log are left out.
-/

namespace VenusEvcharger

open Library

/-- What the queue reads of a `ControlCommand`. -/
structure ControlCommand where
  target : String
  value : Value

/-- A queued command with the sequence number of its enqueue. -/
structure QueuedControlCommand where
  sequence : Nat
  command : ControlCommand

/-- The service attributes of the queue. -/
structure ControlCommandQueue where
  pending : Dict String QueuedControlCommand
  sequence : Nat
  desired : Dict String Value

namespace ControlCommandQueue

/-- Nothing is queued. -/
def initial : ControlCommandQueue := ⟨.empty, 0, .empty⟩

/-- The commands in the order of the dictionary. -/
def commands (q : ControlCommandQueue) : List QueuedControlCommand := q.pending.entries.map Prod.snd

section Enqueue

variable (maxPaths : Nat) (q : ControlCommandQueue) (command : ControlCommand)

/-- What an enqueue makes of the command. -/
def entry : QueuedControlCommand := ⟨q.sequence + 1, command⟩

/-- The dictionary with the new command, before the oldest ones are dropped. -/
def assigned : Dict String QueuedControlCommand :=
  (q.pending.erase command.target).set command.target (q.entry command)

/-- `enqueue` of an asynchronous command. -/
def enqueue : ControlCommandQueue where
  pending := (q.assigned command).dropSurplus maxPaths
  sequence := q.sequence + 1
  desired := ((q.assigned command).surplus maxPaths).foldl (fun desired dropped => desired.erase dropped.1)
    (q.desired.set command.target command.value)

end Enqueue

end ControlCommandQueue

/-- The exceptions of the handler: `ASYNC_CONTROL_COMMAND_ERRORS`, and all others. -/
inductive HandlerError where
  | osError
  | runtimeError
  | typeError
  | valueError
  | other
deriving DecidableEq

/-- How a call of the handler ends. -/
inductive HandlerOutcome where
  | returned
  | failed (error : HandlerError)
deriving DecidableEq

/-- The handler returns, or its exception is caught. -/
def HandlerOutcome.caught (outcome : HandlerOutcome) : Bool := decide (outcome ≠ .failed .other)

/-- A call of `drain_once`: what it took, how many commands it handed over, and whether an exception ended it. -/
structure DrainCall where
  batch : List QueuedControlCommand
  handled : Nat
  raised : Bool

namespace DrainCall

/-- The commands that were handed to the handler. -/
def executed (call : DrainCall) : List QueuedControlCommand := call.batch.take call.handled

/-- The next command is handed over, unless there is none or an exception has ended the call. -/
def handle (call : DrainCall) (outcome : HandlerOutcome) : DrainCall :=
  if call.raised ∨ call.batch.length ≤ call.handled then call
  else ⟨call.batch, call.handled + 1, !outcome.caught⟩

end DrainCall

/-! ## Runs -/

/-- A command that another one replaced. -/
structure Supersession where
  replaced : QueuedControlCommand
  replacement : QueuedControlCommand

/-- A command that was dropped, and those that stayed. -/
structure Eviction where
  dropped : QueuedControlCommand
  kept : List QueuedControlCommand

/-- An enqueue that returned `True`: the command was queued, or the handler accepted it at once. -/
inductive Acceptance where
  | queued (entry : QueuedControlCommand)
  | handled (command : ControlCommand)

/-- A step of the parties. -/
inductive QueueEvent where
  | enqueue (asyncEnabled handlerAccepts : Bool) (command : ControlCommand)
  | drainOnce
  | handle (call : Nat) (outcome : HandlerOutcome)

/-- The queue, the calls of `drain_once` in their order, and what became of the commands. -/
structure ControlQueueRun where
  queue : ControlCommandQueue
  calls : List DrainCall
  accepted : List Acceptance
  direct : List ControlCommand
  superseded : List Supersession
  evicted : List Eviction

namespace ControlQueueRun

/-- Nothing has happened. -/
def start : ControlQueueRun := ⟨.initial, [], [], [], [], []⟩

section Limit

variable (maxPaths : Nat)

/-- The run after an asynchronous enqueue. -/
def enqueued (r : ControlQueueRun) (command : ControlCommand) : ControlQueueRun where
  queue := r.queue.enqueue maxPaths command
  calls := r.calls
  accepted := .queued (r.queue.entry command) :: r.accepted
  direct := r.direct
  superseded :=
    ((r.queue.pending.get? command.target).map fun replaced => ⟨replaced, r.queue.entry command⟩).toList ++
      r.superseded
  evicted :=
    (((r.queue.assigned command).surplus maxPaths).map fun dropped =>
      ⟨dropped.2, (r.queue.enqueue maxPaths command).commands⟩) ++ r.evicted

/-- The run after a step. -/
def step (r : ControlQueueRun) : QueueEvent → ControlQueueRun
  | .enqueue true _ command => r.enqueued maxPaths command
  | .enqueue false true command =>
    { r with accepted := .handled command :: r.accepted, direct := command :: r.direct }
  | .enqueue false false _ => r
  | .drainOnce =>
    { r with queue := { r.queue with pending := .empty }, calls := r.calls ++ [⟨r.queue.commands, 0, false⟩] }
  | .handle call outcome => { r with calls := r.calls.modify call (·.handle outcome) }

/-- What became of an accepted command: the handler has it already, or it is queued, or a drain took it, or
another command replaced it, or it was dropped. -/
def Accounted (r : ControlQueueRun) : Acceptance → Prop
  | .handled command => command ∈ r.direct
  | .queued entry =>
    entry ∈ r.queue.commands ∨ (∃ call ∈ r.calls, entry ∈ call.batch) ∨
      (∃ supersession ∈ r.superseded, supersession.replaced = entry) ∨
      ∃ eviction ∈ r.evicted, eviction.dropped = entry

/-- The replacement is a later enqueue for the same target. -/
def Supersession.Later (s : Supersession) : Prop :=
  s.replaced.sequence < s.replacement.sequence ∧ s.replaced.command.target = s.replacement.command.target

/-- The dropped command was older than the commands that stayed, which are as many as the queue may hold. -/
def Eviction.Oldest (e : Eviction) : Prop :=
  e.kept.length = maxPaths ∧ ∀ kept ∈ e.kept, e.dropped.sequence < kept.sequence

/-- The commands stand in the order of their enqueues. -/
def InOrder (commands : List QueuedControlCommand) : Prop := commands.Pairwise fun a b => a.sequence < b.sequence

/-- What holds in every state. -/
structure Faithful (r : ControlQueueRun) : Prop where
  targets : ∀ e ∈ r.queue.pending.entries, e.2.command.target = e.1
  bounded : ∀ entry ∈ r.queue.commands, entry.sequence ≤ r.queue.sequence
  inOrder : InOrder r.queue.commands
  accounted : ∀ acceptance ∈ r.accepted, r.Accounted acceptance
  superseded : ∀ supersession ∈ r.superseded,
    Supersession.Later supersession ∧ .queued supersession.replacement ∈ r.accepted
  evicted : ∀ eviction ∈ r.evicted, Eviction.Oldest maxPaths eviction
  batches : ∀ call ∈ r.calls, InOrder call.batch

end Limit

/-! ## An enqueue -/

section Step

variable {maxPaths : Nat} {r : ControlQueueRun}

/-- The new command stands behind those of the other targets. -/
theorem entries_assigned (q : ControlCommandQueue) (command : ControlCommand) :
    (q.assigned command).entries = (q.pending.erase command.target).entries ++ [(command.target, q.entry command)] := by
  refine Dict.setEntry_of_notMem fun hmem => ?_
  obtain ⟨v, hv⟩ := Dict.mem_keys_iff.mp hmem
  rw [Dict.get?_erase, if_pos rfl] at hv
  exact absurd hv (by simp)

/-- A command of another target stays until the oldest ones are dropped. -/
theorem mem_erase_entries {d : Dict String QueuedControlCommand} {e : String × QueuedControlCommand}
    {target : String} : e ∈ (d.erase target).entries ↔ e ∈ d.entries ∧ e.1 ≠ target := by
  show e ∈ d.entries.filter _ ↔ _
  rw [List.mem_filter, decide_eq_true_eq]

/-- The dictionary falls into what is dropped and what stays. -/
theorem surplus_append_dropSurplus (maxPaths : Nat) (d : Dict String QueuedControlCommand) :
    d.surplus maxPaths ++ (d.dropSurplus maxPaths).entries = d.entries :=
  List.take_append_drop _ _

/-- What an enqueue leaves pending is the new command or was pending before. -/
theorem mem_enqueued_pending {command : ControlCommand} {e : String × QueuedControlCommand}
    (he : e ∈ (r.enqueued maxPaths command).queue.pending.entries) :
    e ∈ r.queue.pending.entries ∨ e = (command.target, r.queue.entry command) := by
  have hmem : e ∈ (r.queue.assigned command).entries := List.mem_of_mem_drop he
  rw [entries_assigned, List.mem_append, List.mem_singleton] at hmem
  exact hmem.imp_left fun hold => (mem_erase_entries.mp hold).1

section

variable (hr : r.Faithful maxPaths)
include hr

/-- The new dictionary is in order. -/
theorem inOrder_assigned (command : ControlCommand) :
    InOrder ((r.queue.assigned command).entries.map Prod.snd) := by
  rw [entries_assigned, List.map_append]
  refine List.pairwise_append.mpr ⟨?_, List.pairwise_singleton _ _, ?_⟩
  · exact hr.inOrder.sublist (List.filter_sublist.map Prod.snd)
  · intro older holder newer hnewer
    rw [List.map_singleton, List.mem_singleton] at hnewer
    rw [hnewer]
    obtain ⟨e, he, rfl⟩ := List.mem_map.mp holder
    have hle := hr.bounded e.2 (List.mem_map_of_mem (mem_erase_entries.mp he).1)
    show e.2.sequence < r.queue.sequence + 1
    omega

/-- An enqueue accounts for the new command and for those that were queued. -/
theorem accounted_enqueued (command : ControlCommand) :
    ∀ acceptance ∈ (r.enqueued maxPaths command).accepted,
      (r.enqueued maxPaths command).Accounted acceptance := by
  -- whatever was in the new dictionary is queued or dropped
  have hassigned : ∀ e ∈ (r.queue.assigned command).entries,
      (r.enqueued maxPaths command).Accounted (.queued e.2) := by
    intro e he
    rw [← surplus_append_dropSurplus maxPaths, List.mem_append] at he
    rcases he with he | he
    · exact Or.inr (Or.inr (Or.inr ⟨_, List.mem_append_left _ (List.mem_map_of_mem he), rfl⟩))
    · exact Or.inl (List.mem_map_of_mem he)
  intro acceptance hmem
  rcases List.mem_cons.mp hmem with rfl | hold
  · refine hassigned (command.target, r.queue.entry command) ?_
    rw [entries_assigned]
    exact List.mem_append_right _ List.mem_cons_self
  · have hacc := hr.accounted acceptance hold
    cases acceptance with
    | handled command => exact hacc
    | queued entry =>
      rcases hacc with hqueued | htaken | ⟨s, hs, hreplaced⟩ | ⟨e, he, hdropped⟩
      · obtain ⟨e, he, rfl⟩ := List.mem_map.mp hqueued
        by_cases htarget : e.1 = command.target
        · -- the command of the target is replaced
          have hget : r.queue.pending.get? command.target = some e.2 := by
            rw [← Dict.mem_entries_iff, ← htarget]
            exact he
          refine Or.inr (Or.inr (Or.inl ⟨⟨e.2, r.queue.entry command⟩, ?_, rfl⟩))
          show _ ∈ ((r.queue.pending.get? command.target).map _).toList ++ r.superseded
          rw [hget]
          exact List.mem_cons_self
        · refine hassigned e ?_
          rw [entries_assigned]
          exact List.mem_append_left _ (mem_erase_entries.mpr ⟨he, htarget⟩)
      · exact Or.inr (Or.inl htaken)
      · exact Or.inr (Or.inr (Or.inl ⟨s, List.mem_append_right _ hs, hreplaced⟩))
      · exact Or.inr (Or.inr (Or.inr ⟨e, List.mem_append_right _ he, hdropped⟩))

/-- An enqueue keeps what holds in every state. -/
theorem faithful_enqueued (command : ControlCommand) :
    (r.enqueued maxPaths command).Faithful maxPaths where
  targets := by
    intro e he
    rcases mem_enqueued_pending he with h | rfl
    · exact hr.targets e h
    · rfl
  bounded := by
    intro entry hentry
    obtain ⟨e, he, rfl⟩ := List.mem_map.mp hentry
    rcases mem_enqueued_pending he with h | rfl
    · exact (hr.bounded e.2 (List.mem_map_of_mem h)).trans (Nat.le_succ _)
    · exact le_rfl
  inOrder := (inOrder_assigned hr command).sublist ((List.drop_sublist _ _).map Prod.snd)
  accounted := accounted_enqueued hr command
  superseded := by
    intro s hs
    rcases List.mem_append.mp hs with hnew | hold
    · obtain ⟨replaced, hget, rfl⟩ := Option.map_eq_some_iff.mp (Option.mem_toList.mp hnew)
      have hentry := Dict.mem_entries_iff.mpr hget
      refine ⟨⟨?_, hr.targets _ hentry⟩, List.mem_cons_self⟩
      exact Nat.lt_succ_of_le (hr.bounded _ (List.mem_map_of_mem (f := Prod.snd) hentry))
    · exact ⟨(hr.superseded s hold).1, List.mem_cons_of_mem _ (hr.superseded s hold).2⟩
  evicted := by
    intro e he
    rcases List.mem_append.mp he with hnew | hold
    · obtain ⟨dropped, hdropped, rfl⟩ := List.mem_map.mp hnew
      have hsplit := inOrder_assigned hr command
      rw [← surplus_append_dropSurplus maxPaths, List.map_append] at hsplit
      constructor
      · show (((r.queue.assigned command).entries.drop _).map Prod.snd).length = maxPaths
        have hpos : 0 < ((r.queue.assigned command).surplus maxPaths).length := List.length_pos_of_mem hdropped
        have htake : ((r.queue.assigned command).surplus maxPaths).length =
          min ((r.queue.assigned command).entries.length - maxPaths) _ := List.length_take
        rw [List.length_map, List.length_drop]
        omega
      · intro kept hkept
        exact (List.pairwise_append.mp hsplit).2.2 dropped.2 (List.mem_map_of_mem hdropped) kept hkept
    · exact hr.evicted e hold
  batches := hr.batches

/-- A drain takes what is queued. -/
theorem faithful_drainOnce : (r.step maxPaths .drainOnce).Faithful maxPaths where
  targets := fun e he => nomatch he
  bounded := fun e he => nomatch he
  inOrder := List.Pairwise.nil
  accounted := by
    intro acceptance hmem
    have hacc := hr.accounted acceptance hmem
    cases acceptance with
    | handled command => exact hacc
    | queued entry =>
      rcases hacc with hqueued | ⟨call, hcall, hbatch⟩ | hrest
      · exact Or.inr (Or.inl ⟨⟨r.queue.commands, 0, false⟩, List.mem_append_right _ List.mem_cons_self, hqueued⟩)
      · exact Or.inr (Or.inl ⟨call, List.mem_append_left _ hcall, hbatch⟩)
      · exact Or.inr (Or.inr hrest)
  superseded := hr.superseded
  evicted := hr.evicted
  batches := by
    intro call hcall
    rcases List.mem_append.mp hcall with hold | hnew
    · exact hr.batches call hold
    · rw [List.mem_singleton.mp hnew]
      exact hr.inOrder

end

/-- Handing a command over changes no batch. -/
theorem batch_handle (call : DrainCall) (outcome : HandlerOutcome) : (call.handle outcome).batch = call.batch := by
  unfold DrainCall.handle
  split <;> rfl

/-- The batches of the calls stay when a call hands a command over. -/
theorem map_batch_modify (calls : List DrainCall) (index : Nat) (outcome : HandlerOutcome) :
    (calls.modify index (·.handle outcome)).map (·.batch) = calls.map (·.batch) := by
  induction calls generalizing index with
  | nil => cases index <;> rfl
  | cons call calls ih =>
    cases index with
    | zero => exact congrArg (· :: calls.map (·.batch)) (batch_handle call outcome)
    | succ index => exact congrArg (call.batch :: ·) (ih index)

/-- A call that hands a command over changes nothing else. -/
theorem faithful_handle (hr : r.Faithful maxPaths) (index : Nat) (outcome : HandlerOutcome) :
    (r.step maxPaths (.handle index outcome)).Faithful maxPaths where
  targets := hr.targets
  bounded := hr.bounded
  inOrder := hr.inOrder
  accounted := by
    intro acceptance hmem
    have hacc := hr.accounted acceptance hmem
    cases acceptance with
    | handled command => exact hacc
    | queued entry =>
      rcases hacc with hqueued | ⟨call, hcall, hbatch⟩ | hrest
      · exact Or.inl hqueued
      · have hbatches : call.batch ∈ (r.calls.modify index (·.handle outcome)).map (·.batch) := by
          rw [map_batch_modify]
          exact List.mem_map_of_mem hcall
        obtain ⟨later, hlater, heq⟩ := List.mem_map.mp hbatches
        exact Or.inr (Or.inl ⟨later, hlater, by rw [heq]; exact hbatch⟩)
      · exact Or.inr (Or.inr hrest)
  superseded := hr.superseded
  evicted := hr.evicted
  batches := by
    intro later hlater
    have hbatches : later.batch ∈ r.calls.map (·.batch) := by
      rw [← map_batch_modify r.calls index outcome]
      exact List.mem_map_of_mem hlater
    obtain ⟨call, hcall, heq⟩ := List.mem_map.mp hbatches
    rw [← heq]
    exact hr.batches call hcall

/-- Every step keeps what holds in every state. -/
theorem faithful_step (r : ControlQueueRun) (event : QueueEvent) (hr : r.Faithful maxPaths) :
    (r.step maxPaths event).Faithful maxPaths := by
  cases event with
  | enqueue asyncEnabled handlerAccepts command =>
    cases asyncEnabled with
    | true => exact faithful_enqueued hr command
    | false =>
      cases handlerAccepts with
      | false => exact hr
      | true =>
        refine ⟨hr.targets, hr.bounded, hr.inOrder, fun acceptance hmem => ?_,
          fun s hs => ⟨(hr.superseded s hs).1, List.mem_cons_of_mem _ (hr.superseded s hs).2⟩,
          hr.evicted, hr.batches⟩
        rcases List.mem_cons.mp hmem with rfl | hold
        · exact List.mem_cons_self
        · have hacc := hr.accounted acceptance hold
          cases acceptance with
          | handled command => exact List.mem_cons_of_mem _ hacc
          | queued entry => exact hacc
  | drainOnce => exact faithful_drainOnce hr
  | handle index outcome => exact faithful_handle hr index outcome

theorem faithful_start : start.Faithful maxPaths where
  targets := nofun
  bounded := nofun
  inOrder := List.Pairwise.nil
  accounted := nofun
  superseded := nofun
  evicted := nofun
  batches := nofun

end Step

/-! ## A drain -/

/-- How the handler ends for the commands of one call. -/
def outcomesOf (index : Nat) (events : List QueueEvent) : List HandlerOutcome :=
  events.filterMap fun
    | .handle call outcome => if call = index then some outcome else none
    | _ => none

theorem calls_step (maxPaths : Nat) (r : ControlQueueRun) (event : QueueEvent) {index : Nat} {call : DrainCall}
    (hcall : r.calls[index]? = some call) :
    (r.step maxPaths event).calls[index]? = some ((outcomesOf index [event]).foldl DrainCall.handle call) := by
  cases event with
  | enqueue asyncEnabled handlerAccepts command =>
    cases asyncEnabled with
    | true => exact hcall
    | false => cases handlerAccepts <;> exact hcall
  | drainOnce =>
    have hlt : index < r.calls.length := (List.getElem?_eq_some_iff.mp hcall).1
    show (r.calls ++ _)[index]? = _
    rw [List.getElem?_append_left hlt]
    exact hcall
  | handle target outcome =>
    show (r.calls.modify target (·.handle outcome))[index]? = _
    rw [List.getElem?_modify, hcall]
    by_cases h : target = index
    · simp [outcomesOf, h]
    · simp [outcomesOf, h]

/-- A call goes through its own outcomes, whatever happens beside it. -/
theorem calls_run (maxPaths : Nat) (events : List QueueEvent) {r : ControlQueueRun} {index : Nat} {call : DrainCall}
    (hcall : r.calls[index]? = some call) :
    (run (step maxPaths) r events).calls[index]? =
      some ((outcomesOf index events).foldl DrainCall.handle call) := by
  induction events generalizing r call with
  | nil => exact hcall
  | cons event events ih =>
    rw [run_cons, ih (calls_step maxPaths r event hcall), ← List.foldl_append]
    show some (List.foldl _ _ (outcomesOf index [event] ++ outcomesOf index events)) = _
    rw [outcomesOf, outcomesOf, ← List.filterMap_append]
    rfl

/-- While every exception is caught, a call hands over one command after the other. -/
theorem foldl_handle {outcomes : List HandlerOutcome} (hcaught : ∀ outcome ∈ outcomes, outcome.caught = true)
    (call : DrainCall) (hraised : call.raised = false) (hle : call.handled ≤ call.batch.length) :
    (outcomes.foldl DrainCall.handle call).batch = call.batch ∧
      (outcomes.foldl DrainCall.handle call).handled = min (call.handled + outcomes.length) call.batch.length := by
  induction outcomes generalizing call with
  | nil => exact ⟨rfl, (min_eq_left hle).symm⟩
  | cons outcome outcomes ih =>
    have hrest : ∀ later ∈ outcomes, later.caught = true :=
      fun later h => hcaught later (List.mem_cons_of_mem _ h)
    rw [List.foldl_cons, List.length_cons]
    by_cases hdone : call.batch.length ≤ call.handled
    · have hsame : call.handle outcome = call := if_pos (Or.inr hdone)
      rw [hsame]
      refine ⟨(ih hrest call hraised hle).1, (ih hrest call hraised hle).2.trans ?_⟩
      omega
    · have hnext : call.handle outcome = ⟨call.batch, call.handled + 1, !outcome.caught⟩ :=
        if_neg (by simp [hraised]; omega)
      have hnot : (!outcome.caught) = false := by rw [hcaught outcome List.mem_cons_self]; rfl
      rw [hnext, hnot]
      obtain ⟨hbatch, hhandled⟩ := ih hrest ⟨call.batch, call.handled + 1, false⟩ rfl
        (by show call.handled + 1 ≤ call.batch.length; omega)
      refine ⟨hbatch, hhandled.trans ?_⟩
      show min (call.handled + 1 + outcomes.length) call.batch.length = _
      omega

/-- The call hands over all of its commands in order, once the handler has ended often enough and every
exception was caught. -/
def Completes (maxPaths : Nat) (r : ControlQueueRun) (index : Nat) (commands : List QueuedControlCommand) : Prop :=
  ∀ events, (∀ outcome ∈ outcomesOf index events, outcome.caught = true) →
    commands.length ≤ (outcomesOf index events).length →
    ∃ call, (run (step maxPaths) r events).calls[index]? = some call ∧ call.executed = commands

/-- A drain hands over what was queued. -/
theorem completes_drainOnce (maxPaths : Nat) (r : ControlQueueRun) :
    Completes maxPaths (r.step maxPaths .drainOnce) r.calls.length r.queue.commands := by
  intro events hcaught hlength
  have hcall : (r.step maxPaths .drainOnce).calls[r.calls.length]? = some ⟨r.queue.commands, 0, false⟩ :=
    List.getElem?_concat_length
  refine ⟨_, calls_run maxPaths events hcall, ?_⟩
  obtain ⟨hbatch, hhandled⟩ := foldl_handle hcaught ⟨r.queue.commands, 0, false⟩ rfl (Nat.zero_le _)
  have hall : min (0 + (outcomesOf r.calls.length events).length) r.queue.commands.length = r.queue.commands.length := by
    omega
  rw [DrainCall.executed, hbatch, hhandled]
  show r.queue.commands.take (min _ _) = _
  rw [hall]
  exact List.take_length

/-- In every run of enqueues and drains, an accepted command has been handed to the handler at once, or is
queued, or was taken by a drain, or was replaced by a later one for its target, or was dropped as the oldest one
when the queue held as many others as it may. What is queued stands in the order of the last enqueues, and the
next drain hands it over in this order. -/
theorem accepted_accounted (maxPaths : Nat) (events : List QueueEvent) :
    let r := run (step maxPaths) start events
    (∀ acceptance ∈ r.accepted, r.Accounted acceptance) ∧
    (∀ supersession ∈ r.superseded, Supersession.Later supersession ∧ .queued supersession.replacement ∈ r.accepted) ∧
    (∀ eviction ∈ r.evicted, Eviction.Oldest maxPaths eviction) ∧
    (∀ call ∈ r.calls, InOrder call.batch) ∧
    InOrder r.queue.commands ∧ Completes maxPaths (r.step maxPaths .drainOnce) r.calls.length r.queue.commands := by
  intro r
  have hr : r.Faithful maxPaths := run_invariant faithful_step faithful_start events
  exact ⟨hr.accounted, hr.superseded, hr.evicted, hr.batches, hr.inOrder, completes_drainOnce maxPaths r⟩

/-- One enqueue for each of thirty-three targets. -/
def thirtyThreeTargets : List QueueEvent :=
  (List.range 33).map fun target => .enqueue true true ⟨toString target, .bool true⟩

/-- Its first command was accepted, and is neither queued nor taken by a drain nor replaced. -/
theorem accepted_command_dropped :
    let r := run (step 32) start thirtyThreeTargets
    .queued ⟨1, ⟨"0", .bool true⟩⟩ ∈ r.accepted ∧ (∀ entry ∈ r.queue.commands, entry.sequence ≠ 1) ∧
      r.calls = [] ∧ r.superseded = [] := by
  intro r
  have hlast : r.accepted[32]? = some (.queued ⟨1, ⟨"0", .bool true⟩⟩) := by rfl
  have hsuperseded : r.superseded.length = 0 := by decide +kernel
  exact ⟨List.mem_of_getElem? hlast, by decide +kernel, by rfl, List.length_eq_zero_iff.mp hsuperseded⟩

end ControlQueueRun

end VenusEvcharger
