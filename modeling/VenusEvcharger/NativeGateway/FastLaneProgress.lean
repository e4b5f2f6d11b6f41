import VenusEvcharger.NativeGateway.FastLane

/-!
# Progress of the fast lane

`Accounted` says where every accepted publication is, so a deferral loses none. A tick takes the front
publication, or is blocked, or finds the budget of its class used up, and the last lasts at most one second:
`window_progress`. `fast_lane_progress` bounds the wait of a publication by its position and the number of
blocked ticks.
-/

namespace VenusEvcharger.NativeGateway

open Library

/-! ## Dropped publications -/

theorem PublicationRegistry.publish_ne_dropped (r : PublicationRegistry) (answers : BusAnswers)
    (serviceId : String) {command : JsonMap} (hfields : (command.object? "fields").isSome) :
    (r.publish answers serviceId command).result ≠ .ok .dropped := by
  obtain ⟨fields, hfields⟩ := Option.isSome_iff_exists.mp hfields
  unfold publish
  rw [hfields]
  dsimp only
  split
  · simp
  · split
    · simp
    · split
      · simp
      · split
        · simp
        · split
          · simp
          · split
            · simp
            · simp
            · split <;> simp

namespace FastLane

variable {command : JsonMap}

theorem targetService_of_dropped {r : PublicationRegistry} {answers : BusAnswers}
    (hadmissible : admissible command = true) (h : (r.apply answers command).result = .ok .dropped) :
    targetService command = none := by
  simp only [admissible, Bool.and_eq_true, decide_eq_true_eq, commandKind, List.mem_cons,
    List.not_mem_nil, or_false] at hadmissible
  obtain ⟨hkind, hfields⟩ := hadmissible
  have hfields : (command.object? "fields").isSome := by
    cases hobject : command.object? "fields" with
    | none => simp [hobject] at hfields
    | some fields => rfl
  unfold PublicationRegistry.apply at h
  rcases hkind with hkind | hkind
  · simp only [hkind] at h
    exact absurd h (r.publish_ne_dropped answers "evcs" hfields)
  · simp only [hkind] at h
    cases hservice : command.text? "service_id" with
    | none => simp only [targetService, hkind, hservice]
    | some serviceId =>
      simp only [hservice] at h
      exact absurd h (r.publish_ne_dropped answers serviceId hfields)

/-! ## Accounting -/

/-- Why a publication may leave the queue. -/
def Justified (entry : JsonMap × FastOutcome) : Prop :=
  match entry.2 with
  | .applied => True
  | .dropped => targetService entry.1 = none
  | .expired capturedAt => commandDeadlineExpired entry.1 capturedAt = true

/-- Every accepted publication has left the queue or stands in it, in the order of acceptance. -/
structure Accounted (s : FastLane) : Prop where
  accepted : s.accepted = s.resolved.map Prod.fst ++ s.queue
  length_le : s.queue.length ≤ queueCapacity
  admissible : ∀ command ∈ s.queue, admissible command = true
  justified : ∀ entry ∈ s.resolved, Justified entry

theorem accounted_start (registry : PublicationRegistry) : Accounted (start registry) :=
  ⟨rfl, Nat.zero_le _, fun _ h => absurd h List.not_mem_nil, fun _ h => absurd h List.not_mem_nil⟩

variable {s : FastLane}

theorem accounted_enqueue (hs : Accounted s) (command : JsonMap) :
    Accounted (s.enqueue command) := by
  unfold enqueue
  split
  · rename_i h
    simp only [Bool.and_eq_true, decide_eq_true_eq] at h
    refine ⟨by simp [hs.accepted], ?_, ?_, hs.justified⟩
    · rw [List.length_append, List.length_singleton]
      exact h.2
    · intro c hc
      rcases List.mem_append.mp hc with hc | hc
      · exact hs.admissible c hc
      · rw [List.mem_singleton.mp hc]
        exact h.1
  · exact hs

theorem defer_popped {queue : List JsonMap} (hlength : (command :: queue).length ≤ queueCapacity)
    (hqueue : s.queue = queue) :
    s.defer command = { s with queue := command :: queue } := by
  unfold defer
  rw [List.length_cons] at hlength
  rw [hqueue, if_pos (Nat.lt_of_succ_le hlength)]

/-- A publication that leaves the front is accounted for. -/
theorem accounted_resolve {queue : List JsonMap} {outcome : FastOutcome} (hs : Accounted s)
    (hqueue : s.queue = command :: queue) (hjustified : Justified (command, outcome))
    (registry : PublicationRegistry) (events : List BudgetEvent) :
    Accounted ({ s with queue := queue, registry := registry, budgetEvents := events }.resolve command
      outcome) := by
  refine ⟨?_, ?_, ?_, ?_⟩
  · simp [resolve, hs.accepted, hqueue]
  · have := hs.length_le
    rw [hqueue, List.length_cons] at this
    exact (Nat.le_succ _).trans this
  · intro c hc
    exact hs.admissible c (hqueue ▸ List.mem_cons_of_mem _ hc)
  · intro entry hentry
    rcases List.mem_append.mp hentry with hentry | hentry
    · exact hs.justified entry hentry
    · rw [List.mem_singleton.mp hentry]
      exact hjustified

/-! ## One attempt -/

/-- The attempts that were recorded, with at most one more. -/
def Records (s : FastLane) (events : List BudgetEvent) : Prop :=
  events = s.budgetEvents ∨ ∃ queueClass, events = s.budgetEvents ++ [(s.instant, queueClass)]

variable {configured : String → Int} {capturedAt : ℚ}

/-- An attempt finds nothing, takes the front publication, finds its budget used up, or puts it back after the
registry did not resolve it. -/
inductive Attempt (configured : String → Int) (capturedAt : ℚ) (s : FastLane) (answers : BusAnswers)
    (attempts : List BusAnswers) (final : FastLane) : Prop
  | empty (hqueue : s.queue = []) (hfinal : final = s)
  | taken (command : JsonMap) (queue : List JsonMap) (outcome : FastOutcome)
      (registry : PublicationRegistry) (events : List BudgetEvent) (hqueue : s.queue = command :: queue)
      (hjustified : Justified (command, outcome)) (hrecords : Records s events)
      (hfinal : final = processFast configured capturedAt
        ({ s with queue := queue, registry := registry, budgetEvents := events }.resolve command outcome)
        attempts)
  | closed (command : JsonMap) (hfront : s.queue.head? = some command)
      (hexpired : commandDeadlineExpired command capturedAt = false)
      (hbudget : budgetAvailable configured s.budgetEvents command = false) (hfinal : final = s)
  | deferred (command : JsonMap) (hfront : s.queue.head? = some command)
      (hexpired : commandDeadlineExpired command capturedAt = false)
      (hbudget : budgetAvailable configured s.budgetEvents command = true)
      (hunresolved : resolves (s.registry.apply answers command).result = false)
      (registry : PublicationRegistry) (events : List BudgetEvent) (hrecords : Records s events)
      (hfinal : final = { s with registry := registry, budgetEvents := events })

theorem processFast_attempt (hs : Accounted s) (answers : BusAnswers) (attempts : List BusAnswers) :
    Attempt configured capturedAt s answers attempts
      (processFast configured capturedAt s (answers :: attempts)) := by
  have hlength := hs.length_le
  cases hqueue : s.queue with
  | nil => exact .empty hqueue (by simp only [processFast, hqueue])
  | cons command queue =>
    rw [hqueue] at hlength
    have hadmissible := hs.admissible command (hqueue ▸ List.mem_cons_self)
    have hfront : s.queue.head? = some command := by rw [hqueue]; rfl
    cases hexpired : commandDeadlineExpired command capturedAt with
    | true =>
      exact .taken command queue (.expired capturedAt) s.registry s.budgetEvents hqueue hexpired (.inl rfl)
        (by simp only [processFast, hqueue, hexpired, if_true])
    | false =>
      cases hbudget : budgetAvailable configured s.budgetEvents command with
      | false =>
        refine .closed command hfront hexpired hbudget ?_
        simp only [processFast, hqueue, hexpired, hbudget, Bool.false_eq_true, if_false]
        rw [defer_popped hlength rfl, ← hqueue]
      | true =>
        have hrecords : Records s (s.budgetEvents ++ [(s.instant, commandQueueClass command)]) :=
          .inr ⟨_, rfl⟩
        cases hresult : (s.registry.apply answers command).result with
        | error error =>
          refine .deferred command hfront hexpired hbudget (by rw [hresult]; rfl)
            (s.registry.apply answers command).registry _ hrecords ?_
          simp only [processFast, hqueue, hexpired, hbudget, Bool.false_eq_true, if_false, if_true,
            recordAttempt, hresult]
          rw [defer_popped hlength rfl, ← hqueue]
        | ok outcome =>
          cases outcome with
          | applied =>
            refine .taken command queue .applied (s.registry.apply answers command).registry _ hqueue
              trivial hrecords ?_
            simp only [processFast, hqueue, hexpired, hbudget, Bool.false_eq_true, if_false, if_true,
              recordAttempt, hresult]
          | dropped =>
            refine .taken command queue .dropped (s.registry.apply answers command).registry _ hqueue
              (targetService_of_dropped hadmissible hresult) hrecords ?_
            simp only [processFast, hqueue, hexpired, hbudget, Bool.false_eq_true, if_false, if_true,
              recordAttempt, hresult]
          | deferred =>
            refine .deferred command hfront hexpired hbudget (by rw [hresult]; rfl)
              (s.registry.apply answers command).registry _ hrecords ?_
            simp only [processFast, hqueue, hexpired, hbudget, Bool.false_eq_true, if_false, if_true,
              recordAttempt, hresult]
            rw [defer_popped hlength rfl, ← hqueue]

/-! ## What a tick keeps -/

/-- The attempts are in the order of their instants, and none is later than the last tick. -/
structure Timed (s : FastLane) : Prop where
  sorted : s.budgetEvents.Pairwise fun earlier later => earlier.1 ≤ later.1
  past : ∀ event ∈ s.budgetEvents, event.1 ≤ s.instant

/-- What the attempts of a tick keep between two states. -/
structure Continues (s next : FastLane) : Prop where
  accounted : Accounted next
  timed : Timed next
  instant : next.instant = s.instant
  accepted : next.accepted = s.accepted
  resolved : s.resolved <+: next.resolved

theorem timed_append (hs : Timed s) (queueClass : String) :
    (s.budgetEvents ++ [(s.instant, queueClass)]).Pairwise (fun earlier later => earlier.1 ≤ later.1) ∧
      ∀ event ∈ s.budgetEvents ++ [(s.instant, queueClass)], event.1 ≤ s.instant := by
  constructor
  · refine List.pairwise_append.mpr ⟨hs.sorted, List.pairwise_singleton _ _, ?_⟩
    intro event hevent later hlater
    rw [List.mem_singleton.mp hlater]
    exact hs.past event hevent
  · intro event hevent
    rcases List.mem_append.mp hevent with hevent | hevent
    · exact hs.past event hevent
    · rw [List.mem_singleton.mp hevent]

variable {events : List BudgetEvent}

theorem timed_records (hs : Timed s) (h : Records s events) :
    events.Pairwise (fun earlier later => earlier.1 ≤ later.1) ∧ ∀ event ∈ events, event.1 ≤ s.instant := by
  rcases h with rfl | ⟨queueClass, rfl⟩
  · exact ⟨hs.sorted, hs.past⟩
  · exact timed_append hs queueClass

theorem processFast_continues (hs : Accounted s) (ht : Timed s) (attempts : List BusAnswers) :
    Continues s (processFast configured capturedAt s attempts) := by
  induction attempts generalizing s with
  | nil => exact ⟨hs, ht, rfl, rfl, List.prefix_rfl⟩
  | cons answers attempts ih =>
    cases processFast_attempt hs answers attempts with
    | empty hqueue hfinal => rw [hfinal]; exact ⟨hs, ht, rfl, rfl, List.prefix_rfl⟩
    | taken command queue outcome registry events hqueue hjustified hrecords hfinal =>
      obtain ⟨hsorted, hpast⟩ := timed_records ht hrecords
      have hnext := ih (accounted_resolve hs hqueue hjustified registry events) ⟨hsorted, hpast⟩
      rw [hfinal]
      exact ⟨hnext.accounted, hnext.timed, hnext.instant, hnext.accepted,
        (List.prefix_append _ _).trans hnext.resolved⟩
    | closed command hfront hexpired hbudget hfinal =>
      rw [hfinal]
      exact ⟨hs, ht, rfl, rfl, List.prefix_rfl⟩
    | deferred command hfront hexpired hbudget hunresolved registry events hrecords hfinal =>
      obtain ⟨hsorted, hpast⟩ := timed_records ht hrecords
      rw [hfinal]
      exact ⟨⟨hs.accepted, hs.length_le, hs.admissible, hs.justified⟩, ⟨hsorted, hpast⟩, rfl, rfl,
        List.prefix_rfl⟩

theorem foldl_enqueue (s : FastLane) (arrivals : List JsonMap) (hs : Accounted s) :
    Accounted (arrivals.foldl enqueue s) ∧ (arrivals.foldl enqueue s).instant = s.instant ∧
      (arrivals.foldl enqueue s).budgetEvents = s.budgetEvents ∧
      (arrivals.foldl enqueue s).resolved = s.resolved ∧ s.queue <+: (arrivals.foldl enqueue s).queue ∧
      s.accepted <+: (arrivals.foldl enqueue s).accepted := by
  induction arrivals generalizing s with
  | nil => exact ⟨hs, rfl, rfl, rfl, List.prefix_rfl, List.prefix_rfl⟩
  | cons command arrivals ih =>
    obtain ⟨haccounted, hinstant, hevents, hresolved, hqueue, haccepted⟩ :=
      ih (s.enqueue command) (accounted_enqueue hs command)
    have hframe : (s.enqueue command).instant = s.instant ∧
        (s.enqueue command).budgetEvents = s.budgetEvents ∧ (s.enqueue command).resolved = s.resolved ∧
        s.queue <+: (s.enqueue command).queue ∧ s.accepted <+: (s.enqueue command).accepted := by
      unfold enqueue
      split
      · exact ⟨rfl, rfl, rfl, List.prefix_append _ _, List.prefix_append _ _⟩
      · exact ⟨rfl, rfl, rfl, List.prefix_rfl, List.prefix_rfl⟩
    exact ⟨haccounted, hinstant.trans hframe.1, hevents.trans hframe.2.1, hresolved.trans hframe.2.2.1,
      hframe.2.2.2.1.trans hqueue, hframe.2.2.2.2.trans haccepted⟩

/-- The state in which the attempts of a tick start. -/
theorem opened_spec (hs : Accounted s) (ht : Timed s) (tick : FastTick) :
    Accounted (s.opened tick) ∧ Timed (s.opened tick) ∧
      (s.opened tick).instant = s.instant + tick.elapsed ∧
      (s.opened tick).budgetEvents = pruneBudget s.budgetEvents (s.instant + tick.elapsed) ∧
      (s.opened tick).resolved = s.resolved ∧ s.queue <+: (s.opened tick).queue ∧
      s.accepted <+: (s.opened tick).accepted := by
  obtain ⟨haccounted, hinstant, hevents, hresolved, hqueue, haccepted⟩ := foldl_enqueue s tick.arrivals hs
  have hpositive : (0 : ℚ) ≤ tick.elapsed :=
    le_trans (by norm_num [leastTickSeconds]) tick.elapsed_ge
  have hpruned : (s.opened tick).budgetEvents = pruneBudget s.budgetEvents (s.instant + tick.elapsed) := by
    simp only [opened, hevents, hinstant]
  have hopened : (s.opened tick).instant = s.instant + tick.elapsed := by
    simp only [opened, hinstant]
  refine ⟨⟨haccounted.accepted, haccounted.length_le, haccounted.admissible, haccounted.justified⟩,
    ⟨?_, ?_⟩, hopened, hpruned, hresolved, hqueue, haccepted⟩
  · rw [hpruned]
    exact ht.sorted.sublist (List.dropWhile_sublist _)
  · rw [hpruned, hopened]
    intro event hevent
    have := ht.past event ((List.dropWhile_sublist _).subset hevent)
    linarith

section

variable (configured : String → Int)

theorem mailboxAttempt_continues (hs : Accounted s) (ht : Timed s)
    (work : JsonMap × BusAnswers) : Continues s (s.mailboxAttempt configured work) := by
  obtain ⟨hsorted, hpast⟩ := timed_append ht (commandQueueClass work.1)
  unfold mailboxAttempt
  split
  · dsimp only
    split
    · exact ⟨⟨hs.accepted, hs.length_le, hs.admissible, hs.justified⟩, ⟨hsorted, hpast⟩, rfl, rfl,
        List.prefix_rfl⟩
    · exact ⟨⟨hs.accepted, hs.length_le, hs.admissible, hs.justified⟩, ⟨hsorted, hpast⟩, rfl, rfl,
        List.prefix_rfl⟩
  · exact ⟨hs, ht, rfl, rfl, List.prefix_rfl⟩

theorem mailbox_continues (hs : Accounted s) (ht : Timed s)
    (mailbox : List (JsonMap × BusAnswers)) :
    Continues s (mailbox.foldl (mailboxAttempt configured) s) := by
  induction mailbox generalizing s with
  | nil => exact ⟨hs, ht, rfl, rfl, List.prefix_rfl⟩
  | cons work mailbox ih =>
    have hfirst := mailboxAttempt_continues configured hs ht work
    have hrest := ih hfirst.accounted hfirst.timed
    exact ⟨hrest.accounted, hrest.timed, hrest.instant.trans hfirst.instant,
      hrest.accepted.trans hfirst.accepted, hfirst.resolved.trans hrest.resolved⟩

theorem mailbox_queue (s : FastLane) (mailbox : List (JsonMap × BusAnswers)) :
    (mailbox.foldl (mailboxAttempt configured) s).queue = s.queue := by
  induction mailbox generalizing s with
  | nil => rfl
  | cons work mailbox ih =>
    rw [List.foldl_cons, ih]
    unfold mailboxAttempt
    split
    · dsimp only
      split <;> rfl
    · rfl

theorem step_continues (hs : Accounted s) (ht : Timed s) (tick : FastTick) :
    Accounted (s.step configured tick) ∧ Timed (s.step configured tick) ∧
      (s.step configured tick).instant = s.instant + tick.elapsed ∧
      s.resolved <+: (s.step configured tick).resolved ∧
      s.accepted <+: (s.step configured tick).accepted := by
  obtain ⟨haccounted, htimed, hinstant, -, hresolved, -, haccepted⟩ := opened_spec hs ht tick
  have hfast := @processFast_continues _ configured tick.capturedAt haccounted htimed tick.attempts
  have hmailbox := mailbox_continues configured hfast.accounted hfast.timed tick.mailbox
  refine ⟨hmailbox.accounted, hmailbox.timed, hmailbox.instant.trans (hfast.instant.trans hinstant),
    (hresolved ▸ hfast.resolved).trans hmailbox.resolved, ?_⟩
  rw [show (s.step configured tick).accepted = (s.opened tick).accepted from
    hmailbox.accepted.trans hfast.accepted]
  exact haccepted

end

/-! ## Ticks that take nothing -/

/-- A lane in which the publication stands in front, and its class has no attempt after the instant. -/
structure Waiting (s : FastLane) (command : JsonMap) (since : ℚ) : Prop where
  accounted : Accounted s
  timed : Timed s
  front : s.queue.head? = some command
  quiet : ∀ event ∈ s.budgetEvents, event.2 = commandQueueClass command → event.1 ≤ since

/-- While a class is over its budget, the mailbox lane records no attempt of it. -/
theorem mailbox_closed (configured : String → Int)
    (hclosed : budgetAvailable configured s.budgetEvents command = false)
    (mailbox : List (JsonMap × BusAnswers)) :
    ∀ event ∈ (mailbox.foldl (mailboxAttempt configured) s).budgetEvents,
      event.2 = commandQueueClass command → event ∈ s.budgetEvents := by
  induction mailbox generalizing s with
  | nil => exact fun event hevent _ => hevent
  | cons work mailbox ih =>
    rw [List.foldl_cons]
    by_cases hbudget : budgetAvailable configured s.budgetEvents work.1 = true
    · -- the recorded attempt is of another class
      have hother : commandQueueClass work.1 ≠ commandQueueClass command := by
        intro hsame
        simp only [budgetAvailable, hsame, decide_eq_true_eq, decide_eq_false_iff_not] at hbudget hclosed
        exact hclosed hbudget
      have hevents : (s.mailboxAttempt configured work).budgetEvents =
          s.budgetEvents ++ [(s.instant, commandQueueClass work.1)] := by
        unfold mailboxAttempt
        rw [if_pos hbudget]
        dsimp only
        split <;> rfl
      have hstill : budgetAvailable configured (s.mailboxAttempt configured work).budgetEvents command =
          false := by
        simp only [budgetAvailable, hevents, decide_eq_false_iff_not, List.countP_append] at hclosed ⊢
        omega
      intro event hevent hclass
      have hmem := ih hstill event hevent hclass
      rw [hevents] at hmem
      rcases List.mem_append.mp hmem with hmem | hmem
      · exact hmem
      · rw [List.mem_singleton.mp hmem] at hclass
        exact absurd hclass hother
    · have hsame : s.mailboxAttempt configured work = s := by
        unfold mailboxAttempt
        rw [if_neg hbudget]
      rw [hsame]
      exact ih hclosed

/-- Pruned attempts are recent. -/
theorem pruneBudget_recent {now : ℚ}
    (hsorted : events.Pairwise fun earlier later => earlier.1 ≤ later.1) :
    ∀ event ∈ pruneBudget events now, now - event.1 ≤ budgetWindow := by
  induction events with
  | nil => exact fun event hevent => absurd hevent List.not_mem_nil
  | cons first events ih =>
    obtain ⟨hfirst, htail⟩ := List.pairwise_cons.mp hsorted
    unfold pruneBudget
    rw [List.dropWhile_cons]
    split
    · exact ih htail
    · rename_i hrecent
      have hrecent : now - first.1 ≤ budgetWindow := by simpa using hrecent
      intro event hevent
      rcases List.mem_cons.mp hevent with rfl | hevent
      · exact hrecent
      · have := hfirst event hevent
        linarith

/-- Attempts of a class that are all older than the window do not count. -/
theorem budget_recovers {configured : String → Int} {since now : ℚ}
    (hsorted : events.Pairwise fun earlier later => earlier.1 ≤ later.1)
    (hquiet : ∀ event ∈ events, event.2 = commandQueueClass command → event.1 ≤ since)
    (hlate : since + budgetWindow < now)
    (hlimit : budgetLimit configured (commandQueueClass command) ≠ 0) :
    budgetAvailable configured (pruneBudget events now) command = true := by
  have hnone : (pruneBudget events now).countP (·.2 = commandQueueClass command) = 0 := by
    rw [List.countP_eq_zero]
    intro event hevent hclass
    have hclass : event.2 = commandQueueClass command := by simpa using hclass
    have hold := hquiet event ((List.dropWhile_sublist _).subset hevent) hclass
    have hrecent := pruneBudget_recent hsorted event hevent
    linarith
  simp only [budgetAvailable, hnone, decide_eq_true_eq]
  omega

/-- A tick that is not blocked takes a publication, or the budget of the front class was used up within the
window. -/
theorem tick_progress {configured : String → Int} {since : ℚ} (hs : Waiting s command since)
    {tick : FastTick} (hblocked : s.blocked configured tick = false) :
    s.resolved.length < (s.step configured tick).resolved.length ∨
      (Waiting (s.step configured tick) command since ∧ s.instant + tick.elapsed ≤ since + budgetWindow) := by
  obtain ⟨haccounted, htimed, hinstant, hevents, hresolved, hqueue, -⟩ :=
    opened_spec hs.accounted hs.timed tick
  have hfront : (s.opened tick).queue.head? = some command := by
    obtain ⟨rest, hrest⟩ := hqueue
    rw [← hrest, List.head?_append, hs.front]
    rfl
  obtain ⟨answers, attempts, hattempts⟩ := List.exists_cons_of_ne_nil tick.attempts_ne
  have hcontinues := step_continues configured hs.accounted hs.timed tick
  have hblocked : (!commandDeadlineExpired command tick.capturedAt &&
      (decide (budgetLimit configured (commandQueueClass command) = 0) ||
        (budgetAvailable configured (s.opened tick).budgetEvents command &&
          !resolves ((s.opened tick).registry.apply answers command).result))) = false := by
    simpa only [blocked, hfront, hattempts, List.head?_cons] using hblocked
  have hstep : s.step configured tick = tick.mailbox.foldl (mailboxAttempt configured)
      (processFast configured tick.capturedAt (s.opened tick) (answers :: attempts)) := by
    rw [step, hattempts]
  -- In a tick that is not blocked the first attempt resolves a command or finds the budget closed.
  cases processFast_attempt haccounted answers
    attempts with
  | empty hempty hfinal => simp [hempty] at hfront
  | taken taken queue outcome registry events htaken hjustified hrecords hfinal =>
    left
    obtain ⟨hsorted, hpast⟩ := timed_records htimed hrecords
    have hrest := @processFast_continues _ configured tick.capturedAt
      (accounted_resolve haccounted htaken hjustified registry events) ⟨hsorted, hpast⟩ attempts
    have hmailbox := mailbox_continues configured hrest.accounted hrest.timed tick.mailbox
    have hlength := (hrest.resolved.trans hmailbox.resolved).length_le
    rw [← hfinal, ← hstep] at hlength
    simp only [resolve, List.length_append, List.length_singleton, hresolved] at hlength
    exact hlength
  | closed closed hclosed hexpired hbudget hfinal =>
    right
    obtain rfl : closed = command := Option.some.inj (hclosed.symm.trans hfront)
    have hlimit : budgetLimit configured (commandQueueClass closed) ≠ 0 := by
      intro hzero
      simp [hexpired, hzero] at hblocked
    rw [hfinal] at hstep
    refine ⟨⟨hcontinues.1, hcontinues.2.1, ?_, ?_⟩, ?_⟩
    · rw [hstep, mailbox_queue]
      exact hfront
    · rw [hstep]
      intro event hevent hclass
      have hmem := mailbox_closed configured hbudget tick.mailbox event hevent hclass
      rw [hevents] at hmem
      exact hs.quiet event ((List.dropWhile_sublist _).subset hmem) hclass
    · by_contra hlate
      have hopen := budget_recovers hs.timed.sorted hs.quiet (not_le.mp hlate) hlimit
      rw [← hevents, hbudget] at hopen
      exact absurd hopen Bool.false_ne_true
  | deferred deferred hdeferred hexpired hbudget hunresolved registry events hrecords hfinal =>
    obtain rfl : deferred = command := Option.some.inj (hdeferred.symm.trans hfront)
    simp [hexpired, hbudget, hunresolved] at hblocked

/-! ## Runs -/

variable (configured : String → Int)

theorem run_continues (hs : Accounted s) (ht : Timed s) (ticks : List FastTick) :
    Accounted (run (step configured) s ticks) ∧ Timed (run (step configured) s ticks) ∧
      s.resolved <+: (run (step configured) s ticks).resolved ∧
      s.accepted <+: (run (step configured) s ticks).accepted := by
  induction ticks generalizing s with
  | nil => exact ⟨hs, ht, List.prefix_rfl, List.prefix_rfl⟩
  | cons tick ticks ih =>
    obtain ⟨haccounted, htimed, -, hresolved, haccepted⟩ := step_continues configured hs ht tick
    obtain ⟨hfinal, hfinalTimed, hrest, hrestAccepted⟩ := ih haccounted htimed
    exact ⟨hfinal, hfinalTimed, hresolved.trans hrest, haccepted.trans hrestAccepted⟩

variable {ticks : List FastTick}

/-- Ticks that outlast the window take a publication, unless one of them is blocked. -/
theorem window_progress {since : ℚ} (hs : Waiting s command since)
    (hrecent : s.instant ≤ since + budgetWindow)
    (hlong : since + budgetWindow < s.instant + ticks.length * leastTickSeconds)
    (hblocked : blockedTicks configured s ticks = 0) :
    s.resolved.length < (run (step configured) s ticks).resolved.length := by
  induction ticks generalizing s with
  | nil =>
    simp only [List.length_nil, Nat.cast_zero, zero_mul, add_zero] at hlong
    exact absurd hlong (not_lt.mpr hrecent)
  | cons tick ticks ih =>
    simp only [blockedTicks, Nat.add_eq_zero_iff, ite_eq_right_iff, one_ne_zero, imp_false,
      Bool.not_eq_true] at hblocked
    obtain ⟨haccounted, htimed, hinstant, hresolved, -⟩ :=
      step_continues configured hs.accounted hs.timed tick
    obtain ⟨-, -, hrest, -⟩ := run_continues configured haccounted htimed ticks
    rcases tick_progress hs hblocked.1 with hprogress | ⟨hwaiting, hwithin⟩
    · exact hprogress.trans_le hrest.length_le
    · refine hresolved.length_le.trans_lt (ih hwaiting (hinstant ▸ hwithin) ?_ hblocked.2)
      have := tick.elapsed_ge
      rw [hinstant]
      push_cast [List.length_cons] at hlong
      linarith

theorem blockedTicks_append (s : FastLane) (first rest : List FastTick) :
    blockedTicks configured s (first ++ rest) =
      blockedTicks configured s first + blockedTicks configured (run (step configured) s first) rest := by
  induction first generalizing s with
  | nil => simp [blockedTicks]
  | cons tick first ih => simp only [List.cons_append, blockedTicks, run_cons, ih]; omega

/-- The number of ticks within which an unblocked lane takes a publication. -/
def windowTicks : Nat := 21

/-- A lane with something queued takes a publication within the window, or is blocked in it. -/
theorem take_or_blocked (hs : Accounted s) (ht : Timed s) (hqueue : s.queue ≠ [])
    (hlength : ticks.length = windowTicks) :
    s.resolved.length < (run (step configured) s ticks).resolved.length ∨
      1 ≤ blockedTicks configured s ticks := by
  obtain ⟨command, queue, hfront⟩ := List.exists_cons_of_ne_nil hqueue
  have hwaiting : Waiting s command s.instant :=
    ⟨hs, ht, by rw [hfront]; rfl, fun event hevent _ => ht.past event hevent⟩
  rcases Nat.eq_zero_or_pos (blockedTicks configured s ticks) with hzero | hpos
  · refine .inl (window_progress configured hwaiting ?_ ?_ hzero)
    · norm_num [budgetWindow]
    · norm_num [budgetWindow, leastTickSeconds, hlength, windowTicks]
  · exact .inr hpos

/-- In every window either the publication has been taken, or one more was taken, or a tick was blocked. -/
theorem windows_progress (hs : Accounted s) (ht : Timed s) {position : Nat}
    (hposition : position < s.accepted.length) (windows : Nat)
    (hlength : ticks.length = windowTicks * windows) :
    position < (run (step configured) s ticks).resolved.length ∨
      s.resolved.length + windows ≤
        (run (step configured) s ticks).resolved.length + blockedTicks configured s ticks := by
  induction windows generalizing s ticks with
  | zero =>
    right
    have := (run_continues configured hs ht ticks).2.2.1.length_le
    omega
  | succ windows ih =>
    obtain ⟨first, rest, rfl, hfirst⟩ : ∃ first rest, ticks = first ++ rest ∧ first.length = windowTicks :=
      ⟨ticks.take windowTicks, ticks.drop windowTicks, (List.take_append_drop ..).symm, by
        rw [List.length_take, hlength]; exact Nat.min_eq_left (Nat.le_mul_of_pos_right _ (Nat.succ_pos _))⟩
    have hrest : rest.length = windowTicks * windows := by
      rw [List.length_append, hfirst, Nat.mul_succ] at hlength
      omega
    obtain ⟨hmid, hmidTimed, hmidResolved, hmidAccepted⟩ := run_continues configured hs ht first
    rw [run_append, blockedTicks_append]
    by_cases htaken : position < s.resolved.length
    · left
      have := (run_continues configured hmid hmidTimed rest).2.2.1.length_le
      exact htaken.trans_le (hmidResolved.length_le.trans this)
    · have hqueue : s.queue ≠ [] := by
        intro hempty
        have hlen := congrArg List.length hs.accepted
        rw [hempty, List.append_nil, List.length_map] at hlen
        omega
      rcases ih hmid hmidTimed (hposition.trans_le hmidAccepted.length_le) hrest with hdone | hcount
      · exact .inl hdone
      · right
        have := hmidResolved.length_le
        rcases take_or_blocked configured hs ht hqueue hfirst with hprogress | hblocked
        · omega
        · omega

theorem timed_start (registry : PublicationRegistry) : Timed (start registry) :=
  ⟨List.Pairwise.nil, fun _ h => absurd h List.not_mem_nil⟩

/-- What a run of ticks owes to the queue it starts with. -/
structure Progress (s : FastLane) (ticks : List FastTick) : Prop where
  /-- A queued publication leaves the queue within a number of windows that is its position plus the blocked
  ticks. It is applied, unless it had expired or names no service. -/
  served : ∀ position command, s.queue[position]? = some command →
    windowTicks * (position + 1 + blockedTicks configured s ticks) ≤ ticks.length →
      ∃ outcome, (run (step configured) s ticks).resolved[s.resolved.length + position]? =
        some (command, outcome) ∧ Justified (command, outcome)
  /-- The queue is full for no longer than the first publication waits. -/
  drains : windowTicks * (1 + blockedTicks configured s ticks) ≤ ticks.length →
    ∃ first rest, ticks = first ++ rest ∧ (run (step configured) s first).queue.length < queueCapacity
  /-- Every accepted publication has left the queue or stands in it. -/
  kept : (run (step configured) s ticks).accepted =
    (run (step configured) s ticks).resolved.map Prod.fst ++ (run (step configured) s ticks).queue

/-- The position of a publication counts from the first one that was ever accepted. -/
theorem taken_of_windows (hs : Accounted s) (ht : Timed s) {position : Nat}
    (hposition : position < s.queue.length)
    (hlong : windowTicks * (position + 1 + blockedTicks configured s ticks) ≤ ticks.length) :
    s.resolved.length + position < (run (step configured) s ticks).resolved.length := by
  obtain ⟨first, rest, rfl, hfirst⟩ : ∃ first rest, ticks = first ++ rest ∧
      first.length = windowTicks * (position + 1 + blockedTicks configured s ticks) :=
    ⟨ticks.take _, ticks.drop _, (List.take_append_drop ..).symm, by
      rw [List.length_take]; exact Nat.min_eq_left hlong⟩
  have haccepted : s.accepted.length = s.resolved.length + s.queue.length := by
    rw [hs.accepted, List.length_append, List.length_map]
  obtain ⟨hmid, hmidTimed, -, -⟩ := run_continues configured hs ht first
  have hrest := (run_continues configured hmid hmidTimed rest).2.2.1.length_le
  rw [blockedTicks_append] at hfirst
  rw [run_append]
  rcases windows_progress configured hs ht (by omega : s.resolved.length + position < s.accepted.length) _
    hfirst with htaken | hcount
  · exact htaken.trans_le hrest
  · omega

theorem not_full_of_taken (hs : Accounted s) (ht : Timed s) {tick : FastTick}
    (htaken : s.resolved.length < (s.step configured tick).resolved.length) :
    (s.step configured tick).queue.length < queueCapacity := by
  obtain ⟨haccounted, htimed, -, -, hresolved, -, -⟩ := opened_spec hs ht tick
  have hfast := @processFast_continues _ configured tick.capturedAt haccounted htimed tick.attempts
  have hmailbox := mailbox_continues configured hfast.accounted hfast.timed tick.mailbox
  have hopened := congrArg List.length haccounted.accepted
  have hstepped := congrArg List.length hmailbox.accounted.accepted
  have hsame : (s.step configured tick).accepted = (s.opened tick).accepted :=
    hmailbox.accepted.trans hfast.accepted
  have hroom := haccounted.length_le
  change (s.step configured tick).accepted.length = _ at hstepped
  rw [hsame, hopened] at hstepped
  simp only [List.length_append, List.length_map, hresolved] at hstepped
  change s.resolved.length + _ = (s.step configured tick).resolved.length +
    (s.step configured tick).queue.length at hstepped
  omega

theorem progress_of_accounted (hs : Accounted s) (ht : Timed s) (ticks : List FastTick) :
    Progress configured s ticks := by
  obtain ⟨hfinal, -, hresolved, haccepted⟩ := run_continues configured hs ht ticks
  refine ⟨fun position command hcommand hlong => ?_, fun hlong => ?_, hfinal.accepted⟩
  · obtain ⟨hposition, -⟩ := List.getElem?_eq_some_iff.mp hcommand
    have htaken := taken_of_windows configured hs ht hposition hlong
    obtain ⟨entry, hentry⟩ : ∃ entry, (run (step configured) s ticks).resolved[s.resolved.length + position]? =
        some entry := ⟨_, List.getElem?_eq_getElem htaken⟩
    have hname : s.accepted[s.resolved.length + position]? = some command := by
      rw [hs.accepted, List.getElem?_append_right (by simp)]
      simpa using hcommand
    have hlater : (run (step configured) s ticks).accepted[s.resolved.length + position]? = some command := by
      obtain ⟨rest, hrest⟩ := haccepted
      obtain ⟨hwithin, -⟩ := List.getElem?_eq_some_iff.mp hname
      rw [← hrest, List.getElem?_append_left hwithin, hname]
    have hfirst : entry.1 = command := by
      rw [hfinal.accepted, List.getElem?_append_left (by simpa using htaken), List.getElem?_map, hentry] at hlater
      exact Option.some.inj hlater
    refine ⟨entry.2, ?_, ?_⟩
    · rw [hentry, ← hfirst]
    · rw [← hfirst]
      exact hfinal.justified entry (List.mem_of_getElem? hentry)
  · by_cases hqueue : s.queue = []
    · exact ⟨[], ticks, rfl, by rw [run_nil, hqueue]; decide⟩
    · have hposition : 0 < s.queue.length := List.length_pos_iff.mpr hqueue
      have htaken := taken_of_windows configured hs ht hposition (by simpa using hlong)
      have hgrows : (run (step configured) s ticks).resolved.length ≠ s.resolved.length := by omega
      obtain ⟨before, tick, after, rfl, hchange⟩ := exists_changing_event
        (fun lane : FastLane => lane.resolved.length) hgrows
      obtain ⟨hbefore, hbeforeTimed, -, -⟩ := run_continues configured hs ht before
      have hgrown := (step_continues configured hbefore hbeforeTimed tick).2.2.2.1.length_le
      refine ⟨before ++ [tick], after, by simp, ?_⟩
      rw [run_append]
      exact not_full_of_taken configured hbefore hbeforeTimed (lt_of_le_of_ne hgrown (Ne.symm hchange))

/-- From every state that a run reaches, the lane makes progress up to its blocked ticks. -/
theorem fast_lane_progress (registry : PublicationRegistry) (before ticks : List FastTick) :
    Progress configured (run (step configured) (start registry) before) ticks :=
  progress_of_accounted configured
    (run_continues configured (accounted_start registry) (timed_start registry) before).1
    (run_continues configured (accounted_start registry) (timed_start registry) before).2.1 ticks

/-! ## A publication that blocks the lane -/

/-- A publication for the EVCS, which is never registered here. -/
def unregisteredPublication : JsonMap :=
  [("fields", .object [("mode", .int 1)]), ("kind", .string "publish_evcs_fields")]

/-- A registry with the grid companion. -/
def gridRegistry : PublicationRegistry :=
  (run PublicationRun.step PublicationRun.gridStart [PublicationRun.registerGrid 10 500]).registry

/-- A tick with room for one attempt. -/
def quietTick (arrivals : List JsonMap) : FastTick where
  arrivals := arrivals
  capturedAt := 1000
  elapsed := 1 / 5
  attempts := [PublicationRun.quietBus]
  mailbox := []
  attempts_ne := List.cons_ne_nil _ _
  elapsed_ge := by norm_num [leastTickSeconds]

/-- The budget of every class. -/
def tenAttempts : String → Int := fun _ => 10

/-- Both publications are queued, the one that cannot be applied first. -/
structure Held (s : FastLane) : Prop where
  queue : s.queue = [unregisteredPublication, (PublicationRun.publishGrid 12 600).2]
  registry : s.registry = gridRegistry
  resolved : s.resolved = []

theorem evcs_unregistered : gridRegistry.services.get? "evcs" = none := by
  have : gridRegistry.services.contains "evcs" = false := by decide +kernel
  simpa [Dict.contains] using this

theorem unregistered_deferred : gridRegistry.apply PublicationRun.quietBus unregisteredPublication =
    ⟨gridRegistry, [], .ok .deferred⟩ := by
  have hkind : unregisteredPublication.text? "kind" = some "publish_evcs_fields" := rfl
  simp only [PublicationRegistry.apply, hkind, Option.getD_some, PublicationRegistry.publish,
    evcs_unregistered]

/-- The attempt on the first publication leaves everything as it was. -/
theorem processFast_held (hs : Held s) :
    Held (processFast tenAttempts 1000 s [PublicationRun.quietBus]) := by
  have hexpired : commandDeadlineExpired unregisteredPublication 1000 = false := by decide +kernel
  simp only [processFast, hs.queue, hexpired, Bool.false_eq_true, if_false]
  split
  · simp only [recordAttempt, hs.registry, unregistered_deferred]
    exact ⟨rfl, rfl, hs.resolved⟩
  · exact ⟨rfl, hs.registry, hs.resolved⟩

theorem step_held (hs : Held s) : Held (s.step tenAttempts (quietTick [])) :=
  processFast_held (s := s.opened (quietTick [])) ⟨hs.queue, hs.registry, hs.resolved⟩

/-- A publication that the registry could apply waits for ever behind one that it defers. -/
theorem blocked_for_ever :
    (gridRegistry.apply PublicationRun.quietBus (PublicationRun.publishGrid 12 600).2).result.toOption =
        some .applied ∧
      ¬∃ ticks, (run (step tenAttempts) (start gridRegistry)
        (quietTick [unregisteredPublication, (PublicationRun.publishGrid 12 600).2] ::
          List.replicate ticks (quietTick []))).resolved ≠ [] := by
  refine ⟨by decide +kernel, ?_⟩
  rintro ⟨ticks, htaken⟩
  let both := quietTick [unregisteredPublication, (PublicationRun.publishGrid 12 600).2]
  have hfirst : Held ((start gridRegistry).step tenAttempts both) :=
    processFast_held (s := (start gridRegistry).opened both) ⟨rfl, rfl, rfl⟩
  refine htaken (run_invariant_of_along ?_ hfirst
    (along_of_forall_mem _ fun tick htick => List.eq_of_mem_replicate htick)).resolved
  rintro s tick hs rfl
  exact step_held hs

end FastLane

end VenusEvcharger.NativeGateway
