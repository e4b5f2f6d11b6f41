import VenusEvcharger.Runtime.CoreCommands

/-!
# Core commands are dispatched once

Every generation of a command file carries a revision of its own, so that a retry record speaks about one generation.
While a file holds a generation that was dispatched or failed, the record of it is kept, and the record counts the
failures of that generation only. `core_commands_exactly_once` is the main result; it needs that a poll does not hide
a command with a record, and that the removal of a file can read it.
-/

namespace VenusEvcharger

open Library

theorem text_of_pyEq {command other : CommandPayload} {key text : String} (h : command.pyEq other = true)
    (htext : command.get? key = some (.str text)) : other.get? key = some (.str text) := by
  rw [CommandPayload.pyEq, Bool.and_eq_true] at h
  obtain ⟨value, hvalue, heq⟩ := lookup_of_pyEqEntries h.2 (Dict.mem_entries_iff.mpr htext)
  change other.get? key = some value at hvalue
  rw [hvalue]
  cases value <;> simp_all [Value.pyEq]

namespace CoreQueueRun

/-- The command was dispatched or failed. -/
def Logged (r : CoreQueueRun) (loaded : LoadedCommand) : Prop := ∃ result, (loaded, result) ∈ r.log

/-- The commands that the pass still holds. -/
def active (r : CoreQueueRun) : List LoadedCommand := r.retiring.toList ++ r.todo

/-- The record of a command says when the command failed last, and how often. -/
structure RecordOf (r : CoreQueueRun) (loaded : LoadedCommand) (retry : CoreCommandRetry) : Prop where
  expected : retry.expected = loaded.command
  count : retry.failureCount = (r.failures loaded retry.reason).length
  last : ∃ last, (r.failures loaded retry.reason).head? = some last ∧
    retry.retryAt = last + coreCommandRetryDelay retry.failureCount
  retireOnly : retry.retireOnly = decide (retry.reason = .retire)
  dispatched : retry.reason = .retire → r.Dispatched loaded
  pending : retry.reason = .dispatch → r.failures loaded .retire = [] ∧
    (r.Dispatched loaded → r.retiring = some loaded)

/-- The generations are told apart by their revisions, and everything a run knows about is a generation. -/
structure Stored (r : CoreQueueRun) : Prop where
  revision : ∀ loaded ∈ r.stored, ∃ revision, revision ≠ "" ∧
    loaded.command.get? mailboxRevisionField = some (.str revision)
  distinct : ∀ loaded ∈ r.stored, ∀ other ∈ r.stored,
    loaded.command.get? mailboxRevisionField = other.command.get? mailboxRevisionField → loaded = other
  current : ∀ path payload, readCommand r.files path = some payload → ⟨path, payload, r.writes path⟩ ∈ r.stored
  active : ∀ loaded ∈ r.active, loaded ∈ r.stored
  logged : ∀ e ∈ r.log, e.1 ∈ r.stored

/-- What the records of a run say, and which of them are there. -/
structure Remembers (r : CoreQueueRun) : Prop where
  apart : (r.active.map (·.path)).Nodup
  retiring : ∀ loaded ∈ r.retiring, r.Dispatched loaded ∧
    ((∃ retry, r.retries.get? loaded.path = some retry ∧ r.RecordOf loaded retry) ∨
      r.retries.get? loaded.path = none ∧ r.failures loaded .retire = [])
  record : ∀ path retry, r.retries.get? path = some retry →
    ∃ loaded ∈ r.stored, loaded.path = path ∧ r.RecordOf loaded retry
  remembered : ∀ loaded, r.Current loaded ∨ loaded ∈ r.todo → r.Logged loaded →
    r.retiring = some loaded ∨ ∃ retry, r.retries.get? loaded.path = some retry ∧ retry.expected = loaded.command
  superseded : ∀ loaded ∈ r.active, ∀ other, r.Current other → other.path = loaded.path → other ≠ loaded →
    ¬ r.Logged other

/-! ## Records -/

section Records

variable {r : CoreQueueRun} {loaded other : LoadedCommand} {retry : CoreCommandRetry} {path : String}

/-- Equal generations are one. -/
theorem Stored.eq_of_samePayload (h : r.Stored) (hloaded : loaded ∈ r.stored) (hother : other ∈ r.stored)
    (hsame : samePayload loaded.command other.command = true) : loaded = other := by
  refine h.distinct loaded hloaded other hother ?_
  rw [samePayload, Bool.or_eq_true, decide_eq_true_eq] at hsame
  rcases hsame with heq | heq
  · rw [heq]
  · obtain ⟨revision, -, hrevision⟩ := h.revision loaded hloaded
    rw [hrevision, text_of_pyEq heq hrevision]

/-- A file holds one generation. -/
theorem Stored.eq_of_current (h : r.Stored) (hloaded : loaded ∈ r.stored) (hcurrent : r.Current loaded) :
    loaded = ⟨loaded.path, loaded.command, r.writes loaded.path⟩ :=
  h.distinct _ hloaded _ (h.current _ _ hcurrent) rfl

theorem samePayload_self (payload : CommandPayload) : samePayload payload payload = true := by
  rw [samePayload, decide_eq_true rfl, Bool.true_or]

/-- The record of a command is a matching one, and it is found. -/
theorem matchingRetry_of_expected {retries : CoreCommandRetries} {payload : CommandPayload}
    (h : retries.get? path = some retry) (hexpected : retry.expected = payload) :
    matchingRetry retries path payload = (some retry, retries) := by
  rw [matchingRetry, h]
  dsimp only
  rw [hexpected, samePayload_self, if_pos rfl]

/-- A record is taken or dropped, and other records are kept. -/
theorem matchingRetry_cases (h : r.Stored) (hrecord : ∀ path retry, r.retries.get? path = some retry →
      ∃ loaded ∈ r.stored, loaded.path = path ∧ r.RecordOf loaded retry) (hloaded : loaded ∈ r.stored) :
    (∃ retry, r.retries.get? loaded.path = some retry ∧ r.RecordOf loaded retry ∧
      matchingRetry r.retries loaded.path loaded.command = (some retry, r.retries)) ∨
    ((matchingRetry r.retries loaded.path loaded.command).1 = none ∧
      (∀ path, (matchingRetry r.retries loaded.path loaded.command).2.get? path =
        if path = loaded.path then none else r.retries.get? path) ∧
      ∀ retry, r.retries.get? loaded.path = some retry → retry.expected ≠ loaded.command) := by
  rw [matchingRetry]
  cases hget : r.retries.get? loaded.path with
  | none =>
    refine .inr ⟨rfl, fun path => ?_, fun _ hnone => nomatch hnone⟩
    dsimp only
    split
    · rename_i hpath
      rw [hpath, hget]
    · rfl
  | some retry =>
    dsimp only
    by_cases hsame : samePayload retry.expected loaded.command = true
    · obtain ⟨other, hother, -, hof⟩ := hrecord _ retry hget
      rw [hof.expected] at hsame
      obtain rfl := h.eq_of_samePayload hother hloaded hsame
      rw [hof.expected, if_pos (samePayload_self _)]
      exact .inl ⟨retry, rfl, hof, rfl⟩
    · rw [if_neg hsame]
      refine .inr ⟨rfl, fun path => Dict.get?_erase _ _ _, fun other hsome hexpected => hsame ?_⟩
      rw [Option.some.inj hsome, hexpected]
      exact samePayload_self _

theorem RecordOf.backsOff_iff (h : r.RecordOf loaded retry) (now : ℚ) :
    BacksOff (r.failures loaded retry.reason) now ↔ now < retry.retryAt := by
  obtain ⟨last, hlast, hat⟩ := h.last
  rw [hat, h.count, BacksOff, hlast]
  constructor
  · rintro ⟨time, htime, hnow⟩
    rwa [Option.some.inj htime]
  · exact fun hnow => ⟨last, rfl, hnow⟩

theorem failures_of_not_logged (h : ¬ r.Logged loaded) (reason : RetryReason) : r.failures loaded reason = [] := by
  rw [failures, List.filterMap_eq_nil_iff]
  rintro ⟨other, result⟩ hmem
  cases result with
  | dispatched => rfl
  | failed why time =>
    refine if_neg fun hboth => h ⟨.failed why time, ?_⟩
    rw [← hboth.1]
    exact hmem

theorem not_backsOff_nil (now : ℚ) : ¬ BacksOff [] now := fun ⟨_, hlast, _⟩ => nomatch hlast

end Records

/-! ## The branches -/

section Action

variable {r : CoreQueueRun} {loaded : LoadedCommand}

/-- A command of the pass without a record was not logged. -/
theorem Remembers.not_logged (h : r.Remembers) (htodo : loaded ∈ r.todo) (hidle : r.retiring = none)
    (hno : ∀ retry, r.retries.get? loaded.path = some retry → retry.expected ≠ loaded.command) :
    ¬ r.Logged loaded := by
  intro hlogged
  rcases h.remembered loaded (.inr htodo) hlogged with hretiring | ⟨retry, hget, hexpected⟩
  · rw [hidle] at hretiring
    nomatch hretiring
  · exact hno retry hget hexpected

theorem mem_active_of_todo (htodo : loaded ∈ r.todo) : loaded ∈ r.active := List.mem_append_right _ htodo

/-- The branch is the one that the log of the command asks for. -/
theorem action_spec (hstored : r.Stored) (h : r.Remembers) (htodo : loaded ∈ r.todo) (hidle : r.retiring = none)
    (now : ℚ) :
    (r.action loaded now = .dispatch ↔ ¬ r.Dispatched loaded ∧ ¬ BacksOff (r.failures loaded .dispatch) now) ∧
      (r.action loaded now = .retire ↔ r.Dispatched loaded ∧ ¬ BacksOff (r.failures loaded .retire) now) := by
  rw [action]
  rcases matchingRetry_cases hstored h.record (hstored.active loaded (mem_active_of_todo htodo)) with
    ⟨retry, -, hof, hmatch⟩ | ⟨hmatch, -, hno⟩
  · have hwaits := hof.backsOff_iff now
    rw [hmatch, coreCommandAction, hof.retireOnly]
    cases hreason : retry.reason with
    | dispatch =>
      have hnot : ¬ r.Dispatched loaded := fun hdispatched => by
        have hretiring := (hof.pending hreason).2 hdispatched
        rw [hidle] at hretiring
        nomatch hretiring
      rw [hreason] at hwaits
      rw [hwaits]
      by_cases hnow : now < retry.retryAt <;> simp [hnow, hnot]
    | retire =>
      have hdispatched := hof.dispatched hreason
      rw [hreason] at hwaits
      rw [hwaits]
      by_cases hnow : now < retry.retryAt <;> simp [hnow, hdispatched]
  · have hnew := h.not_logged htodo hidle hno
    have hnot : ¬ r.Dispatched loaded := fun hdispatched => hnew ⟨_, hdispatched⟩
    rw [hmatch, failures_of_not_logged hnew, failures_of_not_logged hnew, coreCommandAction]
    simp [hnot, not_backsOff_nil]

end Action

/-! ## Steps -/

section Steps

variable {r : CoreQueueRun} {loaded : LoadedCommand}

variable {s : CoreQueueRun}

/-- A step that writes no file keeps the generations. -/
theorem Stored.of_frame (h : r.Stored) (hstored : s.stored = r.stored) (hwrites : s.writes = r.writes)
    (hfiles : ∀ path payload, readCommand s.files path = some payload → readCommand r.files path = some payload)
    (hactive : ∀ held ∈ s.active, held ∈ r.stored) (hlog : ∀ e ∈ s.log, e.1 ∈ r.stored) : s.Stored where
  revision := by rw [hstored]; exact h.revision
  distinct := by rw [hstored]; exact h.distinct
  current := by
    intro path payload hread
    rw [hstored, hwrites]
    exact h.current path payload (hfiles path payload hread)
  active := by rw [hstored]; exact hactive
  logged := by rw [hstored]; exact hlog

/-- A record is not touched by what happens to other commands. -/
theorem RecordOf.of_frame {retry : CoreCommandRetry} (h : r.RecordOf loaded retry)
    (hfailures : ∀ reason, s.failures loaded reason = r.failures loaded reason)
    (hdispatched : r.Dispatched loaded → s.Dispatched loaded)
    (hretiring : retry.reason = .dispatch → s.Dispatched loaded → s.retiring = some loaded) :
    s.RecordOf loaded retry where
  expected := h.expected
  count := by rw [hfailures]; exact h.count
  last := by rw [hfailures]; exact h.last
  retireOnly := h.retireOnly
  dispatched := fun hreason => hdispatched (h.dispatched hreason)
  pending := fun hreason => ⟨by rw [hfailures]; exact (h.pending hreason).1, hretiring hreason⟩

theorem RecordOf.of_same {retry : CoreCommandRetry} (h : r.RecordOf loaded retry)
    (hlog : s.log = r.log) (hretiring : s.retiring = r.retiring) : s.RecordOf loaded retry := by
  refine h.of_frame (fun reason => ?_) (fun hdone => ?_) fun hreason hdone => ?_
  · rw [failures, failures, hlog]
  · rwa [Dispatched, hlog]
  · rw [Dispatched, hlog] at hdone
    rw [hretiring]
    exact (h.pending hreason).2 hdone

/-- The records stay right when files change, unless an older generation comes back, and when the pass ends. -/
theorem Remembers.of_frame (h : r.Remembers) (hretries : s.retries = r.retries)
    (hlog : s.log = r.log) (hretiring : s.retiring = r.retiring) (hstored : ∀ held ∈ r.stored, held ∈ s.stored)
    (htodo : s.todo.Sublist r.todo) (hcurrent : ∀ held, s.Current held → r.Logged held → r.Current held) :
    s.Remembers := by
  have hactive : s.active.Sublist r.active := by
    rw [active, active, hretiring]
    exact htodo.append_left _
  have hlogged : ∀ held, s.Logged held → r.Logged held := fun held hlogged => by rwa [Logged, hlog] at hlogged
  refine ⟨h.apart.sublist (hactive.map _), ?_, ?_, ?_, ?_⟩
  · intro held hheld
    rw [hretiring] at hheld
    obtain ⟨hdone, hrecord⟩ := h.retiring held hheld
    refine ⟨by rwa [Dispatched, hlog], ?_⟩
    rw [hretries]
    rcases hrecord with ⟨retry, hget, hof⟩ | ⟨hnone, hnever⟩
    · exact .inl ⟨retry, hget, hof.of_same hlog hretiring⟩
    · exact .inr ⟨hnone, by rwa [failures, hlog]⟩
  · intro path retry hget
    rw [hretries] at hget
    obtain ⟨owner, howner, hpath, hof⟩ := h.record path retry hget
    exact ⟨owner, hstored owner howner, hpath, hof.of_same hlog hretiring⟩
  · intro held hheld hlog
    rw [hretiring, hretries]
    exact h.remembered held (hheld.imp (fun hread => hcurrent held hread (hlogged held hlog)) fun hmem => htodo.mem hmem)
      (hlogged held hlog)
  · intro held hheld other hread hpath hne hlog
    exact h.superseded held (hactive.mem hheld) other (hcurrent other hread (hlogged other hlog)) hpath hne
      (hlogged other hlog)

/-- The command is in the hands of the executor: the rest of the pass does not hold its path, the record of its path
is its own, and no later generation of the file was processed. -/
structure InHand (r : CoreQueueRun) (loaded : LoadedCommand) : Prop where
  stored : loaded ∈ r.stored
  apart : loaded.path ∉ r.todo.map (·.path)
  idle : ∀ other ∈ r.retiring, other = loaded
  record : (∃ retry, r.retries.get? loaded.path = some retry ∧ r.RecordOf loaded retry) ∨
    r.retries.get? loaded.path = none ∧ r.failures loaded .retire = []
  superseded : ∀ other, r.Current other → other.path = loaded.path → other ≠ loaded → ¬ r.Logged other

/-- The command whose file is to be retired is in hand. -/
theorem inHand_of_retiring (hstored : r.Stored) (h : r.Remembers) (hretiring : r.retiring = some loaded) :
    r.InHand loaded := by
  have hactive : loaded ∈ r.active := by
    rw [active, hretiring]
    exact List.mem_cons_self
  refine ⟨hstored.active _ hactive, ?_, fun other hother => ?_, (h.retiring loaded hretiring).2,
    h.superseded loaded hactive⟩
  · have hapart := h.apart
    rw [active, hretiring] at hapart
    exact (List.nodup_cons.mp hapart).1
  · rw [hretiring] at hother
    exact (Option.some.inj hother).symm

/-- A command that is taken up is in hand, and the rest of the run is as it should be. -/
theorem remembers_takeUp (hstored : r.Stored) (h : r.Remembers) (htodo : loaded ∈ r.todo) (hidle : r.retiring = none) :
    (r.takeUp loaded).Remembers ∧ (r.takeUp loaded).InHand loaded := by
  have hactive := mem_active_of_todo htodo
  have hall : r.active = r.todo := by rw [active, hidle]; rfl
  have hpaths : (r.todo.map (·.path)).Nodup := hall ▸ h.apart
  have hleft : loaded.path ∉ (r.todo.erase loaded).map (·.path) := by
    intro hmem
    obtain ⟨other, hother, hpath⟩ := List.mem_map.mp hmem
    have hsame := List.inj_on_of_nodup_map hpaths (List.mem_of_mem_erase hother) htodo hpath
    rw [hsame] at hother
    exact (List.Nodup.of_map _ hpaths).not_mem_erase hother
  have hmine : ∀ other, r.Current other ∨ other ∈ r.todo.erase loaded → r.Logged other → other.path = loaded.path →
      other = loaded := by
    rintro other (hcurrent | hother) hlogged hpath
    · by_contra hne
      exact h.superseded loaded hactive other hcurrent hpath hne hlogged
    · exact absurd (List.mem_map.mpr ⟨other, hother, hpath⟩) hleft
  -- the records that are left are those of before
  have hkept : ∀ path retry, (r.takeUp loaded).retries.get? path = some retry → r.retries.get? path = some retry := by
    intro path retry hget
    rcases matchingRetry_cases hstored h.record (hstored.active loaded hactive) with ⟨_, -, -, hmatch⟩ | ⟨-, hdrop, -⟩
    · rwa [takeUp, hmatch] at hget
    · rw [takeUp] at hget
      dsimp only at hget
      rw [hdrop] at hget
      split at hget
      · nomatch hget
      · exact hget
  refine ⟨⟨?_, ?_, ?_, ?_, ?_⟩, ⟨hstored.active loaded hactive, hleft, ?_, ?_, h.superseded loaded hactive⟩⟩
  · show ((r.retiring.toList ++ r.todo.erase loaded).map (·.path)).Nodup
    rw [hidle]
    exact hpaths.sublist (List.Sublist.map _ List.erase_sublist)
  · intro other hother
    change other ∈ r.retiring at hother
    rw [hidle] at hother
    nomatch hother
  · intro path retry hget
    obtain ⟨owner, howner, hpath, hof⟩ := h.record path retry (hkept path retry hget)
    exact ⟨owner, howner, hpath, hof.of_same rfl rfl⟩
  · intro other hother hlogged
    have hbefore : r.Current other ∨ other ∈ r.todo := hother.imp_right List.mem_of_mem_erase
    rcases h.remembered other hbefore hlogged with hretiring | ⟨retry, hget, hexpected⟩
    · rw [hidle] at hretiring
      nomatch hretiring
    · refine .inr ⟨retry, ?_, hexpected⟩
      rcases matchingRetry_cases hstored h.record (hstored.active loaded hactive) with
        ⟨_, -, -, hmatch⟩ | ⟨-, hdrop, hno⟩
      · rwa [takeUp, hmatch]
      · have hpath : other.path ≠ loaded.path := fun hpath => by
          obtain rfl := hmine other hother hlogged hpath
          exact hno retry hget hexpected
        rw [takeUp]
        dsimp only
        rw [hdrop, if_neg hpath]
        exact hget
  · intro other hother next hcurrent hpath hne
    have hmem : other ∈ r.active := by
      change other ∈ r.retiring.toList ++ r.todo.erase loaded at hother
      rw [hidle] at hother
      exact mem_active_of_todo (List.mem_of_mem_erase hother)
    exact h.superseded other hmem next hcurrent hpath hne
  · intro other hother
    change other ∈ r.retiring at hother
    rw [hidle] at hother
    nomatch hother
  · rcases matchingRetry_cases hstored h.record (hstored.active loaded hactive) with
      ⟨retry, hget, hof, hmatch⟩ | ⟨-, hdrop, hno⟩
    · exact .inl ⟨retry, by rwa [takeUp, hmatch], hof.of_same rfl rfl⟩
    · refine .inr ⟨?_, failures_of_not_logged (h.not_logged htodo hidle hno) _⟩
      rw [takeUp]
      dsimp only
      rw [hdrop, if_pos rfl]

theorem remembers_retireNext (h : r.Remembers) (hhand : r.InHand loaded) (hidle : r.retiring = none)
    {log : List (LoadedCommand × CommandResult)}
    (hlog : log = r.log ∧ r.Dispatched loaded ∨
      log = (loaded, .dispatched) :: r.log ∧ ∀ retry, r.retries.get? loaded.path = some retry → retry.reason = .dispatch) :
    ({ r with retiring := some loaded, log := log } : CoreQueueRun).Remembers := by
  have hfailures : ∀ other reason, ({ r with retiring := some loaded, log := log } : CoreQueueRun).failures other reason =
      r.failures other reason := by
    intro other reason
    rcases hlog with ⟨rfl, -⟩ | ⟨rfl, -⟩ <;> rfl
  have hdispatched : ∀ other, (other, .dispatched) ∈ log ↔ r.Dispatched other ∨ other = loaded := by
    intro other
    rcases hlog with ⟨rfl, hdone⟩ | ⟨rfl, -⟩
    · refine ⟨.inl, fun hboth => hboth.elim id fun heq => ?_⟩
      rwa [heq]
    · rw [List.mem_cons, Prod.mk.injEq, or_comm]
      exact or_congr_right (and_iff_left rfl)
  have hlogged : ∀ other result, (other, result) ∈ log → r.Logged other ∨ other = loaded := by
    intro other result hmem
    rcases hlog with ⟨rfl, -⟩ | ⟨rfl, -⟩
    · exact .inl ⟨_, hmem⟩
    · rcases List.mem_cons.mp hmem with heq | hmem
      · exact .inr (Prod.mk.inj heq).1
      · exact .inl ⟨_, hmem⟩
  have hactive : r.active = r.todo := by rw [active, hidle]; rfl
  have hframe : ∀ owner retry, r.RecordOf owner retry →
      ({ r with retiring := some loaded, log := log } : CoreQueueRun).RecordOf owner retry := by
    intro owner retry hof
    refine hof.of_frame (hfailures owner) (fun hdone => (hdispatched owner).mpr (.inl hdone)) fun hreason hdone => ?_
    rcases (hdispatched owner).mp hdone with hbefore | rfl
    · have hretiring := (hof.pending hreason).2 hbefore
      rw [hidle] at hretiring
      nomatch hretiring
    · rfl
  -- Of the other commands nothing is known that was not known before.
  refine ⟨?_, ?_, ?_, ?_, ?_⟩
  · show ((loaded :: r.todo).map (·.path)).Nodup
    exact List.nodup_cons.mpr ⟨hhand.apart, hactive ▸ h.apart⟩
  · intro other hother
    obtain rfl : loaded = other := Option.some.inj hother
    refine ⟨(hdispatched _).mpr (.inr rfl), ?_⟩
    rcases hhand.record with ⟨retry, hget, hof⟩ | ⟨hnone, hnever⟩
    · exact .inl ⟨retry, hget, hframe loaded retry hof⟩
    · exact .inr ⟨hnone, (hfailures _ _).trans hnever⟩
  · intro path retry hget
    obtain ⟨owner, howner, hpath, hof⟩ := h.record path retry hget
    exact ⟨owner, howner, hpath, hframe owner retry hof⟩
  · rintro other hother ⟨result, hmem⟩
    rcases hlogged other result hmem with hbefore | rfl
    · rcases h.remembered other hother hbefore with hretiring | hrecord
      · rw [hidle] at hretiring
        nomatch hretiring
      · exact .inr hrecord
    · exact .inl rfl
  · rintro other hother next hcurrent hpath hne ⟨result, hmem⟩
    rcases List.mem_cons.mp hother with rfl | hother
    · rcases hlogged next result hmem with hbefore | heq
      · exact hhand.superseded next hcurrent hpath hne hbefore
      · exact hne heq
    · rcases hlogged next result hmem with hbefore | rfl
      · exact h.superseded other (mem_active_of_todo hother) next hcurrent hpath hne hbefore
      · exact hhand.apart (List.mem_map.mpr ⟨other, hother, hpath.symm⟩)

theorem failures_defer (r : CoreQueueRun) (loaded : LoadedCommand) (reason : RetryReason) (retireOnly : Bool) (now : ℚ) (other : LoadedCommand) (why : RetryReason) :
    (r.defer loaded reason retireOnly now).failures other why =
      if loaded = other ∧ reason = why then now :: r.failures other why else r.failures other why := by
  show List.filterMap _ ((loaded, CommandResult.failed reason now) :: r.log) = _
  rw [List.filterMap_cons]
  by_cases hsame : loaded = other ∧ reason = why
  · rw [if_pos hsame]
    dsimp only
    rw [if_pos hsame]
    rfl
  · rw [if_neg hsame]
    dsimp only
    rw [if_neg hsame]
    rfl

/-- What is deferred for the reason: a dispatch of a command that was not dispatched, or the removal of a file whose
command was. -/
def Deferrable (r : CoreQueueRun) (loaded : LoadedCommand) : RetryReason → Prop
  | .dispatch => ¬ r.Dispatched loaded ∧ (r.retries.get? loaded.path = none → r.failures loaded .dispatch = [])
  | .retire => r.Dispatched loaded

variable {reason : RetryReason}

theorem nextFailureCount_eq (hhand : r.InHand loaded) (hreason : r.Deferrable loaded reason) :
    nextFailureCount (matchingRetry r.retries loaded.path loaded.command).1 reason =
      (r.failures loaded reason).length + 1 := by
  rcases hhand.record with ⟨retry, hget, hof⟩ | ⟨hnone, hretire⟩
  · rw [matchingRetry_of_expected hget hof.expected, nextFailureCount]
    by_cases hsame : retry.reason = reason
    · rw [if_pos hsame, hof.count, hsame]
    · rw [if_neg hsame]
      cases reason with
      | dispatch =>
        cases hwhy : retry.reason with
        | dispatch => exact absurd hwhy hsame
        | retire => exact absurd (hof.dispatched hwhy) hreason.1
      | retire =>
        cases hwhy : retry.reason with
        | dispatch => rw [(hof.pending hwhy).1]; rfl
        | retire => exact absurd hwhy hsame
  · rw [matchingRetry, hnone]
    cases reason with
    | dispatch => rw [hreason.2 hnone]; rfl
    | retire => rw [hretire]; rfl

/-- The records after a failure: the command in hand has a new one. -/
theorem retries_defer (hhand : r.InHand loaded) (hreason : r.Deferrable loaded reason)
    (retireOnly : Bool) (now : ℚ) (path : String) :
    (r.defer loaded reason retireOnly now).retries.get? path =
      if path = loaded.path then
        some ⟨loaded.command, (r.failures loaded reason).length + 1,
          now + coreCommandRetryDelay ((r.failures loaded reason).length + 1), retireOnly, reason⟩
      else r.retries.get? path := by
  show (deferCoreCommand r.retries loaded.path loaded.command reason retireOnly now).get? path = _
  rw [deferCoreCommand]
  dsimp only
  rw [Dict.get?_set, nextFailureCount_eq hhand hreason]
  by_cases hpath : path = loaded.path
  · rw [if_pos hpath, if_pos hpath]
  · rw [if_neg hpath, if_neg hpath]
    rcases hhand.record with ⟨retry, hget, hof⟩ | ⟨hnone, -⟩
    · rw [matchingRetry_of_expected hget hof.expected]
    · rw [matchingRetry, hnone]

theorem remembers_defer (h : r.Remembers) (hhand : r.InHand loaded)
    (hreason : r.Deferrable loaded reason) (now : ℚ) :
    ({ r.defer loaded reason (decide (reason = .retire)) now with retiring := none } : CoreQueueRun).Remembers := by
  have hfailures := failures_defer r loaded reason (decide (reason = .retire)) now
  have hretries := retries_defer hhand hreason (decide (reason = .retire)) now
  have hdispatched : ∀ other, (r.defer loaded reason (decide (reason = .retire)) now).Dispatched other ↔
      r.Dispatched other := by
    intro other
    show (other, CommandResult.dispatched) ∈ (loaded, CommandResult.failed reason now) :: r.log ↔ _
    rw [List.mem_cons]
    exact or_iff_right fun heq => nomatch (Prod.mk.inj heq).2
  have hlogged : ∀ other, (r.defer loaded reason (decide (reason = .retire)) now).Logged other →
      r.Logged other ∨ other = loaded := by
    rintro other ⟨result, hmem⟩
    rcases List.mem_cons.mp hmem with heq | hmem
    · exact .inr (Prod.mk.inj heq).1
    · exact .inl ⟨result, hmem⟩
  have htodo : ∀ other, other ∈ r.todo → other.path ≠ loaded.path := fun other hother hpath =>
    hhand.apart (List.mem_map.mpr ⟨other, hother, hpath⟩)
  have hidle : ∀ other, r.retiring = some other → other = loaded := fun other hother => hhand.idle other hother
  -- The record of the command is written anew; those of the other commands stay as they were.
  refine ⟨?_, fun _ hnone => (nomatch hnone), ?_, ?_, ?_⟩
  · exact h.apart.sublist (List.Sublist.map _ (List.sublist_append_right _ _))
  · intro path retry hget
    change (r.defer loaded reason (decide (reason = .retire)) now).retries.get? path = some retry at hget
    rw [hretries] at hget
    split at hget
    · rename_i hpath
      obtain rfl := Option.some.inj hget
      have hnew : (r.defer loaded reason (decide (reason = .retire)) now).failures loaded reason =
          now :: r.failures loaded reason := by rw [hfailures, if_pos ⟨rfl, rfl⟩]
      refine ⟨loaded, hhand.stored, hpath.symm, rfl, ?_, ⟨now, ?_, rfl⟩, rfl, ?_, ?_⟩
      · exact (congrArg List.length hnew).symm
      · exact congrArg List.head? hnew
      · intro hwhy
        obtain rfl : reason = .retire := hwhy
        exact (hdispatched _).mpr hreason
      · intro hwhy
        obtain rfl : reason = .dispatch := hwhy
        refine ⟨?_, fun hdone => absurd ((hdispatched _).mp hdone) hreason.1⟩
        refine (hfailures loaded .retire).trans ?_
        rw [if_neg fun hboth => nomatch hboth.2]
        rcases hhand.record with ⟨retry, -, hof⟩ | ⟨-, hnever⟩
        · cases hwhy : retry.reason with
          | dispatch => exact (hof.pending hwhy).1
          | retire => exact absurd (hof.dispatched hwhy) hreason.1
        · exact hnever
    · rename_i hpath
      obtain ⟨owner, howner, hof_path, hof⟩ := h.record path retry hget
      have hne : loaded ≠ owner := fun heq => hpath (by rw [heq, hof_path])
      refine ⟨owner, howner, hof_path, hof.of_frame (fun why => ?_) (hdispatched owner).mpr fun hwhy hdone => ?_⟩
      · exact (hfailures owner why).trans (if_neg fun hboth => hne hboth.1)
      · exact absurd (hidle owner ((hof.pending hwhy).2 ((hdispatched owner).mp hdone))).symm hne
  · intro other hother hlog
    right
    show ∃ retry, (r.defer loaded reason (decide (reason = .retire)) now).retries.get? other.path = some retry ∧ _
    rw [hretries]
    by_cases hpath : other.path = loaded.path
    · rw [if_pos hpath]
      refine ⟨_, rfl, ?_⟩
      have hsame : other = loaded := by
        by_contra hne
        rcases hother with hcurrent | hother
        · exact hhand.superseded other hcurrent hpath hne ((hlogged other hlog).resolve_right hne)
        · exact htodo other hother hpath
      rw [hsame]
    · rw [if_neg hpath]
      have hne : other ≠ loaded := fun heq => hpath (by rw [heq])
      rcases h.remembered other hother ((hlogged other hlog).resolve_right hne) with hretiring | hrecord
      · exact absurd (hidle other hretiring) hne
      · exact hrecord
  · intro other hother next hcurrent hpath hne hlog
    rcases hlogged next hlog with hbefore | rfl
    · exact h.superseded other (mem_active_of_todo hother) next hcurrent hpath hne hbefore
    · exact htodo other hother hpath.symm

/-- The record of a retired file is dropped. -/
theorem remembers_retired (h : r.Remembers) (hhand : r.InHand loaded) {files : MailboxFiles}
    (hfiles : ∀ path payload, readCommand files path = some payload → readCommand r.files path = some payload)
    (hgone : readCommand files loaded.path ≠ some loaded.command) :
    ({ r with files := files, retries := r.retries.erase loaded.path, retiring := none } : CoreQueueRun).Remembers := by
  have htodo : ∀ other, other ∈ r.todo → other.path ≠ loaded.path := fun other hother hpath =>
    hhand.apart (List.mem_map.mpr ⟨other, hother, hpath⟩)
  refine ⟨?_, fun _ hnone => (nomatch hnone), ?_, ?_, ?_⟩
  · exact h.apart.sublist (List.Sublist.map _ (List.sublist_append_right _ _))
  · intro path retry hget
    change (r.retries.erase loaded.path).get? path = some retry at hget
    rw [Dict.get?_erase] at hget
    split at hget
    · nomatch hget
    · rename_i hpath
      obtain ⟨owner, howner, hof_path, hof⟩ := h.record path retry hget
      refine ⟨owner, howner, hof_path, hof.of_frame (fun _ => rfl) id fun hreason hdone => ?_⟩
      have hsame := hhand.idle owner ((hof.pending hreason).2 hdone)
      exact absurd (by rw [← hof_path, hsame]) hpath
  · intro other hother hlog
    have hne : other ≠ loaded := by
      rintro rfl
      exact hother.elim hgone fun hmem => htodo _ hmem rfl
    have hbefore : r.Current other ∨ other ∈ r.todo := hother.imp_left (hfiles _ _)
    have hpath : other.path ≠ loaded.path := fun hpath => by
      rcases hbefore with hcurrent | hmem
      · exact hhand.superseded other hcurrent hpath hne hlog
      · exact htodo other hmem hpath
    rcases h.remembered other hbefore hlog with hretiring | ⟨retry, hget, hexpected⟩
    · exact absurd (hhand.idle other hretiring) hne
    · refine .inr ⟨retry, ?_, hexpected⟩
      show (r.retries.erase loaded.path).get? other.path = some retry
      rw [Dict.get?_erase, if_neg hpath]
      exact hget
  · intro other hother next hcurrent hpath hne
    exact h.superseded other (mem_active_of_todo hother) next (hfiles _ _ hcurrent) hpath hne

section

variable [PyLib]

/-- `enqueue` changes nothing, or writes a new generation. -/
theorem enqueue_cases (r : CoreQueueRun) (call : EnqueueCall) :
    r.enqueue call = r ∨
    ∃ path payload, payload.get? mailboxRevisionField = some (.str call.revision) ∧
      r.enqueue call = { r with
        files := r.files.set path (.command payload)
        writes := fun other => if other = path then r.writes path + 1 else r.writes other
        stored := ⟨path, payload, r.writes path + 1⟩ :: r.stored } := by
  rw [enqueue]
  rcases enqueueCommand_cases coreCommandQueuePolicy r.files call with
    ⟨hwrites, hfiles⟩ | ⟨hwrites, payload, hrevision, -, hfiles⟩
  · refine .inl ?_
    rw [hwrites, hfiles]
    rfl
  · refine .inr ⟨enqueuePath coreCommandQueuePolicy call, payload, hrevision, ?_⟩
    have hread : readCommand (r.files.set (enqueuePath coreCommandQueuePolicy call) (.command payload))
        (enqueuePath coreCommandQueuePolicy call) = some payload :=
      readCommand_eq_some.mpr (Dict.get?_set_self _ _ _)
    rw [if_pos hwrites, hfiles, hread]
    rfl

end

/-- What a file holds after it was written. -/
theorem readCommand_set (files : MailboxFiles) (path other : String) (payload : CommandPayload) :
    readCommand (files.set path (.command payload)) other =
      if other = path then some payload else readCommand files other := by
  rw [readCommand, readCommand, Dict.get?_set]
  split_ifs <;> rfl

/-- What a file holds after one was removed. -/
theorem readCommand_erase {files : MailboxFiles} {path other : String} {payload : CommandPayload}
    (h : readCommand (files.erase path) other = some payload) : other ≠ path ∧ readCommand files other = some payload := by
  rw [readCommand_eq_some, Dict.get?_erase] at h
  split_ifs at h with hpath
  exact ⟨hpath, readCommand_eq_some.mpr h⟩

/-- A new generation is told apart, and was not processed. -/
theorem inv_write (hstored : r.Stored) (h : r.Remembers) {path revision : String} {payload : CommandPayload}
    (hrevision : payload.get? mailboxRevisionField = some (.str revision)) (hne : revision ≠ "")
    (hfresh : ∀ held ∈ r.stored, held.command.get? mailboxRevisionField ≠ some (.str revision))
    (hs : s = { r with
      files := r.files.set path (.command payload)
      writes := fun other => if other = path then r.writes path + 1 else r.writes other
      stored := ⟨path, payload, r.writes path + 1⟩ :: r.stored }) : s.Stored ∧ s.Remembers := by
  subst hs
  -- a generation that the run knows is not the new one
  have hknown : ∀ other, r.Logged other → ∀ held, other.command = payload → held ≠ other := by
    rintro other ⟨result, hmem⟩ held hcommand -
    exact hfresh other (hstored.logged _ hmem) (by rw [hcommand, hrevision])
  have hcurrent : ∀ other : LoadedCommand,
      readCommand (r.files.set path (.command payload)) other.path = some other.command →
      r.Logged other → r.Current other := by
    intro other hread hlog
    rw [readCommand_set] at hread
    split at hread
    · exact absurd rfl (hknown other hlog other (Option.some.inj hread).symm)
    · exact hread
  refine ⟨⟨?_, ?_, ?_, ?_, ?_⟩, h.of_frame rfl rfl rfl (fun _ => List.mem_cons_of_mem _) (List.Sublist.refl _) hcurrent⟩
  · intro held hheld
    rcases List.mem_cons.mp hheld with rfl | hheld
    · exact ⟨revision, hne, hrevision⟩
    · exact hstored.revision held hheld
  · intro held hheld other hother hsame
    rcases List.mem_cons.mp hheld with rfl | hheld <;> rcases List.mem_cons.mp hother with rfl | hother
    · rfl
    · exact absurd (hsame.symm.trans hrevision) (hfresh other hother)
    · exact absurd (hsame.trans hrevision) (hfresh held hheld)
    · exact hstored.distinct held hheld other hother hsame
  · intro other content hread
    change readCommand (r.files.set path (.command payload)) other = some content at hread
    rw [readCommand_set] at hread
    by_cases hpath : other = path
    · rw [if_pos hpath] at hread
      dsimp only
      rw [if_pos hpath, hpath, ← Option.some.inj hread]
      exact List.mem_cons_self
    · rw [if_neg hpath] at hread
      dsimp only
      rw [if_neg hpath]
      exact List.mem_cons_of_mem _ (hstored.current other content hread)
  · exact fun held hheld => List.mem_cons_of_mem _ (hstored.active held hheld)
  · exact fun e he => List.mem_cons_of_mem _ (hstored.logged e he)

/-- A listed command is the one that its file holds. -/
theorem mem_pending {hidden : List String} :
    loaded ∈ r.pending hidden ↔ loaded.path ∉ hidden ∧ r.Current loaded ∧ loaded.generation = r.writes loaded.path := by
  rw [pending, List.mem_map]
  constructor
  · rintro ⟨⟨path, payload⟩, hmem, rfl⟩
    obtain ⟨hvisible, held, hfile, rfl⟩ := mem_loadPending.mp hmem
    exact ⟨hvisible, readCommand_eq_some.mpr hfile, rfl⟩
  · rintro ⟨hvisible, hcurrent, hgeneration⟩
    refine ⟨(loaded.path, loaded.command), mem_loadPending.mpr ⟨hvisible, _, readCommand_eq_some.mp hcurrent, rfl⟩, ?_⟩
    rw [← hgeneration]

section

variable [PyLib]

/-- A poll that hides no recorded command keeps its record. -/
theorem remembers_poll (hstored : r.Stored) (h : r.Remembers) {hidden : List String}
    (hidle : r.retiring = none)
    (hsees : ∀ path ∈ hidden, ∀ retry ∈ r.retries.get? path, readCommand r.files path ≠ some retry.expected) :
    ({ r with retries := forgetAbsentCoreRetries r.retries (r.pending hidden), todo := coalesce (r.pending hidden) } :
      CoreQueueRun).Remembers := by
  have hlisted : ∀ held ∈ coalesce (r.pending hidden), r.Current held ∧ held ∈ r.stored := by
    intro held hheld
    obtain ⟨-, hcurrent, hgeneration⟩ := mem_pending.mp (coalesce_subset _ hheld)
    refine ⟨hcurrent, ?_⟩
    have hmem := hstored.current _ _ hcurrent
    rwa [← hgeneration] at hmem
  have hpaths : ((r.pending hidden).map (·.path)).Nodup := by
    rw [pending, List.map_map]
    exact nodup_paths_loadPending coreCommandQueuePolicy r.files hidden
  -- A poll forgets the records of the files that it does not see, and adds none.
  have hkept : ∀ path retry,
      (forgetAbsentCoreRetries r.retries (r.pending hidden)).get? path = some retry → r.retries.get? path = some retry := by
    intro path retry hget
    rw [forgetAbsentCoreRetries] at hget
    split at hget
    · nomatch hget
    · rw [Dict.get?_filter] at hget
      exact (Option.filter_eq_some_iff.mp hget).1
  refine ⟨?_, ?_, ?_, ?_, ?_⟩
  · show ((r.retiring.toList ++ coalesce (r.pending hidden)).map (·.path)).Nodup
    rw [hidle]
    exact nodup_paths_coalesce hpaths
  · intro held hheld
    change held ∈ r.retiring at hheld
    rw [hidle] at hheld
    nomatch hheld
  · intro path retry hget
    obtain ⟨owner, howner, hpath, hof⟩ := h.record path retry (hkept path retry hget)
    exact ⟨owner, howner, hpath, hof.of_same rfl rfl⟩
  · intro held hheld hlog
    have hcurrent : r.Current held := hheld.elim id fun hmem => (hlisted held hmem).1
    rcases h.remembered held (.inl hcurrent) hlog with hretiring | ⟨retry, hget, hexpected⟩
    · rw [hidle] at hretiring
      nomatch hretiring
    · refine .inr ⟨retry, ?_, hexpected⟩
      have hvisible : held.path ∉ hidden := fun hmem => hsees _ hmem retry hget (by rw [hexpected]; exact hcurrent)
      have hmem : (⟨held.path, held.command, r.writes held.path⟩ : LoadedCommand) ∈ r.pending hidden :=
        mem_pending.mpr ⟨hvisible, hcurrent, rfl⟩
      have hpath : held.path ∈ (r.pending hidden).map (·.path) := List.mem_map.mpr ⟨_, hmem, rfl⟩
      show (forgetAbsentCoreRetries r.retries (r.pending hidden)).get? held.path = some retry
      rw [forgetAbsentCoreRetries, if_neg (List.ne_nil_of_mem hmem), Dict.get?_filter, hget]
      exact Option.filter_eq_some_iff.mpr ⟨rfl, decide_eq_true hpath⟩
  · intro held hheld other hcurrent hpath hne
    change held ∈ r.retiring.toList ++ coalesce (r.pending hidden) at hheld
    rw [hidle] at hheld
    rintro ⟨result, hlog⟩
    obtain ⟨hread, hknown⟩ := hlisted held hheld
    refine hne ?_
    have hfound : other ∈ r.stored := hstored.logged _ hlog
    change readCommand r.files other.path = some other.command at hcurrent
    rw [hstored.eq_of_current hknown hread, hstored.eq_of_current hfound hcurrent, hpath]
    rw [hpath] at hcurrent
    rw [Option.some.inj (hcurrent.symm.trans hread)]

omit [PyLib] in
/-- Processing a command of the pass. -/
theorem inv_process (hstored : r.Stored) (h : r.Remembers) (htodo : loaded ∈ r.todo) (hidle : r.retiring = none)
    (now : ℚ) (outcome : HandleOutcome) (failedAt : ℚ) :
    ((r.takeUp loaded).processCoreCommand loaded outcome failedAt (r.action loaded now)).Stored ∧
      ((r.takeUp loaded).processCoreCommand loaded outcome failedAt (r.action loaded now)).Remembers := by
  obtain ⟨htaken, hhand⟩ := remembers_takeUp hstored h htodo hidle
  obtain ⟨hdispatch, hretire⟩ := action_spec hstored h htodo hidle now
  have hknown := hstored.active loaded (mem_active_of_todo htodo)
  have hrest : ∀ held ∈ r.todo.erase loaded, held ∈ r.stored := fun held hheld =>
    hstored.active held (mem_active_of_todo (List.mem_of_mem_erase hheld))
  have hrests : ∀ held ∈ loaded :: r.todo.erase loaded, held ∈ r.stored := fun held hheld =>
    (List.mem_cons.mp hheld).elim (fun heq => heq ▸ hknown) (hrest held)
  have hlogged : ∀ result, ∀ e ∈ (loaded, result) :: r.log, e.1 ∈ r.stored := fun result e he =>
    (List.mem_cons.mp he).elim (fun heq => by rw [heq]; exact hknown) (hstored.logged e)
  have hactive : (r.takeUp loaded).active = r.todo.erase loaded := by
    show r.retiring.toList ++ _ = _
    rw [hidle]
    rfl
  cases hact : r.action loaded now with
  | wait =>
    refine ⟨hstored.of_frame rfl rfl (fun _ _ => id) ?_ hstored.logged, htaken⟩
    rwa [processCoreCommand, hactive]
  | retire =>
    exact ⟨hstored.of_frame rfl rfl (fun _ _ => id) hrests hstored.logged,
      remembers_retireNext htaken hhand hidle (.inl ⟨rfl, (hretire.mp hact).1⟩)⟩
  | dispatch =>
    have hnot := (hdispatch.mp hact).1
    -- the record of a command that was not dispatched is one of dispatching
    have hreason : ∀ retry, (r.takeUp loaded).retries.get? loaded.path = some retry → retry.reason = .dispatch := by
      intro retry hget
      rcases hhand.record with ⟨other, hother, hof⟩ | ⟨hnone, -⟩
      · rw [hother] at hget
        obtain rfl := Option.some.inj hget
        cases hwhy : other.reason with
        | dispatch => rfl
        | retire => exact absurd (hof.dispatched hwhy) hnot
      · rw [hnone] at hget
        nomatch hget
    cases outcome with
    | returned =>
      exact ⟨hstored.of_frame rfl rfl (fun _ _ => id) hrests (hlogged _),
        remembers_retireNext htaken hhand hidle (.inr ⟨rfl, hreason⟩)⟩
    | caught =>
      have hdefer : (r.takeUp loaded).Deferrable loaded .dispatch := by
        refine ⟨hnot, fun hnone => failures_of_not_logged (fun hlog => ?_) _⟩
        rcases h.remembered loaded (.inr htodo) hlog with hretiring | ⟨retry, hget, hexpected⟩
        · rw [hidle] at hretiring
          nomatch hretiring
        · rw [takeUp, matchingRetry_of_expected hget hexpected] at hnone
          change r.retries.get? loaded.path = none at hnone
          rw [hget] at hnone
          nomatch hnone
      have hend : ({ (r.takeUp loaded).defer loaded .dispatch false failedAt with retiring := none } : CoreQueueRun) =
          (r.takeUp loaded).defer loaded .dispatch false failedAt := by
        rw [← hidle]
        rfl
      refine ⟨hstored.of_frame rfl rfl (fun _ _ => id) ?_ (hlogged _), ?_⟩
      · show ∀ held ∈ (r.takeUp loaded).active, held ∈ r.stored
        rwa [hactive]
      · have hkeeps := remembers_defer htaken hhand hdefer failedAt
        rwa [show decide (RetryReason.dispatch = .retire) = false from rfl, hend] at hkeeps
    | uncaught =>
      refine ⟨hstored.of_frame rfl rfl (fun _ _ => id) (fun held hheld => ?_) hstored.logged,
        htaken.of_frame rfl rfl rfl (fun _ => id) (List.nil_sublist _) fun _ hread _ => hread⟩
      change held ∈ r.retiring.toList ++ [] at hheld
      rw [hidle] at hheld
      nomatch hheld

omit [PyLib] in
theorem inv_retire (hstored : r.Stored) (h : r.Remembers) (hretiring : r.retiring = some loaded) {io : RetireIo}
    (failedAt : ℚ) (hsees : r.SeesFiles (.retire io failedAt)) :
    (r.retireCoreCommand loaded failedAt io).Stored ∧ (r.retireCoreCommand loaded failedAt io).Remembers := by
  have hhand := inHand_of_retiring hstored h hretiring
  have hrest : ∀ held ∈ r.todo, held ∈ r.stored := fun held hheld => hstored.active held (mem_active_of_todo hheld)
  cases io with
  | works =>
    have hsame : r.Current loaded → sameMailboxRevision loaded.command loaded.command = true := by
      intro _
      obtain ⟨revision, hne, hrevision⟩ := hstored.revision loaded hhand.stored
      exact (sameMailboxRevision_of_revision hrevision hne).mpr hrevision
    rcases removeIfCurrent_cases r.files loaded.path loaded.command with hleft | ⟨current, -, -, hremoved⟩
    · have hgone : ¬ r.Current loaded := by
        intro hcurrent
        rw [removeIfCurrent, hcurrent] at hleft
        dsimp only at hleft
        rw [hsame hcurrent] at hleft
        cases (Prod.mk.inj hleft).1
      rw [retireCoreCommand, hleft]
      exact ⟨hstored.of_frame rfl rfl (fun _ _ => id) hrest hstored.logged,
        remembers_retired h hhand (fun _ _ => id) hgone⟩
    · have hfiles : ∀ path payload, readCommand (r.files.erase loaded.path) path = some payload →
          readCommand r.files path = some payload := fun _ _ hread => (readCommand_erase hread).2
      rw [retireCoreCommand, hremoved]
      exact ⟨hstored.of_frame rfl rfl hfiles hrest hstored.logged,
        remembers_retired h hhand hfiles fun hread => (readCommand_erase hread).1 rfl⟩
  | unreadable =>
    exact ⟨hstored.of_frame rfl rfl (fun _ _ => id) hrest hstored.logged,
      remembers_retired h hhand (fun _ _ => id) (hsees loaded hretiring)⟩
  | raises =>
    have hdone : r.Deferrable loaded .retire := (h.retiring loaded hretiring).1
    refine ⟨hstored.of_frame rfl rfl (fun _ _ => id) hrest fun e he => ?_, remembers_defer h hhand hdone failedAt⟩
    rcases List.mem_cons.mp he with rfl | he
    · exact hhand.stored
    · exact hstored.logged e he

theorem inv_step (event : CoreQueueEvent) (h : r.Stored ∧ r.Remembers) (hok : r.FreshRevision event ∧ r.SeesFiles event) :
    (r.step event).Stored ∧ (r.step event).Remembers := by
  obtain ⟨hstored, hremembers⟩ := h
  cases event with
  | enqueue call =>
    rcases enqueue_cases r call with hsame | ⟨path, payload, hrevision, hwritten⟩
    · rw [step, hsame]
      exact ⟨hstored, hremembers⟩
    · exact inv_write hstored hremembers hrevision hok.1.1 hok.1.2 hwritten
  | remove path =>
    have hfiles : ∀ other payload, readCommand (r.files.erase path) other = some payload →
        readCommand r.files other = some payload := fun _ _ hread => (readCommand_erase hread).2
    exact ⟨hstored.of_frame rfl rfl hfiles hstored.active hstored.logged,
      hremembers.of_frame rfl rfl rfl (fun _ => id) (List.Sublist.refl _) fun _ hread _ => hfiles _ _ hread⟩
  | pollFailed => exact ⟨hstored, hremembers⟩
  | poll hidden =>
    rw [step]
    split
    · rename_i hpass
      refine ⟨hstored.of_frame rfl rfl (fun _ _ => id) ?_ hstored.logged,
        remembers_poll hstored hremembers hpass.2 (hok.2 hpass.1 hpass.2)⟩
      intro held hheld
      change held ∈ r.retiring.toList ++ coalesce (r.pending hidden) at hheld
      rw [hpass.2] at hheld
      obtain ⟨-, hcurrent, hgeneration⟩ := mem_pending.mp (coalesce_subset _ hheld)
      have hmem := hstored.current _ _ hcurrent
      rwa [← hgeneration] at hmem
    · exact ⟨hstored, hremembers⟩
  | process loaded now outcome failedAt =>
    rw [step]
    split
    · rename_i hpass
      exact inv_process hstored hremembers hpass.1 hpass.2 now outcome failedAt
    · exact ⟨hstored, hremembers⟩
  | retire io failedAt =>
    rw [step]
    split
    · exact ⟨hstored, hremembers⟩
    · rename_i hretiring
      exact inv_retire hstored hremembers hretiring failedAt hok.2

theorem exactlyOnce_step (event : CoreQueueEvent) (h : r.Stored ∧ r.Remembers) : r.ExactlyOnce event := by
  obtain ⟨hstored, hremembers⟩ := h
  cases event with
  | process loaded now outcome failedAt =>
    exact fun htodo hidle => action_spec hstored hremembers htodo hidle now
  | retire io failedAt =>
    intro loaded hretiring
    have hhand := inHand_of_retiring hstored hremembers hretiring
    refine ⟨(hremembers.retiring loaded hretiring).1, fun path hchanged => ?_⟩
    have hstep : r.step (.retire io failedAt) = r.retireCoreCommand loaded failedAt io := by
      rw [step, hretiring]
    rw [hstep] at hchanged
    cases io with
    | unreadable => exact absurd rfl hchanged
    | raises => exact absurd rfl hchanged
    | works =>
      rw [retireCoreCommand] at hchanged
      rcases removeIfCurrent_cases r.files loaded.path loaded.command with
        hleft | ⟨current, hfile, hsame, hremoved⟩
      · rw [hleft] at hchanged
        exact absurd rfl hchanged
      · rw [hremoved] at hchanged
        have hpath : path = loaded.path := by
          by_contra hne
          exact hchanged (by rw [Dict.get?_erase, if_neg hne])
        obtain ⟨revision, hne, hrevision⟩ := hstored.revision loaded hhand.stored
        have hfound := hstored.current _ _ (readCommand_eq_some.mpr hfile)
        have hheld := (sameMailboxRevision_of_revision hrevision hne).mp hsame
        have heq := hstored.distinct _ hfound _ hhand.stored (hheld.trans hrevision.symm)
        refine ⟨hpath, ?_, ?_⟩
        · rw [Current, readCommand_eq_some.mpr hfile, ← heq]
        · rw [hpath, ← heq]
  | poll hidden =>
    intro htodo hidle loaded hlisted halone
    rw [step, if_pos ⟨htodo, hidle⟩]
    exact mem_coalesce hlisted halone
  | enqueue call => trivial
  | remove path => trivial
  | pollFailed => trivial

/-- In every run whose polls hide no command with a retry record, and whose removals can read the file while it holds
the command, a generation is dispatched until that succeeds, and then only retired. -/
theorem core_commands_exactly_once (events : List CoreQueueEvent) (hfresh : Along step FreshRevision start events)
    (hsees : Along step SeesFiles start events) : Along step ExactlyOnce start events := by
  have hstart : start.Stored ∧ start.Remembers := by
    refine ⟨⟨?_, ?_, ?_, ?_, ?_⟩, ⟨List.nodup_nil, ?_, ?_, ?_, ?_⟩⟩
    · exact fun _ hheld => nomatch hheld
    · exact fun _ hheld => nomatch hheld
    · exact fun _ _ hread => nomatch hread
    · exact fun _ hheld => nomatch hheld
    · exact fun _ he => nomatch he
    · exact fun _ hheld => nomatch hheld
    · exact fun _ _ hget => nomatch hget
    · rintro held - ⟨result, hmem⟩
      nomatch hmem
    · exact fun _ hheld => nomatch hheld
  exact along_of_invariant (fun _ event h hok => inv_step event h hok) (fun _ event h _ => exactlyOnce_step event h)
    hstart (hfresh.and hsees)

end

end Steps

section

local instance coreSampleLib : PyLib := PyLib.sample

/-- A command without a coalesce key. -/
def stopCall : EnqueueCall where
  command := Dict.empty.set "kind" (.str "user_command")
  createdNow := 100
  updatedNow := 100
  revision := "a1"
  uniqueId := "cmd-1"

/-- The command as it is loaded. -/
def stopLoaded : LoadedCommand := ((start.enqueue stopCall).pending []).headD ⟨"", .empty, 0⟩

/-- The command is written, loaded, dispatched, and its file removed as the file system allows. -/
def stopEvents (io : RetireIo) : List CoreQueueEvent :=
  [.enqueue stopCall, .poll [], .process stopLoaded 5 .returned 5, .retire io 5, .poll []]

/-- The removal fails with an exception. -/
theorem core_commands_exactly_once_deferred : Along step ExactlyOnce start (stopEvents .raises) := by
  refine core_commands_exactly_once (stopEvents .raises) ⟨⟨by decide, fun _ hheld => nomatch hheld⟩, ?_⟩ ?_
  · exact ⟨trivial, trivial, trivial, trivial, trivial⟩
  · exact ⟨trivial, fun _ _ _ hmem => (nomatch hmem), trivial, trivial, fun _ _ _ hmem => (nomatch hmem), trivial⟩

/-- The removal cannot read the file: the command that was dispatched is dispatched again. -/
theorem core_command_dispatched_twice :
    ¬ Along step ExactlyOnce start (stopEvents .unreadable ++ [.process stopLoaded 6 .returned 6]) := by
  intro h
  have hagain := (along_append.mp h).2.1
  have htodo : stopLoaded ∈ (run step start (stopEvents .unreadable)).todo := by decide +kernel
  have hdone : (run step start (stopEvents .unreadable)).Dispatched stopLoaded := by
    show (stopLoaded, CommandResult.dispatched) ∈ (run step start (stopEvents .unreadable)).log
    decide +kernel
  exact ((hagain htodo rfl).1.mp (by decide +kernel)).1 hdone

end

end CoreQueueRun

end VenusEvcharger
