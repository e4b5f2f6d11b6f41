import Mathlib.Data.List.Induction
import Mathlib.Data.List.TakeWhile
import Mathlib.Tactic.Linarith
import VenusEvcharger.Library.Run

/-!
# The rate limit of the Control API

The server of the API has a thread for every connection, and the limiter takes its lock for each of its two operations
alone: a run is any list of them, as the requests of several clients may interleave. `Kept` says which of the admitted
times the limiter still knows: it forgets one only when the window has passed over it.

Scope: settings and times are exact. A missing entry has the default of the code.
-/

namespace VenusEvcharger.Control

open Library

/-- `_CRITICAL_COMMANDS`. -/
def criticalCommands : List String := ["reset_contactor_lockout", "reset_phase_lockout", "trigger_software_update"]

/-- A `ControlApiRateLimiter`. -/
structure ControlApiRateLimiter where
  maxRequests : Nat
  windowSeconds : ℚ
  criticalCooldownSeconds : ℚ
  requestTimes : String → List ℚ
  criticalDeadlines : String × String → ℚ

namespace ControlApiRateLimiter

/-- A new limiter. -/
def new (maxRequests : Int) (windowSeconds criticalCooldownSeconds : ℚ) : ControlApiRateLimiter :=
  ⟨(max 1 maxRequests).toNat, max (1 / 10) windowSeconds, max 0 criticalCooldownSeconds, fun _ => [], fun _ => 0⟩

variable (l : ControlApiRateLimiter)

/-- `_trim_request_times`. -/
def trimRequestTimes (times : List ℚ) (current : ℚ) : List ℚ :=
  times.dropWhile fun t => decide (l.windowSeconds ≤ current - t)

/-- `allow_request`, with its answer. -/
def allowRequest (clientKey : String) (current : ℚ) : ControlApiRateLimiter × Bool × ℚ :=
  let times := l.trimRequestTimes (l.requestTimes clientKey) current
  if l.maxRequests ≤ times.length then
    ({ l with requestTimes := Function.update l.requestTimes clientKey times }, false,
      max 0 (l.windowSeconds - (current - times.headD 0)))
  else ({ l with requestTimes := Function.update l.requestTimes clientKey (times ++ [current]) }, true, 0)

/-- `allow_command`, with its answer. -/
def allowCommand (clientKey commandName : String) (current : ℚ) : ControlApiRateLimiter × Bool × ℚ :=
  if commandName ∉ criticalCommands ∨ l.criticalCooldownSeconds ≤ 0 then (l, true, 0)
  else
    let deadline := l.criticalDeadlines (clientKey, commandName)
    if current < deadline then (l, false, max 0 (deadline - current))
    else
      ({ l with criticalDeadlines :=
          Function.update l.criticalDeadlines (clientKey, commandName) (current + l.criticalCooldownSeconds) }, true, 0)

/-- An operation under the lock, with the reading of its clock. -/
inductive Operation where
  | request (clientKey : String) (current : ℚ)
  | command (clientKey commandName : String) (current : ℚ)

def Operation.clientKey : Operation → String
  | .request clientKey _ => clientKey
  | .command clientKey _ _ => clientKey

/-- A limiter with the times at which it admitted requests of a client, and those at which it let a command pass. -/
structure Admissions where
  limiter : ControlApiRateLimiter
  requests : String → List ℚ
  commands : String × String → List ℚ

/-- `times` with `current` added at `key` when `allowed`. -/
def noted {α : Type} [DecidableEq α] (times : α → List ℚ) (key : α) (allowed : Bool) (current : ℚ) : α → List ℚ :=
  if allowed then Function.update times key (times key ++ [current]) else times

/-- The admissions after an operation. -/
def Admissions.step (a : Admissions) : Operation → Admissions
  | .request client current =>
    let (l, allowed, _) := a.limiter.allowRequest client current
    ⟨l, noted a.requests client allowed current, a.commands⟩
  | .command client name current =>
    let (l, allowed, _) := a.limiter.allowCommand client name current
    ⟨l, a.requests, noted a.commands (client, name) allowed current⟩

/-- The admissions after a list of operations on a limiter. -/
def admissions (ops : List Operation) : Admissions :=
  run Admissions.step ⟨l, fun _ => [], fun _ => []⟩ ops

/-- The times of a client's requests. -/
def asked (client : String) (ops : List Operation) : List ℚ :=
  ops.filterMap fun
    | .request key current => if key = client then some current else none
    | .command _ _ _ => none

/-- How many of the times are in the window that begins after `start`. -/
def inWindow (window start : ℚ) (times : List ℚ) : Nat := times.countP fun t => decide (start < t ∧ t ≤ start + window)

/-- What the limiter knows of the admitted times of a client that has asked at these times. -/
structure Kept (maxRequests : Nat) (window : ℚ) (asked admitted known : List ℚ) : Prop where
  forgotten : ∃ forgotten, admitted = forgotten ++ known ∧ ∀ t ∈ forgotten, ∃ s ∈ asked, t + window ≤ s
  few : known.length ≤ maxRequests
  windows : asked.Pairwise (· ≤ ·) → ∀ start, inWindow window start admitted ≤ maxRequests

variable {maxRequests : Nat} {window current : ℚ} {times admitted known : List ℚ}

theorem Kept.trim (h : Kept maxRequests window times admitted known) (current : ℚ) :
    Kept maxRequests window (times ++ [current]) admitted (known.dropWhile fun t => decide (window ≤ current - t)) := by
  obtain ⟨forgotten, hsplit, hforgotten⟩ := h.forgotten
  refine ⟨⟨forgotten ++ known.takeWhile fun t => decide (window ≤ current - t), ?_, fun t ht => ?_⟩,
    (List.dropWhile_sublist _).length_le.trans h.few, fun horder => h.windows (List.pairwise_append.mp horder).1⟩
  · rw [List.append_assoc, List.takeWhile_append_dropWhile, hsplit]
  · rcases List.mem_append.mp ht with ht | ht
    · obtain ⟨s, hs, hts⟩ := hforgotten t ht
      exact ⟨s, List.mem_append_left _ hs, hts⟩
    · have hpassed : window ≤ current - t := by simpa using List.mem_takeWhile_imp ht
      exact ⟨current, by simp, by linarith⟩

theorem Kept.admit (h : Kept maxRequests window (times ++ [current]) admitted known) (hroom : known.length < maxRequests) :
    Kept maxRequests window (times ++ [current]) (admitted ++ [current]) (known ++ [current]) := by
  obtain ⟨forgotten, hsplit, hforgotten⟩ := h.forgotten
  have hfew : (known ++ [current]).length ≤ maxRequests := by simpa using Nat.succ_le_of_lt hroom
  have hknown : admitted ++ [current] = forgotten ++ (known ++ [current]) := by rw [hsplit, List.append_assoc]
  refine ⟨⟨forgotten, hknown, hforgotten⟩, hfew, fun horder start => ?_⟩
  by_cases hin : start < current ∧ current ≤ start + window
  · -- a window with the new time has none of the forgotten ones
    have hnone : inWindow window start forgotten = 0 := by
      refine List.countP_eq_zero.mpr fun t ht hcounted => ?_
      obtain ⟨s, hs, hts⟩ := hforgotten t ht
      have hlast : s ≤ current := by
        rcases List.mem_append.mp hs with hs | hs
        · exact (List.pairwise_append.mp horder).2.2 s hs current (by simp)
        · exact (List.mem_singleton.mp hs).le
      linarith [(of_decide_eq_true hcounted).1, hin.2]
    rw [hknown, inWindow, List.countP_append, ← inWindow, hnone, Nat.zero_add]
    exact List.countP_le_length.trans hfew
  · rw [inWindow, List.countP_append, List.countP_singleton, if_neg (by simpa using hin), Nat.add_zero]
    exact h.windows horder start

/-- What holds after the operations `ops` on the limiter `l`. -/
structure Limits (ops : List Operation) (a : Admissions) : Prop where
  maxRequests : a.limiter.maxRequests = l.maxRequests
  windowSeconds : a.limiter.windowSeconds = l.windowSeconds
  cooldown : a.limiter.criticalCooldownSeconds = l.criticalCooldownSeconds
  kept : ∀ client,
    Kept l.maxRequests l.windowSeconds (asked client ops) (a.requests client) (a.limiter.requestTimes client)
  apart : 0 < l.criticalCooldownSeconds → ∀ client, ∀ name ∈ criticalCommands,
    (a.commands (client, name)).Pairwise (fun s t => s + l.criticalCooldownSeconds ≤ t) ∧
      ∀ t ∈ a.commands (client, name), t + l.criticalCooldownSeconds ≤ a.limiter.criticalDeadlines (client, name)

variable {l} {ops : List Operation} {a : Admissions}

theorem Limits.request (h : Limits l ops a) (client : String) (current : ℚ) :
    Limits l (ops ++ [.request client current]) (a.step (.request client current)) := by
  have hkept : Kept l.maxRequests l.windowSeconds (asked client ops ++ [current]) (a.requests client)
      (a.limiter.trimRequestTimes (a.limiter.requestTimes client) current) := by
    rw [trimRequestTimes, h.windowSeconds]
    exact (h.kept client).trim current
  simp only [Admissions.step, allowRequest]
  split_ifs with hfull
  all_goals
    refine ⟨h.maxRequests, h.windowSeconds, h.cooldown, fun other => ?_, h.apart⟩
    by_cases hother : client = other
  · subst hother
    simpa [noted, asked] using hkept
  · simpa [noted, asked, hother, Ne.symm hother] using h.kept other
  · subst hother
    simpa [noted, asked] using hkept.admit (h.maxRequests ▸ not_le.mp hfull)
  · simpa [noted, asked, hother, Ne.symm hother] using h.kept other

theorem Limits.command (h : Limits l ops a) (client name : String) (current : ℚ) :
    Limits l (ops ++ [.command client name current]) (a.step (.command client name current)) := by
  have hkept : ∀ other, Kept l.maxRequests l.windowSeconds (asked other (ops ++ [.command client name current]))
      (a.requests other) (a.limiter.requestTimes other) := by
    simpa [asked] using h.kept
  simp only [Admissions.step, allowCommand]
  split_ifs with hfree hcooling
  · refine ⟨h.maxRequests, h.windowSeconds, h.cooldown, hkept, fun hcool other key hkey => ?_⟩
    have hother : (other, key) ≠ (client, name) := by
      rintro ⟨rfl, rfl⟩
      exact hfree.elim (fun hfree => hfree hkey) fun hfree => absurd (h.cooldown ▸ hfree) (not_le.mpr hcool)
    simpa [noted, hother] using h.apart hcool other key hkey
  · exact ⟨h.maxRequests, h.windowSeconds, h.cooldown, hkept, h.apart⟩
  · refine ⟨h.maxRequests, h.windowSeconds, h.cooldown, hkept, fun hcool other key hkey => ?_⟩
    obtain ⟨hpairs, hdeadline⟩ := h.apart hcool other key hkey
    by_cases hother : (other, key) = (client, name)
    · obtain ⟨rfl, rfl⟩ := Prod.mk.inj hother
      -- every time before is a cooldown before the deadline that has passed
      have hbefore : ∀ t ∈ a.commands (other, key), t + l.criticalCooldownSeconds ≤ current := fun t ht =>
        (hdeadline t ht).trans (not_lt.mp hcooling)
      simp only [noted, if_true, Function.update_self, h.cooldown]
      refine ⟨List.pairwise_append.mpr ⟨hpairs, List.pairwise_singleton _ _, by simpa using hbefore⟩, fun t ht => ?_⟩
      rcases List.mem_append.mp ht with ht | ht
      · linarith [hbefore t ht]
      · exact (List.mem_singleton.mp ht) ▸ le_rfl
    · simpa [noted, hother] using And.intro hpairs hdeadline

theorem limits_admissions (hnew : ∀ client, l.requestTimes client = []) (ops : List Operation) :
    Limits l ops (l.admissions ops) := by
  induction ops using List.reverseRecOn with
  | nil =>
    exact ⟨rfl, rfl, rfl, fun client => ⟨⟨[], by simp [admissions, hnew], by simp⟩, by simp [admissions, hnew],
      by simp [admissions, inWindow]⟩, by simp [admissions]⟩
  | append_singleton ops op ih =>
    rw [admissions, run_append]
    cases op with
    | request client current => exact ih.request client current
    | command client name current => exact ih.command client name current

/-- The limiters treat the client alike. -/
structure SameFor (client : String) (l l' : ControlApiRateLimiter) : Prop where
  maxRequests : l'.maxRequests = l.maxRequests
  windowSeconds : l'.windowSeconds = l.windowSeconds
  cooldown : l'.criticalCooldownSeconds = l.criticalCooldownSeconds
  requestTimes : l'.requestTimes client = l.requestTimes client
  deadlines : ∀ name, l'.criticalDeadlines (client, name) = l.criticalDeadlines (client, name)

variable {client : String}

theorem SameFor.step (h : SameFor client l a.limiter) {op : Operation}
    (hother : op.clientKey ≠ client) : SameFor client l (a.step op).limiter := by
  cases op with
  | request key current =>
    have htimes : ∀ times, Function.update a.limiter.requestTimes key times client = l.requestTimes client :=
      fun _ => (Function.update_of_ne (Ne.symm hother) _ _).trans h.requestTimes
    simp only [Admissions.step, allowRequest]
    split_ifs
    · exact ⟨h.maxRequests, h.windowSeconds, h.cooldown, htimes _, h.deadlines⟩
    · exact ⟨h.maxRequests, h.windowSeconds, h.cooldown, htimes _, h.deadlines⟩
  | command key name current =>
    simp only [Admissions.step, allowCommand]
    split_ifs
    · exact h
    · exact h
    · refine ⟨h.maxRequests, h.windowSeconds, h.cooldown, h.requestTimes, fun other => ?_⟩
      rw [← h.deadlines other]
      exact Function.update_of_ne (fun heq => hother (Prod.mk.inj heq).1.symm) _ _

theorem SameFor.admissions {others : List Operation}
    (hothers : ∀ op ∈ others, op.clientKey ≠ client) : SameFor client l (l.admissions others).limiter := by
  have hstep : ∀ (a : Admissions) op, SameFor client l a.limiter → op.clientKey ≠ client →
      SameFor client l (a.step op).limiter := fun _ _ h hother => h.step hother
  have hself : SameFor client l l := ⟨rfl, rfl, rfl, rfl, fun _ => rfl⟩
  exact run_invariant_of_along (s := ⟨l, fun _ => [], fun _ => []⟩) hstep hself (along_of_forall_mem _ hothers)

variable {l' : ControlApiRateLimiter}

theorem SameFor.allowRequest (h : SameFor client l l') (later : ℚ) :
    (l'.allowRequest client later).2 = (l.allowRequest client later).2 := by
  have htimes : l'.trimRequestTimes (l'.requestTimes client) later =
      l.trimRequestTimes (l.requestTimes client) later := by
    rw [trimRequestTimes, trimRequestTimes, h.windowSeconds, h.requestTimes]
  unfold ControlApiRateLimiter.allowRequest
  rw [htimes, h.maxRequests, h.windowSeconds]
  by_cases hfull : l.maxRequests ≤ (l.trimRequestTimes (l.requestTimes client) later).length
  · simp only [if_pos hfull]
  · simp only [if_neg hfull]

theorem SameFor.allowCommand (h : SameFor client l l') (name : String)
    (later : ℚ) : (l'.allowCommand client name later).2 = (l.allowCommand client name later).2 := by
  simp only [ControlApiRateLimiter.allowCommand, h.cooldown, h.deadlines]
  split_ifs <;> rfl

/-- A client refused at `current` is admitted again from `retry_after` on, and not before. -/
theorem allowRequest_retry {current retryAfter : ℚ}
    (hsome : 0 < l.maxRequests) (hfew : (l.requestTimes client).length ≤ l.maxRequests)
    (hrefused : l.allowRequest client current = (l', false, retryAfter)) (later : ℚ) :
    (l'.allowRequest client later).2.1 = true ↔ current + retryAfter ≤ later := by
  unfold allowRequest at hrefused
  by_cases hfull : l.maxRequests ≤ (l.trimRequestTimes (l.requestTimes client) current).length
  · simp only [if_pos hfull, Prod.mk.injEq, true_and] at hrefused
    obtain ⟨rfl, rfl⟩ := hrefused
    -- nothing was trimmed, and the oldest time decides
    have hall : l.trimRequestTimes (l.requestTimes client) current = l.requestTimes client :=
      (List.dropWhile_sublist _).eq_of_length_le (hfew.trans hfull)
    rw [hall] at hfull ⊢
    cases hknown : l.requestTimes client with
    | nil => simp [hknown, hsome.ne'] at hfull
    | cons oldest known =>
      have hshort : ∀ p : ℚ → Bool, (known.dropWhile p).length ≤ known.length := fun p =>
        (List.dropWhile_sublist p).length_le
      have hfresh : ¬ l.windowSeconds ≤ current - oldest := by
        intro hpassed
        rw [hknown, trimRequestTimes, List.dropWhile_cons_of_pos (by simpa using hpassed)] at hall
        have hless := hshort fun t => decide (l.windowSeconds ≤ current - t)
        simp [hall] at hless
      rw [hknown] at hfull hfew
      have hretry : max 0 (l.windowSeconds - (current - oldest)) = l.windowSeconds - (current - oldest) :=
        max_eq_right (by linarith)
      simp only [List.headD_cons, allowRequest, Function.update_self, trimRequestTimes, hretry]
      by_cases hpassed : l.windowSeconds ≤ later - oldest
      · rw [List.dropWhile_cons_of_pos (by simpa using hpassed), if_neg]
        · simp only [true_iff]
          linarith
        · exact not_le.mpr ((Nat.lt_succ_of_le (hshort _)).trans_le hfew)
      · rw [List.dropWhile_cons_of_neg (by simpa using hpassed), if_pos hfull]
        simp only [Bool.false_eq_true, false_iff]
        intro hwaited
        exact hpassed (by linarith)
  · simp [if_neg hfull] at hrefused

theorem allowCommand_retry {name : String} {current retryAfter : ℚ}
    (hrefused : l.allowCommand client name current = (l', false, retryAfter)) (later : ℚ) :
    (l'.allowCommand client name later).2.1 = true ↔ current + retryAfter ≤ later := by
  unfold allowCommand at hrefused
  by_cases hfree : name ∉ criticalCommands ∨ l.criticalCooldownSeconds ≤ 0
  · simp [if_pos hfree] at hrefused
  · rw [if_neg hfree] at hrefused
    by_cases hcooling : current < l.criticalDeadlines (client, name)
    · simp only [if_pos hcooling, Prod.mk.injEq, true_and] at hrefused
      obtain ⟨rfl, rfl⟩ := hrefused
      rw [max_eq_right (by linarith), allowCommand, if_neg hfree]
      by_cases hlater : later < l.criticalDeadlines (client, name)
      · simp [hlater]
      · simpa only [if_neg hlater, true_iff, add_sub_cancel] using not_lt.mp hlater
    · simp [if_neg hcooling] at hrefused

/-- Whatever the threads interleave: a client whose clock does not go back has few requests admitted in every window;
a critical command passes once in every cooldown, also when the clock goes back; and when a client that was refused with
a `retry_after` asks next, after any operations of others, it is admitted from that moment on, and not before. -/
theorem rate_limited (maxRequests : Int) (windowSeconds criticalCooldownSeconds : ℚ) (ops : List Operation)
    (client : String) :
    let l := new maxRequests windowSeconds criticalCooldownSeconds
    let a := l.admissions ops
    ((asked client ops).Pairwise (· ≤ ·) → ∀ start, inWindow l.windowSeconds start (a.requests client) ≤ l.maxRequests) ∧
    (0 < l.criticalCooldownSeconds → ∀ name ∈ criticalCommands,
      (a.commands (client, name)).Pairwise (fun s t => s + l.criticalCooldownSeconds ≤ t)) ∧
    (∀ current l' retryAfter, a.limiter.allowRequest client current = (l', false, retryAfter) →
      ∀ others : List Operation, (∀ op ∈ others, op.clientKey ≠ client) → ∀ later,
        ((l'.admissions others).limiter.allowRequest client later).2.1 = true ↔ current + retryAfter ≤ later) ∧
    ∀ name current l' retryAfter, a.limiter.allowCommand client name current = (l', false, retryAfter) →
      ∀ others : List Operation, (∀ op ∈ others, op.clientKey ≠ client) → ∀ later,
        ((l'.admissions others).limiter.allowCommand client name later).2.1 = true ↔ current + retryAfter ≤ later := by
  intro l a
  have h : Limits l ops a := limits_admissions (fun _ => rfl) ops
  have hsome : 0 < a.limiter.maxRequests := by
    rw [h.maxRequests]
    exact Int.pos_iff_toNat_pos.mp (lt_max_of_lt_left one_pos)
  refine ⟨(h.kept client).windows, fun hcool name hname => (h.apart hcool client name hname).1,
    fun current l' retryAfter hrefused others hothers later => ?_,
    fun name current l' retryAfter hrefused others hothers later => ?_⟩
  · rw [(SameFor.admissions hothers).allowRequest]
    exact allowRequest_retry hsome (h.maxRequests ▸ (h.kept client).few) hrefused later
  · rw [(SameFor.admissions hothers).allowCommand]
    exact allowCommand_retry hrefused later

end ControlApiRateLimiter

end VenusEvcharger.Control
