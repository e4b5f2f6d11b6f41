import Mathlib.Data.List.Basic

/-!
# What held since an event

A history lists events, the newest first. `HeldSince P time since history` says that an event at the
time `since` satisfied `P` and that every event from it on did. It is the meaning of a timer that is
armed by an event satisfying `P`, kept by such events only, and cleared by all others.
-/

namespace Library

universe u v

variable {ε : Type u} {T : Type v} {P Q : ε → Prop} {time : ε → T} {since : T} {history : List ε}

/-- `P` held of an event at the time `since` and of every event after it. -/
def HeldSince (P : ε → Prop) (time : ε → T) (since : T) (history : List ε) : Prop :=
  ∃ recent first older, history = recent ++ first :: older ∧ time first = since ∧
    P first ∧ ∀ event ∈ recent, P event

theorem heldSince_arm {event : ε} (h : P event) (history : List ε) :
    HeldSince P time (time event) (event :: history) :=
  ⟨[], event, history, rfl, rfl, h, by simp⟩

theorem HeldSince.extend (h : HeldSince P time since history) {event : ε} (hevent : P event) :
    HeldSince P time since (event :: history) := by
  obtain ⟨recent, first, older, rfl, htime, hfirst, hrecent⟩ := h
  refine ⟨event :: recent, first, older, rfl, htime, hfirst, fun other hother => ?_⟩
  rcases List.mem_cons.mp hother with rfl | hother
  · exact hevent
  · exact hrecent other hother

theorem HeldSince.newest {event : ε} (h : HeldSince P time since (event :: history)) : P event := by
  obtain ⟨recent, first, older, hsplit, -, hfirst, hrecent⟩ := h
  cases recent with
  | nil => rwa [(List.cons.inj hsplit).1]
  | cons newest recent => exact hrecent event (by rw [(List.cons.inj hsplit).1]; exact List.mem_cons_self)

/-- The newest event is the first one, or all of it held without the newest event. -/
theorem HeldSince.older {event : ε} (h : HeldSince P time since (event :: history)) :
    time event = since ∨ HeldSince P time since history := by
  obtain ⟨recent, first, older, hsplit, htime, hfirst, hrecent⟩ := h
  cases recent with
  | nil => exact .inl (by rwa [(List.cons.inj hsplit).1])
  | cons newest recent =>
    exact .inr ⟨recent, first, older, (List.cons.inj hsplit).2, htime, hfirst,
      fun other hother => hrecent other (List.mem_cons_of_mem _ hother)⟩

end Library
