import VenusEvcharger.Library.Run

/-!
# Progress along runs

A goal is reached when a measure never grows and falls with every event that counts: `Along.reaches` finds the goal in
every run in which more events count than the measure allows.
-/

namespace Library

universe u v

variable {σ : Type u} {ε : Type v} {step : σ → ε → σ}

/-- How many events of the run count, each at the state in which it happens. -/
def countAlong (step : σ → ε → σ) (counts : σ → ε → Bool) : σ → List ε → Nat
  | _, [] => 0
  | s, e :: es => (if counts s e then 1 else 0) + countAlong step counts (step s e) es

variable {counts : σ → ε → Bool}

@[simp] theorem countAlong_cons (s : σ) (e : ε) (es : List ε) :
    countAlong step counts s (e :: es) = (if counts s e then 1 else 0) + countAlong step counts (step s e) es := rfl

/-- When every event counts, the run has as many as it is long. -/
theorem countAlong_eq_length {s : σ} {es : List ε}
    (h : Along step (fun s e => counts s e = true) s es) : countAlong step counts s es = es.length := by
  induction es generalizing s with
  | nil => rfl
  | cons e es ih =>
    rw [countAlong_cons, List.length_cons, if_pos h.1, ih h.2]
    omega

/-- Along a permitted run every event reaches the goal or keeps the invariant, and those that count lower the measure. -/
theorem Along.reaches {Inv : σ → Prop} {Ok Goal : σ → ε → Prop} (measure : σ → Nat)
    (hstep : ∀ s e, Inv s → Ok s e →
      Goal s e ∨ Inv (step s e) ∧ measure (step s e) + (if counts s e then 1 else 0) ≤ measure s)
    {s : σ} {es : List ε} (hok : Along step Ok s es) (hinit : Inv s)
    (hlong : measure s < countAlong step counts s es) :
    ∃ before e after, es = before ++ e :: after ∧ Goal (run step s before) e := by
  induction es generalizing s with
  | nil => exact absurd hlong (Nat.not_lt_zero _)
  | cons e es ih =>
    rcases hstep s e hinit hok.1 with hgoal | ⟨hnext, hfall⟩
    · exact ⟨[], e, es, rfl, hgoal⟩
    · rw [countAlong_cons] at hlong
      obtain ⟨before, f, after, rfl, hgoal⟩ := ih hok.2 hnext (by omega)
      exact ⟨e :: before, f, after, rfl, hgoal⟩

end Library
