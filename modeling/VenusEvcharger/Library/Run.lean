import Mathlib.Data.List.Basic

/-!
# Runs of a step function

`run step s es` is the state after the events `es`, and `Along step P s es` says that `P` holds of
every event of the run at the state in which it happens. The induction over a run is done here
once: `run_invariant` for a fact about states, `along_of_invariant` for a fact about steps, and
`along_iff_of_invariant` and `all_states_iff_along` where a step condition is also necessary.
-/

namespace Library

universe u v

variable {σ : Type u} {ε : Type v} {step : σ → ε → σ}

/-- The state after a list of events. -/
def run (step : σ → ε → σ) (s : σ) (es : List ε) : σ := es.foldl step s

@[simp] theorem run_nil (s : σ) : run step s [] = s := rfl

@[simp] theorem run_cons (s : σ) (e : ε) (es : List ε) :
    run step s (e :: es) = run step (step s e) es := rfl

theorem run_append (s : σ) (es fs : List ε) : run step s (es ++ fs) = run step (run step s es) fs :=
  List.foldl_append

/-- `P` holds of every event of the run, at the state in which it happens. -/
def Along (step : σ → ε → σ) (P : σ → ε → Prop) : σ → List ε → Prop
  | _, [] => True
  | s, e :: es => P s e ∧ Along step P (step s e) es

@[simp] theorem along_nil {P : σ → ε → Prop} (s : σ) : Along step P s [] := trivial

@[simp] theorem along_cons {P : σ → ε → Prop} {s : σ} {e : ε} {es : List ε} :
    Along step P s (e :: es) ↔ P s e ∧ Along step P (step s e) es := Iff.rfl

/-- A run property with decidable steps can be evaluated. -/
instance decidableAlong {P : σ → ε → Prop} [∀ s e, Decidable (P s e)] :
    ∀ s es, Decidable (Along step P s es)
  | _, [] => isTrue trivial
  | s, e :: es => @instDecidableAnd _ _ _ (decidableAlong (step s e) es)

theorem along_append {P : σ → ε → Prop} {s : σ} {es fs : List ε} :
    Along step P s (es ++ fs) ↔ Along step P s es ∧ Along step P (run step s es) fs := by
  induction es generalizing s with
  | nil => simp
  | cons e es ih => simp [ih, and_assoc]

theorem Along.mono {P Q : σ → ε → Prop} {s : σ} {es : List ε} (h : Along step P s es)
    (himp : ∀ s e, P s e → Q s e) : Along step Q s es := by
  induction es generalizing s with
  | nil => trivial
  | cons e es ih => exact ⟨himp _ _ h.1, ih h.2⟩

theorem Along.and {P Q : σ → ε → Prop} {s : σ} {es : List ε} (hp : Along step P s es)
    (hq : Along step Q s es) : Along step (fun s e => P s e ∧ Q s e) s es := by
  induction es generalizing s with
  | nil => trivial
  | cons e es ih => exact ⟨⟨hp.1, hq.1⟩, ih hp.2 hq.2⟩

/-- What holds of every event holds along the run. -/
theorem along_of_forall_mem (step : σ → ε → σ) {P : ε → Prop} {s : σ} {es : List ε} (h : ∀ e ∈ es, P e) :
    Along step (fun _ e => P e) s es := by
  induction es generalizing s with
  | nil => trivial
  | cons e es ih =>
    exact ⟨h e List.mem_cons_self, ih fun f hf => h f (List.mem_cons_of_mem _ hf)⟩

/-- `Along` speaks about the run up to each of its events. -/
theorem along_iff_splits {P : σ → ε → Prop} {s : σ} {es : List ε} :
    Along step P s es ↔
      ∀ before e after, es = before ++ e :: after → P (run step s before) e := by
  induction es generalizing s with
  | nil => simp
  | cons e es ih =>
    rw [along_cons, ih]
    constructor
    · rintro ⟨hhead, htail⟩ before f after hsplit
      cases before with
      | nil =>
        obtain ⟨rfl, -⟩ := List.cons.inj hsplit
        exact hhead
      | cons b before =>
        obtain ⟨rfl, hrest⟩ := List.cons.inj hsplit
        exact htail before f after hrest
    · intro h
      exact ⟨h [] e es rfl, fun before f after hsplit =>
        h (e :: before) f after (by rw [hsplit, List.cons_append])⟩

theorem exists_changing_event {α : Type*} (view : σ → α) {s : σ} {es : List ε}
    (hne : view (run step s es) ≠ view s) :
    ∃ before e after, es = before ++ e :: after ∧
      view (step (run step s before) e) ≠ view (run step s before) := by
  induction es generalizing s with
  | nil => exact absurd rfl hne
  | cons e es ih =>
    by_cases hstep : view (step s e) = view s
    · rw [run_cons, ← hstep] at hne
      obtain ⟨before, f, after, rfl, hchange⟩ := ih hne
      exact ⟨e :: before, f, after, rfl, hchange⟩
    · exact ⟨[], e, es, rfl, hstep⟩

/-- Two step functions agree after every event of a run, when they agree on a step exactly when its condition holds, if
and only if the condition holds along the run. -/
theorem runs_agree_iff {step' : σ → ε → σ} {Inv : σ → Prop} {Q : σ → ε → Prop}
    (hstep : ∀ s e, Inv s → Inv (step s e)) (hagree : ∀ s e, Inv s → (step' s e = step s e ↔ Q s e))
    {s : σ} {es : List ε} (hinit : Inv s) :
    (∀ before after, es = before ++ after → run step' s before = run step s before) ↔ Along step Q s es := by
  induction es generalizing s with
  | nil =>
    refine ⟨fun _ => trivial, fun _ before after hsplit => ?_⟩
    rw [(List.append_eq_nil_iff.mp hsplit.symm).1]
    rfl
  | cons e es ih =>
    constructor
    · intro h
      have hfirst : step' s e = step s e := h [e] es rfl
      refine ⟨(hagree s e hinit).mp hfirst, (ih (hstep s e hinit)).mp fun before after hsplit => ?_⟩
      have hrun := h (e :: before) after (by rw [hsplit, List.cons_append])
      rwa [run_cons, run_cons, hfirst] at hrun
    · intro ⟨hfirst, hrest⟩ before after hsplit
      cases before with
      | nil => rfl
      | cons b before =>
        obtain ⟨hb, hsplit'⟩ := List.cons.inj hsplit
        rw [run_cons, run_cons, ← hb, (hagree s e hinit).mpr hfirst]
        exact (ih (hstep s e hinit)).mpr hrest before after hsplit'

/-- What every step preserves holds at the end of every run. -/
theorem run_invariant {Inv : σ → Prop} (hstep : ∀ s e, Inv s → Inv (step s e)) {s : σ}
    (hinit : Inv s) (es : List ε) : Inv (run step s es) := by
  induction es generalizing s with
  | nil => exact hinit
  | cons e es ih => exact ih (hstep s e hinit)

/-- What every permitted step preserves holds at the end of a permitted run. -/
theorem run_invariant_of_along {Inv : σ → Prop} {Ok : σ → ε → Prop}
    (hstep : ∀ s e, Inv s → Ok s e → Inv (step s e)) {s : σ} {es : List ε}
    (hinit : Inv s) (hok : Along step Ok s es) : Inv (run step s es) := by
  induction es generalizing s with
  | nil => exact hinit
  | cons e es ih => exact ih (hstep s e hinit hok.1) hok.2

/-- What a permitted step shows under the invariant is shown by every step of a permitted run. -/
theorem along_of_invariant {Inv : σ → Prop} {Ok P : σ → ε → Prop}
    (hstep : ∀ s e, Inv s → Ok s e → Inv (step s e)) (hshow : ∀ s e, Inv s → Ok s e → P s e)
    {s : σ} {es : List ε} (hinit : Inv s) (hok : Along step Ok s es) : Along step P s es := by
  induction es generalizing s with
  | nil => trivial
  | cons e es ih => exact ⟨hshow s e hinit hok.1, ih (hstep s e hinit hok.1) hok.2⟩

/-- While a measure falls with every permitted step, a permitted run that is long enough reaches the
goal. -/
theorem run_reaches {Inv Goal : σ → Prop} {Ok : ε → Prop} (measure : σ → Nat)
    (hpos : ∀ s, Inv s → 0 < measure s)
    (hstep : ∀ s e, Inv s → Ok e →
      Goal (step s e) ∨ Inv (step s e) ∧ measure (step s e) < measure s)
    {s : σ} {es : List ε} (hinit : Inv s) (hok : ∀ e ∈ es, Ok e) (hlen : measure s ≤ es.length) :
    ∃ before after, es = before ++ after ∧ before.length ≤ measure s ∧
      Goal (run step s before) := by
  induction es generalizing s with
  | nil =>
    have := hpos s hinit
    rw [List.length_nil] at hlen
    omega
  | cons e es ih =>
    rcases hstep s e hinit (hok e List.mem_cons_self) with hgoal | ⟨hnext, hfall⟩
    · refine ⟨[e], es, rfl, ?_, hgoal⟩
      have := hpos s hinit
      rw [List.length_singleton]
      omega
    · rw [List.length_cons] at hlen
      obtain ⟨before, after, rfl, hbound, hgoal⟩ :=
        ih hnext (fun f hf => hok f (List.mem_cons_of_mem _ hf)) (by omega)
      refine ⟨e :: before, after, rfl, ?_, hgoal⟩
      rw [List.length_cons]
      omega

/-- Two step properties that agree under an invariant agree along all runs, when the steps with the
property keep the invariant. -/
theorem along_iff_of_invariant {Inv : σ → Prop} {P Q : σ → ε → Prop}
    (hstep : ∀ s e, Inv s → Q s e → Inv (step s e)) (hiff : ∀ s e, Inv s → (P s e ↔ Q s e))
    {s : σ} {es : List ε} (hinit : Inv s) : Along step P s es ↔ Along step Q s es := by
  induction es generalizing s with
  | nil => simp
  | cons e es ih =>
    rw [along_cons, along_cons, hiff s e hinit]
    exact and_congr_right fun hq => ih (hstep s e hinit hq)

/-- Two step properties that agree on permitted steps under an invariant agree along permitted runs. -/
theorem along_iff_of_permitted {Inv : σ → Prop} {Ok P Q : σ → ε → Prop}
    (hstep : ∀ s e, Inv s → Ok s e → Inv (step s e)) (hiff : ∀ s e, Inv s → Ok s e → (P s e ↔ Q s e))
    {s : σ} {es : List ε} (hinit : Inv s) (hok : Along step Ok s es) :
    Along step P s es ↔ Along step Q s es := by
  induction es generalizing s with
  | nil => simp
  | cons e es ih =>
    rw [along_cons, along_cons, hiff s e hinit hok.1, ih (hstep s e hinit hok.1) hok.2]

/-- When `Q` decides whether a permitted step keeps `Good`, every state of a permitted run is good
exactly when every step satisfies `Q`. -/
theorem all_states_iff_along {Inv Good : σ → Prop} {Ok Q : σ → ε → Prop}
    (hstep : ∀ s e, Inv s → Ok s e → Inv (step s e))
    (hiff : ∀ s e, Inv s → Ok s e → Good s → (Good (step s e) ↔ Q s e))
    {s : σ} {es : List ε} (hinit : Inv s) (hgood : Good s) (hok : Along step Ok s es) :
    (∀ before after, es = before ++ after → Good (run step s before)) ↔ Along step Q s es := by
  induction es generalizing s with
  | nil =>
    refine ⟨fun _ => trivial, fun _ before after hsplit => ?_⟩
    rw [(List.append_eq_nil_iff.mp hsplit.symm).1]
    exact hgood
  | cons e es ih =>
    constructor
    · intro h
      have hnext : Good (step s e) := h [e] es rfl
      refine ⟨(hiff s e hinit hok.1 hgood).mp hnext, ?_⟩
      exact (ih (hstep s e hinit hok.1) hnext hok.2).mp fun before after hsplit =>
        h (e :: before) after (by rw [hsplit, List.cons_append])
    · rintro ⟨hq, hrest⟩ before after hsplit
      have hnext : Good (step s e) := (hiff s e hinit hok.1 hgood).mpr hq
      cases before with
      | nil => exact hgood
      | cons b before =>
        obtain ⟨rfl, htail⟩ := List.cons.inj hsplit
        exact (ih (hstep s e hinit hok.1) hnext hok.2).mpr hrest before after htail

end Library
