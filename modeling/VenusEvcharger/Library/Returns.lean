import VenusEvcharger.Library.Wire

/-!
# Computations that return

`Returns r` says that the computation `r` does not raise. There is one rule for each way to build a computation, so
the inputs on which a long conversion returns follow from the inputs on which its parts do.
-/

namespace Library

variable {ε α β : Type}

/-- The computation yields a value. -/
def Returns (r : Except ε α) : Prop := ∃ a, r = .ok a

instance (r : Except ε α) : Decidable (Returns r) :=
  match r with
  | .ok a => isTrue ⟨a, rfl⟩
  | .error _ => isFalse nofun

/-- `try … except`: the caught errors stand for a default. -/
def recover (caught : ε → Bool) (default : α) : Except ε α → Except ε α
  | .ok a => .ok a
  | .error error => if caught error then .ok default else .error error

@[simp] theorem returns_ok (a : α) : Returns (.ok a : Except ε α) := ⟨a, rfl⟩

@[simp] theorem returns_pure (a : α) : Returns (pure a : Except ε α) := ⟨a, rfl⟩

@[simp] theorem returns_error (error : ε) : ¬Returns (.error error : Except ε α) := nofun

variable {r : Except ε α}

@[simp] theorem exists_eq_ok : (∃ a, r = .ok a) ↔ Returns r := Iff.rfl

variable {f : α → Except ε β}

@[simp] theorem returns_bind {x : Except ε α} :
    Returns (x >>= f) ↔ ∃ a, x = .ok a ∧ Returns (f a) := by
  constructor
  · rintro ⟨b, h⟩
    obtain ⟨a, hx, hf⟩ := bind_eq_ok.mp h
    exact ⟨a, hx, b, hf⟩
  · rintro ⟨a, hx, b, hf⟩
    exact ⟨b, bind_eq_ok.mpr ⟨a, hx, hf⟩⟩

theorem map_eq_ok {f : α → β} {b : β} : f <$> r = .ok b ↔ ∃ a, r = .ok a ∧ f a = b := by
  cases r with
  | error error => exact iff_of_false nofun nofun
  | ok a =>
    change Except.ok (f a) = Except.ok b ↔ _
    simp

@[simp] theorem returns_map {f : α → β} : Returns (f <$> r) ↔ Returns r := by
  cases r with
  | error error => exact iff_of_false nofun nofun
  | ok a => exact iff_of_true ⟨f a, rfl⟩ ⟨a, rfl⟩

theorem returns_recover {caught : ε → Bool} {default : α} :
    Returns (recover caught default r) ↔ ∀ error, r = .error error → caught error = true := by
  cases r with
  | ok a => simp [recover]
  | error error => by_cases h : caught error <;> simp [recover, h]

variable {items : List α}

/-- A loop returns when every round does, where the rounds return or raise whatever came before. -/
theorem returns_foldlM {f : β → α → Except ε β} {P : α → Prop}
    (h : ∀ acc, ∀ item ∈ items, (Returns (f acc item) ↔ P item)) (acc : β) :
    Returns (items.foldlM f acc) ↔ ∀ item ∈ items, P item := by
  induction items generalizing acc with
  | nil => simp [List.foldlM]
  | cons item items ih =>
    have ih := ih fun acc item hitem => h acc item (List.mem_cons_of_mem _ hitem)
    have hitem := h acc item List.mem_cons_self
    simp only [List.foldlM_cons, returns_bind, ih, List.forall_mem_cons]
    rw [exists_and_right, exists_eq_ok, hitem]

theorem returns_mapM : Returns (items.mapM f) ↔ ∀ item ∈ items, Returns (f item) := by
  induction items with
  | nil => simp
  | cons item items ih =>
    rw [List.mapM_cons, List.forall_mem_cons, ← ih]
    simp only [returns_bind, returns_pure, and_true, exists_and_right, exists_eq_ok]

variable {results : List β}

/-- A traversal yields one result for each item, in the order of the items. -/
theorem mapM_eq_ok_iff :
    items.mapM f = .ok results ↔ List.Forall₂ (fun a b => f a = .ok b) items results := by
  induction items generalizing results with
  | nil =>
    rw [List.forall₂_nil_left_iff, List.mapM_nil]
    exact ⟨fun h => (Except.ok.inj h).symm, fun h => congrArg Except.ok h.symm⟩
  | cons item items ih =>
    rw [List.mapM_cons, List.forall₂_cons_left_iff]
    simp only [bind_eq_ok, ih]
    constructor
    · rintro ⟨first, hfirst, more, hmore, h⟩
      exact ⟨first, more, hfirst, hmore, (Except.ok.inj h).symm⟩
    · rintro ⟨first, more, hfirst, hmore, rfl⟩
      exact ⟨first, hfirst, more, hmore, rfl⟩

/-- Where each item has one result under a condition, so has the traversal. -/
theorem mapM_eq_ok_map_iff {P : α → Prop} {g : α → β} (hf : ∀ a b, f a = .ok b ↔ P a ∧ b = g a) :
    items.mapM f = .ok results ↔ (∀ a ∈ items, P a) ∧ results = items.map g := by
  simp only [mapM_eq_ok_iff, hf, List.forall₂_and_left]
  have hmap : List.Forall₂ (fun a b => b = g a) items results ↔ results = items.map g := by
    rw [eq_comm, ← List.forall₂_eq_eq_eq, List.forall₂_map_left_iff]
    exact ⟨.imp fun _ _ => Eq.symm, .imp fun _ _ => Eq.symm⟩
  rw [hmap]

theorem mapM_error {error : ε} (h : items.mapM f = .error error) :
    ∃ item ∈ items, f item = .error error := by
  induction items with
  | nil => cases h
  | cons item items ih =>
    rw [List.mapM_cons] at h
    rcases bind_eq_error.mp h with hitem | ⟨first, -, h⟩
    · exact ⟨item, List.mem_cons_self, hitem⟩
    · rcases bind_eq_error.mp h with hrest | ⟨more, -, h⟩
      · obtain ⟨other, hother, herror⟩ := ih hrest
        exact ⟨other, List.mem_cons_of_mem _ hother, herror⟩
      · cases h

theorem mem_of_mapM (h : items.mapM f = .ok results) (b : β) :
    b ∈ results ↔ ∃ item ∈ items, f item = .ok b := by
  have hall := mapM_eq_ok_iff.mp h
  clear h
  induction hall with
  | nil => simp
  | cons hfirst _ ih =>
    rw [List.mem_cons, List.exists_mem_cons_iff, hfirst]
    exact or_congr ⟨fun h => congrArg Except.ok h.symm, fun h => (Except.ok.inj h).symm⟩ ih

/-- A traversal whose results tell their items keeps their order. -/
theorem map_of_mapM {g : β → α} (hg : ∀ a b, f a = .ok b → g b = a)
    (h : items.mapM f = .ok results) : results.map g = items := by
  have hall := (mapM_eq_ok_iff.mp h).imp hg
  rw [← List.forall₂_eq_eq_eq, List.forall₂_map_left_iff]
  exact hall.flip

/-- A loop that appends one word for each item, when every item is valid. -/
theorem foldlM_append_iff {f : List β → α → Except ε (List β)} {P : α → Prop} {wordOf : α → List β}
    (hf : ∀ acc item result, f acc item = .ok result ↔ P item ∧ result = acc ++ wordOf item)
    {acc result : List β} : items.foldlM f acc = .ok result ↔
      (∀ item ∈ items, P item) ∧ result = acc ++ (items.map wordOf).flatten := by
  induction items generalizing acc with
  | nil => simp [pure, Except.pure, eq_comm]
  | cons item items ih =>
    rw [List.foldlM_cons, bind_eq_ok]
    simp only [hf, ih, List.forall_mem_cons, List.map_cons, List.flatten_cons]
    constructor
    · rintro ⟨-, ⟨hitem, rfl⟩, hitems, rfl⟩
      exact ⟨⟨hitem, hitems⟩, List.append_assoc ..⟩
    · rintro ⟨⟨hitem, hitems⟩, rfl⟩
      exact ⟨_, ⟨hitem, rfl⟩, hitems, (List.append_assoc ..).symm⟩

/-- What every round keeps, a loop that returns keeps. -/
theorem foldlM_keeps {f : β → α → Except ε β} {I : β → Prop}
    (h : ∀ acc, ∀ item ∈ items, ∀ acc', I acc → f acc item = .ok acc' → I acc') {acc last : β}
    (hinit : I acc) (hrun : items.foldlM f acc = .ok last) : I last := by
  induction items generalizing acc with
  | nil =>
    obtain rfl : acc = last := by simpa [List.foldlM, pure, Except.pure] using hrun
    exact hinit
  | cons item items ih =>
    rw [List.foldlM_cons, bind_eq_ok] at hrun
    obtain ⟨acc', hstep, hrun⟩ := hrun
    exact ih (fun acc item hitem => h acc item (List.mem_cons_of_mem _ hitem))
      (h acc item List.mem_cons_self acc' hinit hstep) hrun

end Library
