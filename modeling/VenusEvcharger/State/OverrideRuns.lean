import VenusEvcharger.State.OverrideStore

/-!
# Runs of the runtime-override store

`overrides_written_behind`: in every run of `save` and `flush` the file or the pending payload holds the settings that
were saved last, and the writes are an interval apart. A save that is due writes the settings as they are then, so a
pending payload that was replaced, or taken back to what is on the file, is never written:
`reverted_settings_left_unwritten`.
-/

namespace VenusEvcharger.State

open Library

/-- One call of the store. `writes` says whether writing the file succeeds, should it be tried. -/
inductive OverrideCall where
  | save (settings : OverrideSettings) (now : ℚ) (writes : Bool)
  | flush (now : ℚ) (writes : Bool)

def OverrideCall.time : OverrideCall → ℚ
  | .save _ now _ => now
  | .flush now _ => now

/-- Reading the file gives a dictionary equal to these values. -/
def ReadsBack (path : String) (file : FileRead) (values : Dict String String) : Prop :=
  ∃ found, readRuntimeOverrideValues path file = .ok found ∧ ∀ key, found.get? key = values.get? key

namespace OverrideStore

/-- The pending payload holds the values, or nothing is pending and the file does. -/
def Holds (path : String) (s : OverrideStore) (values : Dict String String) : Prop :=
  (∃ p, s.pending = some p ∧ p.values = values) ∨ (s.pending = none ∧ ReadsBack path s.file values)

/-- The store at start: what the overrides were applied from was read from the file. -/
structure Started (path : String) (s : OverrideStore) : Prop where
  serialized : ∀ values ∈ s.serialized, readRuntimeOverrideValues path s.file = .ok values
  lastSavedAt : s.lastSavedAt = none
  pending : s.pending = none
  written : s.written = []

section Step

variable [PyRuntime] (path : String) (configured : Option ℚ)

/-- A call and the store after it. A save that raises leaves the store as it is. -/
def step (s : OverrideStore) : OverrideCall → OverrideStore
  | .save settings now writes =>
    match s.save path configured settings now writes with
    | .ok s' => s'
    | .error _ => s
  | .flush now writes => s.flush path configured now writes

end Step

/-! ## The invariant -/

/-- What holds of the store at every time: the file gives the serialized values, a pending payload is due an interval
after the last write, and the writes are an interval apart. -/
structure Coherent (path : String) (interval : ℚ) (now : ℚ) (s : OverrideStore) : Prop where
  onFile : ∀ values ∈ s.serialized, ReadsBack path s.file values
  saved : ∀ t ∈ s.lastSavedAt, t ≤ now
  due : ∀ p ∈ s.pending, ∀ t ∈ s.lastSavedAt, t + interval ≤ p.dueAt
  rendered : ∀ p ∈ s.pending, Rendered p.values ∧ overrideIniText p.values = .ok p.text
  last : ∀ w ∈ s.written, ∃ t ∈ s.lastSavedAt, w.time ≤ t
  spaced : s.written.Pairwise fun a b => a.time + interval ≤ b.time
  readable : ∀ w ∈ s.written, readRuntimeOverrideValues path (.content (utf8 w.text)) = .ok w.values

variable {path : String} {interval now : ℚ} {s : OverrideStore}

variable (now) in
theorem Started.coherent (h : Started path s) : Coherent path interval now s where
  onFile values hvalues := ⟨values, h.serialized values hvalues, fun _ => rfl⟩
  saved t ht := by rw [h.lastSavedAt] at ht; exact nomatch ht
  due p hp := by rw [h.pending] at hp; exact nomatch hp
  rendered p hp := by rw [h.pending] at hp; exact nomatch hp
  last w hw := by rw [h.written] at hw; exact nomatch hw
  spaced := by rw [h.written]; exact List.Pairwise.nil
  readable w hw := by rw [h.written] at hw; exact nomatch hw

section

variable (h : Coherent path interval now s)
include h

theorem Coherent.later {later : ℚ} (hle : now ≤ later) : Coherent path interval later s :=
  { h with saved := fun t ht => (h.saved t ht).trans hle }

theorem Coherent.cleared : Coherent path interval now { s with pending := none } :=
  { h with
    due := nofun
    rendered := nofun }

theorem Coherent.stage {values : Dict String String} {text : String} {dueAt : ℚ}
    (hrendered : Rendered values) (htext : overrideIniText values = .ok text)
    (hdue : ∀ t ∈ s.lastSavedAt, t + interval ≤ dueAt) : Coherent path interval now (s.stage values text dueAt) :=
  { h with
    due := by
      rintro p hp t ht
      obtain rfl := Option.some.inj hp
      exact hdue t ht
    rendered := by
      rintro p hp
      obtain rfl := Option.some.inj hp
      exact ⟨hrendered, htext⟩ }

theorem Coherent.writePayload (hpath : strip path ≠ "") {values : Dict String String}
    {text : String} (hrendered : Rendered values) (htext : overrideIniText values = .ok text)
    (hfree : ∀ t ∈ s.lastSavedAt, t + interval ≤ now) : Coherent path interval now (s.writePayload values text now) where
  onFile found hfound := by
    obtain rfl := Option.some.inj hfound
    exact ⟨_, readRuntimeOverrideValues_text hpath hrendered htext, fun _ => rfl⟩
  saved t ht := by
    obtain rfl := Option.some.inj ht
    exact le_refl _
  due := nofun
  rendered := nofun
  last w hw := by
    refine ⟨now, rfl, ?_⟩
    rcases List.mem_append.mp hw with hw | hw
    · obtain ⟨t, ht, hle⟩ := h.last w hw
      exact hle.trans (h.saved t ht)
    · obtain rfl := List.mem_singleton.mp hw
      exact le_refl _
  spaced := by
    refine List.pairwise_append.mpr ⟨h.spaced, List.pairwise_singleton _ _, fun earlier hearlier w hw => ?_⟩
    obtain rfl := List.mem_singleton.mp hw
    obtain ⟨t, ht, hle⟩ := h.last earlier hearlier
    show earlier.time + interval ≤ now
    linarith [hfree t ht]
  readable w hw := by
    rcases List.mem_append.mp hw with hw | hw
    · exact h.readable w hw
    · obtain rfl := List.mem_singleton.mp hw
      exact readRuntimeOverrideValues_text hpath hrendered htext

end

/-! ## When a write is due -/

/-- A payload that has to wait is due an interval after the last write. -/
theorem due_of_some {pendingDueAt lastSavedAt : Option ℚ} {dueAt : ℚ}
    (h : overrideDueAt now pendingDueAt lastSavedAt interval = some dueAt)
    (hpending : ∀ due ∈ pendingDueAt, ∀ t ∈ lastSavedAt, t + interval ≤ due) :
    ∀ t ∈ lastSavedAt, t + interval ≤ dueAt := by
  intro t ht
  unfold overrideDueAt at h
  split at h
  · exact hpending dueAt h t ht
  · split at h
    · rw [Option.mem_def.mp ht] at h
      obtain rfl := Option.some.inj h
      exact le_refl _
    · nomatch h

/-- What need not wait is an interval after the last write. -/
theorem free_of_none {pendingDueAt lastSavedAt : Option ℚ} (h : overrideDueAt now pendingDueAt lastSavedAt interval = none) :
    ∀ t ∈ lastSavedAt, t + interval ≤ now := by
  intro t ht
  unfold overrideDueAt at h
  rw [Option.mem_def.mp ht] at h
  split at h
  · rename_i hany
    rw [h] at hany
    nomatch hany
  · split at h
    · nomatch h
    · rename_i hlate
      have hlate : ¬now - t < interval := by simpa using hlate
      linarith [not_lt.mp hlate]

/-- Nothing waits once the pending payload is due. -/
theorem none_of_due {p : PendingOverrides} (hp : s.pending = some p) (hdue : p.dueAt ≤ now)
    (hlast : ∀ t ∈ s.lastSavedAt, t + interval ≤ p.dueAt) :
    overrideDueAt now (s.pending.map PendingOverrides.dueAt) s.lastSavedAt interval = none := by
  unfold overrideDueAt
  rw [hp, if_neg (by simpa using hdue), if_neg]
  cases hsaved : s.lastSavedAt with
  | none => simp
  | some t =>
    have := hlast t hsaved
    simp only [Option.any_some, decide_eq_true_eq, not_lt]
    linarith

/-! ## One call -/

section Calls

variable [PyRuntime] {configured : Option ℚ} {settings : OverrideSettings} {payload : Dict String String}
  {text : String}

theorem step_save (hpath : strip path ≠ "") (hcurrent : currentOverrides settings = .ok payload)
    (htext : overrideIniText payload = .ok text) (writes : Bool) :
    s.step path configured (.save settings now writes) =
      if s.serialized.any (sameItems payload) then { s with pending := none }
      else
        match overrideDueAt now (s.pending.map PendingOverrides.dueAt) s.lastSavedAt (writeMinInterval configured) with
        | some dueAt => s.stage payload text dueAt
        | none =>
          if writes then s.writePayload payload text now
          else s.stage payload text (now + writeMinInterval configured) := by
  unfold step
  dsimp only
  rw [save, if_neg hpath, hcurrent]
  show (match (if s.serialized.any (sameItems payload) then _ else _ : Except PyError OverrideStore) with
    | .ok s' => s'
    | .error _ => s) = _
  by_cases hsame : s.serialized.any (sameItems payload) = true
  · rw [if_pos hsame, if_pos hsame]
  · rw [if_neg hsame, if_neg hsame, htext]
    dsimp only [bind, Except.bind]
    cases overrideDueAt now (s.pending.map PendingOverrides.dueAt) s.lastSavedAt (writeMinInterval configured) with
    | some dueAt => rfl
    | none => cases writes <;> rfl

/-- A save whose settings cannot be rendered raises. -/
theorem step_save_error (hpath : strip path ≠ "") {error : PyError} (hcurrent : currentOverrides settings = .error error)
    (writes : Bool) : s.step path configured (.save settings now writes) = s := by
  unfold step
  dsimp only
  rw [save, if_neg hpath, hcurrent]
  rfl

theorem step_flush (hpath : strip path ≠ "") (writes : Bool) :
    s.step path configured (.flush now writes) =
      match s.pending with
      | none => s
      | some p =>
        if now < p.dueAt then s
        else if writes then s.writePayload p.values p.text now
        else s.stage p.values p.text (now + writeMinInterval configured) := by
  show s.flush path configured now writes = _
  rw [flush, if_neg hpath]
  rfl

omit [PyRuntime] in
/-- What is on the file need not be written. -/
theorem Coherent.readsBack_of_same (h : Coherent path interval now s) (hsame : s.serialized.any (sameItems payload) = true) :
    ReadsBack path s.file payload := by
  cases hserialized : s.serialized with
  | none =>
    rw [hserialized] at hsame
    nomatch hsame
  | some values =>
    rw [hserialized, Option.any_some, sameItems_iff] at hsame
    obtain ⟨found, hfound, hkeys⟩ := h.onFile values hserialized
    exact ⟨found, hfound, fun key => (hkeys key).trans (hsame key).symm⟩

/-- Every call keeps the invariant. -/
theorem Coherent.step (hfloat : FloatTextsPlain) (hpath : strip path ≠ "") (call : OverrideCall)
    (h : Coherent path (writeMinInterval configured) call.time s) :
    Coherent path (writeMinInterval configured) call.time (s.step path configured call) := by
  cases call with
  | save settings now writes =>
    cases hcurrent : currentOverrides settings with
    | error error => rwa [step_save_error hpath hcurrent]
    | ok payload =>
      have hrendered := rendered_currentOverrides hfloat hcurrent
      have htext := overrideIniText_of_rendered hrendered
      rw [step_save hpath hcurrent htext]
      split
      · exact h.cleared
      · split
        · rename_i dueAt hdueAt
          refine h.stage hrendered htext (due_of_some hdueAt ?_)
          intro due hdue
          obtain ⟨p, hp, rfl⟩ := Option.map_eq_some_iff.mp hdue
          exact h.due p hp
        · rename_i hfree
          split
          · exact h.writePayload hpath hrendered htext (free_of_none hfree)
          · exact h.stage hrendered htext fun t ht => by
              have : t ≤ now := h.saved t ht
              show t + _ ≤ now + _
              linarith
  | flush now writes =>
    rw [step_flush hpath]
    split
    · exact h
    · rename_i p hp
      obtain ⟨hrendered, htext⟩ := h.rendered p hp
      split
      · exact h
      · rename_i hdue
        split
        · refine h.writePayload hpath hrendered htext fun t ht => ?_
          exact (h.due p hp t ht).trans (not_lt.mp hdue)
        · exact h.stage hrendered htext fun t ht => by
            have : t ≤ now := h.saved t ht
            show t + _ ≤ now + _
            linarith

theorem Coherent.run (hfloat : FloatTextsPlain) (hpath : strip path ≠ "") {calls : List OverrideCall}
    (horder : calls.Pairwise fun a b => a.time ≤ b.time) (hcalls : ∀ call ∈ calls, now ≤ call.time)
    (h : Coherent path (writeMinInterval configured) now s) {later : ℚ} (hnow : now ≤ later)
    (hlater : ∀ call ∈ calls, call.time ≤ later) :
    Coherent path (writeMinInterval configured) later (Library.run (OverrideStore.step path configured) s calls) := by
  induction calls generalizing s now with
  | nil => exact h.later hnow
  | cons call calls ih =>
    obtain ⟨hfirst, horder⟩ := List.pairwise_cons.mp horder
    have hstep := (h.later (hcalls call List.mem_cons_self)).step hfloat hpath call
    rw [run_cons]
    exact ih horder hfirst hstep (hlater call List.mem_cons_self)
      fun other hother => hlater other (List.mem_cons_of_mem _ hother)

theorem Coherent.holds_save (hfloat : FloatTextsPlain) (hpath : strip path ≠ "")
    (h : Coherent path (writeMinInterval configured) now s) (hcurrent : currentOverrides settings = .ok payload)
    (writes : Bool) : (s.step path configured (.save settings now writes)).Holds path payload := by
  have hrendered := rendered_currentOverrides hfloat hcurrent
  have htext := overrideIniText_of_rendered hrendered
  rw [step_save hpath hcurrent htext]
  split
  · rename_i hsame
    exact .inr ⟨rfl, h.readsBack_of_same hsame⟩
  · split
    · exact .inl ⟨_, rfl, rfl⟩
    · split
      · exact .inr ⟨rfl, _, readRuntimeOverrideValues_text hpath hrendered htext, fun _ => rfl⟩
      · exact .inl ⟨_, rfl, rfl⟩

end Calls

/-- What a call does to what is pending, where `s` is the store before the call and `s'` the store after it. -/
structure WrittenBehind [PyRuntime] (path : String) (interval : ℚ) (s : OverrideStore) (call : OverrideCall)
    (s' : OverrideStore) : Prop where
  /-- After a save the file or the pending payload holds the settings. -/
  saved : ∀ settings now writes values, call = .save settings now writes → currentOverrides settings = .ok values →
    s'.Holds path values
  /-- A flush that is due writes the pending payload. -/
  flushed : ∀ now p, call = .flush now true → s.pending = some p → p.dueAt ≤ now →
    s'.written = s.written ++ [⟨now, p.values, p.text⟩] ∧ s'.pending = none ∧
      readRuntimeOverrideValues path s'.file = .ok p.values
  /-- A save that is due writes the settings as they are now, unless they are on the file. -/
  savedDue : ∀ settings now p values, call = .save settings now true → s.pending = some p → p.dueAt ≤ now →
    currentOverrides settings = .ok values →
      s'.pending = none ∧ ReadsBack path s'.file values ∧
        ((s'.written = s.written ∧ s'.file = s.file ∧ s.serialized.any (sameItems values) = true) ∨
          ∃ text, s'.written = s.written ++ [⟨now, values, text⟩])
  /-- A flush that is early or fails keeps the pending payload. -/
  kept : ∀ now writes p, call = .flush now writes → s.pending = some p → now < p.dueAt ∨ writes = false →
    (∃ dueAt, s'.pending = some ⟨p.values, p.text, dueAt⟩) ∧ s'.written = s.written ∧ s'.file = s.file
  /-- Writes are an interval apart. -/
  spaced : s'.written.Pairwise fun a b => a.time + interval ≤ b.time
  /-- A written file gives back the values that were rendered into it. -/
  readable : ∀ w ∈ s'.written, readRuntimeOverrideValues path (.content (utf8 w.text)) = .ok w.values

end OverrideStore

open OverrideStore

/-- Each call of a run does what `WrittenBehind` says. -/
theorem overrides_written_behind [PyRuntime] (hfloat : FloatTextsPlain) {path : String} (hpath : strip path ≠ "")
    (configured : Option ℚ) {start : OverrideStore} (hstart : start.Started path) {calls : List OverrideCall}
    {call : OverrideCall} (horder : (calls ++ [call]).Pairwise fun a b => a.time ≤ b.time) :
    WrittenBehind path (writeMinInterval configured) (run (OverrideStore.step path configured) start calls) call
      ((run (OverrideStore.step path configured) start calls).step path configured call) := by
  obtain ⟨horder, -, hlast⟩ := List.pairwise_append.mp horder
  have hlast : ∀ earlier ∈ calls, earlier.time ≤ call.time :=
    fun earlier hearlier => hlast earlier hearlier call List.mem_cons_self
  have hrun : Coherent path (writeMinInterval configured) call.time
      (run (OverrideStore.step path configured) start calls) := by
    cases calls with
    | nil => exact hstart.coherent _
    | cons first calls =>
      refine Coherent.run hfloat hpath horder ?_ (hstart.coherent first.time) ?_ hlast
      · intro other hother
        rcases List.mem_cons.mp hother with rfl | hother
        · exact le_refl _
        · exact (List.pairwise_cons.mp horder).1 other hother
      · exact hlast first List.mem_cons_self
  generalize run (OverrideStore.step path configured) start calls = s at hrun
  have hstep := hrun.step hfloat hpath call
  refine ⟨?_, ?_, ?_, ?_, hstep.spaced, hstep.readable⟩
  · rintro settings now writes values rfl hcurrent
    exact hrun.holds_save hfloat hpath hcurrent writes
  · rintro now p rfl hp hdue
    obtain ⟨hrendered, htext⟩ := hrun.rendered p hp
    rw [step_flush hpath, hp]
    dsimp only
    rw [if_neg (not_lt.mpr hdue), if_pos rfl]
    exact ⟨rfl, rfl, readRuntimeOverrideValues_text hpath hrendered htext⟩
  · rintro settings now p values rfl hp hdue hcurrent
    have hrendered := rendered_currentOverrides hfloat hcurrent
    have htext := overrideIniText_of_rendered hrendered
    rw [step_save hpath hcurrent htext, none_of_due hp hdue (hrun.due p hp)]
    split
    · rename_i hsame
      exact ⟨rfl, hrun.readsBack_of_same hsame, .inl ⟨rfl, rfl, hsame⟩⟩
    · refine ⟨rfl, ⟨_, readRuntimeOverrideValues_text hpath hrendered htext, fun _ => rfl⟩, .inr ⟨_, rfl⟩⟩
  · rintro now writes p rfl hp hkept
    rw [step_flush hpath, hp]
    dsimp only
    by_cases hearly : now < p.dueAt
    · rw [if_pos hearly]
      exact ⟨⟨p.dueAt, hp⟩, rfl, rfl⟩
    · rw [if_neg hearly, if_neg (by simpa [hearly] using hkept)]
      exact ⟨⟨_, rfl⟩, rfl, rfl⟩

/-! ## A run on a file that is missing at start -/

section Sample

local instance overrideSampleRuntime : PyRuntime := PyRuntime.withoutNumerals

theorem floatTextsPlain_sample : FloatTextsPlain := by
  intro q c hc
  have hc : c ∈ (toString q.num).toList ++ ['.', '0'] := by
    rw [← show ".0".toList = ['.', '0'] from rfl, ← String.toList_append]
    exact hc
  have hdigits : ∀ n : Nat, c ∈ (toString n).toList → c.isDigit = true := fun n hn =>
    Nat.isDigit_of_mem_toDigits (by decide) (by decide) (Nat.toList_repr (n := n) ▸ hn)
  have hnum : ∀ i : Int, c ∈ (toString i).toList → c.isDigit = true ∨ c ∈ ['+', '-', '.', 'e'] := by
    intro i hi
    cases i with
    | ofNat n => exact .inl (hdigits n hi)
    | negSucc n =>
      have hi : c ∈ '-' :: (toString (n + 1)).toList := by
        rw [← List.singleton_append, ← show "-".toList = ['-'] from rfl, ← String.toList_append]
        exact hi
      rcases List.mem_cons.mp hi with rfl | hi
      · exact .inr (by decide)
      · exact .inl (hdigits _ hi)
  rcases List.mem_append.mp hc with hc | hc
  · exact hnum _ hc
  · rcases List.mem_cons.mp hc with rfl | hc
    · exact .inr (by decide)
    · rw [List.mem_singleton.mp hc]
      exact .inl (by decide)

/-- Settings with this mode. -/
def settingsOfMode (mode : Int) : OverrideSettings := fun key => if key = "Mode" then .int mode else .null

/-- The store of a service that found no file. -/
def storeAtStart : OverrideStore := ⟨.missing, some Dict.empty, none, none, []⟩

theorem started_storeAtStart : storeAtStart.Started "overrides.ini" where
  serialized values hvalues := by
    obtain rfl := Option.some.inj hvalues
    decide +kernel
  lastSavedAt := rfl
  pending := rfl
  written := rfl

theorem overrides_written_behind_flush :
    WrittenBehind "overrides.ini" 1
      (run (OverrideStore.step "overrides.ini" none) storeAtStart
        [.save (settingsOfMode 0) 0 true, .save (settingsOfMode 1) (1 / 2) true])
      (.flush 2 true)
      ((run (OverrideStore.step "overrides.ini" none) storeAtStart
        [.save (settingsOfMode 0) 0 true, .save (settingsOfMode 1) (1 / 2) true]).step "overrides.ini" none (.flush 2 true)) :=
  overrides_written_behind floatTextsPlain_sample (by decide) none started_storeAtStart (by
    simp only [List.cons_append, List.nil_append, List.pairwise_cons, OverrideCall.time]
    norm_num)

/-- Mode 1 is pending and due at time 1, but the save at time 2 finds mode 0 again, which is on the file: mode 1 is never
written. Without a path nothing is written or pending. -/
theorem reverted_settings_left_unwritten :
    let s := run (OverrideStore.step "overrides.ini" none) storeAtStart
      [.save (settingsOfMode 0) 0 true, .save (settingsOfMode 1) (1 / 2) true]
    let s' := s.step "overrides.ini" none (.save (settingsOfMode 0) 2 true)
    s.pending.map (fun p => (p.values.get? "Mode", p.dueAt)) = some (some "1", 1) ∧
      s'.pending.isNone ∧ s'.written.map (fun w => w.values.get? "Mode") = [some "0"] ∧
      ((storeAtStart.step "" none (.save (settingsOfMode 0) 0 true)).pending.isNone ∧
        (storeAtStart.step "" none (.save (settingsOfMode 0) 0 true)).written.length = 0) := by
  decide +kernel

end Sample

end VenusEvcharger.State
