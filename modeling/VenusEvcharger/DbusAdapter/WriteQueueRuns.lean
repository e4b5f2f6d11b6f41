import VenusEvcharger.DbusAdapter.WriteQueue
import VenusEvcharger.Ipc.FastPublicationEffects

/-!
# Every dispatch is finalised once

A dispatch is finalised by the first outcome that is reported for it and by no other. A file leaves
the mailbox only through a removal of a finalised dispatch, and only at the generation that the
dispatch was loaded with, so a newer generation stays and is listed again.
-/

namespace VenusEvcharger

open Library

namespace Dispatch

/-- The stages of a dispatch: running, with a buffered outcome, waiting, and finalised. -/
def Consistent (dispatch : Dispatch) : Prop :=
  match dispatch.returned, dispatch.phase with
  | false, .dispatching => dispatch.completedDuringDispatch = [] ∧ dispatch.finalized = []
  | false, .closed => dispatch.completedDuringDispatch.length = 1 ∧ dispatch.finalized = []
  | true, .waiting => dispatch.finalized = []
  | true, .closed => dispatch.finalized.length = 1
  | false, .waiting | true, .dispatching => False

theorem Consistent.length_finalized_le {dispatch : Dispatch} (h : dispatch.Consistent) :
    dispatch.finalized.length ≤ 1 := by
  rw [Consistent] at h
  split at h
  · simp [h.2]
  · simp [h.2]
  · simp [h]
  · exact h.le
  · exact h.elim
  · exact h.elim

/-- The later state of a dispatch. -/
structure Extends (dispatch later : Dispatch) : Prop where
  loaded : later.loaded = dispatch.loaded
  pending : later.pending = dispatch.pending
  effective : later.effective = dispatch.effective
  finalized : dispatch.finalized ⊆ later.finalized

theorem Extends.refl (dispatch : Dispatch) : dispatch.Extends dispatch :=
  ⟨rfl, rfl, rfl, List.Subset.refl _⟩

variable [PyLib]

/-- What a dispatch works with was loaded from the mailbox. -/
structure WellFormed (loaded : List LoadedCommand) (dispatch : Dispatch) : Prop where
  loaded_mem : dispatch.loaded ∈ loaded
  pending_mem : dispatch.pending ⊆ loaded
  effective_reads : ∀ key, key ≠ "fields" → key ≠ "transport_field_orders" →
    dispatch.effective.get? key = dispatch.loaded.command.get? key
  consistent : dispatch.Consistent

/-- The files that a dispatch retires: its own, and those listed under its coalesce key. -/
def Retires (dispatch : Dispatch) (loaded : LoadedCommand) : Prop :=
  loaded = dispatch.loaded ∨ (loaded ∈ dispatch.pending ∧ loaded.path ≠ dispatch.loaded.path ∧
    commandText dispatch.loaded.command "coalesce_key" ≠ "" ∧
    commandText loaded.command "coalesce_key" = commandText dispatch.loaded.command "coalesce_key")

end Dispatch

section

variable [PyLib]

/-! ## Selection -/

theorem selectCoalescedCommand_cases (held : Option LoadedCommand) (candidate : LoadedCommand) :
    selectCoalescedCommand held candidate = candidate ∨
      held = some (selectCoalescedCommand held candidate) := by
  cases held with
  | none => exact .inl rfl
  | some existing =>
    simp only [selectCoalescedCommand]
    split_ifs
    · exact .inl rfl
    · exact .inr rfl

/-- A pass of `coalesce` selects from the commands it has seen. -/
theorem mem_coalesceOne (candidate : LoadedCommand)
    {selection : List LoadedCommand × Dict String LoadedCommand} {seen : List LoadedCommand}
    (hpassed : selection.1 ⊆ seen)
    (hselected : ∀ key held, selection.2.get? key = some held → held ∈ seen) :
    (coalesceOne selection candidate).1 ⊆ candidate :: seen ∧
      ∀ key held, (coalesceOne selection candidate).2.get? key = some held →
        held ∈ candidate :: seen := by
  rw [coalesceOne]
  split_ifs
  · refine ⟨fun held hheld => ?_, fun key held hheld => List.mem_cons_of_mem _ (hselected key held hheld)⟩
    rcases List.mem_append.mp hheld with hold | hnew
    · exact List.mem_cons_of_mem _ (hpassed hold)
    · rw [List.mem_singleton.mp hnew]
      exact List.mem_cons_self
  · refine ⟨fun held hheld => List.mem_cons_of_mem _ (hpassed hheld), fun key held hheld => ?_⟩
    rw [Dict.get?_set] at hheld
    split_ifs at hheld
    · obtain rfl := Option.some.inj hheld
      rcases selectCoalescedCommand_cases (selection.2.get? (commandText candidate.command
        "coalesce_key")) candidate with hnew | hkept
      · rw [hnew]
        exact List.mem_cons_self
      · exact List.mem_cons_of_mem _ (hselected _ _ hkept)
    · exact List.mem_cons_of_mem _ (hselected key held hheld)

theorem coalesce_subset (commands : List LoadedCommand) : coalesce commands ⊆ commands := by
  have hfold : ∀ (rest seen : List LoadedCommand)
      (selection : List LoadedCommand × Dict String LoadedCommand), selection.1 ⊆ seen →
      (∀ key held, selection.2.get? key = some held → held ∈ seen) →
      (rest.foldl coalesceOne selection).1 ⊆ rest.reverse ++ seen ∧
        ∀ key held, (rest.foldl coalesceOne selection).2.get? key = some held →
          held ∈ rest.reverse ++ seen := by
    intro rest
    induction rest with
    | nil => exact fun _ _ hpassed hselected => ⟨hpassed, hselected⟩
    | cons candidate rest ih =>
      intro seen selection hpassed hselected
      obtain ⟨hpassed, hselected⟩ := mem_coalesceOne candidate hpassed hselected
      rw [List.foldl_cons, List.reverse_cons, List.append_assoc]
      exact ih (candidate :: seen) _ hpassed hselected
  obtain ⟨hpassed, hselected⟩ := hfold commands [] ([], Dict.empty) (List.Subset.refl _) (by simp)
  rw [List.append_nil] at hpassed hselected
  intro held hheld
  rw [coalesce, List.mem_append, List.mem_map] at hheld
  rcases hheld with hheld | ⟨entry, hentry, rfl⟩
  · exact List.mem_reverse.mp (hpassed hheld)
  · exact List.mem_reverse.mp (hselected entry.1 entry.2 (Dict.mem_entries_iff.mp hentry))

/-- What `coalesce` holds under a key was selected from the commands of that key. -/
theorem get?_foldl_coalesceOne (commands : List LoadedCommand)
    (selection : List LoadedCommand × Dict String LoadedCommand) {key : String} (hkey : key ≠ "") :
    (commands.foldl coalesceOne selection).2.get? key =
      (commands.filter fun listed => decide (commandText listed.command "coalesce_key" = key)).foldl
        (fun held candidate => some (selectCoalescedCommand held candidate))
        (selection.2.get? key) := by
  induction commands generalizing selection with
  | nil => rfl
  | cons candidate commands ih =>
    rw [List.foldl_cons, ih, coalesceOne]
    by_cases hsame : commandText candidate.command "coalesce_key" = key
    · rw [List.filter_cons_of_pos (by simpa using hsame), List.foldl_cons, hsame, if_neg hkey]
      simp only [Dict.get?_set_self]
    · rw [List.filter_cons_of_neg (by simpa using hsame)]
      split_ifs
      · rfl
      · simp only [Dict.get?_set_ne _ _ (Ne.symm hsame)]

/-- Commands without a key pass through `coalesce`. -/
theorem mem_foldl_coalesceOne_of_keyless (commands : List LoadedCommand)
    (selection : List LoadedCommand × Dict String LoadedCommand) {listed : LoadedCommand}
    (hkey : commandText listed.command "coalesce_key" = "")
    (hmem : listed ∈ commands ∨ listed ∈ selection.1) :
    listed ∈ (commands.foldl coalesceOne selection).1 := by
  induction commands generalizing selection with
  | nil => exact hmem.resolve_left List.not_mem_nil
  | cons candidate commands ih =>
    refine ih _ ?_
    rw [coalesceOne]
    rcases hmem with hmem | hmem
    · rcases List.mem_cons.mp hmem with rfl | hmem
      · rw [if_pos hkey]
        exact .inr (List.mem_append_right _ (List.mem_singleton_self _))
      · exact .inl hmem
    · right
      split_ifs
      · exact List.mem_append_left _ hmem
      · exact hmem

variable {commands : List LoadedCommand}

theorem mem_coalesce {listed : LoadedCommand} (hmem : listed ∈ commands)
    (halone : ∀ other ∈ commands, commandText other.command "coalesce_key" =
      commandText listed.command "coalesce_key" → other = listed) : listed ∈ coalesce commands := by
  rw [coalesce, List.mem_append, List.mem_map]
  by_cases hkey : commandText listed.command "coalesce_key" = ""
  · exact .inl (mem_foldl_coalesceOne_of_keyless commands _ hkey (.inl hmem))
  · refine .inr ⟨(commandText listed.command "coalesce_key", listed), ?_, rfl⟩
    rw [Dict.mem_entries_iff, get?_foldl_coalesceOne commands _ hkey, Dict.get?_empty]
    -- all commands of the key are this one
    have hsame : ∀ other ∈ commands.filter (fun other => decide (commandText other.command
        "coalesce_key" = commandText listed.command "coalesce_key")), other = listed := by
      intro other hother
      obtain ⟨hother, htext⟩ := List.mem_filter.mp hother
      exact halone other hother (of_decide_eq_true htext)
    have hfold : ∀ (rest : List LoadedCommand) (held : Option LoadedCommand),
        (∀ other ∈ rest, other = listed) → (∀ other ∈ held, other = listed) →
        (rest ≠ [] ∨ held = some listed) →
        rest.foldl (fun held candidate => some (selectCoalescedCommand held candidate)) held =
          some listed := by
      intro rest
      induction rest with
      | nil => exact fun held _ _ hsome => hsome.resolve_left (by simp)
      | cons candidate rest ih =>
        intro held hrest hheld _
        obtain rfl : candidate = listed := hrest candidate List.mem_cons_self
        have hselect : selectCoalescedCommand held candidate = candidate :=
          (selectCoalescedCommand_cases held candidate).elim id (hheld _)
        rw [List.foldl_cons, hselect]
        refine ih _ (fun other hother => hrest other (List.mem_cons_of_mem _ hother)) ?_ (.inr rfl)
        rintro other hother
        exact (Option.some.inj hother).symm
    refine hfold _ none hsame (by simp) (.inl fun hempty => ?_)
    have hlisted : listed ∈ commands.filter (fun other => decide (commandText other.command
        "coalesce_key" = commandText listed.command "coalesce_key")) :=
      List.mem_filter.mpr ⟨hmem, by simp⟩
    rw [hempty] at hlisted
    exact List.not_mem_nil hlisted

/-- What `coalesce` passes through are the commands without a key. -/
theorem foldl_coalesceOne_keyless (commands : List LoadedCommand)
    (selection : List LoadedCommand × Dict String LoadedCommand) :
    (commands.foldl coalesceOne selection).1 =
      selection.1 ++ commands.filter fun listed => decide (commandText listed.command "coalesce_key" = "") := by
  induction commands generalizing selection with
  | nil => exact (List.append_nil _).symm
  | cons candidate commands ih =>
    rw [List.foldl_cons, ih, coalesceOne]
    by_cases hkey : commandText candidate.command "coalesce_key" = ""
    · rw [if_pos hkey, List.filter_cons_of_pos (by simpa using hkey), List.append_assoc]
      rfl
    · rw [if_neg hkey, List.filter_cons_of_neg (by simpa using hkey)]

/-- A command is selected under its own key. -/
theorem key_of_get?_foldl_coalesceOne {key : String} {held : LoadedCommand}
    (h : (commands.foldl coalesceOne ([], Dict.empty)).2.get? key = some held) :
    commandText held.command "coalesce_key" = key ∧ key ≠ "" := by
  have hfold : ∀ (rest : List LoadedCommand) (selection : List LoadedCommand × Dict String LoadedCommand),
      (∀ key held, selection.2.get? key = some held → commandText held.command "coalesce_key" = key ∧ key ≠ "") →
      ∀ key held, (rest.foldl coalesceOne selection).2.get? key = some held →
        commandText held.command "coalesce_key" = key ∧ key ≠ "" := by
    intro rest
    induction rest with
    | nil => exact fun _ hselection => hselection
    | cons candidate rest ih =>
      intro selection hselection
      refine ih _ fun key held hheld => ?_
      rw [coalesceOne] at hheld
      split at hheld
      · exact hselection key held hheld
      · rename_i hkey
        rw [Dict.get?_set] at hheld
        split at hheld
        · rename_i hsame
          rw [hsame]
          rcases selectCoalescedCommand_cases (selection.2.get? (commandText candidate.command
            "coalesce_key")) candidate with hnew | hkept
          · rw [← Option.some.inj hheld, hnew]
            exact ⟨rfl, hkey⟩
          · rw [Option.some.inj hheld] at hkept
            exact hselection _ _ hkept
        · exact hselection key held hheld
  exact hfold commands _ (by simp) key held h

/-- Commands of distinct paths stay so when they are coalesced. -/
theorem nodup_paths_coalesce (h : (commands.map (·.path)).Nodup) :
    ((coalesce commands).map (·.path)).Nodup := by
  have hpath : ∀ a ∈ coalesce commands, ∀ b ∈ coalesce commands, a.path = b.path → a = b := fun a ha b hb =>
    List.inj_on_of_nodup_map h (coalesce_subset commands ha) (coalesce_subset commands hb)
  refine List.Nodup.map_on hpath ?_
  rw [coalesce]
  have hheld : ∀ e ∈ (commands.foldl coalesceOne ([], Dict.empty)).2.entries,
      commandText e.2.command "coalesce_key" = e.1 ∧ e.1 ≠ "" :=
    fun e he => key_of_get?_foldl_coalesceOne (Dict.mem_entries_iff.mp he)
  refine List.Nodup.append ?_ ?_ ?_
  · rw [foldl_coalesceOne_keyless]
    exact (List.Nodup.of_map _ h).filter _
  · refine List.Nodup.map_on (fun a ha b hb hab => ?_) (List.Nodup.of_map _ (Dict.nodup _))
    have hkey : a.1 = b.1 := by rw [← (hheld a ha).1, hab, (hheld b hb).1]
    exact Prod.ext hkey hab
  · intro listed hpassed hselected
    rw [foldl_coalesceOne_keyless] at hpassed
    obtain ⟨e, he, rfl⟩ := List.mem_map.mp hselected
    have hkeyless := of_decide_eq_true (List.mem_filter.mp hpassed).2
    rw [(hheld e he).1] at hkeyless
    exact (hheld e he).2 hkeyless

namespace WriteQueueRun

/-! ## The invariant -/

/-- A removal retires what a dispatch that ended applied or dropped was loaded with. -/
def Justified (s : WriteQueueRun) (removal : PendingRemoval) : Prop :=
  removal.loaded ∈ s.mailbox.loaded ∧
    removal.expected.get? mailboxRevisionField = removal.loaded.command.get? mailboxRevisionField ∧
    ∃ dispatch, s.dispatches[removal.dispatch]? = some dispatch ∧
      (.applied ∈ dispatch.finalized ∨ .dropped ∈ dispatch.finalized) ∧
      dispatch.Retires removal.loaded

/-- Everything the queue works with was loaded, and its mailbox guards newer generations. -/
structure Inv (s : WriteQueueRun) : Prop where
  guarded : s.mailbox.Guarded
  before : s.mailbox.LoadedBefore
  snapshot : ∀ commands, s.snapshot = some commands → commands ⊆ s.mailbox.loaded
  commands : s.commands ⊆ s.mailbox.loaded
  dispatches : ∀ dispatch ∈ s.dispatches, dispatch.WellFormed s.mailbox.loaded
  removals : ∀ removal ∈ s.removals, s.Justified removal

theorem inv_start (files : MailboxFiles) (publications : FastPublicationQueue) :
    (start files publications).Inv where
  guarded := MailboxRun.guarded_start files
  before := fun _ hmem => absurd hmem List.not_mem_nil
  snapshot := by simp [start]
  commands := List.nil_subset _
  dispatches := fun _ hmem => absurd hmem List.not_mem_nil
  removals := fun _ hmem => absurd hmem List.not_mem_nil

variable {s : WriteQueueRun}

theorem Inv.of_mailbox {mailbox : MailboxRun} (h : s.Inv) (hguarded : mailbox.Guarded)
    (hbefore : mailbox.LoadedBefore) (hloaded : s.mailbox.loaded ⊆ mailbox.loaded) :
    Inv { s with mailbox := mailbox } where
  guarded := hguarded
  before := hbefore
  snapshot := fun commands hcommands => List.Subset.trans (h.snapshot commands hcommands) hloaded
  commands := List.Subset.trans h.commands hloaded
  dispatches := fun dispatch hmem =>
    { h.dispatches dispatch hmem with
      loaded_mem := hloaded (h.dispatches dispatch hmem).loaded_mem
      pending_mem := List.Subset.trans (h.dispatches dispatch hmem).pending_mem hloaded }
  removals := fun removal hmem =>
    ⟨hloaded (h.removals removal hmem).1, (h.removals removal hmem).2⟩

variable {dispatch : Dispatch}

theorem Inv.modify {index : Nat} {f : Dispatch → Dispatch} (h : s.Inv)
    (hget : s.dispatches[index]? = some dispatch) (hwf : (f dispatch).WellFormed s.mailbox.loaded)
    (hextends : dispatch.Extends (f dispatch)) :
    Inv { s with dispatches := s.dispatches.modify index f } where
  guarded := h.guarded
  before := h.before
  snapshot := h.snapshot
  commands := h.commands
  dispatches := by
    intro other hmem
    obtain ⟨place, hplace⟩ := List.mem_iff_getElem?.mp hmem
    by_cases hsame : index = place
    · subst hsame
      rw [List.getElem?_modify_eq, hget] at hplace
      exact Option.some.inj hplace ▸ hwf
    · rw [List.getElem?_modify_ne _ _ hsame] at hplace
      exact h.dispatches other (List.mem_iff_getElem?.mpr ⟨place, hplace⟩)
  removals := by
    intro removal hmem
    obtain ⟨hloaded, hexpected, other, hother, hended, hretires⟩ := h.removals removal hmem
    refine ⟨hloaded, hexpected, ?_⟩
    by_cases hsame : index = removal.dispatch
    · subst hsame
      obtain rfl := Option.some.inj (hget.symm.trans hother)
      refine ⟨f dispatch, by rw [List.getElem?_modify_eq, hget]; rfl, ?_, ?_⟩
      · exact hended.imp (hextends.finalized ·) (hextends.finalized ·)
      · rwa [Dispatch.Retires, hextends.loaded, hextends.pending]
    · exact ⟨other, by rwa [List.getElem?_modify_ne _ _ hsame], hended, hretires⟩

/-- A new dispatch takes the last place. -/
theorem Inv.append (h : s.Inv) (hwf : dispatch.WellFormed s.mailbox.loaded) :
    Inv { s with dispatches := s.dispatches ++ [dispatch] } where
  guarded := h.guarded
  before := h.before
  snapshot := h.snapshot
  commands := h.commands
  dispatches := by
    intro other hmem
    rcases List.mem_append.mp hmem with hold | hnew
    · exact h.dispatches other hold
    · exact List.mem_singleton.mp hnew ▸ hwf
  removals := by
    intro removal hmem
    obtain ⟨hloaded, hexpected, other, hother, hended⟩ := h.removals removal hmem
    exact ⟨hloaded, hexpected, other, List.getElem?_append_left (List.getElem?_eq_some_iff.mp hother).1
      ▸ hother, hended⟩

theorem justified_resultRemovals {index : Nat} {later : Dispatch}
    (hget : s.dispatches[index]? = some later) (hextends : dispatch.Extends later)
    (hwf : dispatch.WellFormed s.mailbox.loaded)
    (hended : .applied ∈ later.finalized ∨ .dropped ∈ later.finalized) :
    ∀ removal ∈ resultRemovals index dispatch, s.Justified removal := by
  intro removal hmem
  have hkey : commandText dispatch.effective "coalesce_key" =
      commandText dispatch.loaded.command "coalesce_key" := by
    rw [commandText, hwf.effective_reads _ (by decide) (by decide), commandText]
  rw [resultRemovals, hkey] at hmem
  rcases List.mem_cons.mp hmem with rfl | hstale
  · refine ⟨hwf.loaded_mem, hwf.effective_reads _ (by decide) (by decide), later, hget, hended, ?_⟩
    exact .inl hextends.loaded.symm
  · obtain ⟨listed, hlisted, rfl⟩ := List.mem_map.mp hstale
    split_ifs at hlisted with hempty
    · exact absurd hlisted List.not_mem_nil
    · obtain ⟨hpending, hstale⟩ := List.mem_filter.mp hlisted
      obtain ⟨hpath, htext⟩ := Bool.and_eq_true_iff.mp hstale
      refine ⟨hwf.pending_mem hpending, rfl, later, hget, hended, .inr ⟨?_, ?_, ?_, ?_⟩⟩
      · exact hextends.pending ▸ hpending
      · exact hextends.loaded ▸ of_decide_eq_true hpath
      · exact hextends.loaded ▸ hempty
      · rw [hextends.loaded]
        cases hvalue : listed.command.get? "coalesce_key" with
        | none => simp [hvalue] at htext
        | some value =>
          simp only [hvalue, Bool.and_eq_true, decide_eq_true_eq] at htext
          rw [commandText, hvalue, orText, if_pos htext.1, htext.2]

theorem Inv.with_removals (h : s.Inv) {removals : List PendingRemoval}
    (hjustified : ∀ removal ∈ removals, s.Justified removal) (publications : FastPublicationQueue) :
    Inv { s with
      publications := publications
      removals := removals } :=
  { h with removals := hjustified }

/-! ## One step -/

/-- The new revisions of a call were never loaded before. -/
def FreshRevision (s : WriteQueueRun) : Event → Prop
  | .enqueue call => s.mailbox.FreshRevision (.enqueue call.normalized)
  | _ => True

instance decidableFreshRevision (s : WriteQueueRun) : ∀ e, Decidable (s.FreshRevision e)
  | .enqueue call => inferInstanceAs (Decidable (s.mailbox.FreshRevision (.enqueue call.normalized)))
  | .beginTick _ | .endTick | .takeCommands _ | .process _ _ | .complete _ _ _ | .returned _ _ _
  | .removePending | .rewrite _ _ => isTrue trivial

theorem Inv.load (h : s.Inv) (quarantined : List String) :
    (s.load quarantined).Inv ∧ s.listed quarantined ⊆ (s.load quarantined).mailbox.loaded :=
  ⟨h.of_mailbox (MailboxRun.guarded_step h.guarded (.loadPending quarantined) trivial)
      (MailboxRun.loadedBefore_step h.before (.loadPending quarantined))
      (List.subset_append_right _ _),
    List.subset_append_left _ _⟩

/-- The end of a dispatch that was not finalised yet. -/
theorem Inv.finalize {index : Nat} {f : Dispatch → Dispatch} (h : s.Inv)
    (hget : s.dispatches[index]? = some dispatch) (hextends : dispatch.Extends (f dispatch))
    (hreturned : (f dispatch).returned = true) (hclosed : (f dispatch).phase = .closed)
    (hfirst : (f dispatch).finalized = []) (outcome : CommandOutcome) (clock : WriteQueueClock) :
    Inv (finalizeLoadedCommand { s with dispatches := s.dispatches.modify index f } index dispatch
      outcome clock) := by
  have hwf := h.dispatches dispatch (List.mem_iff_getElem?.mpr ⟨index, hget⟩)
  set g : Dispatch → Dispatch := fun dispatch =>
    { dispatch with finalized := dispatch.finalized ++ [outcome] } with hg
  have hlater : ((g ∘ f) dispatch).finalized = [outcome] := by
    simp [hg, hfirst]
  have hwfLater : ((g ∘ f) dispatch).WellFormed s.mailbox.loaded :=
    { loaded_mem := hextends.loaded ▸ hwf.loaded_mem
      pending_mem := hextends.pending ▸ hwf.pending_mem
      effective_reads := hextends.effective ▸ hextends.loaded ▸ hwf.effective_reads
      consistent := by
        rw [Dispatch.Consistent]
        simp [hg, hreturned, hclosed, hfirst] }
  have hextendsLater : dispatch.Extends ((g ∘ f) dispatch) :=
    ⟨hextends.loaded, hextends.pending, hextends.effective,
      fun _ hmem => List.mem_append_left _ (hextends.finalized hmem)⟩
  have hmodified := h.modify hget hwfLater hextendsLater
  rw [finalizeLoadedCommand]
  simp only [List.modify_modify_eq]
  refine hmodified.with_removals (fun removal hmem => ?_) _
  rcases List.mem_append.mp hmem with hold | hnew
  · exact hmodified.removals removal hold
  · split_ifs at hnew with hdeferred
    · exact absurd hnew List.not_mem_nil
    · have hgetLater : (s.dispatches.modify index (g ∘ f))[index]? = some ((g ∘ f) dispatch) := by
        rw [List.getElem?_modify_eq, hget]
        rfl
      refine justified_resultRemovals (s := { s with dispatches := s.dispatches.modify index (g ∘ f) })
        hgetLater hextendsLater hwf ?_ removal hnew
      rw [hlater]
      cases outcome with
      | applied => exact .inl (List.mem_singleton_self _)
      | dropped => exact .inr (List.mem_singleton_self _)
      | deferred => exact absurd rfl hdeferred

theorem Inv.complete (h : s.Inv) (index : Nat) (outcome : CommandOutcome) (clock : WriteQueueClock) :
    (s.complete index outcome clock).Inv := by
  rw [WriteQueueRun.complete]
  cases hget : s.dispatches[index]? with
  | none => exact h
  | some dispatch =>
    have hwf := h.dispatches dispatch (List.mem_iff_getElem?.mpr ⟨index, hget⟩)
    have hconsistent := hwf.consistent
    rw [Dispatch.Consistent] at hconsistent
    cases hphase : dispatch.phase with
    | closed => simpa [completionAction, hphase] using h
    | waiting =>
      simp only [completionAction, hphase]
      cases hreturned : dispatch.returned with
      | false => simp [hreturned, hphase] at hconsistent
      | true =>
        rw [hreturned, hphase] at hconsistent
        exact h.finalize hget ⟨rfl, rfl, rfl, List.Subset.refl _⟩ hreturned rfl hconsistent
          outcome clock
    | dispatching =>
      simp only [completionAction, hphase]
      cases hreturned : dispatch.returned with
      | true => simp [hreturned, hphase] at hconsistent
      | false =>
        rw [hreturned, hphase] at hconsistent
        refine h.modify hget { hwf with consistent := ?_ } ⟨rfl, rfl, rfl, List.Subset.refl _⟩
        rw [Dispatch.Consistent]
        simp [hreturned, hconsistent.1, hconsistent.2]

theorem Inv.dispatcherReturned (h : s.Inv) (index : Nat) (execution : CommandExecution)
    (clock : WriteQueueClock) : (s.dispatcherReturned index execution clock).Inv := by
  rw [WriteQueueRun.dispatcherReturned]
  cases hget : s.dispatches[index]? with
  | none => exact h
  | some dispatch =>
    have hwf := h.dispatches dispatch (List.mem_iff_getElem?.mpr ⟨index, hget⟩)
    have hconsistent := hwf.consistent
    rw [Dispatch.Consistent] at hconsistent
    cases hreturned : dispatch.returned with
    | true => simpa [hreturned] using h
    | false =>
      simp only [hreturned, Bool.false_eq_true, if_false]
      cases hphase : dispatch.phase with
      | waiting => simp [hreturned, hphase] at hconsistent
      | closed =>
        rw [hreturned, hphase] at hconsistent
        obtain ⟨outcome, hbuffered⟩ := List.length_eq_one_iff.mp hconsistent.1
        simp only [hbuffered]
        exact h.finalize hget ⟨rfl, rfl, rfl, List.Subset.refl _⟩ rfl hphase hconsistent.2
          outcome clock
      | dispatching =>
        rw [hreturned, hphase] at hconsistent
        simp only [hconsistent.1]
        split_ifs
        · refine h.modify hget { hwf with consistent := ?_ } ⟨rfl, rfl, rfl, List.Subset.refl _⟩
          rw [Dispatch.Consistent]
          exact hconsistent.2
        · exact h.finalize hget ⟨rfl, rfl, rfl, List.Subset.refl _⟩ rfl rfl hconsistent.2
            execution.outcome clock

variable {loaded : LoadedCommand}

theorem Inv.dropLoadedCommand (h : s.Inv) (hloaded : loaded ∈ s.commands) :
    (s.dropLoadedCommand loaded).Inv := by
  rw [WriteQueueRun.dropLoadedCommand]
  set dispatch : Dispatch :=
    { loaded := loaded
      effective := loaded.command
      pending := s.commands
      phase := .closed
      completedDuringDispatch := []
      returned := true
      finalized := [.dropped] } with hdispatch
  have hwf : dispatch.WellFormed s.mailbox.loaded :=
    { loaded_mem := h.commands hloaded
      pending_mem := h.commands
      effective_reads := fun _ _ _ => rfl
      consistent := rfl }
  have happended := h.append hwf
  have hget : (s.dispatches ++ [dispatch])[s.dispatches.length]? = some dispatch :=
    List.getElem?_concat_length
  refine happended.with_removals (fun removal hmem => ?_) s.publications
  rcases List.mem_append.mp hmem with hold | hnew
  · exact happended.removals removal hold
  · exact justified_resultRemovals (s := { s with dispatches := s.dispatches ++ [dispatch] }) hget
      (Dispatch.Extends.refl dispatch) hwf (.inr (List.mem_singleton_self _)) removal hnew

theorem Inv.dispatchLoadedCommand (h : s.Inv) (hloaded : loaded ∈ s.commands)
    {effective : CommandPayload} (hreads : ∀ key, key ≠ "fields" → key ≠ "transport_field_orders" →
      effective.get? key = loaded.command.get? key) :
    (s.dispatchLoadedCommand loaded effective).Inv :=
  h.append
    { loaded_mem := h.commands hloaded
      pending_mem := h.commands
      effective_reads := hreads
      consistent := ⟨rfl, rfl⟩ }

theorem Inv.processLoadedCommand (h : s.Inv)
    (hloaded : loaded ∈ s.commands) (clock : WriteQueueClock) :
    (s.processLoadedCommand loaded clock).Inv := by
  rw [WriteQueueRun.processLoadedCommand]
  split_ifs
  · exact h.dropLoadedCommand hloaded
  · exact h.dispatchLoadedCommand hloaded fun _ _ _ => rfl
  · have hpublications : ∀ publications : FastPublicationQueue,
        Inv { s with publications := publications } :=
      h.with_removals h.removals
    cases hprepared : s.publications.prepareDurable loaded.command clock.pruneNow clock.claimNow with
    | mk prepared publications =>
      cases prepared with
      | error reason => exact hpublications publications
      | ok prepared =>
        cases prepared with
        | none => exact (hpublications publications).dropLoadedCommand hloaded
        | some effective =>
          refine (hpublications publications).dispatchLoadedCommand hloaded ?_
          intro key hfields horders
          exact get?_filter_of_ne (FastPublicationQueue.prepareDurable_fst
            (congrArg Prod.fst hprepared)) hfields horders

theorem Inv.removePending (h : s.Inv) : s.removePending.Inv := by
  rw [WriteQueueRun.removePending]
  split
  · exact h
  · next removal removals hremovals =>
    have hmailbox := h.of_mailbox (MailboxRun.guarded_removeIfCurrent h.guarded removal.loaded.path
      removal.expected) h.before (List.Subset.refl _)
    refine { hmailbox with snapshot := ?_, removals := ?_ }
    · intro commands hcommands
      obtain ⟨before, hbefore, rfl⟩ := Option.map_eq_some_iff.mp hcommands
      exact List.Subset.trans (List.filter_subset_self _) (h.snapshot before hbefore)
    · intro other hmem
      exact h.removals other (hremovals ▸ List.mem_cons_of_mem _ hmem)

section

variable (s : WriteQueueRun) (e : Event)

/-- Every move keeps the invariant. -/
theorem inv_step (h : s.Inv) (hfresh : s.FreshRevision e) :
    (s.step e).Inv := by
  cases e with
  | enqueue call =>
    rw [step, enqueue]
    split
    · exact h
    · have hcall : s.mailbox.FreshRevision (.enqueue call.normalized) := hfresh
      have hguarded : (s.mailbox.step gatewayCommandQueuePolicy
          (.enqueue call.normalized)).Guarded := MailboxRun.guarded_step h.guarded _ hcall
      have hbefore : (s.mailbox.step gatewayCommandQueuePolicy
          (.enqueue call.normalized)).LoadedBefore := MailboxRun.loadedBefore_step h.before _
      refine h.of_mailbox hguarded hbefore ?_
      rw [MailboxRun.loaded_step_enqueue]
      exact List.Subset.refl _
  | beginTick quarantined =>
    obtain ⟨hload, hlisted⟩ := h.load quarantined
    refine { hload with snapshot := ?_ }
    rintro commands hcommands
    exact Option.some.inj hcommands ▸ hlisted
  | endTick => exact { h with snapshot := by simp [step, endTick] }
  | takeCommands quarantined =>
    rw [step, takeCommands]
    split
    · next commands hsnapshot => exact { h with commands := h.snapshot commands hsnapshot }
    · obtain ⟨hload, hlisted⟩ := h.load quarantined
      exact { hload with commands := hlisted }
  | process loaded clock =>
    rw [step]
    split_ifs with hmem
    · exact h.processLoadedCommand (coalesce_subset s.commands hmem) clock
    · exact h
  | complete index outcome clock => exact h.complete index outcome clock
  | returned index execution clock => exact h.dispatcherReturned index execution clock
  | removePending => exact h.removePending
  | rewrite index replacement =>
    rw [step, rewrite]
    split
    · exact h
    · next dispatch hget =>
      exact h.of_mailbox (MailboxRun.guarded_replaceIfCurrent h.guarded dispatch.loaded.path
        dispatch.effective replacement) h.before (List.Subset.refl _)

/-! ## Which files change -/

/-- A call wrote the file. -/
def Stored (path : String) : Prop :=
  ∃ call, e = .enqueue call ∧
    s.mailbox.Stored gatewayCommandQueuePolicy (.enqueue call.normalized) path

/-- The executor of the present generation rewrote its command. -/
def Rewritten (path : String) : Prop :=
  ∃ index replacement dispatch, e = .rewrite index replacement ∧
    s.dispatches[index]? = some dispatch ∧ dispatch.loaded.path = path ∧
    dispatch.loaded.generation = s.mailbox.generation path

/-- The present generation is retired by a dispatch that ended applied or dropped. -/
def Retired (path : String) : Prop :=
  e = .removePending ∧ ∃ loaded dispatch, loaded.path = path ∧
    loaded.generation = s.mailbox.generation path ∧ dispatch ∈ s.dispatches ∧
    (.applied ∈ dispatch.finalized ∨ .dropped ∈ dispatch.finalized) ∧ dispatch.Retires loaded

/-- A file changes only when it is written, or by a dispatch of the generation it holds. -/
def KeepsGenerations : Prop :=
  ∀ path, (s.step e).mailbox.files.get? path ≠ s.mailbox.files.get? path →
    s.Stored e path ∨ s.Rewritten e path ∨ s.Retired e path

end

section

variable (s : WriteQueueRun)

/-- Finalising touches no file. -/
theorem mailbox_complete (index : Nat) (outcome : CommandOutcome)
    (clock : WriteQueueClock) : (s.complete index outcome clock).mailbox = s.mailbox := by
  rw [complete]
  split
  · rfl
  · split <;> rfl

theorem mailbox_dispatcherReturned (index : Nat) (execution : CommandExecution)
    (clock : WriteQueueClock) :
    (s.dispatcherReturned index execution clock).mailbox = s.mailbox := by
  rw [dispatcherReturned]
  split
  · rfl
  · split
    · rfl
    · split
      · rfl
      · split <;> rfl

theorem mailbox_processLoadedCommand (loaded : LoadedCommand)
    (clock : WriteQueueClock) : (s.processLoadedCommand loaded clock).mailbox = s.mailbox := by
  rw [processLoadedCommand]
  split_ifs
  · rfl
  · rfl
  · split <;> rfl

theorem files_takeCommands (quarantined : List String) :
    (s.takeCommands quarantined).mailbox.files = s.mailbox.files := by
  rw [takeCommands]
  split <;> rfl

theorem keepsGenerations_of_inv (e : Event) (h : s.Inv) : s.KeepsGenerations e := by
  intro path hchanged
  -- Only an enqueue, a removal and a rewrite touch a file; the last two first compare its revision.
  cases e with
  | enqueue call =>
    left
    rw [step, enqueue] at hchanged
    split at hchanged
    · exact absurd rfl hchanged
    · rcases MailboxRun.keepsGenerations_of_guarded h.guarded h.before (.enqueue call.normalized)
        path hchanged with hstored | ⟨loaded, -, hconsumed, -⟩
      · exact ⟨call, rfl, hstored⟩
      · rcases hconsumed with hremove | ⟨replacement, hreplace⟩
        · exact absurd hremove (by simp)
        · exact absurd hreplace (by simp)
  | beginTick quarantined => exact absurd rfl hchanged
  | endTick => exact absurd rfl hchanged
  | takeCommands quarantined =>
    rw [step, files_takeCommands] at hchanged
    exact absurd rfl hchanged
  | process loaded clock =>
    rw [step] at hchanged
    split_ifs at hchanged
    · rw [mailbox_processLoadedCommand] at hchanged
      exact absurd rfl hchanged
    · exact absurd rfl hchanged
  | complete index outcome clock =>
    rw [step, mailbox_complete] at hchanged
    exact absurd rfl hchanged
  | returned index execution clock =>
    rw [step, mailbox_dispatcherReturned] at hchanged
    exact absurd rfl hchanged
  | removePending =>
    refine .inr (.inr ⟨rfl, ?_⟩)
    rw [step, removePending] at hchanged
    split at hchanged
    · exact absurd rfl hchanged
    · next removal removals hremovals =>
      obtain ⟨hloaded, hexpected, dispatch, hget, hended, hretires⟩ :=
        h.removals removal (hremovals ▸ List.mem_cons_self)
      simp only at hchanged
      rcases removeIfCurrent_cases s.mailbox.files removal.loaded.path removal.expected with
        hkept | ⟨current, hcurrent, hsame, hremoved⟩
      · rw [hkept] at hchanged
        exact absurd rfl hchanged
      · rw [hremoved, Dict.get?_erase] at hchanged
        split_ifs at hchanged with hpath
        · exact ⟨removal.loaded, dispatch, hpath.symm, hpath ▸ MailboxRun.generation_eq_of_same
            h.guarded h.before hloaded hexpected hcurrent hsame,
            List.mem_iff_getElem?.mpr ⟨_, hget⟩, hended, hretires⟩
        · exact absurd rfl hchanged
  | rewrite index replacement =>
    refine .inr (.inl ⟨index, replacement, ?_⟩)
    rw [step, rewrite] at hchanged
    split at hchanged
    · exact absurd rfl hchanged
    · next dispatch hget =>
      have hwf := h.dispatches dispatch (List.mem_iff_getElem?.mpr ⟨index, hget⟩)
      simp only at hchanged
      rcases replaceIfCurrent_cases gatewayCommandQueuePolicy s.mailbox.files dispatch.loaded.path
        dispatch.effective replacement with hkept | ⟨current, hcurrent, hsame, hreplaced⟩
      · rw [hkept] at hchanged
        exact absurd rfl hchanged
      · rw [hreplaced, Dict.get?_set] at hchanged
        split_ifs at hchanged with hpath
        · exact ⟨dispatch, rfl, hget, hpath.symm, hpath ▸ MailboxRun.generation_eq_of_same
            h.guarded h.before hwf.loaded_mem (hwf.effective_reads _ (by decide) (by decide))
            hcurrent hsame⟩
        · exact absurd rfl hchanged

end

/-- What the next tick takes up: every readable file at its present generation, and for processing
unless another listed file has its coalesce key. -/
def ListsPresent (s : WriteQueueRun) : Prop :=
  ∀ path payload quarantined others, s.mailbox.files.get? path = some (.command payload) →
    path ∉ quarantined →
    ∃ listed ∈ (run step s [.beginTick quarantined, .takeCommands others]).commands,
      listed.path = path ∧ listed.generation = s.mailbox.generation path ∧
      ((∀ other ∈ (run step s [.beginTick quarantined, .takeCommands others]).commands,
        commandText other.command "coalesce_key" = commandText listed.command "coalesce_key" →
          other = listed) →
        listed ∈ coalesce (run step s [.beginTick quarantined, .takeCommands others]).commands)

theorem listsPresent (s : WriteQueueRun) : s.ListsPresent := by
  intro path payload quarantined others hfile hskip
  have hcommands : (run step s [.beginTick quarantined, .takeCommands others]).commands =
      s.listed quarantined := rfl
  rw [hcommands]
  refine ⟨⟨path, gatewayCommandQueuePolicy.normalize payload, s.mailbox.generation path⟩, ?_, rfl, rfl,
    fun halone => mem_coalesce ?_ halone⟩
  all_goals
    exact List.mem_map.mpr ⟨(path, gatewayCommandQueuePolicy.normalize payload),
      mem_loadPending.mpr ⟨hskip, payload, hfile, rfl⟩, rfl⟩

/-- In every run whose new revisions were not loaded before, each dispatch is finalised at most once;
a file changes only when it is written, rewritten by the executor of its generation, or retired by a
dispatch of its generation that ended applied or dropped; and a file that is there is listed by the
next tick at its own generation. -/
theorem finalized_once (files : MailboxFiles) (publications : FastPublicationQueue)
    (events : List Event) (hfresh : Along step FreshRevision (start files publications) events) :
    (∀ dispatch ∈ (run step (start files publications) events).dispatches,
      dispatch.finalized.length ≤ 1) ∧
    Along step KeepsGenerations (start files publications) events ∧
    (run step (start files publications) events).ListsPresent := by
  refine ⟨?_, ?_, listsPresent _⟩
  · have hinv := run_invariant_of_along inv_step (inv_start files publications) hfresh
    exact fun dispatch hmem => (hinv.dispatches dispatch hmem).consistent.length_finalized_le
  · exact along_of_invariant inv_step (fun s e h _ => keepsGenerations_of_inv s e h)
      (inv_start files publications) hfresh

end WriteQueueRun

end

namespace WriteQueueRun

section

local instance writeQueueSampleLib : PyLib := PyLib.sample

/-- A relay command of one coalesce key. -/
def relayCommand (created : Int) : CommandPayload :=
  Dict.ofList [("kind", .str "gx_relay_set_enabled"), ("coalesce_key", .str "k"),
    ("priority", .str "user"), ("created_at", .int created)]

def relayEnqueue (created : Int) (revision : String) : EnqueueCall where
  command := relayCommand created
  createdNow := created
  updatedNow := created
  revision := revision
  uniqueId := ""

def emptyPublications : FastPublicationQueue := FastPublicationQueue.create 4 4 60 none 0

def sampleClock : WriteQueueClock := ⟨30, 30, 30, 30⟩

/-- The first command of a taken list. -/
def firstListed (files : MailboxFiles) (events : List Event) : LoadedCommand :=
  (run step (start files emptyPublications) events).commands.headD ⟨"", Dict.empty, 0⟩

/-- A command is dispatched and answered asynchronously. -/
def pendingDispatch (files : MailboxFiles) (before : List Event) : List Event :=
  before ++ [.beginTick [], .takeCommands []] ++
    [.process (firstListed files (before ++ [.beginTick [], .takeCommands []])) sampleClock,
      .returned 0 ⟨.deferred, true⟩ sampleClock, .endTick]

/-- A newer generation arrives before the answer of the older one. -/
def supersededDispatch : List Event :=
  pendingDispatch Dict.empty [.enqueue (relayEnqueue 10 "r1")] ++
    [.enqueue (relayEnqueue 20 "r2"), .complete 0 .applied sampleClock, .removePending]

/-- The newer generation is still there, and every dispatch was finalised at most once. -/
theorem finalized_once_superseded :
    (∀ dispatch ∈ (run step (start Dict.empty emptyPublications) supersededDispatch).dispatches,
      dispatch.finalized.length ≤ 1) ∧
    Along step KeepsGenerations (start Dict.empty emptyPublications) supersededDispatch ∧
    (run step (start Dict.empty emptyPublications) supersededDispatch).ListsPresent :=
  finalized_once Dict.empty emptyPublications supersededDispatch (by decide +kernel)

/-- A file of the key under another name. -/
def renamedFiles : MailboxFiles := Dict.ofList [("old.json", .command (relayCommand 5))]

/-- While the command of that file waits for its answer, a newer one of its key is applied. -/
def staleDispatch : List Event :=
  let before := pendingDispatch renamedFiles [] ++ [.enqueue (relayEnqueue 20 "r2"), .beginTick [],
    .takeCommands []]
  before ++ [.process (firstListed renamedFiles before) sampleClock,
    .returned 1 ⟨.applied, false⟩ sampleClock, .removePending, .removePending]

/-- The queue after that. -/
def afterStaleDispatch : WriteQueueRun := run step (start renamedFiles emptyPublications) staleDispatch

/-- The waiting command is removed from the mailbox although no outcome of it was reported. -/
theorem stale_file_removed_while_waiting :
    renamedFiles.contains "old.json" = true ∧
    afterStaleDispatch.mailbox.files.contains "old.json" = false ∧
    (afterStaleDispatch.dispatches.head?.map fun dispatch =>
      (dispatch.loaded.path, dispatch.loaded.generation, dispatch.phase, dispatch.finalized)) =
      some ("old.json", afterStaleDispatch.mailbox.generation "old.json", .waiting, []) := by
  decide +kernel

end

end WriteQueueRun

end VenusEvcharger
