import Mathlib.Algebra.Order.Ring.Rat
import Mathlib.Data.Finset.Insert
import Mathlib.Data.Fintype.Defs
import VenusEvcharger.Library.Run

/-!
# Snapshots of the auto-input helper

A helper process writes its readings to a snapshot file, and the service reads the file when it has
changed. A snapshot is accepted from a new producer, or when its sequence advances. Only the identity of the
last accepted snapshot is remembered, so a helper that still writes after its successor counts as a new
producer. `never_backwards_iff` says in which runs the accepted snapshots never move backwards.

Scope: the file is either unreadable, or read as a snapshot that has passed `AutoInputSnapshotValidator`.
Clock readings are finite. The diagnostic texts of the sources and of the helper are left out. The runs are those of one
supervised helper process: the start of the next one, which clears the remembered identity, is no event of them.
-/

namespace VenusEvcharger

open Library

/-! ## Validated snapshots -/

/-- The `source_keys` of the schema. -/
inductive SourceKey where
  | pv
  | battery
  | grid
deriving DecidableEq

instance : Fintype SourceKey := ⟨{.pv, .battery, .grid}, fun key => by cases key <;> decide⟩

/-- What a snapshot says about one source. -/
structure SourceFields where
  capturedAt : Option ℚ
  observedMonotonic : Option ℚ
  value : Option ℚ
deriving DecidableEq

/-- The fields of a source without a reading. -/
def SourceFields.empty : SourceFields := ⟨none, none, none⟩

/-- A snapshot that has passed the validator. -/
structure HelperSnapshot where
  snapshotVersion : Int
  snapshotSequence : Int
  writerPid : Int
  helperGeneration : Int
  /-- Already stripped. -/
  runtimeInstanceId : String
  capturedAt : Option ℚ
  capturedMonotonic : ℚ
  heartbeatMonotonic : ℚ
  source : SourceKey → SourceFields
  /-- `_snapshot_sequence`. -/
  sequence_pos : 0 < snapshotSequence
  /-- `_writer_pid`. -/
  writerPid_pos : 0 < writerPid
  /-- `_helper_generation`. -/
  generation_nonneg : 0 ≤ helperGeneration
  /-- `_runtime_instance`. -/
  runtimeInstanceId_ne : runtimeInstanceId ≠ ""
  /-- `_timestamps_ordered`. -/
  captured_nonneg : 0 ≤ capturedMonotonic
  captured_le_heartbeat : capturedMonotonic ≤ heartbeatMonotonic
  /-- `_source_pairs_valid`. -/
  source_paired : ∀ key, (source key).capturedAt.isSome = (source key).value.isSome ∧
    (source key).observedMonotonic.isSome = (source key).value.isSome
  /-- `_source_timestamps_valid`. -/
  source_observed : ∀ key, ∀ at' ∈ (source key).observedMonotonic, 0 ≤ at' ∧ at' ≤ capturedMonotonic

/-- `st_mtime_ns`, `st_ino`, `st_size` and `st_ctime_ns` of the file. -/
structure FileSignature where
  mtimeNs : Int
  inode : Int
  size : Int
  ctimeNs : Int
deriving DecidableEq

/-- The fields that an accepted snapshot hands to the worker snapshot. -/
structure SnapshotFields where
  capturedAt : ℚ
  capturedMonotonic : ℚ
  heartbeatMonotonic : ℚ
  autoModeActive : Bool
  source : SourceKey → SourceFields

/-- The helper process that the service has started last. -/
structure CurrentHelper where
  lastStartAt : ℚ
  generation : Int
  /-- `_auto_input_runtime_instance_id` of the service. -/
  runtimeInstanceId : String
  processPid : Option Int

/-- `AutoInputSnapshotRuntime` with the attributes `_auto_input_snapshot_*` of the service. -/
structure SnapshotRuntime where
  helper : CurrentHelper
  mtimeNs : Option Int
  lastSignature : Option FileSignature
  lastSeen : Option ℚ
  seenForCurrentHelper : Bool
  lastCapturedAt : Option ℚ
  lastSequence : Option Int
  version : Option Int
  writerPid : Option Int
  generation : Option Int
  runtimeInstanceId : Option String

/-- `initialize_worker_state`, and what the start of a helper resets. -/
def SnapshotRuntime.initial (helper : CurrentHelper) : SnapshotRuntime where
  helper := helper
  mtimeNs := none
  lastSignature := none
  lastSeen := none
  seenForCurrentHelper := false
  lastCapturedAt := none
  lastSequence := none
  version := none
  writerPid := none
  generation := none
  runtimeInstanceId := none

/-- What `refresh_snapshot` finds: the clocks, the file with its contents, the liveness timeout of the
pressure policy, and whether Auto mode is active. -/
structure RefreshInput where
  monotonic : ℚ
  epoch : ℚ
  file : Option (FileSignature × Option HelperSnapshot)
  staleAfter : ℚ
  autoModeActive : Bool

/-! ## Acceptance -/

/-- `_sequence_advances`. -/
def sequenceAdvances (sequence : Int) (previousSequence : Option Int) (generation : Int)
    (previousGeneration : Option Int) (runtimeInstance : String) (previousRuntimeInstance : Option String) :
    Bool :=
  match previousSequence with
  | none => true
  | some previous =>
    if previousRuntimeInstance ≠ some runtimeInstance then true
    else if previousGeneration ≠ some generation then true
    else decide (previous < sequence)

/-- `future_timestamp_tolerance_seconds` of the schema. -/
def futureTimestampToleranceSeconds : ℚ := 1

/-- The heartbeat is older than the stale limit. -/
def HelperSnapshot.stale (x : HelperSnapshot) (i : RefreshInput) : Bool :=
  decide (i.staleAfter < i.monotonic - x.heartbeatMonotonic)

/-- `_build_snapshot_fields`: a stale snapshot keeps its sources to itself. -/
def HelperSnapshot.fields (x : HelperSnapshot) (i : RefreshInput) : SnapshotFields where
  capturedAt := x.capturedAt.getD i.epoch
  capturedMonotonic := x.capturedMonotonic
  heartbeatMonotonic := x.heartbeatMonotonic
  autoModeActive := i.autoModeActive
  source := if x.stale i then fun _ => .empty else x.source

namespace SnapshotRuntime

/-- `_snapshot_file_changed`. -/
def fileChanged (s : SnapshotRuntime) (signature : FileSignature) : Bool :=
  s.mtimeNs != some signature.mtimeNs || s.lastSignature.any (· != signature)

/-- `_snapshot_timestamps_valid`. -/
def timestampsValid (x : HelperSnapshot) (monotonic : ℚ) : Bool :=
  decide (x.heartbeatMonotonic ≤ monotonic + futureTimestampToleranceSeconds)

/-- `_snapshot_sequence_valid`. -/
def sequenceValid (s : SnapshotRuntime) (x : HelperSnapshot) : Bool :=
  sequenceAdvances x.snapshotSequence s.lastSequence x.helperGeneration s.generation x.runtimeInstanceId
    s.runtimeInstanceId

/-- `_snapshot_seen_for_current_helper`. -/
def snapshotSeen (s : SnapshotRuntime) (x : HelperSnapshot) (stale : Bool) : Bool :=
  !stale &&
    (decide (s.helper.lastStartAt ≤ 0) || decide (s.helper.lastStartAt ≤ x.heartbeatMonotonic)) &&
    (s.helper.runtimeInstanceId != "" && s.helper.runtimeInstanceId == x.runtimeInstanceId) &&
    (decide (s.helper.generation ≤ 0) || x.helperGeneration == s.helper.generation) &&
    s.helper.processPid.all (x.writerPid == ·)

/-- `_apply_snapshot`. -/
def applySnapshot (s : SnapshotRuntime) (signature : FileSignature) (x : HelperSnapshot)
    (fields : SnapshotFields) (seen : Bool) : SnapshotRuntime :=
  { s with
    mtimeNs := some signature.mtimeNs
    lastSignature := some signature
    lastSeen :=
      if seen then some x.heartbeatMonotonic
      else if s.seenForCurrentHelper then s.lastSeen else none
    seenForCurrentHelper := seen
    lastCapturedAt := some fields.capturedAt
    lastSequence := some x.snapshotSequence
    version := some x.snapshotVersion
    writerPid := some x.writerPid
    generation := some x.helperGeneration
    runtimeInstanceId := some x.runtimeInstanceId }

/-- The snapshot that `refresh_snapshot` comes to judge: the file is readable and has changed, and its
heartbeat does not lie in the future. -/
def candidate (s : SnapshotRuntime) (i : RefreshInput) : Option (FileSignature × HelperSnapshot) :=
  match i.file with
  | some (signature, some x) =>
    if s.fileChanged signature && timestampsValid x i.monotonic then some (signature, x) else none
  | _ => none

/-- `refresh_snapshot`, with the snapshot that it accepts and the fields that it hands on. -/
def refreshSnapshot (s : SnapshotRuntime) (i : RefreshInput) :
    SnapshotRuntime × Option (HelperSnapshot × SnapshotFields) :=
  match s.candidate i with
  | none => (s, none)
  | some (signature, x) =>
    if s.sequenceValid x then
      (s.applySnapshot signature x (x.fields i) (s.snapshotSeen x (x.stale i)), some (x, x.fields i))
    else (s, none)

/-- What acceptance means. -/
theorem refreshSnapshot_eq_some {s : SnapshotRuntime} {i : RefreshInput} {x : HelperSnapshot}
    {fields : SnapshotFields} (h : (s.refreshSnapshot i).2 = some (x, fields)) :
    ∃ signature, s.candidate i = some (signature, x) ∧ s.sequenceValid x = true ∧ fields = x.fields i ∧
      (s.refreshSnapshot i).1 = s.applySnapshot signature x (x.fields i) (s.snapshotSeen x (x.stale i)) := by
  unfold refreshSnapshot at h ⊢
  cases hcandidate : s.candidate i with
  | none => simp [hcandidate] at h
  | some read =>
    obtain ⟨signature, y⟩ := read
    simp only [hcandidate] at h ⊢
    split at h
    · next hvalid =>
      cases h
      exact ⟨signature, rfl, hvalid, rfl, by rw [if_pos hvalid]⟩
    · cases h

/-- A snapshot that is not accepted changes nothing. -/
theorem refreshSnapshot_of_none {s : SnapshotRuntime} {i : RefreshInput}
    (h : (s.refreshSnapshot i).2 = none) : (s.refreshSnapshot i).1 = s := by
  unfold refreshSnapshot at h ⊢
  cases hcandidate : s.candidate i with
  | none => rfl
  | some read =>
    simp only [hcandidate] at h ⊢
    split at h
    · cases h
    · next hvalid => rw [if_neg hvalid]

theorem source_of_stale {x : HelperSnapshot} {i : RefreshInput} (h : x.stale i = true) (key : SourceKey) :
    (x.fields i).source key = .empty := by
  simp only [HelperSnapshot.fields, h, ↓reduceIte]

end SnapshotRuntime

/-! ## Runs -/

/-- The runtime with the snapshots that it has accepted, newest first. -/
structure SnapshotRun where
  runtime : SnapshotRuntime
  accepted : List HelperSnapshot

/-- Two snapshots of one helper process. -/
def HelperSnapshot.sameProducer (x y : HelperSnapshot) : Prop :=
  x.runtimeInstanceId = y.runtimeInstanceId ∧ x.helperGeneration = y.helperGeneration

instance (x y : HelperSnapshot) : Decidable (x.sameProducer y) := inferInstanceAs (Decidable (_ ∧ _))

/-- The snapshot comes from a later helper of its instance, or later from the same one. -/
def HelperSnapshot.supersedes (x y : HelperSnapshot) : Prop :=
  y.helperGeneration < x.helperGeneration ∨
    y.helperGeneration = x.helperGeneration ∧ y.snapshotSequence < x.snapshotSequence

theorem HelperSnapshot.supersedes.trans {x y z : HelperSnapshot} (hxy : x.supersedes y)
    (hyz : y.supersedes z) : x.supersedes z := by
  unfold HelperSnapshot.supersedes at hxy hyz ⊢
  omega

namespace SnapshotRun

/-- One call of `refresh_snapshot`. -/
def step (r : SnapshotRun) (i : RefreshInput) : SnapshotRun where
  runtime := (r.runtime.refreshSnapshot i).1
  accepted :=
    match (r.runtime.refreshSnapshot i).2 with
    | some (x, _) => x :: r.accepted
    | none => r.accepted

/-- The sequence of a producer advances, no older generation of an instance follows a newer one, and a
stale snapshot exposes no source. -/
def NeverBackwards (r : SnapshotRun) (i : RefreshInput) : Prop :=
  ∀ read ∈ (r.runtime.refreshSnapshot i).2,
    (∀ y ∈ r.accepted, read.1.sameProducer y → y.snapshotSequence < read.1.snapshotSequence) ∧
      (∀ y ∈ r.accepted, read.1.runtimeInstanceId = y.runtimeInstanceId →
        y.helperGeneration ≤ read.1.helperGeneration) ∧
      (read.1.stale i = true → ∀ key, read.2.source key = .empty)

instance (r : SnapshotRun) (i : RefreshInput) : Decidable (r.NeverBackwards i) :=
  inferInstanceAs (Decidable (∀ _ ∈ _, _))

/-- A snapshot of the instance that was read last is not of an older generation, and one of another
instance supersedes what was accepted of that instance before. -/
def FromNewestHelper (r : SnapshotRun) (i : RefreshInput) : Prop :=
  ∀ signature x, r.runtime.candidate i = some (signature, x) →
    (∀ last ∈ r.accepted.head?, x.runtimeInstanceId = last.runtimeInstanceId →
        last.helperGeneration ≤ x.helperGeneration) ∧
      (∀ last ∈ r.accepted.head?, x.runtimeInstanceId ≠ last.runtimeInstanceId →
        ∀ y ∈ r.accepted, x.runtimeInstanceId = y.runtimeInstanceId → x.supersedes y)

/-- The runtime remembers the last accepted snapshot, which supersedes or is every other one of its
instance. -/
structure Remembers (r : SnapshotRun) : Prop where
  sequence_eq : r.runtime.lastSequence = r.accepted.head?.map (·.snapshotSequence)
  generation_eq : r.runtime.generation = r.accepted.head?.map (·.helperGeneration)
  instance_eq : r.runtime.runtimeInstanceId = r.accepted.head?.map (·.runtimeInstanceId)
  newest : ∀ last ∈ r.accepted.head?, ∀ y ∈ r.accepted, last.runtimeInstanceId = y.runtimeInstanceId →
    y = last ∨ last.supersedes y

theorem remembers_initial (helper : CurrentHelper) : Remembers ⟨.initial helper, []⟩ where
  sequence_eq := rfl
  generation_eq := rfl
  instance_eq := rfl
  newest := nofun

section Steps

variable {r : SnapshotRun} {i : RefreshInput} {x : HelperSnapshot}

theorem Remembers.sequenceValid_iff (hr : r.Remembers) : r.runtime.sequenceValid x = true ↔
    ∀ last ∈ r.accepted.head?, x.sameProducer last → last.snapshotSequence < x.snapshotSequence := by
  unfold SnapshotRuntime.sequenceValid sequenceAdvances
  rw [hr.sequence_eq, hr.generation_eq, hr.instance_eq]
  cases r.accepted.head? with
  | none => simp
  | some last =>
    simp only [Option.map_some, Option.mem_some_iff, forall_eq', HelperSnapshot.sameProducer, ne_eq,
      Option.some.injEq, eq_comm (a := last.runtimeInstanceId), eq_comm (a := last.helperGeneration)]
    by_cases hinstance : x.runtimeInstanceId = last.runtimeInstanceId
    · by_cases hgeneration : x.helperGeneration = last.helperGeneration
      · simp [hinstance, hgeneration]
      · simp [hinstance, hgeneration]
    · simp [hinstance]

theorem supersedes_of_accepted (hr : r.Remembers) {signature : FileSignature}
    (hread : r.runtime.candidate i = some (signature, x)) (hvalid : r.runtime.sequenceValid x = true)
    (hok : r.FromNewestHelper i) :
    ∀ y ∈ r.accepted, x.runtimeInstanceId = y.runtimeInstanceId → x.supersedes y := by
  intro y hy hinstance
  obtain ⟨last, hlast⟩ : ∃ last, r.accepted.head? = some last := by
    cases haccepted : r.accepted with
    | nil => simp [haccepted] at hy
    | cons last rest => exact ⟨last, rfl⟩
  obtain ⟨hsame, hother⟩ := hok signature x hread
  by_cases hcurrent : x.runtimeInstanceId = last.runtimeInstanceId
  · have hle := hsame last hlast hcurrent
    have hxlast : x.supersedes last := by
      rcases hle.lt_or_eq with hlt | heq
      · exact .inl hlt
      · exact .inr ⟨heq, hr.sequenceValid_iff.mp hvalid last hlast ⟨hcurrent, heq.symm⟩⟩
    rcases hr.newest last hlast y hy (hcurrent.symm.trans hinstance) with rfl | hlasty
    · exact hxlast
    · exact hxlast.trans hlasty
  · exact hother last hlast hcurrent y hy hinstance

theorem remembers_step (hr : r.Remembers) (hok : r.FromNewestHelper i) : (r.step i).Remembers := by
  cases hresult : (r.runtime.refreshSnapshot i).2 with
  | none =>
    have hruntime := SnapshotRuntime.refreshSnapshot_of_none hresult
    unfold step
    rw [hruntime, hresult]
    exact hr
  | some read =>
    obtain ⟨x, fields⟩ := read
    obtain ⟨signature, hread, hvalid, -, hafter⟩ := SnapshotRuntime.refreshSnapshot_eq_some hresult
    have hsupersedes := supersedes_of_accepted hr hread hvalid hok
    unfold step
    rw [hafter, hresult]
    refine ⟨rfl, rfl, rfl, ?_⟩
    intro last hlast y hy hinstance
    cases hlast
    rcases List.mem_cons.mp hy with rfl | hy
    · exact .inl rfl
    · exact .inr (hsupersedes y hy hinstance)

/-- A call moves no snapshot backwards exactly when what it judges comes from the newest helper. -/
theorem neverBackwards_iff (hr : r.Remembers) : r.NeverBackwards i ↔ r.FromNewestHelper i := by
  constructor
  · intro h signature x hread
    have hresult : r.runtime.sequenceValid x = true →
        (r.runtime.refreshSnapshot i).2 = some (x, x.fields i) := by
      intro hvalid
      simp only [SnapshotRuntime.refreshSnapshot, hread, hvalid, ↓reduceIte]
    refine ⟨fun last hlast hinstance => ?_, fun last hlast hinstance y hy hsame => ?_⟩
    · by_cases hgeneration : x.helperGeneration = last.helperGeneration
      · exact hgeneration.ge
      · -- another generation counts as a new producer and is accepted
        have hvalid : r.runtime.sequenceValid x = true := by
          rw [hr.sequenceValid_iff, hlast]
          intro other hother hsame
          obtain rfl := Option.mem_some_iff.mp hother
          exact absurd hsame.2 hgeneration
        exact (h _ (hresult hvalid)).2.1 last (List.mem_of_mem_head? hlast) hinstance
    · have hvalid : r.runtime.sequenceValid x = true := by
        rw [hr.sequenceValid_iff, hlast]
        intro other hother hsame'
        obtain rfl := Option.mem_some_iff.mp hother
        exact absurd hsame'.1 hinstance
      obtain ⟨hsequence, hgeneration, -⟩ := h _ (hresult hvalid)
      rcases (hgeneration y hy hsame).lt_or_eq with hlt | heq
      · exact .inl hlt
      · exact .inr ⟨heq, hsequence y hy ⟨hsame, heq.symm⟩⟩
  · rintro hok ⟨x, fields⟩ hresult
    obtain ⟨signature, hread, hvalid, rfl, -⟩ := SnapshotRuntime.refreshSnapshot_eq_some hresult
    have hsupersedes := supersedes_of_accepted hr hread hvalid hok
    refine ⟨fun y hy hsame => ?_, fun y hy hinstance => ?_, SnapshotRuntime.source_of_stale⟩
    · rcases hsupersedes y hy hsame.1 with hlt | ⟨-, hsequence⟩
      · exact absurd hsame.2 hlt.ne'
      · exact hsequence
    · rcases hsupersedes y hy hinstance with hlt | ⟨heq, -⟩
      · exact hlt.le
      · exact heq.le

end Steps

/-- In every run of a new runtime, the accepted snapshots never move backwards exactly when every snapshot
that is judged comes from the newest helper of its instance. -/
theorem never_backwards_iff (helper : CurrentHelper) (inputs : List RefreshInput) :
    Along step NeverBackwards ⟨.initial helper, []⟩ inputs ↔
      Along step FromNewestHelper ⟨.initial helper, []⟩ inputs :=
  along_iff_of_invariant (fun _ _ hr hok => remembers_step hr hok) (fun _ _ hr => neverBackwards_iff hr)
    (remembers_initial helper)

/-- A file with a snapshot of this generation and sequence of one runtime instance, read at this time. -/
def readAt (monotonic : ℚ) (generation sequence : Nat) (hnow : 0 ≤ monotonic) : RefreshInput where
  monotonic := monotonic
  epoch := monotonic
  staleAfter := 10
  autoModeActive := true
  file := some (⟨sequence, generation, 0, 0⟩, some {
    snapshotVersion := 1
    snapshotSequence := sequence + 1
    writerPid := 100
    helperGeneration := generation
    runtimeInstanceId := "instance-1"
    capturedAt := none
    capturedMonotonic := monotonic
    heartbeatMonotonic := monotonic
    source := fun _ => .empty
    sequence_pos := by omega
    writerPid_pos := by decide
    generation_nonneg := Int.natCast_nonneg generation
    runtimeInstanceId_ne := by decide
    captured_nonneg := hnow
    captured_le_heartbeat := le_rfl
    source_paired := fun _ => ⟨rfl, rfl⟩
    source_observed := nofun })

/-- A helper that still writes after its successor is read again, with a lower sequence than before. -/
theorem old_helper_accepted_again :
    ¬ Along step NeverBackwards ⟨.initial ⟨0, 2, "instance-1", some 100⟩, []⟩
      [readAt 1 1 5 (by decide), readAt 2 2 1 (by decide), readAt 3 1 3 (by decide)] := by
  decide +kernel

end SnapshotRun

end VenusEvcharger
