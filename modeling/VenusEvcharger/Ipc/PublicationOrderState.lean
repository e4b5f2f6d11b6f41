import VenusEvcharger.Python.Value

/-!
# Stored publication order marks

The high-water marks survive a restart in two files: a base file with the marks at the last
compaction, and a journal with one line for every later confirmation. A restart reads the base
and then the journal, and the last record of a field counts.

Scope: every file operation succeeds and the state path is not a directory. A journal line is what
one `readline` call returns. A key that is not text does not occur in JSON.
-/

namespace VenusEvcharger

open Library

/-- The transport that carried a publication. -/
inductive PublicationLane where
  | fast
  | durable
deriving DecidableEq

/-- The name of a lane in the state files. -/
def PublicationLane.text : PublicationLane → String
  | .fast => "fast"
  | .durable => "durable"

/-- A coalesce key and a field name. -/
abbrev PublicationFieldKey := String × String

/-- One field's latest accepted transport order. No mark carries the order zero. -/
structure PublicationOrderMark where
  order : Nat
  lane : PublicationLane
  seenAt : ℚ
  positive : 0 < order
deriving DecidableEq

/-- The marks by field, least recently assigned first. -/
abbrev PublicationOrderMarks := Dict PublicationFieldKey PublicationOrderMark

/-- One line of the journal: the JSON value it holds, if any, and its size in bytes. -/
structure JournalLine where
  payload : Option Value
  bytes : Nat

/-- The base file and the journal. `none` is a file that is absent, or a base that is no JSON. -/
structure StateFiles where
  base : Option Value
  journal : Option (List JournalLine)

def stateSchemaVersion : Int := 1

def stateJournalCompactBytes : Nat := 64 * 1024

def stateJournalLineBytes : Nat := 64 * 1024

/-- The record of one mark. -/
def stateRecord (entry : PublicationFieldKey × PublicationOrderMark) : Value :=
  .obj [("key", .str entry.1.1), ("field", .str entry.1.2), ("order", .int entry.2.order),
    ("lane", .str entry.2.lane.text), ("seen_at", .float (.fin entry.2.seenAt))]

/-- The records of the durable marks. -/
def stateMarkRecords (marks : PublicationOrderMarks) : List Value :=
  (marks.entries.filter fun entry => entry.2.lane = .durable).map stateRecord

/-- The payload of the base file and of a journal line. -/
def statePayload (marks : PublicationOrderMarks) : Value :=
  .obj [("schema_version", .int stateSchemaVersion), ("marks", .list (stateMarkRecords marks))]

/-- The records a payload carries, when it has the current schema. -/
def payloadRecords (payload : Option Value) : Option (List Value) :=
  match stringMapping payload with
  | none => none
  | some entries =>
    if (entries.getD "schema_version" .null).numberEq (.int stateSchemaVersion) then
      match entries.get? "marks" with
      | some (.list records) => some records
      | _ => none
    else none

/-- `_state_records`. -/
def stateRecords (files : StateFiles) : List Value := (payloadRecords files.base).getD []

/-- `_journal_records`. Lines over the limit are skipped. -/
def journalRecords (files : StateFiles) : List Value :=
  (files.journal.getD []).flatMap fun line =>
    if stateJournalLineBytes < line.bytes then [] else (payloadRecords line.payload).getD []

/-- `_journal_size`, zero without a journal. -/
def journalSize (files : StateFiles) : Nat := ((files.journal.getD []).map (·.bytes)).sum

/-- `_nonempty_text`. -/
def nonemptyText : Option Value → Option String
  | some (.str s) => if s = "" then none else some s
  | _ => none

/-- `_state_identity`. -/
def stateIdentity (payload : Dict String Value) : Option PublicationFieldKey := do
  let key ← nonemptyText (payload.get? "key")
  let field ← nonemptyText (payload.get? "field")
  return (key, field)

section

variable [PyLib]

/-- `_finite_float`. -/
def finiteFloat : Option Value → Option ℚ
  | some (.bool b) => some (if b then 1 else 0)
  | some (.int i) => some i
  | some (.float (.fin q)) => some q
  | some (.str s) =>
    match PyLib.parseFloat s with
    | some (.fin q) => some q
    | _ => none
  | _ => none

/-- `_state_order_mark`: a durable mark whose time lies in `(cutoff, now]`. -/
def stateOrderMark (payload : Dict String Value) (now cutoff : ℚ) : Option PublicationOrderMark :=
  if hpos : 0 < positiveInteger (payload.get? "order") then
    match payload.get? "lane", finiteFloat (payload.get? "seen_at") with
    | some (.str "durable"), some seenAt =>
      if cutoff < seenAt ∧ seenAt ≤ now then some ⟨_, .durable, seenAt, hpos⟩ else none
    | _, _ => none
  else none

/-- `_state_mark`. -/
def stateMark (value : Value) (now cutoff : ℚ) :
    Option (PublicationFieldKey × PublicationOrderMark) := do
  let payload ← stringMapping (some value)
  let identity ← stateIdentity payload
  let mark ← stateOrderMark payload now cutoff
  return (identity, mark)

/-- `_insert_state_mark`: the last record of a field wins. -/
def insertStateMark (now cutoff : ℚ) (marks : PublicationOrderMarks) (value : Value) :
    PublicationOrderMarks :=
  match stateMark value now cutoff with
  | none => marks
  | some (fieldKey, mark) => marks.set fieldKey mark

/-- `load_publication_order_marks`. -/
def loadPublicationOrderMarks (state : Option StateFiles) (now retentionSeconds : ℚ) :
    PublicationOrderMarks :=
  match state with
  | none => Dict.empty
  | some files =>
    let insert := insertStateMark now (now - retentionSeconds)
    (journalRecords files).foldl insert ((stateRecords files).foldl insert Dict.empty)

/-- The journal line of a delta, with its line feed. -/
def deltaLine (changed : PublicationOrderMarks) : JournalLine :=
  ⟨some (statePayload changed), jsonSize (statePayload changed) + 1⟩

/-- The files with one more journal line. -/
def withLine (files : StateFiles) (line : JournalLine) : StateFiles :=
  { files with journal := some (files.journal.getD [] ++ [line]) }

/-- `_append_state_delta`, `none` when the line is too long. -/
def appendStateDelta (files : StateFiles) (changed : PublicationOrderMarks) : Option StateFiles :=
  if stateJournalLineBytes < (deltaLine changed).bytes then none
  else some (withLine files (deltaLine changed))

omit [PyLib] in
/-- `_compact_state`: the marks become the base and the journal goes. -/
def compactState (current : PublicationOrderMarks) : StateFiles :=
  ⟨some (statePayload current), none⟩

omit [PyLib] in
/-- The size check of `_prepare_journal_for_append` and of `_finish_checkpoint`. -/
def compactWhenLarge (files : StateFiles) (current : PublicationOrderMarks) : StateFiles :=
  if journalSize files ≤ stateJournalCompactBytes then files else compactState current

/-- `_write_checkpoint`: whether the delta is stored, and the files afterwards. -/
def writeCheckpoint (files : StateFiles) (changed current : PublicationOrderMarks) :
    Bool × StateFiles :=
  let prepared := compactWhenLarge files current
  match appendStateDelta prepared changed with
  | none => (false, prepared)
  | some appended => (true, compactWhenLarge appended current)

/-- `checkpoint_publication_order_marks`. -/
def checkpointPublicationOrderMarks (state : Option StateFiles)
    (changed current : PublicationOrderMarks) : Bool × Option StateFiles :=
  match state with
  | none => (true, none)
  | some files =>
    if changed.entries = [] then (true, some files)
    else
      let written := writeCheckpoint files changed current
      (written.1, some written.2)

/-! ## What a restart reads -/

/-- Whether a restart at `now` takes a mark up. -/
def Restorable (now retentionSeconds : ℚ) (fieldKey : PublicationFieldKey)
    (mark : PublicationOrderMark) : Prop :=
  fieldKey.1 ≠ "" ∧ fieldKey.2 ≠ "" ∧ mark.lane = .durable ∧
    now - retentionSeconds < mark.seenAt ∧ mark.seenAt ≤ now

instance (now retentionSeconds : ℚ) (fieldKey : PublicationFieldKey) (mark : PublicationOrderMark) :
    Decidable (Restorable now retentionSeconds fieldKey mark) := by
  unfold Restorable
  infer_instance

/-- The time and lane checks of a record that a mark was stored as. -/
theorem stateOrderMark_stored (payload : Dict String Value) (mark : PublicationOrderMark)
    (now cutoff : ℚ) (horder : payload.get? "order" = some (.int mark.order))
    (hlane : payload.get? "lane" = some (.str mark.lane.text))
    (hseen : payload.get? "seen_at" = some (.float (.fin mark.seenAt))) :
    stateOrderMark payload now cutoff =
      if mark.lane = .durable ∧ cutoff < mark.seenAt ∧ mark.seenAt ≤ now then some mark
      else none := by
  obtain ⟨order, lane, seenAt, hpos⟩ := mark
  have hint : positiveInteger (some (.int order)) = order := rfl
  simp only [stateOrderMark, horder, hlane, hseen, hint, dif_pos hpos, finiteFloat]
  cases lane with
  | fast => simp [PublicationLane.text]
  | durable => simp [PublicationLane.text]

/-- A stored mark is read back exactly when it is restorable. -/
theorem stateMark_stateRecord (entry : PublicationFieldKey × PublicationOrderMark)
    (now retentionSeconds : ℚ) :
    stateMark (stateRecord entry) now (now - retentionSeconds) =
      if Restorable now retentionSeconds entry.1 entry.2 then some entry else none := by
  obtain ⟨⟨key, field⟩, mark⟩ := entry
  let payload : Dict String Value := Dict.ofList [("key", .str key), ("field", .str field),
    ("order", .int mark.order), ("lane", .str mark.lane.text), ("seen_at", .float (.fin mark.seenAt))]
  have hpayload : stringMapping (some (stateRecord ((key, field), mark))) = some payload := rfl
  have hkey : payload.get? "key" = some (.str key) := rfl
  have hfield : payload.get? "field" = some (.str field) := rfl
  rw [stateMark, hpayload]
  simp only [Option.bind_eq_bind, Option.bind_some, stateIdentity, hkey, hfield, nonemptyText,
    stateOrderMark_stored payload mark now (now - retentionSeconds) rfl rfl rfl]
  by_cases hk : key = ""
  · simp [hk, Restorable]
  by_cases hf : field = ""
  · simp [hk, hf, Restorable]
  by_cases hm : mark.lane = .durable ∧ now - retentionSeconds < mark.seenAt ∧ mark.seenAt ≤ now
  · simp [hk, hf, hm, Restorable]
  · simp [hk, hf, hm, Restorable]

/-- Reading the records of a mark table assigns its restorable marks. -/
theorem get?_foldl_stateMarkRecords (marks before : PublicationOrderMarks)
    (now retentionSeconds : ℚ) (fieldKey : PublicationFieldKey) :
    ((stateMarkRecords marks).foldl (insertStateMark now (now - retentionSeconds)) before).get?
        fieldKey =
      ((marks.get? fieldKey).filter (Restorable now retentionSeconds fieldKey ·) <|>
        before.get? fieldKey) := by
  let restorable := marks.filter fun key mark => Restorable now retentionSeconds key mark
  have hfold : (stateMarkRecords marks).foldl (insertStateMark now (now - retentionSeconds)) before =
      before.update restorable := by
    rw [stateMarkRecords, List.foldl_map, List.foldl_filter, Dict.update]
    change _ = (marks.entries.filter _).foldl _ before
    rw [List.foldl_filter]
    congr 1
    funext acc entry
    rw [insertStateMark, stateMark_stateRecord]
    by_cases hlane : entry.2.lane = .durable
    · by_cases hr : Restorable now retentionSeconds entry.1 entry.2
      · simp [hlane, hr]
      · simp [hlane, hr]
    · simp [hlane, Restorable]
  rw [hfold, Dict.get?_update, Dict.get?_filter]

omit [PyLib] in
/-- The current schema is read back with its records. -/
@[simp] theorem payloadRecords_statePayload (marks : PublicationOrderMarks) :
    payloadRecords (some (statePayload marks)) = some (stateMarkRecords marks) := by
  have hversion : (Value.int stateSchemaVersion).numberEq (.int stateSchemaVersion) = true := by
    simp [Value.numberEq, Value.number?, PyFloat.eq]
  change (if (Value.int stateSchemaVersion).numberEq (.int stateSchemaVersion) then
    some (stateMarkRecords marks) else none) = _
  rw [if_pos hversion]

/-- Whether a delta fits a journal line. -/
def DeltaFits (changed : PublicationOrderMarks) : Prop :=
  (deltaLine changed).bytes ≤ stateJournalLineBytes

/-- Whether a checkpoint rewrites the base file: the journal is, or becomes, too large. -/
def CheckpointCompacts (files : StateFiles) (changed : PublicationOrderMarks) : Prop :=
  stateJournalCompactBytes < journalSize files ∨
    DeltaFits changed ∧ stateJournalCompactBytes < journalSize files + (deltaLine changed).bytes

instance (changed : PublicationOrderMarks) : Decidable (DeltaFits changed) := Nat.decLe _ _

instance (files : StateFiles) (changed : PublicationOrderMarks) :
    Decidable (CheckpointCompacts files changed) := inferInstanceAs (Decidable (_ ∨ _ ∧ _))

omit [PyLib] in
@[simp] theorem journalSize_withLine (files : StateFiles) (line : JournalLine) :
    journalSize (withLine files line) = journalSize files + line.bytes := by
  simp [journalSize, withLine]

omit [PyLib] in
@[simp] theorem journalSize_compactState (current : PublicationOrderMarks) :
    journalSize (compactState current) = 0 := rfl

variable {files : StateFiles}

omit [PyLib] in
theorem compactWhenLarge_of_le (current : PublicationOrderMarks)
    (h : journalSize files ≤ stateJournalCompactBytes) : compactWhenLarge files current = files :=
  if_pos h

omit [PyLib] in
theorem compactWhenLarge_of_lt (current : PublicationOrderMarks)
    (h : stateJournalCompactBytes < journalSize files) :
    compactWhenLarge files current = compactState current :=
  if_neg (not_le.mpr h)

variable {changed : PublicationOrderMarks}

/-- A delta that fits is appended between the two size checks. -/
theorem writeCheckpoint_of_fits (files : StateFiles) (current : PublicationOrderMarks)
    (hfits : DeltaFits changed) :
    writeCheckpoint files changed current = (true,
      compactWhenLarge (withLine (compactWhenLarge files current) (deltaLine changed)) current) := by
  rw [writeCheckpoint, appendStateDelta, if_neg (not_lt.mpr hfits)]

/-- A delta that is too long leaves only the first size check. -/
theorem writeCheckpoint_of_not_fits (files : StateFiles) (current : PublicationOrderMarks)
    (hfits : ¬ DeltaFits changed) :
    writeCheckpoint files changed current = (false, compactWhenLarge files current) := by
  rw [writeCheckpoint, appendStateDelta, if_pos (not_le.mp hfits)]

/-- A checkpoint reports success exactly when the delta fits. -/
theorem writeCheckpoint_fst_iff (files : StateFiles) (changed current : PublicationOrderMarks) :
    (writeCheckpoint files changed current).1 = true ↔ DeltaFits changed := by
  by_cases hfits : DeltaFits changed
  · simp [writeCheckpoint_of_fits files current hfits, hfits]
  · simp [writeCheckpoint_of_not_fits files current hfits, hfits]

/-- After an append, the appended marks are read before what was there. -/
theorem get?_load_withLine (files : StateFiles) (hfits : DeltaFits changed)
    (now retentionSeconds : ℚ) (fieldKey : PublicationFieldKey) :
    (loadPublicationOrderMarks (some (withLine files (deltaLine changed))) now
        retentionSeconds).get? fieldKey =
      ((changed.get? fieldKey).filter (Restorable now retentionSeconds fieldKey ·) <|>
        (loadPublicationOrderMarks (some files) now retentionSeconds).get? fieldKey) := by
  have hline : (deltaLine changed).payload = some (statePayload changed) := rfl
  have hjournal : journalRecords (withLine files (deltaLine changed)) =
      journalRecords files ++ stateMarkRecords changed := by
    simp [journalRecords, withLine, not_lt.mpr hfits, hline]
  simp only [loadPublicationOrderMarks, hjournal, List.foldl_append]
  exact get?_foldl_stateMarkRecords changed _ now retentionSeconds fieldKey

/-- After a compaction, exactly the restorable marks of the memory are read. -/
theorem get?_load_compact (current : PublicationOrderMarks) (now retentionSeconds : ℚ)
    (fieldKey : PublicationFieldKey) :
    (loadPublicationOrderMarks (some (compactState current)) now retentionSeconds).get? fieldKey =
      (current.get? fieldKey).filter (Restorable now retentionSeconds fieldKey ·) := by
  have hrecords : stateRecords (compactState current) = stateMarkRecords current := by
    simp [stateRecords, compactState]
  have hjournal : journalRecords (compactState current) = [] := rfl
  simp only [loadPublicationOrderMarks, hjournal, hrecords, List.foldl_nil]
  simp [get?_foldl_stateMarkRecords]

theorem get?_load_checkpoint_compacts {current : PublicationOrderMarks}
    (hsub : ∀ fieldKey mark, changed.get? fieldKey = some mark → current.get? fieldKey = some mark)
    (hcompacts : CheckpointCompacts files changed) (now retentionSeconds : ℚ)
    (fieldKey : PublicationFieldKey) :
    (loadPublicationOrderMarks (some (writeCheckpoint files changed current).2) now
        retentionSeconds).get? fieldKey =
      (current.get? fieldKey).filter (Restorable now retentionSeconds fieldKey ·) := by
  by_cases hfits : DeltaFits changed
  · rw [writeCheckpoint_of_fits files current hfits]
    by_cases hlarge : stateJournalCompactBytes < journalSize files
    · -- the first check compacts, and one line is never too large for the second
      have hsmall : journalSize (withLine (compactState current) (deltaLine changed)) ≤
          stateJournalCompactBytes := by
        rw [journalSize_withLine, journalSize_compactState, Nat.zero_add]
        exact hfits
      rw [compactWhenLarge_of_lt current hlarge, compactWhenLarge_of_le current hsmall,
        get?_load_withLine _ hfits, get?_load_compact]
      cases hchanged : changed.get? fieldKey with
      | none => rfl
      | some mark =>
        rw [hsub fieldKey mark hchanged]
        cases Option.filter (Restorable now retentionSeconds fieldKey ·) (some mark) <;> rfl
    · have hgrown := (hcompacts.resolve_left hlarge).2
      rw [← journalSize_withLine] at hgrown
      rw [compactWhenLarge_of_le current (not_lt.mp hlarge), compactWhenLarge_of_lt current hgrown,
        get?_load_compact]
  · have hlarge := hcompacts.resolve_right fun h => hfits h.1
    rw [writeCheckpoint_of_not_fits files current hfits, compactWhenLarge_of_lt current hlarge,
      get?_load_compact]

/-- A checkpoint that does not compact puts a delta that fits before the earlier content. -/
theorem get?_load_checkpoint_keeps (current : PublicationOrderMarks)
    (hkeeps : ¬ CheckpointCompacts files changed) (now retentionSeconds : ℚ)
    (fieldKey : PublicationFieldKey) :
    (loadPublicationOrderMarks (some (writeCheckpoint files changed current).2) now
        retentionSeconds).get? fieldKey =
      if DeltaFits changed then
        ((changed.get? fieldKey).filter (Restorable now retentionSeconds fieldKey ·) <|>
          (loadPublicationOrderMarks (some files) now retentionSeconds).get? fieldKey)
      else (loadPublicationOrderMarks (some files) now retentionSeconds).get? fieldKey := by
  rw [CheckpointCompacts, not_or, not_and, not_lt, not_lt] at hkeeps
  obtain ⟨hsmall, hgrown⟩ := hkeeps
  split_ifs with hfits
  · have hgrown' := hgrown hfits
    rw [← journalSize_withLine] at hgrown'
    rw [writeCheckpoint_of_fits files current hfits, compactWhenLarge_of_le current hsmall,
      compactWhenLarge_of_le current hgrown', get?_load_withLine files hfits]
  · rw [writeCheckpoint_of_not_fits files current hfits, compactWhenLarge_of_le current hsmall]

omit [PyLib] in
theorem nonemptyText_eq_some {value : Option Value} {text : String}
    (h : nonemptyText value = some text) : text ≠ "" := by
  unfold nonemptyText at h
  split at h
  · split_ifs at h with hempty
    obtain rfl := Option.some.inj h
    exact hempty
  · simp at h

variable {mark : PublicationOrderMark}

theorem stateOrderMark_eq_some {payload : Dict String Value} {now cutoff : ℚ}
    (h : stateOrderMark payload now cutoff = some mark) :
    mark.lane = .durable ∧ cutoff < mark.seenAt ∧ mark.seenAt ≤ now := by
  rw [stateOrderMark] at h
  split_ifs at h with hpos
  split at h
  · split_ifs at h with htime
    obtain rfl := Option.some.inj h
    exact ⟨rfl, htime⟩
  · simp at h

variable {retentionSeconds : ℚ} {fieldKey : PublicationFieldKey}

theorem restorable_of_stateMark {value : Value} {now : ℚ}
    (h : stateMark value now (now - retentionSeconds) = some (fieldKey, mark)) :
    Restorable now retentionSeconds fieldKey mark := by
  simp only [stateMark, stateIdentity, Option.bind_eq_bind, Option.bind_eq_some_iff,
    Option.pure_def, Option.some.injEq, Prod.mk.injEq] at h
  obtain ⟨payload, -, _, ⟨key, hkey, field, hfield, rfl⟩, _, hmark, rfl, rfl⟩ := h
  exact ⟨nonemptyText_eq_some hkey, nonemptyText_eq_some hfield, stateOrderMark_eq_some hmark⟩

theorem restorable_of_foldl {now : ℚ} {records : List Value} {before : PublicationOrderMarks}
    (hbefore : ∀ fieldKey mark, before.get? fieldKey = some mark →
      Restorable now retentionSeconds fieldKey mark)
    (hmark : (records.foldl (insertStateMark now (now - retentionSeconds)) before).get? fieldKey =
      some mark) : Restorable now retentionSeconds fieldKey mark := by
  induction records generalizing before with
  | nil => exact hbefore fieldKey mark hmark
  | cons value records ih =>
    refine ih ?_ hmark
    intro otherKey other hother
    rw [insertStateMark] at hother
    split at hother
    · exact hbefore otherKey other hother
    · rename_i inserted insertedMark hparsed
      rw [Dict.get?_set] at hother
      split_ifs at hother with hkey
      · obtain rfl := Option.some.inj hother
        exact hkey ▸ restorable_of_stateMark hparsed
      · exact hbefore otherKey other hother

theorem restorable_of_load {state : Option StateFiles} {now : ℚ}
    (hload : (loadPublicationOrderMarks state now retentionSeconds).get? fieldKey = some mark) :
    Restorable now retentionSeconds fieldKey mark := by
  cases state with
  | none => simp [loadPublicationOrderMarks] at hload
  | some files =>
    refine restorable_of_foldl (fun _ _ hbase => restorable_of_foldl ?_ hbase) hload
    simp

end

end VenusEvcharger
