import VenusEvcharger.State.Restore

/-!
# The runtime-state file

`read_json_object_file` and `RuntimeStatePersistence`: the file is read at start, its document restored into the service
and the snapshot built again, and later written whenever the snapshot differs from the one written last.

Scope: the encoder sorts the keys of an object, but everything that reads a document looks fields up by key, so the order
of the entries is kept as it is. The log lines are left out.
-/

namespace VenusEvcharger.State

open Library

/-- What reading a file gives. -/
inductive FileRead where
  /-- `FileNotFoundError`. -/
  | missing
  /-- Any other `OSError`. -/
  | unreadable
  | content (bytes : List UInt8)

/-- `RUNTIME_STATE_CHANGED_AT_FIELD`. -/
def runtimeStateChangedAtField : String := "state_changed_at"

/-- `_finite_number`. -/
def finiteNumber : Value → Except PyError (Option ℚ)
  | .int i => if i.natAbs < floatOverflow then .ok (some i) else .error .overflowError
  | .float (.fin q) => .ok (some q)
  | _ => .ok none

/-- `_valid_state_changed_at`. -/
def validStateChangedAt (value : Value) (now : ℚ) : Except PyError (Option ℚ) :=
  (fun changedAt => (changedAt.filter fun t => decide (0 ≤ t ∧ t ≤ now + 1)).map fun t => min t now) <$>
    finiteNumber value

/-- `_loaded_status`: the event time, and whether the file lacks it. `mtime` is the file's modification time. -/
def loadedStatus (document : JsonObject) (mtime : Option ℚ) (now : ℚ) : Except PyError (ℚ × Bool) :=
  (fun
    | some changedAt => (changedAt, false)
    | none => (((mtime.filter fun t => decide (0 ≤ t ∧ t ≤ now + 1)).map fun t => min t now).getD now, true)) <$>
    validStateChangedAt (document.get runtimeStateChangedAtField) now

/-- `_semantic_state`. -/
def semanticState (document : JsonObject) : JsonObject :=
  document.filter fun e => e.1 ≠ runtimeStateChangedAtField

/-- `_status_document`. -/
def statusDocument (state : JsonObject) (changedAt : ℚ) : JsonObject :=
  state ++ [(runtimeStateChangedAtField, .float (.fin changedAt))]

variable [PyRuntime]

/-- `read_json_object_file`. -/
def readJsonObjectFile : FileRead → Except PyError (Option JsonObject)
  | .missing | .unreadable => .ok none
  | .content bytes =>
    match fromUtf8 bytes with
    | none => .ok none
    | some text =>
      match jsonLoads text with
      | .ok (.obj document) => .ok (some document)
      | .ok _ => .ok none
      | .error .decodeError => .ok none
      | .error .digits => .error .valueError
      | .error .recursion => .error .recursionError

/-- The surroundings of a load: the clock of the service, `time.time()` and the modification time of the file. -/
structure LoadTime where
  clock : ℚ
  wall : ℚ
  mtime : Option ℚ

/-- The part of `load` after the document is read: the service, and the document that a migration writes. -/
def loadDocument (svc : RuntimeService) (document : JsonObject) (at_ : LoadTime) :
    Except PyError (RuntimeService × Option JsonObject) := do
  let now := max 0 at_.clock
  let status ← loadedStatus document at_.mtime now
  let restored ← restore svc (semanticState document) now
  let serialized ← compactJson (.obj (build restored at_.wall))
  return ({ restored with serialized := some serialized, changedAt := some status.1 },
    if status.2 then some (statusDocument (build restored at_.wall) status.1) else none)

/-- `load`, where `path` is `runtime_state_path`. -/
def load (svc : RuntimeService) (path : String) (file : FileRead) (at_ : LoadTime) :
    Except PyError (RuntimeService × Option JsonObject) := do
  if strip path = "" then return (svc, none)
  else
    match ← readJsonObjectFile file with
    | none => return (svc, none)
    | some document => loadDocument svc document at_

/-- `save`: the service, and the document that is written. `written` says whether the file could be written. -/
def save (svc : RuntimeService) (path : String) (wall : ℚ) (written : Bool) :
    Except PyError (RuntimeService × Option JsonObject) := do
  if strip path = "" then return (svc, none)
  else
    let serialized ← compactJson (.obj (build svc wall))
    if some serialized = svc.serialized then return (svc, none)
    else if written then
      return ({ svc with serialized := some serialized, changedAt := some (max 0 wall) },
        some (statusDocument (build svc wall) (max 0 wall)))
    else return (svc, none)

end VenusEvcharger.State
