import VenusEvcharger.Python.Value
import Mathlib.Data.List.Sort

/-!
# Idempotent commands of the Control API

A command request may carry an idempotency key. The endpoint looks the key up in a bounded store of
recent responses, executes the command when nothing is found, and then stores the response under the
key together with a fingerprint of the payload.

Scope: the audit trail, the command events and the mirror of the store under `/run` are left out.
How a result is turned into the texts of its error payload is a field of the result.
-/

namespace VenusEvcharger

open Library

/-! ## JSON text with sorted keys -/

/-- Four hexadecimal digits. -/
def jsonHex (n : Nat) : String :=
  String.ofList ([n / 4096 % 16, n / 256 % 16, n / 16 % 16, n % 16].map Nat.digitChar)

/-- One character of an ASCII JSON string. -/
def jsonCharText (c : Char) : String :=
  let n := c.toNat
  if n = 34 then "\\\""
  else if n = 92 then "\\\\"
  else if n = 10 then "\\n"
  else if n = 13 then "\\r"
  else if n = 9 then "\\t"
  else if n = 12 then "\\f"
  else if n = 8 then "\\b"
  else if 32 ≤ n ∧ n ≤ 126 then String.ofList [c]
  else if n < 0x10000 then "\\u" ++ jsonHex n
  else "\\u" ++ jsonHex (0xD800 + (n - 0x10000) / 1024) ++
    "\\u" ++ jsonHex (0xDC00 + (n - 0x10000) % 1024)

def jsonStringText (s : String) : String :=
  "\"" ++ String.join (s.toList.map jsonCharText) ++ "\""

/-- The text of an object whose values have been written. -/
def jsonObjectText (entries : List (String × String)) : String :=
  let sorted := (Dict.ofList entries).entries.insertionSort fun a b => a.1 ≤ b.1
  "\x7b" ++ ",".intercalate (sorted.map fun entry => jsonStringText entry.1 ++ ":" ++ entry.2) ++
    "\x7d"

section

variable [PyLib]

mutual
/-- `json.dumps(value, sort_keys=True, separators=(",", ":"))`. -/
def jsonText : Value → String
  | .null => "null"
  | .bool b => if b then "true" else "false"
  | .int i => toString i
  | .float .nan => "NaN"
  | .float .posInf => "Infinity"
  | .float .negInf => "-Infinity"
  | .float x => PyLib.floatText x
  | .str s => jsonStringText s
  | .list vs => "[" ++ ",".intercalate (jsonItemTexts vs) ++ "]"
  | .obj es => jsonObjectText (jsonEntryTexts es)

def jsonItemTexts : List Value → List String
  | [] => []
  | v :: vs => jsonText v :: jsonItemTexts vs

def jsonEntryTexts : List (String × Value) → List (String × String)
  | [] => []
  | (k, v) :: es => (k, jsonText v) :: jsonEntryTexts es
end

/-! ## Request payloads -/

/-- `_payload_text`. -/
def payloadText (payload : CommandPayload) (key : String) : String :=
  match payload.get? key with
  | some value => strip value.text
  | none => ""

/-- `tracked_payload`: identifiers come from the payload, then from the headers, and an identifier
for the command is drawn when there is none. -/
def trackedPayload (payload : CommandPayload) (commandIdHeader idempotencyKeyHeader uuid : String) :
    CommandPayload :=
  let fromPayload := payloadText payload "command_id"
  let commandId := if fromPayload ≠ "" then fromPayload else strip commandIdHeader
  let fromPayload := payloadText payload "idempotency_key"
  let idempotencyKey := if fromPayload ≠ "" then fromPayload else strip idempotencyKeyHeader
  (payload.set "command_id" (.str (if commandId ≠ "" then commandId else uuid))).set
    "idempotency_key" (.str idempotencyKey)

/-- `idempotency_fingerprint`: the payload without its identifiers. -/
def idempotencyFingerprint (payload : CommandPayload) : String :=
  jsonText (.obj (payload.filter fun key _ =>
    decide (key ∉ ["command_id", "idempotency_key"])).entries)

end

/-! ## Responses -/

/-- `ControlCommandStatus`. -/
inductive ControlCommandStatus where
  | acceptedInFlight
  | applied
  | rejected
deriving DecidableEq

/-- What the endpoint reads of an executed command: the result, both serialized, and the payload of
`error_payload_for_result`. -/
structure ApiResult where
  status : ControlCommandStatus
  accepted : Bool
  detail : String
  command : CommandPayload
  result : CommandPayload
  error : CommandPayload
deriving DecidableEq

/-- An HTTP status with a JSON body. -/
structure ApiResponse where
  status : Nat
  body : CommandPayload
deriving DecidableEq

/-- `http_status_for_result`. -/
def httpStatusForResult : ControlCommandStatus → Nat
  | .applied => 200
  | .acceptedInFlight => 202
  | .rejected => 409

/-- `command_api_response`. -/
def commandApiResponse (ok : Bool) (detail : String) (command result : Value) (replayed : Bool)
    (error : Value) : CommandPayload :=
  Dict.ofList
    [("ok", .bool ok), ("detail", .str detail), ("command", command), ("result", result),
      ("replayed", .bool replayed), ("error", error)]

/-- `command_response_payload` of a new response. -/
def commandResponsePayload (result : ApiResult) : CommandPayload :=
  commandApiResponse result.accepted result.detail (.obj result.command.entries)
    (.obj result.result.entries) false
    (if result.accepted then .null else .obj result.error.entries)

/-- The response to a command that was executed for this request. -/
def newResponse (result : ApiResult) : ApiResponse :=
  ⟨httpStatusForResult result.status, commandResponsePayload result⟩

/-- What `cache_response` keeps of it. -/
def persistedResponse (result : ApiResult) : CommandPayload :=
  ((commandResponsePayload result).set "command" (.obj result.command.entries)).set "result"
    (.obj result.result.entries)

/-- `replayed_payload`. -/
def replayedPayload (body : CommandPayload) : CommandPayload := body.set "replayed" (.bool true)

/-- `idempotency_conflict_response`. -/
def idempotencyConflictResponse (idempotencyKey : String) : ApiResponse :=
  let message := "Idempotency-Key was already used for a different payload."
  ⟨409, commandApiResponse false message .null .null false
    (.obj [("code", .str "idempotency_conflict"), ("message", .str message),
      ("retryable", .bool false), ("details", .obj [("idempotency_key", .str idempotencyKey)])])⟩

/-! ## The store -/

/-- A stored response with the fingerprint of its payload. -/
structure IdempotencyEntry where
  fingerprint : String
  status : Nat
  response : CommandPayload

/-- `ControlApiIdempotencyStore`: the entries from the oldest to the newest, at most `historyLimit`
of them. -/
structure IdempotencyStore where
  historyLimit : Nat
  entries : Dict String IdempotencyEntry
  historyLimit_pos : 0 < historyLimit
  length_le : entries.length ≤ historyLimit

namespace IdempotencyStore

/-- The loop of `put` that drops the oldest entry while there are too many. -/
def dropOldest (historyLimit : Nat) :
    List (String × IdempotencyEntry) → List (String × IdempotencyEntry)
  | [] => []
  | entry :: entries =>
    if (entry :: entries).length ≤ historyLimit then entry :: entries
    else dropOldest historyLimit entries

theorem dropOldest_suffix (historyLimit : Nat) (entries : List (String × IdempotencyEntry)) :
    dropOldest historyLimit entries <:+ entries := by
  induction entries with
  | nil => exact List.suffix_rfl
  | cons entry entries ih =>
    unfold dropOldest
    split
    · exact List.suffix_rfl
    · exact ih.trans (List.suffix_cons _ _)

theorem length_dropOldest_le (historyLimit : Nat) (entries : List (String × IdempotencyEntry)) :
    (dropOldest historyLimit entries).length ≤ historyLimit := by
  induction entries with
  | nil => exact Nat.zero_le _
  | cons entry entries ih =>
    unfold dropOldest
    split
    · assumption
    · exact ih

/-- `get`: the entry moves to the newest place. -/
def get (store : IdempotencyStore) (key : String) : Option IdempotencyEntry × IdempotencyStore :=
  match store.entries.get? key with
  | none => (none, store)
  | some entry =>
    (some entry,
      { store with
        entries := store.entries.moveToEnd key
        length_le := by rw [Dict.length_moveToEnd]; exact store.length_le })

/-- `put`. -/
def put (store : IdempotencyStore) (key : String) (entry : IdempotencyEntry) : IdempotencyStore where
  historyLimit := store.historyLimit
  entries :=
    { entries := dropOldest store.historyLimit ((store.entries.set key entry).moveToEnd key).entries
      nodup := ((dropOldest_suffix _ _).sublist.map _).nodup (Dict.nodup _) }
  historyLimit_pos := store.historyLimit_pos
  length_le := length_dropOldest_le _ _

@[simp] theorem get?_entries_get (store : IdempotencyStore) (key other : String) :
    (store.get key).2.entries.get? other = store.entries.get? other := by
  unfold get
  split
  · rfl
  · exact Dict.get?_moveToEnd _ _ _

theorem get_fst (store : IdempotencyStore) (key : String) :
    (store.get key).1 = store.entries.get? key := by
  unfold get
  split
  · next hnone => exact hnone.symm
  · next entry hentry => exact hentry.symm

theorem dropOldest_append_singleton {historyLimit : Nat} (hpos : 0 < historyLimit)
    (entries : List (String × IdempotencyEntry)) (newest : String × IdempotencyEntry) :
    newest ∈ dropOldest historyLimit (entries ++ [newest]) := by
  induction entries with
  | nil =>
    rw [List.nil_append, dropOldest, if_pos (show [newest].length ≤ historyLimit from hpos)]
    exact List.mem_singleton_self _
  | cons entry entries ih =>
    rw [List.cons_append, dropOldest]
    split
    · exact List.mem_cons_of_mem _ (List.mem_append_right _ (List.mem_singleton_self _))
    · exact ih

theorem get?_put_self (store : IdempotencyStore) (key : String) (entry : IdempotencyEntry) :
    (store.put key entry).entries.get? key = some entry := by
  obtain ⟨rest, hrest⟩ := Dict.entries_moveToEnd_set store.entries key entry
  rw [← Dict.mem_entries_iff]
  show (key, entry) ∈ dropOldest store.historyLimit _
  rw [hrest]
  exact dropOldest_append_singleton store.historyLimit_pos rest (key, entry)

/-- What `put` does to another key: nothing, or it drops its entry. -/
theorem get?_put_other (store : IdempotencyStore) {key other : String} (entry : IdempotencyEntry)
    (hne : other ≠ key) {held : IdempotencyEntry}
    (hheld : (store.put key entry).entries.get? other = some held) :
    store.entries.get? other = some held := by
  have hmem := (dropOldest_suffix _ _).mem (Dict.mem_entries_iff.mpr hheld)
  rw [Dict.mem_entries_iff, Dict.get?_moveToEnd, Dict.get?_set_ne _ _ hne] at hmem
  exact hmem

end IdempotencyStore

/-- The stored response is the one that was sent. -/
theorem persistedResponse_eq (result : ApiResult) :
    persistedResponse result = commandResponsePayload result := by
  have hnodup : ∀ {command result error : Value} {ok replayed : Bool} {detail : String},
      ([("ok", .bool ok), ("detail", .str detail), ("command", command), ("result", result),
        ("replayed", .bool replayed), ("error", error)].map
          (Prod.fst : String × Value → String)).Nodup := by
    intros
    simp
  have hcommand : (commandResponsePayload result).get? "command" =
      some (.obj result.command.entries) := by
    unfold commandResponsePayload commandApiResponse
    rw [Dict.get?_ofList hnodup]
    rfl
  have hresult : (commandResponsePayload result).get? "result" =
      some (.obj result.result.entries) := by
    unfold commandResponsePayload commandApiResponse
    rw [Dict.get?_ofList hnodup]
    rfl
  unfold persistedResponse
  rw [Dict.set_of_get? hcommand, Dict.set_of_get? hresult]

end VenusEvcharger
