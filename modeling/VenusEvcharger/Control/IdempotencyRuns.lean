import VenusEvcharger.Control.Idempotency
import VenusEvcharger.Library.Run

/-!
# Concurrent command requests

The Control API answers each request in a thread of its own. Looking the key up, executing the
command and storing the response are separate steps, so that the steps of several requests
interleave. A command is executed once for its key in every run in which no request is looked up
between the lookup of another one with its key and the storing of that one's response.

Scope: a thread that dies takes no further step. What a handler returns for a command, and what the
validation and the rate limit answer, is left open.
-/

namespace VenusEvcharger

open Library

/-- Where a request stands. -/
inductive RequestPhase where
  | received
  | missed
  | executed (result : ApiResult)
  | answered (response : ApiResponse)
deriving DecidableEq

/-- A request in its thread. -/
structure ApiRequest where
  payload : CommandPayload
  phase : RequestPhase
deriving DecidableEq

/-- The execution of a command under a key: the fingerprint of its payload, and its response. -/
structure Execution where
  fingerprint : String
  response : ApiResponse

/-- The requests and the store. For the statements alone, the last execution of every key is kept as
long as its entry is not dropped. -/
structure ApiServer where
  store : IdempotencyStore
  requests : List ApiRequest
  executions : Dict String Execution

/-- One step of one thread. -/
inductive ApiEvent where
  | receive (payload : CommandPayload) (commandIdHeader idempotencyKeyHeader uuid : String)
  | lookup (index : Nat)
  | refuse (index : Nat) (response : ApiResponse)
  | execute (index : Nat) (result : ApiResult)
  | store (index : Nat)

/-- The command of a request is looked up, and its response is not stored yet. -/
def ApiRequest.inFlight (request : ApiRequest) : Bool :=
  match request.phase with
  | .missed | .executed _ => true
  | _ => false

/-- The execution that an entry was stored for. -/
def IdempotencyEntry.execution (entry : IdempotencyEntry) : Execution :=
  ⟨entry.fingerprint, ⟨entry.status, entry.response⟩⟩

section

variable [PyLib]

def ApiRequest.key (request : ApiRequest) : String := payloadText request.payload "idempotency_key"

def ApiRequest.fingerprint (request : ApiRequest) : String := idempotencyFingerprint request.payload

/-- The response to a request whose key is found: the response of the execution, marked as replayed,
or a conflict when the payload is another one. -/
def Execution.answer (execution : Execution) (request : ApiRequest) : ApiResponse :=
  if execution.fingerprint ≠ request.fingerprint then idempotencyConflictResponse request.key
  else ⟨execution.response.status, replayedPayload execution.response.body⟩

namespace ApiServer

/-- A server with the entries it loaded. -/
def start (store : IdempotencyStore) : ApiServer where
  store := store
  requests := []
  executions := store.entries.mapVal fun _ entry => entry.execution

section

variable (s : ApiServer) (index : Nat) (request : ApiRequest)

/-- A request comes to its next phase. -/
def setPhase (phase : RequestPhase) : ApiServer :=
  { s with
    requests := s.requests.set index
      { request with
        phase := phase } }

/-- `replayed_response`. -/
def lookup : ApiServer :=
  if request.key = "" then s.setPhase index request .missed
  else
    match (s.store.get request.key).1 with
    | none => s.setPhase index request .missed
    | some entry =>
      setPhase
        { s with
          store := (s.store.get request.key).2 }
        index request (.answered (entry.execution.answer request))

/-- `handle_control_command`, called for a request. -/
def execute (result : ApiResult) : ApiServer :=
  setPhase
    { s with
      executions :=
        if request.key = "" then s.executions
        else s.executions.set request.key ⟨request.fingerprint, newResponse result⟩ }
    index request (.executed result)

/-- `write_new_response`: the response is stored and sent. -/
def storeResponse (result : ApiResult) :
    ApiServer :=
  if request.key = "" then s.setPhase index request (.answered (newResponse result))
  else
    let store := s.store.put request.key
      ⟨request.fingerprint, httpStatusForResult result.status, persistedResponse result⟩
    setPhase
      { s with
        store := store
        executions := s.executions.filter fun key _ =>
          (store.entries.get? key).isSome || (s.store.entries.get? key).isNone }
      index request (.answered (newResponse result))

end

/-- One step of the server. A step that is not the next one of its thread is none. -/
def step (s : ApiServer) : ApiEvent → ApiServer
  | .receive payload commandIdHeader idempotencyKeyHeader uuid =>
    { s with
      requests := s.requests ++
        [⟨trackedPayload payload commandIdHeader idempotencyKeyHeader uuid, .received⟩] }
  | .lookup index =>
    match s.requests[index]? with
    | some ⟨payload, .received⟩ => s.lookup index ⟨payload, .received⟩
    | _ => s
  | .refuse index response =>
    match s.requests[index]? with
    | some ⟨payload, .missed⟩ => s.setPhase index ⟨payload, .missed⟩ (.answered response)
    | _ => s
  | .execute index result =>
    match s.requests[index]? with
    | some ⟨payload, .missed⟩ => s.execute index ⟨payload, .missed⟩ result
    | _ => s
  | .store index =>
    match s.requests[index]? with
    | some ⟨payload, .executed result⟩ => s.storeResponse index ⟨payload, .executed result⟩ result
    | _ => s

/-! ## What is promised, and when it holds -/

/-- A step that respects the idempotency keys. Nothing is executed or refused under a key whose
execution is still retained, a request that finds such an execution is answered from it, and what is
sent for the execution itself is what was retained. -/
def Idempotent (s : ApiServer) : ApiEvent → Prop
  | .execute index _ | .refuse index _ =>
    ∀ payload, s.requests[index]? = some ⟨payload, .missed⟩ →
      payloadText payload "idempotency_key" ≠ "" →
      s.executions.get? (payloadText payload "idempotency_key") = none
  | .lookup index =>
    ∀ payload execution, s.requests[index]? = some ⟨payload, .received⟩ →
      payloadText payload "idempotency_key" ≠ "" →
      s.executions.get? (payloadText payload "idempotency_key") = some execution →
      (s.step (.lookup index)).requests[index]? =
        some ⟨payload, .answered (execution.answer ⟨payload, .received⟩)⟩
  | .store index =>
    ∀ payload result, s.requests[index]? = some ⟨payload, .executed result⟩ →
      payloadText payload "idempotency_key" ≠ "" →
      s.executions.get? (payloadText payload "idempotency_key") =
        some ⟨idempotencyFingerprint payload, newResponse result⟩
  | .receive _ _ _ _ => True

/-- A request is looked up while no other one with its key is in flight. -/
def OneAtATime (s : ApiServer) : ApiEvent → Prop
  | .lookup index =>
    ∀ request ∈ s.requests[index]?, request.key ≠ "" →
      ∀ other ∈ s.requests, other.inFlight = true → other.key ≠ request.key
  | _ => True

instance (s : ApiServer) (e : ApiEvent) : Decidable (s.OneAtATime e) := by
  cases e <;> unfold OneAtATime <;> infer_instance

/-- No two requests in flight share a key. -/
def Alone (requests : List ApiRequest) : Prop :=
  ∀ (i j : Nat) (first second : ApiRequest), requests[i]? = some first →
    requests[j]? = some second → first.inFlight = true → second.inFlight = true →
    first.key ≠ "" → first.key = second.key → i = j

/-- How the store, the requests and the executions fit together while keys are used one at a
time. -/
structure Settled (s : ApiServer) : Prop where
  stored : ∀ key entry, s.store.entries.get? key = some entry →
    s.executions.get? key = some entry.execution
  alone : Alone s.requests
  missed : ∀ payload, (⟨payload, .missed⟩ : ApiRequest) ∈ s.requests →
    payloadText payload "idempotency_key" ≠ "" →
    s.executions.get? (payloadText payload "idempotency_key") = none
  executed : ∀ payload result, (⟨payload, .executed result⟩ : ApiRequest) ∈ s.requests →
    payloadText payload "idempotency_key" ≠ "" →
    s.executions.get? (payloadText payload "idempotency_key") =
        some ⟨idempotencyFingerprint payload, newResponse result⟩ ∧
      s.store.entries.get? (payloadText payload "idempotency_key") = none
  retained : ∀ key execution, s.executions.get? key = some execution →
    (∃ entry, s.store.entries.get? key = some entry) ∨
    ∃ payload result, (⟨payload, .executed result⟩ : ApiRequest) ∈ s.requests ∧
      payloadText payload "idempotency_key" = key ∧ key ≠ ""

/-! ## The invariant -/

variable {requests : List ApiRequest} {request : ApiRequest}

theorem alone_append (h : Alone requests) (hidle : request.inFlight = false) :
    Alone (requests ++ [request]) := by
  have hold : ∀ (i : Nat) (first : ApiRequest), (requests ++ [request])[i]? = some first →
      first.inFlight = true →
      requests[i]? = some first := by
    intro i first hfirst hflight
    rw [List.getElem?_append] at hfirst
    split at hfirst
    · exact hfirst
    · have hmem := List.mem_of_getElem? hfirst
      rw [List.mem_singleton.mp hmem, hidle] at hflight
      exact absurd hflight (by simp)
  intro i j first second hi hj hfirst hsecond
  exact h i j first second (hold i first hi hfirst) (hold j second hj hsecond) hfirst hsecond

variable {index : Nat}

/-- A request that moves on keeps its key for itself, if it was in flight or nobody else is. -/
theorem alone_set (h : Alone requests) (hrequest : requests[index]? = some request)
    (phase : RequestPhase) (hflight : (⟨request.payload, phase⟩ : ApiRequest).inFlight = true →
      request.inFlight = true ∨ request.key = "" ∨
      ∀ other ∈ requests, other.inFlight = true → other.key ≠ request.key) :
    Alone (requests.set index ⟨request.payload, phase⟩) := by
  -- The request that moved on cannot share its key with another one.
  have hother : ∀ (j : Nat) (other : ApiRequest), j ≠ index → requests[j]? = some other → other.inFlight = true →
      (⟨request.payload, phase⟩ : ApiRequest).inFlight = true → request.key ≠ "" →
      other.key ≠ request.key := by
    intro j other hne hj hinFlight hmoved hkey hsame
    rcases hflight hmoved with hwas | hempty | hnone
    · exact hne (h j index other request hj hrequest hinFlight hwas (hsame ▸ hkey) hsame)
    · exact hkey hempty
    · exact hnone other (List.mem_of_getElem? hj) hinFlight hsame
  intro i j first second hi hj hfirst hsecond hkey hsame
  by_cases hii : i = index
  · subst hii
    by_cases hjj : j = i
    · exact hjj.symm
    · rw [List.getElem?_set_self (List.getElem?_eq_some_iff.mp hrequest).1] at hi
      rw [List.getElem?_set_ne (Ne.symm hjj)] at hj
      obtain rfl := Option.some.inj hi
      exact absurd hsame.symm (hother j second hjj hj hsecond hfirst hkey)
  · rw [List.getElem?_set_ne (Ne.symm hii)] at hi
    by_cases hjj : j = index
    · subst hjj
      rw [List.getElem?_set_self (List.getElem?_eq_some_iff.mp hrequest).1] at hj
      obtain rfl := Option.some.inj hj
      exact absurd hsame (hother i first hii hi hfirst hsecond (hsame ▸ hkey))
    · rw [List.getElem?_set_ne (Ne.symm hjj)] at hj
      exact h i j first second hi hj hfirst hsecond hkey hsame

variable {s : ApiServer}

/-- A new request is not in flight. -/
theorem settled_receive (h : s.Settled) (payload : CommandPayload) :
    Settled { s with requests := s.requests ++ [⟨payload, .received⟩] } := by
  have hold : ∀ request ∈ s.requests ++ [⟨payload, .received⟩], request.phase ≠ .received →
      request ∈ s.requests := by
    intro request hmem hphase
    rcases List.mem_append.mp hmem with hold | hnew
    · exact hold
    · rw [List.mem_singleton.mp hnew] at hphase
      exact absurd rfl hphase
  constructor
  · exact h.stored
  · exact alone_append h.alone rfl
  · intro payload hmem
    exact h.missed payload (hold _ hmem (by simp))
  · intro payload result hmem
    exact h.executed payload result (hold _ hmem (by simp))
  · intro key execution hexecution
    rcases h.retained key execution hexecution with hstored | ⟨payload, result, hmem, hkey⟩
    · exact .inl hstored
    · exact .inr ⟨payload, result, List.mem_append_left _ hmem, hkey⟩

omit [PyLib] in
theorem mem_setPhase {other : ApiRequest} (moved : ApiRequest)
    (hrequest : requests[index]? = some request) (hother : other ∈ requests) :
    other ∈ requests.set index moved ∨ other = request := by
  obtain ⟨j, hj⟩ := List.getElem?_of_mem hother
  by_cases hjj : j = index
  · subst hjj
    exact .inr (Option.some.inj (hj.symm.trans hrequest))
  · left
    apply List.mem_of_getElem?
    rw [List.getElem?_set_ne (Ne.symm hjj)]
    exact hj

/-- A request that is answered without an execution of its own. -/
theorem settled_answered (h : s.Settled) (hrequest : s.requests[index]? = some request)
    (hidle : ∀ result, request.phase = .executed result → request.key = "") (response : ApiResponse) :
    Settled (s.setPhase index request (.answered response)) := by
  have hold : ∀ other ∈ s.requests.set index ⟨request.payload, .answered response⟩,
      other.inFlight = true → other ∈ s.requests := by
    intro other hmem hflight
    rcases List.mem_or_eq_of_mem_set hmem with hold | rfl
    · exact hold
    · exact absurd hflight (by simp [ApiRequest.inFlight])
  constructor
  · exact h.stored
  · exact alone_set h.alone hrequest _ (by simp [ApiRequest.inFlight])
  · intro payload hmem
    exact h.missed payload (hold _ hmem rfl)
  · intro payload result hmem
    exact h.executed payload result (hold _ hmem rfl)
  · intro key execution hexecution
    rcases h.retained key execution hexecution with hstored | ⟨payload, result, hmem, hkey⟩
    · exact .inl hstored
    · rcases mem_setPhase ⟨request.payload, .answered response⟩ hrequest hmem with
        hstill | heq
      · exact .inr ⟨payload, result, hstill, hkey⟩
      · rw [← heq] at hidle
        exact absurd (hkey.1.symm.trans (hidle result rfl)) hkey.2

/-- Moving an entry to the newest place changes nothing that is stored. -/
theorem settled_get (h : s.Settled) (key : String) :
    Settled { s with store := (s.store.get key).2 } := by
  constructor
  · intro other entry hentry
    exact h.stored other entry (by simpa using hentry)
  · exact h.alone
  · exact h.missed
  · intro payload result hmem hkey
    obtain ⟨hexecution, hstore⟩ := h.executed payload result hmem hkey
    exact ⟨hexecution, by simpa using hstore⟩
  · intro other execution hexecution
    simpa using h.retained other execution hexecution

/-- Without a stored entry and without another request in flight, a key has no execution. -/
theorem executions_eq_none (h : s.Settled) {key : String} (hstore : s.store.entries.get? key = none)
    (hidle : ∀ other ∈ s.requests, other.inFlight = true → other.key ≠ key) :
    s.executions.get? key = none := by
  cases hexecution : s.executions.get? key with
  | none => rfl
  | some execution =>
    rcases h.retained key execution hexecution with ⟨entry, hentry⟩ | ⟨payload, result, hmem, hkey⟩
    · rw [hstore] at hentry
      exact absurd hentry (by simp)
    · exact absurd hkey.1 (hidle _ hmem rfl)

variable {payload : CommandPayload}

/-- A request whose key is not found goes on alone. -/
theorem settled_missed (h : s.Settled) (hrequest : s.requests[index]? = some ⟨payload, .received⟩)
    (hkey : payloadText payload "idempotency_key" ≠ "" →
      s.store.entries.get? (payloadText payload "idempotency_key") = none ∧
      ∀ other ∈ s.requests, other.inFlight = true →
        other.key ≠ payloadText payload "idempotency_key") :
    Settled (s.setPhase index ⟨payload, .received⟩ .missed) := by
  constructor
  · exact h.stored
  · refine alone_set h.alone hrequest _ fun _ => .inr ?_
    by_cases hempty : payloadText payload "idempotency_key" = ""
    · exact .inl hempty
    · exact .inr (hkey hempty).2
  · intro other hmem hother
    rcases List.mem_or_eq_of_mem_set hmem with hold | heq
    · exact h.missed other hold hother
    · obtain rfl : other = payload := (ApiRequest.mk.inj heq).1
      exact executions_eq_none h (hkey hother).1 (hkey hother).2
  · intro other result hmem hother
    rcases List.mem_or_eq_of_mem_set hmem with hold | heq
    · exact h.executed other result hold hother
    · exact absurd (ApiRequest.mk.inj heq).2 (by simp)
  · intro key execution hexecution
    rcases h.retained key execution hexecution with hstored | ⟨other, result, hmem, hother⟩
    · exact .inl hstored
    · rcases mem_setPhase ⟨payload, .missed⟩ hrequest hmem with hstill | heq
      · exact .inr ⟨other, result, hstill, hother⟩
      · exact absurd (ApiRequest.mk.inj heq).2 (by simp)

/-- Once one of two requests in flight has moved on, the other one still has another key. -/
theorem key_ne_of_alone (h : Alone requests) {moved other : ApiRequest}
    (hrequest : requests[index]? = some request) (hflight : request.inFlight = true)
    (hkey : request.key ≠ "") (hother : other ∈ requests.set index moved) (hne : other ≠ moved)
    (hotherFlight : other.inFlight = true) : other.key ≠ request.key := by
  intro hsame
  obtain ⟨j, hj⟩ := List.getElem?_of_mem hother
  by_cases hjj : j = index
  · subst hjj
    rw [List.getElem?_set_self (List.getElem?_eq_some_iff.mp hrequest).1] at hj
    exact hne (Option.some.inj hj).symm
  · rw [List.getElem?_set_ne (Ne.symm hjj)] at hj
    exact hjj (h j index other request hj hrequest hotherFlight hflight (hsame ▸ hkey) hsame)

/-- The execution of a command is retained under its key. -/
theorem settled_execute (h : s.Settled)
    (hrequest : s.requests[index]? = some ⟨payload, .missed⟩) (result : ApiResult) :
    Settled (s.execute index ⟨payload, .missed⟩ result) := by
  have hmem := List.mem_of_getElem? hrequest
  have halone := alone_set h.alone hrequest (.executed result) fun _ => .inl rfl
  have hstill := fun {other : CommandPayload} {result' : ApiResult}
      (hother : (⟨other, .executed result'⟩ : ApiRequest) ∈ s.requests) =>
    (mem_setPhase ⟨payload, .executed result⟩ hrequest hother).resolve_right fun heq =>
      absurd (ApiRequest.mk.inj heq).2 (by simp)
  have hlast := List.mem_of_getElem? (List.getElem?_set_self
    (a := (⟨payload, .executed result⟩ : ApiRequest)) (List.getElem?_eq_some_iff.mp hrequest).1)
  -- Without a key nothing is retained; with one, no other request in flight has it.
  by_cases hempty : payloadText payload "idempotency_key" = ""
  · have hexecutions : (s.execute index ⟨payload, .missed⟩ result).executions = s.executions :=
      if_pos hempty
    constructor
    · rw [hexecutions]
      exact h.stored
    · exact halone
    · intro other hother hkey
      rw [hexecutions]
      rcases List.mem_or_eq_of_mem_set hother with hold | heq
      · exact h.missed other hold hkey
      · exact absurd (ApiRequest.mk.inj heq).2 (by simp)
    · intro other result' hother hkey
      rw [hexecutions]
      rcases List.mem_or_eq_of_mem_set hother with hold | heq
      · exact h.executed other result' hold hkey
      · exact absurd ((ApiRequest.mk.inj heq).1 ▸ hempty) hkey
    · intro key execution hexecution
      rw [hexecutions] at hexecution
      rcases h.retained key execution hexecution with hstored | ⟨other, result', hold, hkey⟩
      · exact .inl hstored
      · exact .inr ⟨other, result', hstill hold, hkey⟩
  · have hnone := h.missed payload hmem hempty
    have hstore : s.store.entries.get? (payloadText payload "idempotency_key") = none := by
      cases hentry : s.store.entries.get? (payloadText payload "idempotency_key") with
      | none => rfl
      | some entry => simp [h.stored _ entry hentry] at hnone
    have hexecutions : (s.execute index ⟨payload, .missed⟩ result).executions =
        s.executions.set (payloadText payload "idempotency_key")
          ⟨idempotencyFingerprint payload, newResponse result⟩ := if_neg hempty
    have hapart := fun {other : ApiRequest}
        (hother : other ∈ s.requests.set index ⟨payload, .executed result⟩)
        (hne : other ≠ ⟨payload, .executed result⟩) (hflight : other.inFlight = true) =>
      key_ne_of_alone h.alone hrequest rfl hempty hother hne hflight
    constructor
    · intro key entry hentry
      rw [hexecutions, Dict.get?_set, if_neg]
      · exact h.stored key entry hentry
      · rintro rfl
        exact absurd (hstore.symm.trans hentry) (by simp)
    · exact halone
    · intro other hother hkey
      have hne : payloadText other "idempotency_key" ≠ payloadText payload "idempotency_key" :=
        hapart hother (fun heq => absurd (ApiRequest.mk.inj heq).2 (by simp)) rfl
      rw [hexecutions, Dict.get?_set_ne _ _ hne]
      rcases List.mem_or_eq_of_mem_set hother with hold | heq
      · exact h.missed other hold hkey
      · exact absurd (ApiRequest.mk.inj heq).2 (by simp)
    · intro other result' hother hkey
      rw [hexecutions]
      by_cases heq : (⟨other, .executed result'⟩ : ApiRequest) = ⟨payload, .executed result⟩
      · obtain ⟨rfl, hphase⟩ := ApiRequest.mk.inj heq
        obtain rfl := RequestPhase.executed.inj hphase
        exact ⟨Dict.get?_set_self _ _ _, hstore⟩
      · have hne : payloadText other "idempotency_key" ≠ payloadText payload "idempotency_key" :=
          hapart hother heq rfl
        rw [Dict.get?_set_ne _ _ hne]
        exact h.executed other result' ((List.mem_or_eq_of_mem_set hother).resolve_right heq) hkey
    · intro key execution hexecution
      by_cases hkey : key = payloadText payload "idempotency_key"
      · exact .inr ⟨payload, result, hlast, hkey.symm, hkey ▸ hempty⟩
      · rw [hexecutions, Dict.get?_set_ne _ _ hkey] at hexecution
        rcases h.retained key execution hexecution with hstored | ⟨other, result', hold, hother⟩
        · exact .inl hstored
        · exact .inr ⟨other, result', hstill hold, hother⟩

theorem settled_of_stored (h : s.Settled) {result : ApiResult}
    (hrequest : s.requests[index]? = some ⟨payload, .executed result⟩)
    (hkey : payloadText payload "idempotency_key" ≠ "") {store : IdempotencyStore}
    {entry : IdempotencyEntry}
    (hself : store.entries.get? (payloadText payload "idempotency_key") = some entry)
    (hentry : entry.execution = ⟨idempotencyFingerprint payload, newResponse result⟩)
    (hothers : ∀ other held, other ≠ payloadText payload "idempotency_key" →
      store.entries.get? other = some held → s.store.entries.get? other = some held)
    (response : ApiResponse) :
    Settled (setPhase
      { s with
        store := store
        executions := s.executions.filter fun key _ =>
          (store.entries.get? key).isSome || (s.store.entries.get? key).isNone }
      index ⟨payload, .executed result⟩ (.answered response)) := by
  obtain ⟨hexecution, hstore⟩ := h.executed payload result (List.mem_of_getElem? hrequest) hkey
  -- An entry that the store drops takes its execution with it.
  have hkept : ∀ key, (s.executions.filter fun key _ =>
      (store.entries.get? key).isSome || (s.store.entries.get? key).isNone).get? key =
        if (store.entries.get? key).isSome || (s.store.entries.get? key).isNone
        then s.executions.get? key else none := fun key => Dict.get?_filter_key _ _ _
  have hold : ∀ other ∈ s.requests.set index ⟨payload, .answered response⟩,
      other.inFlight = true → other ∈ s.requests := by
    intro other hmem hflight
    rcases List.mem_or_eq_of_mem_set hmem with hold | rfl
    · exact hold
    · exact absurd hflight (by simp [ApiRequest.inFlight])
  constructor
  · intro key held hheld
    show Dict.get? (Dict.filter _ _) key = _
    rw [hkept, if_pos (by simp [show store.entries.get? key = some held from hheld])]
    by_cases hsame : key = payloadText payload "idempotency_key"
    · subst hsame
      obtain rfl := Option.some.inj (hself.symm.trans hheld)
      rw [hexecution, hentry]
    · exact h.stored key held (hothers key held hsame hheld)
  · exact alone_set h.alone hrequest _ (by simp [ApiRequest.inFlight])
  · intro other hmem hother
    show Dict.get? (Dict.filter _ _) _ = _
    rw [hkept, h.missed other (hold _ hmem rfl) hother]
    split <;> rfl
  · intro other result' hmem hother
    show Dict.get? (Dict.filter _ _) _ = _ ∧ store.entries.get? _ = _
    obtain ⟨hretained, hnone⟩ := h.executed other result' (hold _ hmem rfl) hother
    have hne : payloadText other "idempotency_key" ≠ payloadText payload "idempotency_key" :=
      key_ne_of_alone h.alone hrequest rfl hkey hmem
        (fun heq => absurd (ApiRequest.mk.inj heq).2 (by simp)) rfl
    refine ⟨by rw [hkept, if_pos (by simp [hnone]), hretained], ?_⟩
    cases hheld : store.entries.get? (payloadText other "idempotency_key") with
    | none => rfl
    | some held => exact absurd (hnone.symm.trans (hothers _ held hne hheld)) (by simp)
  · intro key execution hretained
    replace hretained : Dict.get? (Dict.filter _ _) key = some execution := hretained
    rw [hkept] at hretained
    by_cases hsame : key = payloadText payload "idempotency_key"
    · exact .inl ⟨entry, hsame ▸ hself⟩
    · split at hretained
      · next hkeep =>
        rcases h.retained key execution hretained with ⟨held, hheld⟩ | ⟨other, result', hmem, hother⟩
        · left
          simp only [hheld, Option.isNone_some, Bool.or_false] at hkeep
          exact Option.isSome_iff_exists.mp hkeep
        · refine .inr ⟨other, result', ?_, hother⟩
          refine (mem_setPhase ⟨payload, .answered response⟩ hrequest hmem).resolve_right ?_
          intro heq
          exact hsame (hother.1.symm.trans (by rw [(ApiRequest.mk.inj heq).1]))
      · exact absurd hretained (by simp)

/-- The response of an execution is stored under its key. -/
theorem settled_storeResponse (h : s.Settled) {result : ApiResult}
    (hrequest : s.requests[index]? = some ⟨payload, .executed result⟩) :
    Settled (s.storeResponse index ⟨payload, .executed result⟩ result) := by
  unfold storeResponse
  by_cases hempty : payloadText payload "idempotency_key" = ""
  · rw [if_pos (show ApiRequest.key ⟨payload, .executed result⟩ = "" from hempty)]
    exact settled_answered h hrequest (fun _ _ => hempty) _
  · rw [if_neg (show ApiRequest.key ⟨payload, .executed result⟩ ≠ "" from hempty)]
    refine settled_of_stored h hrequest hempty (s.store.get?_put_self _ _) ?_
      (fun other held hne hheld => s.store.get?_put_other _ hne hheld) _
    unfold IdempotencyEntry.execution newResponse
    rw [persistedResponse_eq]
    rfl

/-- Every step keeps the invariant while keys are used one at a time. -/
theorem settled_step (h : s.Settled) {e : ApiEvent} (hone : s.OneAtATime e) :
    Settled (s.step e) := by
  cases e with
  | receive payload commandIdHeader idempotencyKeyHeader uuid => exact settled_receive h _
  | lookup index =>
    unfold step
    dsimp only
    split
    · next payload hrequest =>
      unfold lookup
      by_cases hempty : payloadText payload "idempotency_key" = ""
      · rw [if_pos (show ApiRequest.key ⟨payload, .received⟩ = "" from hempty)]
        exact settled_missed h hrequest fun hkey => absurd hempty hkey
      · rw [if_neg (show ApiRequest.key ⟨payload, .received⟩ ≠ "" from hempty)]
        split
        · next hnone =>
          refine settled_missed h hrequest fun hkey => ⟨?_, ?_⟩
          · exact (s.store.get_fst _).symm.trans hnone
          · exact hone _ hrequest hkey
        · exact settled_answered (settled_get h _) hrequest (by simp) _
    · exact h
  | refuse index response =>
    unfold step
    dsimp only
    split
    · next payload hrequest => exact settled_answered h hrequest (by simp) response
    · exact h
  | execute index result =>
    unfold step
    dsimp only
    split
    · next payload hrequest => exact settled_execute h hrequest result
    · exact h
  | store index =>
    unfold step
    dsimp only
    split
    · next payload result hrequest => exact settled_storeResponse h hrequest
    · exact h

/-- Under the invariant a step respects the idempotency keys. -/
theorem idempotent_of_settled (h : s.Settled) {e : ApiEvent} (hone : s.OneAtATime e) :
    s.Idempotent e := by
  cases e with
  | receive payload commandIdHeader idempotencyKeyHeader uuid => trivial
  | execute index result | refuse index response =>
    intro payload hrequest hkey
    exact h.missed payload (List.mem_of_getElem? hrequest) hkey
  | store index =>
    intro payload result hrequest hkey
    exact (h.executed payload result (List.mem_of_getElem? hrequest) hkey).1
  | lookup index =>
    intro payload execution hrequest hkey hexecution
    have hidle := hone _ hrequest hkey
    rcases h.retained _ execution hexecution with ⟨entry, hentry⟩ | ⟨other, result, hmem, hother⟩
    · have hfound := h.stored _ entry hentry
      rw [hexecution] at hfound
      obtain rfl := Option.some.inj hfound
      have hget : (s.store.get (ApiRequest.key ⟨payload, .received⟩)).1 = some entry :=
        (s.store.get_fst _).trans hentry
      unfold step
      simp only [hrequest]
      unfold lookup
      rw [if_neg (show ApiRequest.key ⟨payload, .received⟩ ≠ "" from hkey), hget]
      exact List.getElem?_set_self (List.getElem?_eq_some_iff.mp hrequest).1
    · exact absurd hother.1 (hidle _ hmem rfl)

theorem settled_start (store : IdempotencyStore) : Settled (start store) := by
  constructor
  · intro key entry hentry
    show (store.entries.mapVal fun _ entry => entry.execution).get? key = _
    rw [Dict.get?_mapVal, show store.entries.get? key = some entry from hentry]
    rfl
  · intro i j first second hi
    simp [start] at hi
  · intro payload hmem
    exact absurd hmem List.not_mem_nil
  · intro payload result hmem
    exact absurd hmem List.not_mem_nil
  · intro key execution hexecution
    replace hexecution : (store.entries.mapVal fun _ entry => entry.execution).get? key = _ :=
      hexecution
    rw [Dict.get?_mapVal] at hexecution
    obtain ⟨entry, hentry, -⟩ := Option.map_eq_some_iff.mp hexecution
    exact .inl ⟨entry, hentry⟩

/-- In every run in which no request is looked up while another one with its key is in flight, a
command is executed once for its key, and later requests with the key are answered from it. -/
theorem idempotent_run (store : IdempotencyStore) {events : List ApiEvent}
    (hone : Along step OneAtATime (start store) events) :
    Along step Idempotent (start store) events :=
  along_of_invariant (fun _ _ h hone => settled_step h hone)
    (fun _ _ h hone => idempotent_of_settled h hone) (settled_start store) hone

end ApiServer

end

namespace ApiServer

section

local instance idempotencySampleLib : PyLib := PyLib.sample

/-- An empty store of the usual size. -/
def sampleStore : IdempotencyStore where
  historyLimit := 200
  entries := Dict.empty
  historyLimit_pos := by decide
  length_le := by decide

def sampleCommand : CommandPayload :=
  Dict.ofList [("name", .str "set_enable"), ("target", .str "enable"), ("value", .int 1)]

/-- The command was applied. -/
def sampleResult : ApiResult where
  status := .applied
  accepted := true
  detail := ""
  command := sampleCommand
  result := Dict.ofList [("status", .str "applied")]
  error := Dict.empty

/-- A request and its retry after the answer. -/
def retriedRequest : List ApiEvent :=
  [.receive sampleCommand "" "enable-1" "u1", .lookup 0, .execute 0 sampleResult, .store 0,
    .receive sampleCommand "" "enable-1" "u2", .lookup 1]

/-- A request and its retry before the answer, up to the second execution. -/
def overlappingRequests : List ApiEvent :=
  [.receive sampleCommand "" "enable-1" "u1", .receive sampleCommand "" "enable-1" "u2", .lookup 0,
    .lookup 1, .execute 0 sampleResult]

/-- A retry after the answer respects the key. -/
theorem idempotent_run_retried : Along step Idempotent (start sampleStore) retriedRequest :=
  idempotent_run sampleStore (by decide +kernel)

/-- Two requests with one key and one payload are both executed, because the second one was looked up
before the response of the first one was stored. -/
theorem executed_twice_overlapping :
    ¬ Along step Idempotent (start sampleStore)
      (overlappingRequests ++ [.execute 1 sampleResult]) := by
  intro hrun
  have hmissed : (run step (start sampleStore) overlappingRequests).requests[1]? =
      some ⟨trackedPayload sampleCommand "" "enable-1" "u2", .missed⟩ := by
    decide +kernel
  have hnone := along_iff_splits.mp hrun overlappingRequests (.execute 1 sampleResult) [] rfl _
    hmissed (by decide +kernel)
  exact absurd hnone (by decide +kernel)

end

end ApiServer

end VenusEvcharger
