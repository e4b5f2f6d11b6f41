import VenusEvcharger.Library.Run
import VenusEvcharger.Library.TailReader
import VenusEvcharger.Python.Value

/-!
# The event stream of the control API

A stream writes a slice of the recent events of the bus, and then one event after another as they are published. Its
cursor is the sequence number up to which it has read. `stream_accounted` is the main result: every matching event
after the requested number was written once, in order, or lies ahead of the cursor, or was left out by the limit of
the recent slice, and a stream with events ahead reads on (`Continues`).

Scope: the query parameters are those that were parsed. The fields of an event that no reader looks at, the payloads of
snapshots and heartbeats, and a client that goes away in the middle of a line are left out.
-/

namespace VenusEvcharger

open Library

/-- An event of the bus. -/
structure ControlApiEvent where
  seq : Nat
  kind : String
  payload : CommandPayload
deriving DecidableEq

/-- `CONTROL_API_EVENT_KINDS`. -/
def controlApiEventKinds : List String := ["snapshot", "command", "state", "heartbeat"]

/-- `normalized_control_api_event_kind` of a text. -/
def normalizedControlApiEventKind (value : String) : String :=
  let kind := lower (strip value)
  if kind ∈ controlApiEventKinds then kind else "state"

/-- `ControlApiEventBus`. Sequence numbers increase, and no more events are kept than the limit allows. -/
structure ControlApiEventBus where
  historyLimit : Nat
  events : List ControlApiEvent
  nextSeq : Nat
  limit_pos : 0 < historyLimit
  bounded : events.length ≤ historyLimit
  increasing : Increasing ControlApiEvent.seq events
  issued : ∀ e ∈ events, e.seq < nextSeq

namespace ControlApiEventBus

/-- A new bus. -/
def new (historyLimit : Nat) : ControlApiEventBus where
  historyLimit := max 1 historyLimit
  events := []
  nextSeq := 1
  limit_pos := Nat.lt_of_lt_of_le Nat.one_pos (le_max_left _ _)
  bounded := Nat.zero_le _
  increasing := List.Pairwise.nil
  issued := fun _ he => nomatch he

/-- The event that `publish` stores. -/
def nextEvent (bus : ControlApiEventBus) (kind : String) (payload : CommandPayload) : ControlApiEvent :=
  ⟨bus.nextSeq, normalizedControlApiEventKind kind, payload⟩

/-- What is left of the events when another one is appended. -/
def retained (bus : ControlApiEventBus) : List ControlApiEvent :=
  if bus.events.length = bus.historyLimit then bus.events.tail else bus.events

/-- Only the oldest event can go. -/
theorem retained_sublist (bus : ControlApiEventBus) : bus.retained.Sublist bus.events := by
  unfold retained
  split
  · exact List.tail_sublist _
  · exact List.Sublist.refl _

/-- `publish`. -/
def publish (bus : ControlApiEventBus) (kind : String) (payload : CommandPayload) : ControlApiEventBus where
  historyLimit := bus.historyLimit
  events := bus.retained ++ [bus.nextEvent kind payload]
  nextSeq := bus.nextSeq + 1
  limit_pos := bus.limit_pos
  bounded := by
    have hpos := bus.limit_pos
    have hbound := bus.bounded
    rw [List.length_append, List.length_singleton, retained]
    split
    · rw [List.length_tail]
      omega
    · omega
  increasing := by
    refine List.pairwise_append.mpr ⟨bus.increasing.sublist bus.retained_sublist, List.pairwise_singleton _ _, ?_⟩
    intro e he next hnext
    rw [List.mem_singleton.mp hnext]
    exact bus.issued e (bus.retained_sublist.mem he)
  issued := by
    intro e he
    rcases List.mem_append.mp he with he | he
    · exact Nat.lt_succ_of_lt (bus.issued e (bus.retained_sublist.mem he))
    · rw [List.mem_singleton.mp he]
      exact Nat.lt_succ_self _

/-- The events after a sequence number. -/
def after (bus : ControlApiEventBus) (afterSeq : Nat) : List ControlApiEvent :=
  unread ControlApiEvent.seq afterSeq bus.events

/-- `recent`: the newest events after a sequence number. -/
def recent (bus : ControlApiEventBus) (limit afterSeq : Nat) : List ControlApiEvent :=
  if limit = 0 then [] else (bus.after afterSeq).drop ((bus.after afterSeq).length - limit)

/-- `_first_after_seq`. -/
def firstAfter (bus : ControlApiEventBus) (afterSeq : Nat) : Option ControlApiEvent :=
  bus.events.find? fun e => decide (afterSeq < e.seq)

/-- A bus on which nothing is found has nothing after the cursor. -/
theorem after_eq_nil {bus : ControlApiEventBus} {afterSeq : Nat} (h : bus.firstAfter afterSeq = none) :
    bus.after afterSeq = [] :=
  List.filter_eq_nil_iff.mpr (List.find?_eq_none.mp h)

/-- The first event is found, and the others are after it. -/
theorem after_eq_cons {bus : ControlApiEventBus} {afterSeq : Nat} {event : ControlApiEvent} {later : List ControlApiEvent}
    (h : bus.after afterSeq = event :: later) :
    bus.firstAfter afterSeq = some event ∧ afterSeq ≤ event.seq ∧ bus.after event.seq = later := by
  have hfirst : bus.firstAfter afterSeq = some event := by
    rw [firstAfter, ← List.head?_filter]
    exact congrArg List.head? h
  obtain ⟨hunread, -, hlater⟩ := unread_eq_cons bus.increasing hfirst
  exact ⟨hfirst, hlater.le, (List.cons.inj (hunread.symm.trans h)).2⟩

theorem after_recent (bus : ControlApiEventBus) {limit : Nat} (hlimit : limit ≠ 0) (afterSeq : Nat) :
    bus.after (cursorAfter ControlApiEvent.seq afterSeq (bus.recent limit afterSeq)) = [] := by
  rw [recent, if_neg hlimit]
  refine unread_eq_nil fun e he => ?_
  by_cases hlater : afterSeq < e.seq
  · have hmem : e ∈ bus.after afterSeq := mem_unread.mpr ⟨he, hlater⟩
    have hlen : 0 < (bus.after afterSeq).length := List.length_pos_of_mem hmem
    exact le_cursorAfter_drop (bus.increasing.unread afterSeq)
      (.inl (Nat.sub_lt hlen (Nat.pos_of_ne_zero hlimit))) e hmem
  · exact (not_lt.mp hlater).trans (le_cursorAfter _ _).1

end ControlApiEventBus

/-- The parameters of a stream. -/
structure StreamRequest where
  limit : Nat
  afterSeq : Nat
  timeout : ℚ
  heartbeat : ℚ
  eventKinds : List String
  once : Bool

/-- `event_matches_kinds`. -/
def StreamRequest.matchesKinds (request : StreamRequest) (event : ControlApiEvent) : Bool :=
  decide (request.eventKinds = []) || decide (lower (strip event.kind) ∈ request.eventKinds)

/-- A line of the response. -/
inductive StreamLine where
  | snapshot
  | event (event : ControlApiEvent)
  | heartbeat (seq : Nat)
deriving DecidableEq

/-- The sequence number of a line, from which a client resumes. -/
def StreamLine.seq : StreamLine → Nat
  | .snapshot => 0
  | .event held => held.seq
  | .heartbeat cursor => cursor

/-- Where the stream is: before `recent`, at the head of `write_live_events`, before the first look of `wait_for_next`,
in its wait, or at the end. `remaining` is the time that was left at the head of the loop. -/
inductive StreamPoint where
  | recent
  | live (deadline : ℚ)
  | look (deadline remaining : ℚ)
  | waiting (deadline remaining : ℚ)
  | ended
deriving DecidableEq

/-- The bus and a stream. `skipped` are the events that the recent slice leaves out, and `history` are the events that
were retained when the stream began and those published since. -/
structure EventStreamRun where
  bus : ControlApiEventBus
  point : StreamPoint
  cursor : Nat
  lines : List StreamLine
  skipped : List ControlApiEvent
  history : List ControlApiEvent

/-- One step: another thread publishes, or the stream goes on. A wait may end at any time. -/
inductive StreamEvent where
  | publish (kind : String) (payload : CommandPayload)
  | recent (now : ℚ)
  | live (now later : ℚ)
  | look
  | wake

namespace EventStreamRun

section Request

variable (request : StreamRequest)

/-- `write_stream` up to the recent events: the snapshot is for clients that do not resume. -/
def start (bus : ControlApiEventBus) : EventStreamRun where
  bus := bus
  point := .recent
  cursor := request.afterSeq
  lines :=
    if 0 < request.afterSeq ∨ request.eventKinds ≠ [] ∧ "snapshot" ∉ request.eventKinds then [] else [.snapshot]
  skipped := []
  history := bus.events

/-- `write_recent_events`, and the deadline of `write_live_events`. -/
def writeRecent (r : EventStreamRun) (now : ℚ) : EventStreamRun :=
  let events := r.bus.after r.cursor
  let recent := r.bus.recent request.limit r.cursor
  { r with
    point := if request.once then .ended else .live (now + max 0 request.timeout)
    cursor := cursorAfter ControlApiEvent.seq r.cursor recent
    lines := r.lines ++ (recent.filter request.matchesKinds).map .event
    skipped := if request.limit = 0 then [] else events.take (events.length - request.limit) }

/-- An event that `wait_for_next` returned. One that does not match is passed over. -/
def receive (r : EventStreamRun) (deadline remaining : ℚ) (event : ControlApiEvent) : EventStreamRun :=
  let cursor := max r.cursor event.seq
  if request.matchesKinds event then
    { r with point := .live deadline, cursor := cursor, lines := r.lines ++ [.event event] }
  else { r with point := .look deadline remaining, cursor := cursor }

/-- `wait_for_next` returned nothing. -/
def receiveNothing (r : EventStreamRun) (deadline remaining : ℚ) : EventStreamRun :=
  if request.heartbeat ≤ 0 ∨ remaining ≤ 0 then { r with point := .ended }
  else { r with point := .live deadline, lines := r.lines ++ [.heartbeat r.cursor] }

/-- One step of a run. -/
def step (r : EventStreamRun) : StreamEvent → EventStreamRun
  | .publish kind payload =>
    { r with bus := r.bus.publish kind payload, history := r.history ++ [r.bus.nextEvent kind payload] }
  | .recent now => if r.point = .recent then r.writeRecent request now else r
  | .live now later =>
    match r.point with
    | .live deadline =>
      { r with point := if now < deadline then .look deadline (max 0 (deadline - later)) else .ended }
    | _ => r
  | .look =>
    match r.point with
    | .look deadline remaining =>
      match r.bus.firstAfter r.cursor with
      | some event => r.receive request deadline remaining event
      | none => { r with point := .waiting deadline remaining }
    | _ => r
  | .wake =>
    match r.point with
    | .waiting deadline remaining =>
      match r.bus.firstAfter r.cursor with
      | some event => r.receive request deadline remaining event
      | none => r.receiveNothing request deadline remaining
    | _ => r

/-- The events that were written. -/
def written (r : EventStreamRun) : List ControlApiEvent :=
  r.lines.filterMap fun line =>
    match line with
    | .event event => some event
    | _ => none

/-- The events that the client asked for. -/
def requested (r : EventStreamRun) : List ControlApiEvent :=
  (unread ControlApiEvent.seq request.afterSeq r.history).filter request.matchesKinds

/-- The events that lie ahead. -/
def ahead (r : EventStreamRun) : List ControlApiEvent := (r.bus.after r.cursor).filter request.matchesKinds

/-- No event that was requested is lost: it was written, or it lies ahead. -/
def Gapless (r : EventStreamRun) : Prop := r.written ++ r.ahead request = r.requested request

end Request

/-- The bus keeps the events that the stream has not read. -/
def Retains (r : EventStreamRun) : StreamEvent → Prop
  | .publish _ _ => r.bus.events.length = r.bus.historyLimit → ∀ oldest ∈ r.bus.events.head?, oldest.seq ≤ r.cursor
  | _ => True

/-! ## What a run keeps -/

/-- The events are accounted for. -/
structure Accounted (request : StreamRequest) (r : EventStreamRun) : Prop where
  increasing : Increasing ControlApiEvent.seq r.history
  issued : ∀ e ∈ r.history, e.seq < r.bus.nextSeq
  started : request.afterSeq ≤ r.cursor
  reached : r.cursor = request.afterSeq ∨ r.cursor < r.bus.nextSeq
  tail : r.bus.after r.cursor = unread ControlApiEvent.seq r.cursor r.history
  fresh : r.point = .recent → r.cursor = request.afterSeq ∧ r.skipped = [] ∧ r.written = []
  account : r.skipped.filter request.matchesKinds ++ r.written ++ r.ahead request = r.requested request
  skipped : r.skipped ≠ [] → 0 < request.limit ∧
    r.skipped.length + request.limit ≤ (unread ControlApiEvent.seq request.afterSeq r.history).length
  lines : ∀ line ∈ r.lines, line.seq ≤ r.cursor

section Steps

variable {request : StreamRequest} {r : EventStreamRun}

theorem accounted_start (request : StreamRequest) (bus : ControlApiEventBus) : (start request bus).Accounted request := by
  have hwritten : (start request bus).written = [] := by
    unfold start written
    split <;> rfl
  refine ⟨bus.increasing, bus.issued, le_refl _, .inl rfl, rfl, fun _ => ⟨rfl, rfl, hwritten⟩, ?_,
    fun hne => absurd rfl hne, ?_⟩
  · rw [hwritten]
    rfl
  · intro line hline
    unfold start at hline
    split at hline
    · nomatch hline
    · rw [List.mem_singleton.mp hline]
      exact Nat.zero_le _

/-- A published event lies ahead of a stream that the bus retains it for. -/
theorem accounted_publish (h : r.Accounted request) (kind : String) (payload : CommandPayload)
    (hretains : r.Retains (.publish kind payload)) : (r.step request (.publish kind payload)).Accounted request := by
  let event := r.bus.nextEvent kind payload
  have hnew : ∀ e ∈ r.history, e.seq < event.seq := h.issued
  -- the new event is ahead of the cursor exactly when it was requested
  have hsame : unread ControlApiEvent.seq r.cursor [event] = unread ControlApiEvent.seq request.afterSeq [event] := by
    rcases h.reached with heq | hlt
    · rw [heq]
    · have hcursor : ∀ e ∈ [event], r.cursor < e.seq := fun e he => by rwa [List.mem_singleton.mp he]
      rw [unread_eq_self hcursor, unread_eq_self fun e he => lt_of_le_of_lt h.started (hcursor e he)]
  have hkept : unread ControlApiEvent.seq r.cursor r.bus.retained = r.bus.after r.cursor := by
    unfold ControlApiEventBus.retained
    split
    · rename_i hfull
      exact unread_tail (hretains hfull)
    · rfl
  have hafter : (r.bus.publish kind payload).after r.cursor =
      r.bus.after r.cursor ++ unread ControlApiEvent.seq r.cursor [event] := by
    show unread ControlApiEvent.seq r.cursor (r.bus.retained ++ [event]) = _
    rw [unread_append, hkept]
  refine ⟨?_, ?_, h.started, ?_, ?_, h.fresh, ?_, ?_, h.lines⟩
  · refine List.pairwise_append.mpr ⟨h.increasing, List.pairwise_singleton _ _, fun e he next hnext => ?_⟩
    rw [List.mem_singleton.mp hnext]
    exact hnew e he
  · intro e he
    rcases List.mem_append.mp he with he | he
    · exact Nat.lt_succ_of_lt (h.issued e he)
    · rw [List.mem_singleton.mp he]
      exact Nat.lt_succ_self _
  · exact h.reached.imp_right Nat.lt_succ_of_lt
  · show (r.bus.publish kind payload).after r.cursor = unread ControlApiEvent.seq r.cursor (r.history ++ [event])
    rw [hafter, unread_append, h.tail]
  · show r.skipped.filter request.matchesKinds ++ r.written ++
        ((r.bus.publish kind payload).after r.cursor).filter request.matchesKinds =
      (unread ControlApiEvent.seq request.afterSeq (r.history ++ [event])).filter request.matchesKinds
    rw [hafter, unread_append, List.filter_append, List.filter_append, hsame, ← List.append_assoc]
    exact congrArg (· ++ _) h.account
  · intro hne
    obtain ⟨hpos, hlen⟩ := h.skipped hne
    refine ⟨hpos, ?_⟩
    show _ ≤ (unread ControlApiEvent.seq request.afterSeq (r.history ++ [event])).length
    rw [unread_append, List.length_append]
    exact Nat.le_add_right_of_le hlen

theorem written_append (r : EventStreamRun) (lines : List StreamLine) {s : EventStreamRun} (hs : s.lines = r.lines ++ lines) :
    s.written = r.written ++ lines.filterMap fun line =>
      match line with
      | .event event => some event
      | _ => none := by
  rw [written, hs, List.filterMap_append]
  rfl

/-- The recent slice is the end of what lies ahead, and nothing lies ahead of it. -/
theorem writeRecent_split (r : EventStreamRun) (request : StreamRequest) (now : ℚ) :
    (r.writeRecent request now).skipped ++ r.bus.recent request.limit r.cursor ++
      r.bus.after (r.writeRecent request now).cursor = r.bus.after r.cursor := by
  let events := r.bus.after r.cursor
  show (if request.limit = 0 then [] else events.take (events.length - request.limit)) ++
    r.bus.recent request.limit r.cursor ++
    r.bus.after (cursorAfter ControlApiEvent.seq r.cursor (r.bus.recent request.limit r.cursor)) = events
  unfold ControlApiEventBus.recent
  split
  · rfl
  · rename_i hlimit
    have hnone := r.bus.after_recent hlimit r.cursor
    rw [ControlApiEventBus.recent, if_neg hlimit] at hnone
    rw [hnone, List.append_nil]
    exact List.take_append_drop _ _

theorem writeRecent_reached (h : r.Accounted request) (now : ℚ) :
    (r.writeRecent request now).cursor = request.afterSeq ∨ (r.writeRecent request now).cursor < r.bus.nextSeq := by
  have hrecent : r.bus.recent request.limit r.cursor ⊆ r.bus.after r.cursor := by
    intro e he
    rw [← r.writeRecent_split request now]
    exact List.mem_append_left _ (List.mem_append_right _ he)
  rcases h.reached with heq | hlt
  · cases hempty : r.bus.recent request.limit r.cursor with
    | nil =>
      left
      show cursorAfter ControlApiEvent.seq r.cursor (r.bus.recent request.limit r.cursor) = _
      rw [hempty]
      exact heq
    | cons first later =>
      right
      have hfirst : first ∈ r.bus.recent request.limit r.cursor := by
        rw [hempty]
        exact List.mem_cons_self
      have hcursor : r.cursor < r.bus.nextSeq :=
        (mem_unread.mp (hrecent hfirst)).2.trans (r.bus.issued first (mem_unread.mp (hrecent hfirst)).1)
      exact Nat.lt_of_le_pred (by omega) (cursorAfter_le (Nat.le_pred_of_lt hcursor)
        fun e he => Nat.le_pred_of_lt (r.bus.issued e (mem_unread.mp (hrecent he)).1))
  · exact .inr (Nat.lt_of_le_pred (by omega) (cursorAfter_le (Nat.le_pred_of_lt hlt)
      fun e he => Nat.le_pred_of_lt (r.bus.issued e (mem_unread.mp (hrecent he)).1)))

/-- Writing the recent slice keeps the account. -/
theorem accounted_recent (h : r.Accounted request) (now : ℚ) (hpoint : r.point = .recent) :
    (r.writeRecent request now).Accounted request := by
  obtain ⟨hcursor, hskipped, hwritten⟩ := h.fresh hpoint
  let events := r.bus.after r.cursor
  have hsplit := r.writeRecent_split request now
  have hwrites : (r.writeRecent request now).written =
      (r.bus.recent request.limit r.cursor).filter request.matchesKinds := by
    rw [written_append r _ rfl, hwritten, List.nil_append, List.filterMap_map]
    exact List.filterMap_some
  obtain ⟨hstart, hread⟩ : r.cursor ≤ (r.writeRecent request now).cursor ∧
      ∀ e ∈ r.bus.recent request.limit r.cursor, e.seq ≤ (r.writeRecent request now).cursor := le_cursorAfter _ _
  have hmatched : (r.writeRecent request now).skipped.filter request.matchesKinds ++ (r.writeRecent request now).written ++
      (r.writeRecent request now).ahead request = events.filter request.matchesKinds := by
    show _ ++ _ ++ (r.bus.after (r.writeRecent request now).cursor).filter request.matchesKinds = _
    rw [hwrites, ← List.filter_append, ← List.filter_append, hsplit]
  refine ⟨h.increasing, h.issued, h.started.trans hstart, writeRecent_reached h now, ?_, ?_, ?_, ?_, ?_⟩
  · show r.bus.after (r.writeRecent request now).cursor = unread _ (r.writeRecent request now).cursor r.history
    rw [← unread_unread hstart r.history, ← h.tail]
    exact (unread_unread hstart r.bus.events).symm
  · intro hrecentPoint
    exfalso
    change (if request.once then StreamPoint.ended else .live _) = .recent at hrecentPoint
    split at hrecentPoint <;> exact nomatch hrecentPoint
  · rw [hmatched]
    show (r.bus.after r.cursor).filter request.matchesKinds = _
    rw [h.tail, hcursor]
    rfl
  · intro hne
    change (if request.limit = 0 then [] else events.take (events.length - request.limit)) ≠ [] at hne
    show 0 < request.limit ∧ (if request.limit = 0 then [] else events.take (events.length - request.limit)).length +
      request.limit ≤ _
    split at hne
    · exact absurd rfl hne
    · rename_i hlimit
      have hlen : 0 < (events.take (events.length - request.limit)).length := List.length_pos_iff.mpr hne
      have hall : events.length = (unread ControlApiEvent.seq request.afterSeq r.history).length := by
        rw [← hcursor]
        exact congrArg List.length h.tail
      rw [if_neg hlimit]
      rw [List.length_take] at hlen ⊢
      change 0 < request.limit ∧ _ ≤ (unread ControlApiEvent.seq request.afterSeq r.history).length
      rw [← hall]
      omega
  · intro line hline
    rcases List.mem_append.mp hline with hold | hnew
    · exact (h.lines line hold).trans hstart
    · obtain ⟨e, he, rfl⟩ := List.mem_map.mp hnew
      exact hread e (List.mem_filter.mp he).1

variable {deadline remaining : ℚ}

section

variable (event : ControlApiEvent)

theorem receive_cursor :
    (r.receive request deadline remaining event).cursor = max r.cursor event.seq := by
  unfold receive
  dsimp only
  split <;> rfl

/-- Nothing but the point, the cursor and the lines changes. -/
theorem receive_frame :
    (r.receive request deadline remaining event).bus = r.bus ∧
      (r.receive request deadline remaining event).history = r.history ∧
      (r.receive request deadline remaining event).skipped = r.skipped := by
  unfold receive
  dsimp only
  split <;> exact ⟨rfl, rfl, rfl⟩

/-- The stream looks at the clock after a line, and at the bus again after an event that it passed over. -/
theorem receive_point :
    (r.receive request deadline remaining event).point = .live deadline ∨
      (r.receive request deadline remaining event).point = .look deadline remaining := by
  unfold receive
  dsimp only
  split
  · exact .inl rfl
  · exact .inr rfl

/-- A line is written when the kind was asked for. -/
theorem receive_lines :
    (r.receive request deadline remaining event).lines =
      r.lines ++ if request.matchesKinds event then [.event event] else [] := by
  unfold receive
  dsimp only
  split
  · rfl
  · exact (List.append_nil _).symm

theorem receive_written :
    (r.receive request deadline remaining event).written = r.written ++ [event].filter request.matchesKinds := by
  rw [written_append r _ (receive_lines event), List.filter_singleton]
  cases request.matchesKinds event <;> rfl

end

/-- The event that is received was the next one. -/
theorem accounted_receive (h : r.Accounted request) {event : ControlApiEvent}
    (hfirst : r.bus.firstAfter r.cursor = some event) :
    (r.receive request deadline remaining event).Accounted request := by
  obtain ⟨hunread, hmem, hlater⟩ := unread_eq_cons r.bus.increasing hfirst
  have hcursor : (r.receive request deadline remaining event).cursor = event.seq :=
    (receive_cursor event).trans (max_eq_right hlater.le)
  have hframe : (r.receive request deadline remaining event).bus = r.bus ∧ _ := receive_frame event
  obtain ⟨hbus, hhistory, hskipped⟩ := hframe
  have hstarted : request.afterSeq ≤ event.seq := h.started.trans hlater.le
  refine ⟨by rw [hhistory]; exact h.increasing, by rw [hhistory, hbus]; exact h.issued, by rwa [hcursor], ?_, ?_, ?_, ?_,
    by rw [hskipped, hhistory]; exact h.skipped, ?_⟩
  · rw [hcursor, hbus]
    exact .inr (r.bus.issued event hmem)
  · rw [hcursor, hbus, hhistory, ← unread_unread hlater.le r.history, ← h.tail]
    exact (unread_unread hlater.le r.bus.events).symm
  · intro hrecent
    rcases receive_point event with hlive | hlook
    · nomatch hlive.symm.trans hrecent
    · nomatch hlook.symm.trans hrecent
  · have hrequested : (r.receive request deadline remaining event).requested request = r.requested request := by
      rw [requested, requested, hhistory]
    rw [hrequested, ← h.account, hskipped, receive_written, ahead, ahead, hbus, hcursor, ← List.append_assoc,
      List.append_assoc, ← List.filter_append]
    show _ = _ ++ (unread ControlApiEvent.seq r.cursor r.bus.events).filter request.matchesKinds
    rw [hunread]
    rfl
  · rw [receive_lines, hcursor]
    intro line hline
    rcases List.mem_append.mp hline with hold | hnew
    · exact (h.lines line hold).trans hlater.le
    · split at hnew
      · rw [List.mem_singleton.mp hnew]
        exact le_refl _
      · nomatch hnew

/-- A step that reads nothing, and writes nothing but heartbeats, keeps the account. -/
theorem Accounted.of_frame (h : r.Accounted request) {point : StreamPoint} (hpoint : point ≠ .recent)
    {lines : List StreamLine} (hlines : lines = r.lines ∨ lines = r.lines ++ [.heartbeat r.cursor]) :
    ({ r with point := point, lines := lines } : EventStreamRun).Accounted request := by
  have hwritten : ({ r with point := point, lines := lines } : EventStreamRun).written = r.written := by
    rcases hlines with rfl | rfl
    · rfl
    · rw [written_append r [.heartbeat r.cursor] rfl]
      exact List.append_nil _
  refine ⟨h.increasing, h.issued, h.started, h.reached, h.tail, fun heq => absurd heq hpoint, ?_, h.skipped, ?_⟩
  · rw [hwritten]
    exact h.account
  · intro line hline
    change line ∈ lines at hline
    rcases hlines with rfl | rfl
    · exact h.lines line hline
    · rcases List.mem_append.mp hline with hold | hnew
      · exact h.lines line hold
      · rw [List.mem_singleton.mp hnew]
        exact le_refl _

theorem accounted_step (h : r.Accounted request) (event : StreamEvent) (hretains : r.Retains event) :
    (r.step request event).Accounted request := by
  cases event with
  | publish kind payload => exact accounted_publish h kind payload hretains
  | recent now =>
    rw [step]
    split
    · rename_i hpoint
      exact accounted_recent h now hpoint
    · exact h
  | live now later =>
    rw [step]
    split
    · refine h.of_frame ?_ (.inl rfl)
      split <;> exact fun hrecent => nomatch hrecent
    · exact h
  | look =>
    rw [step]
    split
    · cases hfirst : r.bus.firstAfter r.cursor with
      | none =>
        refine h.of_frame ?_ (.inl rfl)
        exact fun hrecent => nomatch hrecent
      | some event => exact accounted_receive h hfirst
    · exact h
  | wake =>
    rw [step]
    split
    · cases hfirst : r.bus.firstAfter r.cursor with
      | none =>
        dsimp only
        unfold receiveNothing
        split
        · refine h.of_frame ?_ (.inl rfl)
          exact fun hrecent => nomatch hrecent
        · refine h.of_frame ?_ (.inr rfl)
          exact fun hrecent => nomatch hrecent
      | some event => exact accounted_receive h hfirst
    · exact h

end Steps

/-! ## What a stream does next -/

/-- The stream looks at the bus. -/
def Reading (r : EventStreamRun) : StreamEvent → Prop
  | .look => ∃ deadline remaining, r.point = .look deadline remaining
  | .wake => ∃ deadline remaining, r.point = .waiting deadline remaining
  | _ => False

/-- A step of the stream: nothing lies after the recent events, a look or a wake reads the first event that lies ahead,
and only a stream with nothing ahead waits, writes a heartbeat, or ends before its deadline. -/
structure Continues (request : StreamRequest) (r : EventStreamRun) (event : StreamEvent) : Prop where
  recent : ∀ now, event = .recent now → r.point = .recent → request.limit ≠ 0 →
    (r.step request event).bus.after (r.step request event).cursor = []
  reads : r.Reading event → ∀ first later, r.bus.after r.cursor = first :: later →
    (r.step request event).written = r.written ++ [first].filter request.matchesKinds ∧
      (r.step request event).bus.after (r.step request event).cursor = later
  waits : ∀ deadline remaining, (r.step request event).point = .waiting deadline remaining →
    r.point = .waiting deadline remaining ∨ r.bus.after r.cursor = []
  heartbeats : ∀ seq, (r.step request event).lines = r.lines ++ [.heartbeat seq] →
    r.bus.after r.cursor = [] ∧ seq = r.cursor ∧ (r.step request event).cursor = r.cursor
  ends : (r.step request event).point = .ended →
    r.point = .ended ∨ r.bus.after r.cursor = [] ∨ request.once = true ∨
      ∃ deadline now later, r.point = .live deadline ∧ event = .live now later ∧ deadline ≤ now

section Next

variable {request : StreamRequest} {r : EventStreamRun}

variable {event : StreamEvent}

theorem Continues.of_stay (hpoint : (r.step request event).point = r.point)
    (hlines : (r.step request event).lines = r.lines) (hreading : ¬ r.Reading event)
    (hrecent : ∀ now, event = .recent now → r.point ≠ .recent) : r.Continues request event := by
  refine ⟨fun now heq hfresh => absurd hfresh (hrecent now heq), fun h => absurd h hreading,
    fun _ _ h => .inl (hpoint ▸ h), fun seq h => ?_, fun h => .inl (hpoint ▸ h)⟩
  rw [hlines] at h
  exact absurd (List.self_eq_append_right.mp h) (List.cons_ne_nil _ _)

/-- With nothing ahead, a stream may wait or end, and repeats its cursor in a heartbeat. -/
theorem Continues.of_none (hnone : r.bus.firstAfter r.cursor = none)
    (hevent : ∀ now, event ≠ .recent now) (hlines : (r.step request event).lines = r.lines ∨
      (r.step request event).lines = r.lines ++ [.heartbeat r.cursor])
    (hcursor : (r.step request event).cursor = r.cursor) : r.Continues request event := by
  have hafter := ControlApiEventBus.after_eq_nil hnone
  refine ⟨fun now heq => absurd heq (hevent now), fun _ _ _ h => (nomatch hafter.symm.trans h),
    fun _ _ _ => .inr hafter, fun seq h => ⟨hafter, ?_, hcursor⟩, fun _ => .inr (.inl hafter)⟩
  rcases hlines with hlines | hlines
  · rw [hlines] at h
    exact absurd (List.self_eq_append_right.mp h) (List.cons_ne_nil _ _)
  · rw [hlines] at h
    exact (StreamLine.heartbeat.inj (List.cons.inj (List.append_cancel_left h)).1).symm

/-- An event that lies ahead is received. -/
theorem continues_receive {deadline remaining : ℚ} {first : ControlApiEvent}
    (hfirst : r.bus.firstAfter r.cursor = some first)
    (hstep : r.step request event = r.receive request deadline remaining first)
    (hevent : ∀ now, event ≠ .recent now) : r.Continues request event := by
  refine ⟨fun now heq => absurd heq (hevent now), fun _ next later hnext => ?_, fun _ _ h => ?_, fun seq h => ?_,
    fun h => ?_⟩
  · obtain ⟨hfound, hlater, hrest⟩ := ControlApiEventBus.after_eq_cons hnext
    obtain rfl : first = next := Option.some.inj (hfirst.symm.trans hfound)
    rw [hstep, receive_written, receive_cursor, (receive_frame first).1, max_eq_right hlater]
    exact ⟨rfl, hrest⟩
  · rw [hstep] at h
    rcases receive_point first with hlive | hlook
    · nomatch hlive.symm.trans h
    · nomatch hlook.symm.trans h
  · rw [hstep, receive_lines] at h
    have hline := List.append_cancel_left h
    split at hline <;> exact nomatch hline
  · rw [hstep] at h
    rcases receive_point first with hlive | hlook
    · nomatch hlive.symm.trans h
    · nomatch hlook.symm.trans h

/-- Nothing lies after the recent events, and one of them is no heartbeat. -/
theorem continues_recent (now : ℚ) (hpoint : r.point = .recent) : r.Continues request (.recent now) := by
  have hstep : r.step request (.recent now) = r.writeRecent request now := if_pos hpoint
  refine ⟨fun _ _ _ hlimit => ?_, fun h => h.elim, fun _ _ h => ?_, fun seq h => ?_, fun h => ?_⟩
  · rw [hstep]
    exact r.bus.after_recent hlimit r.cursor
  · rw [hstep] at h
    change (if request.once then StreamPoint.ended else .live _) = .waiting _ _ at h
    split at h <;> exact nomatch h
  · rw [hstep] at h
    have hmem : StreamLine.heartbeat seq ∈ ((r.bus.recent request.limit r.cursor).filter request.matchesKinds).map .event := by
      rw [List.append_cancel_left h]
      exact List.mem_singleton_self _
    obtain ⟨_, -, hline⟩ := List.mem_map.mp hmem
    nomatch hline
  · rw [hstep] at h
    change (if request.once then StreamPoint.ended else .live _) = .ended at h
    split at h
    · rename_i honce
      exact .inr (.inr (.inl honce))
    · nomatch h

/-- Before its deadline a live stream looks, and from then on it ends. -/
theorem continues_live (now later : ℚ) {deadline : ℚ} (hpoint : r.point = .live deadline) :
    r.Continues request (.live now later) := by
  have hstep : r.step request (.live now later) =
      { r with point := if now < deadline then .look deadline (max 0 (deadline - later)) else .ended } := by
    rw [step, hpoint]
  refine ⟨fun _ heq => (nomatch heq), fun h => h.elim, fun _ _ h => ?_, fun seq h => ?_, fun h => ?_⟩
  · rw [hstep] at h
    change (if now < deadline then StreamPoint.look _ _ else .ended) = .waiting _ _ at h
    split at h <;> exact nomatch h
  · rw [hstep] at h
    exact absurd (List.self_eq_append_right.mp h) (List.cons_ne_nil _ _)
  · rw [hstep] at h
    change (if now < deadline then StreamPoint.look _ _ else .ended) = .ended at h
    split at h
    · nomatch h
    · rename_i hover
      exact .inr (.inr (.inr ⟨deadline, now, later, hpoint, rfl, not_lt.mp hover⟩))

theorem continues_step (r : EventStreamRun) (event : StreamEvent) : r.Continues request event := by
  cases event with
  | publish kind payload => exact .of_stay rfl rfl id fun _ heq => nomatch heq
  | recent now =>
    by_cases hpoint : r.point = .recent
    · exact continues_recent now hpoint
    · have hstep : r.step request (.recent now) = r := if_neg hpoint
      exact .of_stay (by rw [hstep]) (by rw [hstep]) id fun _ _ => hpoint
  | live now later =>
    cases hpoint : r.point with
    | live deadline => exact continues_live now later hpoint
    | _ =>
      have hstep : r.step request (.live now later) = r := by rw [step, hpoint]
      exact .of_stay (by rw [hstep]) (by rw [hstep]) id fun _ heq => nomatch heq
  | look =>
    cases hpoint : r.point with
    | look deadline remaining =>
      cases hfirst : r.bus.firstAfter r.cursor with
      | some first => exact continues_receive hfirst (by rw [step, hpoint, hfirst]) fun _ heq => nomatch heq
      | none =>
        have hstep : r.step request .look = { r with point := .waiting deadline remaining } := by
          rw [step, hpoint, hfirst]
        exact .of_none hfirst (fun _ heq => nomatch heq) (by rw [hstep]; exact .inl rfl) (by rw [hstep])
    | _ =>
      have hstep : r.step request .look = r := by rw [step, hpoint]
      refine .of_stay (by rw [hstep]) (by rw [hstep]) ?_ fun _ heq => nomatch heq
      rintro ⟨_, _, hlook⟩
      nomatch hpoint.symm.trans hlook
  | wake =>
    cases hpoint : r.point with
    | waiting deadline remaining =>
      cases hfirst : r.bus.firstAfter r.cursor with
      | some first => exact continues_receive hfirst (by rw [step, hpoint, hfirst]) fun _ heq => nomatch heq
      | none =>
        have hstep : r.step request .wake = r.receiveNothing request deadline remaining := by
          rw [step, hpoint, hfirst]
        refine .of_none hfirst (fun _ heq => nomatch heq) ?_ ?_
        · rw [hstep, receiveNothing]
          split
          · exact .inl rfl
          · exact .inr rfl
        · rw [hstep, receiveNothing]
          split <;> rfl
    | _ =>
      have hstep : r.step request .wake = r := by rw [step, hpoint]
      refine .of_stay (by rw [hstep]) (by rw [hstep]) ?_ fun _ heq => nomatch heq
      rintro ⟨_, _, hwaiting⟩
      nomatch hpoint.symm.trans hwaiting

/-- The rounds of a stream that finds an event at each look. -/
def rounds (now : ℚ) (n : Nat) : List StreamEvent := (List.replicate n [.live now now, .look]).flatten

/-- Before its deadline, a stream writes in as many rounds all that lies ahead. -/
theorem written_rounds {now deadline : ℚ} (hnow : now < deadline) {events : List ControlApiEvent}
    (hevents : r.bus.after r.cursor = events)
    (hpoint : r.point = .live deadline ∨ ∃ remaining, r.point = .look deadline remaining) :
    (run (step request) r (rounds now events.length)).written = r.written ++ events.filter request.matchesKinds := by
  induction events generalizing r with
  | nil => exact (List.append_nil _).symm
  | cons first later ih =>
    obtain ⟨hfirst, hlater, hrest⟩ := ControlApiEventBus.after_eq_cons hevents
    obtain ⟨remaining, hlook⟩ : ∃ remaining,
        r.step request (.live now now) = { r with point := .look deadline remaining } := by
      rcases hpoint with hlive | ⟨remaining, hlook⟩
      · refine ⟨max 0 (deadline - now), ?_⟩
        rw [step, hlive]
        dsimp only
        rw [if_pos hnow]
      · refine ⟨remaining, ?_⟩
        rw [step, hlook]
        show r = _
        rw [← hlook]
    let s := ({ r with point := .look deadline remaining } : EventStreamRun).receive request deadline remaining first
    have hround : run (step request) r (rounds now (first :: later).length) =
        run (step request) s (rounds now later.length) := by
      show run (step request) (step request (step request r _) .look) _ = _
      rw [hlook, step]
      dsimp only
      rw [hfirst]
      rfl
    have hahead : s.bus.after s.cursor = later := by
      rw [receive_cursor, (receive_frame first).1]
      exact (congrArg r.bus.after (max_eq_right hlater)).trans hrest
    rw [hround, ih hahead ((receive_point first).imp_right fun hlook => ⟨remaining, hlook⟩), receive_written, List.append_assoc, ← List.filter_append]
    rfl

end Next

/-- While the bus retains what a stream has not read, every requested event is left out by the limit, written, or lies
ahead, each in increasing order and once; the limit leaves out events only when so many newer ones were retained, and
none is lost before the sequence number of a line. At each step the stream reads what lies ahead, it waits and ends
early only when nothing does, and before its deadline it writes in as many rounds all that does. -/
theorem stream_accounted (request : StreamRequest) (bus : ControlApiEventBus) (events : List StreamEvent)
    (hretains : Along (step request) Retains (start request bus) events) :
    let r := run (step request) (start request bus) events
    Increasing ControlApiEvent.seq r.history ∧
      r.skipped.filter request.matchesKinds ++ r.written ++ r.ahead request = r.requested request ∧
      (r.skipped ≠ [] → 0 < request.limit ∧
        r.skipped.length + request.limit ≤ (unread ControlApiEvent.seq request.afterSeq r.history).length) ∧
      (∀ line ∈ r.lines, ∀ e ∈ r.requested request, e.seq ≤ line.seq → e ∈ r.skipped ∨ e ∈ r.written) ∧
      (∀ event, r.Continues request event) ∧
      ∀ now deadline, r.point = .live deadline → now < deadline →
        (run (step request) r (rounds now (r.bus.after r.cursor).length)).written = r.written ++ r.ahead request := by
  have h : Accounted request (run (step request) (start request bus) events) :=
    @run_invariant_of_along _ _ _ (Accounted request) Retains (fun _ event h hok => accounted_step h event hok) _ _
      (accounted_start request bus) hretains
  refine ⟨h.increasing, h.account, h.skipped, fun line hline e he hle => ?_, continues_step _,
    fun _ _ hpoint hnow => written_rounds hnow rfl (.inl hpoint)⟩
  rw [← h.account, List.mem_append, List.mem_append] at he
  rcases he with (hskipped | hwritten) | hahead
  · exact .inl (List.mem_filter.mp hskipped).1
  · exact .inr hwritten
  · have hlater := (mem_unread.mp (List.mem_filter.mp hahead).1).2
    exact absurd (hle.trans (h.lines line hline)) (not_le.mpr hlater)

/-- Three published events. -/
def threeEvents : ControlApiEventBus :=
  (((ControlApiEventBus.new 50).publish "state" .empty).publish "command" .empty).publish "state" .empty

/-- A client that has the first event resumes with the limit. -/
def resumed (limit : Nat) : StreamRequest := ⟨limit, 1, 5, 1, [], false⟩

/-- The stream writes the recent events, waits, and writes a heartbeat; another event is published. -/
def resumedEvents : List StreamEvent :=
  [.recent 0, .live 0 0, .look, .publish "state" .empty, .wake, .live 1 1, .look, .wake]

/-- With a limit that is large enough, nothing is lost. -/
theorem stream_accounted_resumed :
    Gapless (resumed 20) (run (step (resumed 20)) (start (resumed 20) threeEvents) resumedEvents) := by
  have hretains : Along (step (resumed 20)) Retains (start (resumed 20) threeEvents) resumedEvents :=
    ⟨trivial, trivial, trivial, fun hfull => absurd hfull (by decide +kernel), trivial, trivial, trivial, trivial, trivial⟩
  have haccount := (stream_accounted (resumed 20) threeEvents resumedEvents hretains).2.1
  have hskipped : (run (step (resumed 20)) (start (resumed 20) threeEvents) resumedEvents).skipped = [] := by
    decide +kernel
  rw [hskipped] at haccount
  exact haccount

/-- With a limit of one, the second event is not written, although the bus retains it. -/
theorem resumed_event_left_out :
    Along (step (resumed 1)) Retains (start (resumed 1) threeEvents) resumedEvents ∧
      ¬ Gapless (resumed 1) (run (step (resumed 1)) (start (resumed 1) threeEvents) resumedEvents) := by
  refine ⟨?_, ?_⟩
  · exact ⟨trivial, trivial, trivial, fun hfull => absurd hfull (by decide +kernel), trivial, trivial, trivial, trivial,
      trivial⟩
  · unfold Gapless
    decide +kernel

end EventStreamRun

end VenusEvcharger
