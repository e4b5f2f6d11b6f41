import VenusEvcharger.Library.Framing
import VenusEvcharger.Library.Run
import VenusEvcharger.Library.Wire
import VenusEvcharger.Python.Value

/-!
# Requests on the publication socket

`readPendingSocketRequest` receives up to four chunks of a request and looks at its buffer after each one. A request
ends with its frame, with an error or with an exception of the socket. `reassembles` says that all ways to deliver a
frame end with this frame, and that every other stream ends with an error within the limit.

Scope: one connection from its acceptance to its end. The peer sends a fixed stream of bytes, and every call of `recv`
finds as many of them ready as its turn says. The response is left out.
-/

namespace VenusEvcharger

open Library

/-! ## Frames -/

def fastPublicationWireMagic : List UInt8 := [0x45, 0x56, 0x43, 0x46]

def fastPublicationWireVersion : UInt8 := 2

def fastPublicationWireMaxPayloadBytes : Nat := 64 * 1024

def fastPublicationWireHeaderBytes : Nat := 9

/-- `_MAX_FRAME_BYTES`. -/
def maxFrameBytes : Nat := fastPublicationWireHeaderBytes + fastPublicationWireMaxPayloadBytes

/-- `_validate_body_size`. -/
def validateBodySize (bodySize : Nat) : Except String Unit :=
  if bodySize = 0 then .error "empty-frame"
  else if fastPublicationWireMaxPayloadBytes < bodySize then .error "frame-too-large"
  else .ok ()

/-- `fast_publication_frame_size`. -/
def fastPublicationFrameSize (data : List UInt8) : Except String Nat :=
  if data.length < fastPublicationWireHeaderBytes then .ok 0
  else
    let magic := data.take 4
    let version := (data.drop 4).headD 0
    let bodySize := ofBe ((data.drop 5).take 4)
    if magic ≠ fastPublicationWireMagic then .error "invalid-frame-magic"
    else if version ≠ fastPublicationWireVersion then .error "unsupported-frame-version"
    else
      match validateBodySize bodySize with
      | .error e => .error e
      | .ok () => .ok (fastPublicationWireHeaderBytes + bodySize)

/-! ## The connection -/

/-- What a call of `recv` meets. -/
inductive RecvTurn where
  /-- This many bytes of the stream may be taken, or the end of the stream is seen; `now` is the clock after a call
  that would block. -/
  | ready (bytes : Nat) (now : ℚ)
  | reset

/-- The receiving side of the connection. -/
structure SocketConnection where
  /-- The bytes of the peer that were not received yet. -/
  incoming : List UInt8
  /-- The peer closes its side after them. -/
  closes : Bool

/-- What `recv` does. -/
inductive RecvResult where
  | chunk (bytes : List UInt8)
  | wouldBlock (now : ℚ)
  | raised

/-- `conn.recv(size)`. -/
def SocketConnection.recv (c : SocketConnection) (size : Nat) : RecvTurn → RecvResult × SocketConnection
  | .reset => (.raised, c)
  | .ready bytes now =>
    if bytes = 0 || (c.incoming.isEmpty && !c.closes) then (.wouldBlock now, c)
    else (.chunk (c.incoming.take (min size bytes)), { c with incoming := c.incoming.drop (min size bytes) })

/-- `_PendingSocketRequest`. -/
structure PendingSocketRequest where
  conn : SocketConnection
  deadline : ℚ
  received : List UInt8

/-- The result of a read. -/
inductive SocketRead where
  | pending
  | frame (bytes : List UInt8)
  | error (text : String)
  /-- An exception of the socket, after which the request is discarded. -/
  | raised
deriving DecidableEq

def socketReadChunkBytes : Nat := 4096

def socketReadChunksPerEvent : Nat := 4

/-- `_expected_request_size`. -/
def expectedRequestSize (received : List UInt8) : Except String Nat :=
  if maxFrameBytes < received.length then .error "request-too-large"
  else
    match fastPublicationFrameSize received with
    | .error e => .error e
    | .ok size => if size ≠ 0 ∧ size < received.length then .error "request-too-large" else .ok size

/-- `_buffered_request_result`. -/
def bufferedRequestResult (received : List UInt8) : Option SocketRead :=
  match expectedRequestSize received with
  | .error e => some (.error e)
  | .ok size => if size ≠ 0 ∧ received.length = size then some (.frame received) else none

/-- `_pending_read_result`. -/
def pendingReadResult (deadline now : ℚ) : SocketRead :=
  if now < deadline then .pending else .error "request-timeout"

/-- `_receive_request_chunk`. -/
def receiveRequestChunk (p : PendingSocketRequest) (turn : RecvTurn) : PendingSocketRequest × Option SocketRead :=
  match p.conn.recv (min socketReadChunkBytes (maxFrameBytes + 1 - p.received.length)) turn with
  | (.raised, conn) => ({ p with conn := conn }, some .raised)
  | (.wouldBlock now, conn) => ({ p with conn := conn }, some (pendingReadResult p.deadline now))
  | (.chunk chunk, conn) =>
    if chunk.isEmpty then ({ p with conn := conn }, some (.error "request-incomplete"))
    else ({ p with conn := conn, received := p.received ++ chunk }, none)

/-- The loop of `read_pending_socket_request` over the chunks that are left. The turn of the next call is `turns i`. -/
def readChunks (turns : Nat → RecvTurn) : Nat → Nat → PendingSocketRequest → Option SocketRead →
    PendingSocketRequest × SocketRead
  | _, _, p, some result => (p, result)
  | 0, _, p, none => (p, .pending)
  | chunks + 1, i, p, none =>
    match receiveRequestChunk p (turns i) with
    | (p, some result) => readChunks turns chunks (i + 1) p (some result)
    | (p, none) => readChunks turns chunks (i + 1) p (bufferedRequestResult p.received)

/-- `read_pending_socket_request`. -/
def readPendingSocketRequest (p : PendingSocketRequest) (turns : Nat → RecvTurn) : PendingSocketRequest × SocketRead :=
  readChunks turns socketReadChunksPerEvent 0 p (bufferedRequestResult p.received)

/-- One connection of the adapter. -/
structure SocketRun where
  request : PendingSocketRequest
  /-- The results with which requests of the connection ended. -/
  results : List SocketRead

/-- The turns of the calls of `recv` in one event. -/
abbrev SocketEvent := Nat → RecvTurn

namespace SocketRun

/-- A connection that was just accepted. -/
def start (stream : List UInt8) (closes : Bool) (deadline : ℚ) : SocketRun := ⟨⟨⟨stream, closes⟩, deadline, []⟩, []⟩

/-- One event of the adapter: it serves the request while it is pending. -/
def step (s : SocketRun) (turns : SocketEvent) : SocketRun :=
  if s.results.isEmpty then
    match readPendingSocketRequest s.request turns with
    | (p, .pending) => { s with request := p }
    | (p, result) => ⟨p, s.results ++ [result]⟩
  else s

end SocketRun

/-! ## The framing of the socket -/

theorem fastPublicationFrameSize_append {data : List UInt8} (rest : List UInt8)
    (h : fastPublicationWireHeaderBytes ≤ data.length) :
    fastPublicationFrameSize (data ++ rest) = fastPublicationFrameSize data := by
  have hlong : fastPublicationWireHeaderBytes = 9 := rfl
  have htake : (data ++ rest).take 4 = data.take 4 := List.take_append_of_le_length (by omega)
  have hversion : ((data ++ rest).drop 4).headD 0 = (data.drop 4).headD 0 := by
    rw [List.drop_append_of_le_length (by omega)]
    cases hdrop : data.drop 4 with
    | nil =>
      have hlength := congrArg List.length hdrop
      rw [List.length_drop, List.length_nil] at hlength
      omega
    | cons byte bytes => rfl
  have hsize : ((data ++ rest).drop 5).take 4 = (data.drop 5).take 4 := by
    rw [List.drop_append_of_le_length (by omega), List.take_append_of_le_length (by rw [List.length_drop]; omega)]
  unfold fastPublicationFrameSize
  rw [htake, hversion, hsize, List.length_append,
    if_neg (show ¬ data.length + rest.length < fastPublicationWireHeaderBytes by omega),
    if_neg (show ¬ data.length < fastPublicationWireHeaderBytes by omega)]

theorem fastPublicationFrameSize_le {data : List UInt8} {n : Nat} (h : fastPublicationWireHeaderBytes ≤ data.length)
    (hsize : fastPublicationFrameSize data = .ok n) : fastPublicationWireHeaderBytes ≤ n ∧ n ≤ maxFrameBytes := by
  unfold fastPublicationFrameSize at hsize
  rw [if_neg (Nat.not_lt.mpr h)] at hsize
  dsimp only at hsize
  split at hsize
  · nomatch hsize
  · split at hsize
    · nomatch hsize
    · split at hsize
      · nomatch hsize
      · rename_i hvalid
        obtain rfl := Except.ok.inj hsize
        refine ⟨Nat.le_add_right _ _, Nat.add_le_add_left ?_ _⟩
        unfold validateBodySize at hvalid
        split at hvalid
        · nomatch hvalid
        · split at hvalid
          · nomatch hvalid
          · rename_i hle
            exact Nat.not_lt.mp hle

/-- The framing of fast publications. -/
def fastFraming : Framing UInt8 String where
  header := fastPublicationWireHeaderBytes
  limit := maxFrameBytes
  size := fastPublicationFrameSize
  header_pos := by decide
  header_le := by decide
  size_of_lt := fun h => if_pos h
  size_append := fun rest h => fastPublicationFrameSize_append rest h
  size_le := fun h hsize => fastPublicationFrameSize_le h hsize

/-- A whole frame. -/
abbrev IsFastFrame (bytes : List UInt8) : Prop := fastFraming.IsFrame bytes

/-- The buffer is left open exactly while more bytes may complete its frame. -/
theorem bufferedRequestResult_eq_none {received : List UInt8} :
    bufferedRequestResult received = none ↔ fastFraming.progress received = .more := by
  unfold bufferedRequestResult expectedRequestSize
  by_cases hlarge : maxFrameBytes < received.length
  · rw [if_pos hlarge]
    refine iff_of_false nofun fun hmore => ?_
    have hlt : received.length < maxFrameBytes := Framing.length_lt_of_more hmore
    omega
  · rw [if_neg hlarge]
    unfold Framing.progress
    rw [show fastFraming.size received = fastPublicationFrameSize received from rfl]
    cases fastPublicationFrameSize received with
    | error e => exact iff_of_false nofun nofun
    | ok n =>
      dsimp only
      by_cases hzero : n = 0
      · simp [hzero]
      · by_cases hover : n < received.length
        · simp [hzero, hover]
        · by_cases hwhole : received.length = n <;> simp [hzero, hover, hwhole]

theorem bufferedRequestResult_eq_frame {received bytes : List UInt8}
    (h : bufferedRequestResult received = some (.frame bytes)) : bytes = received ∧ IsFastFrame received := by
  unfold bufferedRequestResult expectedRequestSize at h
  by_cases hlarge : maxFrameBytes < received.length
  · rw [if_pos hlarge] at h
    nomatch h
  · rw [if_neg hlarge] at h
    cases hsize : fastPublicationFrameSize received with
    | error e =>
      rw [hsize] at h
      nomatch h
    | ok n =>
      rw [hsize] at h
      dsimp only at h
      by_cases hover : n ≠ 0 ∧ n < received.length
      · rw [if_pos hover] at h
        nomatch h
      · rw [if_neg hover] at h
        dsimp only at h
        split_ifs at h with hwhole
        obtain rfl := SocketRead.frame.inj (Option.some.inj h)
        refine ⟨rfl, ?_, ?_⟩
        · by_contra hshort
          have hzero := (fastFraming.size_of_lt (Nat.not_le.mp hshort)).symm.trans hsize
          exact hwhole.1 (Except.ok.inj hzero).symm
        · show fastPublicationFrameSize received = _
          rw [hsize, hwhole.2]

theorem bufferedRequestResult_ne_pending (received : List UInt8) :
    bufferedRequestResult received ≠ some .pending := by
  unfold bufferedRequestResult
  split
  · exact nofun
  · split_ifs <;> exact nofun

theorem bufferedRequestResult_of_frame {bytes : List UInt8} (h : IsFastFrame bytes) :
    bufferedRequestResult bytes = some (.frame bytes) := by
  have hsize : fastPublicationFrameSize bytes = .ok bytes.length := h.2
  have hle := fastFraming.size_le h.1 h.2
  have hheader : 9 ≤ bytes.length := h.1
  have hlimit : bytes.length ≤ maxFrameBytes := hle.2
  unfold bufferedRequestResult expectedRequestSize
  rw [if_neg (Nat.not_lt.mpr hlimit), hsize]
  dsimp only
  rw [if_neg (by omega)]
  dsimp only
  rw [if_pos ⟨by omega, rfl⟩]

/-! ## One call of `recv` -/

/-- A turn at which a call that would block finds the deadline passed. -/
def RecvTurn.Late (deadline : ℚ) : RecvTurn → Prop
  | .ready _ now => deadline ≤ now
  | .reset => True

instance (deadline : ℚ) : DecidablePred (RecvTurn.Late deadline)
  | .ready _ now => inferInstanceAs (Decidable (deadline ≤ now))
  | .reset => isTrue trivial

/-- A turn that delivers bytes, or at which the call would block before the deadline. -/
def RecvTurn.Early (deadline : ℚ) : RecvTurn → Prop
  | .ready bytes now => bytes = 0 → now < deadline
  | .reset => False

/-- A turn with bytes. -/
def RecvTurn.Offers : RecvTurn → Prop
  | .ready bytes _ => bytes ≠ 0
  | .reset => False

instance : DecidablePred RecvTurn.Offers
  | .ready bytes _ => inferInstanceAs (Decidable (bytes ≠ 0))
  | .reset => isFalse id

namespace PendingSocketRequest

/-- The request after some more bytes of its stream. -/
def after (p : PendingSocketRequest) (bytes rest : List UInt8) : PendingSocketRequest :=
  { p with conn := { p.conn with incoming := rest }, received := p.received ++ bytes }

/-- A call appends a chunk within the limit, or it ends the read without a frame. -/
theorem receiveRequestChunk_cases (p : PendingSocketRequest) (turn : RecvTurn)
    (hroom : p.received.length < maxFrameBytes) :
    (∃ chunk rest, chunk ≠ [] ∧ chunk ++ rest = p.conn.incoming ∧
        p.received.length + chunk.length ≤ maxFrameBytes + 1 ∧ receiveRequestChunk p turn = (p.after chunk rest, none)) ∨
      ∃ read, receiveRequestChunk p turn = (p, some read) ∧ (∀ bytes, read ≠ .frame bytes) ∧
        (turn.Late p.deadline → read ≠ .pending) ∧
        (p.conn.incoming ≠ [] → turn.Early p.deadline → read = .pending ∧ ¬ turn.Offers) := by
  cases turn with
  | reset => exact .inr ⟨.raised, rfl, nofun, nofun, fun _ hearly => hearly.elim⟩
  | ready bytes now =>
    unfold receiveRequestChunk SocketConnection.recv
    by_cases hblocks : (bytes = 0 || (p.conn.incoming.isEmpty && !p.conn.closes)) = true
    · right
      simp only [hblocks, if_true]
      refine ⟨pendingReadResult p.deadline now, rfl, ?_, ?_, ?_⟩
      · unfold pendingReadResult
        split_ifs <;> exact nofun
      · intro hlate
        rw [pendingReadResult, if_neg (not_lt.mpr hlate)]
        exact nofun
      · intro hincoming hearly
        have hzero : bytes = 0 := by simpa [hincoming] using hblocks
        exact ⟨if_pos (hearly hzero), fun hoffers => hoffers hzero⟩
    · simp only [hblocks, Bool.false_eq_true, if_false]
      have hbytes : bytes ≠ 0 := by
        intro hzero
        exact hblocks (by simp [hzero])
      have hsize : 0 < min (min socketReadChunkBytes (maxFrameBytes + 1 - p.received.length)) bytes := by
        have : 0 < socketReadChunkBytes := by decide
        omega
      by_cases hend : p.conn.incoming = []
      · right
        obtain ⟨⟨incoming, closes⟩, deadline, received⟩ := p
        dsimp only at hend
        subst hend
        refine ⟨.error "request-incomplete", ?_, nofun, nofun, fun hne => absurd rfl hne⟩
        simp
      · have hchunk : p.conn.incoming.take (min (min socketReadChunkBytes (maxFrameBytes + 1 - p.received.length))
            bytes) ≠ [] := by
          rw [ne_eq, List.take_eq_nil_iff, not_or]
          exact ⟨Nat.ne_of_gt hsize, hend⟩
        refine .inl ⟨_, _, hchunk, List.take_append_drop _ _, ?_, if_neg ?_⟩
        · rw [List.length_take]
          omega
        · rwa [List.isEmpty_iff]

/-! ## One event -/

theorem length_lt_of_open {received : List UInt8} (h : bufferedRequestResult received = none) :
    received.length < maxFrameBytes :=
  Framing.length_lt_of_more (bufferedRequestResult_eq_none.mp h)

/-- What a read leaves behind of a request: its stream, a buffer within the limit, and a result that the buffer
accounts for. -/
structure Serves (p : PendingSocketRequest) (r : PendingSocketRequest × SocketRead) : Prop where
  deadline : r.1.deadline = p.deadline
  stream : r.1.received ++ r.1.conn.incoming = p.received ++ p.conn.incoming
  grows : p.received.length ≤ r.1.received.length
  bounded : r.1.received.length ≤ maxFrameBytes + 1
  pending : r.2 = .pending → bufferedRequestResult r.1.received = none
  frame : ∀ bytes, r.2 = .frame bytes → bytes = r.1.received ∧ IsFastFrame bytes

theorem readChunks_some (turns : Nat → RecvTurn) (chunks i : Nat) (p : PendingSocketRequest) (result : SocketRead) :
    readChunks turns chunks i p (some result) = (p, result) := by
  cases chunks <;> rfl

variable {turns : Nat → RecvTurn} {chunks i : Nat} {p : PendingSocketRequest}

/-- The first call of the loop appends a chunk and the loop goes on, or it ends the read without a frame. -/
theorem readChunks_cases (turns : Nat → RecvTurn) (chunks i : Nat) (hopen : bufferedRequestResult p.received = none) :
    (∃ chunk rest, chunk ≠ [] ∧ chunk ++ rest = p.conn.incoming ∧
        p.received.length + chunk.length ≤ maxFrameBytes + 1 ∧
        readChunks turns (chunks + 1) i p none = readChunks turns chunks (i + 1) (p.after chunk rest)
          (bufferedRequestResult (p.received ++ chunk))) ∨
      ∃ read, readChunks turns (chunks + 1) i p none = (p, read) ∧ (∀ bytes, read ≠ .frame bytes) ∧
        ((turns i).Late p.deadline → read ≠ .pending) ∧
        (p.conn.incoming ≠ [] → (turns i).Early p.deadline → read = .pending ∧ ¬ (turns i).Offers) := by
  have hloop : readChunks turns (chunks + 1) i p none = match receiveRequestChunk p (turns i) with
      | (p, some result) => readChunks turns chunks (i + 1) p (some result)
      | (p, none) => readChunks turns chunks (i + 1) p (bufferedRequestResult p.received) := rfl
  rcases receiveRequestChunk_cases p (turns i) (length_lt_of_open hopen) with
    ⟨chunk, rest, hchunk, hsplit, hbound, hreceive⟩ | ⟨read, hreceive, hread⟩
  · rw [hreceive] at hloop
    exact .inl ⟨chunk, rest, hchunk, hsplit, hbound, hloop⟩
  · rw [hreceive] at hloop
    exact .inr ⟨read, hloop.trans (readChunks_some turns chunks (i + 1) p read), hread⟩

theorem readChunks_serves (turns : SocketEvent) (chunks i : Nat)
    (hopen : bufferedRequestResult p.received = none) :
    Serves p (readChunks turns chunks i p none) := by
  have hroom := length_lt_of_open hopen
  induction chunks generalizing i p with
  | zero => exact ⟨rfl, rfl, Nat.le_refl _, by show p.received.length ≤ _; omega, fun _ => hopen, nofun⟩
  | succ chunks ih =>
    rcases readChunks_cases turns chunks i hopen with
      ⟨chunk, rest, hchunk, hsplit, hbound, hloop⟩ | ⟨read, hloop, hnotFrame, -, -⟩
    · have hstream : (p.received ++ chunk) ++ rest = p.received ++ p.conn.incoming := by
        rw [List.append_assoc, hsplit]
      have hlength : (p.received ++ chunk).length = p.received.length + chunk.length := List.length_append
      rw [hloop]
      cases hbuffer : bufferedRequestResult (p.received ++ chunk) with
      | none =>
        have hrest : Serves (p.after chunk rest) (readChunks turns chunks (i + 1) (p.after chunk rest) none) :=
          ih (i + 1) hbuffer (length_lt_of_open hbuffer)
        refine ⟨hrest.deadline, hrest.stream.trans hstream, ?_, hrest.bounded, hrest.pending, hrest.frame⟩
        have hgrows : (p.received ++ chunk).length ≤ _ := hrest.grows
        omega
      | some result =>
        rw [readChunks_some]
        refine ⟨rfl, hstream, ?_, ?_, ?_, ?_⟩
        · show p.received.length ≤ (p.received ++ chunk).length
          omega
        · show (p.received ++ chunk).length ≤ _
          omega
        · intro hpending
          obtain rfl : result = .pending := hpending
          exact absurd hbuffer (bufferedRequestResult_ne_pending _)
        · intro bytes hframe
          obtain rfl : result = .frame bytes := hframe
          obtain ⟨rfl, hisFrame⟩ := bufferedRequestResult_eq_frame hbuffer
          exact ⟨rfl, hisFrame⟩
    · rw [hloop]
      exact ⟨rfl, rfl, Nat.le_refl _, by show p.received.length ≤ _; omega, fun _ => hopen,
        fun bytes hframe => absurd hframe (hnotFrame bytes)⟩

theorem readChunks_first (turns : SocketEvent) (chunks i : Nat)
    (hopen : bufferedRequestResult p.received = none) :
    p.received.length < (readChunks turns (chunks + 1) i p none).1.received.length ∨
      ∃ read, readChunks turns (chunks + 1) i p none = (p, read) ∧ ((turns i).Late p.deadline → read ≠ .pending) ∧
        (p.conn.incoming ≠ [] → (turns i).Early p.deadline → read = .pending ∧ ¬ (turns i).Offers) := by
  rcases readChunks_cases turns chunks i hopen with
    ⟨chunk, rest, hchunk, -, -, hloop⟩ | ⟨read, hloop, -, hread⟩
  · left
    have hlength : (p.received ++ chunk).length = p.received.length + chunk.length := List.length_append
    have hpos := List.length_pos_iff.mpr hchunk
    rw [hloop]
    cases hbuffer : bufferedRequestResult (p.received ++ chunk) with
    | none =>
      have hserves : Serves (p.after chunk rest) (readChunks turns chunks (i + 1) (p.after chunk rest) none) :=
        readChunks_serves turns chunks (i + 1) hbuffer
      have hgrows : (p.received ++ chunk).length ≤ _ := hserves.grows
      omega
    | some result =>
      rw [readChunks_some]
      show p.received.length < (p.received ++ chunk).length
      omega
  · exact .inr ⟨read, hloop, hread⟩

theorem readChunks_frame (turns : SocketEvent) (chunks i : Nat) {stream : List UInt8} (hframe : IsFastFrame stream)
    (hearly : ∀ j, (turns j).Early p.deadline) (hopen : bufferedRequestResult p.received = none)
    (hstream : p.received ++ p.conn.incoming = stream) :
    (readChunks turns chunks i p none).2 = .pending ∨ (readChunks turns chunks i p none).2 = .frame stream := by
  induction chunks generalizing i p with
  | zero => exact .inl rfl
  | succ chunks ih =>
    rcases readChunks_cases turns chunks i hopen with
      ⟨chunk, rest, -, hsplit, -, hloop⟩ | ⟨read, hloop, -, -, hread⟩
    · have hrest : (p.received ++ chunk) ++ rest = stream := by
        rw [List.append_assoc, hsplit, hstream]
      rw [hloop]
      by_cases hwhole : p.received ++ chunk = stream
      · right
        rw [hwhole, bufferedRequestResult_of_frame hframe, readChunks_some]
      · have hmore := Framing.progress_of_begins hframe ⟨rest, hrest⟩ hwhole
        rw [bufferedRequestResult_eq_none.mpr hmore]
        exact ih (i + 1) hearly (bufferedRequestResult_eq_none.mpr hmore) hrest
    · left
      have hincoming : p.conn.incoming ≠ [] := by
        intro hnil
        rw [hnil, List.append_nil] at hstream
        rw [hstream, bufferedRequestResult_of_frame hframe] at hopen
        nomatch hopen
      rw [hloop]
      exact (hread hincoming (hearly i)).1

end PendingSocketRequest

/-! ## Runs -/

namespace SocketRun

open PendingSocketRequest

variable {s : SocketRun} {stream : List UInt8} {closes : Bool} {deadline : ℚ} {turns : SocketEvent}

/-- The connection serves a stream: the buffer is a part of it within the limit, and at most one result came out. -/
structure Serving (stream : List UInt8) (deadline : ℚ) (s : SocketRun) : Prop where
  deadline : s.request.deadline = deadline
  stream : s.request.received ++ s.request.conn.incoming = stream
  bounded : s.request.received.length ≤ maxFrameBytes + 1
  pending : s.results = [] → bufferedRequestResult s.request.received = none
  once : s.results = [] ∨ ∃ r, s.results = [r] ∧ r ≠ .pending ∧
    ∀ bytes, r = .frame bytes → bytes = s.request.received ∧ IsFastFrame bytes

theorem serving_start (stream : List UInt8) (closes : Bool) (deadline : ℚ) :
    Serving stream deadline (start stream closes deadline) :=
  ⟨rfl, rfl, Nat.zero_le _, fun _ => rfl, .inl rfl⟩

/-- An event reads once while the request is pending. -/
theorem step_of_pending (h : s.results = []) :
    s.step turns = ⟨(readPendingSocketRequest s.request turns).1,
      if (readPendingSocketRequest s.request turns).2 = .pending then []
      else [(readPendingSocketRequest s.request turns).2]⟩ := by
  unfold step
  rw [h]
  dsimp only [List.isEmpty_nil, if_true]
  cases hread : readPendingSocketRequest s.request turns with
  | mk p read => cases read <;> simp

theorem step_of_ended (h : s.results ≠ []) : s.step turns = s :=
  if_neg (by rwa [List.isEmpty_iff])

theorem readPending_eq (hopen : bufferedRequestResult s.request.received = none) :
    readPendingSocketRequest s.request turns = readChunks turns (3 + 1) 0 s.request none := by
  unfold readPendingSocketRequest
  rw [hopen]
  rfl

theorem serving_step (hs : Serving stream deadline s) : Serving stream deadline (s.step turns) := by
  by_cases hresults : s.results = []
  · have hopen := hs.pending hresults
    have hserves := readChunks_serves turns (3 + 1) 0 hopen
    rw [step_of_pending hresults, readPending_eq hopen]
    refine ⟨hserves.deadline.trans hs.deadline, hserves.stream.trans hs.stream, hserves.bounded, ?_, ?_⟩
    · intro hempty
      split_ifs at hempty with hpending
      exact hserves.pending hpending
    · split_ifs with hpending
      · exact .inl rfl
      · exact .inr ⟨_, rfl, hpending, hserves.frame⟩
  · rwa [step_of_ended hresults]

theorem serving_run (stream : List UInt8) (closes : Bool) (deadline : ℚ) (events : List SocketEvent) :
    Serving stream deadline (run step (start stream closes deadline) events) :=
  run_invariant (fun _ _ => serving_step) (serving_start stream closes deadline) events

theorem grows_step (turns : SocketEvent) (hs : Serving stream deadline s) :
    s.request.received.length ≤ (s.step turns).request.received.length := by
  by_cases hresults : s.results = []
  · rw [step_of_pending hresults, readPending_eq (hs.pending hresults)]
    exact (readChunks_serves turns (3 + 1) 0 (hs.pending hresults)).grows
  · rw [step_of_ended hresults]

theorem ended_run (h : s.results ≠ []) (events : List SocketEvent) : (run step s events).results ≠ [] := by
  have hstep (s : SocketRun) (turns : SocketEvent) (hs : s.results ≠ []) : (s.step turns).results ≠ [] := by
    rwa [step_of_ended hs]
  exact run_invariant hstep h events

/-- Events that end a pending request or receive a byte have ended it, or are counted by the buffer. -/
theorem ended_or_grown {Q : SocketEvent → Bool} {E : SocketEvent → Prop}
    (hstep : ∀ s turns, Serving stream deadline s → s.results = [] → E turns → Q turns = true →
      (s.step turns).results ≠ [] ∨ s.request.received.length < (s.step turns).request.received.length)
    (events : List SocketEvent) (hs : Serving stream deadline s) (hE : ∀ turns ∈ events, E turns) :
    (run step s events).results ≠ [] ∨
      s.request.received.length + events.countP Q ≤ (run step s events).request.received.length := by
  induction events generalizing s with
  | nil => exact .inr (Nat.le_refl _)
  | cons turns events ih =>
    by_cases hended : s.results = []
    · have hnext : Serving stream deadline (s.step turns) := serving_step hs
      have hrest := ih hnext fun e he => hE e (List.mem_cons_of_mem _ he)
      have hgrows := grows_step turns hs
      rw [run_cons, List.countP_cons]
      rcases hrest with hrest | hrest
      · exact .inl hrest
      · split_ifs with hQ
        · rcases hstep s turns hs hended (hE turns List.mem_cons_self) hQ with hnext | hnext
          · exact .inl (ended_run hnext events)
          · right
            omega
        · right
          omega
    · exact .inl (ended_run hended (turns :: events))

/-- An event at whose first call the deadline is over ends the request or receives a byte. -/
theorem ended_of_late (hs : Serving stream deadline s) (hresults : s.results = []) (hlate : (turns 0).Late deadline) :
    (s.step turns).results ≠ [] ∨ s.request.received.length < (s.step turns).request.received.length := by
  rw [step_of_pending hresults, readPending_eq (hs.pending hresults)]
  rcases readChunks_first turns 3 0 (hs.pending hresults) with
    hgrows | ⟨read, hread, hnotPending, -⟩
  · exact .inr hgrows
  · left
    rw [hread, if_neg (hnotPending (hs.deadline.symm ▸ hlate))]
    exact List.cons_ne_nil _ _

/-- The buffer of a pending request is a proper part of a frame. -/
theorem incoming_ne_nil (hs : Serving stream deadline s) (hframe : IsFastFrame stream) (hresults : s.results = []) :
    s.request.conn.incoming ≠ [] := by
  intro hnil
  have hstream := hs.stream
  rw [hnil, List.append_nil] at hstream
  have hopen := hs.pending hresults
  rw [hstream, bufferedRequestResult_of_frame hframe] at hopen
  nomatch hopen

/-- An event that offers bytes of a frame receives one, or the request ends. -/
theorem grown_of_offers (hs : Serving stream deadline s) (hframe : IsFastFrame stream) (hresults : s.results = [])
    (hearly : ∀ i, (turns i).Early deadline) (hoffers : (turns 0).Offers) :
    s.request.received.length < (s.step turns).request.received.length := by
  rw [step_of_pending hresults, readPending_eq (hs.pending hresults)]
  rcases readChunks_first turns 3 0 (hs.pending hresults) with
    hgrows | ⟨read, -, -, hblocked⟩
  · exact hgrows
  · have hincoming := incoming_ne_nil hs hframe hresults
    exact absurd hoffers (hblocked hincoming (hs.deadline.symm ▸ hearly 0)).2

theorem results_frame (closes : Bool) (hframe : IsFastFrame stream) (events : List SocketEvent)
    (hearly : ∀ turns ∈ events, ∀ i, (turns i).Early deadline) :
    (run step (start stream closes deadline) events).results = [] ∨
      (run step (start stream closes deadline) events).results = [.frame stream] := by
  induction events using List.reverseRecOn with
  | nil => exact .inl rfl
  | append_singleton events turns ih =>
    have hs := serving_run stream closes deadline events
    rw [run_append]
    show (step _ turns).results = [] ∨ (step _ turns).results = _
    rcases ih fun e he => hearly e (List.mem_append_left _ he) with hpending | hdone
    · have hturns := hearly turns (List.mem_append_right _ List.mem_cons_self)
      rw [step_of_pending hpending, readPending_eq (hs.pending hpending)]
      rcases readChunks_frame turns (3 + 1) 0 hframe
        (fun i => hs.deadline.symm ▸ hturns i) (hs.pending hpending) hs.stream with hread | hread
      · exact .inl (if_pos hread)
      · right
        rw [hread]
        rfl
    · rw [step_of_ended (by rw [hdone]; exact List.cons_ne_nil _ _)]
      exact .inr hdone

/-- The contract of the reader for one connection. -/
structure Reassembles (stream : List UInt8) (closes : Bool) (deadline : ℚ) (events : List SocketEvent) : Prop where
  bounded : (run step (start stream closes deadline) events).request.received.length ≤ maxFrameBytes + 1
  /-- At most one result, and a frame only where the stream begins with it. -/
  once : (run step (start stream closes deadline) events).results = [] ∨
    ∃ r, (run step (start stream closes deadline) events).results = [r] ∧ r ≠ .pending ∧
      ∀ bytes, r = .frame bytes → IsFastFrame bytes ∧ bytes <+: stream
  /-- The request ends when enough events find the deadline passed. -/
  ends : maxFrameBytes ≤ (events.countP fun turns => decide ((turns 0).Late deadline)) →
    (run step (start stream closes deadline) events).results ≠ []
  /-- A stream that does not begin with a frame ends with an error or with an exception of the socket. -/
  refused : (∀ bytes, bytes <+: stream → ¬ IsFastFrame bytes) →
    maxFrameBytes ≤ (events.countP fun turns => decide ((turns 0).Late deadline)) →
      (∃ text, (run step (start stream closes deadline) events).results = [.error text]) ∨
        (run step (start stream closes deadline) events).results = [.raised]
  /-- A frame that is delivered before the deadline is the result as soon as it was received, and not before. -/
  whole : IsFastFrame stream → (∀ turns ∈ events, ∀ i, (turns i).Early deadline) →
    (run step (start stream closes deadline) events).results =
      if (run step (start stream closes deadline) events).request.conn.incoming = [] then [.frame stream] else []
  /-- It is received when enough events offer bytes. -/
  arrives : IsFastFrame stream → (∀ turns ∈ events, ∀ i, (turns i).Early deadline) →
    stream.length ≤ (events.countP fun turns => decide ((turns 0).Offers)) →
      (run step (start stream closes deadline) events).results = [.frame stream]

theorem reassembles (stream : List UInt8) (closes : Bool) (deadline : ℚ) (events : List SocketEvent) :
    Reassembles stream closes deadline events := by
  have hs := serving_run stream closes deadline events
  have hstart := serving_start stream closes deadline
  have hlength (h : (run step (start stream closes deadline) events).results = []) :
      (run step (start stream closes deadline) events).request.received.length < maxFrameBytes :=
    length_lt_of_open (hs.pending h)
  -- The frame is returned when nothing of the stream is left to come.
  have hwhole (hframe : IsFastFrame stream) (hearly : ∀ turns ∈ events, ∀ i, (turns i).Early deadline) :
      (run step (start stream closes deadline) events).results =
        if (run step (start stream closes deadline) events).request.conn.incoming = [] then [.frame stream]
        else [] := by
    rcases results_frame closes hframe events hearly with hpending | hdone
    · rw [if_neg (incoming_ne_nil hs hframe hpending), hpending]
    · have honce := hs.once
      rw [hdone] at honce ⊢
      obtain ⟨r, hr, -, hbytes⟩ := honce.resolve_left (List.cons_ne_nil _ _)
      have hreceived := (hbytes stream (List.cons.inj hr).1.symm).1
      have hlengths := congrArg List.length hs.stream
      rw [List.length_append, ← hreceived] at hlengths
      rw [if_pos (List.length_eq_zero_iff.mp (by omega))]
  have honce : (run step (start stream closes deadline) events).results = [] ∨
      ∃ r, (run step (start stream closes deadline) events).results = [r] ∧ r ≠ .pending ∧
        ∀ bytes, r = .frame bytes → IsFastFrame bytes ∧ bytes <+: stream := by
    rcases hs.once with hpending | ⟨r, hr, hended, hbytes⟩
    · exact .inl hpending
    · refine .inr ⟨r, hr, hended, fun bytes hframe => ?_⟩
      obtain ⟨hreceived, hisFrame⟩ := hbytes bytes hframe
      refine ⟨hisFrame, (run step (start stream closes deadline) events).request.conn.incoming, ?_⟩
      rw [hreceived]
      exact hs.stream
  -- A late event ends the request or adds to it, and an open request is shorter than the largest frame.
  have hends (hcount : maxFrameBytes ≤ (events.countP fun turns => decide ((turns 0).Late deadline))) :
      (run step (start stream closes deadline) events).results ≠ [] := by
    intro hpending
    rcases ended_or_grown (E := fun _ => True) (fun s turns hs hresults _ hlate =>
      ended_of_late hs hresults (of_decide_eq_true hlate)) events hstart (fun _ _ => trivial) with hended | hgrown
    · exact hended hpending
    · have := hlength hpending
      omega
  refine ⟨hs.bounded, honce, hends, fun hnone hcount => ?_, hwhole, ?_⟩
  · obtain ⟨r, hr, hended, hbytes⟩ := honce.resolve_left (hends hcount)
    cases r with
    | pending => exact absurd rfl hended
    | frame bytes =>
      obtain ⟨hisFrame, hbegins⟩ := hbytes bytes rfl
      exact absurd hisFrame (hnone bytes hbegins)
    | error text => exact .inl ⟨text, hr⟩
    | raised => exact .inr hr
  · intro hframe hearly hcount
    rw [hwhole hframe hearly]
    refine if_pos ?_
    rcases ended_or_grown (E := fun turns => ∀ i, (turns i).Early deadline) (fun s turns hs hresults hturns hoffers =>
      .inr (grown_of_offers hs hframe hresults hturns (of_decide_eq_true hoffers))) events hstart hearly with
      hended | hgrown
    · by_contra hincoming
      exact hended ((hwhole hframe hearly).trans (if_neg hincoming))
    · have hlengths := congrArg List.length hs.stream
      rw [List.length_append] at hlengths
      exact List.length_eq_zero_iff.mp (by omega)

/-- A frame with the body of an empty object, in three chunks with a call that would block between them. -/
example :
    (run step (start ([0x45, 0x56, 0x43, 0x46, 2, 0, 0, 0, 2] ++ [123, 125]) false 1)
      [fun i => .ready (if i = 0 then 3 else 0) 0, fun _ => .ready 0 0, fun _ => .ready 4 0]).results =
        [.frame [0x45, 0x56, 0x43, 0x46, 2, 0, 0, 0, 2, 123, 125]] := by
  decide +kernel

end SocketRun

end VenusEvcharger
