import Mathlib.Data.Finset.Basic
import Mathlib.Data.Finset.Lattice.Lemmas
import VenusEvcharger.Library.Run
import VenusEvcharger.Library.Wire
import VenusEvcharger.NativeGateway.Command

/-!
# Introspections of the native gateway

The gateway introspects its energy services at a low rate, and others when a command file asks for it. The targets wait
in a queue, one of them is active, and the file that asked for a target is removed after the reply to it.

Scope: removing a file succeeds. The XML reader is a parameter, the events that it reads in a text. The snapshot of the
findings is left out.
-/

namespace VenusEvcharger.NativeGateway

open Library

/-! ## Names in a reply -/

/-- `MAX_XML_BYTES`. -/
def maxXmlBytes : Nat := 256 * 1024

/-- `MAX_XML_EVENTS`. -/
def maxXmlEvents : Nat := 8192

/-- `MIN_FULL_SCAN_SECONDS`. -/
def minFullScanSeconds : ℚ := 60

/-- An attribute, and its value without escapes. -/
structure XmlAttribute where
  key : String
  value : Except String String

/-- An event of the reader. The elements are those that start and the empty ones. -/
inductive XmlEvent where
  | element (name : String) (attributes : List (Except String XmlAttribute))
  | other
  | eof

/-- The reader: the answer of the n-th `read_event` for a text. -/
abbrev XmlReader := String → Nat → Except String XmlEvent

/-- The first attribute with the key `name`; what follows it is not read. -/
def nameAttribute : List (Except String XmlAttribute) → Except String (Option String)
  | [] => .ok none
  | .error message :: _ => .error message
  | .ok first :: rest => if first.key = "name" then first.value.map some else nameAttribute rest

/-- The sets of `parse_names`. -/
structure XmlNames where
  interfaces : Finset String
  children : Finset String

/-- The names with those of one element. -/
def XmlNames.read (names : XmlNames) (element : String) (attributes : List (Except String XmlAttribute)) :
    Except String XmlNames :=
  if element = "interface" then do
    let name ← nameAttribute attributes
    return { names with interfaces := name.elim names.interfaces fun name => insert name names.interfaces }
  else if element = "node" then do
    let name ← nameAttribute attributes
    return { names with children := name.elim names.children fun name => insert name names.children }
  else return names

/-- The loop of `parse_names` over the events from an index on. -/
def parseEvents (events : Nat → Except String XmlEvent) : Nat → Nat → XmlNames → Except String XmlNames
  | 0, _, _ => .error "D-Bus introspection XML is too complex"
  | left + 1, index, names => do
    match ← events index with
    | .element name attributes => parseEvents events left (index + 1) (← names.read name attributes)
    | .other => parseEvents events left (index + 1) names
    | .eof => return names

/-- `parse_names`. -/
def parseNames (reader : XmlReader) (xml : String) : Except String XmlNames :=
  if maxXmlBytes < xml.utf8ByteSize then .error "D-Bus introspection XML is too large"
  else parseEvents (reader xml) maxXmlEvents 0 ⟨∅, ∅⟩

/-! ## The manager -/

/-- `Finding`. -/
structure Finding where
  status : String
  confidence : ℚ
  interfaces : Finset String
  children : Finset String
  source : String
  reason : String
  lastSuccessAt : Option ℚ
  lastError : String
  retryAfter : ℚ

/-- `failed_finding`. -/
def failedFinding (capturedAt : ℚ) (error : String) : Finding where
  status := "unresponsive-backoff"
  confidence := 55 / 100
  interfaces := ∅
  children := ∅
  source := "gateway"
  reason := "gateway-introspection"
  lastSuccessAt := none
  lastError := error
  retryAfter := capturedAt + 900

/-- The finding of a reply that was parsed. -/
def freshFinding (capturedAt : ℚ) (names : XmlNames) : Finding where
  status := "fresh"
  confidence := 8 / 10
  interfaces := names.interfaces
  children := names.children
  source := "gateway"
  reason := "gateway-introspection"
  lastSuccessAt := some capturedAt
  lastError := ""
  retryAfter := capturedAt

/-- `Target`; the owner is the path of a command file. -/
structure IntrospectionTarget where
  service : String
  path : String
  owner : Option String

/-- The service and the path of a target. -/
def IntrospectionTarget.key (target : IntrospectionTarget) : String × String := (target.service, target.path)

/-- The result of a `DbusResult`, as the manager reads it. -/
inductive IntrospectionResult where
  | xml (xml : String)
  | value
  | error (message : String)

/-- `IntrospectionManager`. -/
structure IntrospectionManager where
  enabled : Bool
  fullScanInterval : ℚ
  queue : List IntrospectionTarget
  queued : Finset (String × String)
  active : Option IntrospectionTarget
  findings : Dict (String × String) Finding
  nextFullScan : ℚ
  lastFullScanAt : ℚ

namespace IntrospectionManager

/-- `from_config` at a time. -/
def fromConfig (enabled : Bool) (fullScanIntervalSeconds now : ℚ) : IntrospectionManager where
  enabled := enabled
  fullScanInterval := max fullScanIntervalSeconds minFullScanSeconds
  queue := []
  queued := ∅
  active := none
  findings := Dict.empty
  nextFullScan := now
  lastFullScanAt := 0

section

variable (m : IntrospectionManager)

/-- The target is active, or in the set of the queued ones. -/
def waits (key : String × String) : Bool :=
  m.active.any (·.key = key) || decide (key ∈ m.queued)

/-- A target that does not wait yet is queued. -/
def enqueue (target : IntrospectionTarget) : IntrospectionManager :=
  if m.waits target.key then m
  else { m with queue := m.queue ++ [target], queued := insert target.key m.queued }

/-- `schedule_if_due`, for the targets of the reader. -/
def scheduleIfDue (targets : List (String × String)) (topologyChanged constrained : Bool)
    (now capturedAt : ℚ) : IntrospectionManager :=
  if !m.enabled || constrained then m
  else if !topologyChanged && decide (now < m.nextFullScan) then m
  else
    { targets.foldl (fun m target => m.enqueue ⟨target.1, target.2, none⟩) m with
      nextFullScan := now + m.fullScanInterval
      lastFullScanAt := capturedAt }

/-- `next_operation`: the manager, and the target that is to be introspected. -/
def nextOperation : IntrospectionManager × Option IntrospectionTarget :=
  if m.active.isSome then (m, none)
  else
    match m.queue with
    | [] => (m, none)
    | target :: rest =>
      ({ m with queue := rest, queued := m.queued.erase target.key, active := some target }, some target)

/-- `schedule_command`: the manager, and whether it accepts the command. -/
def scheduleCommand (owner service path : String) : IntrospectionManager × Bool :=
  if !m.enabled || decide (trim service = "") || decide (path.toList.head? ≠ some '/') then (m, false)
  else if m.waits (service, path) then (m, false)
  else (m.enqueue ⟨service, path, some owner⟩, true)

/-- `operation_submission_failed`. -/
def operationSubmissionFailed : IntrospectionManager :=
  match m.active with
  | none => m
  | some target =>
    if target.key ∈ m.queued then { m with active := none }
    else { m with active := none, queue := target :: m.queue, queued := insert target.key m.queued }

/-- `handle_result`: the owner of the target. The active target is taken before the reply is parsed. -/
def handleResult (reader : XmlReader) (result : IntrospectionResult) (capturedAt : ℚ) :
    IntrospectionManager × Except String (Option String) :=
  match m.active with
  | none => (m, .error "introspection result arrived without an active target")
  | some target =>
    let m := { m with active := none }
    let finding : Except String Finding :=
      match result with
      | .xml xml => (parseNames reader xml).map (freshFinding capturedAt)
      | .value => .ok (failedFinding capturedAt "wrong D-Bus response type")
      | .error message => .ok (failedFinding capturedAt message)
    match finding with
    | .ok finding => ({ m with findings := m.findings.set target.key finding }, .ok target.owner)
    | .error message => (m, .error message)

end

end IntrospectionManager

/-! ## The mailbox -/

/-- What happens to the manager and to the files of the mailbox. -/
inductive IntrospectionEvent where
  | scheduleIfDue (targets : List (String × String)) (topologyChanged constrained : Bool) (now capturedAt : ℚ)
  | scheduleCommand (owner service path : String)
  | nextOperation
  | operationSubmissionFailed
  /-- `poll_broker` has the reply to the introspection. -/
  | reply (result : IntrospectionResult) (capturedAt : ℚ)
  /-- A client leaves a command file. -/
  | fileWritten (path : String)
  /-- `finish_command` of an expired or dropped command. -/
  | fileFinished (path : String)

/-- The manager and the command files. -/
structure IntrospectionLane where
  manager : IntrospectionManager
  files : Finset String

/-- One event. After a reply the file of the owner is removed, when there is one. -/
def IntrospectionLane.step (reader : XmlReader) (s : IntrospectionLane) : IntrospectionEvent → IntrospectionLane
  | .scheduleIfDue targets topologyChanged constrained now capturedAt =>
    { s with manager := s.manager.scheduleIfDue targets topologyChanged constrained now capturedAt }
  | .scheduleCommand owner service path => { s with manager := (s.manager.scheduleCommand owner service path).1 }
  | .nextOperation => { s with manager := s.manager.nextOperation.1 }
  | .operationSubmissionFailed => { s with manager := s.manager.operationSubmissionFailed }
  | .reply result capturedAt =>
    match s.manager.handleResult reader result capturedAt with
    | (manager, .ok (some path)) => ⟨manager, s.files.erase path⟩
    | (manager, .ok none) => { s with manager := manager }
    | (manager, .error _) => { s with manager := manager }
  | .fileWritten path => { s with files := insert path s.files }
  | .fileFinished path => { s with files := s.files.erase path }

/-! ## The queue and its set -/

namespace IntrospectionManager

/-- The set holds the targets of the queue, each of them once, and the active one is not among them. -/
structure Coherent (m : IntrospectionManager) : Prop where
  queued : m.queued = (m.queue.map (·.key)).toFinset
  distinct : (m.queue.map (·.key)).Nodup
  active : ∀ target ∈ m.active, target.key ∉ m.queued

/-- The targets that wait for a reply, the active one first. -/
def pending (m : IntrospectionManager) : List IntrospectionTarget := m.active.toList ++ m.queue

variable {m : IntrospectionManager}

theorem coherent_fromConfig (enabled : Bool) (fullScanIntervalSeconds now : ℚ) :
    (fromConfig enabled fullScanIntervalSeconds now).Coherent where
  queued := rfl
  distinct := List.nodup_nil
  active := nofun

theorem Coherent.enqueue (h : m.Coherent) (target : IntrospectionTarget) : (m.enqueue target).Coherent := by
  unfold IntrospectionManager.enqueue
  split
  · exact h
  · rename_i hwaits
    rw [waits, Bool.or_eq_true, not_or, decide_eq_true_eq] at hwaits
    obtain ⟨hactive, hfree⟩ := hwaits
    refine ⟨?_, ?_, fun other hother => ?_⟩
    · show insert target.key m.queued = ((m.queue ++ [target]).map (·.key)).toFinset
      rw [h.queued, List.map_append, List.toFinset_append, Finset.union_comm]
      rfl
    · show ((m.queue ++ [target]).map (·.key)).Nodup
      rw [h.queued, List.mem_toFinset] at hfree
      rw [List.map_append, List.map_singleton, List.nodup_append]
      refine ⟨h.distinct, List.nodup_singleton _, fun a ha b hb heq => ?_⟩
      rw [List.mem_singleton.mp hb] at heq
      exact hfree (heq ▸ ha)
    · show other.key ∉ insert target.key m.queued
      rw [Finset.mem_insert, not_or]
      refine ⟨fun heq => hactive ?_, h.active other hother⟩
      rw [show m.active = some other from hother, Option.any_some]
      exact decide_eq_true heq

theorem pending_enqueue (target : IntrospectionTarget) : ∀ t ∈ m.pending, t ∈ (m.enqueue target).pending := by
  intro t ht
  unfold enqueue
  split
  · exact ht
  · show t ∈ m.active.toList ++ (m.queue ++ [target])
    rw [← List.append_assoc]
    exact List.mem_append_left _ ht

/-- A full scan is a sequence of single targets. -/
theorem foldl_enqueue (h : m.Coherent) (targets : List (String × String)) :
    (targets.foldl (fun m target => m.enqueue ⟨target.1, target.2, none⟩) m).Coherent ∧
      ∀ t ∈ m.pending, t ∈ (targets.foldl (fun m target => m.enqueue ⟨target.1, target.2, none⟩) m).pending := by
  induction targets generalizing m with
  | nil => exact ⟨h, fun _ ht => ht⟩
  | cons target rest ih =>
    obtain ⟨hcoherent, hkept⟩ := ih (h.enqueue ⟨target.1, target.2, none⟩)
    exact ⟨hcoherent, fun t ht => hkept t (pending_enqueue _ t ht)⟩

theorem Coherent.scheduleIfDue (h : m.Coherent) (targets : List (String × String))
    (topologyChanged constrained : Bool) (now capturedAt : ℚ) :
    (m.scheduleIfDue targets topologyChanged constrained now capturedAt).Coherent ∧
      ∀ t ∈ m.pending, t ∈ (m.scheduleIfDue targets topologyChanged constrained now capturedAt).pending := by
  unfold IntrospectionManager.scheduleIfDue
  split
  · exact ⟨h, fun _ ht => ht⟩
  · split
    · exact ⟨h, fun _ ht => ht⟩
    · obtain ⟨hcoherent, hkept⟩ := foldl_enqueue h targets
      exact ⟨⟨hcoherent.queued, hcoherent.distinct, hcoherent.active⟩, hkept⟩

theorem Coherent.scheduleCommand (h : m.Coherent) (owner service path : String) :
    (m.scheduleCommand owner service path).1.Coherent ∧
      ∀ t ∈ m.pending, t ∈ (m.scheduleCommand owner service path).1.pending := by
  unfold IntrospectionManager.scheduleCommand
  split
  · exact ⟨h, fun _ ht => ht⟩
  · split
    · exact ⟨h, fun _ ht => ht⟩
    · exact ⟨h.enqueue _, pending_enqueue _⟩

theorem mem_pending_of_accepted {owner service path : String}
    (haccepted : (m.scheduleCommand owner service path).2 = true) :
    ⟨service, path, some owner⟩ ∈ (m.scheduleCommand owner service path).1.pending := by
  unfold scheduleCommand at *
  split at haccepted
  · nomatch haccepted
  · split at haccepted
    · nomatch haccepted
    · rename_i hvalid hfree
      rw [if_neg hvalid, if_neg hfree]
      show _ ∈ (m.enqueue ⟨service, path, some owner⟩).pending
      rw [enqueue, if_neg (show ¬ m.waits (IntrospectionTarget.key ⟨service, path, some owner⟩) = true from hfree)]
      exact List.mem_append_right _ (List.mem_append_right _ List.mem_cons_self)

theorem Coherent.nextOperation (h : m.Coherent) :
    m.nextOperation.1.Coherent ∧ ∀ t ∈ m.pending, t ∈ m.nextOperation.1.pending := by
  unfold IntrospectionManager.nextOperation
  split
  · exact ⟨h, fun _ ht => ht⟩
  · rename_i hactive
    have hnone : m.active = none := Option.not_isSome_iff_eq_none.mp hactive
    cases hqueue : m.queue with
    | nil => exact ⟨h, fun _ ht => ht⟩
    | cons target rest =>
      have hdistinct := h.distinct
      have hqueued := h.queued
      rw [hqueue, List.map_cons] at hdistinct hqueued
      obtain ⟨hfresh, hrest⟩ := List.nodup_cons.mp hdistinct
      have hset : m.queued.erase target.key = (rest.map (·.key)).toFinset := by
        rw [hqueued, List.toFinset_cons, Finset.erase_insert (fun hmem => hfresh (List.mem_toFinset.mp hmem))]
      refine ⟨⟨hset, hrest, fun other hother => ?_⟩, fun t ht => ?_⟩
      · rw [← Option.some.inj hother]
        exact Finset.notMem_erase _ _
      · rw [pending, hnone, hqueue] at ht
        exact ht

/-- A refused submission puts the active target back in front of the queue. -/
theorem Coherent.operationSubmissionFailed_eq (h : m.Coherent) {target : IntrospectionTarget}
    (hactive : m.active = some target) : m.operationSubmissionFailed =
      { m with active := none, queue := target :: m.queue, queued := insert target.key m.queued } := by
  unfold operationSubmissionFailed
  rw [hactive]
  dsimp only
  rw [if_neg (h.active target hactive)]

theorem Coherent.operationSubmissionFailed (h : m.Coherent) :
    m.operationSubmissionFailed.Coherent ∧ m.operationSubmissionFailed.pending = m.pending := by
  cases hactive : m.active with
  | none =>
    rw [IntrospectionManager.operationSubmissionFailed, hactive]
    exact ⟨h, rfl⟩
  | some target =>
    rw [h.operationSubmissionFailed_eq hactive]
    have hfree := h.active target hactive
    refine ⟨⟨?_, ?_, fun _ hnone => nomatch hnone⟩, ?_⟩
    · show insert target.key m.queued = ((target :: m.queue).map (·.key)).toFinset
      rw [List.map_cons, List.toFinset_cons, h.queued]
    · show ((target :: m.queue).map (·.key)).Nodup
      rw [h.queued, List.mem_toFinset] at hfree
      exact List.nodup_cons.mpr ⟨hfree, h.distinct⟩
    · rw [pending, pending, hactive]
      rfl

/-- The reply retires the active target. -/
theorem handleResult_frame (reader : XmlReader) (result : IntrospectionResult) (capturedAt : ℚ) :
    (m.handleResult reader result capturedAt).1.active = none ∧
      (m.handleResult reader result capturedAt).1.queue = m.queue ∧
      (m.handleResult reader result capturedAt).1.queued = m.queued := by
  unfold handleResult
  cases hactive : m.active with
  | none => exact ⟨hactive, rfl, rfl⟩
  | some target =>
    dsimp only
    split <;> exact ⟨rfl, rfl, rfl⟩

theorem Coherent.handleResult (h : m.Coherent) (reader : XmlReader) (result : IntrospectionResult) (capturedAt : ℚ) :
    (m.handleResult reader result capturedAt).1.Coherent := by
  obtain ⟨hactive, hqueue, hqueued⟩ := handleResult_frame (m := m) reader result capturedAt
  refine ⟨?_, ?_, fun target htarget => ?_⟩
  · rw [hqueued, hqueue, h.queued]
  · rw [hqueue]
    exact h.distinct
  · rw [hactive] at htarget
    nomatch htarget

end IntrospectionManager

/-- The reply is no XML that the parser rejects. -/
def IntrospectionResult.Readable (reader : XmlReader) : IntrospectionResult → Prop
  | .xml text => ∃ names, parseNames reader text = .ok names
  | .value => True
  | .error _ => True

/-- The owner is reported exactly when the reply can be read. -/
theorem IntrospectionManager.handleResult_owner {m : IntrospectionManager} {target : IntrospectionTarget}
    (hactive : m.active = some target) (reader : XmlReader) (result : IntrospectionResult) (capturedAt : ℚ) :
    (result.Readable reader ∧ (m.handleResult reader result capturedAt).2 = .ok target.owner) ∨
    (¬ result.Readable reader ∧ ∃ message, (m.handleResult reader result capturedAt).2 = .error message) := by
  unfold handleResult
  rw [hactive]
  cases result with
  | value => exact .inl ⟨trivial, rfl⟩
  | error message => exact .inl ⟨trivial, rfl⟩
  | xml xml =>
    dsimp only
    cases hparse : parseNames reader xml with
    | ok names => exact .inl ⟨⟨names, hparse⟩, rfl⟩
    | error message =>
      refine .inr ⟨fun hreadable => ?_, message, rfl⟩
      obtain ⟨names, hnames⟩ := hreadable
      rw [hparse] at hnames
      nomatch hnames

namespace IntrospectionLane

/-- What every event leaves behind: the set and the queue agree, targets are given up by a reply to them only, an
accepted command waits, and a refused target is the next one. -/
structure KeepsTargets (reader : XmlReader) (s : IntrospectionLane) (e : IntrospectionEvent) : Prop where
  coherent : (s.step reader e).manager.Coherent
  kept : ∀ target ∈ s.manager.pending, target ∈ (s.step reader e).manager.pending ∨
    s.manager.active = some target ∧ ∃ result capturedAt, e = .reply result capturedAt
  accepted : ∀ owner service path, e = .scheduleCommand owner service path →
    (s.manager.scheduleCommand owner service path).2 = true →
    ⟨service, path, some owner⟩ ∈ (s.step reader e).manager.pending
  refused : e = .operationSubmissionFailed → ∀ target ∈ s.manager.active,
    (s.step reader e).manager.queue = target :: s.manager.queue

/-- And after a reply no target is active, and the file that asked for it is gone. -/
structure Retires (reader : XmlReader) (s : IntrospectionLane) (e : IntrospectionEvent) : Prop
    extends KeepsTargets reader s e where
  retired : ∀ result capturedAt, e = .reply result capturedAt → (s.step reader e).manager.active = none ∧
    ∀ target ∈ s.manager.active, ∀ path ∈ target.owner, path ∉ (s.step reader e).files

/-- A reply to a target whose file is still there can be read. -/
def RepliesReadable (reader : XmlReader) (s : IntrospectionLane) (e : IntrospectionEvent) : Prop :=
  ∀ result capturedAt, e = .reply result capturedAt → ∀ target ∈ s.manager.active, ∀ path ∈ target.owner,
    path ∈ s.files → result.Readable reader

variable {reader : XmlReader} {s : IntrospectionLane}

theorem step_reply_manager (result : IntrospectionResult) (capturedAt : ℚ) :
    (s.step reader (.reply result capturedAt)).manager = (s.manager.handleResult reader result capturedAt).1 := by
  rw [step]
  split <;> simp_all

theorem coherent_step (h : s.manager.Coherent) (e : IntrospectionEvent) : (s.step reader e).manager.Coherent := by
  cases e with
  | scheduleIfDue targets topologyChanged constrained now capturedAt =>
    exact (h.scheduleIfDue targets topologyChanged constrained now capturedAt).1
  | scheduleCommand owner service path => exact (h.scheduleCommand owner service path).1
  | nextOperation => exact h.nextOperation.1
  | operationSubmissionFailed => exact h.operationSubmissionFailed.1
  | reply result capturedAt =>
    rw [step_reply_manager]
    exact h.handleResult reader result capturedAt
  | fileWritten path => exact h
  | fileFinished path => exact h

theorem pending_step (h : s.manager.Coherent) (e : IntrospectionEvent) : ∀ target ∈ s.manager.pending,
    target ∈ (s.step reader e).manager.pending ∨
      s.manager.active = some target ∧ ∃ result capturedAt, e = .reply result capturedAt := by
  intro target htarget
  cases e with
  | scheduleIfDue targets topologyChanged constrained now capturedAt =>
    exact .inl ((h.scheduleIfDue targets topologyChanged constrained now capturedAt).2 target htarget)
  | scheduleCommand owner service path => exact .inl ((h.scheduleCommand owner service path).2 target htarget)
  | nextOperation => exact .inl (h.nextOperation.2 target htarget)
  | operationSubmissionFailed =>
    left
    show target ∈ s.manager.operationSubmissionFailed.pending
    rw [h.operationSubmissionFailed.2]
    exact htarget
  | reply result capturedAt =>
    rcases List.mem_append.mp htarget with hactive | hqueue
    · exact .inr ⟨Option.mem_toList.mp hactive, result, capturedAt, rfl⟩
    · left
      rw [step_reply_manager]
      refine List.mem_append_right _ ?_
      rw [(IntrospectionManager.handleResult_frame reader result capturedAt).2.1]
      exact hqueue
  | fileWritten path => exact .inl htarget
  | fileFinished path => exact .inl htarget

/-- The file of the active target is gone after a reply that can be read. -/
theorem files_reply {target : IntrospectionTarget} {path : String} (hactive : s.manager.active = some target)
    (howner : target.owner = some path) (result : IntrospectionResult) (capturedAt : ℚ) :
    path ∉ (s.step reader (.reply result capturedAt)).files ↔ (path ∈ s.files → result.Readable reader) := by
  rw [step]
  rcases IntrospectionManager.handleResult_owner hactive reader result capturedAt with
    ⟨hreadable, hresult⟩ | ⟨hunreadable, message, hresult⟩
  · rw [howner] at hresult
    rw [← Prod.mk.eta (p := s.manager.handleResult reader result capturedAt), hresult]
    exact iff_of_true (Finset.notMem_erase _ _) fun _ => hreadable
  · rw [← Prod.mk.eta (p := s.manager.handleResult reader result capturedAt), hresult]
    show path ∉ s.files ↔ _
    exact ⟨fun hgone hmem => absurd hmem hgone, fun h hmem => hunreadable (h hmem)⟩

theorem keepsTargets_step (h : s.manager.Coherent) (e : IntrospectionEvent) : KeepsTargets reader s e := by
  refine ⟨coherent_step h e, pending_step h e, ?_, ?_⟩
  · rintro owner service path rfl haccepted
    exact IntrospectionManager.mem_pending_of_accepted haccepted
  · rintro rfl target hactive
    show s.manager.operationSubmissionFailed.queue = _
    rw [h.operationSubmissionFailed_eq hactive]

/-- An event leaves the right things behind exactly when it is no unreadable reply to a target with a file. -/
theorem retires_iff (h : s.manager.Coherent) (e : IntrospectionEvent) :
    Retires reader s e ↔ RepliesReadable reader s e := by
  constructor
  · intro hretires result capturedAt heq target hactive path howner
    subst heq
    exact (files_reply hactive howner result capturedAt).mp
      ((hretires.retired result capturedAt rfl).2 target hactive path howner)
  · intro hreadable
    refine ⟨keepsTargets_step h e, ?_⟩
    rintro result capturedAt rfl
    refine ⟨?_, fun target hactive path howner => ?_⟩
    · rw [step_reply_manager]
      exact (IntrospectionManager.handleResult_frame reader result capturedAt).1
    · exact (files_reply hactive howner result capturedAt).mpr
        (hreadable result capturedAt rfl target hactive path howner)

/-- A gateway that starts with some command files. -/
def start (enabled : Bool) (fullScanIntervalSeconds now : ℚ) (files : Finset String) : IntrospectionLane :=
  ⟨.fromConfig enabled fullScanIntervalSeconds now, files⟩

end IntrospectionLane

/-- In every run the targets are kept, and introspections are retired by their replies exactly when no target with a
command file is answered by XML that the parser rejects. -/
theorem introspection_retired_iff (reader : XmlReader) (enabled : Bool) (fullScanIntervalSeconds now : ℚ)
    (files : Finset String) (events : List IntrospectionEvent) :
    Along (IntrospectionLane.step reader) (IntrospectionLane.KeepsTargets reader)
        (.start enabled fullScanIntervalSeconds now files) events ∧
      (Along (IntrospectionLane.step reader) (IntrospectionLane.Retires reader)
          (.start enabled fullScanIntervalSeconds now files) events ↔
        Along (IntrospectionLane.step reader) (IntrospectionLane.RepliesReadable reader)
          (.start enabled fullScanIntervalSeconds now files) events) := by
  have hkeeps : ∀ s e, (IntrospectionLane.manager s).Coherent → (s.step reader e).manager.Coherent :=
    fun _ e h => IntrospectionLane.coherent_step h e
  have hstart := IntrospectionManager.coherent_fromConfig enabled fullScanIntervalSeconds now
  exact ⟨along_of_invariant (fun s e h _ => hkeeps s e h) (fun _ e h _ => IntrospectionLane.keepsTargets_step h e)
      hstart (along_of_forall_mem _ fun _ _ => trivial),
    along_iff_of_invariant (fun s e h _ => hkeeps s e h) (fun _ e h => IntrospectionLane.retires_iff h e) hstart⟩

theorem length_le_utf8ByteSize (text : List Char) : text.length ≤ (String.ofList text).utf8ByteSize := by
  induction text with
  | nil => exact Nat.zero_le _
  | cons c text ih =>
    rw [String.ofList_cons, String.utf8ByteSize_append, String.utf8ByteSize_singleton, List.length_cons]
    have hpos := Char.utf8Size_pos c
    omega

/-- XML of spaces that is one byte too long. -/
def oversizedXml : String := String.ofList (List.replicate (maxXmlBytes + 1) ' ')

theorem parseNames_oversizedXml (reader : XmlReader) :
    parseNames reader oversizedXml = .error "D-Bus introspection XML is too large" := by
  have hlength := length_le_utf8ByteSize (List.replicate (maxXmlBytes + 1) ' ')
  rw [List.length_replicate] at hlength
  exact if_pos (Nat.lt_of_succ_le hlength)

/-- A gateway that has sent the introspection that a command file asked for. -/
def askedLane : IntrospectionLane where
  manager := {
    enabled := true
    fullScanInterval := 21600
    queue := []
    queued := ∅
    active := some ⟨"com.victronenergy.grid", "/", some "introspect.json"⟩
    findings := Dict.empty
    nextFullScan := 0
    lastFullScanAt := 0 }
  files := {"introspect.json"}

section

variable (reader : XmlReader) (xml : String)

/-- A command file asks for an introspection, which is sent and answered. -/
def answeredEvents : List IntrospectionEvent :=
  [.fileWritten "introspect.json", .scheduleCommand "introspect.json" "com.victronenergy.grid" "/", .nextOperation,
    .reply (.xml xml) 1]

/-- The gateway after the answer. -/
def answeredLane : IntrospectionLane :=
  run (IntrospectionLane.step reader) (.start true 21600 0 ∅) (answeredEvents xml)

/-- After a reply that is rejected the file stays, and the next scan of the mailbox is accepted again. -/
theorem rejected_reply_keeps_file {message : String} (hparse : parseNames reader xml = .error message) :
    ¬ Along (IntrospectionLane.step reader) (IntrospectionLane.Retires reader) (.start true 21600 0 ∅)
        (answeredEvents xml) ∧
      "introspect.json" ∈ (answeredLane reader xml).files ∧
      ((answeredLane reader xml).manager.scheduleCommand "introspect.json" "com.victronenergy.grid" "/").2 = true := by
  have hafter : answeredLane reader xml = { askedLane with manager := { askedLane.manager with active := none } } := by
    show IntrospectionLane.step reader askedLane (.reply (.xml xml) 1) = _
    unfold IntrospectionLane.step IntrospectionManager.handleResult askedLane
    dsimp only
    rw [hparse]
    rfl
  have hkept : "introspect.json" ∈ (answeredLane reader xml).files := by
    rw [hafter]
    decide
  refine ⟨fun hretires => ?_, hkept, ?_⟩
  · have hlast : IntrospectionLane.Retires reader askedLane (.reply (.xml xml) 1) := hretires.2.2.2.1
    exact (hlast.retired _ _ rfl).2 _ rfl _ rfl hkept
  · rw [hafter]
    decide +kernel

end

/-- A reader that finds no element in a document. -/
def blankReader : XmlReader := fun _ _ => .ok .eof

/-- After a reply that is too long the file stays, and the next scan of the mailbox is accepted again. -/
theorem oversized_reply_keeps_file :
    ¬ Along (IntrospectionLane.step blankReader) (IntrospectionLane.Retires blankReader) (.start true 21600 0 ∅)
        (answeredEvents oversizedXml) ∧
      "introspect.json" ∈ (answeredLane blankReader oversizedXml).files ∧
      ((answeredLane blankReader oversizedXml).manager.scheduleCommand "introspect.json" "com.victronenergy.grid"
        "/").2 = true :=
  rejected_reply_keeps_file blankReader oversizedXml (parseNames_oversizedXml blankReader)

end VenusEvcharger.NativeGateway
