import VenusEvcharger.Ipc.PublicationPayload
import VenusEvcharger.Library.Run

/-!
# Issued publication orders

A sender takes the order of a publication from `PublicationOrderSequence`. An order is an epoch of
the monotonic clock above the 32 bits of the process id, so that two processes never issue one
order; the epoch runs ahead of the clock when a larger order was seen. `PublicationOrderIssuer`
states an order for the command and for each of its fields, and keeps the orders that a command
already states.

Scope: the lock around each call is left out, since a call is one step.
-/

namespace VenusEvcharger

open Library

def publicationOrderProcessBits : Nat := 32

/-- `PublicationOrderSequence`. The last order is never negative: it starts at zero and grows. -/
structure PublicationOrderSequence where
  processId : Int
  lastOrder : Nat

namespace PublicationOrderSequence

/-- The sequence of a new process. -/
def create (processId : Int) : PublicationOrderSequence := ⟨processId, 0⟩

section

variable (s : PublicationOrderSequence)

/-- `self._process_id & PUBLICATION_ORDER_PROCESS_MASK`. -/
def processBits : Nat :=
  (s.processId % 2 ^ publicationOrderProcessBits).toNat

/-- `remember`. -/
def remember (order : Int) : PublicationOrderSequence :=
  { s with lastOrder := (max order s.lastOrder).toNat }

/-- The order of an epoch. -/
def epochOrder (epoch : Nat) : Nat :=
  (epoch <<< publicationOrderProcessBits) ||| s.processBits

/-- The epoch of the next order: the clock, or the epoch of the last order when that is ahead. -/
def nextEpoch (monotonicNs : Int) : Nat :=
  (max monotonicNs (s.lastOrder >>> publicationOrderProcessBits : Nat)).toNat

/-- The order that `next_order` returns. -/
def issuedOrder (monotonicNs : Int) : Nat :=
  if s.processId = 0 then (max monotonicNs (s.lastOrder + 1)).toNat
  else
    let order := s.epochOrder (s.nextEpoch monotonicNs)
    if order ≤ s.lastOrder then s.epochOrder (s.nextEpoch monotonicNs + 1) else order

/-- `next_order`. -/
def nextOrder (monotonicNs : Int) : Nat × PublicationOrderSequence :=
  (s.issuedOrder monotonicNs, { s with lastOrder := s.issuedOrder monotonicNs })

theorem processBits_lt : s.processBits < 2 ^ publicationOrderProcessBits := by
  unfold processBits publicationOrderProcessBits
  omega

theorem epochOrder_eq (epoch : Nat) :
    s.epochOrder epoch = epoch * 2 ^ publicationOrderProcessBits + s.processBits := by
  unfold epochOrder
  rw [← Nat.shiftLeft_add_eq_or_of_lt s.processBits_lt, Nat.shiftLeft_eq]

/-- An order is above the last one: by its clock, by its process id, or by the next epoch. -/
theorem lastOrder_lt_issuedOrder (monotonicNs : Int) :
    s.lastOrder < s.issuedOrder monotonicNs := by
  unfold issuedOrder
  split
  · omega
  · simp only []
    split
    · have hepoch : s.lastOrder / 2 ^ publicationOrderProcessBits ≤ s.nextEpoch monotonicNs := by
        unfold nextEpoch
        rw [Nat.shiftRight_eq_div_pow]
        omega
      have hlast : s.lastOrder < (s.nextEpoch monotonicNs + 1) * 2 ^ publicationOrderProcessBits :=
        (Nat.div_lt_iff_lt_mul (by decide)).mp (Nat.lt_succ_of_le hepoch)
      rw [epochOrder_eq]
      omega
    · omega

end

theorem issuedOrder_mod {s : PublicationOrderSequence} (hprocess : s.processId ≠ 0) (monotonicNs : Int) :
    s.issuedOrder monotonicNs % 2 ^ publicationOrderProcessBits = s.processBits := by
  have hbits : ∀ epoch, s.epochOrder epoch % 2 ^ publicationOrderProcessBits = s.processBits := by
    intro epoch
    rw [epochOrder_eq, Nat.mul_add_mod_of_lt s.processBits_lt]
  unfold issuedOrder
  rw [if_neg hprocess]
  simp only []
  split
  · exact hbits _
  · exact hbits _

end PublicationOrderSequence

/-! ## Runs -/

/-- A call on a sequence, `next_order` with the clock it reads. -/
inductive SequenceCall
  | remember (order : Int)
  | nextOrder (monotonicNs : Int)
deriving DecidableEq

/-- A sequence, the orders it returned and the orders it was told, newest first. -/
structure SequenceRun where
  sequence : PublicationOrderSequence
  issued : List Nat
  remembered : List Int

namespace SequenceRun

def start (processId : Int) : SequenceRun := ⟨.create processId, [], []⟩

def step (r : SequenceRun) : SequenceCall → SequenceRun
  | .remember order =>
    { r with sequence := r.sequence.remember order, remembered := order :: r.remembered }
  | .nextOrder monotonicNs =>
    let (order, sequence) := r.sequence.nextOrder monotonicNs
    { r with sequence := sequence, issued := order :: r.issued }

/-- The order that a call returns is above every order that was returned or remembered. -/
def Rises (r : SequenceRun) : SequenceCall → Prop
  | .remember _ => True
  | .nextOrder monotonicNs =>
    (∀ order ∈ r.issued, order < (r.sequence.nextOrder monotonicNs).1) ∧
      ∀ order ∈ r.remembered, order < ((r.sequence.nextOrder monotonicNs).1 : Int)

/-- The last order bounds every order seen, and every issued order carries its process. -/
structure Bounded (processId : Int) (r : SequenceRun) : Prop where
  process : r.sequence.processId = processId
  issued : ∀ order ∈ r.issued, order ≤ r.sequence.lastOrder
  remembered : ∀ order ∈ r.remembered, order ≤ (r.sequence.lastOrder : Int)
  stamped : processId ≠ 0 → ∀ order ∈ r.issued,
    (order : Int) % 2 ^ publicationOrderProcessBits = processId % 2 ^ publicationOrderProcessBits

theorem bounded_start (processId : Int) : Bounded processId (start processId) where
  process := rfl
  issued := by
    intro order horder
    exact absurd horder List.not_mem_nil
  remembered := by
    intro order horder
    exact absurd horder List.not_mem_nil
  stamped := by
    intro _ order horder
    exact absurd horder List.not_mem_nil

variable {processId : Int}

theorem Bounded.remember {r : SequenceRun} (hr : Bounded processId r) (order : Int) :
    Bounded processId (r.step (.remember order)) where
  process := hr.process
  issued := by
    intro seen hseen
    have hold := hr.issued seen hseen
    show seen ≤ (max order r.sequence.lastOrder).toNat
    omega
  remembered := by
    intro seen hseen
    show seen ≤ ((max order r.sequence.lastOrder).toNat : Int)
    cases hseen with
    | head => omega
    | tail _ htail =>
      have hold := hr.remembered seen htail
      omega
  stamped := hr.stamped

theorem Bounded.nextOrder {r : SequenceRun} (hr : Bounded processId r) (monotonicNs : Int) :
    Bounded processId (r.step (.nextOrder monotonicNs)) where
  process := hr.process
  issued := by
    intro seen hseen
    have hlast := r.sequence.lastOrder_lt_issuedOrder monotonicNs
    show seen ≤ r.sequence.issuedOrder monotonicNs
    cases hseen with
    | head => exact le_rfl
    | tail _ htail =>
      have hold := hr.issued seen htail
      omega
  remembered := by
    intro seen hseen
    have hlast := r.sequence.lastOrder_lt_issuedOrder monotonicNs
    have hold := hr.remembered seen hseen
    show seen ≤ (r.sequence.issuedOrder monotonicNs : Int)
    omega
  stamped := by
    intro hprocess seen hseen
    cases hseen with
    | head =>
      rw [← hr.process] at hprocess ⊢
      have hbits := PublicationOrderSequence.issuedOrder_mod hprocess monotonicNs
      show (r.sequence.issuedOrder monotonicNs : Int) % 2 ^ publicationOrderProcessBits = _
      unfold PublicationOrderSequence.processBits publicationOrderProcessBits at hbits
      unfold publicationOrderProcessBits
      omega
    | tail _ htail => exact hr.stamped hprocess seen htail

theorem bounded_step (r : SequenceRun) (call : SequenceCall) (hr : Bounded processId r) :
    Bounded processId (r.step call) := by
  cases call with
  | remember order => exact hr.remember order
  | nextOrder monotonicNs => exact hr.nextOrder monotonicNs

theorem bounded_run (processId : Int) (calls : List SequenceCall) :
    Bounded processId (run SequenceRun.step (start processId) calls) :=
  run_invariant bounded_step (bounded_start processId) calls

theorem Bounded.rises {r : SequenceRun} (hr : Bounded processId r) (call : SequenceCall) :
    r.Rises call := by
  cases call with
  | remember order => trivial
  | nextOrder monotonicNs =>
    have hlast := r.sequence.lastOrder_lt_issuedOrder monotonicNs
    constructor
    · intro seen hseen
      have hold := hr.issued seen hseen
      show seen < r.sequence.issuedOrder monotonicNs
      omega
    · intro seen hseen
      have hold := hr.remembered seen hseen
      show seen < (r.sequence.issuedOrder monotonicNs : Int)
      omega

theorem along_rises (processId : Int) (calls : List SequenceCall) :
    Along SequenceRun.step Rises (start processId) calls := by
  have hany : Along SequenceRun.step (fun _ _ => True) (start processId) calls :=
    along_of_forall_mem (P := fun _ => True) _ fun _ _ => trivial
  exact along_of_invariant (fun r call hr _ => bounded_step r call hr)
    (fun _ call hr _ => hr.rises call) (bounded_start processId) hany

/-- Two processes issue different orders. -/
theorem issued_disjoint {otherId : Int} (hid : 0 < processId)
    (hlt : processId < 2 ^ publicationOrderProcessBits) (hother : 0 < otherId)
    (holt : otherId < 2 ^ publicationOrderProcessBits) (hne : processId ≠ otherId)
    (calls otherCalls : List SequenceCall) :
    ∀ order ∈ (run SequenceRun.step (start processId) calls).issued,
      order ∉ (run SequenceRun.step (start otherId) otherCalls).issued := by
  intro order horder hagain
  have hmine := (bounded_run processId calls).stamped hid.ne' order horder
  have hother := (bounded_run otherId otherCalls).stamped hother.ne' order hagain
  rw [Int.emod_eq_of_lt hid.le hlt] at hmine
  rw [Int.emod_eq_of_lt (by omega) holt] at hother
  exact hne (hmine.symm.trans hother)

end SequenceRun

/-! ## Ordered commands -/

/-- The largest of the field orders. -/
def highestOrder (orders : Dict String Nat) : Nat := (orders.entries.map Prod.snd).foldl max 0

section

variable [PyLib]

/-- `PublicationOrderIssuer.ordered`: the ordered command and the sequence after it. -/
def ordered (sequence : PublicationOrderSequence) (command : CommandPayload) (monotonicNs : Int) :
    CommandPayload × PublicationOrderSequence :=
  if commandKey command = "" then (command, sequence)
  else
    let stated := publicationOrder command
    let issued :=
      if stated = 0 then sequence.nextOrder monotonicNs else (stated, sequence.remember stated)
    let payload :=
      if stated = 0 then command.set "transport_order" (.int issued.1) else command
    let fieldOrders := publicationFieldOrders (payload.set "transport_order" (.int issued.1))
    if fieldOrders.entries = [] then (payload, issued.2)
    else
      let highest := highestOrder fieldOrders
      ((payload.set "transport_order" (.int (max issued.1 highest : Nat))).set
        "transport_field_orders" (.obj (fieldOrders.mapVal fun _ order => .int order).entries),
        issued.2.remember highest)

/-- A command that states its own order and the order of each of its fields. -/
def StatesOrders (command : CommandPayload) : Prop :=
  ∃ order : Nat, 0 < order ∧ command.get? "transport_order" = some (.int order) ∧
    ((publicationFieldOrders command).entries = [] ∨
      highestOrder (publicationFieldOrders command) ≤ order ∧
        command.get? "transport_field_orders" =
          some (.obj ((publicationFieldOrders command).mapVal fun _ order => .int order).entries))

variable {command : CommandPayload}

theorem ordered_of_statesOrders (hstates : StatesOrders command)
    (sequence : PublicationOrderSequence) (monotonicNs : Int) :
    (ordered sequence command monotonicNs).1 = command := by
  obtain ⟨order, hpos, horder, hfields⟩ := hstates
  have hstated : publicationOrder command = order := by
    rw [publicationOrder, horder]
    show (order : Int).toNat = order
    omega
  have hset : command.set "transport_order" (.int order) = command := Dict.set_of_get? horder
  unfold ordered
  split_ifs with hkey
  · rfl
  · simp only [hstated, if_neg hpos.ne', hset]
    split_ifs with hempty
    · rfl
    · obtain ⟨hhighest, hconfigured⟩ := hfields.resolve_left hempty
      show (command.set "transport_order" _).set "transport_field_orders" _ = command
      rw [max_eq_left hhighest, hset, Dict.set_of_get? hconfigured]

omit [PyLib] in
theorem get?_of_publicationOrder (hpos : 0 < publicationOrder command) :
    command.get? "transport_order" = some (.int (publicationOrder command)) := by
  unfold publicationOrder at hpos ⊢
  cases hvalue : command.get? "transport_order" with
  | none =>
    rw [hvalue] at hpos
    exact absurd hpos (Nat.lt_irrefl 0)
  | some value =>
    rw [hvalue] at hpos
    cases value with
    | int i =>
      have hi : ((positiveInteger (some (.int i)) : Nat) : Int) = i :=
        Int.toNat_of_nonneg (by
          have : 0 < i.toNat := hpos
          omega)
      rw [hi]
    | _ => exact absurd hpos (Nat.lt_irrefl 0)

omit [PyLib] in
theorem fieldOrder_pos (hpos : 0 < publicationOrder command) (field : String) :
    0 < fieldOrder command field := by
  unfold fieldOrder
  simp only []
  split <;> omega

omit [PyLib] in
theorem statesOrders_set {order : Nat} (hpos : 0 < order)
    (horder : publicationOrder command = order) :
    StatesOrders ((command.set "transport_order"
      (.int (max order (highestOrder (publicationFieldOrders command)) : Nat))).set
      "transport_field_orders"
      (.obj ((publicationFieldOrders command).mapVal fun _ order => .int order).entries)) := by
  set orders := publicationFieldOrders command with horders
  set stated := (command.set "transport_order" (.int (max order (highestOrder orders) : Nat))).set
    "transport_field_orders" (.obj (orders.mapVal fun _ order => .int order).entries) with hstated
  have hfields : publicationFields stated = publicationFields command := by
    rw [hstated, publicationFields, Dict.get?_set_ne _ _ (by decide), Dict.get?_set_ne _ _ (by decide),
      publicationFields]
  have hconfigured : configuredOrders stated = orders.mapVal fun _ order => .int order := by
    rw [hstated, configuredOrders, Dict.get?_set_self, stringMapping_obj, Option.getD_some]
  have hsame : publicationFieldOrders stated = orders := by
    rw [horders, publicationFieldOrders, hfields, publicationFieldOrders]
    refine Dict.mapVal_congr fun field value hvalue => ?_
    have hget : orders.get? field = some (fieldOrder command field) := by
      rw [horders, publicationFieldOrders, Dict.get?_mapVal, hvalue]
      rfl
    have hfield := fieldOrder_pos (horder ▸ hpos) field
    have hown : positiveInteger ((configuredOrders stated).get? field) = fieldOrder command field := by
      rw [hconfigured, Dict.get?_mapVal, hget]
      rfl
    rw [fieldOrder]
    simp only [hown, if_neg hfield.ne']
  refine ⟨max order (highestOrder orders), by omega, ?_, .inr ⟨?_, ?_⟩⟩
  · rw [hstated, Dict.get?_set_ne _ _ (by decide), Dict.get?_set_self]
  · rw [hsame]
    exact le_max_right _ _
  · rw [hsame, hstated, Dict.get?_set_self]

theorem statesOrders_ordered (sequence : PublicationOrderSequence) (hkey : commandKey command ≠ "")
    (monotonicNs : Int) :
    StatesOrders (ordered sequence command monotonicNs).1 := by
  -- the command with its own order, as it is when the field orders are read
  have hbase : ∀ (payload : CommandPayload) (order : Nat), 0 < order →
      payload.get? "transport_order" = some (.int order) → (publicationFieldOrders payload).entries = [] →
      StatesOrders payload := by
    intro payload order hpos horder hempty
    exact ⟨order, hpos, horder, .inl hempty⟩
  unfold ordered
  rw [if_neg hkey]
  by_cases hstated : publicationOrder command = 0
  · have hpos : 0 < sequence.issuedOrder monotonicNs :=
      Nat.lt_of_le_of_lt (Nat.zero_le _) (sequence.lastOrder_lt_issuedOrder monotonicNs)
    set payload := command.set "transport_order" (.int (sequence.issuedOrder monotonicNs)) with hpayload
    have horder : payload.get? "transport_order" = some (.int (sequence.issuedOrder monotonicNs)) := by
      rw [hpayload, Dict.get?_set_self]
    have hset : payload.set "transport_order" (.int (sequence.issuedOrder monotonicNs)) = payload :=
      Dict.set_of_get? horder
    have hown : publicationOrder payload = sequence.issuedOrder monotonicNs := by
      rw [publicationOrder, horder]
      rfl
    simp only [hstated, if_true, PublicationOrderSequence.nextOrder, ← hpayload, hset]
    split_ifs with hempty
    · exact hbase payload _ hpos horder hempty
    · exact statesOrders_set hpos hown
  · have hpos : 0 < publicationOrder command := Nat.pos_of_ne_zero hstated
    have horder := get?_of_publicationOrder hpos
    have hset : command.set "transport_order" (.int (publicationOrder command)) = command :=
      Dict.set_of_get? horder
    simp only [if_neg hstated, hset]
    split_ifs with hempty
    · exact hbase command _ hpos horder hempty
    · exact statesOrders_set hpos rfl

/-- Sending an ordered command once more changes nothing in it. -/
theorem ordered_ordered (sequence other : PublicationOrderSequence) (command : CommandPayload)
    (monotonicNs otherNs : Int) :
    (ordered other (ordered sequence command monotonicNs).1 otherNs).1 =
      (ordered sequence command monotonicNs).1 := by
  by_cases hkey : commandKey command = ""
  · have hsame : (ordered sequence command monotonicNs).1 = command := by
      rw [ordered, if_pos hkey]
    rw [hsame, ordered, if_pos hkey]
  · exact ordered_of_statesOrders (statesOrders_ordered sequence hkey monotonicNs) other otherNs

/-- Each order is above all that were returned or remembered before, two processes never issue one order,
and an ordered command is sent again with the same orders. -/
theorem issued_orders_increase (processId otherId : Int) (calls otherCalls : List SequenceCall)
    (sequence other : PublicationOrderSequence) (command : CommandPayload) (monotonicNs otherNs : Int) :
    Along SequenceRun.step SequenceRun.Rises (.start processId) calls ∧
    (0 < processId → processId < 2 ^ publicationOrderProcessBits →
      0 < otherId → otherId < 2 ^ publicationOrderProcessBits → processId ≠ otherId →
      ∀ order ∈ (run SequenceRun.step (.start processId) calls).issued,
        order ∉ (run SequenceRun.step (.start otherId) otherCalls).issued) ∧
    (ordered other (ordered sequence command monotonicNs).1 otherNs).1 =
      (ordered sequence command monotonicNs).1 :=
  ⟨SequenceRun.along_rises processId calls,
    fun hid hlt hother holt hne => SequenceRun.issued_disjoint hid hlt hother holt hne calls otherCalls,
    ordered_ordered sequence other command monotonicNs otherNs⟩

end

/-- Calls with a clock that stands still, jumps back, and is behind a remembered order. -/
def unsteadyCalls : List SequenceCall :=
  [.nextOrder 5, .nextOrder 5, .remember (2 ^ 40), .nextOrder 3]

/-- Two processes on the same unsteady clock issue three orders each, all different. -/
theorem unsteady_orders_differ :
    (run SequenceRun.step (.start 7) unsteadyCalls).issued = [256 * 2 ^ 32 + 7, 6 * 2 ^ 32 + 7, 5 * 2 ^ 32 + 7] ∧
      ∀ order ∈ (run SequenceRun.step (.start 7) unsteadyCalls).issued,
        order ∉ (run SequenceRun.step (.start 9) unsteadyCalls).issued :=
  ⟨by decide, (@issued_orders_increase PyLib.sample 7 9 unsteadyCalls unsteadyCalls (.create 7) (.create 9)
    Dict.empty 5 5).2.1 (by decide) (by decide) (by decide) (by decide) (by decide)⟩

end VenusEvcharger
