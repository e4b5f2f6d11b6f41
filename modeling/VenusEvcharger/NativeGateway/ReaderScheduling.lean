import VenusEvcharger.NativeGateway.EnergyReader

/-!
# Refused operations of the energy reader

The runtime asks the reader for an operation first, and looks at the rate limits and at the broker afterwards. A member
that was refused is handed out again, since the cycle has not moved. A discovery that was refused is not: it was
scheduled anew when it was handed out.

Scope: ticks in which the broker is busy do not reach the reader and are left out. What the commands and the
introspections submit marks the same limits.
-/

namespace VenusEvcharger.NativeGateway

open Library

/-- `OperationRates`. -/
structure OperationRates where
  readInterval : ℚ
  writeInterval : ℚ
  introspectionInterval : ℚ
  nextRead : ℚ
  nextWrite : ℚ
  nextIntrospection : ℚ

namespace OperationRates

/-- `due`. -/
def due (rates : OperationRates) (now : ℚ) : DbusOperation → Bool
  | .listNames => decide (rates.nextRead ≤ now)
  | .read _ _ => decide (rates.nextRead ≤ now)
  | .write _ _ _ => decide (rates.nextWrite ≤ now)
  | .introspect _ _ => decide (rates.nextIntrospection ≤ now)

/-- `mark`. -/
def mark (rates : OperationRates) (now : ℚ) : DbusOperation → OperationRates
  | .listNames => { rates with nextRead := now + rates.readInterval }
  | .read _ _ => { rates with nextRead := now + rates.readInterval }
  | .write _ _ _ => { rates with nextWrite := now + rates.writeInterval }
  | .introspect _ _ => { rates with nextIntrospection := now + rates.introspectionInterval }

end OperationRates

/-- The reader in the runtime, with the operation of the reader that the broker executes, and the operation that the
last call handed out when it was refused, with its mode. -/
structure ReaderRuntime where
  reader : EnergyReader
  rates : OperationRates
  inFlight : Option DbusOperation
  refused : Option (DbusOperation × ReadMode)

/-- What happens to the reader. -/
inductive ReaderRuntimeEvent where
  /-- `try_schedule_reader`, with the clock of the call, of the rate check and of the mark. -/
  | schedule (mode : ReadMode) (now : ℚ) (probeAllowed : ReadMember → Bool) (checkedAt markedAt : ℚ) (accepted : Bool)
  /-- `poll_broker` has the reply to the operation of the reader. -/
  | reply (answer : DbusAnswer) (inputs : ReplyInputs)
  | requestRefresh (scope : String)
  /-- A command or an introspection is submitted. -/
  | submitted (operation : DbusOperation) (now : ℚ)

namespace ReaderRuntime

/-- `try_schedule_reader` and `submit`. -/
def trySchedule (s : ReaderRuntime) (mode : ReadMode) (now : ℚ) (probeAllowed : ReadMember → Bool)
    (checkedAt markedAt : ℚ) (accepted : Bool) : ReaderRuntime :=
  match s.reader.nextOperation mode now probeAllowed with
  | (reader, none) => { s with reader := reader, refused := none }
  | (reader, some operation) =>
    if s.rates.due checkedAt operation && accepted then
      { s with
        reader := reader
        rates := s.rates.mark markedAt operation
        inFlight := some operation
        refused := none }
    else { s with reader := reader, refused := some (operation, mode) }

/-- One event. While the broker executes an operation of the reader nothing is scheduled. -/
def step (s : ReaderRuntime) : ReaderRuntimeEvent → ReaderRuntime
  | .schedule mode now probeAllowed checkedAt markedAt accepted =>
    if s.inFlight.isSome then s else s.trySchedule mode now probeAllowed checkedAt markedAt accepted
  | .reply answer inputs =>
    match s.inFlight with
    | none => s
    | some operation => { s with reader := s.reader.handleResult operation answer inputs, inFlight := none }
  | .requestRefresh scope => { s with reader := s.reader.requestRefresh scope }
  | .submitted operation now => { s with rates := s.rates.mark now operation }

/-- A runtime that starts. -/
def start (policy : ReadPolicy) (now : ℚ) (rates : OperationRates) : ReaderRuntime :=
  ⟨.fromConfig policy now, rates, none, none⟩

/-- The operation that was refused is handed out by the next call, when it has the same mode. -/
def HandedOutAgain (s : ReaderRuntime) (e : ReaderRuntimeEvent) : Prop :=
  ∀ mode now probeAllowed checkedAt markedAt accepted, e = .schedule mode now probeAllowed checkedAt markedAt accepted →
    s.inFlight = none → ∀ operation, s.refused = some (operation, mode) →
      (s.reader.nextOperation mode now probeAllowed).2 = some operation

/-- When a discovery was refused, the next call in the same mode comes after the interval for which it was deferred. -/
def DiscoveryDueAgain (s : ReaderRuntime) (e : ReaderRuntimeEvent) : Prop :=
  ∀ mode now probeAllowed checkedAt markedAt accepted, e = .schedule mode now probeAllowed checkedAt markedAt accepted →
    s.inFlight = none → s.refused = some (.listNames, mode) → s.reader.nextServiceScan ≤ now

/-! ## Refusals -/

/-- A refused operation is a discovery of an idle reader, or the next member of its cycle. -/
structure Coherent (s : ReaderRuntime) : Prop where
  wellFormed : s.reader.WellFormed
  free : s.inFlight.isSome = true → s.refused = none
  refused : ∀ operation mode, s.refused = some (operation, mode) →
    operation = .listNames ∧ s.reader.active = none ∧ mode.allowsDiscovery = true ∨
    ∃ active member, s.reader.active = some active ∧ active.members[active.index]? = some member ∧
      operation = readOperation member ∧ (active.key = .pv → mode.allowsOptional = true)

variable {s : ReaderRuntime}

theorem handedOut {reader : EnergyReader} {mode : ReadMode} {now : ℚ} {probeAllowed : ReadMember → Bool}
    {operation : DbusOperation} (h : (reader.nextOperation mode now probeAllowed).2 = some operation) :
    operation = .listNames ∧ (reader.nextOperation mode now probeAllowed).1.active = none ∧
        mode.allowsDiscovery = true ∨
      ∃ active member, (reader.nextOperation mode now probeAllowed).1.active = some active ∧
        active.members[active.index]? = some member ∧ operation = readOperation member ∧
        (active.key = .pv → mode.allowsOptional = true) := by
  cases hactive : reader.active with
  | some active =>
    right
    unfold EnergyReader.nextOperation at *
    rw [hactive] at h ⊢
    dsimp only at h ⊢
    split at h
    · nomatch h
    · rename_i hallowed
      rw [if_neg hallowed]
      obtain ⟨member, hmember, hread⟩ := Option.map_eq_some_iff.mp h
      refine ⟨active, member, hactive, hmember, hread.symm, fun hkey => ?_⟩
      rw [hkey] at hallowed
      simpa using hallowed
  | none =>
    rcases EnergyReader.nextOperation_idle hactive mode now probeAllowed with
      ⟨hscan, hcall⟩ | ⟨-, ⟨-, hcall⟩ | ⟨key, hkey, hcall⟩⟩
    · rw [hcall] at h ⊢
      exact .inl ⟨(Option.some.inj h).symm, hactive, hscan.1⟩
    · rw [hcall] at h
      nomatch h
    · rw [hcall] at h ⊢
      right
      obtain ⟨member, hmember, hread⟩ := Option.map_eq_some_iff.mp h
      have hne : reader.members probeAllowed key ≠ [] := by
        intro hempty
        rw [hempty] at hmember
        nomatch hmember
      refine ⟨⟨key, reader.members probeAllowed key, 0, [], mode.intervalFactor, 0⟩, member, ?_, ?_, hread.symm, ?_⟩
      · show (reader.startCycle key now mode.intervalFactor probeAllowed).active = _
        rw [EnergyReader.startCycle_active, if_neg hne]
      · rw [← List.head?_eq_getElem?]
        exact hmember
      · intro hpv
        exact (EnergyReader.nextDueKey_eq_some hkey).2.1.resolve_right (not_not.mpr hpv)

theorem coherent_start (policy : ReadPolicy) (now : ℚ) (rates : OperationRates) :
    (start policy now rates).Coherent where
  wellFormed := EnergyReader.wellFormed_of_idle rfl
  free := fun _ => rfl
  refused := fun _ _ h => nomatch h

theorem coherent_step (h : s.Coherent) (e : ReaderRuntimeEvent) : (s.step e).Coherent := by
  cases e with
  | schedule mode now probeAllowed checkedAt markedAt accepted =>
    unfold step
    dsimp only
    split
    · exact h
    · rename_i hidle
      have hwell := h.wellFormed.nextOperation mode now probeAllowed
      have hout (operation : DbusOperation) := @handedOut s.reader mode now probeAllowed operation
      unfold trySchedule
      generalize s.reader.nextOperation mode now probeAllowed = call at hwell hout ⊢
      obtain ⟨reader, _ | operation⟩ := call
      · exact ⟨hwell, fun _ => rfl, fun _ _ hnone => nomatch hnone⟩
      · dsimp only at hwell hout ⊢
        split
        · exact ⟨hwell, fun _ => rfl, fun _ _ hnone => nomatch hnone⟩
        · refine ⟨hwell, fun hbusy => absurd hbusy hidle, ?_⟩
          rintro _ _ ⟨⟩
          exact hout operation rfl
  | reply answer inputs =>
    unfold step
    dsimp only
    cases hflight : s.inFlight with
    | none => exact h
    | some operation =>
      have hnone : s.refused = none := h.free (by rw [hflight]; rfl)
      refine ⟨h.wellFormed.handleResult operation answer inputs, fun _ => hnone, ?_⟩
      intro operation' mode hrefused
      rw [show s.refused = some (operation', mode) from hrefused] at hnone
      nomatch hnone
  | requestRefresh scope => exact ⟨h.wellFormed.step (.requestRefresh scope), h.free, h.refused⟩
  | submitted operation now => exact ⟨h.wellFormed, h.free, h.refused⟩

/-- A refused member is handed out again, and a refused discovery exactly when it is due again. -/
theorem handedOutAgain_iff (h : s.Coherent) (e : ReaderRuntimeEvent) :
    s.HandedOutAgain e ↔ s.DiscoveryDueAgain e := by
  constructor
  · intro hagain mode now probeAllowed checkedAt markedAt accepted heq hflight hrefused
    have hout := hagain mode now probeAllowed checkedAt markedAt accepted heq hflight .listNames hrefused
    rcases h.refused .listNames mode hrefused with ⟨-, hidle, -⟩ | ⟨active, member, -, -, hread, -⟩
    · rcases EnergyReader.nextOperation_idle hidle mode now probeAllowed with
        ⟨hscan, -⟩ | ⟨-, ⟨-, hcall⟩ | ⟨key, -, hcall⟩⟩
      · exact hscan.2
      · rw [hcall] at hout
        nomatch hout
      · rw [hcall] at hout
        obtain ⟨member, -, hread⟩ := Option.map_eq_some_iff.mp hout
        nomatch hread
    · nomatch hread
  · intro hdue mode now probeAllowed checkedAt markedAt accepted heq hflight operation hrefused
    rcases h.refused operation mode hrefused with
      ⟨rfl, hidle, hdiscovery⟩ | ⟨active, member, hactive, hmember, rfl, hoptional⟩
    · have hscan := hdue mode now probeAllowed checkedAt markedAt accepted heq hflight hrefused
      rcases EnergyReader.nextOperation_idle hidle mode now probeAllowed with ⟨-, hcall⟩ | ⟨hnot, -⟩
      · rw [hcall]
      · exact absurd ⟨hdiscovery, hscan⟩ hnot
    · unfold EnergyReader.nextOperation
      rw [hactive]
      dsimp only
      rw [if_neg, hmember, Option.map_some]
      rw [Bool.and_eq_true, decide_eq_true_eq, Bool.not_eq_true']
      rintro ⟨hkey, hnot⟩
      rw [hoptional hkey] at hnot
      nomatch hnot

end ReaderRuntime

/-- In every run the operations that are refused are handed out again by the next call in the same mode, exactly when
every call after a refused discovery comes after the interval for which it was deferred. -/
theorem refused_operations_return_iff (policy : ReadPolicy) (now : ℚ) (rates : OperationRates)
    (events : List ReaderRuntimeEvent) :
    Along ReaderRuntime.step ReaderRuntime.HandedOutAgain (.start policy now rates) events ↔
      Along ReaderRuntime.step ReaderRuntime.DiscoveryDueAgain (.start policy now rates) events :=
  along_iff_of_invariant (fun _ e (h : ReaderRuntime.Coherent _) _ => ReaderRuntime.coherent_step h e)
    (fun _ e h => ReaderRuntime.handedOutAgain_iff h e) (ReaderRuntime.coherent_start policy now rates)

/-- A command has read a tenth of a second ago when the first discovery is handed out. -/
def deferredEvents : List ReaderRuntimeEvent :=
  [.submitted (.read "com.victronenergy.system" "/Relay/0/State") 0,
    .schedule .normal (1 / 10) (fun _ => true) (1 / 10) (1 / 10) true,
    .schedule .normal (3 / 10) (fun _ => true) (3 / 10) (3 / 10) true]

/-- The discovery is refused, the next call reads the grid, and the discovery waits for a minute. -/
theorem refused_discovery_deferred :
    let rates : OperationRates := ⟨1 / 4, 35 / 100, 2, 0, 0, 0⟩
    ¬ Along ReaderRuntime.step ReaderRuntime.HandedOutAgain (.start inverterPolicy 0 rates) deferredEvents ∧
      (run ReaderRuntime.step (.start inverterPolicy 0 rates) (deferredEvents.take 2)).refused =
        some (.listNames, .normal) ∧
      (run ReaderRuntime.step (.start inverterPolicy 0 rates) deferredEvents).inFlight =
        some (.read "com.victronenergy.system" "/Ac/Grid/L1/Power") ∧
      (run ReaderRuntime.step (.start inverterPolicy 0 rates) deferredEvents).reader.nextServiceScan = 1 / 10 + 60 := by
  intro rates
  have hrefused : (run ReaderRuntime.step (.start inverterPolicy 0 rates) (deferredEvents.take 2)).refused =
      some (.listNames, .normal) := by decide +kernel
  refine ⟨fun hagain => ?_, hrefused, by decide +kernel, by decide +kernel⟩
  have hlast := hagain.2.2.1 .normal (3 / 10) (fun _ => true) (3 / 10) (3 / 10) true rfl (by decide +kernel) .listNames
    hrefused
  exact absurd hlast (by decide +kernel)

end VenusEvcharger.NativeGateway
