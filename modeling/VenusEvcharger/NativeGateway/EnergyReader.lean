import Mathlib.Data.List.Destutter
import Mathlib.Data.List.MinMax
import VenusEvcharger.Library.Run
import VenusEvcharger.NativeGateway.Executor

/-!
# The energy reader of the native gateway

The reader hands out one bus operation at a time: the next member of the cycle that is active, a discovery of the
services when it is due, or the first member of the key that is due for the longest time. A key that has no members
only gets a new due time.

Scope: durations are exact. The measurements that the cycles publish and the descriptions of the topology are left out.
What the trackers of PV sources know is an input: which members may be probed, which are validated, whether a failed one
is held, and the interval factor of the latencies.
-/

namespace VenusEvcharger.NativeGateway

open Library

/-! ## Keys and modes -/

/-- `ReadKey`, in the order of the priorities. -/
inductive ReadKey where
  | grid
  | pv
  | batterySoc
  | batteryPower
  | batteryCapacityWh
  | batteryCapacityAh
  | batteryVoltage
deriving DecidableEq

/-- The order of `next_due_key`. -/
def readOrder : List ReadKey :=
  [.grid, .pv, .batterySoc, .batteryPower, .batteryCapacityWh, .batteryCapacityAh, .batteryVoltage]

/-- The place of a key in the order. -/
def ReadKey.priority (key : ReadKey) : Nat := readOrder.idxOf key

/-- `ReadMode`. -/
inductive ReadMode where
  | normal
  | degraded
  | protective
deriving DecidableEq

namespace ReadMode

/-- `allows_optional`. -/
def allowsOptional (mode : ReadMode) : Bool := mode ≠ .protective

/-- `allows_discovery`. -/
def allowsDiscovery (mode : ReadMode) : Bool := mode = .normal

/-- `interval_factor`. -/
def intervalFactor : ReadMode → ℚ
  | .normal => 1
  | .degraded => 3
  | .protective => 5

end ReadMode

/-! ## The policy -/

/-- `ReadPolicy`, with the bounds that `from_config` puts on its intervals. -/
structure ReadPolicy where
  gridService : String
  gridPaths : List String
  pvService : String
  pvPrefix : String
  pvPath : String
  dcService : String
  dcPath : String
  useDc : Bool
  aggregateService : String
  aggregatePaths : List String
  batteryService : String
  batteryPrefix : String
  batterySocPath : String
  batteryPowerService : String
  batteryPowerPath : String
  capacityWhPath : String
  capacityAhPath : String
  voltagePath : String
  maxPvServices : Nat
  serviceInterval : ℚ
  missingPvServiceInterval : ℚ
  coreReadMaxAge : ℚ
  maximumTick : ℚ
  gridInterval : ℚ
  pvInterval : ℚ
  batterySocInterval : ℚ
  batteryPowerInterval : ℚ
  metadataInterval : ℚ
  maxPvServices_pos : 1 ≤ maxPvServices
  gridInterval_ge : 1 / 5 ≤ gridInterval
  pvInterval_ge : 1 / 5 ≤ pvInterval
  batterySocInterval_ge : 1 / 5 ≤ batterySocInterval
  batteryPowerInterval_ge : 1 / 5 ≤ batteryPowerInterval
  metadataInterval_ge : 5 ≤ metadataInterval
  missingPvServiceInterval_ge : 15 ≤ missingPvServiceInterval
  missingPvServiceInterval_le : missingPvServiceInterval ≤ serviceInterval

namespace ReadPolicy

/-- The entries of `intervals`: the metadata keys are configured by their paths. -/
def intervals (policy : ReadPolicy) : ReadKey → Option ℚ
  | .grid => some policy.gridInterval
  | .pv => some policy.pvInterval
  | .batterySoc => some policy.batterySocInterval
  | .batteryPower => some policy.batteryPowerInterval
  | .batteryCapacityWh => if policy.capacityWhPath = "" then none else some policy.metadataInterval
  | .batteryCapacityAh => if policy.capacityAhPath = "" then none else some policy.metadataInterval
  | .batteryVoltage => if policy.voltagePath = "" then none else some policy.metadataInterval

/-- The interval of a configured key. -/
def interval (policy : ReadPolicy) (key : ReadKey) : ℚ := (policy.intervals key).getD 0

/-- `success_delay` of a configured key: a fresh core value leaves room for the ticks that its next read takes. -/
def successDelay (policy : ReadPolicy) (key : ReadKey) (intervalFactor : ℚ) (operationCount : Nat) : ℚ :=
  let base := policy.interval key
  let requested := base * max intervalFactor 1
  if key ∉ [ReadKey.grid, .pv, .batterySoc] then requested
  else
    let operations := min (max operationCount 1) (2 ^ 32 - 1)
    let reserve := policy.maximumTick * operations
    let freshnessDelay := max (max (policy.coreReadMaxAge - reserve) 0) base
    min requested freshnessDelay

theorem interval_pos (policy : ReadPolicy) {key : ReadKey} (h : (policy.intervals key).isSome) :
    0 < policy.interval key := by
  have hgrid := policy.gridInterval_ge
  have hpv := policy.pvInterval_ge
  have hsoc := policy.batterySocInterval_ge
  have hpower := policy.batteryPowerInterval_ge
  have hmetadata := policy.metadataInterval_ge
  unfold interval
  cases key with
  | grid => show 0 < policy.gridInterval; linarith
  | pv => show 0 < policy.pvInterval; linarith
  | batterySoc => show 0 < policy.batterySocInterval; linarith
  | batteryPower => show 0 < policy.batteryPowerInterval; linarith
  | batteryCapacityWh =>
    simp only [intervals] at h ⊢
    split at h
    · nomatch h
    · rename_i hpath
      rw [if_neg hpath, Option.getD_some]
      linarith
  | batteryCapacityAh =>
    simp only [intervals] at h ⊢
    split at h
    · nomatch h
    · rename_i hpath
      rw [if_neg hpath, Option.getD_some]
      linarith
  | batteryVoltage =>
    simp only [intervals] at h ⊢
    split at h
    · nomatch h
    · rename_i hpath
      rw [if_neg hpath, Option.getD_some]
      linarith

/-- A configured key is due later after a success. -/
theorem successDelay_pos (policy : ReadPolicy) {key : ReadKey} (h : (policy.intervals key).isSome) (intervalFactor : ℚ)
    (operationCount : Nat) : 0 < policy.successDelay key intervalFactor operationCount := by
  have hbase := policy.interval_pos h
  have hfactor : (0 : ℚ) < max intervalFactor 1 := lt_of_lt_of_le one_pos (le_max_right _ _)
  have hrequested := mul_pos hbase hfactor
  unfold successDelay
  dsimp only
  split
  · exact hrequested
  · exact lt_min hrequested (lt_of_lt_of_le hbase (le_max_right _ _))

end ReadPolicy

/-- A grid meter and the PV inverters that advertise themselves. -/
def inverterPolicy : ReadPolicy where
  gridService := "com.victronenergy.system"
  gridPaths := ["/Ac/Grid/L1/Power"]
  pvService := ""
  pvPrefix := "com.victronenergy.pvinverter"
  pvPath := "/Ac/Power"
  dcService := ""
  dcPath := ""
  useDc := false
  aggregateService := ""
  aggregatePaths := []
  batteryService := ""
  batteryPrefix := "com.victronenergy.battery"
  batterySocPath := "/Soc"
  batteryPowerService := "com.victronenergy.system"
  batteryPowerPath := "/Dc/Battery/Power"
  capacityWhPath := ""
  capacityAhPath := ""
  voltagePath := ""
  maxPvServices := 10
  serviceInterval := 900
  missingPvServiceInterval := 60
  coreReadMaxAge := 5
  maximumTick := 1
  gridInterval := 2
  pvInterval := 2
  batterySocInterval := 3
  batteryPowerInterval := 10
  metadataInterval := 300
  maxPvServices_pos := by norm_num
  gridInterval_ge := by norm_num
  pvInterval_ge := by norm_num
  batterySocInterval_ge := by norm_num
  batteryPowerInterval_ge := by norm_num
  metadataInterval_ge := by norm_num
  missingPvServiceInterval_ge := by norm_num
  missingPvServiceInterval_le := by norm_num

/-! ## Members -/

/-- `ReadMember`: a path that is read for a key. -/
structure ReadMember where
  service : String
  path : String
deriving DecidableEq

/-- `read_operation`. -/
def readOperation (member : ReadMember) : DbusOperation := .read member.service member.path

/-- `ActiveRead`: the cycle of a key. -/
structure ActiveRead where
  key : ReadKey
  members : List ReadMember
  index : Nat
  errors : List String
  intervalFactor : ℚ
  operationCount : Nat

/-- `EnergyReader`. -/
structure EnergyReader where
  policy : ReadPolicy
  services : List String
  nextServiceScan : ℚ
  nextDue : ReadKey → Option ℚ
  failureCounts : ReadKey → Nat
  active : Option ActiveRead
  activeDiscoveryInterval : ℚ

/-- What the reader is told with a reply. -/
structure ReplyInputs where
  now : ℚ
  /-- `Clocks::now` succeeds at the end of a cycle. -/
  clocks : Bool
  /-- The factor of the latencies of the member. -/
  latencyFactor : ℚ
  /-- A PV member that fails is held. -/
  held : Bool
  /-- The PV members that are validated. -/
  validated : ReadMember → Bool

namespace EnergyReader

/-- `from_config` at a time. -/
def fromConfig (policy : ReadPolicy) (now : ℚ) : EnergyReader where
  policy := policy
  services := []
  nextServiceScan := now
  nextDue := fun _ => none
  failureCounts := fun _ => 0
  active := none
  activeDiscoveryInterval := policy.missingPvServiceInterval

/-- `service_is_advertised`. -/
def serviceIsAdvertised (s : EnergyReader) (service : String) : Bool := decide (service ∈ s.services)

/-- `pv_ac_services`. -/
def pvAcServices (s : EnergyReader) : List String :=
  if s.policy.pvService ≠ "" then
    if s.serviceIsAdvertised s.policy.pvService then [s.policy.pvService] else []
  else
    (s.services.filter fun service => s.policy.pvPrefix.toList.isPrefixOf service.toList).take s.policy.maxPvServices

/-- `pv_candidate_members`. -/
def pvCandidateMembers (s : EnergyReader) : List ReadMember :=
  if s.policy.aggregateService ≠ "" && s.policy.aggregatePaths ≠ [] &&
      s.serviceIsAdvertised s.policy.aggregateService then
    s.policy.aggregatePaths.map fun path => ⟨s.policy.aggregateService, path⟩
  else
    (s.pvAcServices.map fun service => ⟨service, s.policy.pvPath⟩) ++
      if s.policy.useDc && s.policy.dcService ≠ "" && s.policy.dcPath ≠ "" &&
          s.serviceIsAdvertised s.policy.dcService then
        [⟨s.policy.dcService, s.policy.dcPath⟩]
      else []

/-- `selected_battery_service`. -/
def selectedBatteryService (s : EnergyReader) : Option String :=
  if s.policy.batteryService ≠ "" then some s.policy.batteryService
  else s.services.find? fun service => s.policy.batteryPrefix.toList.isPrefixOf service.toList

/-- The member of a key that is read from the battery service. -/
def batteryMember (s : EnergyReader) (path : String) : List ReadMember :=
  (s.selectedBatteryService.map fun service => ⟨service, path⟩).toList

/-- `members`: of the PV members those that may be probed. -/
def members (s : EnergyReader) (probeAllowed : ReadMember → Bool) : ReadKey → List ReadMember
  | .grid => s.policy.gridPaths.map fun path => ⟨s.policy.gridService, path⟩
  | .pv => s.pvCandidateMembers.filter probeAllowed
  | .batteryPower => [⟨s.policy.batteryPowerService, s.policy.batteryPowerPath⟩]
  | .batterySoc => s.batteryMember s.policy.batterySocPath
  | .batteryCapacityWh => s.batteryMember s.policy.capacityWhPath
  | .batteryCapacityAh => s.batteryMember s.policy.capacityAhPath
  | .batteryVoltage => s.batteryMember s.policy.voltagePath

/-! ## Operations -/

/-- A configured key whose time has come. -/
def due (s : EnergyReader) (now : ℚ) (key : ReadKey) : Bool :=
  (s.policy.intervals key).isSome && (s.nextDue key).all (· ≤ now)

/-- The due time of a key; a key without one comes first. -/
def dueTime (s : EnergyReader) (key : ReadKey) : WithBot ℚ :=
  match s.nextDue key with
  | none => ⊥
  | some time => (time : WithBot ℚ)

/-- What `next_due_key` compares: the due time, and the priority. -/
def dueRank (s : EnergyReader) (key : ReadKey) : WithBot ℚ ×ₗ Nat := toLex (s.dueTime key, key.priority)

/-- `next_due_key`. -/
def nextDueKey (s : EnergyReader) (now : ℚ) (allowOptional : Bool) : Option ReadKey :=
  (readOrder.filter fun key => (allowOptional || key ≠ .pv) && s.due now key).argmin s.dueRank

/-- `start_cycle`. -/
def startCycle (s : EnergyReader) (key : ReadKey) (now intervalFactor : ℚ) (probeAllowed : ReadMember → Bool) :
    EnergyReader :=
  let members := s.members probeAllowed key
  let delay := s.policy.successDelay key intervalFactor members.length
  let s := { s with nextDue := Function.update s.nextDue key (some (now + delay)) }
  if members = [] then s else { s with active := some ⟨key, members, 0, [], intervalFactor, 0⟩ }

/-- `next_operation`. -/
def nextOperation (s : EnergyReader) (mode : ReadMode) (now : ℚ) (probeAllowed : ReadMember → Bool) :
    EnergyReader × Option DbusOperation :=
  match s.active with
  | some active =>
    if active.key = .pv && !mode.allowsOptional then (s, none)
    else (s, active.members[active.index]?.map readOperation)
  | none =>
    if mode.allowsDiscovery && decide (s.nextServiceScan ≤ now) then
      ({ s with nextServiceScan := now + s.activeDiscoveryInterval }, some .listNames)
    else
      match s.nextDueKey now mode.allowsOptional with
      | none => (s, none)
      | some key =>
        let s := s.startCycle key now mode.intervalFactor probeAllowed
        (s, (s.active.bind fun active => active.members.head?).map readOperation)

/-- The interval after a discovery that failed. -/
def discoveryRetry (policy : ReadPolicy) : ℚ := min (min policy.serviceInterval policy.missingPvServiceInterval) 60

/-- `handle_names`. -/
def handleNames (s : EnergyReader) (answer : DbusAnswer) (inputs : ReplyInputs) : EnergyReader :=
  match answer with
  | .names names =>
    let s := { s with services := (names.insertionSort (· ≤ ·)).destutter (· ≠ ·) }
    let interval :=
      if s.pvCandidateMembers.any inputs.validated then s.policy.serviceInterval
      else s.policy.missingPvServiceInterval
    { s with activeDiscoveryInterval := interval, nextServiceScan := inputs.now + interval }
  | _ =>
    { s with
      activeDiscoveryInterval := discoveryRetry s.policy
      nextServiceScan := inputs.now + discoveryRetry s.policy }

/-- `schedule_completed_cycle`: a core cycle with errors is retried after a growing delay. -/
def scheduleCompletedCycle (s : EnergyReader) (active : ActiveRead) (now : ℚ) : EnergyReader :=
  if active.key = .pv ∨ active.errors = [] then
    let delay := s.policy.successDelay active.key active.intervalFactor active.operationCount
    { s with
      failureCounts := Function.update s.failureCounts active.key 0
      nextDue := Function.update s.nextDue active.key (some (now + delay)) }
  else
    let failures := min (s.failureCounts active.key + 1) 6
    let delay := max (s.policy.interval active.key * 10) 30 * 2 ^ (failures - 1)
    { s with
      failureCounts := Function.update s.failureCounts active.key failures
      nextDue := Function.update s.nextDue active.key (some (now + min delay 300)) }

/-- What a reply adds to the cycle. -/
def recorded (active : ActiveRead) (member : ReadMember) (answer : DbusAnswer) (inputs : ReplyInputs) : ActiveRead :=
  let errors :=
    match answer with
    | .value (some _) _ => []
    | .value none _ => [member.service ++ member.path ++ ": non-numeric value"]
    | .error error =>
      if active.key = .pv && inputs.held then [] else [member.service ++ member.path ++ ": " ++ error]
    | _ => [member.service ++ member.path ++ ": wrong reply type"]
  { active with
    operationCount := active.operationCount + 1
    intervalFactor :=
      if active.key = .pv then max active.intervalFactor inputs.latencyFactor else active.intervalFactor
    errors := active.errors ++ errors
    index := active.index + 1 }

/-- `handle_read_member`: a reply that is not the one to the active member gives the cycle up. -/
def handleReadMember (s : EnergyReader) (service path : String) (answer : DbusAnswer) (inputs : ReplyInputs) :
    EnergyReader :=
  match s.active with
  | none => s
  | some active =>
    let s := { s with active := none }
    match active.members[active.index]? with
    | none => s
    | some member =>
      if member ≠ ⟨service, path⟩ then s
      else
        let active := recorded active member answer inputs
        if active.index < active.members.length then { s with active := some active }
        else if inputs.clocks then s.scheduleCompletedCycle active inputs.now
        else s

/-- `handle_result`. -/
def handleResult (s : EnergyReader) (operation : DbusOperation) (answer : DbusAnswer) (inputs : ReplyInputs) :
    EnergyReader :=
  match operation with
  | .listNames => s.handleNames answer inputs
  | .read service path => s.handleReadMember service path answer inputs
  | _ => s

/-- The keys of a scope of `request_refresh`. -/
def refreshKeys : String → List ReadKey
  | "grid" => [.grid]
  | "pv" => [.pv]
  | "battery" => [.batterySoc, .batteryPower, .batteryCapacityWh, .batteryCapacityAh, .batteryVoltage]
  | "all" => readOrder
  | "energy_source" => readOrder
  | _ => []

/-- `request_refresh`: the configured keys of the scope are due. -/
def requestRefresh (s : EnergyReader) (scope : String) : EnergyReader :=
  { s with nextDue := fun key =>
      if key ∈ refreshKeys scope ∧ (s.policy.intervals key).isSome then none else s.nextDue key }

end EnergyReader

/-- A call of the reader. -/
inductive ReaderEvent where
  | nextOperation (mode : ReadMode) (now : ℚ) (probeAllowed : ReadMember → Bool)
  | handleResult (operation : DbusOperation) (answer : DbusAnswer) (inputs : ReplyInputs)
  | requestRefresh (scope : String)

/-- One call. -/
def EnergyReader.step (s : EnergyReader) : ReaderEvent → EnergyReader
  | .nextOperation mode now probeAllowed => (s.nextOperation mode now probeAllowed).1
  | .handleResult operation answer inputs => s.handleResult operation answer inputs
  | .requestRefresh scope => s.requestRefresh scope

/-! ## What a call leaves behind -/

/-- No cycle has more PV members. -/
def ReadPolicy.pvMemberLimit (policy : ReadPolicy) : Nat := max policy.aggregatePaths.length (policy.maxPvServices + 1)

namespace EnergyReader

/-- The active cycle is one of a configured key, and it has a member that is to be read. -/
structure WellFormed (s : EnergyReader) : Prop where
  index : ∀ active ∈ s.active, active.index < active.members.length
  configured : ∀ active ∈ s.active, (s.policy.intervals active.key).isSome
  pvMembers : ∀ active ∈ s.active, active.key = .pv → active.members.length ≤ s.policy.pvMemberLimit

variable {s : EnergyReader}

theorem wellFormed_of_idle (h : s.active = none) : s.WellFormed := by
  refine ⟨fun active hactive => ?_, fun active hactive => ?_, fun active hactive => ?_⟩
  all_goals
    rw [h] at hactive
    nomatch hactive

theorem length_pvMembers_le (s : EnergyReader) (probeAllowed : ReadMember → Bool) :
    (s.members probeAllowed .pv).length ≤ s.policy.pvMemberLimit := by
  have hservices : s.pvAcServices.length ≤ s.policy.maxPvServices := by
    have hpos := s.policy.maxPvServices_pos
    unfold pvAcServices
    split
    · split
      · exact hpos
      · exact Nat.zero_le _
    · exact List.length_take_le _ _
  refine (List.length_filter_le _ _).trans ?_
  unfold pvCandidateMembers ReadPolicy.pvMemberLimit
  split
  · rw [List.length_map]
    exact le_max_left _ _
  · rw [List.length_append, List.length_map]
    refine le_trans ?_ (le_max_right _ _)
    split
    · rw [List.length_singleton]
      omega
    · rw [List.length_nil]
      omega

section

variable (s : EnergyReader) (key : ReadKey) (now intervalFactor : ℚ) (probeAllowed : ReadMember → Bool)

theorem startCycle_policy : (s.startCycle key now intervalFactor probeAllowed).policy = s.policy := by
  unfold startCycle
  dsimp only
  split <;> rfl

theorem startCycle_nextDue : (s.startCycle key now intervalFactor probeAllowed).nextDue =
      Function.update s.nextDue key
        (some (now + s.policy.successDelay key intervalFactor (s.members probeAllowed key).length)) := by
  unfold startCycle
  dsimp only
  split <;> rfl

theorem startCycle_active : (s.startCycle key now intervalFactor probeAllowed).active =
      if s.members probeAllowed key = [] then s.active
      else some ⟨key, s.members probeAllowed key, 0, [], intervalFactor, 0⟩ := by
  unfold startCycle
  dsimp only
  split <;> rfl

end

theorem WellFormed.startCycle (h : s.WellFormed) {key : ReadKey} (hkey : (s.policy.intervals key).isSome)
    (now intervalFactor : ℚ) (probeAllowed : ReadMember → Bool) :
    (s.startCycle key now intervalFactor probeAllowed).WellFormed := by
  have hactive := s.startCycle_active key now intervalFactor probeAllowed
  have hpolicy := s.startCycle_policy key now intervalFactor probeAllowed
  split at hactive
  · refine ⟨?_, ?_, ?_⟩
    all_goals rw [hactive]
    · exact h.index
    · rw [hpolicy]
      exact h.configured
    · rw [hpolicy]
      exact h.pvMembers
  · rename_i hmembers
    refine ⟨?_, ?_, ?_⟩
    all_goals
      rw [hactive]
      rintro _ ⟨⟩
    · exact List.length_pos_iff.mpr hmembers
    · rw [hpolicy]
      exact hkey
    · rw [hpolicy]
      rintro rfl
      exact s.length_pvMembers_le probeAllowed

theorem nextDueKey_eq_some {now : ℚ} {allowOptional : Bool} {key : ReadKey}
    (h : s.nextDueKey now allowOptional = some key) :
    s.due now key = true ∧ (allowOptional = true ∨ key ≠ .pv) ∧
      ∀ other, s.due now other = true → (allowOptional = true ∨ other ≠ .pv) → s.dueRank key ≤ s.dueRank other := by
  have hmem := List.argmin_mem h
  rw [List.mem_filter, Bool.and_eq_true, Bool.or_eq_true, decide_eq_true_eq] at hmem
  refine ⟨hmem.2.2, hmem.2.1, fun other hother hallowed => ?_⟩
  refine List.le_of_mem_argmin (List.mem_filter.mpr ⟨?_, ?_⟩) h
  · cases other <;> decide
  · rw [Bool.and_eq_true, Bool.or_eq_true, decide_eq_true_eq]
    exact ⟨hallowed, hother⟩

theorem nextDueKey_isSome {now : ℚ} {allowOptional : Bool} {key : ReadKey} (hdue : s.due now key = true)
    (hallowed : allowOptional = true ∨ key ≠ .pv) : ∃ next, s.nextDueKey now allowOptional = some next := by
  refine Option.ne_none_iff_exists'.mp fun hnone => ?_
  have hempty := List.argmin_eq_none.mp hnone
  have hmem : key ∈ readOrder.filter fun key => (allowOptional || key ≠ .pv) && s.due now key := by
    rw [List.mem_filter, Bool.and_eq_true, Bool.or_eq_true, decide_eq_true_eq]
    refine ⟨?_, hallowed, hdue⟩
    cases key <;> decide
  rw [hempty] at hmem
  nomatch hmem

/-- A call hands out the next member of the active cycle, a discovery, nothing, or the first member of the next key. -/
theorem nextOperation_idle (h : s.active = none) (mode : ReadMode) (now : ℚ) (probeAllowed : ReadMember → Bool) :
    ((mode.allowsDiscovery = true ∧ s.nextServiceScan ≤ now) ∧ s.nextOperation mode now probeAllowed =
      ({ s with nextServiceScan := now + s.activeDiscoveryInterval }, some .listNames)) ∨
    (¬ (mode.allowsDiscovery = true ∧ s.nextServiceScan ≤ now) ∧
      ((s.nextDueKey now mode.allowsOptional = none ∧ s.nextOperation mode now probeAllowed = (s, none)) ∨
      ∃ key, s.nextDueKey now mode.allowsOptional = some key ∧ s.nextOperation mode now probeAllowed =
        (s.startCycle key now mode.intervalFactor probeAllowed,
          (s.members probeAllowed key).head?.map readOperation))) := by
  unfold nextOperation
  rw [h]
  dsimp only
  split
  · rename_i hscan
    rw [Bool.and_eq_true, decide_eq_true_eq] at hscan
    exact .inl ⟨hscan, rfl⟩
  · rename_i hscan
    rw [Bool.and_eq_true, decide_eq_true_eq] at hscan
    refine .inr ⟨hscan, ?_⟩
    cases hkey : s.nextDueKey now mode.allowsOptional with
    | none => exact .inl ⟨rfl, rfl⟩
    | some key =>
      refine .inr ⟨key, rfl, ?_⟩
      dsimp only
      rw [startCycle_active, h]
      split
      · rename_i hmembers
        rw [hmembers]
        rfl
      · rfl

theorem WellFormed.nextOperation (h : s.WellFormed) (mode : ReadMode) (now : ℚ) (probeAllowed : ReadMember → Bool) :
    (s.nextOperation mode now probeAllowed).1.WellFormed := by
  cases hactive : s.active with
  | some active =>
    unfold EnergyReader.nextOperation
    rw [hactive]
    dsimp only
    split <;> exact h
  | none =>
    rcases nextOperation_idle hactive mode now probeAllowed with
      ⟨-, heq⟩ | ⟨-, ⟨-, heq⟩ | ⟨key, hkey, heq⟩⟩
    · rw [heq]
      exact wellFormed_of_idle hactive
    · rw [heq]
      exact h
    · rw [heq]
      have hdue := (nextDueKey_eq_some hkey).1
      rw [due, Bool.and_eq_true] at hdue
      exact h.startCycle hdue.1 now mode.intervalFactor probeAllowed

/-- What a reply does to the active cycle: it goes on with the next member, or it ends. -/
theorem handleReadMember_cases (s : EnergyReader) (service path : String) (answer : DbusAnswer) (inputs : ReplyInputs) :
    (∃ active member, s.active = some active ∧ active.members[active.index]? = some member ∧
      active.index + 1 < active.members.length ∧ s.handleReadMember service path answer inputs =
        { s with active := some (recorded active member answer inputs) }) ∨
    (s.handleReadMember service path answer inputs).active = none := by
  unfold handleReadMember
  cases hactive : s.active with
  | none => exact .inr hactive
  | some active =>
    dsimp only
    cases hmember : active.members[active.index]? with
    | none => exact .inr rfl
    | some member =>
      dsimp only
      split
      · exact .inr rfl
      · split
        · rename_i hmore
          exact .inl ⟨active, member, rfl, hmember, hmore, rfl⟩
        · right
          split
          · unfold scheduleCompletedCycle
            split <;> rfl
          · rfl

theorem WellFormed.handleResult (h : s.WellFormed) (operation : DbusOperation) (answer : DbusAnswer)
    (inputs : ReplyInputs) : (s.handleResult operation answer inputs).WellFormed := by
  cases operation with
  | listNames =>
    show (s.handleNames answer inputs).WellFormed
    unfold handleNames
    split <;> exact ⟨h.index, h.configured, h.pvMembers⟩
  | read service path =>
    show (s.handleReadMember service path answer inputs).WellFormed
    rcases s.handleReadMember_cases service path answer inputs with ⟨active, member, hactive, -, hmore, heq⟩ | hidle
    · rw [heq]
      refine ⟨?_, ?_, ?_⟩
      all_goals rintro _ ⟨⟩
      · exact hmore
      · exact h.configured active hactive
      · exact h.pvMembers active hactive
    · exact wellFormed_of_idle hidle
  | write service path value => exact h
  | introspect service path => exact h

theorem WellFormed.step (h : s.WellFormed) (e : ReaderEvent) : (s.step e).WellFormed := by
  cases e with
  | nextOperation mode now probeAllowed => exact h.nextOperation mode now probeAllowed
  | handleResult operation answer inputs => exact h.handleResult operation answer inputs
  | requestRefresh scope => exact ⟨h.index, h.configured, h.pvMembers⟩

/-- After any calls. -/
theorem wellFormed_run (policy : ReadPolicy) (now : ℚ) (events : List ReaderEvent) :
    (run step (fromConfig policy now) events).WellFormed :=
  @run_invariant _ _ step WellFormed (fun _ e h => h.step e) _ (wellFormed_of_idle rfl) events

end EnergyReader

end VenusEvcharger.NativeGateway
