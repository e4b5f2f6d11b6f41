import Mathlib.Algebra.Order.BigOperators.Group.List
import VenusEvcharger.Library.Progress
import VenusEvcharger.NativeGateway.EnergyReader

/-!
# Core reads under pressure

A core key that is due is read after a bounded number of calls: the cycle that is active ends, and every key that ranks
before it is started at most once. The exception is a cycle of the optional PV reads that is in progress when the mode
becomes protective: it is neither continued nor given up, and it keeps the place of all other reads.
-/

namespace VenusEvcharger.NativeGateway

open Library

/-- A call and the handling of the reply to what it hands out. -/
structure ReadRound where
  mode : ReadMode
  now : ℚ
  probeAllowed : ReadMember → Bool
  answer : DbusAnswer
  inputs : ReplyInputs

namespace EnergyReader

/-- What the call of a round hands out. -/
def output (s : EnergyReader) (r : ReadRound) : Option DbusOperation := (s.nextOperation r.mode r.now r.probeAllowed).2

/-- One round. -/
def round (s : EnergyReader) (r : ReadRound) : EnergyReader :=
  match s.nextOperation r.mode r.now r.probeAllowed with
  | (s, none) => s
  | (s, some operation) => s.handleResult operation r.answer r.inputs

/-- The round reads a member of a core key that is due. -/
def ReadsCore (s : EnergyReader) (r : ReadRound) : Prop :=
  ∃ key, key ≠ .pv ∧ s.due r.now key = true ∧ ∃ member ∈ s.members r.probeAllowed key,
    s.output r = some (readOperation member)

/-- The round is no discovery. -/
def counts (s : EnergyReader) (r : ReadRound) : Bool := s.output r ≠ some .listNames

/-! ## The measure -/

/-- The rounds that the start of a key can take. -/
def cost (policy : ReadPolicy) (key : ReadKey) : Nat := if key = .pv then policy.pvMemberLimit + 1 else 1

/-- The rounds that the keys in front of a key can take. -/
def waiting (s : EnergyReader) (target : ReadKey) : Nat :=
  (readOrder.map fun key => if s.dueRank key < s.dueRank target then cost s.policy key else 0).sum

/-- The members of the active cycle that are still to be read. -/
def remaining (s : EnergyReader) : Nat := s.active.elim 0 fun active => active.members.length - active.index

/-- The rounds in front of a read of a key. -/
def distance (target : ReadKey) (s : EnergyReader) : Nat := s.remaining + s.waiting target

/-- No key has to wait for more rounds. -/
def readBound (policy : ReadPolicy) : Nat := 2 * policy.pvMemberLimit + 7

variable {s : EnergyReader} {target : ReadKey}

theorem waiting_congr {t : EnergyReader} (hpolicy : t.policy = s.policy) (hdue : t.nextDue = s.nextDue) :
    t.waiting target = s.waiting target := by
  unfold waiting dueRank dueTime
  rw [hpolicy, hdue]

theorem eq_of_dueRank_eq {a b : ReadKey} (h : s.dueRank a = s.dueRank b) : a = b := by
  have hpriority : a.priority = b.priority := congrArg (fun rank => (ofLex rank).2) h
  cases a <;> cases b <;> first | rfl | exact absurd hpriority (by decide)

theorem not_dueRank_lt {key : ReadKey} {at' since : ℚ} (hat : s.nextDue key = some at') (hlater : since < at')
    (htarget : (s.nextDue target).all (· ≤ since) = true) : ¬ s.dueRank key < s.dueRank target := by
  have hbefore : s.dueTime target < s.dueTime key := by
    unfold dueTime
    rw [hat]
    cases htime : s.nextDue target with
    | none => exact WithBot.bot_lt_coe at'
    | some time =>
      rw [htime, Option.all_some, decide_eq_true_eq] at htarget
      exact WithBot.coe_lt_coe.mpr (htarget.trans_lt hlater)
  rw [dueRank, dueRank, Prod.Lex.toLex_lt_toLex, not_or]
  exact ⟨fun hlt => lt_asymm hlt hbefore, fun heq => hbefore.ne' heq.1⟩

/-- When one key is set to a later time, its cost is no longer in front of the target. -/
theorem waiting_update {t : EnergyReader} {key : ReadKey} {at' since : ℚ} (hpolicy : t.policy = s.policy)
    (hupdate : t.nextDue = Function.update s.nextDue key (some at')) (hne : key ≠ target) (hlater : since < at')
    (htarget : (s.nextDue target).all (· ≤ since) = true) :
    t.waiting target + (if s.dueRank key < s.dueRank target then cost s.policy key else 0) = s.waiting target := by
  have hrank : ∀ other, other ≠ key → t.dueRank other = s.dueRank other := by
    intro other hother
    unfold dueRank dueTime
    rw [hupdate, Function.update_of_ne hother]
  have hlate : ¬ t.dueRank key < t.dueRank target := by
    refine not_dueRank_lt (?_ : t.nextDue key = some at') hlater ?_
    · rw [hupdate, Function.update_self]
    · rw [hupdate, Function.update_of_ne hne.symm]
      exact htarget
  have hmem : key ∈ readOrder := by cases key <;> decide
  have hnodup : readOrder.Nodup := by decide
  unfold waiting
  rw [← List.sum_map_erase (fun key => if s.dueRank key < s.dueRank target then cost s.policy key else 0) hmem,
    ← List.sum_map_erase (fun key => if t.dueRank key < t.dueRank target then cost t.policy key else 0) hmem,
    if_neg hlate, zero_add, add_comm, hpolicy, hrank target hne.symm]
  congr 2
  refine List.map_congr_left fun other hother => ?_
  rw [hrank other (hnodup.mem_erase_iff.mp hother).1]

theorem waiting_le (s : EnergyReader) (target : ReadKey) : s.waiting target ≤ s.policy.pvMemberLimit + 7 := by
  have hsum : s.waiting target ≤ (readOrder.map (cost s.policy)).sum := by
    refine List.Forall₂.sum_le_sum (List.forall₂_map_left_iff.mpr (List.forall₂_map_right_iff.mpr ?_))
    refine List.forall₂_same.mpr fun key _ => ?_
    split
    · exact le_refl _
    · exact Nat.zero_le _
  refine hsum.trans (le_of_eq ?_)
  show 1 + (s.policy.pvMemberLimit + 1 + 5) = _
  omega

/-! ## One round -/

/-- A target waits for its read: it is due, and no core cycle is in progress. In the protective mode no cycle is. -/
structure Waits (s : EnergyReader) (target : ReadKey) (since : ℚ) (mode : ReadMode) : Prop where
  wellFormed : s.WellFormed
  optional : ∀ active ∈ s.active, active.key = .pv
  free : mode = .protective → s.active = none
  due : s.due since target = true

/-- The round keeps the target waiting, and the way to its read gets no longer. -/
structure Approaches (s t : EnergyReader) (target : ReadKey) (steps : Nat) : Prop where
  policy : t.policy = s.policy
  due : t.nextDue target = s.nextDue target
  distance : distance target t + steps ≤ distance target s

theorem due_congr {t : EnergyReader} (hpolicy : t.policy = s.policy) (hdue : t.nextDue target = s.nextDue target)
    (now : ℚ) : t.due now target = s.due now target := by
  unfold due
  rw [hpolicy, hdue]

theorem due_mono {since now : ℚ} (h : s.due since target = true) (hnow : since ≤ now) : s.due now target = true := by
  unfold due at *
  rw [Bool.and_eq_true] at *
  refine ⟨h.1, ?_⟩
  cases htime : s.nextDue target with
  | none => rfl
  | some time =>
    rw [htime, Option.all_some, decide_eq_true_eq] at h
    exact decide_eq_true (h.2.trans hnow)

/-- The reply to a PV member: the cycle goes on or ends, and PV is due later. -/
theorem handleResult_pv (hwell : s.WellFormed) {active : ActiveRead} (hactive : s.active = some active)
    (hkey : active.key = .pv) {since : ℚ} (hdue : s.due since target = true) (hne : target ≠ .pv) {member : ReadMember}
    (hmember : active.members[active.index]? = some member) (answer : DbusAnswer) (inputs : ReplyInputs)
    (hnow : since ≤ inputs.now) :
    Approaches s (s.handleResult (readOperation member) answer inputs) target 1 ∧
      ∀ next ∈ (s.handleResult (readOperation member) answer inputs).active, next.key = .pv := by
  have hindex := hwell.index active hactive
  have hremaining : s.remaining = active.members.length - active.index := by
    rw [remaining, hactive]
    rfl
  show Approaches s (s.handleReadMember member.service member.path answer inputs) target 1 ∧ _
  show _ ∧ ∀ next ∈ (s.handleReadMember member.service member.path answer inputs).active, next.key = .pv
  unfold handleReadMember
  rw [hactive]
  dsimp only
  rw [hmember]
  dsimp only
  rw [if_neg (not_not.mpr rfl)]
  split
  · -- the cycle goes on with the next member
    rename_i hmore
    refine ⟨⟨rfl, rfl, ?_⟩, ?_⟩
    · show (active.members.length - (active.index + 1)) + s.waiting target + 1 ≤ s.remaining + s.waiting target
      omega
    · rintro _ ⟨⟩
      exact hkey
  · split
    · -- the cycle ends, and PV gets a new due time
      have hcycle : (recorded active member answer inputs).key = .pv := hkey
      unfold scheduleCompletedCycle
      rw [if_pos (.inl hcycle), hcycle]
      refine ⟨⟨rfl, Function.update_of_ne hne _ _, ?_⟩, fun _ hnone => absurd hnone (Option.some_ne_none _).symm⟩
      rw [due, Bool.and_eq_true] at hdue
      have hdelay : 0 < s.policy.successDelay .pv (recorded active member answer inputs).intervalFactor
          (recorded active member answer inputs).operationCount := s.policy.successDelay_pos rfl _ _
      have hwaiting := @waiting_update s target
        { s with
          active := none
          failureCounts := Function.update s.failureCounts .pv 0
          nextDue := Function.update s.nextDue .pv (some (inputs.now + s.policy.successDelay .pv
            (recorded active member answer inputs).intervalFactor
            (recorded active member answer inputs).operationCount)) }
        .pv _ since rfl rfl hne.symm (by linarith) hdue.2
      refine le_trans (b := 0 + s.waiting target + 1) (Nat.add_le_add_right (Nat.add_le_add_left ?_ 0) 1) ?_
      · exact (Nat.le_add_right _ _).trans hwaiting.le
      · show _ ≤ s.remaining + s.waiting target
        omega
    · refine ⟨⟨rfl, rfl, ?_⟩, fun _ hnone => absurd hnone (Option.some_ne_none _).symm⟩
      show 0 + s.waiting target + 1 ≤ s.remaining + s.waiting target
      omega

theorem Waits.of_approaches {t : EnergyReader} {mode : ReadMode} {since : ℚ} {steps : Nat}
    (h : s.Waits target since mode) (happroaches : Approaches s t target steps) (hwell : t.WellFormed)
    (hoptional : ∀ active ∈ t.active, active.key = .pv) (hfree : mode = .protective → t.active = none) :
    t.Waits target since mode :=
  ⟨hwell, hoptional, hfree, (due_congr happroaches.policy happroaches.due since).trans h.due⟩

theorem startCycle_approaches (hidle : s.active = none) {since now : ℚ} {key : ReadKey}
    (hconfigured : (s.policy.intervals key).isSome) (hfirst : s.dueRank key < s.dueRank target)
    (hdue : s.due since target = true) (hnow : since ≤ now) (intervalFactor : ℚ) (probeAllowed : ReadMember → Bool) :
    (s.startCycle key now intervalFactor probeAllowed).nextDue target = s.nextDue target ∧
      (s.startCycle key now intervalFactor probeAllowed).waiting target + cost s.policy key = distance target s := by
  have hne : key ≠ target := fun heq => lt_irrefl _ (heq ▸ hfirst)
  have hupdate := s.startCycle_nextDue key now intervalFactor probeAllowed
  rw [EnergyReader.due, Bool.and_eq_true] at hdue
  have hdelay := s.policy.successDelay_pos hconfigured intervalFactor (s.members probeAllowed key).length
  have hwaiting := waiting_update (s.startCycle_policy key now intervalFactor probeAllowed) hupdate hne
    (show since < _ by linarith) hdue.2
  rw [if_pos hfirst] at hwaiting
  refine ⟨?_, ?_⟩
  · rw [hupdate, Function.update_of_ne hne.symm]
  · rw [hwaiting, distance, remaining, hidle]
    exact (Nat.zero_add _).symm

/-- What a round needs: its mode and its clocks, and a member of the target. -/
structure Allows (s : EnergyReader) (target : ReadKey) (since : ℚ) (mode : ReadMode) (r : ReadRound) : Prop where
  mode : r.mode = mode
  now : since ≤ r.now
  replied : since ≤ r.inputs.now
  members : s.members r.probeAllowed target ≠ []

theorem round_startCycle_pv (hwell : s.WellFormed) (hidle : s.active = none) {since : ℚ}
    (hdue : s.due since target = true) (hne : target ≠ .pv) (hfirst : s.dueRank .pv < s.dueRank target) {r : ReadRound} (hnow : since ≤ r.now)
    (hreplied : since ≤ r.inputs.now) {member : ReadMember} {rest : List ReadMember}
    (hmembers : s.members r.probeAllowed .pv = member :: rest) :
    let started := s.startCycle .pv r.now r.mode.intervalFactor r.probeAllowed
    Approaches s (started.handleResult (readOperation member) r.answer r.inputs) target 1 ∧
      ∀ next ∈ (started.handleResult (readOperation member) r.answer r.inputs).active, next.key = .pv := by
  intro started
  have hpolicy : started.policy = s.policy := s.startCycle_policy .pv r.now r.mode.intervalFactor r.probeAllowed
  have hactive : started.active = some ⟨.pv, s.members r.probeAllowed .pv, 0, [], r.mode.intervalFactor, 0⟩ := by
    show (s.startCycle .pv r.now r.mode.intervalFactor r.probeAllowed).active = _
    rw [startCycle_active, hmembers, if_neg (List.cons_ne_nil _ _)]
  obtain ⟨hnext, hpaid⟩ :=
    startCycle_approaches hidle rfl hfirst hdue hnow r.mode.intervalFactor r.probeAllowed
  have hlimit := s.length_pvMembers_le r.probeAllowed
  have hremaining : started.remaining = (s.members r.probeAllowed .pv).length := by
    rw [remaining, hactive]
    rfl
  obtain ⟨happroaches, hoptional⟩ := handleResult_pv
    (hwell.startCycle rfl r.now r.mode.intervalFactor r.probeAllowed) hactive rfl
    ((due_congr hpolicy hnext since).trans hdue) hne
    (show (s.members r.probeAllowed .pv)[0]? = some member by rw [hmembers]; rfl) r.answer r.inputs hreplied
  refine ⟨⟨happroaches.policy.trans hpolicy, happroaches.due.trans hnext, ?_⟩, hoptional⟩
  have hfall : distance target (started.handleResult (readOperation member) r.answer r.inputs) + 1 ≤
    distance target started := happroaches.distance
  have hcost : cost s.policy .pv = s.policy.pvMemberLimit + 1 := rfl
  have hpaid : started.waiting target + cost s.policy .pv = distance target s := hpaid
  have hdistance : distance target started = started.remaining + started.waiting target := rfl
  omega

/-- The target still waits after the round, and no longer; it waits less when the round counts. -/
def Nearer (s : EnergyReader) (target : ReadKey) (since : ℚ) (mode : ReadMode) (r : ReadRound) : Prop :=
  (s.round r).Waits target since mode ∧
    distance target (s.round r) + (if s.counts r then 1 else 0) ≤ distance target s

section Round

variable {since : ℚ} {mode : ReadMode} {r : ReadRound}

/-- A PV cycle goes on. -/
theorem Waits.round_active (h : s.Waits target since mode) (hne : target ≠ .pv)
    (hallows : s.Allows target since mode r) {active : ActiveRead} (hactive : s.active = some active)
    (hoptional : r.mode.allowsOptional = true) : s.Nearer target since mode r := by
  have hkey := h.optional active hactive
  have hindex := h.wellFormed.index active hactive
  have hmember : active.members[active.index]? = some active.members[active.index] := List.getElem?_eq_getElem hindex
  have hcall : s.nextOperation r.mode r.now r.probeAllowed =
      (s, some (readOperation active.members[active.index])) := by
    unfold nextOperation
    rw [hactive]
    dsimp only
    rw [hoptional, hmember]
    simp
  have hround : s.round r = s.handleResult (readOperation active.members[active.index]) r.answer r.inputs := by
    unfold EnergyReader.round
    rw [hcall]
  have hcounts : s.counts r = true := by
    rw [counts, output, hcall]
    rfl
  obtain ⟨happroaches, hoptional'⟩ :=
    handleResult_pv h.wellFormed hactive hkey h.due hne hmember r.answer r.inputs hallows.replied
  rw [Nearer, hround, hcounts]
  refine ⟨h.of_approaches happroaches (h.wellFormed.handleResult _ _ _) hoptional' fun hprotective => ?_,
    happroaches.distance⟩
  rw [h.free hprotective] at hactive
  nomatch hactive

theorem Waits.round_discovery (h : s.Waits target since mode) (hactive : s.active = none)
    (hcall : s.nextOperation r.mode r.now r.probeAllowed =
      ({ s with nextServiceScan := r.now + s.activeDiscoveryInterval }, some .listNames)) :
    s.Nearer target since mode r := by
  have hround : s.round r =
      ({ s with nextServiceScan := r.now + s.activeDiscoveryInterval } : EnergyReader).handleNames
        r.answer r.inputs := by
    unfold EnergyReader.round
    rw [hcall]
    rfl
  have hcounts : s.counts r = false := by
    rw [counts, output, hcall]
    rfl
  have hframe : (s.round r).policy = s.policy ∧ (s.round r).nextDue = s.nextDue ∧
      (s.round r).active = s.active := by
    rw [hround]
    unfold handleNames
    split <;> exact ⟨rfl, rfl, rfl⟩
  obtain ⟨hpolicy, hdue, hidle⟩ := hframe
  rw [Nearer, hcounts]
  refine ⟨⟨wellFormed_of_idle (hidle.trans hactive), ?_, fun _ => hidle.trans hactive, ?_⟩, ?_⟩
  · rw [hidle]
    exact h.optional
  · rw [due_congr hpolicy (congrFun hdue target)]
    exact h.due
  · rw [distance, distance, remaining, remaining, hidle, waiting_congr hpolicy hdue]
    exact le_refl _

variable {key : ReadKey}

/-- A key without members gets a new due time only. -/
theorem Waits.round_empty (h : s.Waits target since mode) (hallows : s.Allows target since mode r)
    (hactive : s.active = none) (hcall : s.nextOperation r.mode r.now r.probeAllowed =
      (s.startCycle key r.now r.mode.intervalFactor r.probeAllowed,
        (s.members r.probeAllowed key).head?.map readOperation))
    (hconfigured : (s.policy.intervals key).isSome) (hfirst : s.dueRank key < s.dueRank target)
    (hmembers : s.members r.probeAllowed key = []) : s.Nearer target since mode r := by
  have hround : s.round r = s.startCycle key r.now r.mode.intervalFactor r.probeAllowed := by
    unfold EnergyReader.round
    rw [hcall, hmembers]
    rfl
  have hcounts : s.counts r = true := by
    rw [counts, output, hcall, hmembers]
    rfl
  have hidle : (s.startCycle key r.now r.mode.intervalFactor r.probeAllowed).active = none := by
    rw [startCycle_active, if_pos hmembers, hactive]
  obtain ⟨hnextDue, hpaid⟩ := startCycle_approaches hactive hconfigured hfirst h.due hallows.now
    r.mode.intervalFactor r.probeAllowed
  rw [Nearer, hround, hcounts]
  refine ⟨⟨wellFormed_of_idle hidle, ?_, fun _ => hidle, ?_⟩, ?_⟩
  · rw [hidle]
    exact fun _ hnone => nomatch hnone
  · rw [due_congr (s.startCycle_policy key _ _ _) hnextDue]
    exact h.due
  · rw [← hpaid, distance, remaining, hidle]
    have hcost : 1 ≤ cost s.policy key := by
      unfold cost
      split <;> omega
    show 0 + _ + 1 ≤ _
    omega

theorem Waits.round_pv (h : s.Waits target since mode) (hne : target ≠ .pv) (hallows : s.Allows target since mode r)
    (hactive : s.active = none) (hcall : s.nextOperation r.mode r.now r.probeAllowed =
      (s.startCycle .pv r.now r.mode.intervalFactor r.probeAllowed,
        (s.members r.probeAllowed .pv).head?.map readOperation))
    (hfirst : s.dueRank .pv < s.dueRank target) (hprotective : mode ≠ .protective) {member : ReadMember}
    {rest : List ReadMember} (hmembers : s.members r.probeAllowed .pv = member :: rest) :
    s.Nearer target since mode r := by
  have hround : s.round r = (s.startCycle .pv r.now r.mode.intervalFactor r.probeAllowed).handleResult
      (readOperation member) r.answer r.inputs := by
    unfold EnergyReader.round
    rw [hcall, hmembers]
    rfl
  have hcounts : s.counts r = true := by
    rw [counts, output, hcall, hmembers]
    rfl
  obtain ⟨happroaches, hoptional⟩ :=
    round_startCycle_pv h.wellFormed hactive h.due hne hfirst hallows.now hallows.replied hmembers
  rw [Nearer, hround, hcounts]
  exact ⟨h.of_approaches happroaches ((h.wellFormed.startCycle rfl _ _ _).handleResult _ _ _) hoptional
    fun heq => absurd heq hprotective, happroaches.distance⟩

theorem Waits.round (h : s.Waits target since mode) (hne : target ≠ .pv)
    (hfree : ¬ (mode = .protective ∧ s.active.isSome = true)) (hallows : s.Allows target since mode r) :
    s.ReadsCore r ∨ s.Nearer target since mode r := by
  cases hactive : s.active with
  | some active =>
    refine .inr (h.round_active hne hallows hactive ?_)
    rw [hallows.mode]
    refine decide_eq_true fun hprotective => hfree ⟨hprotective, ?_⟩
    rw [hactive]
    rfl
  | none =>
    have htarget := due_mono h.due hallows.now
    rcases nextOperation_idle hactive r.mode r.now r.probeAllowed with
      ⟨-, hcall⟩ | ⟨-, ⟨hnext, hcall⟩ | ⟨key, hnext, hcall⟩⟩
    · exact .inr (h.round_discovery hactive hcall)
    · -- the target itself is due
      obtain ⟨key, hkey⟩ := nextDueKey_isSome htarget (.inr hne : r.mode.allowsOptional = true ∨ _)
      rw [hkey] at hnext
      nomatch hnext
    · obtain ⟨hkeyDue, hallowed, hbest⟩ := nextDueKey_eq_some hnext
      have hfirst : key ≠ target → s.dueRank key < s.dueRank target := fun hother =>
        lt_of_le_of_ne (hbest target htarget (.inr hne)) fun heq => hother (eq_of_dueRank_eq heq)
      cases hmembers : s.members r.probeAllowed key with
      | nil =>
        have hother : key ≠ target := fun heq => hallows.members (heq ▸ hmembers)
        exact .inr (h.round_empty hallows hactive hcall (Bool.and_eq_true_iff.mp hkeyDue).1 (hfirst hother)
          hmembers)
      | cons member rest =>
        by_cases hpv : key = .pv
        · subst hpv
          refine .inr (h.round_pv hne hallows hactive hcall (hfirst hne.symm) (fun hprotective => ?_) hmembers)
          rw [hallows.mode, hprotective] at hallowed
          exact absurd hallowed (by decide)
        · refine .inl ⟨key, hpv, hkeyDue, member, ?_, ?_⟩
          · rw [hmembers]
            exact List.mem_cons_self
          · rw [output, hcall, hmembers]
            rfl

end Round

/-- Rounds in one mode from a time on, in which the target keeps a member, read a due core key when enough of them are
no discoveries. -/
def CoreReadsContinue (s : EnergyReader) (target : ReadKey) (since : ℚ) (mode : ReadMode) : Prop :=
  ∀ rounds, Along round (fun s r => s.Allows target since mode r) s rounds →
    readBound s.policy < countAlong round counts s rounds →
    ∃ before r after, rounds = before ++ r :: after ∧ ReadsCore (run round s before) r

/-- The way to a read is never longer than the bound. -/
theorem distance_le (hwell : s.WellFormed) (hoptional : ∀ active ∈ s.active, active.key = .pv) (target : ReadKey) :
    distance target s ≤ readBound s.policy := by
  have hwaiting := s.waiting_le target
  have hremaining : s.remaining ≤ s.policy.pvMemberLimit := by
    unfold remaining
    cases hactive : s.active with
    | none => exact Nat.zero_le _
    | some active =>
      have hlength := hwell.pvMembers active hactive (hoptional active hactive)
      show active.members.length - active.index ≤ _
      omega
  unfold distance readBound
  omega

theorem coreReadsContinue_of_free {since : ℚ} {mode : ReadMode} (h : s.Waits target since mode)
    (hne : target ≠ .pv) : s.CoreReadsContinue target since mode := by
  intro rounds hallows hlong
  have hround (s : EnergyReader) (r : ReadRound) (hwaits : s.Waits target since mode)
      (hround : s.Allows target since mode r) : s.ReadsCore r ∨ s.Nearer target since mode r := by
    refine hwaits.round hne (fun hbusy => ?_) hround
    have hidle := hwaits.free hbusy.1
    rw [hidle] at hbusy
    nomatch hbusy.2
  exact hallows.reaches (distance target) hround h ((distance_le h.wellFormed h.optional target).trans_lt hlong)

/-- A PV cycle in progress keeps its place as long as the mode is protective. -/
theorem round_blocked {active : ActiveRead} (hactive : s.active = some active) (hkey : active.key = .pv) {r : ReadRound}
    (hmode : r.mode = .protective) : s.output r = none ∧ s.round r = s := by
  have hcall : s.nextOperation r.mode r.now r.probeAllowed = (s, none) := by
    unfold nextOperation
    rw [hactive, hmode]
    dsimp only
    rw [hkey]
    rfl
  unfold output EnergyReader.round
  rw [hcall]
  exact ⟨rfl, rfl⟩

theorem along_round_blocked {P : EnergyReader → ReadRound → Prop} {active : ActiveRead}
    (hactive : s.active = some active) (hkey : active.key = .pv) {r : ReadRound} (hmode : r.mode = .protective) (h : P s r) (n : Nat) :
    Along round P s (List.replicate n r) ∧ run round s (List.replicate n r) = s := by
  induction n with
  | zero => exact ⟨trivial, rfl⟩
  | succ n ih =>
    rw [List.replicate_succ, along_cons, run_cons, (round_blocked hactive hkey hmode).2]
    exact ⟨⟨h, ih.1⟩, ih.2⟩

/-- A PV cycle in progress withholds the core reads in the protective mode. -/
theorem not_coreReadsContinue_of_blocked {active : ActiveRead} (hactive : s.active = some active)
    (hkey : active.key = .pv) (since : ℚ) (hmembers : s.members (fun _ => true) target ≠ []) :
    ¬ s.CoreReadsContinue target since .protective := by
  intro hcontinue
  -- rounds that all find the place taken
  let r : ReadRound := ⟨.protective, since, fun _ => true, .names [], ⟨since, true, 1, false, fun _ => true⟩⟩
  have hallows : s.Allows target since .protective r := ⟨rfl, le_refl _, le_refl _, hmembers⟩
  have hcounts : s.counts r = true := by
    rw [counts, (round_blocked hactive hkey rfl).1]
    rfl
  have hall := along_round_blocked (P := fun s r => s.Allows target since .protective r) hactive hkey rfl hallows
    (readBound s.policy + 1)
  have hcount := countAlong_eq_length
    (along_round_blocked (P := fun s r => s.counts r = true) hactive hkey rfl hcounts (readBound s.policy + 1)).1
  rw [List.length_replicate] at hcount
  obtain ⟨before, r', after, hsplit, key, -, -, member, -, hread⟩ := hcontinue _ hall.1 (by omega)
  have hr' : r' = r := List.eq_of_mem_replicate (hsplit ▸ List.mem_append_right _ List.mem_cons_self)
  have hbefore : before = List.replicate before.length r :=
    List.eq_replicate_iff.mpr ⟨rfl, fun x hx => List.eq_of_mem_replicate (hsplit ▸ List.mem_append_left _ hx)⟩
  rw [hr', hbefore, (along_round_blocked (P := fun _ _ => True) hactive hkey rfl trivial _).2,
    (round_blocked hactive hkey rfl).1] at hread
  nomatch hread

end EnergyReader

/-- In every reachable state without a core cycle in progress, a due core key with members leads to a core read exactly
when no PV cycle is in progress or the mode is not protective. -/
theorem core_reads_continue_iff (policy : ReadPolicy) (start : ℚ) (events : List ReaderEvent) (target : ReadKey)
    (since : ℚ) (mode : ReadMode)
    (hidle : ∀ active ∈ (run EnergyReader.step (.fromConfig policy start) events).active, active.key = .pv)
    (hcore : target ≠ .pv) (hdue : (run EnergyReader.step (.fromConfig policy start) events).due since target = true)
    (hmembers : (run EnergyReader.step (.fromConfig policy start) events).members (fun _ => true) target ≠ []) :
    (run EnergyReader.step (.fromConfig policy start) events).CoreReadsContinue target since mode ↔
      ¬ (mode = .protective ∧ (run EnergyReader.step (.fromConfig policy start) events).active.isSome = true) := by
  have hwell := EnergyReader.wellFormed_run policy start events
  constructor
  · rintro hcontinue ⟨rfl, hbusy⟩
    obtain ⟨active, hactive⟩ := Option.isSome_iff_exists.mp hbusy
    exact EnergyReader.not_coreReadsContinue_of_blocked hactive (hidle active hactive) since hmembers hcontinue
  · intro hfree
    refine EnergyReader.coreReadsContinue_of_free ⟨hwell, hidle, fun hprotective => ?_, hdue⟩ hcore
    exact Option.not_isSome_iff_eq_none.mp fun hbusy => hfree ⟨hprotective, hbusy⟩

/-- Two inverters are found, the grid is read, and the first inverter has answered. -/
def inverterEvents : List ReaderEvent :=
  let inputs (now : ℚ) : ReplyInputs := ⟨now, true, 1, false, fun _ => true⟩
  [.nextOperation .normal 0 fun _ => true,
    .handleResult .listNames (.names ["com.victronenergy.pvinverter.a", "com.victronenergy.pvinverter.b"]) (inputs 0),
    .nextOperation .normal 1 fun _ => true,
    .handleResult (.read "com.victronenergy.system" "/Ac/Grid/L1/Power") (.value (some 100) none) (inputs 1),
    .nextOperation .normal 2 fun _ => true,
    .handleResult (.read "com.victronenergy.pvinverter.a" "/Ac/Power") (.value (some 50) none) (inputs 2)]

theorem core_reads_continue_iff_inverters :
    (run EnergyReader.step (.fromConfig inverterPolicy 0) inverterEvents).CoreReadsContinue .grid 10 .degraded ↔
      ¬ (ReadMode.degraded = .protective ∧
        (run EnergyReader.step (.fromConfig inverterPolicy 0) inverterEvents).active.isSome = true) :=
  core_reads_continue_iff inverterPolicy 0 inverterEvents .grid 10 .degraded
    (by decide +kernel) (by decide) (by decide +kernel) (by decide +kernel)

/-- Between the two inverters the mode becomes protective: the grid is due, and it is never read. -/
theorem core_reads_withheld :
    (run EnergyReader.step (.fromConfig inverterPolicy 0) inverterEvents).due 10 .grid = true ∧
      (run EnergyReader.step (.fromConfig inverterPolicy 0) inverterEvents).members (fun _ => true) .grid ≠ [] ∧
      ¬ (run EnergyReader.step (.fromConfig inverterPolicy 0) inverterEvents).CoreReadsContinue .grid 10
        .protective := by
  have hbusy : (run EnergyReader.step (.fromConfig inverterPolicy 0) inverterEvents).active.map (·.key) = some .pv := by
    decide +kernel
  obtain ⟨active, hactive, hkey⟩ := Option.map_eq_some_iff.mp hbusy
  have hmembers :
      (run EnergyReader.step (.fromConfig inverterPolicy 0) inverterEvents).members (fun _ => true) .grid ≠ [] := by
    decide +kernel
  exact ⟨by decide +kernel, hmembers, EnergyReader.not_coreReadsContinue_of_blocked hactive hkey 10 hmembers⟩

end VenusEvcharger.NativeGateway
