import Mathlib.Algebra.GroupWithZero.Nat
import Mathlib.Data.Prod.Lex
import VenusEvcharger.Library.KeepSmallest

/-!
# The retention of forensic bundles

`prune_root` looks at every bundle of the forensic directory, keeps the oldest ones that may go in a heap of 128 places,
and removes bundles from the oldest on while they are too old or the directory is too large. `prune_oldest_first` is the
contract of one call.

Scope: what the file system answers is an input. A name is ordered by its bytes, and durations are in nanoseconds.
-/

namespace VenusEvcharger.ForensicObserver

open Library

variable {Name : Type}

/-- `RetentionPolicy`. -/
structure RetentionPolicy where
  maxAge : Nat
  maxBytes : Nat

/-- `MAX_BATCH`. -/
def maxBatch : Nat := 128

/-- `Candidate`. -/
structure Candidate (Name : Type) where
  recoveredAt : Nat
  name : Name
  bytes : Nat
  inode : Nat

/-- The fields in the order in which the derived `Ord` compares them. -/
def Candidate.key (c : Candidate Name) : Nat ×ₗ Name ×ₗ Nat ×ₗ Nat :=
  toLex (c.recoveredAt, toLex (c.name, toLex (c.bytes, c.inode)))

theorem Candidate.key_injective : Function.Injective (Candidate.key : Candidate Name → _) := by
  rintro ⟨_, _, _, _⟩ ⟨_, _, _, _⟩ h
  simp only [Candidate.key, EmbeddingLike.apply_eq_iff_eq, Prod.mk.injEq] at h
  obtain ⟨rfl, rfl, rfl, rfl⟩ := h
  rfl

/-- `Recovery`. -/
structure Recovery where
  schemaVersion : Nat
  state : String
  incidentStartedAt : Nat
  recoveredAt : Nat

/-- The decision of `recovery_time` on the record that it reads, if any. -/
def recoveryTime (now : Nat) (record : Option Recovery) : Option Nat :=
  record.bind fun r =>
    if r.schemaVersion = 1 ∧ r.state = "recovered" ∧ r.incidentStartedAt ≤ r.recoveredAt ∧ r.recoveredAt ≤ now then
      some r.recoveredAt
    else none

/-- An entry of the forensic directory: whether its name begins with `incident-` and it is a directory, its device, which
cannot always be read, its `bundle_size`, its record and its inode. -/
structure BundleEntry (Name : Type) where
  name : Name
  incident : Bool
  directory : Bool
  device : Option Nat
  size : Option (Nat × Bool)
  record : Option Recovery
  inode : Nat

/-- The directory of a candidate when it is opened again, and whether its files can be removed. -/
structure Reopened where
  device : Nat
  inode : Nat
  size : Option (Nat × Bool)
  removable : Bool

/-- `remove_bundle`; `none` is an error. -/
def removeBundle (device : Nat) (c : Candidate Name) (reopened : Option Reopened) : Option Bool :=
  match reopened with
  | none => none
  | some d =>
    if d.device ≠ device ∨ d.inode ≠ c.inode then some false
    else
      match d.size with
      | none => none
      | some (bytes, complete) =>
        if !complete || bytes != c.bytes then some false
        else if d.removable then some true
        else none

/-- What the removals of `prune_root` leave of the total, what they removed, and whether they ended without an error. -/
structure Pruned (Name : Type) where
  total : Nat
  removed : List (Candidate Name)
  returns : Bool

/-- The loop of `prune_root` over the candidates, the oldest first. -/
def removeOldest (policy : RetentionPolicy) (now : Nat) (remove : Candidate Name → Option Bool) :
    Nat → List (Candidate Name) → Pruned Name
  | total, [] => ⟨total, [], true⟩
  | total, c :: rest =>
    if now - c.recoveredAt < policy.maxAge ∧ total ≤ policy.maxBytes then ⟨total, [], true⟩
    else
      match remove c with
      | none => ⟨total, [], false⟩
      | some true =>
        let pruned := removeOldest policy now remove (total - c.bytes) rest
        ⟨pruned.total, c :: pruned.removed, pruned.returns⟩
      | some false => removeOldest policy now remove total rest

/-! ## The removals -/

/-- The bytes of some candidates. -/
def bytesOf (cs : List (Candidate Name)) : Nat := (cs.map (·.bytes)).sum

/-- The candidates that are removed when they are tried. -/
def gone (remove : Candidate Name → Option Bool) (cs : List (Candidate Name)) : List (Candidate Name) :=
  cs.filter fun c => remove c == some true

/-- What the loop does to candidates in order: it tries some of the first ones, each because it is too old or because
the directory is too large after the removals before it, and stops without an error only when no other is too old and
the directory is not too large. -/
structure Trial (policy : RetentionPolicy) (now : Nat) (remove : Candidate Name → Option Bool) (size : Nat)
    (tried untouched : List (Candidate Name)) (p : Pruned Name) : Prop where
  removed : p.removed = gone remove tried
  total : p.total = size - bytesOf p.removed
  needed : ∀ before c after, tried = before ++ c :: after → policy.maxAge ≤ now - c.recoveredAt ∨
    policy.maxBytes < size - bytesOf (gone remove before)
  stops : p.returns = true → untouched = [] ∨
    p.total ≤ policy.maxBytes ∧ ∀ c ∈ untouched, now - c.recoveredAt < policy.maxAge

variable {device now : Nat} {active : Option Name} {policy : RetentionPolicy}
  {remove : Candidate Name → Option Bool}
  {size : Nat} {c : Candidate Name}

theorem Trial.cons {tried untouched : List (Candidate Name)} {p : Pruned Name}
    (h : Trial policy now remove (size - bytesOf (gone remove [c])) tried untouched p)
    (hneeded : policy.maxAge ≤ now - c.recoveredAt ∨ policy.maxBytes < size) :
    Trial policy now remove size (c :: tried) untouched ⟨p.total, gone remove [c] ++ p.removed, p.returns⟩ := by
  have hsplit : ∀ cs, gone remove (c :: cs) = gone remove [c] ++ gone remove cs := fun cs =>
    List.filter_append [c] cs
  have hsub : ∀ cs, size - bytesOf (gone remove [c]) - bytesOf cs = size - bytesOf (gone remove [c] ++ cs) := fun cs => by
    unfold bytesOf
    rw [List.map_append, List.sum_append, Nat.sub_sub]
  refine ⟨by rw [hsplit tried, h.removed], by rw [← hsub, h.total], fun before d after hd => ?_, h.stops⟩
  cases before with
  | nil =>
    obtain ⟨rfl, -⟩ := List.cons.inj hd
    exact hneeded
  | cons b before =>
    obtain ⟨rfl, htried⟩ := List.cons.inj hd
    rw [hsplit, ← hsub]
    exact h.needed before d after htried

theorem trial_nil {untouched : List (Candidate Name)} {returns : Bool} (hstops : returns = true → untouched = [] ∨
    size ≤ policy.maxBytes ∧ ∀ c ∈ untouched, now - c.recoveredAt < policy.maxAge) :
    Trial policy now remove size [] untouched ⟨size, [], returns⟩ :=
  ⟨rfl, rfl, fun _ _ _ h => absurd h.symm (by simp), hstops⟩

theorem removeBundle_eq_true {reopened : Option Reopened} (h : removeBundle device c reopened = some true) :
    ∃ d, reopened = some d ∧ d.device = device ∧ d.inode = c.inode ∧ d.size = some (c.bytes, true) := by
  unfold removeBundle at h
  split at h
  · cases h
  · rename_i d
    by_cases hother : d.device ≠ device ∨ d.inode ≠ c.inode
    · simp [hother] at h
    · rw [if_neg hother] at h
      cases hsize : d.size with
      | none => simp [hsize] at h
      | some size =>
        obtain ⟨bytes, complete⟩ := size
        by_cases hbytes : bytes = c.bytes <;> cases complete <;> simp_all

/-! ## The scan -/

variable [LinearOrder Name]

instance : LinearOrder (Candidate Name) := LinearOrder.lift' Candidate.key Candidate.key_injective

theorem Candidate.recoveredAt_le {a b : Candidate Name} (h : a ≤ b) : a.recoveredAt ≤ b.recoveredAt :=
  Prod.Lex.monotone_fst _ _ (show a.key ≤ b.key from h)

/-- The entry is the directory of a bundle on the device. -/
def BundleEntry.isBundle (device : Nat) (e : BundleEntry Name) : Bool :=
  e.incident && e.directory && e.device == some device

/-- The bytes that the entry counts for. -/
def BundleEntry.counted (device : Nat) (e : BundleEntry Name) : Nat :=
  if e.isBundle device then (e.size.map Prod.fst).getD 0 else 0

/-- The candidate for removal that the entry is. -/
def BundleEntry.candidate (device : Nat) (active : Option Name) (now : Nat) (e : BundleEntry Name) :
    Option (Candidate Name) :=
  if e.isBundle device && active != some e.name then
    match e.size with
    | some (bytes, true) => (recoveryTime now e.record).map fun recoveredAt => ⟨recoveredAt, e.name, bytes, e.inode⟩
    | _ => none
  else none

/-- A `u64` sum that saturates. -/
def saturatingAdd (a b : Nat) : Nat := min (a + b) (2 ^ 64 - 1)

/-- One round of the scan of `prune_root`; `none` is an error of the file system. -/
def scanEntry (device : Nat) (active : Option Name) (now : Nat) (s : Nat × List (Candidate Name))
    (e : BundleEntry Name) : Option (Nat × List (Candidate Name)) :=
  if !e.incident || !e.directory then some s
  else
    match e.device with
    | none => none
    | some found =>
      if found ≠ device then some s
      else
        match e.size with
        | none => none
        | some (bytes, complete) =>
          let total := saturatingAdd s.1 bytes
          if !complete || active == some e.name then some (total, s.2)
          else
            match recoveryTime now e.record with
            | none => some (total, s.2)
            | some recoveredAt => some (total, offerSmallest maxBatch s.2 ⟨recoveredAt, e.name, bytes, e.inode⟩)

/-- `prune_root`, where `reopened` is what is found for a candidate; `none` is an error of the scan. -/
def pruneRoot (policy : RetentionPolicy) (device : Nat) (active : Option Name) (now : Nat)
    (entries : List (BundleEntry Name)) (reopened : Candidate Name → Option Reopened) : Option (Pruned Name) :=
  (entries.foldlM (scanEntry device active now) (0, [])).map fun scanned =>
    removeOldest policy now (fun c => removeBundle device c (reopened c)) scanned.1 scanned.2

theorem scanEntry_eq {s s' : Nat × List (Candidate Name)} {e : BundleEntry Name} (hs : s.1 < 2 ^ 64)
    (h : scanEntry device active now s e = some s') :
    s' = (saturatingAdd s.1 (e.counted device),
      (e.candidate device active now).toList.foldl (offerSmallest maxBatch) s.2) := by
  have hsame : saturatingAdd s.1 0 = s.1 := by unfold saturatingAdd; omega
  unfold scanEntry at h
  unfold BundleEntry.counted BundleEntry.candidate BundleEntry.isBundle
  split_ifs at h with hskipped
  · cases hi : e.incident <;> cases hd : e.directory <;> simp_all
  · split at h
    · cases h
    · split_ifs at h with hdevice
      · simp_all
      · split at h
        · cases h
        · rename_i bytes complete hsize
          cases hcomplete : complete <;> cases hactive : active == some e.name <;> simp_all
          split at h <;> simp_all

/-- A scan adds up the sizes and keeps the oldest candidates. -/
theorem scan_eq {entries : List (BundleEntry Name)} {s s' : Nat × List (Candidate Name)} (hs : s.1 < 2 ^ 64)
    (h : entries.foldlM (scanEntry device active now) s = some s') :
    s' = (min (s.1 + (entries.map (·.counted device)).sum) (2 ^ 64 - 1),
      (entries.filterMap (·.candidate device active now)).foldl (offerSmallest maxBatch) s.2) := by
  induction entries generalizing s with
  | nil =>
    obtain rfl := Option.some.inj h
    simp only [List.map_nil, List.sum_nil, List.filterMap_nil, List.foldl_nil]
    rw [show min (s.1 + 0) (2 ^ 64 - 1) = s.1 by omega]
  | cons e entries ih =>
    rw [List.foldlM_cons] at h
    obtain ⟨next, hnext, hrest⟩ := Option.bind_eq_some_iff.mp h
    obtain rfl := scanEntry_eq hs hnext
    rw [ih (by unfold saturatingAdd; omega) hrest, List.map_cons, List.sum_cons]
    congr 1
    · unfold saturatingAdd
      dsimp only
      omega
    · cases hcandidate : e.candidate device active now <;> simp [hcandidate]

theorem removeOldest_trial {cs : List (Candidate Name)} (hsorted : cs.Pairwise (· ≤ ·)) (size : Nat) :
    ∃ tried untouched, cs = tried ++ untouched ∧
      Trial policy now remove size tried untouched (removeOldest policy now remove size cs) := by
  induction cs generalizing size with
  | nil => exact ⟨[], [], rfl, trial_nil fun _ => .inl rfl⟩
  | cons c cs ih =>
    obtain ⟨hfirst, hcs⟩ := List.pairwise_cons.mp hsorted
    unfold removeOldest
    split_ifs with hdone
    · -- the first candidate is the oldest one
      refine ⟨[], c :: cs, rfl, trial_nil fun _ => .inr ⟨hdone.2, fun d hd => ?_⟩⟩
      rcases List.mem_cons.mp hd with rfl | hd
      · exact hdone.1
      · have hold := Candidate.recoveredAt_le (hfirst d hd)
        have hyoung := hdone.1
        omega
    · have hneeded : policy.maxAge ≤ now - c.recoveredAt ∨ policy.maxBytes < size := by omega
      cases hremove : remove c with
      | none =>
        have hfailed : Trial policy now remove (size - bytesOf (gone remove [c])) [] cs
            ⟨size - bytesOf (gone remove [c]), [], false⟩ := trial_nil fun h => absurd h Bool.false_ne_true
        have htrial := hfailed.cons hneeded
        simp only [gone, List.filter_singleton, hremove] at htrial
        exact ⟨[c], cs, rfl, htrial⟩
      | some removed =>
        obtain ⟨tried, untouched, rfl, htrial⟩ := ih hcs (size - bytesOf (gone remove [c]))
        refine ⟨c :: tried, untouched, rfl, ?_⟩
        have hcons := htrial.cons hneeded
        cases removed <;> simpa [gone, hremove, bytesOf] using hcons

/-- A call tries the candidates from the oldest on, each because it is too old or because the directory is too large at
that point. It removes what is still the complete bundle that was seen; an active bundle, an incomplete one and one that
has not recovered are no candidates. Without an error and while some of the oldest 128 are left, the directory is within
the limit and no candidate that was not tried is too old. -/
theorem prune_oldest_first (policy : RetentionPolicy) (device : Nat) (active : Option Name) (now : Nat)
    (entries : List (BundleEntry Name)) (reopened : Candidate Name → Option Reopened) {p : Pruned Name}
    (h : pruneRoot policy device active now entries reopened = some p) :
    let candidates := (entries.filterMap (·.candidate device active now)).insertionSort (· ≤ ·)
    ∃ tried untouched, candidates.take maxBatch = tried ++ untouched ∧
      Trial policy now (fun c => removeBundle device c (reopened c))
        (min (entries.map (·.counted device)).sum (2 ^ 64 - 1)) tried untouched p ∧
      (∀ c ∈ p.removed, (∃ e ∈ entries, e.candidate device active now = some c) ∧
        ∃ d, reopened c = some d ∧ d.device = device ∧ d.inode = c.inode ∧ d.size = some (c.bytes, true)) ∧
      (p.returns = true → untouched ≠ [] → p.total ≤ policy.maxBytes ∧
        ∀ c ∈ candidates, c ∉ tried → now - c.recoveredAt < policy.maxAge) := by
  intro candidates
  obtain ⟨scanned, hscan, rfl⟩ := Option.map_eq_some_iff.mp h
  obtain rfl := scan_eq (Nat.two_pow_pos 64) hscan
  have hsorted : candidates.Pairwise (· ≤ ·) := List.pairwise_insertionSort _ _
  obtain ⟨tried, untouched, hsplit, htrial⟩ :=
    removeOldest_trial (hsorted.sublist (List.take_sublist maxBatch candidates))
      (min (entries.map (·.counted device)).sum (2 ^ 64 - 1))
  dsimp only
  rw [foldl_offerSmallest, Nat.zero_add]
  refine ⟨tried, untouched, hsplit, htrial, fun c hc => ?_, fun hreturns hleft => ?_⟩
  · rw [htrial.removed, gone, List.mem_filter, beq_iff_eq] at hc
    have hmem : c ∈ candidates := List.mem_of_mem_take (hsplit ▸ List.mem_append_left _ hc.1)
    exact ⟨List.mem_filterMap.mp ((List.mem_insertionSort _).mp hmem), removeBundle_eq_true hc.2⟩
  · obtain ⟨hsize, hyoung⟩ := (htrial.stops hreturns).resolve_left hleft
    refine ⟨hsize, fun c hc hnot => ?_⟩
    rw [← List.take_append_drop maxBatch candidates, hsplit, List.append_assoc, List.mem_append, List.mem_append] at hc
    rcases hc with hc | hc | hc
    · exact absurd hc hnot
    · exact hyoung c hc
    · -- what is beyond the batch is younger than what is left of it
      obtain ⟨u, hu⟩ := List.exists_mem_of_ne_nil untouched hleft
      rw [← List.take_append_drop maxBatch candidates, hsplit] at hsorted
      have hle := Candidate.recoveredAt_le ((List.pairwise_append.mp hsorted).2.2 u (List.mem_append_right _ hu) c hc)
      have := hyoung u hu
      omega

/-- An entry of a bundle. -/
def bundle (name size recoveredAt inode : Nat) (complete : Bool) : BundleEntry Nat :=
  ⟨name, true, true, some 1, some (size, complete), some ⟨1, "recovered", 0, recoveredAt⟩, inode⟩

/-- Bundles in the order of a directory, of which the first is active and the third is incomplete. -/
def bundles : List (BundleEntry Nat) :=
  [bundle 10 7 1 20 true, bundle 11 7 5 21 true, bundle 12 7 1 22 false, bundle 13 7 3 23 true, bundle 14 7 2 24 true]

/-- Under a limit of 25 bytes the two oldest candidates are removed, and the third is left. -/
theorem prune_oldest_first_bundles :
    Trial ⟨100, 25⟩ 6 (fun c => removeBundle 1 c (some ⟨1, c.inode, some (7, true), true⟩)) 35
      [⟨2, 14, 7, 24⟩, ⟨3, 13, 7, 23⟩] [⟨5, 11, 7, 21⟩]
      (⟨21, [⟨2, 14, 7, 24⟩, ⟨3, 13, 7, 23⟩], true⟩ : Pruned Nat) := by
  obtain ⟨tried, untouched, hsplit, htrial, -⟩ := prune_oldest_first ⟨100, 25⟩ 1 (some 10) 6 bundles
    (fun c => some ⟨1, c.inode, some (7, true), true⟩) (p := ⟨21, [⟨2, 14, 7, 24⟩, ⟨3, 13, 7, 23⟩], true⟩) rfl
  have hcandidates : ((bundles.filterMap (·.candidate 1 (some 10) 6)).insertionSort (· ≤ ·)).take maxBatch =
      [⟨2, 14, 7, 24⟩, ⟨3, 13, 7, 23⟩, ⟨5, 11, 7, 21⟩] := rfl
  rw [hcandidates] at hsplit
  match tried, untouched, hsplit with
  | [], _, rfl => exact nomatch htrial.removed
  | [_], _, rfl => exact nomatch htrial.removed
  | [_, _], _, rfl => exact htrial
  | [_, _, _], _, rfl => exact nomatch htrial.removed

end VenusEvcharger.ForensicObserver
